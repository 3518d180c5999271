import Kanban.Json
import Kanban.Double.Shortest
import Kanban.Text.Quoted

/-!
# Values in messages

How a value of a setting is shown in a message: null and the truth values are capitalized words, a
text stands between quotation marks, and fields are listed in written order.
-/

namespace Kanban.Json

def commaSeparated (pieces : List String) : String := String.intercalate ", " pieces

mutual

def shown : Json → String
  | .null => "None"
  | .bool true => "True"
  | .bool false => "False"
  | .int n => toString n
  | .float x => String.ofList (x.text Double.plainLayout)
  | .text s => Text.quoted s
  | .illFormed points => Text.quotedPoints points
  | .list items => "[" ++ commaSeparated (shownItems items) ++ "]"
  | .object fields => "\x7b" ++ commaSeparated (shownFields fields) ++ "\x7d"

def shownItems : List Json → List String
  | [] => []
  | j :: rest => j.shown :: shownItems rest

def shownFields : List (String × Json) → List String
  | [] => []
  | (name, j) :: rest => (Text.quoted name ++ ": " ++ j.shown) :: shownFields rest

end

/-- A value within a sentence: a text without marks, and any other value as it is shown. -/
def plain : Json → String
  | .text s => s
  | .illFormed points => Text.ofPoints points
  | j => j.shown

end Kanban.Json
