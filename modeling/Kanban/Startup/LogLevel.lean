import Kanban.Text.Capital
import Kanban.Text.Quoted

/-!
# Log levels

A log level is named by a word in any case. A word that names none stands for the level of ordinary
messages, with two exceptions: the layout of messages and the table of all layouts are found under
the same names, and they are then refused because they are no levels.
-/

namespace Kanban.LogLevel

def info : Nat := 20

def named : List (String × Nat) :=
  [("CRITICAL", 50), ("FATAL", 50), ("ERROR", 40), ("WARNING", 30), ("WARN", 30), ("INFO", info),
    ("DEBUG", 10), ("NOTSET", 0)]

inductive Defect where
  /-- The layout of messages. -/
  | layout
  /-- The table of all layouts. -/
  | layouts
deriving DecidableEq, Repr

/-- The names under which there is no level. -/
def refused : List (String × Defect) := [("BASIC_FORMAT", .layout), ("_STYLES", .layouts)]

def layoutText : String := "%(levelname)s:%(name)s:%(message)s"

/-- The table of all layouts as a message shows it: their marks, their kinds and their texts. -/
def layoutTable : String :=
  "\x7b'%': (<class 'logging.PercentStyle'>, " ++ Text.quoted layoutText ++
    "), '\x7b': (<class 'logging.StrFormatStyle'>, " ++
    "'\x7blevelname\x7d:\x7bname\x7d:\x7bmessage\x7d'" ++
    "), '$': (<class 'logging.StringTemplateStyle'>, " ++
    "'$\x7blevelname\x7d:$\x7bname\x7d:$\x7bmessage\x7d')\x7d"

def Defect.message : Defect → String
  | .layout => "Unknown level: " ++ Text.quoted layoutText
  | .layouts => "Level not an integer or a valid string: " ++ layoutTable

def ofName (name : Option String) : Except Defect Nat :=
  match name with
  | none => .ok info
  | some s =>
    let name := Text.capitals s
    match refused.lookup name with
    | some defect => .error defect
    | none => .ok ((named.lookup name).getD info)

end Kanban.LogLevel
