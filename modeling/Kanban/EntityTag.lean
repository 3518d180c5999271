import Kanban.Digest
import Kanban.Json.Canonical

/-!
# Entity tags

The tag of an answer is the digest of its body's canonical text between double quotes, so it depends
on the body alone and not on the order of object fields.
-/

namespace Kanban.EntityTag

def ofJson (j : Json) : String := String.ofList ('"' :: (Digest.md5Text j.canonical ++ ['"']))

/-- The value that stands for the order of a column: its id, and each task with its position. -/
def orderingJson (column : Int) (ordered : List (Int × Int)) : Json :=
  .object
    [("column_id", .int column),
      ("order", .list (ordered.map fun (task, position) => .list [.int task, .int position]))]

def ofOrdering (column : Int) (ordered : List (Int × Int)) : String :=
  ofJson (orderingJson column ordered)

end Kanban.EntityTag
