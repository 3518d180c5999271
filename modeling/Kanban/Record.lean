import Kanban.Board.Order
import Kanban.Operation.Batch
import Kanban.Operation.Move

/-!
# Records

What a client gets to see of columns and tasks, and of the outcome of an operation.
-/

namespace Kanban

def Column.record (c : Column) : Json :=
  .object
    [("id", .int c.id), ("name", .text c.name), ("displayName", .text c.displayName),
      ("color", c.color.elim .null .text), ("position", c.ordinal.toJson)]

def Task.fields (t : Task) : Fields :=
  [("id", .int t.id), ("taskCode", .text t.card.code), ("columnId", .int t.column),
    ("title", .text t.card.title), ("description", .text t.card.description),
    ("priority", .text t.card.priority), ("assignedTo", t.card.assignee.elim .null .text),
    ("tags", .list t.card.tags), ("position", .int t.position),
    ("createdAt", .text t.createdAt.iso), ("updatedAt", .text t.updatedAt.iso)]

def Task.record (t : Task) : Json := .object t.fields

def Operation.Moved.record (m : Operation.Moved) : Json :=
  .object (m.task.fields ++ [("rebalanced", .bool m.rebalanced)])

def Operation.Placed.record (p : Operation.Placed) : Json :=
  .object
    [("success", .bool true), ("rebalanced", .bool p.rebalanced),
      ("updatedTaskIds", .list (p.tasks.map .int))]

def Column.label (c : Column) : String :=
  "<KanbanColumn " ++ toString c.id ++ ": " ++ c.name ++ ">"

def Task.label (t : Task) : String :=
  "<KanbanTask " ++ toString t.id ++ ": " ++ t.card.title ++ " @" ++ toString t.position ++ ">"

/-! ## Reads -/

/-- The whole board: the columns in order, and the tasks of each under its name. -/
def Board.record (b : Board) : Json :=
  .object
    [("columns", .list (b.orderedColumns.map Column.record)),
      ("tasks",
        .object (b.orderedColumns.map fun c =>
          (c.name, .list ((b.order c.id).map Task.record))))]

end Kanban
