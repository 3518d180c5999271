import Kanban.Operation.Request
import Kanban.Store

/-!
# Deleting a task

A task is taken from the board. The order of the remaining tasks needs no change.
-/

namespace Kanban.Operation

def deletion (task : Int) : Work Unit := do
  let t ← Store.task task
  Store.removeTask t.id

def delete (task : Int) : Work Unit := .transaction (deletion task)

end Kanban.Operation
