import Kanban.Operation.Request
import Kanban.Position
import Kanban.Spacing
import Kanban.Store

/-!
# Creating a task

A new task goes to the end of its column: one gap beyond the largest position, or at the base
position of an empty column. No other task is touched.
-/

namespace Kanban.Operation

def defaultPriority : Json := .text "medium"

def creation (spacing : Spacing) (code : String) (r : NewTask) : Work Task := do
  let _ ← Store.lockColumn r.column
  let ordered ← Store.order r.column
  let position := Position.atEnd (ordered.map Task.entry) spacing.gap
  let description ← .ofExcept r.descriptionText
  let tags ← .ofExcept r.tagList
  let priority := if r.priority.isGiven then r.priority else defaultPriority
  Store.addTask ⟨code, r.title, description, priority, r.assignee, tags⟩ r.column position

def create (spacing : Spacing) (code : String) (r : NewTask) : Work Task :=
  .transaction (creation spacing code r)

end Kanban.Operation
