import Kanban.Http.Tagged
import Kanban.Operation.Create
import Kanban.Operation.Delete
import Kanban.Record
import Kanban.Setting

/-!
# The board over HTTP

Reads of the board and of a column, and the four operations. A request that changes the board names a
column by its id or by its name, and the id wins. The ordering engine works with the distances of the
configuration.
-/

namespace Kanban.Http

/-! ## What requests say -/

def fieldsOf (content : Content) : Work Fields :=
  .ofExcept content.fields

def checked {α : Type} (r : Except InvalidInput α) : Work α :=
  .ofExcept (r.mapError .invalidInput)

def spacingOf (config : Config) : Work Spacing :=
  .ofExcept ((Spacing.ofConfig config none none).mapError .mismatch)

/-- The id of the column that a request names, or null when it names none. -/
def columnOf (fields : Fields) : Work Json :=
  match fields.get "columnId" with
  | .null =>
    let name := fields.get "columnName"
    if name.isGiven then do
      let column ← Store.columnNamed name
      pure (.int column.id)
    else pure .null
  | id => pure id

/-- Whether a request for a new task gives a title and names a column. -/
def isComplete (fields : Fields) : Bool :=
  (fields.get "title").isGiven &&
    (fields.get "columnId" ≠ .null || (fields.get "columnName").isGiven)

/-! ## Reads -/

def readBoard : Work Returned := .query fun b => .ok ⟨.value b.record, none⟩

def columnRecord (b : Board) (c : Column) : Json :=
  let ordered := b.order c.id
  .object
    [("column", c.record), ("tasks", .list (ordered.map Task.record)),
      ("orderingEtag", .text (EntityTag.ofOrdering c.id (ordered.map Task.entry)))]

/-- What a view returns when the ordering engine refuses. Other failures are not its own. -/
def refused (e : Failure) : Work Returned :=
  match Notice.ofFailure? e with
  | some notice =>
    pure ⟨.answer (.json 200 notice.toJson), some notice.kind.status⟩
  | none => .fail e

def readColumn (id : Int) : Work Returned := do
  match ← (Store.column id).attempt with
  | .ok column => .query fun b => .ok ⟨.value (columnRecord b column), none⟩
  | .error e => refused e

/-! ## Changes -/

def createTask (config : Config) (code : String) (content : Content) : Work Answer := do
  let fields ← fieldsOf content
  if isComplete fields then
    -- the name of a column is looked up before the other arguments are checked
    let column ← columnOf fields
    let spacing ← spacingOf config
    let r ← checked
      (Operation.NewTask.ofArguments column (fields.get "title") (fields.get "description")
        (fields.get "priority") (fields.get "assignedTo") (fields.get "tags"))
    let t ← Operation.create spacing code r
    pure (.json 201 t.record)
  else .fail (.invalidInput .newTaskIncomplete)

/-- The side of the reference task in a request: before it, unless something else is said. -/
def sideOf (fields : Fields) : Json :=
  match fields.get "insertAfter" with
  | .null => .bool false
  | side => side

def moveTask (config : Config) (task : Int) (content : Content) : Work Answer := do
  let fields ← fieldsOf content
  let column ← columnOf fields
  let spacing ← spacingOf config
  let r ← checked
    (Operation.MoveRequest.ofArguments (.int task) column (fields.get "targetTaskId")
      (sideOf fields) (fields.get "position"))
  let moved ← Operation.move spacing r
  pure (.json 200 moved.record)

def placeTasks (config : Config) (content : Content) : Work Answer := do
  let fields ← fieldsOf content
  let spacing ← spacingOf config
  let r ← checked
    (Operation.BatchRequest.ofArguments (fields.get "columnId") (fields.get "taskPositions"))
  let placed ← Operation.batch spacing r
  pure (.json 200 placed.record)

def deleteTask (config : Config) (task : Int) : Work Answer := do
  -- the distances are not used, but they must be readable
  let _ ← spacingOf config
  Operation.delete task
  pure (.json 200 (.object [("success", .bool true)]))

end Kanban.Http
