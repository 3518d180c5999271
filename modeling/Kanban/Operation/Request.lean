import Kanban.Failure
import Kanban.Stored

/-!
# Requests

The arguments of the four operations, checked. A request is accepted or refused by its arguments
alone: no board is looked at, and the first bad argument decides the refusal.
-/

namespace Kanban.Operation

/-! ## Single arguments -/

def integerArgument (field : Field) : Json → Except InvalidInput Int
  | .int n => .ok n
  | value => .error (.notInteger field value)

def integerArgument? (field : Field) : Json → Except InvalidInput (Option Int)
  | .null => .ok none
  | value => (integerArgument field value).map some

/-- A position, which must fit the stored field. -/
def positionArgument (value : Json) : Except InvalidInput Int := do
  let position ← integerArgument .position value
  if Stored.Fits position then .ok position else .error (.positionOutOfRange position)

def positionArgument? : Json → Except InvalidInput (Option Int)
  | .null => .ok none
  | value => (positionArgument value).map some

def sideArgument : Json → Except InvalidInput Bool
  | .bool after => .ok after
  | value => .error (.sideNotBoolean value)

def titleArgument : Json → Except InvalidInput Json
  | .text s => if Text.isBlankText s then .error .titleMissing else .ok (.text (Text.trim s))
  | .illFormed points => .ok (.illFormed (Text.strip Text.isBlankPoint points))
  | _ => .error .titleMissing

/-! ## Creating a task -/

/-- A request for a new task at the end of a column. The title is a string without blanks around it,
and whatever else is written on the task is looked at only when it is stored. -/
structure NewTask where
  column : Int
  title : Json
  description : Json
  priority : Json
  assignee : Json
  tags : Json
deriving DecidableEq, Repr

def NewTask.ofArguments (column title description priority assignee tags : Json) :
    Except InvalidInput NewTask := do
  let column ← integerArgument .columnId column
  let title ← titleArgument title
  .ok ⟨column, title, description, priority, assignee, tags⟩

/-- The description of a new task: a string without the blanks around it, and the empty one when none
is given. -/
def NewTask.descriptionText (r : NewTask) : Except Failure Json :=
  match r.description with
  | .text s => .ok (.text (Text.trim s))
  | .illFormed points => .ok (.illFormed (Text.strip Text.isBlankPoint points))
  | value => if value.isGiven then .error (.mismatch (.notText value "strip")) else .ok (.text "")

/-- The tags of a new task: the items of a list, the characters of a string, or the names of the
fields of an object. -/
def NewTask.tagList (r : NewTask) : Except Failure (List Json) :=
  match r.tags with
  | .list items => .ok items
  | .text s => .ok (s.toList.map fun c => .text (String.singleton c))
  | .illFormed points => .ok (points.map fun p => .ofPoints [p])
  | .object fields => .ok (fields.map fun (name, _) => .text name)
  | value => if value.isGiven then .error (.mismatch (.notIterable value)) else .ok []

/-! ## Moving a task -/

structure MoveRequest where
  task : Int
  /-- The destination, if it is named. -/
  column : Option Int
  /-- The task to stand next to, if there is one. -/
  reference : Option Int
  /-- The side of the reference task. -/
  after : Bool
  /-- The position to take when there is no reference task in the destination. -/
  position : Option Int
deriving DecidableEq, Repr

def MoveRequest.ofArguments (task column reference after position : Json) :
    Except InvalidInput MoveRequest := do
  let task ← integerArgument .taskId task
  let column ← integerArgument? .columnId column
  let reference ← integerArgument? .targetTaskId reference
  if reference = some task then .error .selfReference
  else
    let position ← positionArgument? position
    let after ← sideArgument after
    .ok ⟨task, column, reference, after, position⟩

/-! ## Placing a batch of tasks -/

/-- A request to put tasks of one column at new positions. -/
structure BatchRequest where
  column : Int
  /-- The tasks with their new positions, in the order in which they were listed. -/
  targets : List (Int × Int)
deriving DecidableEq, Repr

/-- A task and its new position. The task is named by the first spelling of its field that is
there. -/
def targetArgument : Json → Except InvalidInput (Int × Int)
  | .object fields => do
    let id := (Fields.get? fields "taskId").getD (Fields.get fields "task_id")
    let task ← integerArgument .taskId id
    let position ← positionArgument (Fields.get fields "position")
    .ok (task, position)
  | _ => .error .entryNotObject

/-- The targets of a batch, when the given tasks have been listed already. -/
def targetArguments (listed : List Int) : List Json → Except InvalidInput (List (Int × Int))
  | [] => .ok []
  | entry :: rest => do
    let target ← targetArgument entry
    if target.1 ∈ listed then .error (.repeatedTask target.1)
    else
      let others ← targetArguments (target.1 :: listed) rest
      .ok (target :: others)

def BatchRequest.ofArguments (column positions : Json) : Except InvalidInput BatchRequest :=
  match column with
  | .null => .error .positionsMissing
  | column => do
    let column ← integerArgument .columnId column
    match positions with
    | .list (entry :: rest) => do
      let targets ← targetArguments [] (entry :: rest)
      .ok ⟨column, targets⟩
    | _ => .error .positionsMissing

end Kanban.Operation
