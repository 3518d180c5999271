import Kanban.Board.Edit
import Kanban.Board.Order
import Kanban.Json
import Kanban.Position
import Kanban.Stored
import Kanban.Work

/-!
# The store

What can be asked of the stored board, and how it is changed. An id that is looked for must fit a
stored integer, and so must every position that changes.
-/

namespace Kanban.Store

/-! ## Columns -/

def columnIn (id : Int) (b : Board) : Except Failure Column := do
  let id ← Stored.integer id
  match b.column? id with
  | some c => .ok c
  | none => .error (.columnNotFound (.int id))

/-- The column with the given id. It is looked up by its key alone, which works without a query. -/
def column (id : Int) : Work Column := .read (columnIn id)

/-- The column with the given id, which nobody else may change until the unit of work ends. -/
def lockColumn (id : Int) : Work Column := .query (columnIn id)

/-- The tasks of a column that must exist, in order. They come with the column. -/
def columnTasks (id : Int) : Work (List Task) :=
  .read fun b => (columnIn id b).map fun c => b.order c.id

/-- The column with the given name. A name is looked for as it would be stored. -/
def columnNamed (name : Json) : Work Column :=
  .query fun b => do
    match (← Stored.text? name).bind b.columnNamed? with
    | some c => .ok c
    | none => .error (.columnNotFound name)

def columns : Work (List Column) := .query fun b => .ok b.orderedColumns

/-! ## Tasks -/

def task? (id : Int) : Work (Option Task) :=
  .query fun b => (Stored.integer id).map b.task?

def task (id : Int) : Work Task := do
  match ← task? id with
  | some t => pure t
  | none => .fail (.taskNotFound id)

def order (column : Int) : Work (List Task) :=
  .query fun b => (Stored.integer column).map b.order

def orderWithout (column task : Int) : Work (List Task) :=
  .query fun b => do
    let column ← Stored.integer column
    let task ← Stored.integer task
    .ok (b.orderWithout column task)

def largestPosition? (column : Int) : Work (Option Int) :=
  .query fun b => (Stored.integer column).map fun c => (b.positions c).max?

/-- What is to be written on a new task. The title and the description are strings, and the priority
and the assignee become texts when they are stored. -/
structure Draft where
  code : String
  title : Json
  description : Json
  priority : Json
  assignee : Json
  tags : List Json
deriving DecidableEq, Repr

/-- A card is put on the board as a new task, unless another task has its code. -/
def insertTask (card : Card) (column position : Int) (now : Timestamp) (b : Board) :
    Except Failure (Task × Board) :=
  if h : card.code ∈ b.tasks.map Task.code then .error (.database .constraint)
  else .ok (b.newTask card column position now, b.addTask card column position now h)

def addTask (draft : Draft) (column position : Int) : Work Task :=
  .flush fun now b => do
    let column ← Stored.integer column
    let title ← Stored.text? draft.title
    let description ← Stored.text? draft.description
    let priority ← Stored.text? draft.priority
    let assignee ← Stored.text? draft.assignee
    let position ← Stored.integer position
    -- the row is filled before it is noticed that a field is empty or taken that must not be
    match title, priority with
    | some title, some priority =>
      insertTask ⟨draft.code, title, description.getD "", priority, assignee, draft.tags⟩ column
        position now b
    | _, _ => .error (.database .constraint)

def removeTask (id : Int) : Work Unit := .flush fun _ b => .ok ((), b.removeTask id)

/-! ## Positions -/

/-- What changes when a task is put into a column at a position fits its fields. -/
def Storable (t : Task) (column position : Int) : Prop :=
  (t.column = column ∨ Stored.Fits column) ∧ (t.position = position ∨ Stored.Fits position)

instance (t : Task) (column position : Int) : Decidable (Storable t column position) :=
  inferInstanceAs (Decidable (_ ∧ _))

def writePosition (id column position : Int) : Work Task :=
  .flush fun now b =>
    match b.task? id with
    | none => .error (.taskNotFound id)
    | some t =>
      if Storable t column position then
        .ok (t.put column position now, b.putTask id column position now)
      else .error .integerOverflow

def firstMissing? (b : Board) (column : Int) (targets : List (Int × Int)) : Option Int :=
  (targets.map Prod.fst).find? fun id => !b.tasks.any fun t => t.column = column && t.id = id

/-- The changes that a list of targets makes fit their fields. -/
def AllStorable (b : Board) (targets : List (Int × Int)) : Prop :=
  ∀ t ∈ b.tasks, ∀ position ∈ targets.lookup t.id, Storable t t.column position

instance (b : Board) (targets : List (Int × Int)) : Decidable (AllStorable b targets) :=
  inferInstanceAs (Decidable (∀ t ∈ b.tasks, ∀ position ∈ targets.lookup t.id, _))

/-- Tasks of one column are put at their targets, all of them or none. No two targets name the same
task. The result lists the tasks that were named. -/
def writePositions (column : Int) (targets : List (Int × Int)) : Work (List Int) := do
  if targets.isEmpty then pure []
  else
    Work.query fun b => do
      let column ← Stored.integer column
      -- an id that fits no key is refused before any task is looked for
      let _ ← (targets.map Prod.fst).mapM Stored.integer
      match firstMissing? b column targets with
      | some id => .error (.taskNotFound id)
      | none => .ok ()
    Work.flush fun now b =>
      if AllStorable b targets then .ok (targets.map Prod.fst, b.reposition targets now)
      else .error .integerOverflow

/-! ## Renumbering -/

/-- The tasks of a column that do not stand at the multiples of the gap, each with its multiple. -/
def misplaced (ordered : List Task) (gap : Int) : List (Int × Int) :=
  (ordered.zipIdx.filter fun (t, i) => t.position ≠ basePosition + i * gap).map
    fun (t, i) => (t.id, basePosition + i * gap)

/-- A column is renumbered to the multiples of the gap in its order. The result is the number of
tasks that were moved. -/
def rebalance (column gap : Int) : Work Nat := do
  let targets := misplaced (← order column) gap
  let _ ← writePositions column targets
  pure targets.length

end Kanban.Store
