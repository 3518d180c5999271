import Kanban.Scalar
import Kanban.Timestamp

/-!
# Boards

A board has columns, and tasks that stand in them. No two columns share an id or a name, and no two
tasks share an id or a code; every board carries the proof of that. The id of a new row is one more
than the largest id in use, and the first row of an empty table gets the id 1.
-/

namespace Kanban

structure Column where
  id : Int
  name : String
  displayName : String
  color : Option String
  /-- Where the column stands among the columns. -/
  ordinal : Scalar
deriving DecidableEq, Repr

/-- What is said about a column before it has an id. -/
structure ColumnSpec where
  name : String
  displayName : String
  color : Option String
  ordinal : Scalar
deriving DecidableEq, Repr

def ColumnSpec.column (spec : ColumnSpec) (id : Int) : Column :=
  ⟨id, spec.name, spec.displayName, spec.color, spec.ordinal⟩

/-- What is written on a task. Ordering does not look at it. -/
structure Card where
  /-- The short identifier that people use. -/
  code : String
  title : String
  description : String
  priority : String
  assignee : Option String
  tags : List Json
deriving DecidableEq, Repr

structure Task where
  id : Int
  card : Card
  /-- The id of the column that the task stands in. -/
  column : Int
  position : Int
  createdAt : Timestamp
  updatedAt : Timestamp
deriving DecidableEq, Repr

namespace Task

def code (t : Task) : String := t.card.code

/-- A task put into a column at a position. A task that is there already stays as it is, and any
other is marked as updated now. -/
def put (t : Task) (column position : Int) (now : Timestamp) : Task :=
  if t.column = column ∧ t.position = position then t
  else { t with column := column, position := position, updatedAt := now }

@[simp] theorem put_id (t : Task) (column position : Int) (now : Timestamp) :
    (t.put column position now).id = t.id := by
  unfold put
  split <;> rfl

@[simp] theorem put_card (t : Task) (column position : Int) (now : Timestamp) :
    (t.put column position now).card = t.card := by
  unfold put
  split <;> rfl

@[simp] theorem put_code (t : Task) (column position : Int) (now : Timestamp) :
    (t.put column position now).code = t.code := by
  rw [code, put_card, code]

@[simp] theorem put_column (t : Task) (column position : Int) (now : Timestamp) :
    (t.put column position now).column = column := by
  unfold put
  split
  · rename_i h; exact h.1
  · rfl

@[simp] theorem put_position (t : Task) (column position : Int) (now : Timestamp) :
    (t.put column position now).position = position := by
  unfold put
  split
  · rename_i h; exact h.2
  · rfl

end Task

/-- A board: its columns and its tasks. -/
@[ext] structure Board where
  columns : List Column
  tasks : List Task
  columnIds_nodup : (columns.map Column.id).Nodup
  columnNames_nodup : (columns.map Column.name).Nodup
  taskIds_nodup : (tasks.map Task.id).Nodup
  taskCodes_nodup : (tasks.map Task.code).Nodup

namespace Board

def empty : Board where
  columns := []
  tasks := []
  columnIds_nodup := by simp
  columnNames_nodup := by simp
  taskIds_nodup := by simp
  taskCodes_nodup := by simp

def column? (b : Board) (id : Int) : Option Column := b.columns.find? fun c => c.id = id

def columnNamed? (b : Board) (name : String) : Option Column :=
  b.columns.find? fun c => c.name = name

def task? (b : Board) (id : Int) : Option Task := b.tasks.find? fun t => t.id = id

end Board

/-! ## New ids -/

/-- The id of the next row of a table with the given ids. -/
def nextId (ids : List Int) : Int :=
  match ids.max? with
  | none => 1
  | some largest => largest + 1

/-- The id of a new row is in use by no other row, even when all ids are negative. -/
theorem nextId_not_mem (ids : List Int) : nextId ids ∉ ids := by
  intro h
  unfold nextId at h
  split at h
  · next hm => simp_all
  · next m hm =>
    have := (List.max?_eq_some_iff.mp hm).2 _ h
    omega

end Kanban
