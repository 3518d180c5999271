import Kanban.Board
import Kanban.Stored

/-!
# Tables

The database as a migration sees it: a table that says which revision it is at, and the tables of
columns and tasks, whose rows are listed in the order of their ids. A row can be put into a table by
giving some of its fields; the others get their defaults. The names of tables and fields are written in
any case, and the id of a row has further names in every table.
-/

namespace Kanban.Migration

/-! ## Rows -/

structure ColumnRow where
  column : Column
  createdAt : Option Scalar
deriving DecidableEq, Repr

structure TaskRow where
  id : Int
  code : String
  column : Scalar
  title : String
  description : Option String
  priority : Option String
  assignee : Option String
  tags : Option Scalar
  position : Scalar
  createdAt : Option Scalar
  updatedAt : Option Scalar
deriving DecidableEq, Repr

def textCell (s : Option String) : Json := s.elim .null .text

def numberCell (s : Option Scalar) : Json := s.elim .null Scalar.toJson

def ColumnRow.cells (r : ColumnRow) : Fields :=
  [("id", .int r.column.id), ("name", .text r.column.name),
    ("display_name", .text r.column.displayName), ("color", textCell r.column.color),
    ("position", r.column.ordinal.toJson), ("created_at", numberCell r.createdAt)]

def TaskRow.cells (r : TaskRow) : Fields :=
  [("id", .int r.id), ("task_code", .text r.code), ("column_id", r.column.toJson),
    ("title", .text r.title), ("description", textCell r.description),
    ("priority", textCell r.priority), ("assigned_to", textCell r.assignee),
    ("tags", numberCell r.tags), ("position", r.position.toJson),
    ("created_at", numberCell r.createdAt), ("updated_at", numberCell r.updatedAt)]

def columnCells (rows : List ColumnRow) : List Fields :=
  (rows.mergeSort fun r s => r.column.id ≤ s.column.id).map ColumnRow.cells

def taskCells (rows : List TaskRow) : List Fields :=
  (rows.mergeSort fun r s => r.id ≤ s.id).map TaskRow.cells

/-- The rows of the table that says which revision the database is at, as they are listed. -/
def versionCells (names : List String) : List Fields :=
  (names.mergeSort fun a b => decide (a ≤ b)).map fun name => [("version_num", .text name)]

/-! ## The shape of tables -/

structure Index where
  name : String
  fields : List String
  unique : Bool
deriving DecidableEq, Repr

/-- The shape of a table: its name, its fields in order, and its indexes by name. -/
structure Shape where
  name : String
  fields : List String
  indexes : List Index
deriving DecidableEq, Repr

/-- The table that says which revision the database is at. -/
def versionShape : Shape := ⟨"alembic_version", ["version_num"], []⟩

def columnsShape : Shape where
  name := "kanban_columns"
  fields := ["id", "name", "display_name", "color", "position", "created_at"]
  indexes := [⟨"ix_kanban_columns_name", ["name"], true⟩]

def tasksShape : Shape where
  name := "kanban_tasks"
  fields :=
    ["id", "task_code", "column_id", "title", "description", "priority", "assigned_to", "tags",
      "position", "created_at", "updated_at"]
  indexes :=
    [⟨"ix_kanban_tasks_column_id", ["column_id"], false⟩,
      ⟨"ix_kanban_tasks_column_position", ["column_id", "position"], false⟩]

/-! ## Values of a new row -/

/-- Other names of the id of a row. -/
def idNames : List String := ["oid", "rowid", "_rowid_"]

def Shape.field? (shape : Shape) (name : String) : Option String :=
  let lower := name.toLower
  if shape.fields.contains lower then some lower
  else if idNames.contains lower then some "id"
  else none

/-- The values of some fields of a row, as they are handed to the database. -/
abbrev Values := List (String × Option Scalar)

/-- The fields that are named in a row that is put into a table of a shape. There is at least one, and
the table has them all. -/
def namedFields (shape : Shape) (row : Fields) : Except Failure Fields :=
  match row.mapM fun (name, value) => (shape.field? name).map fun field => (field, value) with
  | some (field :: fields) => .ok (field :: fields)
  | _ => .error (.database .missing)

/-- The values of a row that is put into a table of a shape. -/
def valuesOf (shape : Shape) (row : Fields) : Except Failure Values := do
  let fields ← namedFields shape row
  fields.mapM fun (field, value) => (Stored.bound? value).map fun v => (field, v)

namespace Values

/-- The value of a field, or a default when the field is not given. The first value of a field
counts. -/
def getD (values : Values) (field : String) (default : Option Scalar) : Option Scalar :=
  (values.lookup field).getD default

/-- The content of a text field. -/
def text (values : Values) (field : String) (default : Option String) : Option String :=
  (values.getD field (default.map .text)).map Stored.textual

/-- The content of a field of numbers. -/
def number (values : Values) (field : String) (default : Option Scalar) : Option Scalar :=
  (values.getD field default).map Stored.numeric

/-- The given id. The last one counts. -/
def id (values : Values) : Option Scalar := number values.reverse "id" none

end Values

def required {α : Type} : Option α → Except Failure α
  | some a => .ok a
  | none => .error (.database .constraint)

/-- The id of a new row: the given one, which must be an integer that is not in use, or the next
one. -/
def newId (ids : List Int) (given : Option Scalar) : Except Failure Int :=
  match given with
  | none => .ok (nextId ids)
  | some (.integer n) => if n ∈ ids then .error (.database .constraint) else .ok n
  | some _ => .error (.database .constraint)

/-- A key of a new row, which must not be in use. -/
def fresh (keys : List String) (key : String) : Except Failure String :=
  if key ∈ keys then .error (.database .constraint) else .ok key

/-! ## New rows -/

def columnRow (rows : List ColumnRow) (now : Timestamp) (row : Fields) :
    Except Failure ColumnRow := do
  let values ← valuesOf columnsShape row
  let name ← required (values.text "name" none)
  let displayName ← required (values.text "display_name" none)
  let ordinal ← required (values.number "position" (some (.integer 0)))
  let id ← newId (rows.map fun r => r.column.id) values.id
  let name ← fresh (rows.map fun r => r.column.name) name
  .ok
    ⟨⟨id, name, displayName, values.text "color" none, ordinal⟩,
      values.number "created_at" (some (.text now.stored))⟩

def taskRow (rows : List TaskRow) (now : Timestamp) (row : Fields) : Except Failure TaskRow := do
  let values ← valuesOf tasksShape row
  let code ← required (values.text "task_code" none)
  let column ← required (values.number "column_id" none)
  let title ← required (values.text "title" none)
  let position ← required (values.number "position" (some (.integer 0)))
  let id ← newId (rows.map TaskRow.id) values.id
  let code ← fresh (rows.map TaskRow.code) code
  .ok
    { id, code, column, title, position
      description := values.text "description" none
      priority := values.text "priority" (some "medium")
      assignee := values.text "assigned_to" none
      tags := values.number "tags" none
      createdAt := values.number "created_at" (some (.text now.stored))
      updatedAt := values.number "updated_at" (some (.text now.stored)) }

/-- A row of the table that says which revision the database is at: the name of a revision, which is
not there yet. -/
def versionRow (names : List String) (row : Fields) : Except Failure String := do
  let values ← valuesOf versionShape row
  let name ← required (values.text "version_num" none)
  let _ ← newId [] values.id
  fresh names name

end Kanban.Migration
