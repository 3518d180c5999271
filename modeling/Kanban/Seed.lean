import Kanban.Board.Edit
import Kanban.Stored
import Kanban.Work

/-!
# Seeding columns

Columns are added to a board from a list of descriptions. A description whose name is taken is
skipped, whatever else it says. The names that are taken are read once, before the first column is
added, so two descriptions of the same new name break the uniqueness of names, and then nothing is
added at all.
-/

namespace Kanban.Seed

def defaultColumns : List ColumnSpec :=
  [⟨"backlog", "Backlog", some "#6b7280", .integer 0⟩,
    ⟨"todo", "To Do", some "#3b82f6", .integer 1⟩,
    ⟨"inProgress", "In Progress", some "#f59e0b", .integer 2⟩,
    ⟨"review", "Review", some "#8b5cf6", .integer 3⟩,
    ⟨"done", "Done", some "#10b981", .integer 4⟩]

def fieldsOf (spec : ColumnSpec) : Fields :=
  [("name", .text spec.name), ("display_name", .text spec.displayName),
    ("color", spec.color.elim .null .text), ("position", spec.ordinal.toJson)]

/-! ## What descriptions say -/

def knownFields : List String :=
  ["id", "name", "display_name", "color", "position", "created_at", "tasks"]

/-- Names that a description may have a field of, which says nothing about the column. -/
def idleFields : List String :=
  ["metadata", "registry", "query", "query_class", "to_dict", "__tablename__", "__table__",
    "__mapper__", "__doc__", "__module__"]

/-- The tasks of a described column are a list, and a new column has none. -/
def checkTasks : Json → Except Mismatch Unit
  | .list items =>
    match items.find? (· ≠ .null) with
    | some item => .error (.notATask item)
    | none => .ok ()
  | value => .error (.notAList value)

def checkField (field : String × Json) : Except Mismatch Unit :=
  if field.1 = "tasks" then checkTasks field.2
  else if knownFields.contains field.1 || idleFields.contains field.1 then .ok ()
  else .error (.unknownField field.1)

/-- Whether a name is among the names that are taken. Only a text is, and a value with parts cannot
be looked up. -/
def isTaken (taken : List String) : Json → Except Failure Bool
  | .text name => .ok (taken.contains name)
  | value@(.list _) | value@(.object _) => .error (.mismatch (.notAName value))
  | .null | .bool _ | .int _ | .float _ | .illFormed _ => .ok false

/-- The descriptions of columns that do not exist yet, each with its name. -/
def missing (taken : List String) : List Fields → Except Failure (List (Json × Fields))
  | [] => .ok []
  | fields :: rest =>
    match Fields.get? fields "name" with
    | none => .error (.mismatch .nameMissing)
    | some name => do
      -- what else is said about a column that exists is not looked at
      if ← isTaken taken name then missing taken rest
      else
        (fields.forM checkField).mapError .mismatch
        let others ← missing taken rest
        .ok ((name, fields) :: others)

/-- An id is no value with parts, which could not be looked up. -/
def checkId (fields : Fields) : Except Failure Unit :=
  match fields.get "id" with
  | value@(.list _) | value@(.object _) => .error (.mismatch (.notAName value))
  | _ => .ok ()

/-! ## Rows -/

/-- A row of the table of columns as it is sent, perhaps with empty fields. -/
structure Row where
  id : Option Scalar
  name : Option String
  displayName : Option String
  color : Option String
  ordinal : Option Scalar
deriving DecidableEq, Repr

/-- The place of a column among the columns. It is the first one when none is given. -/
def place : Json → Except Failure (Option Scalar)
  | .null => .ok (some (.integer 0))
  | value => Stored.number? value

def Row.ofFields (fields : Fields) : Except Failure Row := do
  let id ← Stored.number? (fields.get "id")
  let name ← Stored.text? (fields.get "name")
  let displayName ← Stored.text? (fields.get "display_name")
  let color ← Stored.text? (fields.get "color")
  let ordinal ← place (fields.get "position")
  .ok ⟨id, name, displayName, color, ordinal⟩

/-- The given id of a row, if there is one, and its column. A row needs a name, a displayed name and
an ordinal, and its id is an integer. -/
def Row.spec? (r : Row) : Option (Option Int × ColumnSpec) :=
  match r.name, r.displayName, r.ordinal, r.id with
  | some name, some displayName, some ordinal, none =>
    some (none, ⟨name, displayName, r.color, ordinal⟩)
  | some name, some displayName, some ordinal, some (.integer id) =>
    some (some id, ⟨name, displayName, r.color, ordinal⟩)
  | _, _, _, _ => none

/-! ## Adding columns -/

/-- Whether a description gives the fields that have defaults. -/
def outline (fields : Fields) : List Bool :=
  ["id", "position", "created_at"].map fun name => fields.get name ≠ .null

/-- Descriptions that give the same fields are sent together. The moment of creation cannot be
described. -/
def addAlike (b : Board) (descriptions : List Fields) : Except Failure Board := do
  if descriptions.any fun fields => fields.get "created_at" ≠ .null then
    .error (.database .notAMoment)
  else
    -- all values are looked at before the first column is added
    let rows ← descriptions.mapM Row.ofFields
    match (rows.mapM Row.spec?).bind b.addColumns? with
    | some b' => .ok b'
    | none => .error (.database .constraint)

/-- The columns of a list of descriptions are added, all of them or none. -/
def addColumns (b : Board) (descriptions : List Fields) : Except Failure Board := do
  descriptions.forM checkId
  (descriptions.splitBy fun f g => outline f == outline g).foldlM addAlike b

/-- The columns that do not exist yet are added. The result lists their names. -/
def seed (descriptions : List Fields) : Work (List Json) :=
  .committed do
    let taken ← .query fun b => .ok (b.columns.map Column.name)
    let new ← .ofExcept (missing taken descriptions)
    .write fun _ b => do
      let b' ← addColumns b (new.map Prod.snd)
      .ok (new.map Prod.fst, b')

/-- The columns of a new board that do not exist yet are added. -/
def seedDefaults : Work (List Json) := seed (defaultColumns.map fieldsOf)

end Kanban.Seed
