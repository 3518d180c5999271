import Kanban.Migration.Table

/-!
# Revisions

The revisions of the database, in order: the first one makes the tables of columns and tasks, and
the second one adds the columns of a new board. Each can be undone.
-/

namespace Kanban.Migration

structure Tables where
  columns : List ColumnRow
  tasks : List TaskRow
deriving DecidableEq, Repr

inductive Revision where
  | tables
  | columns
deriving DecidableEq, Repr

def Revision.id : Revision → String
  | .tables => "20260301_kanban_tables"
  | .columns => "20260301_seed_columns"

def revisions : List Revision := [.tables, .columns]

/-- How many revisions there are up to one, itself included. -/
def Revision.height (r : Revision) : Nat := revisions.idxOf r + 1

def atHeight? (n : Nat) : Option Revision := if n = 0 then none else revisions[n - 1]?

/-! ## The columns of a new board -/

/-- What the second revision adds. It is kept here, so that it stays what it was when the columns of
a new board are one day different. -/
def initialColumns : List ColumnSpec :=
  [⟨"backlog", "Backlog", some "#6b7280", .integer 0⟩,
    ⟨"todo", "To Do", some "#3b82f6", .integer 1⟩,
    ⟨"inProgress", "In Progress", some "#f59e0b", .integer 2⟩,
    ⟨"review", "Review", some "#8b5cf6", .integer 3⟩,
    ⟨"done", "Done", some "#10b981", .integer 4⟩]

def appendColumn (now : Timestamp) (rows : List ColumnRow) (spec : ColumnSpec) :
    List ColumnRow :=
  let id := nextId (rows.map fun r => r.column.id)
  rows ++ [⟨spec.column id, some (.text now.stored)⟩]

/-- The columns of a new board are added, but for those whose names are there. -/
def addInitialColumns (now : Timestamp) (rows : List ColumnRow) : List ColumnRow :=
  let present := rows.map fun r => r.column.name
  (initialColumns.filter fun spec => !present.contains spec.name).foldl (appendColumn now) rows

/-- The columns with the names of a new board are removed, whoever added them. -/
def removeInitialColumns (rows : List ColumnRow) : List ColumnRow :=
  rows.filter fun r => !(initialColumns.map ColumnSpec.name).contains r.column.name

/-! ## Applying and undoing -/

def Revision.apply (now : Timestamp) :
    Revision → Option Tables → Except DatabaseError (Option Tables)
  | .tables, _ => .ok (some ⟨[], []⟩)
  | .columns, some t => .ok (some { t with columns := addInitialColumns now t.columns })
  | .columns, none => .error .missing

def Revision.undo : Revision → Option Tables → Except DatabaseError (Option Tables)
  | _, none => .error .missing
  | .tables, some _ => .ok none
  | .columns, some t => .ok (some { t with columns := removeInitialColumns t.columns })

end Kanban.Migration
