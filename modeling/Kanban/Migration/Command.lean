import Kanban.Migration.Target

/-!
# Migration commands

A database is moved up or down the list of revisions to a target, one revision after another, and each
is kept by itself. The table that says which revision the database is at is made when a command finds
the database at no revision, even if the command then fails.
-/

namespace Kanban.Migration

structure Database where
  /-- The names in the table that says which revision the database is at, if there is that table. -/
  versions : Option (List String)
  tables : Option Tables
deriving DecidableEq, Repr

def Database.empty : Database := ⟨none, none⟩

/-- The names of the revisions that a database is said to be at, in order. -/
def Database.current (d : Database) : List String :=
  (d.versions.getD []).mergeSort fun a b => decide (a ≤ b)

/-- The table that says which revision the database is at is made, unless it is there. -/
def Database.versioned (d : Database) : Database := { d with versions := some (d.versions.getD []) }

/-! ## Ways up and down -/

def namesBelow (r : Revision) (rs : List Revision) : List String :=
  ((rs.filter fun s => s.height < r.height).map Revision.id).eraseDups

/-- How many revisions have been applied to a database that is said to be at some revisions. None of
them lies below another one. -/
def appliedHeight (names : List String) : Except CommandError Nat := do
  let found ← names.mapM named?
  let rs := found.filterMap fun r => r
  match rs.find? fun r => !(namesBelow r rs).isEmpty with
  | some r => .error (.overlapping r.id (namesBelow r rs))
  | none => .ok (rs.foldl (fun n r => max n r.height) 0)

/-- The revisions on the way up to a target. A target below is passed already. -/
def wayUp (names : List String) (text : String) : Except CommandError (List Revision) := do
  let goal ← (Target.ofText text).above names
  let height ← appliedHeight names
  .ok ((revisions.take (goal.elim 0 Revision.height)).drop height)

/-- The revisions on the way down to a target. A target that the database is not at must have
something above it. -/
def wayDown (names : List String) (text : String) : Except CommandError (List Revision) := do
  let goal ← (Target.ofText text).below names
  let height ← appliedHeight names
  let way := ((revisions.take height).drop (goal.elim 0 Revision.height)).reverse
  match goal with
  | none => .ok way
  | some r => if way.isEmpty ∧ r.height ≠ height then .error (.notBelow text) else .ok way

/-! ## Steps -/

def renamed (before after : String) (names : List String) : List String :=
  names.map fun name => if name = before then after else name

/-- A revision is applied, and noted. -/
def Database.ascend (now : Timestamp) (d : Database) (r : Revision) :
    Except CommandError Database := do
  let tables ← (r.apply now d.tables).mapError .database
  let names := d.versions.getD []
  match (atHeight? (r.height - 1)).map Revision.id with
  | some before =>
    if before ∈ names then .ok ⟨some (renamed before r.id names), tables⟩
    else .ok ⟨some (names ++ [r.id]), tables⟩
  | none => .ok ⟨some (names ++ [r.id]), tables⟩

/-- A revision is undone, and noted. -/
def Database.descend (d : Database) (r : Revision) : Except CommandError Database := do
  let tables ← (r.undo d.tables).mapError .database
  let names := d.versions.getD []
  match atHeight? (r.height - 1) with
  | some before => .ok ⟨some (renamed r.id before.id names), tables⟩
  | none => .ok ⟨some (names.filter (· ≠ r.id)), tables⟩

/-- Steps are taken one after another, up to the first that fails. -/
def takeSteps (step : Database → Revision → Except CommandError Database) (d : Database) :
    List Revision → Except CommandError Unit × Database
  | [] => (.ok (), d)
  | r :: rest =>
    match step d r with
    | .ok d' => takeSteps step d' rest
    | .error e => (.error e, d)

/-! ## Commands -/

/-- A way is found and then gone, unless a range is given. -/
def follow (way : List String → String → Except CommandError (List Revision))
    (step : Database → Revision → Except CommandError Database) (text : String) (d : Database) :
    Except CommandError Unit × Database :=
  if text.toList.contains ':' then (.error .range, d)
  else
    match way d.current text with
    | .error e => (.error e, d.versioned)
    | .ok rs => takeSteps step d.versioned rs

def upgrade (now : Timestamp) (text : String) (d : Database) :
    Except CommandError Unit × Database :=
  follow wayUp (Database.ascend now) text d

def downgrade (text : String) (d : Database) : Except CommandError Unit × Database :=
  follow wayDown Database.descend text d

def insert (now : Timestamp) (table : String) (row : Fields) (d : Database) :
    Except Failure Database :=
  let name := table.toLower
  match d.versions, d.tables with
  | some names, tables =>
    if name = versionShape.name then do
      let added ← versionRow names row
      .ok { d with versions := some (names ++ [added]) }
    else
      match tables with
      | none => .error (.database .missing)
      | some t =>
        if name = columnsShape.name then do
          let r ← columnRow t.columns now row
          .ok { d with tables := some { t with columns := t.columns ++ [r] } }
        else if name = tasksShape.name then do
          let r ← taskRow t.tasks now row
          .ok { d with tables := some { t with tasks := t.tasks ++ [r] } }
        else .error (.database .missing)
  | none, _ => .error (.database .missing)

end Kanban.Migration
