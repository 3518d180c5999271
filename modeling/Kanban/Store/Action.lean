import Kanban.Record
import Kanban.Store

/-!
# Actions on the store

The single things that can be asked of the store, as data, so that a unit of work can be given as a
list of them.
-/

namespace Kanban.Store

inductive Action where
  | addTask (column position : Int) (title : String)
  | rebalance (column gap : Int)
  /-- A task is put at a position, perhaps in another column. -/
  | writePosition (task position : Int) (column : Option Int)
  | writePositions (column : Int) (targets : List (Int × Int))
  | removeTask (task : Int)
  /-- The order of a column, perhaps without one task. -/
  | order (column : Int) (without : Option Int)
  | largestPosition (column : Int)
  | task (id : Int)
  | column (id : Int)
  | lockColumn (id : Int)
  | columnNamed (name : Json)
  | columns
  /-- The tasks of a column that must exist. -/
  | columnTasks (column : Int)
  /-- A column and a task in one line each. -/
  | labels (column task : Int)
deriving DecidableEq, Repr

inductive Reply where
  | nothing
  | id (id : Int)
  | count (n : Nat)
  | position (position : Option Int)
  | ids (ids : List Int)
  | entries (entries : List (Int × Int))
  | task (t : Task)
  | column (c : Column)
  | columns (cs : List Column)
  | labels (labels : List String)
deriving DecidableEq, Repr

def Reply.toJson : Reply → Json
  | .nothing => .null
  | .id n => .int n
  | .count n => .int n
  | .position p => p.elim .null .int
  | .ids ns => .list (ns.map .int)
  | .entries es => .list (es.map fun (n, p) => .list [.int n, .int p])
  | .task t => t.record
  | .column c => c.record
  | .columns cs => .list (cs.map Column.record)
  | .labels ls => .list (ls.map .text)

/-- One target is set: in its place when the task is listed already, and else at the end. -/
def setTarget : List (Int × Int) → Int → Int → List (Int × Int)
  | [], id, position => [(id, position)]
  | (i, p) :: rest, id, position =>
    if i = id then (i, position) :: rest else (i, p) :: setTarget rest id position

/-- The targets of a list in which a task may be listed repeatedly. The last position counts, at the
place of the first one. -/
def settled (targets : List (Int × Int)) : List (Int × Int) :=
  targets.foldl (fun ts (id, position) => setTarget ts id position) []

def bareDraft (code title : String) : Draft :=
  ⟨code, .text title, .text "", .text "medium", .null, []⟩

/-- What an action does. The code is the one of a task that is added. -/
def Action.perform (code : String) : Action → Work Reply
  | .addTask c position title => do
    let t ← Store.addTask (bareDraft code title) c position
    pure (.id t.id)
  | .rebalance c gap => do
    let n ← Store.rebalance c gap
    pure (.count n)
  | .writePosition id position destination => do
    let t ← Store.task id
    let t ← Store.writePosition t.id (destination.getD t.column) position
    pure (.task t)
  | .writePositions c targets => do
    let ids ← Store.writePositions c (settled targets)
    pure (.ids (ids.mergeSort (· ≤ ·)))
  | .removeTask id => do
    let t ← Store.task id
    Store.removeTask t.id
    pure .nothing
  | .order c none => do
    let ordered ← Store.order c
    pure (.entries (ordered.map Task.entry))
  | .order c (some id) => do
    let ordered ← Store.orderWithout c id
    pure (.entries (ordered.map Task.entry))
  | .largestPosition c => do
    let p ← Store.largestPosition? c
    pure (.position p)
  | .task id => do
    let t ← Store.task id
    pure (.task t)
  | .column id => do
    let c ← Store.column id
    pure (.column c)
  | .lockColumn id => do
    let c ← Store.lockColumn id
    pure (.column c)
  | .columnNamed name => do
    let c ← Store.columnNamed name
    pure (.column c)
  | .columns => do
    let cs ← Store.columns
    pure (.columns cs)
  | .columnTasks id => do
    let ordered ← Store.columnTasks id
    pure (.ids (ordered.map Task.id))
  | .labels c t => do
    let column ← Store.column c
    let task ← Store.task t
    pure (.labels [column.label, task.label])

def Action.usesCode : Action → Bool
  | .addTask .. => true
  | _ => false

/-- A list of actions, one after another. The codes of new tasks are taken from a supply, in which
some have been used. -/
def performAll (codes : Nat → String) : (used : Nat) → List Action → Work (List Reply)
  | _, [] => pure []
  | used, action :: rest => do
    let reply ← action.perform (codes used)
    let replies ← performAll codes (if action.usesCode then used + 1 else used) rest
    pure (reply :: replies)

end Kanban.Store
