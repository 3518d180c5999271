import Kanban.Operation.Renumber
import Kanban.Operation.Request
import Kanban.Position

/-!
# Moving a task

A task moves to the named column, else to the column of the reference task, else it stays in its
own. There it is placed next to the reference task. When the reference task is not in that column
the explicit position is taken, and without one the move fails. A move that names neither goes to the
end of the column.

When there is no room next to the reference task the column is renumbered first, and the place is
computed again. After the move a crowded column is renumbered.
-/

namespace Kanban.Operation

/-- A task after its move, and whether its column was renumbered. -/
structure Moved where
  task : Task
  rebalanced : Bool
deriving DecidableEq, Repr

def destination (t : Task) (r : MoveRequest) : Work Int :=
  match r.column, r.reference with
  | some column, _ => pure column
  | none, none => pure t.column
  | none, some reference => do
    match ← Store.task? reference with
    | some u => pure u.column
    | none => pure t.column

/-- Where a task would land next to another one. -/
def besideIn (column task reference : Int) (after : Bool) (gap : Int) :
    Work (Except (Misplacement Int) Int) := do
  -- without the moved task, which would else be its own neighbour
  let ordered ← Store.orderWithout column task
  pure (Position.place (ordered.map Task.entry) (some reference) after gap)

/-- The position next to a reference task, and whether the column was renumbered to make room for
it. There is none when the reference task is not in the column. -/
def beside (column task reference : Int) (after : Bool) (gap : Int) :
    Work (Option (Int × Bool)) := do
  match ← besideIn column task reference after gap with
  | .ok position => pure (some (position, false))
  | .error (.missing _) => pure none
  | .error (.exhausted _ _) =>
    renumber column gap
    match ← besideIn column task reference after gap with
    | .ok position => pure (some (position, true))
    | .error (.missing _) => pure none
    | .error (.exhausted lower upper) => .fail (.gapExhausted lower upper)

/-- The end of a column without one of its tasks. -/
def endOf (column task gap : Int) : Work Int := do
  let ordered ← Store.orderWithout column task
  pure (Position.atEnd (ordered.map Task.entry) gap)

/-- The position that a task moves to, and whether the column was renumbered to make room for it. -/
def landing (spacing : Spacing) (column : Int) (r : MoveRequest) : Work (Int × Bool) :=
  match r.reference, r.position with
  | none, some position => pure (position, false)
  | none, none => do
    let position ← endOf column r.task spacing.gap
    pure (position, false)
  | some reference, fallback => do
    match ← beside column r.task reference r.after spacing.gap, fallback with
    | some place, _ => pure place
    | none, some position => pure (position, false)
    | none, none => .fail (.referenceNotFound reference)

def relocation (spacing : Spacing) (r : MoveRequest) : Work Moved := do
  let t ← Store.task r.task
  let column ← destination t r
  let _ ← Store.lockColumn column
  let (position, cleared) ← landing spacing column r
  let _ ← Store.writePosition r.task column position
  let crowded ← renumberIfCrowded spacing column
  -- the renumbering may have moved it once more
  let t ← Store.task r.task
  pure ⟨t, cleared || crowded⟩

def move (spacing : Spacing) (r : MoveRequest) : Work Moved :=
  .transaction (relocation spacing r)

end Kanban.Operation
