import Kanban.Operation.Renumber
import Kanban.Operation.Request

/-!
# Placing a batch of tasks

Tasks of one column are put at the positions that the caller chose, all of them or none, and the
column is then renumbered if it is crowded.
-/

namespace Kanban.Operation

/-- The outcome of a batch: the tasks in the order in which they were listed, and whether their
column was renumbered. -/
structure Placed where
  tasks : List Int
  rebalanced : Bool
deriving DecidableEq, Repr

def placement (spacing : Spacing) (r : BatchRequest) : Work Placed := do
  let _ ← Store.lockColumn r.column
  let _ ← Store.writePositions r.column r.targets
  let rebalanced ← renumberIfCrowded spacing r.column
  pure ⟨r.targets.map Prod.fst, rebalanced⟩

def batch (spacing : Spacing) (r : BatchRequest) : Work Placed :=
  .transaction (placement spacing r)

end Kanban.Operation
