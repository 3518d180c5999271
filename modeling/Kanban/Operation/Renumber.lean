import Kanban.Spacing
import Kanban.Store

/-!
# Renumbering after an operation

A move and a batch leave a column behind that may be crowded. It is then renumbered within the same
unit of work.
-/

namespace Kanban.Operation

/-- A column is renumbered, unless the database stops working at that point. -/
def renumber (column gap : Int) : Work Unit := do
  .guard .rebalance
  let _ ← Store.rebalance column gap
  pure ()

/-- A column is renumbered if it is crowded. The result tells whether it was. -/
def renumberIfCrowded (spacing : Spacing) (column : Int) : Work Bool := do
  let ordered ← Store.order column
  if Spacing.isCrowded (ordered.map Task.position) spacing.threshold then
    renumber column spacing.gap
    pure true
  else pure false

end Kanban.Operation
