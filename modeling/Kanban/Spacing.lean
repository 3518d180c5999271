import Kanban.Position

/-!
# Spacing

How close the positions of a column stand to each other, and when they stand too close. The
positions are sorted first, so every answer depends on the set of positions with repetitions and
not on the order in which they are listed.
-/

namespace Kanban

/-- The smallest gap that is tolerated before a column is renumbered, unless something else is
set. -/
def defaultThreshold : Int := 100

structure Spacing where
  /-- The distance between tasks that are appended or renumbered. -/
  gap : Int
  /-- The distance below which two neighbours are too close. -/
  threshold : Int
deriving DecidableEq, Repr

namespace Spacing

/-- The differences between neighbours of a list. -/
def differences : List Int → List Int
  | lower :: upper :: rest => (upper - lower) :: differences (upper :: rest)
  | _ => []

/-- The distances between neighbouring positions, from the smallest position up. -/
def gaps (positions : List Int) : List Int :=
  differences (positions.mergeSort (· ≤ ·))

/-- The smallest distance between neighbouring positions. -/
def smallestGap? (positions : List Int) : Option Int := (gaps positions).min?

/-- Whether two neighbouring positions are closer than the threshold. -/
def isCrowded (positions : List Int) (threshold : Int) : Bool :=
  match smallestGap? positions with
  | none => false
  | some gap => decide (gap < threshold)

end Spacing

end Kanban
