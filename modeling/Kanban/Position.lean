/-!
# Sparse positions

A column keeps its tasks apart by integer positions with room between them. This module says where
a task lands: at the end of a column, or next to another task, at the middle of the gap on the
asked side.

The middle is taken by division toward zero, so it leans to the smaller neighbour when the two
positions add up to a positive number and to the larger one when they add up to a negative number.
A middle that falls on one of the neighbours is refused: the gap is exhausted.
-/

namespace Kanban

/-- The spacing between tasks that are appended one after another, unless something else is set. -/
def defaultGap : Int := 1000000

def basePosition : Int := 0

namespace Position

/-- The quotient rounded toward zero, and nothing when the divisor is zero. -/
def quotient? (numerator denominator : Int) : Option Int :=
  if denominator = 0 then none else some (numerator.tdiv denominator)

/-- The middle of two positions, rounded toward zero. -/
def midpoint (lower upper : Int) : Int := (lower + upper).tdiv 2

end Position

/-! ## Where a task lands -/

inductive Misplacement (κ : Type) where
  /-- The task to stand next to is not in the column. -/
  | missing (key : κ)
  /-- There is no position strictly between the two neighbours. -/
  | exhausted (lower upper : Int)
deriving DecidableEq, Repr

/-- What surrounds a task of a column: the position before it, its own, and the one after it. -/
structure Surroundings where
  before : Option Int
  own : Int
  after : Option Int
deriving DecidableEq, Repr

namespace Position

variable {κ : Type}

/-- The end of a column: one gap beyond the largest position. -/
def atEnd (ordered : List (κ × Int)) (gap : Int) : Int :=
  match (ordered.map Prod.snd).max? with
  | none => basePosition
  | some largest => largest + gap

/-- The surroundings of the first entry with the given key, where `before` is the position of the
entry that precedes the list. -/
def surroundings? [DecidableEq κ] (key : κ) : Option Int → List (κ × Int) → Option Surroundings
  | _, [] => none
  | before, (k, p) :: rest =>
    if k = key then some ⟨before, p, (rest.head?).map Prod.snd⟩
    else surroundings? key (some p) rest

/-- The middle of two neighbours, unless it falls on one of them. -/
def between (lower upper : Int) : Except (Misplacement κ) Int :=
  let middle := midpoint lower upper
  if middle = lower ∨ middle = upper then .error (.exhausted lower upper) else .ok middle

/-- The position right after a task: the middle of the gap above it, or one gap further when it is
the last. -/
def rightAfter (s : Surroundings) (gap : Int) : Except (Misplacement κ) Int :=
  match s.after with
  | some upper => between s.own upper
  | none => .ok (s.own + gap)

/-- The position right before a task: the middle of the gap below it, or one at the head. -/
def rightBefore (s : Surroundings) (gap : Int) : Except (Misplacement κ) Int :=
  match s.before with
  | some lower => between lower s.own
  -- a positive position is halved, and any other is left one gap behind
  | none => .ok (if 0 < s.own then s.own.tdiv 2 else s.own - gap)

/-- The position of a task that is placed into a column: after or before the task with the key
`reference`, or at the end when there is none. -/
def place [DecidableEq κ] (ordered : List (κ × Int)) (reference : Option κ) (after : Bool)
    (gap : Int) : Except (Misplacement κ) Int :=
  match reference with
  | none => .ok (atEnd ordered gap)
  | some key =>
    match surroundings? key none ordered with
    | none => .error (.missing key)
    | some s => if after then rightAfter s gap else rightBefore s gap

end Position

end Kanban
