import Kanban.Json

/-!
# What a field of numbers holds

A field that is meant for numbers holds an integer, another number, or a text that writes no number.
Such values are ordered: numbers by their size, whatever their kind, and texts after all numbers by
their code points.
-/

namespace Kanban

/-- A number as data, in units of the smallest positive number. -/
def Double.units : Double → Int
  | .finite negative m e =>
    let magnitude : Nat := m * Nat.pow 2 (e - minExponent).toNat
    if negative then -(magnitude : Int) else magnitude
  | _ => 0

/-- What a field of numbers holds. -/
inductive Scalar where
  | integer (n : Int)
  | real (x : Double)
  | text (s : String)
deriving DecidableEq, Repr

namespace Scalar

/-- The kinds of values in their order: what lies below all numbers, the finite numbers, what lies
above them, and the texts. -/
def rank : Scalar → Nat
  | .real (.infinite true) | .real .notANumber => 0
  | .integer _ | .real (.finite ..) => 1
  | .real (.infinite false) => 2
  | .text _ => 3

def units : Scalar → Int
  | .integer n => n * (Nat.pow 2 (-Double.minExponent).toNat : Nat)
  | .real x => x.units
  | .text _ => 0

def letters : Scalar → String
  | .text s => s
  | _ => ""

/-- A value does not come after another one. -/
def atMost (a b : Scalar) : Bool :=
  a.rank < b.rank ||
    (a.rank == b.rank &&
      (a.units < b.units || (a.units == b.units && decide (a.letters ≤ b.letters))))

theorem atMost_trans {a b c : Scalar} (h : a.atMost b) (h' : b.atMost c) : a.atMost c := by
  simp only [atMost, Bool.or_eq_true, Bool.and_eq_true, decide_eq_true_eq, beq_iff_eq] at *
  rcases h with h | ⟨h, hu | ⟨hu, hl⟩⟩ <;> rcases h' with h' | ⟨h', hu' | ⟨hu', hl'⟩⟩ <;>
    first
      | (left; omega)
      | (right; exact ⟨by omega, .inl (by omega)⟩)
      | (right; exact ⟨by omega, .inr ⟨by omega, String.le_trans hl hl'⟩⟩)

theorem atMost_total (a b : Scalar) : a.atMost b ∨ b.atMost a := by
  simp only [atMost, Bool.or_eq_true, Bool.and_eq_true, decide_eq_true_eq, beq_iff_eq]
  rcases Nat.lt_trichotomy a.rank b.rank with h | h | h
  · exact .inl (.inl h)
  · rcases Int.lt_trichotomy a.units b.units with hu | hu | hu
    · exact .inl (.inr ⟨h, .inl hu⟩)
    · rcases String.le_total a.letters b.letters with hl | hl
      · exact .inl (.inr ⟨h, .inr ⟨hu, hl⟩⟩)
      · exact .inr (.inr ⟨h.symm, .inr ⟨hu.symm, hl⟩⟩)
    · exact .inr (.inr ⟨h.symm, .inl hu⟩)
  · exact .inr (.inl h)

@[simp] theorem atMost_integer (m n : Int) :
    (integer m).atMost (integer n) = decide (m ≤ n) := by
  have hpos : ∀ k : Nat, (0 : Int) < (Nat.pow 2 k : Nat) := fun k =>
    Int.natCast_pos.mpr (Nat.pow_pos Nat.two_pos)
  have hlt : m * (Nat.pow 2 (-Double.minExponent).toNat : Nat) <
      n * (Nat.pow 2 (-Double.minExponent).toNat : Nat) ↔ m < n :=
    Int.mul_lt_mul_right (hpos _)
  have heq : m * (Nat.pow 2 (-Double.minExponent).toNat : Nat) =
      n * (Nat.pow 2 (-Double.minExponent).toNat : Nat) ↔ m = n :=
    Int.mul_eq_mul_right_iff (Int.ne_of_gt (hpos _))
  rw [Bool.eq_iff_iff]
  simp only [atMost, rank, units, letters, Bool.or_eq_true, Bool.and_eq_true, decide_eq_true_eq,
    beq_iff_eq, hlt, heq, String.le_refl, and_true, true_and, Nat.lt_irrefl, false_or]
  omega

def toJson : Scalar → Json
  | .integer n => .int n
  | .real x => .float x
  | .text s => .text s

end Scalar

end Kanban
