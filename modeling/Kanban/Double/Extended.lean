import Kanban.Double

/-!
# Numbers of sixty-four binary places

The database computes with these numbers where it turns a number into decimal digits and back. The
result of each operation is the nearest number, and of two equally near ones the one with the even
significand. No number is negative, and exponents are not bounded.
-/

namespace Kanban.Double

/-- The number `significand · 2 ^ exponent`. -/
structure Extended where
  significand : Nat
  exponent : Int
deriving DecidableEq, Repr

namespace Extended

def places : Nat := 64

def nearest (numerator denominator : Nat) (exponent : Int) : Extended :=
  let e := fittedExponent places numerator denominator
  let scaled := scaleDown e numerator denominator
  let m := roundDiv scaled.1 scaled.2
  if m = Nat.pow 2 places then ⟨m / 2, e + 1 + exponent⟩ else ⟨m, e + exponent⟩

def ofNat (n : Nat) : Extended := nearest n 1 0

/-- The double-precision number nearest to a power of ten, as it stands in a calculation. -/
def tenPower (e : Int) : Extended :=
  match ofDecimal false 1 e with
  | .finite _ m e => ⟨m, e⟩
  | _ => ⟨0, 0⟩

/-- The significand at an exponent that is not larger. -/
def significandAt (x : Extended) (e : Int) : Nat :=
  x.significand * Nat.pow 2 (x.exponent - e).toNat

def add (x y : Extended) : Extended :=
  let e := min x.exponent y.exponent
  nearest (x.significandAt e + y.significandAt e) 1 e

def mul (x y : Extended) : Extended :=
  nearest (x.significand * y.significand) 1 (x.exponent + y.exponent)

def div (x y : Extended) : Extended :=
  nearest x.significand y.significand (x.exponent - y.exponent)

def atMost (x y : Extended) : Bool :=
  let e := min x.exponent y.exponent
  x.significandAt e ≤ y.significandAt e

def floor (x : Extended) : Nat :=
  x.significand * Nat.pow 2 x.exponent.toNat / Nat.pow 2 (-x.exponent).toNat

/-- What a number exceeds its integer part by. -/
def excess (x : Extended) : Extended :=
  if 0 ≤ x.exponent then ⟨0, 0⟩ else ⟨x.significand % Nat.pow 2 (-x.exponent).toNat, x.exponent⟩

def toDouble (negative : Bool) (x : Extended) : Double :=
  if x.significand = 0 then .finite negative 0 0
  else
    ofFraction negative (x.significand * Nat.pow 2 x.exponent.toNat)
      (Nat.pow 2 (-x.exponent).toNat)

end Extended

end Kanban.Double
