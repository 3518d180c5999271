/-!
# Double-precision numbers

A number of the binary64 format as data: a sign, a significand below 2^53 and a power of two. A
decimal is rounded to the nearest such number, and of two equally near ones to the one with the
even significand. All arithmetic is exact, on natural numbers.
-/

namespace Kanban

/-- A number of the binary64 format. -/
inductive Double where
  /-- Plus or minus `significand · 2 ^ exponent`. -/
  | finite (negative : Bool) (significand : Nat) (exponent : Int)
  | infinite (negative : Bool)
  | notANumber
deriving DecidableEq, Repr, Inhabited

namespace Double

def precision : Nat := 53

def minExponent : Int := -1074

def maxExponent : Int := 971

/-- The quotient rounded to the nearest integer, a half to the even neighbour. -/
def roundDiv (numerator denominator : Nat) : Nat :=
  let q := numerator / denominator
  let twiceRest := 2 * (numerator % denominator)
  if twiceRest > denominator ∨ (twiceRest = denominator ∧ q % 2 = 1) then q + 1 else q

/-- A fraction whose numerator or denominator is multiplied so that the value is divided by
`2 ^ e`. -/
def scaleDown (e : Int) (numerator denominator : Nat) : Nat × Nat :=
  (numerator * Nat.pow 2 (-e).toNat, denominator * Nat.pow 2 e.toNat)

/-- The exponent at which a positive fraction has the given number of binary places before the
point. -/
def fittedExponent (places numerator denominator : Nat) : Int :=
  let guess : Int := (numerator.log2 : Int) - denominator.log2 - (places - 1 : Nat)
  let atGuess := scaleDown guess numerator denominator
  if atGuess.1 < atGuess.2 * Nat.pow 2 (places - 1) then guess - 1 else guess

/-- The number nearest to a positive fraction. -/
def ofFraction (negative : Bool) (numerator denominator : Nat) : Double :=
  let e := max (fittedExponent precision numerator denominator) minExponent
  let scaled := scaleDown e numerator denominator
  let m := roundDiv scaled.1 scaled.2
  let m' := if m = Nat.pow 2 precision then m / 2 else m
  let e' := if m = Nat.pow 2 precision then e + 1 else e
  if m' = 0 then .finite negative 0 0
  else if maxExponent < e' then .infinite negative
  else .finite negative m' e'

/-- The number nearest to `digits · 10 ^ exponent`. Magnitudes beyond 10^400 are infinite and those
below 10^-400 are zero, without the power being formed. -/
def ofDecimal (negative : Bool) (digits : Nat) (exponent : Int) : Double :=
  if digits = 0 then .finite negative 0 0
  else
    let magnitude : Int := (Nat.toDigits 10 digits).length + exponent
    if 400 < magnitude then .infinite negative
    else if magnitude < -400 then .finite negative 0 0
    else ofFraction negative (digits * Nat.pow 10 exponent.toNat) (Nat.pow 10 (-exponent).toNat)

def isZero : Double → Bool
  | .finite _ m _ => m == 0
  | _ => false

/-- The integer part of a number, and nothing when it is infinite or not a number. -/
def truncate? : Double → Option Int
  | .finite negative m e =>
    let magnitude : Nat := m * Nat.pow 2 e.toNat / Nat.pow 2 (-e).toNat
    some (if negative then -(magnitude : Int) else magnitude)
  | _ => none

end Double

end Kanban
