import Kanban.Double.Extended
import Kanban.Numeral.Written
import Kanban.Scalar

/-!
# Numbers in stored fields

A stored integer has 64 bits. A field of numbers keeps a text that writes a number as that number:
digits, perhaps with a sign, a point and an exponent, and with blanks around them. A number that is
whole is kept as an integer if it fits. Every other text stays a text.

The value of a decimal with a point or an exponent, or with more digits than an integer has, is
computed in numbers of 64 binary places and rounded to a double-precision number in the end.
-/

namespace Kanban.Stored

/-! ## Integers -/

/-- The smallest integer of a stored field, `-2 ^ 63`. -/
def minInteger : Int := -9223372036854775808

/-- The largest integer of a stored field, `2 ^ 63 - 1`. -/
def maxInteger : Int := 9223372036854775807

def Fits (n : Int) : Prop := minInteger ≤ n ∧ n ≤ maxInteger

instance (n : Int) : Decidable (Fits n) := inferInstanceAs (Decidable (_ ∧ _))

/-! ## The value of a written number -/

/-- No digit is added to a significand from this number on. -/
def fullSignificand : Nat := (Nat.pow 2 63 - 10) / 10

/-- A digit is added to a significand and its exponent. A digit that is dropped before the point
raises the exponent, and a digit that is added after the point lowers it. -/
def addDigit (afterPoint : Bool) (s : Nat × Int) (c : Char) : Nat × Int :=
  if fullSignificand ≤ s.1 then (s.1, if afterPoint then s.2 else s.2 + 1)
  else (10 * s.1 + (c.toNat - '0'.toNat), if afterPoint then s.2 - 1 else s.2)

def significand (w : Numeral.Written) : Nat × Int :=
  let s := (w.places.getD []).foldl (addDigit true) (w.whole.foldl (addDigit false) (0, 0))
  (s.1, s.2 + w.power.getD 0)

/-- A significand is multiplied by ten as long as there is room, and the count goes down. -/
def spread : Nat → Nat → Nat × Nat
  | 0, s => (s, 0)
  | count + 1, s => if (Nat.pow 2 63 - 1) / 10 ≤ s then (s, count + 1) else spread count (10 * s)

/-- A significand is divided by ten as long as it ends in a zero, and the count goes down. -/
def shrink : Nat → Nat → Nat × Nat
  | 0, s => (s, 0)
  | count + 1, s => if s % 10 ≠ 0 then (s, count + 1) else shrink count (s / 10)

/-- A power of `x` by repeated squaring, times `r`. The first argument bounds the number of steps. -/
def powerTimes : Nat → Double.Extended → Double.Extended → Nat → Double.Extended
  | 0, _, r, _ => r
  | steps + 1, x, r, e =>
    let r := if e % 2 = 1 then r.mul x else r
    if e / 2 = 0 then r else powerTimes steps (x.mul x) r (e / 2)

def tenPower (e : Nat) : Double.Extended := powerTimes 10 (.ofNat 10) (.ofNat 1) e

/-- A number multiplied or divided by `10 ^ 308`, rounded once more. -/
def farther (down : Bool) : Double → Double
  | .finite negative m e =>
    if m = 0 then .finite negative 0 0
    else
      match Double.ofDecimal false 1 308 with
      | .finite _ m' e' =>
        let numerator := m * Nat.pow 2 e.toNat
        let denominator := Nat.pow 2 (-e).toNat
        let scale := m' * Nat.pow 2 e'.toNat
        if down then Double.ofFraction negative numerator (denominator * scale)
        else Double.ofFraction negative (numerator * scale) denominator
      | x => x
  | x => x

/-- A significand times or over a power of ten, as a double-precision number. -/
def scaled (negative : Bool) (s : Nat) (down : Bool) (count : Nat) : Double :=
  let x := Double.Extended.ofNat s
  let shifted := fun count => if down then x.div (tenPower count) else x.mul (tenPower count)
  if count ≤ 307 then (shifted count).toDouble negative
  else if count < 342 then farther down ((shifted (count - 308)).toDouble negative)
  else if down then .finite negative 0 0
  else .infinite negative

def valueOf (w : Numeral.Written) : Double :=
  let (s, e) := significand w
  if s = 0 then .finite w.negative 0 0
  else
    let down := decide (e < 0)
    let (s, count) := if down then shrink e.natAbs s else spread e.natAbs s
    scaled w.negative s down count

/-! ## Values of fields of numbers -/

/-- The integer that a number is, if it is one. -/
def wholeValue? : Double → Option Int
  | .finite negative m e =>
    if m % Nat.pow 2 (-e).toNat = 0 then
      let n : Nat := m * Nat.pow 2 e.toNat / Nat.pow 2 (-e).toNat
      some (if negative then -(n : Int) else n)
    else none
  | _ => none

/-- A number as it is kept: an integer if it is one and lies strictly between the smallest and the
largest. -/
def ofDouble (x : Double) : Scalar :=
  match wholeValue? x with
  | some n => if minInteger < n ∧ n < maxInteger then .integer n else .real x
  | none => .real x

/-- A written number as it is kept. Digits alone write an integer if it fits. -/
def kept (w : Numeral.Written) : Scalar :=
  if w.places.isNone ∧ w.power.isNone ∧ Fits w.wholePart then .integer w.wholePart
  else ofDouble (valueOf w)

/-- What a field of numbers keeps of a value. -/
def numeric : Scalar → Scalar
  | .integer n => .integer n
  | .real x => ofDouble x
  | .text s => ((Numeral.Written.ofChars? s.toList).map kept).getD (.text s)

@[simp] theorem numeric_integer (n : Int) : numeric (.integer n) = .integer n := rfl

end Kanban.Stored
