import Kanban.Double.Extended
import Kanban.Double.Shortest

/-!
# Fifteen significant digits

The text that a text field of the store keeps for a number. The number is scaled to one digit before
the point, half a unit of the fifteenth digit is added, and the digits are taken off one by one, all
in numbers of 64 binary places. Where these do not suffice the last digit may be one too small or too
large.
-/

namespace Kanban.Double

namespace Extended

/-- A scale and its decimal exponent, raised by a power of ten as long as it does not exceed a
number. The first argument bounds the number of steps. -/
def raised (x power : Extended) (exponent : Int) : Nat → Extended × Int → Extended × Int
  | 0, scale => scale
  | steps + 1, (scale, e) =>
    let next := scale.mul power
    if next.atMost x then raised x power exponent steps (next, e + exponent) else (scale, e)

/-- A number and its decimal exponent, multiplied by a power of ten as long as the number is below a
bound. The first argument bounds the number of steps. -/
def lifted (bound power : Extended) (exponent : Int) : Nat → Extended × Int → Extended × Int
  | 0, x => x
  | steps + 1, (x, e) =>
    if bound.atMost x then (x, e)
    else lifted bound power exponent steps (x.mul power, e - exponent)

/-- A positive number with one digit before the point, and its decimal exponent. -/
def scaled (x : Extended) : Extended × Int :=
  let (scale, e) :=
    raised x (ofNat 10) 1 10 (raised x (tenPower 10) 10 10 (raised x (tenPower 100) 100 4 (ofNat 1, 0)))
  lifted (ofNat 1) (ofNat 10) 1 10 (lifted (tenPower (-8)) (tenPower 8) 8 50 (x.div scale, e))

def halfUnit : Extended :=
  match ofDecimal false 5 (-5) with
  | .finite _ m e => mul ⟨m, e⟩ (tenPower (-10))
  | _ => ⟨0, 0⟩

/-- The first digits of a number with one digit before the point. -/
def digits : Nat → Extended → List Nat
  | 0, _ => []
  | count + 1, x => x.floor :: digits count (x.excess.mul (ofNat 10))

end Extended

/-- A positive number in fifteen digits. -/
def fifteenDigits (significand : Nat) (exponent : Int) : Decimal :=
  let (x, e) := Extended.scaled ⟨significand, exponent⟩
  let x := x.add Extended.halfUnit
  let (x, e) := if (Extended.ofNat 10).atMost x then (x.mul (Extended.tenPower (-1)), e + 1) else (x, e)
  ⟨(x.digits 15).foldl (fun n d => 10 * n + d) 0, e - 14⟩

/-- Exponents from -4 to 14 are written positionally. -/
def storedLayout : Layout := ⟨(-4, 14), 2, true, "Inf", "NULL"⟩

/-- The text that a text field keeps, and nothing for a value that is not a number. -/
def storedText? : Double → Option (List Char)
  | .finite _ 0 _ => some ['0', '.', '0']
  | .finite negative m e => some (signedText negative ((fifteenDigits m e).text storedLayout))
  | .infinite negative => some (signedText negative storedLayout.infinity.toList)
  | .notANumber => none

end Kanban.Double
