import Kanban.Double

/-!
# Shortest decimal text

The text of a double-precision number is the decimal with the fewest digits that is rounded back to
it, and of several such decimals the nearest one. Every decimal of at most seventeen digits is
tested on its grid: the number has two neighbours there, and a grid has a suitable point exactly
when one of the two is suitable.
-/

namespace Kanban.Double

/-- A decimal `digits · 10 ^ exponent`. -/
structure Decimal where
  digits : Nat
  exponent : Int
deriving DecidableEq, Repr

/-- A positive number `significand · 2 ^ exponent`, with the bounds of the interval of reals that
are rounded to it; all three are numerators over one denominator. -/
structure Cell where
  lower : Nat
  value : Nat
  upper : Nat
  denominator : Nat
  /-- Whether the bounds themselves are rounded to the number. -/
  closed : Bool
deriving DecidableEq, Repr

/-- The cell of a positive number. Below a power of two the grid is twice as fine. -/
def cell (significand : Nat) (exponent : Int) : Cell :=
  let below := if significand = Nat.pow 2 (precision - 1) ∧ minExponent < exponent then 1 else 2
  let scale := Nat.pow 2 exponent.toNat
  { lower := (4 * significand - below) * scale
    value := 4 * significand * scale
    upper := (4 * significand + 2) * scale
    denominator := 4 * Nat.pow 2 (-exponent).toNat
    closed := significand % 2 = 0 }

def Cell.inUnits (c : Cell) (e : Int) : Cell :=
  let up := Nat.pow 10 (-e).toNat
  { c with
    lower := c.lower * up
    value := c.value * up
    upper := c.upper * up
    denominator := c.denominator * Nat.pow 10 e.toNat }

def Cell.holds (c : Cell) (n : Nat) : Bool :=
  let m := n * c.denominator
  if c.closed then c.lower ≤ m && m ≤ c.upper else c.lower < m && m < c.upper

/-- The integer of the cell that is nearest to its value, if the cell holds an integer next to its
value. Of two equally near ones the even one is taken. -/
def Cell.nearest? (c : Cell) : Option Nat :=
  let low := c.value / c.denominator
  let rest := c.value % c.denominator
  let lowFirst := 2 * rest < c.denominator ∨ (2 * rest = c.denominator ∧ low % 2 = 0)
  let candidates := if lowFirst then [low, low + 1] else [low + 1, low]
  candidates.find? c.holds

/-- The number of decimal places before the point of `numerator / denominator`, up to one. -/
def decimalPlaces (numerator denominator : Nat) : Int :=
  (Nat.toDigits 10 numerator).length - (Nat.toDigits 10 denominator).length

/-- The exponent `p` with `10 ^ (p - 1) ≤ value < 10 ^ p`, where `guess` is `p` or one less. -/
def Cell.point (c : Cell) : Int :=
  let guess := decimalPlaces c.value c.denominator
  let u := c.inUnits guess
  if u.denominator ≤ u.value then guess + 1 else guess

/-- The decimal of the fewest digits in the cell, trying `count` lengths from `length` on. -/
def Cell.shortestFrom (c : Cell) (point : Int) : Nat → Nat → Option Decimal
  | 0, _ => none
  | count + 1, length =>
    let e := point - length
    match (c.inUnits e).nearest? with
    | some n => some ⟨n, e⟩
    | none => shortestFrom c point count (length + 1)

/-- The shortest decimal of a positive number. -/
def shortest (significand : Nat) (exponent : Int) : Decimal :=
  let c := cell significand exponent
  (c.shortestFrom c.point 17 1).getD ⟨significand, exponent⟩

/-! ## Layout -/

structure Layout where
  /-- Exponents of scientific notation that are written positionally, first and last. -/
  positional : Int × Int
  /-- The least number of digits of a written exponent. -/
  exponentWidth : Nat
  /-- Whether a decimal in scientific notation always has a point. -/
  pointed : Bool
  infinity : String
  notANumber : String

/-- The digits of a decimal without trailing zeros, and the place of the point: the value is the
digits after `0.`, times `10 ^ place`. -/
def Decimal.normal (d : Decimal) : List Char × Int :=
  let all := Nat.toDigits 10 d.digits
  let significant := (all.reverse.dropWhile (· = '0')).reverse
  (if significant.isEmpty then ['0'] else significant, all.length + d.exponent)

def exponentText (width : Nat) (e : Int) : List Char :=
  let digits := Nat.toDigits 10 e.natAbs
  'e' :: (if e < 0 then '-' else '+') :: (List.replicate (width - digits.length) '0' ++ digits)

/-- A decimal as text. A whole number keeps one zero after the point. -/
def Decimal.text (l : Layout) (d : Decimal) : List Char :=
  let (digits, place) := d.normal
  let e := place - 1
  if l.positional.1 ≤ e ∧ e ≤ l.positional.2 then
    if place ≤ 0 then '0' :: '.' :: (List.replicate (-place).toNat '0' ++ digits)
    else
      let whole := digits.take place.toNat
      let rest := digits.drop place.toNat
      whole ++ List.replicate (place.toNat - whole.length) '0'
        ++ '.' :: (if rest.isEmpty then ['0'] else rest)
  else
    let rest := digits.drop 1
    let point := if rest.isEmpty then (if l.pointed then ['.', '0'] else []) else '.' :: rest
    digits.take 1 ++ point ++ exponentText l.exponentWidth e

def signedText (negative : Bool) (cs : List Char) : List Char :=
  if negative then '-' :: cs else cs

/-- The text of a number: the shortest decimal that reads back, laid out. -/
def text (l : Layout) : Double → List Char
  | .finite negative 0 _ => signedText negative ['0', '.', '0']
  | .finite negative m e => signedText negative ((shortest m e).text l)
  | .infinite negative => signedText negative l.infinity.toList
  | .notANumber => l.notANumber.toList

/-- In messages, exponents from -4 to 15 are written positionally. -/
def plainLayout : Layout := ⟨(-4, 15), 2, false, "inf", "nan"⟩

/-- In JSON text, the special values have names of their own. -/
def jsonLayout : Layout := { plainLayout with infinity := "Infinity", notANumber := "NaN" }

end Kanban.Double
