import Kanban.Numeral

/-!
# Written numbers

A number that need not be whole is written with digits, perhaps with a sign, a point and an exponent,
and with blanks around it. There is a digit before or after the point. Where a number is read from a
setting, its digits may come from any script, single underscores may separate them, and the words
for infinity and for no number count as well.
-/

namespace Kanban.Numeral

/-! ## The parts of a written number -/

structure Written where
  negative : Bool
  /-- The digits before the point. -/
  whole : List Char
  /-- The digits after the point, if there is one. -/
  places : Option (List Char)
  /-- The exponent, if there is one. -/
  power : Option Int
deriving DecidableEq, Repr

def isMargin (c : Char) : Bool := c = ' ' || ('\t' ≤ c && c ≤ '\r')

def signOf : List Char → Bool × List Char
  | '-' :: rest => (true, rest)
  | '+' :: rest => (false, rest)
  | cs => (false, cs)

def digitsValue (cs : List Char) : Nat := ofDigits (cs.map fun c => c.toNat - '0'.toNat)

/-- The digits after a point, if there is one, and the text after them. -/
def placesOf : List Char → Option (List Char) × List Char
  | '.' :: rest => (some (rest.takeWhile Char.isDigit), rest.dropWhile Char.isDigit)
  | cs => (none, cs)

/-- The exponent, if there is a mark of one, and the text after it. A mark needs a digit. -/
def powerOf? : List Char → Option (Option Int × List Char)
  | mark :: rest =>
    if mark = 'e' || mark = 'E' then
      let (negative, digits) := signOf rest
      if digits.head?.any Char.isDigit then
        let n : Nat := digitsValue (digits.takeWhile Char.isDigit)
        some (some (if negative then -(n : Int) else n), digits.dropWhile Char.isDigit)
      else none
    else some (none, mark :: rest)
  | [] => some (none, [])

/-- The number that a text writes, and nothing when it writes none. -/
def Written.ofChars? (cs : List Char) : Option Written := do
  let (negative, unsigned) := signOf (cs.dropWhile isMargin)
  let whole := unsigned.takeWhile Char.isDigit
  let (places, afterPlaces) := placesOf (unsigned.dropWhile Char.isDigit)
  let (power, rest) ← powerOf? afterPlaces
  if (whole.isEmpty && (places.getD []).isEmpty) || !rest.all isMargin then none
  else some ⟨negative, whole, places, power⟩

/-- The integer before the point. -/
def Written.wholePart (w : Written) : Int :=
  if w.negative then -(digitsValue w.whole : Int) else digitsValue w.whole

/-! ## Numbers in settings -/

/-- The words that stand for infinity and for no number. -/
def boundlessWords : List (List Char) := ["inf".toList, "infinity".toList, "nan".toList]

/-- A text without the underscores that separate digits. Any other underscore is refused. The first
argument says whether the text comes right after a digit. -/
def joined? (afterDigit : Bool) : List Char → Option (List Char)
  | [] => some []
  | c :: rest =>
    if c = '_' then
      if afterDigit && rest.head?.any Text.isDecimalDigit then joined? false rest else none
    else (joined? (Text.isDecimalDigit c) rest).map (c :: ·)

def plainDigit (c : Char) : Char :=
  ((Text.digitValue? c).map fun d => Char.ofNat ('0'.toNat + d)).getD c

def writesNumber (s : String) : Bool :=
  match joined? false (Text.strip Text.isWhiteSpace s.toList) with
  | none => false
  | some cs =>
    boundlessWords.contains ((signOf cs).2.map Char.toLower) ||
      (Written.ofChars? (cs.map plainDigit)).isSome

end Kanban.Numeral
