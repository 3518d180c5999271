import Kanban.Text.Blank
import Kanban.Text.DecimalDigit

/-!
# Integer numerals

The written form of an integer in a setting: an optional sign and decimal digits of any script,
surrounded by white space. Single underscores may separate digits. Leading zeros are allowed. A
numeral has at most `Numeral.maxDigits` digits.
-/

namespace Kanban.Numeral

/-- The largest number of digits of a numeral, leading zeros included. -/
def maxDigits : Nat := 4300

inductive Defect where
  | malformed
  | tooLong (digits : Nat)
deriving DecidableEq, Repr

/-- The values of a nonempty row of digits in which single underscores may stand between two
digits. -/
def digitValues? : List Char → Option (List Nat)
  | [] => none
  | [c] => (Text.digitValue? c).map fun d => [d]
  | c :: '_' :: rest => do
    let d ← Text.digitValue? c
    let ds ← digitValues? rest
    some (d :: ds)
  | c :: rest => do
    let d ← Text.digitValue? c
    let ds ← digitValues? rest
    some (d :: ds)

def ofDigits (digits : List Nat) : Nat := digits.foldl (fun n d => 10 * n + d) 0

def isRowChar (c : Char) : Bool := Text.isDecimalDigit c || c = '_'

/-- A row of digits as a number. That the row is too long is noticed before what follows it. -/
def magnitude (cs : List Char) : Except Defect Nat :=
  match digitValues? (cs.takeWhile isRowChar) with
  | none => .error .malformed
  | some digits =>
    if maxDigits < digits.length then .error (.tooLong digits.length)
    else if (cs.dropWhile isRowChar).isEmpty then .ok (ofDigits digits)
    else .error .malformed

/-- An optional sign and a row of digits as a number. -/
def signed : List Char → Except Defect Int
  | '-' :: cs => (magnitude cs).map fun n => -(n : Int)
  | '+' :: cs => (magnitude cs).map fun n => (n : Int)
  | cs => (magnitude cs).map fun n => (n : Int)

def read (s : String) : Except Defect Int := signed (Text.strip Text.isWhiteSpace s.toList)

end Kanban.Numeral
