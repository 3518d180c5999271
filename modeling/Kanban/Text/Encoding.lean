import Kanban.Text.Surrogate

/-!
# Encodings of JSON text

The first characters of a JSON text are ASCII, so the zeros among its first bytes tell how it is
encoded: in UTF-8, or in units of two or four bytes, with the larger byte first or last.
-/

namespace Kanban.Text

inductive Encoding where
  | utf8
  | utf16 (bigEndian : Bool)
  | utf32 (bigEndian : Bool)
deriving DecidableEq, Repr

/-- The encoding of a JSON text of at least four bytes, by the first four. -/
def Encoding.ofFour (a b c d : UInt8) : Encoding :=
  if a = 0 then if b = 0 then .utf32 true else .utf16 true
  else if b = 0 then if c = 0 ∧ d = 0 then .utf32 false else .utf16 false
  else .utf8

def Encoding.ofBytes : List UInt8 → Encoding
  | [a, b] => if a = 0 then .utf16 true else if b = 0 then .utf16 false else .utf8
  | a :: b :: c :: d :: _ => ofFour a b c d
  | _ => .utf8

def pairValue (bigEndian : Bool) (a b : UInt8) : Nat :=
  if bigEndian then a.toNat * 0x100 + b.toNat else b.toNat * 0x100 + a.toNat

/-- The numbers that a row of bytes makes up, two bytes each. -/
def pairValues? (bigEndian : Bool) : List UInt8 → Option (List Nat)
  | [] => some []
  | a :: b :: rest => (pairValues? bigEndian rest).map fun ns => pairValue bigEndian a b :: ns
  | [_] => none

/-- The numbers that a row of pairs of bytes makes up, two pairs each. -/
def wordValues? (bigEndian : Bool) : List Nat → Option (List Nat)
  | [] => some []
  | a :: b :: rest =>
    (wordValues? bigEndian rest).map fun ns =>
      (if bigEndian then a * 0x10000 + b else b * 0x10000 + a) :: ns
  | [_] => none

/-- The code points of a text in units of two bytes. -/
def pointsOfUtf16? (bigEndian : Bool) (bytes : List UInt8) : Option (List Nat) :=
  (pairValues? bigEndian bytes).map pointsOfUnits

/-- The code points of a text in units of four bytes. None lies beyond U+10FFFF. -/
def pointsOfUtf32? (bigEndian : Bool) (bytes : List UInt8) : Option (List Nat) := do
  let points ← wordValues? bigEndian (← pairValues? bigEndian bytes)
  if points.all (· ≤ 0x10FFFF) then some points else none

end Kanban.Text
