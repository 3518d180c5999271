/-!
# Surrogates

The code points U+D800 to U+DFFF are no characters. A character above U+FFFF is written as a pair of
them, a high one and a low one, where text comes in units of sixteen bits. A text in which half of
such a pair stands alone is a row of code points and no row of characters.
-/

namespace Kanban.Text

def isHighSurrogate (point : Nat) : Bool := 0xD800 ≤ point && point ≤ 0xDBFF

def isLowSurrogate (point : Nat) : Bool := 0xDC00 ≤ point && point ≤ 0xDFFF

def isSurrogate (point : Nat) : Bool := isHighSurrogate point || isLowSurrogate point

def paired? (high low : Nat) : Option Nat :=
  if isHighSurrogate high && isLowSurrogate low then
    some (0x10000 + (high - 0xD800) * 0x400 + (low - 0xDC00))
  else none

/-- The code points of a row of units. A half without the other half stays as it is. -/
def pointsOfUnits : List Nat → List Nat
  | [] => []
  | [unit] => [unit]
  | high :: low :: rest =>
    match paired? high low with
    | some point => point :: pointsOfUnits rest
    | none => high :: pointsOfUnits (low :: rest)

def unitsOfPoint (point : Nat) : List Nat :=
  if point ≤ 0xFFFF then [point]
  else [0xD800 + (point - 0x10000) / 0x400, 0xDC00 + (point - 0x10000) % 0x400]

/-- The text of a row of code points, if no half stands alone in it. -/
def ofPoints? (points : List Nat) : Option String :=
  if points.any isSurrogate then none else some (String.ofList (points.map Char.ofNat))

/-- The text of a row of code points, in which the replacement character stands for each half that
stands alone. -/
def ofPoints (points : List Nat) : String :=
  String.ofList (points.map fun p => if isSurrogate p then '\uFFFD' else Char.ofNat p)

end Kanban.Text
