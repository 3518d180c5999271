import Kanban.Json
import Kanban.Double.Shortest
import Kanban.Text.Quoted

/-!
# Canonical JSON text

One text for each JSON value up to the order of object fields. The fields of an object stand in the
order of the code points of their names, a comma and a colon are followed by one space, and every
character outside U+0020 to U+007E is escaped, those above U+FFFF as a surrogate pair.
-/

namespace Kanban.Json

def unitEscape (unit : Nat) : List Char := '\\' :: 'u' :: Text.hexDigits 4 unit

def charText (c : Char) : List Char :=
  if c = '"' then ['\\', '"']
  else if c = '\\' then ['\\', '\\']
  else if c = '\n' then ['\\', 'n']
  else if c = '\r' then ['\\', 'r']
  else if c = '\t' then ['\\', 't']
  else if c = '\x0C' then ['\\', 'f']
  else if c = '\x08' then ['\\', 'b']
  else if 0x20 ≤ c.toNat ∧ c.toNat ≤ 0x7E then [c]
  else (Text.unitsOfPoint c.toNat).flatMap unitEscape

/-- A string with its marks. -/
def stringText (s : String) : List Char := '"' :: (s.toList.flatMap charText ++ ['"'])

def pointText (point : Nat) : List Char :=
  if Text.isSurrogate point then unitEscape point else charText (Char.ofNat point)

def pointsText (points : List Nat) : List Char := '"' :: (points.flatMap pointText ++ ['"'])

def intText (n : Int) : List Char :=
  if n < 0 then '-' :: Nat.toDigits 10 n.natAbs else Nat.toDigits 10 n.natAbs

/-- Pieces of text with a comma and a space between them. -/
def joined : List (List Char) → List Char
  | [] => []
  | [piece] => piece
  | piece :: rest => piece ++ ',' :: ' ' :: joined rest

def fieldLe (a b : String × List Char) : Bool :=
  !(b.1.toList.lex a.1.toList fun c d => c.toNat < d.toNat)

def fieldText (field : String × List Char) : List Char :=
  stringText field.1 ++ ':' :: ' ' :: field.2

mutual

def canonicalChars : Json → List Char
  | .null => ['n', 'u', 'l', 'l']
  | .bool true => ['t', 'r', 'u', 'e']
  | .bool false => ['f', 'a', 'l', 's', 'e']
  | .int n => intText n
  | .float x => x.text Double.jsonLayout
  | .text s => stringText s
  | .illFormed points => pointsText points
  | .list items => '[' :: (joined (itemTexts items) ++ [']'])
  | .object fields =>
    '\x7b' :: (joined (((fieldTexts fields).mergeSort fieldLe).map fieldText) ++ ['\x7d'])

def itemTexts : List Json → List (List Char)
  | [] => []
  | j :: rest => canonicalChars j :: itemTexts rest

def fieldTexts : List (String × Json) → List (String × List Char)
  | [] => []
  | (name, j) :: rest => (name, canonicalChars j) :: fieldTexts rest

end

/-- The canonical text of a value. -/
def canonical (j : Json) : String := String.ofList (canonicalChars j)

end Kanban.Json
