import Kanban.Text.HexDigit
import Kanban.Text.Printable
import Kanban.Text.Surrogate

/-!
# Quoted text

A text between quotation marks on one line, as messages show the text of a setting. The marks are
apostrophes, unless the text holds an apostrophe and no double quote. The mark in use and the
backslash are escaped, and so are the characters that cannot be printed.
-/

namespace Kanban.Text

def quotedChar (mark c : Char) : List Char :=
  if c = mark ∨ c = '\\' then ['\\', c]
  else if c = '\t' then ['\\', 't']
  else if c = '\n' then ['\\', 'n']
  else if c = '\r' then ['\\', 'r']
  else if isPrintable c then [c]
  else if c.toNat ≤ 0xFF then '\\' :: 'x' :: hexDigits 2 c.toNat
  else if c.toNat ≤ 0xFFFF then '\\' :: 'u' :: hexDigits 4 c.toNat
  else '\\' :: 'U' :: hexDigits 8 c.toNat

/-- The marks around a text. -/
def quotationMark (cs : List Char) : Char :=
  if cs.contains '\'' && !cs.contains '"' then '"' else '\''

def quoted (s : String) : String :=
  let mark := quotationMark s.toList
  String.ofList (mark :: (s.toList.flatMap (quotedChar mark) ++ [mark]))

def quotedPoint (mark : Char) (point : Nat) : List Char :=
  if isSurrogate point then '\\' :: 'u' :: hexDigits 4 point else quotedChar mark (Char.ofNat point)

/-- The text of a row of code points between quotation marks. -/
def quotedPoints (points : List Nat) : String :=
  let mark := quotationMark (ofPoints points).toList
  String.ofList (mark :: (points.flatMap (quotedPoint mark) ++ [mark]))

end Kanban.Text
