import Kanban.Text.Surrogate

/-!
# Blank characters

Two classes of blanks. *White space* is the property `White_Space` of Unicode; numerals may be
surrounded by it. *Blanks* are white space and the four information separators U+001C to U+001F;
they are what trimming removes from a text.
-/

namespace Kanban.Text

def whiteSpaceRanges : List (Nat × Nat) :=
  [(0x9, 0xD), (0x20, 0x20), (0x85, 0x85), (0xA0, 0xA0), (0x1680, 0x1680), (0x2000, 0x200A),
    (0x2028, 0x2029), (0x202F, 0x202F), (0x205F, 0x205F), (0x3000, 0x3000)]

def isWhiteSpace (c : Char) : Bool :=
  whiteSpaceRanges.any fun (first, last) => first ≤ c.toNat && c.toNat ≤ last

/-- Whether trimming removes a character. -/
def isBlank (c : Char) : Bool := isWhiteSpace c || (0x1C ≤ c.toNat && c.toNat ≤ 0x1F)

/-- Whether trimming removes a code point, which need not be a character. -/
def isBlankPoint (point : Nat) : Bool := !isSurrogate point && isBlank (Char.ofNat point)

/-- A list without the members of a class at its two ends. -/
def strip {α : Type} (p : α → Bool) (cs : List α) : List α :=
  ((cs.dropWhile p).reverse.dropWhile p).reverse

def trim (s : String) : String := String.ofList (strip isBlank s.toList)

def isBlankText (s : String) : Bool := s.toList.all isBlank

end Kanban.Text
