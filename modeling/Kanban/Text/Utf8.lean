/-!
# Reading UTF-8

A row of bytes as text. Every row can be read: where bytes do not make up a character, the
replacement character stands for them, one for each longest run of bytes that begins a character and
does not complete it, and one for each byte that begins none.
-/

namespace Kanban.Text.Utf8

/-- The character that stands for bytes that make up none. -/
def replacement : Char := '\uFFFD'

structure Unfinished where
  /-- How many bytes are still to come. -/
  owed : Nat
  /-- The smallest byte that may come next. -/
  low : Nat
  /-- The largest byte that may come next. -/
  high : Nat
  /-- The number that the bytes read so far make up. -/
  bits : Nat
deriving DecidableEq, Repr

/-- Any byte that continues a character may come next. -/
def owing (owed bits : Nat) : Unfinished := ⟨owed, 0x80, 0xBF, bits⟩

/-- What a byte leads to at the beginning of a character: the characters that are complete, and the
one that is not. The bounds of the second byte leave out what a shorter row could write, the
surrogates, and what lies beyond U+10FFFF. -/
def begin (b : Nat) : List Char × Option Unfinished :=
  if b ≤ 0x7F then ([Char.ofNat b], none)
  else if 0xC2 ≤ b ∧ b ≤ 0xDF then ([], some (owing 1 (b - 0xC0)))
  else if b = 0xE0 then ([], some ⟨2, 0xA0, 0xBF, 0⟩)
  else if b = 0xED then ([], some ⟨2, 0x80, 0x9F, b - 0xE0⟩)
  else if 0xE1 ≤ b ∧ b ≤ 0xEF then ([], some (owing 2 (b - 0xE0)))
  else if b = 0xF0 then ([], some ⟨3, 0x90, 0xBF, 0⟩)
  else if 0xF1 ≤ b ∧ b ≤ 0xF3 then ([], some (owing 3 (b - 0xF0)))
  else if b = 0xF4 then ([], some ⟨3, 0x80, 0x8F, b - 0xF0⟩)
  else ([replacement], none)

/-- What a byte leads to, perhaps within a character. -/
def step (unfinished : Option Unfinished) (b : Nat) : List Char × Option Unfinished :=
  match unfinished with
  | none => begin b
  | some u =>
    if u.low ≤ b ∧ b ≤ u.high then
      let bits := u.bits * 0x40 + (b - 0x80)
      if u.owed ≤ 1 then ([Char.ofNat bits], none) else ([], some (owing (u.owed - 1) bits))
    else
      let (cs, next) := begin b
      (replacement :: cs, next)

/-- The characters of a row of bytes, perhaps from within a character on. -/
def decodeFrom (unfinished : Option Unfinished) : List UInt8 → List Char
  | [] => if unfinished.isSome then [replacement] else []
  | b :: rest =>
    let (cs, next) := step unfinished b.toNat
    cs ++ decodeFrom next rest

def decode (bytes : List UInt8) : List Char := decodeFrom none bytes

@[simp] theorem decode_nil : decode [] = [] := rfl

def encode (s : String) : List UInt8 := s.toUTF8.toList

end Kanban.Text.Utf8
