import Kanban.Text.HexDigit
import Kanban.Text.Utf8

/-!
# Percent escapes

A percent sign with two hexadecimal digits stands for a byte. Bytes that are escaped one right after
another are read together as UTF-8. A percent sign without two digits stands for itself, and a text
without percent signs stays as it is.
-/

namespace Kanban.Text

/-- A text whose escapes are resolved, after a row of bytes that come from the escapes right before
it. -/
def unescapeFrom (pending : List UInt8) : List Char → List Char
  | [] => Utf8.decode pending
  | '%' :: a :: b :: rest =>
    match hexValue? a, hexValue? b with
    | some high, some low => unescapeFrom (pending ++ [UInt8.ofNat (16 * high + low)]) rest
    | _, _ => Utf8.decode pending ++ '%' :: unescapeFrom [] (a :: b :: rest)
  | c :: rest => Utf8.decode pending ++ c :: unescapeFrom [] rest

def unescape (cs : List Char) : List Char := unescapeFrom [] cs

theorem unescape_of_not_mem {cs : List Char} (h : '%' ∉ cs) : unescape cs = cs := by
  unfold unescape
  induction cs with
  | nil => rfl
  | cons c rest ih =>
    simp only [List.mem_cons, not_or] at h
    unfold unescapeFrom
    split
    · simp_all
    · simp_all
    · next heq =>
      obtain ⟨rfl, rfl⟩ := List.cons.inj heq
      simp [ih h.2]

end Kanban.Text
