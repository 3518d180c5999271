import Kanban.Json.Canonical
import Kanban.Json.Reader
import Mathlib

/-!
# Escapes

`Json.pointText` writes a code point so that `Json.stringBody` reads it back, whatever follows,
unless it makes a pair with the next one. A string in canonical text therefore says where it ends and
what it is: two strings with the same text are the same (`Json.stringText_append_inj`), and so are
two rows of code points (`Json.pointsText_append_inj`).
-/

namespace Kanban

namespace Text

/-! ## Hexadecimal digits -/

theorem hexValue?_digitChar {d : Nat} (h : d < 16) : hexValue? (Nat.digitChar d) = some d := by
  revert d
  decide

/-- A number of sixteen bits is written with four digits. -/
theorem hexDigits_four {n : Nat} (h : n < 0x10000) :
    hexDigits 4 n =
      [n / 0x1000, n / 0x100 % 0x10, n / 0x10 % 0x10, n % 0x10].map Nat.digitChar := by
  have hstep : ∀ {m : Nat}, 16 ≤ m →
      Nat.toDigits 16 m = Nat.toDigits 16 (m / 16) ++ [Nat.digitChar (m % 16)] :=
    Nat.toDigits_of_base_le (by decide)
  have hlast : ∀ {m : Nat}, m < 16 → Nat.toDigits 16 m = [Nat.digitChar m] :=
    Nat.toDigits_of_lt_base
  unfold hexDigits
  -- the digits that are filled up are zeros, and so are the quotients that they stand for
  by_cases h₁ : n < 0x10
  · rw [hlast h₁]
    simp [Nat.mod_eq_of_lt h₁, Nat.div_eq_of_lt h₁, Nat.div_eq_of_lt (by omega : n < 0x100),
      Nat.div_eq_of_lt (by omega : n < 0x1000)]
  by_cases h₂ : n < 0x100
  · rw [hstep (by omega), hlast (by omega)]
    simp [Nat.mod_eq_of_lt (by omega : n / 0x10 < 0x10), Nat.div_eq_of_lt h₂,
      Nat.div_eq_of_lt (by omega : n < 0x1000)]
  by_cases h₃ : n < 0x1000
  · rw [hstep (by omega), hstep (by omega), hlast (by omega)]
    simp [Nat.div_div_eq_div_mul, Nat.mod_eq_of_lt (by omega : n / 0x100 < 0x10),
      Nat.div_eq_of_lt h₃]
  · rw [hstep (by omega), hstep (by omega), hstep (by omega), hlast (by omega)]
    simp [Nat.div_div_eq_div_mul]

/-! ## Code points -/

/-- A row of code points that can stand in a string: none lies beyond U+10FFFF, and no pair of
surrogates stands in it as two. -/
structure WellFormed (points : List Nat) : Prop where
  bounded : ∀ p ∈ points, p < 0x110000
  unpaired : points.IsChain fun p q => paired? p q = none

namespace WellFormed

variable {p : Nat} {points : List Nat}

theorem cons (hp : p < 0x110000) (hpair : ∀ q ∈ points.head?, paired? p q = none)
    (h : WellFormed points) : WellFormed (p :: points) :=
  ⟨List.forall_mem_cons.mpr ⟨hp, h.bounded⟩, List.isChain_cons.mpr ⟨hpair, h.unpaired⟩⟩

theorem head_lt (h : WellFormed (p :: points)) : p < 0x110000 :=
  h.bounded p (List.mem_cons_self ..)

theorem head_unpaired (h : WellFormed (p :: points)) : ∀ q ∈ points.head?, paired? p q = none :=
  (List.isChain_cons.mp h.unpaired).1

theorem tail (h : WellFormed (p :: points)) : WellFormed points :=
  ⟨fun q hq => h.bounded q (List.mem_cons_of_mem _ hq), (List.isChain_cons.mp h.unpaired).2⟩

end WellFormed

/-- A character is no half of a pair. -/
theorem isSurrogate_toNat (c : Char) : isSurrogate c.toNat = false := by
  have hvalid : c.toNat < 0xD800 ∨ 0xDFFF < c.toNat ∧ c.toNat < 0x110000 := c.valid
  simp [isSurrogate, isHighSurrogate, isLowSurrogate]
  omega

theorem paired?_eq_none {p : Nat} (h : isHighSurrogate p = false) (q : Nat) :
    paired? p q = none := by
  simp [paired?, h]

/-- A character is no half of a pair, whatever follows it. -/
theorem toNat_unpaired (c : Char) (q : Nat) : paired? c.toNat q = none := by
  have hsurrogate := isSurrogate_toNat c
  rw [isSurrogate, Bool.or_eq_false_iff] at hsurrogate
  exact paired?_eq_none hsurrogate.1 q

theorem toNat_lt (c : Char) : c.toNat < 0x110000 := by
  have hvalid : c.toNat < 0xD800 ∨ 0xDFFF < c.toNat ∧ c.toNat < 0x110000 := c.valid
  omega

/-- Every text is a row of code points that can stand in a string. -/
theorem wellFormed_toNat (cs : List Char) : WellFormed (cs.map Char.toNat) := by
  induction cs with
  | nil => exact ⟨by simp, .nil⟩
  | cons c cs ih => exact .cons (toNat_lt c) (fun q _ => toNat_unpaired c q) ih

end Text

namespace Json

/-! ## One character -/

variable {rest after : List Char} {points : List Nat}

/-- Four hexadecimal digits are read as the number that they write. -/
theorem hexUnit?_hexDigits {n : Nat} (h : n < 0x10000) :
    ∃ a b c d, Text.hexDigits 4 n = [a, b, c, d] ∧ hexUnit? a b c d = some n := by
  refine ⟨_, _, _, _, Text.hexDigits_four h, ?_⟩
  have hdigit : ∀ m : Nat, Text.hexValue? (Nat.digitChar (m % 0x10)) = some (m % 0x10) := fun m =>
    Text.hexValue?_digitChar (Nat.mod_lt m (by decide))
  rw [hexUnit?, Text.hexValue?_digitChar (by omega), hdigit, hdigit, hdigit]
  simp only [bind, Option.bind, Option.some.injEq]
  omega

theorem stringBody_mark : stringBody ('"' :: rest) = some ([], rest) := by
  simp [stringBody]

/-- A one-letter escape is read as the character that it stands for. -/
theorem stringBody_letter {e c : Char} (he : escapedChar? e = some c)
    (h : stringBody rest = some (points, after)) :
    stringBody ('\\' :: e :: rest) = some (c.toNat :: points, after) := by
  have hu : e ≠ 'u' := by
    rintro rfl
    cases he
  simp [stringBody, hu, he, h]

/-- A character that needs no escape is read as itself. -/
theorem stringBody_char {c : Char} (hc : 0x20 ≤ c.toNat) (hmark : c ≠ '"') (hslash : c ≠ '\\')
    (h : stringBody rest = some (points, after)) :
    stringBody (c :: rest) = some (c.toNat :: points, after) := by
  simp [stringBody, hslash, h, Nat.not_lt.mpr hc]

/-- An escape that is no first half of a pair is read as its unit. -/
theorem head?_of_stringBody {e f g i : Char} {u : Nat} (hunit : hexUnit? e f g i = some u)
    (hhigh : Text.isHighSurrogate u = false)
    (h : stringBody ('\\' :: 'u' :: e :: f :: g :: i :: rest) = some (points, after)) :
    points.head? = some u := by
  have hnone : ∀ o : Option Nat, o.bind (Text.paired? u) = none := by
    intro o
    cases o with
    | none => rfl
    | some low => exact Text.paired?_eq_none hhigh low
  -- whether or not another escape follows, there is no pair to be made
  by_cases hnext : ∃ k l m n rest', rest = '\\' :: 'u' :: k :: l :: m :: n :: rest'
  · obtain ⟨k, l, m, n, rest', rfl⟩ := hnext
    simp only [stringBody, hunit, hnone, Option.bind_eq_bind, Option.bind_some] at h
    obtain ⟨⟨points', after'⟩, -, heq⟩ := Option.bind_eq_some_iff.mp h
    cases heq
    rfl
  · simp only [not_exists] at hnext
    simp only [stringBody, hunit, Option.bind_eq_bind, Option.bind_some] at h
    obtain ⟨⟨points', after'⟩, -, heq⟩ := Option.bind_eq_some_iff.mp h
    cases heq
    rfl

/-- The escape of a unit is read as that unit, unless it makes a pair with what comes next. -/
theorem stringBody_unit {u : Nat} (hu : u < 0x10000)
    (hpair : ∀ low ∈ points.head?, Text.paired? u low = none)
    (h : stringBody rest = some (points, after)) :
    stringBody (unitEscape u ++ rest) = some (u :: points, after) := by
  obtain ⟨a, b, c, d, hdigits, hunit⟩ := hexUnit?_hexDigits hu
  rw [unitEscape, hdigits]
  -- what follows may be an escape as well, but it makes no pair with this one
  by_cases hnext : ∃ e f g i rest', rest = '\\' :: 'u' :: e :: f :: g :: i :: rest'
  · obtain ⟨e, f, g, i, rest', rfl⟩ := hnext
    have hnone : (hexUnit? e f g i).bind (Text.paired? u) = none := by
      rw [Option.bind_eq_none_iff]
      intro low hlow
      by_cases hhigh : Text.isHighSurrogate low = true
      · -- a first half is no second half
        have hsecond : Text.isLowSurrogate low = false := by
          simp only [Text.isHighSurrogate, Text.isLowSurrogate, Bool.and_eq_true,
            decide_eq_true_eq, Bool.and_eq_false_iff, decide_eq_false_iff_not] at hhigh ⊢
          omega
        simp [Text.paired?, hsecond]
      · exact hpair low (head?_of_stringBody hlow (by simpa using hhigh) h)
    simp [stringBody, hunit, hnone, h]
  · simp only [not_exists] at hnext
    simp [stringBody, hunit, h]

/-- The escapes of the two halves of a pair are read as the code point that they make up. -/
theorem stringBody_pair {high low point : Nat} (hhigh : high < 0x10000) (hlow : low < 0x10000)
    (hpair : Text.paired? high low = some point) (h : stringBody rest = some (points, after)) :
    stringBody (unitEscape high ++ (unitEscape low ++ rest)) = some (point :: points, after) := by
  obtain ⟨a, b, c, d, hdigits, hunit⟩ := hexUnit?_hexDigits hhigh
  obtain ⟨e, f, g, i, hdigits', hunit'⟩ := hexUnit?_hexDigits hlow
  rw [unitEscape, unitEscape, hdigits, hdigits']
  simp [stringBody, hunit, hunit', hpair, h]

/-- The escapes of the units of a character are read as that character, whether it has one or two.
-/
theorem stringBody_units (c : Char) (h : stringBody rest = some (points, after)) :
    stringBody ((Text.unitsOfPoint c.toNat).flatMap unitEscape ++ rest) =
      some (c.toNat :: points, after) := by
  -- a character is no half of a surrogate pair
  have hvalid : c.toNat < 0xD800 ∨ 0xDFFF < c.toNat ∧ c.toNat < 0x110000 := c.valid
  unfold Text.unitsOfPoint
  split
  · rw [List.flatMap_singleton]
    exact stringBody_unit (by omega) (fun low _ => Text.toNat_unpaired c low) h
  · next hlarge =>
    obtain ⟨p, hp⟩ : ∃ p, c.toNat = 0x10000 + p := ⟨c.toNat - 0x10000, by omega⟩
    have hpair : Text.paired? (0xD800 + (c.toNat - 0x10000) / 0x400)
        (0xDC00 + (c.toNat - 0x10000) % 0x400) = some c.toNat := by
      have hhigh : Text.isHighSurrogate (0xD800 + (c.toNat - 0x10000) / 0x400) = true := by
        simp [Text.isHighSurrogate]
        omega
      have hlow : Text.isLowSurrogate (0xDC00 + (c.toNat - 0x10000) % 0x400) = true := by
        simp [Text.isLowSurrogate]
        omega
      simp [Text.paired?, hhigh, hlow]
      omega
    simpa using stringBody_pair (by omega) (by omega) hpair h

/-- However a character is written in a string, it is read back. -/
theorem stringBody_charText (c : Char) (h : stringBody rest = some (points, after)) :
    stringBody (charText c ++ rest) = some (c.toNat :: points, after) := by
  have hletter : ∀ {d e : Char}, escapedChar? e = some d → c = d →
      stringBody (['\\', e] ++ rest) = some (c.toNat :: points, after) := by
    rintro d e he rfl
    exact stringBody_letter he h
  unfold charText
  -- in the order in which the writer asks
  split_ifs with hmark hslash hn hr ht hf hb hprintable
  · exact hletter rfl hmark
  · exact hletter rfl hslash
  · exact hletter rfl hn
  · exact hletter rfl hr
  · exact hletter rfl ht
  · exact hletter rfl hf
  · exact hletter rfl hb
  · exact stringBody_char hprintable.1 hmark hslash h
  · exact stringBody_units c h

theorem pointText_toNat (c : Char) : pointText c.toNat = charText c := by
  have hsurrogate : Text.isSurrogate c.toNat = false := Text.isSurrogate_toNat c
  simp [pointText, hsurrogate]

/-- However a code point is written in a string, it is read back, unless it makes a pair with what
comes next. -/
theorem stringBody_pointText {p : Nat} (hp : p < 0x110000)
    (hpair : ∀ low ∈ points.head?, Text.paired? p low = none)
    (h : stringBody rest = some (points, after)) :
    stringBody (pointText p ++ rest) = some (p :: points, after) := by
  by_cases hsurrogate : Text.isSurrogate p = true
  · have hunit : p < 0x10000 := by
      simp [Text.isSurrogate, Text.isHighSurrogate, Text.isLowSurrogate] at hsurrogate
      omega
    rw [pointText, if_pos hsurrogate]
    exact stringBody_unit hunit hpair h
  · obtain ⟨c, rfl⟩ : ∃ c : Char, p = c.toNat := by
      simp [Text.isSurrogate, Text.isHighSurrogate, Text.isLowSurrogate] at hsurrogate
      refine ⟨Char.ofNat p, ?_⟩
      rw [Char.toNat_ofNat, if_pos (by unfold Nat.isValidChar; omega)]
    rw [pointText_toNat]
    exact stringBody_charText c h

/-! ## Whole strings -/

/-- A row of code points that can stand in a string is read back from what is written between the
marks. -/
theorem stringBody_points (hpoints : Text.WellFormed points) (rest : List Char) :
    stringBody (points.flatMap pointText ++ '"' :: rest) = some (points, rest) := by
  induction points with
  | nil => exact stringBody_mark
  | cons p points ih =>
    rw [List.flatMap_cons, List.append_assoc]
    exact stringBody_pointText hpoints.head_lt hpoints.head_unpaired (ih hpoints.tail)

/-- A string is determined by its text, and so is what follows it. -/
theorem pointsText_append_inj {points points' : List Nat} {rest rest' : List Char}
    (hpoints : Text.WellFormed points) (hpoints' : Text.WellFormed points')
    (h : pointsText points ++ rest = pointsText points' ++ rest') :
    points = points' ∧ rest = rest' := by
  have hbody : points.flatMap pointText ++ '"' :: rest =
      points'.flatMap pointText ++ '"' :: rest' := by
    simpa [pointsText] using h
  have hread := stringBody_points hpoints rest
  rw [hbody, stringBody_points hpoints', Option.some.injEq, Prod.mk.injEq] at hread
  exact ⟨hread.1.symm, hread.2.symm⟩

theorem stringText_eq (s : String) : stringText s = pointsText (s.toList.map Char.toNat) := by
  rw [stringText, pointsText, List.flatMap_map]
  simp only [pointText_toNat]

/-- The text of a string tells it, and where it ends. -/
theorem stringText_append_inj {s t : String} {rest rest' : List Char}
    (h : stringText s ++ rest = stringText t ++ rest') : s = t ∧ rest = rest' := by
  rw [stringText_eq, stringText_eq] at h
  obtain ⟨hpoints, hrest⟩ :=
    pointsText_append_inj (Text.wellFormed_toNat _) (Text.wellFormed_toNat _) h
  have hchars : s.toList = t.toList :=
    List.map_injective_iff.mpr (fun c d hcd => Char.toNat_inj.mp hcd) hpoints
  exact ⟨String.toList_injective hchars, hrest⟩

end Json
end Kanban
