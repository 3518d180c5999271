import Kanban.Proofs.Work
import Kanban.Startup.Environment
import Mathlib.Data.List.DropRight
import Mathlib.Data.List.Forall2
import Mathlib.Data.Nat.Digits.Defs

/-!
# Spellings of integers

An integer variable is read from any text. What counts is the core of the text: what is left of it
without underscores and without the white space around. When the core spells an integer, with a sign
if there is one and a row of digits (`Numeral.Spells`), the variable has that value, and in every
other case it has its default (`Environment.integer_spelled`). The digits may come from any script,
each of them from another one.
-/

namespace Kanban

/-! ## Digits -/

namespace Text

/-- A character is the digit with a value below ten in one of the scripts. -/
def Denotes (c : Char) (value : Nat) : Prop :=
  value < 10 ∧ ∃ z ∈ digitZeros, c.toNat = z + value

/-- No two blocks of digits overlap. -/
theorem digitZeros_apart :
    ∀ z ∈ digitZeros, ∀ other ∈ digitZeros, z = other ∨ z + 10 ≤ other ∨ other + 10 ≤ z := by
  decide +kernel

/-- A digit of any script has the value by which it follows the zero of its block. -/
theorem digitValue?_eq_some_iff {c : Char} {value : Nat} :
    digitValue? c = some value ↔ Denotes c value := by
  unfold digitValue?
  rw [Option.map_eq_some_iff]
  constructor
  · rintro ⟨z, hfind, rfl⟩
    have hmem := List.mem_of_find?_eq_some hfind
    have hrange := List.find?_some hfind
    simp only [Bool.and_eq_true, decide_eq_true_eq] at hrange
    exact ⟨by omega, z, hmem, by omega⟩
  · rintro ⟨hlt, z, hmem, hc⟩
    -- the block is found, and blocks do not overlap, so the block that is found is this one
    have hsome : (digitZeros.find? fun z => z ≤ c.toNat && c.toNat < z + 10).isSome := by
      rw [List.find?_isSome]
      refine ⟨z, hmem, ?_⟩
      simp only [Bool.and_eq_true, decide_eq_true_eq]
      omega
    obtain ⟨other, hother⟩ := Option.isSome_iff_exists.mp hsome
    have hrange := List.find?_some hother
    simp only [Bool.and_eq_true, decide_eq_true_eq] at hrange
    have happart := digitZeros_apart z hmem other (List.mem_of_find?_eq_some hother)
    exact ⟨other, hother, by omega⟩

theorem isDecimalDigit_iff {c : Char} : isDecimalDigit c = true ↔ ∃ value, Denotes c value := by
  rw [isDecimalDigit, Option.isSome_iff_exists]
  simp only [digitValue?_eq_some_iff]

/-- No block of digits meets a range of blanks. -/
theorem digitZeros_apart_from_blanks :
    ∀ z ∈ digitZeros, 0x20 ≤ z ∧ ∀ range ∈ whiteSpaceRanges, z + 10 ≤ range.1 ∨ range.2 < z := by
  decide +kernel

/-- No digit is trimmed away. -/
theorem not_isBlank_of_isDecimalDigit {c : Char} (h : isDecimalDigit c = true) :
    isBlank c = false := by
  obtain ⟨value, hlt, z, hmem, hc⟩ := isDecimalDigit_iff.mp h
  obtain ⟨hlow, hranges⟩ := digitZeros_apart_from_blanks z hmem
  have hwhite : isWhiteSpace c = false := by
    rw [isWhiteSpace, List.any_eq_false]
    rintro ⟨first, last⟩ hrange
    have := hranges (first, last) hrange
    simp only [Bool.and_eq_true, decide_eq_true_eq]
    omega
  rw [isBlank, hwhite, Bool.false_or, Bool.and_eq_false_iff, decide_eq_false_iff_not,
    decide_eq_false_iff_not]
  omega

theorem isWhiteSpace_eq_false_of_isBlank {c : Char} (h : isBlank c = false) :
    isWhiteSpace c = false := by
  rw [isBlank, Bool.or_eq_false_iff] at h
  exact h.1

/-! ## Trimming -/

section Strip

variable {α : Type} {p : α → Bool}

theorem mem_of_mem_strip {x : α} {cs : List α} (h : x ∈ strip p cs) : x ∈ cs := by
  rw [strip, List.mem_reverse] at h
  have h' := (List.dropWhile_sublist p).mem h
  rw [List.mem_reverse] at h'
  exact (List.dropWhile_sublist p).mem h'

theorem dropWhile_append_cons {x : α} (hx : p x = false) (l r : List α) :
    (l ++ x :: r).dropWhile p = l.dropWhile p ++ x :: r := by
  rw [List.dropWhile_append, List.dropWhile_cons_of_neg (by simp [hx])]
  split
  · next hnil => rw [List.isEmpty_iff.mp hnil, List.nil_append]
  · rfl

/-- Around a member that stays, each side is trimmed for itself. -/
theorem strip_append_cons {x : α} (hx : p x = false) (l r : List α) :
    strip p (l ++ x :: r) = l.dropWhile p ++ x :: (r.reverse.dropWhile p).reverse := by
  rw [strip, dropWhile_append_cons hx, List.reverse_append, List.reverse_cons, List.append_assoc,
    List.singleton_append, dropWhile_append_cons hx]
  simp

/-- What is not of the class stays, wherever it stands. -/
theorem mem_strip {x : α} {cs : List α} (h : x ∈ cs) (hx : p x = false) : x ∈ strip p cs := by
  obtain ⟨l, r, rfl⟩ := List.append_of_mem h
  rw [strip_append_cons hx]
  exact List.mem_append_right _ List.mem_cons_self

/-- Trimming takes nothing that stands between two members that stay. -/
theorem mem_strip_of_between {x w y : α} (hx : p x = false) (hy : p y = false)
    (l₁ l₂ l₃ l₄ : List α) :
    w ∈ strip p (l₁ ++ x :: (l₂ ++ w :: (l₃ ++ y :: l₄))) := by
  have hreverse : (l₂ ++ w :: (l₃ ++ y :: l₄)).reverse =
      l₄.reverse ++ y :: (l₃.reverse ++ w :: l₂.reverse) := by simp
  rw [strip_append_cons hx, hreverse, dropWhile_append_cons hy]
  simp

/-- Trimming takes the margins of a list all of whose members stay. -/
theorem strip_of_margins {left cs right : List α} (hleft : ∀ x ∈ left, p x = true)
    (hcs : ∀ x ∈ cs, p x = false) (hright : ∀ x ∈ right, p x = true) :
    strip p (left ++ cs ++ right) = cs := by
  cases cs with
  | nil =>
    rw [List.append_nil, strip, List.dropWhile_append_of_pos hleft,
      List.dropWhile_eq_nil_iff.mpr hright]
    rfl
  | cons x rest =>
    obtain ⟨hx, hrest⟩ := List.forall_mem_cons.mp hcs
    -- what is left between the margins has nothing to be trimmed at its end
    have hrow : rest.reverse.dropWhile p = rest.reverse := by
      rw [List.dropWhile_eq_self_iff]
      intro hlength hp
      have := hrest _ (List.mem_reverse.mp (List.getElem_mem hlength))
      rw [this] at hp
      cases hp
    rw [List.append_assoc, List.cons_append, strip_append_cons hx,
      List.dropWhile_eq_nil_iff.mpr hleft, List.reverse_append,
      List.dropWhile_append_of_pos (by simpa using hright), hrow]
    simp

end Strip

end Text

/-! ## Spellings -/

namespace Numeral

/-- Characters write a natural number: they are decimal digits, at least one of them and at most
4300, and the first one counts most. -/
def Row (cs : List Char) (n : Nat) : Prop :=
  ∃ digits, List.Forall₂ Text.Denotes cs digits ∧ digits ≠ [] ∧ digits.length ≤ 4300 ∧
    n = Nat.ofDigits 10 digits.reverse

/-- Characters spell an integer: a sign, if there is one, and a row of digits. -/
inductive Spells : List Char → Int → Prop where
  | unsigned {cs : List Char} {n : Nat} (h : Row cs n) : Spells cs n
  | plus {cs : List Char} {n : Nat} (h : Row cs n) : Spells ('+' :: cs) n
  | minus {cs : List Char} {n : Nat} (h : Row cs n) : Spells ('-' :: cs) (-n)

/-- The digits of a number are read from the most significant one on. -/
theorem ofDigits_eq (digits : List Nat) : ofDigits digits = Nat.ofDigits 10 digits.reverse := by
  rw [Nat.ofDigits_eq_foldr, List.foldr_reverse, ofDigits]
  congr 1
  funext n d
  simp [add_comm]

/-- A row that writes a number is made of digits alone. -/
theorem Row.isDecimalDigit {cs : List Char} {n : Nat} (h : Row cs n) :
    ∀ c ∈ cs, Text.isDecimalDigit c = true := by
  obtain ⟨digits, hdigits, -⟩ := h
  intro c hc
  induction hdigits with
  | nil => cases hc
  | cons hfirst hrest ih =>
    rcases List.mem_cons.mp hc with rfl | hc
    · exact Text.isDecimalDigit_iff.mpr ⟨_, hfirst⟩
    · exact ih hc

/-- Where no underscore separates them, characters are a row of digit values when each of them is a
digit. -/
theorem digitValues?_eq_some_iff {cs : List Char} (h : '_' ∉ cs) {digits : List Nat} :
    digitValues? cs = some digits ↔ List.Forall₂ Text.Denotes cs digits ∧ digits ≠ [] := by
  -- by the recursion of the reader, in which the case of a separating underscore cannot arise
  fun_induction digitValues? cs generalizing digits with
  | case1 => simp
  | case2 c =>
    rw [Option.map_eq_some_iff]
    simp only [Text.digitValue?_eq_some_iff]
    constructor
    · rintro ⟨d, hd, rfl⟩
      exact ⟨.cons hd .nil, List.cons_ne_nil d []⟩
    · rintro ⟨hdigits, -⟩
      cases hdigits with
      | cons hd hnil =>
        cases hnil
        exact ⟨_, hd, rfl⟩
  | case3 c rest => exact absurd (List.mem_cons_of_mem c List.mem_cons_self) h
  | case4 c rest hsingle _ ih =>
    have hrest : ∀ {ds : List Nat}, digitValues? rest = some ds ↔
        List.Forall₂ Text.Denotes rest ds ∧ ds ≠ [] := ih (List.not_mem_of_not_mem_cons h)
    simp only [Option.bind_eq_bind, Option.bind_eq_some_iff, Option.some.injEq,
      Text.digitValue?_eq_some_iff, hrest]
    constructor
    · rintro ⟨d, hd, ds, ⟨hds, -⟩, rfl⟩
      exact ⟨.cons hd hds, List.cons_ne_nil d ds⟩
    · rintro ⟨hdigits, -⟩
      cases hdigits with
      | cons hd hds =>
        next d ds =>
        refine ⟨d, hd, ds, ⟨hds, ?_⟩, rfl⟩
        rintro rfl
        cases hds
        exact hsingle rfl

theorem isRowChar_of_isDecimalDigit {c : Char} (h : Text.isDecimalDigit c = true) :
    isRowChar c = true := by
  rw [isRowChar, h, Bool.true_or]

/-- A row of digits is read as the number that it writes. -/
theorem magnitude_eq_ok {cs : List Char} (h : '_' ∉ cs) {n : Nat} :
    magnitude cs = .ok n ↔ Row cs n := by
  constructor
  · intro hread
    unfold magnitude at hread
    split at hread
    · cases hread
    · next digits hdigits =>
      split at hread
      · cases hread
      · next hlength =>
        split at hread
        · next hempty =>
          cases hread
          -- nothing is left after the row, so the row is all there is
          have hall : cs.takeWhile isRowChar = cs := by
            have happend := List.takeWhile_append_dropWhile (p := isRowChar) (l := cs)
            rwa [List.isEmpty_iff.mp hempty, List.append_nil] at happend
          rw [hall] at hdigits
          obtain ⟨hrow, hne⟩ := (digitValues?_eq_some_iff h).mp hdigits
          exact ⟨digits, hrow, hne, not_lt.mp hlength, ofDigits_eq digits⟩
        · cases hread
  · intro hrow
    have hchars : ∀ c ∈ cs, isRowChar c = true := fun c hc =>
      isRowChar_of_isDecimalDigit (hrow.isDecimalDigit c hc)
    obtain ⟨digits, hdigits, hne, hlength, rfl⟩ := hrow
    have hvalues : digitValues? cs = some digits := (digitValues?_eq_some_iff h).mpr ⟨hdigits, hne⟩
    have hshort : ¬ maxDigits < digits.length := not_lt.mpr hlength
    unfold magnitude
    rw [List.takeWhile_eq_self_iff.mpr hchars, List.dropWhile_eq_nil_iff.mpr hchars, hvalues]
    show (if maxDigits < digits.length then _ else _) = _
    rw [if_neg hshort, if_pos List.isEmpty_nil, ofDigits_eq]

/-- A row of digits begins with a digit. -/
theorem not_row_cons {c : Char} (h : Text.isDecimalDigit c = false) (cs : List Char) (n : Nat) :
    ¬ Row (c :: cs) n := by
  intro hrow
  have hdigit := hrow.isDecimalDigit c List.mem_cons_self
  rw [h] at hdigit
  cases hdigit

/-- Without underscores, a row is read as a number just when it writes that number. -/
theorem map_magnitude_eq_ok {cs : List Char} (h : '_' ∉ cs) {f : Int → Int} {n : Int} :
    (do let m ← magnitude cs; pure (m : Int) : Except Defect Int).map f = .ok n ↔
      ∃ m : Nat, Row cs m ∧ f m = n := by
  rw [except_map_eq_ok]
  constructor
  · rintro ⟨_, hread, rfl⟩
    obtain ⟨m, hm, hcast⟩ := except_bind_eq_ok.mp hread
    exact ⟨m, (magnitude_eq_ok h).mp hm, by rw [Except.ok.inj hcast]⟩
  · rintro ⟨m, hm, rfl⟩
    exact ⟨m, except_bind_eq_ok.mpr ⟨m, (magnitude_eq_ok h).mpr hm, rfl⟩, rfl⟩

/-- Characters are read as the integer that they spell. -/
theorem signed_eq_ok {cs : List Char} (h : '_' ∉ cs) {n : Int} :
    signed cs = .ok n ↔ Spells cs n := by
  unfold signed
  split
  · next rest =>
    rw [map_magnitude_eq_ok (List.not_mem_of_not_mem_cons h)]
    constructor
    · rintro ⟨m, hm, rfl⟩
      exact .minus hm
    · intro hspells
      cases hspells with
      | unsigned hrow => exact absurd hrow (not_row_cons (by decide) rest _)
      | minus hrow => exact ⟨_, hrow, rfl⟩
  · next rest =>
    rw [map_magnitude_eq_ok (List.not_mem_of_not_mem_cons h)]
    constructor
    · rintro ⟨m, hm, rfl⟩
      exact .plus hm
    · intro hspells
      cases hspells with
      | unsigned hrow => exact absurd hrow (not_row_cons (by decide) rest _)
      | plus hrow => exact ⟨_, hrow, rfl⟩
  -- no sign, so the whole text is the row
  · next hminus hplus =>
    rw [map_magnitude_eq_ok h]
    constructor
    · rintro ⟨m, hm, rfl⟩
      exact .unsigned hm
    · intro hspells
      cases hspells with
      | unsigned hrow => exact ⟨_, hrow, rfl⟩
      | plus hrow => exact absurd rfl (hplus _)
      | minus hrow => exact absurd rfl (hminus _)

/-- A spelling has a digit, and no characters but digits and signs. -/
theorem Spells.characters {cs : List Char} {n : Int} (h : Spells cs n) :
    (∃ c ∈ cs, Text.isDecimalDigit c = true) ∧
      ∀ c ∈ cs, Text.isDecimalDigit c = true ∨ c = '+' ∨ c = '-' := by
  have hrow : ∀ {cs : List Char} {m : Nat}, Row cs m → ∃ c ∈ cs, Text.isDecimalDigit c = true := by
    intro cs m h
    obtain ⟨digits, hdigits, hne, -⟩ := h
    cases hdigits with
    | nil => exact absurd rfl hne
    | cons hfirst hrest => exact ⟨_, List.mem_cons_self, Text.isDecimalDigit_iff.mpr ⟨_, hfirst⟩⟩
  cases h with
  | unsigned h => exact ⟨hrow h, fun c hc => .inl (h.isDecimalDigit c hc)⟩
  | plus h | minus h =>
    obtain ⟨c, hc, hdigit⟩ := hrow h
    refine ⟨⟨c, List.mem_cons_of_mem _ hc, hdigit⟩, fun c hc => ?_⟩
    rcases List.mem_cons.mp hc with rfl | hc
    · simp
    · exact .inl (h.isDecimalDigit c hc)

/-- What spells an integer holds no white space, so there is nothing to be trimmed within it. -/
theorem Spells.not_isWhiteSpace {cs : List Char} {n : Int} (h : Spells cs n) :
    ∀ c ∈ cs, Text.isWhiteSpace c = false := by
  intro c hc
  rcases h.characters.2 c hc with hdigit | rfl | rfl
  · exact Text.isWhiteSpace_eq_false_of_isBlank (Text.not_isBlank_of_isDecimalDigit hdigit)
  · decide
  · decide

end Numeral

/-! ## Integer variables -/

namespace Environment

/-- The characters of a text that count: without underscores, and without the white space around
what is left. -/
def core (s : String) : List Char := Text.strip Text.isWhiteSpace (s.toList.filter (· ≠ '_'))

theorem mem_of_mem_core {s : String} {c : Char} (h : c ∈ core s) : c ∈ s.toList ∧ c ≠ '_' := by
  have hmem := List.mem_filter.mp (Text.mem_of_mem_strip h)
  exact ⟨hmem.1, of_decide_eq_true hmem.2⟩

theorem underscore_not_mem_core (s : String) : '_' ∉ core s := fun h => (mem_of_mem_core h).2 rfl

/-- A character that is neither an underscore nor white space counts wherever it stands. -/
theorem mem_core {s : String} {c : Char} (h : c ∈ s.toList) (hc : c ≠ '_')
    (hwhite : Text.isWhiteSpace c = false) : c ∈ core s :=
  Text.mem_strip (List.mem_filter.mpr ⟨h, decide_eq_true hc⟩) hwhite

/-- A variable that spells an integer has its value, however it is surrounded. -/
theorem integer_of_spells {s : String} {n : Int} (h : Numeral.Spells (core s) n) (default : Int) :
    integer (some s) default = n := by
  have hblank : Text.isBlankText s = false := by
    obtain ⟨c, hc, hdigit⟩ := h.characters.1
    rw [Text.isBlankText, List.all_eq_false]
    exact ⟨c, (mem_of_mem_core hc).1, by simp [Text.not_isBlank_of_isDecimalDigit hdigit]⟩
  have hread : Numeral.read (String.ofList (s.toList.filter (· ≠ '_'))) = .ok n := by
    rw [Numeral.read, String.toList_ofList]
    exact (Numeral.signed_eq_ok (underscore_not_mem_core s)).mpr h
  show (if Text.isBlankText s = true then _ else _) = _
  rw [hblank, hread]
  rfl

/-- A variable that spells no integer has the default. -/
theorem integer_of_not_spells {s : String} (h : ∀ n, ¬ Numeral.Spells (core s) n) (default : Int) :
    integer (some s) default = default := by
  unfold integer
  split
  · rfl
  · next s' heq =>
    cases heq
    split
    · rfl
    · split
      · next n hread =>
        rw [Numeral.read, String.toList_ofList] at hread
        exact absurd ((Numeral.signed_eq_ok (underscore_not_mem_core s)).mp hread) (h n)
      · rfl

/-- White space between other characters counts. -/
theorem mem_core_of_between {s : String} {l₁ l₂ l₃ l₄ : List Char} {x w y : Char}
    (hs : s.toList = l₁ ++ x :: (l₂ ++ w :: (l₃ ++ y :: l₄))) (hw : Text.isWhiteSpace w = true)
    (hx : x ≠ '_' ∧ Text.isWhiteSpace x = false) (hy : y ≠ '_' ∧ Text.isWhiteSpace y = false) :
    w ∈ core s := by
  have hne : w ≠ '_' := by
    rintro rfl
    exact absurd hw (by decide)
  rw [core, hs]
  simp only [List.filter_append, List.filter_cons, decide_eq_true hx.1, decide_eq_true hne,
    decide_eq_true hy.1, if_true]
  exact Text.mem_strip_of_between hx.2 hy.2 _ _ _ _

/-- An integer variable has the integer that its text spells, and its default when the text spells
none; there is no text for which it has no value. A spelling may have underscores anywhere and
spaces around it. A text without digits spells no integer, and neither does one with white space
between other characters, or one with a point or the mark of an exponent. -/
theorem integer_spelled (s : String) (default : Int) :
    (Numeral.Spells (core s) (integer (some s) default) ∨
      (∀ n, ¬ Numeral.Spells (core s) n) ∧ integer (some s) default = default) ∧
    (∀ (n : Int) (cs : List Char) (left right : Nat), Numeral.Spells cs n →
      s.toList.filter (· ≠ '_') = List.replicate left ' ' ++ cs ++ List.replicate right ' ' →
      integer (some s) default = n) ∧
    ((∀ c ∈ s.toList, Text.isDecimalDigit c = false) → integer (some s) default = default) ∧
    (∀ (l₁ l₂ l₃ l₄ : List Char) (x w y : Char),
      s.toList = l₁ ++ x :: (l₂ ++ w :: (l₃ ++ y :: l₄)) → Text.isWhiteSpace w = true →
      x ≠ '_' ∧ Text.isWhiteSpace x = false → y ≠ '_' ∧ Text.isWhiteSpace y = false →
      integer (some s) default = default) ∧
    ∀ c ∈ ['.', 'e', 'E'], c ∈ s.toList → integer (some s) default = default := by
  refine ⟨?_, ?_, ?_, ?_, ?_⟩
  -- whether or not the core spells an integer, it is read so
  · by_cases h : ∃ n, Numeral.Spells (core s) n
    · obtain ⟨n, hn⟩ := h
      left
      rw [integer_of_spells hn]
      exact hn
    · rw [not_exists] at h
      exact .inr ⟨h, integer_of_not_spells h default⟩
  · intro n cs left right hspells hs
    have hspace : ∀ k, ∀ c ∈ List.replicate k ' ', Text.isWhiteSpace c = true := by
      intro k c hc
      rw [List.eq_of_mem_replicate hc]
      decide
    -- the underscores are gone, and the margins are trimmed
    have hcore : core s = cs := by
      rw [core, hs]
      exact Text.strip_of_margins (hspace left) hspells.not_isWhiteSpace (hspace right)
    exact integer_of_spells (hcore ▸ hspells) default
  · intro hnone
    refine integer_of_not_spells (fun n hspells => ?_) default
    -- what spells an integer has a digit
    obtain ⟨c, hc, hdigit⟩ := hspells.characters.1
    rw [hnone c (mem_of_mem_core hc).1] at hdigit
    cases hdigit
  · intro l₁ l₂ l₃ l₄ x w y hs hw hx hy
    refine integer_of_not_spells (fun n hspells => ?_) default
    -- the blank lies between two characters that count, so it is not trimmed away
    have hnot := hspells.not_isWhiteSpace w (mem_core_of_between hs hw hx hy)
    rw [hw] at hnot
    cases hnot
  · intro c hc hmem
    refine integer_of_not_spells (fun n hspells => ?_) default
    -- such a character counts, and belongs to no integer
    have hforeign : c ≠ '_' ∧ Text.isWhiteSpace c = false ∧
        ¬ (Text.isDecimalDigit c = true ∨ c = '+' ∨ c = '-') := by
      simp only [List.mem_cons, List.not_mem_nil, or_false] at hc
      rcases hc with rfl | rfl | rfl <;> decide
    obtain ⟨hne, hwhite, hother⟩ := hforeign
    exact hother (hspells.characters.2 c (mem_core hmem hne hwhite))

/-- Minus twelve, with leading zeros, underscores and a digit of another script, and three texts
that spell nothing. -/
theorem integer_spelled_mixed :
    integer (some " _-0__0_1\u0662_ ") 7 = -12 ∧ integer (some "__ -_") 7 = 7 ∧
      integer (some "1 _2") 7 = 7 ∧ integer (some "1e_3") 7 = 7 := by
  have hrow : Numeral.Row "001\u0662".toList 12 :=
    (Numeral.magnitude_eq_ok (by decide)).mp (by decide)
  have hnone : ∀ c ∈ "__ -_".toList, Text.isDecimalDigit c = false := by
    have hall : "__ -_".toList.all (fun c => !Text.isDecimalDigit c) = true := by decide
    simpa only [List.all_eq_true, Bool.not_eq_true'] using hall
  obtain ⟨-, hspelled, -⟩ := integer_spelled " _-0__0_1\u0662_ " 7
  obtain ⟨-, -, hsign, -⟩ := integer_spelled "__ -_" 7
  obtain ⟨-, -, -, hinner, -⟩ := integer_spelled "1 _2" 7
  obtain ⟨-, -, -, -, hmark⟩ := integer_spelled "1e_3" 7
  refine ⟨hspelled (-12) _ 1 1 (.minus hrow) (by decide), hsign hnone, ?_, ?_⟩
  · exact hinner [] [] ['_'] [] '1' ' ' '2' (by decide) (by decide) (by decide) (by decide)
  · exact hmark 'e' (by decide) (by decide)

end Environment

end Kanban
