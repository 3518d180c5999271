import Kanban.Proofs.Escape

/-!
# Canonical text and its values

`Json.canonical` gives two values one text exactly when they are the same up to the order in which
their objects list their fields (`Json.canonical_eq_iff`). In one direction the text is read from
the left: the first character tells the type of the value, and each piece says where it ends. A
number does so only by what follows it, so the statements ask that no digit follows. In the other
direction sorting leaves nothing of the written order, because the names of an object are distinct.
-/

namespace Kanban

def Fields.sorted (fields : Fields) : Fields := fields.mergeSort fun f g => f.1 ≤ g.1

namespace Json

/-! ## Values up to the order of fields -/

/-- Two values are the same, except that at every depth the fields of an object may be listed in
another order. -/
inductive Same : Json → Json → Prop where
  | refl (j : Json) : Same j j
  | list {items items' : List Json} (h : List.Forall₂ Same items items') :
    Same (.list items) (.list items')
  | object {fields listed fields' : Fields} (horder : fields.Perm listed)
      (hnames : listed.map Prod.fst = fields'.map Prod.fst)
      (hvalues : List.Forall₂ Same (listed.map Prod.snd) (fields'.map Prod.snd)) :
    Same (.object fields) (.object fields')

/-- A value without floating-point numbers, all of whose strings are text and whose objects give
each name one value. -/
inductive Plain : Json → Prop where
  | null : Plain .null
  | bool (b : Bool) : Plain (.bool b)
  | int (n : Int) : Plain (.int n)
  | text (s : String) : Plain (.text s)
  | list {items : List Json} (h : ∀ j ∈ items, Plain j) : Plain (.list items)
  | object {fields : Fields} (hnames : (fields.map Prod.fst).Nodup) (h : ∀ f ∈ fields, Plain f.2) :
    Plain (.object fields)

theorem Plain.pair {name name' : String} {j k : Json} (hne : name ≠ name') (hj : Plain j)
    (hk : Plain k) : Plain (.object [(name, j), (name', k)]) := by
  refine .object (by simp [hne]) fun f hf => ?_
  simp only [List.mem_cons, List.not_mem_nil, or_false] at hf
  obtain rfl | rfl := hf
  · exact hj
  · exact hk

/-- A value that JSON text can carry: half of a surrogate pair stands alone in each string that is no
text, and objects give each name one value. -/
inductive WellFormed : Json → Prop where
  | null : WellFormed .null
  | bool (b : Bool) : WellFormed (.bool b)
  | int (n : Int) : WellFormed (.int n)
  | float (x : Double) : WellFormed (.float x)
  | text (s : String) : WellFormed (.text s)
  | illFormed {points : List Nat} (h : Text.WellFormed points)
    (halved : points.any Text.isSurrogate = true) : WellFormed (.illFormed points)
  | list {items : List Json} (h : ∀ j ∈ items, WellFormed j) : WellFormed (.list items)
  | object {fields : Fields} (hnames : (fields.map Prod.fst).Nodup)
    (h : ∀ f ∈ fields, WellFormed f.2) : WellFormed (.object fields)

inductive FloatFree : Json → Prop where
  | null : FloatFree .null
  | bool (b : Bool) : FloatFree (.bool b)
  | int (n : Int) : FloatFree (.int n)
  | text (s : String) : FloatFree (.text s)
  | illFormed (points : List Nat) : FloatFree (.illFormed points)
  | list {items : List Json} (h : ∀ j ∈ items, FloatFree j) : FloatFree (.list items)
  | object {fields : Fields} (h : ∀ f ∈ fields, FloatFree f.2) : FloatFree (.object fields)

structure Legible (j : Json) : Prop where
  wellFormed : j.WellFormed
  floatFree : j.FloatFree

theorem Legible.text (s : String) : Legible (.text s) := ⟨.text s, .text s⟩

theorem Legible.int (n : Int) : Legible (.int n) := ⟨.int n, .int n⟩

theorem Legible.null : Legible .null := ⟨.null, .null⟩

theorem Legible.list {items : List Json} (h : ∀ j ∈ items, Legible j) : Legible (.list items) :=
  ⟨.list fun j hj => (h j hj).wellFormed, .list fun j hj => (h j hj).floatFree⟩

/-- An object can be read off its text when its names are distinct and its values can be read off
theirs. -/
theorem Legible.object {fields : Fields} (hnames : (fields.map Prod.fst).Nodup)
    (h : ∀ f ∈ fields, f.2.Legible) : Legible (.object fields) :=
  ⟨.object hnames fun f hf => (h f hf).wellFormed, .object fun f hf => (h f hf).floatFree⟩

theorem WellFormed.items {items : List Json} (h : WellFormed (.list items)) :
    ∀ j ∈ items, j.WellFormed := by
  cases h with
  | list h => exact h

theorem Legible.items {items : List Json} (h : Legible (.list items)) : ∀ j ∈ items, j.Legible := by
  obtain ⟨hformed, hfree⟩ := h
  cases hfree with
  | list hfree => exact fun j hj => ⟨hformed.items j hj, hfree j hj⟩

theorem WellFormed.names_nodup {fields : Fields} (h : WellFormed (.object fields)) :
    (fields.map Prod.fst).Nodup := by
  cases h with
  | object hnames _ => exact hnames

theorem WellFormed.values {fields : Fields} (h : WellFormed (.object fields)) :
    ∀ f ∈ fields, f.2.WellFormed := by
  cases h with
  | object _ h => exact h

theorem Legible.values {fields : Fields} (h : Legible (.object fields)) :
    ∀ f ∈ fields, f.2.Legible := by
  obtain ⟨hformed, hfree⟩ := h
  cases hfree with
  | object hfree => exact fun f hf => ⟨hformed.values f hf, hfree f hf⟩

/-- Plain values are among those that can be read off their text. -/
theorem Plain.legible {j : Json} (h : Plain j) : Legible j := by
  induction h with
  | null => exact .null
  | bool b => exact ⟨.bool b, .bool b⟩
  | int n => exact .int n
  | text s => exact .text s
  | list _ ih => exact .list ih
  | object hnames _ ih => exact .object hnames ih

/-- The fields agree one by one. -/
theorem Same.of_fields {fields listed fields' : Fields} (horder : fields.Perm listed)
    (h : List.Forall₂ (fun f g => f.1 = g.1 ∧ Same f.2 g.2) listed fields') :
    Same (.object fields) (.object fields') := by
  refine .object horder ?_ ?_
  · rw [← List.forall₂_eq_eq_eq, List.forall₂_map_left_iff, List.forall₂_map_right_iff]
    exact h.imp fun _ _ hfg => hfg.1
  · rw [List.forall₂_map_left_iff, List.forall₂_map_right_iff]
    exact h.imp fun _ _ hfg => hfg.2

/-! ## The order of fields -/

/-- Fields are compared by their names alone, whatever text their values have. -/
theorem fieldLe_eq (a b : String × List Char) : fieldLe a b = decide (a.1 ≤ b.1) := by
  have hlt : ∀ s t : String,
      (s.toList.lex t.toList fun c d => c.toNat < d.toNat) = decide (s < t) := by
    intro s t
    rw [List.lex_eq_decide_lex, decide_eq_decide, String.lt_iff_toList_lt]
    simp only [decide_eq_true_eq]
    exact Iff.rfl
  rw [fieldLe, hlt, ← decide_not, decide_eq_decide, not_lt]

def named (fields : Fields) : List (String × List Char) :=
  fields.map fun f => (f.1, canonicalChars f.2)

theorem itemTexts_eq (items : List Json) : itemTexts items = items.map canonicalChars := by
  induction items with
  | nil => rfl
  | cons j items ih => rw [itemTexts, ih, List.map_cons]

theorem fieldTexts_eq (fields : Fields) : fieldTexts fields = named fields := by
  induction fields with
  | nil => rfl
  | cons f fields ih =>
    rw [fieldTexts, ih]
    rfl

/-- Fields with the same names and the same texts of values are written alike. -/
theorem named_eq_of_maps {fields fields' : Fields}
    (hnames : fields.map Prod.fst = fields'.map Prod.fst)
    (htexts : (fields.map Prod.snd).map canonicalChars =
      (fields'.map Prod.snd).map canonicalChars) :
    named fields = named fields' := by
  have hzip : ∀ fields : Fields,
      named fields = (fields.map Prod.fst).zip ((fields.map Prod.snd).map canonicalChars) := by
    intro fields
    rw [List.map_map, List.zip_map']
    rfl
  rw [hzip, hzip, hnames, htexts]

/-- A list is written between brackets, with its items joined. -/
theorem canonicalChars_list (items : List Json) :
    canonicalChars (.list items) = '[' :: (joined (items.map canonicalChars) ++ [']']) := by
  rw [canonicalChars, itemTexts_eq]

/-- An object is written between braces, with its fields in the order of their names. -/
theorem canonicalChars_object (fields : Fields) :
    canonicalChars (.object fields) =
      '\x7b' :: (joined ((named fields.sorted).map fieldText) ++ ['\x7d']) := by
  have hsorted : (named fields).mergeSort fieldLe = named fields.sorted := by
    refine (List.map_mergeSort ?_).symm
    intro f _ g _
    exact (fieldLe_eq (f.1, canonicalChars f.2) (g.1, canonicalChars g.2)).symm
  rw [canonicalChars, fieldTexts_eq, hsorted]

theorem sorted_perm (fields : Fields) : fields.sorted.Perm fields := List.mergeSort_perm _ _

/-- Sorting forgets the written order of fields with distinct names. -/
theorem named_sorted_eq_of_perm {fields fields' : Fields} (hnames : (fields.map Prod.fst).Nodup)
    (h : (named fields).Perm (named fields')) : named fields.sorted = named fields'.sorted := by
  -- sorting by names leaves the names in order
  have hsorted : ∀ fields : Fields, (named fields.sorted).Pairwise fun a b => a.1 ≤ b.1 := by
    intro fields
    rw [named, List.pairwise_map]
    have h : fields.sorted.Pairwise fun a b => decide (a.1 ≤ b.1) = true :=
      List.pairwise_mergeSort
        (fun a b c hab hbc => by
          simp only [decide_eq_true_eq] at *
          exact le_trans hab hbc)
        (fun a b => by simpa using le_total a.1 b.1) fields
    exact h.imp fun {a b} hab => of_decide_eq_true hab
  have hperm : (named fields.sorted).Perm (named fields'.sorted) :=
    (((sorted_perm fields).map _).trans h).trans ((sorted_perm fields').map _).symm
  have hdistinct : ((named fields.sorted).map Prod.fst).Nodup := by
    rw [named, List.map_map]
    exact ((sorted_perm fields).map Prod.fst).nodup_iff.mpr hnames
  -- a sorted row with distinct names is the only one with its members
  refine hperm.eq_of_pairwise ?_ (hsorted fields) (hsorted fields')
  intro a b ha hb hab hba
  exact List.inj_on_of_nodup_map hdistinct ha (hperm.mem_iff.mpr hb) (le_antisymm hab hba)

/-! ## Where a number ends -/

/-- A text does not go on with a digit. -/
def NoDigit (cs : List Char) : Prop := ∀ c ∈ cs.head?, c.isDigit = false

theorem noDigit_nil : NoDigit [] := by
  simp [NoDigit]

theorem noDigit_cons {c : Char} (cs : List Char) (h : c.isDigit = false) : NoDigit (c :: cs) := by
  simpa [NoDigit] using h

/-- The digits of a number are cut off where no digit follows. -/
theorem takeWhile_digits {digits rest : List Char} (hdigits : ∀ c ∈ digits, c.isDigit)
    (hrest : NoDigit rest) : (digits ++ rest).takeWhile Char.isDigit = digits := by
  rw [List.takeWhile_append_of_pos hdigits]
  cases rest with
  | nil => simp
  | cons c rest =>
    have hc : c.isDigit = false := hrest c rfl
    simp [hc]

/-- The digits of a natural number tell it, and where they end, if no digit follows. -/
theorem toDigits_append_inj {m n : Nat} {rest rest' : List Char} (hrest : NoDigit rest)
    (hrest' : NoDigit rest') (h : Nat.toDigits 10 m ++ rest = Nat.toDigits 10 n ++ rest') :
    m = n ∧ rest = rest' := by
  have hdigits : ∀ k : Nat, ∀ c ∈ Nat.toDigits 10 k, c.isDigit := fun k c hc =>
    Nat.isDigit_of_mem_toDigits (by decide) (by decide) hc
  have hmn : Nat.toDigits 10 m = Nat.toDigits 10 n := by
    rw [← takeWhile_digits (hdigits m) hrest, h, takeWhile_digits (hdigits n) hrest']
  refine ⟨?_, List.append_cancel_left (hmn ▸ h)⟩
  rw [← Nat.ofDigitChars_ten_toDigits (n := m), hmn, Nat.ofDigitChars_ten_toDigits]

/-- The first character of a natural number. -/
theorem toDigits_head (n : Nat) : ∃ c cs, Nat.toDigits 10 n = c :: cs ∧ c.isDigit = true := by
  cases hn : Nat.toDigits 10 n with
  | nil => exact absurd hn (by simp)
  | cons c cs =>
    refine ⟨c, cs, rfl, ?_⟩
    exact Nat.isDigit_of_mem_toDigits (b := 10) (n := n) (by decide) (by decide) (by simp [hn])

/-- The text of an integer tells it, and where it ends, if no digit follows. -/
theorem intText_append_inj {m n : Int} {rest rest' : List Char} (hrest : NoDigit rest)
    (hrest' : NoDigit rest') (h : intText m ++ rest = intText n ++ rest') :
    m = n ∧ rest = rest' := by
  -- a sign is no digit
  have hsign : ∀ (k : Nat) (cs cs' : List Char), '-' :: cs ≠ Nat.toDigits 10 k ++ cs' := by
    intro k cs cs' hk
    obtain ⟨c, ds, hds, hc⟩ := toDigits_head k
    rw [hds, List.cons_append, List.cons.injEq] at hk
    obtain ⟨rfl, -⟩ := hk
    exact absurd hc (by decide)
  unfold intText at h
  split at h
  · split at h
    · rw [List.cons_append, List.cons_append, List.cons.injEq] at h
      obtain ⟨hmn, hrests⟩ := toDigits_append_inj hrest hrest' h.2
      exact ⟨by omega, hrests⟩
    · exact absurd h (hsign _ _ _)
  · split at h
    · exact absurd h.symm (hsign _ _ _)
    · obtain ⟨hmn, hrests⟩ := toDigits_append_inj hrest hrest' h
      exact ⟨by omega, hrests⟩

/-! ## Rows of texts -/

section Rows

variable {α : Type} {text : α → List Char} {R : α → α → Prop} {close : Char} {xs ys : List α}
  {rest rest' : List Char}

/-- Where no digit follows, the text of one thing is that of another only if the two are related,
and then the two texts end at the same place. -/
def Delimited (text : α → List Char) (R : α → α → Prop) (x y : α) : Prop :=
  ∀ ⦃rest rest' : List Char⦄, NoDigit rest → NoDigit rest' →
    text x ++ rest = text y ++ rest' → R x y ∧ rest = rest'

/-- A text starts with a character, and with another one than the given. -/
def StartsOff (close : Char) (cs : List Char) : Prop := ∃ c rest, cs = c :: rest ∧ c ≠ close

theorem joined_cons (piece : List Char) (pieces : List (List Char)) :
    joined (piece :: pieces) = piece ++ pieces.flatMap fun p => ',' :: ' ' :: p := by
  induction pieces generalizing piece with
  | nil => simp [joined]
  | cons next pieces ih =>
    rw [joined, ih, List.flatMap_cons, List.cons_append, List.cons_append]
    simp

theorem noDigit_row (pieces : List (List Char)) (hclose : close.isDigit = false) :
    NoDigit ((pieces.flatMap fun p => ',' :: ' ' :: p) ++ close :: rest) := by
  cases pieces with
  | nil => exact noDigit_cons _ hclose
  | cons piece pieces => exact noDigit_cons _ (by decide)

/-- The pieces after the first one. -/
theorem row_append_inj (hcomma : close ≠ ',') (hdigit : close.isDigit = false)
    (hread : ∀ x ∈ xs, ∀ y ∈ ys, Delimited text R x y)
    (h : ((xs.map text).flatMap fun p => ',' :: ' ' :: p) ++ close :: rest =
      ((ys.map text).flatMap fun p => ',' :: ' ' :: p) ++ close :: rest') :
    List.Forall₂ R xs ys ∧ rest = rest' := by
  -- on the first row, for every second one
  induction xs generalizing ys with
  | nil =>
    cases ys with
    | nil => exact ⟨.nil, by simpa using h⟩
    | cons y ys => exact absurd h (by simp [hcomma])
  | cons x xs ih =>
    cases ys with
    -- a comma is not the closing mark, so the rows end together
    | nil => exact absurd h (by simp [hcomma.symm])
    | cons y ys =>
      simp only [List.map_cons, List.flatMap_cons, List.cons_append, List.append_assoc,
        List.cons.injEq, true_and] at h
      -- the next comma, or the closing mark, ends the text of the first item
      obtain ⟨hxy, htail⟩ := hread x (by simp) y (by simp) (noDigit_row _ hdigit)
        (noDigit_row _ hdigit) h
      obtain ⟨hrelated, hrests⟩ := ih
        (fun x hx y hy => hread x (List.mem_cons_of_mem _ hx) y (List.mem_cons_of_mem _ hy)) htail
      exact ⟨.cons hxy hrelated, hrests⟩

/-- Joined texts tell how many they are and where each of them ends, if each of them does so. None
of them starts with the closing mark, so an empty row is told from one with an item. -/
theorem joined_append_inj (hcomma : close ≠ ',') (hdigit : close.isDigit = false)
    (hxs : ∀ x ∈ xs, StartsOff close (text x)) (hys : ∀ y ∈ ys, StartsOff close (text y))
    (hread : ∀ x ∈ xs, ∀ y ∈ ys, Delimited text R x y)
    (h : joined (xs.map text) ++ close :: rest = joined (ys.map text) ++ close :: rest') :
    List.Forall₂ R xs ys ∧ rest = rest' := by
  cases xs with
  | nil =>
    cases ys with
    | nil => exact ⟨.nil, by simpa [joined] using h⟩
    | cons y ys =>
      obtain ⟨c, cs, hy, hc⟩ := hys y (by simp)
      -- the empty row goes on with the closing mark, and no item starts with it
      exact absurd h (by simp [joined_cons, joined, hy, hc.symm])
  | cons x xs =>
    cases ys with
    | nil =>
      obtain ⟨c, cs, hx, hc⟩ := hxs x (by simp)
      exact absurd h (by simp [joined_cons, joined, hx, hc])
    | cons y ys =>
      rw [List.map_cons, List.map_cons, joined_cons, joined_cons, List.append_assoc,
        List.append_assoc] at h
      obtain ⟨hxy, htail⟩ := hread x (by simp) y (by simp) (noDigit_row _ hdigit)
        (noDigit_row _ hdigit) h
      -- what follows the first item is a row of items after commas
      obtain ⟨hrelated, hrests⟩ := row_append_inj hcomma hdigit
        (fun x hx y hy => hread x (List.mem_cons_of_mem _ hx) y (List.mem_cons_of_mem _ hy)) htail
      exact ⟨.cons hxy hrelated, hrests⟩

end Rows

/-! ## Reading a value off its text -/

/-- The type of the values whose text starts with the given character. -/
def openedType? (c : Char) : Option String :=
  if c = 'n' then some "NoneType"
  else if c = 't' ∨ c = 'f' then some "bool"
  else if c = '-' ∨ c.isDigit = true then some "int"
  else if c = '"' then some "str"
  else if c = '[' then some "list"
  else if c = '\x7b' then some "dict"
  else none

theorem openedType?_of_isDigit {c : Char} (hc : c.isDigit = true) : openedType? c = some "int" := by
  have hne : ∀ d : Char, d.isDigit = false → c ≠ d := by
    rintro d hd rfl
    exact absurd (hc.symm.trans hd) (by decide)
  simp [openedType?, hc, hne 'n' rfl, hne 't' rfl, hne 'f' rfl]

/-- The first character of a text tells the type of the value. -/
theorem canonicalChars_head {v : Json} (hv : FloatFree v) :
    ∃ c cs, canonicalChars v = c :: cs ∧ openedType? c = some v.typeName := by
  cases hv with
  | null => exact ⟨_, _, by rw [canonicalChars], rfl⟩
  | bool b => cases b <;> exact ⟨_, _, by rw [canonicalChars], rfl⟩
  | int n =>
    rw [canonicalChars, intText]
    split
    · exact ⟨_, _, rfl, rfl⟩
    · obtain ⟨c, cs, hcs, hc⟩ := toDigits_head n.natAbs
      exact ⟨c, cs, hcs, openedType?_of_isDigit hc⟩
  | text s => exact ⟨_, _, by rw [canonicalChars, stringText], rfl⟩
  | illFormed points => exact ⟨_, _, by rw [canonicalChars, pointsText], rfl⟩
  | list h => exact ⟨_, _, canonicalChars_list _, rfl⟩
  | object h => exact ⟨_, _, canonicalChars_object _, rfl⟩

/-- The first character tells the type of a value. -/
theorem typeName_eq_of_append {v w : Json} {rest rest' : List Char} (hv : FloatFree v)
    (hw : FloatFree w) (h : canonicalChars v ++ rest = canonicalChars w ++ rest') :
    v.typeName = w.typeName := by
  obtain ⟨c, cs, hcs, hc⟩ := canonicalChars_head hv
  obtain ⟨d, ds, hds, hd⟩ := canonicalChars_head hw
  rw [hcs, hds, List.cons_append, List.cons_append, List.cons.injEq] at h
  rw [h.1, hd, Option.some.injEq] at hc
  exact hc.symm

/-- No value starts with a closing bracket. -/
theorem startsOff_canonicalChars {v : Json} (hv : FloatFree v) :
    StartsOff ']' (canonicalChars v) := by
  obtain ⟨c, cs, hcs, hc⟩ := canonicalChars_head hv
  refine ⟨c, cs, hcs, ?_⟩
  rintro rfl
  exact absurd hc (by simp [openedType?])

/-- A list is read by reading its items. -/
theorem delimited_list {items items' : List Json}
    (hstarts : ∀ j ∈ items, StartsOff ']' (canonicalChars j))
    (hstarts' : ∀ j ∈ items', StartsOff ']' (canonicalChars j))
    (hread : ∀ j ∈ items, ∀ k ∈ items', Delimited canonicalChars Same j k) :
    Delimited canonicalChars Same (.list items) (.list items') := by
  intro rest rest' _ _ h
  simp only [canonicalChars_list, List.cons_append, List.append_assoc, List.cons.injEq,
    true_and] at h
  obtain ⟨hsame, hrests⟩ := joined_append_inj (by decide) (by decide) hstarts hstarts' hread h
  exact ⟨.list hsame, hrests⟩

def memberText (field : String × Json) : List Char := fieldText (field.1, canonicalChars field.2)

theorem map_fieldText_named (fields : Fields) :
    (named fields).map fieldText = fields.map memberText := by
  rw [named, List.map_map]
  rfl

/-- A field starts with the mark of its name, and so not with a closing brace. -/
theorem startsOff_memberText (f : String × Json) : StartsOff '\x7d' (memberText f) :=
  ⟨'"', _, rfl, by decide⟩

/-- A field is read by reading its name and then its value. -/
theorem delimited_memberText {f g : String × Json}
    (h : f.1 = g.1 → Delimited canonicalChars Same f.2 g.2) :
    Delimited memberText (fun f g => f.1 = g.1 ∧ Same f.2 g.2) f g := by
  intro rest rest' hrest hrest' htext
  simp only [memberText, fieldText, List.append_assoc, List.cons_append] at htext
  obtain ⟨hname, hvalue⟩ := stringText_append_inj htext
  simp only [List.cons.injEq, true_and] at hvalue
  obtain ⟨hsame, hrests⟩ := h hname hrest hrest' hvalue
  exact ⟨⟨hname, hsame⟩, hrests⟩

/-- Objects whose sorted fields agree one by one are the same up to the order of their fields. -/
theorem Same.of_sorted {fields fields' : Fields}
    (h : List.Forall₂ (fun f g => f.1 = g.1 ∧ Same f.2 g.2) fields.sorted fields'.sorted) :
    Same (.object fields) (.object fields') := by
  obtain ⟨listed, horder, hlisted⟩ :
      Relation.Comp List.Perm (List.Forall₂ fun f g => f.1 = g.1 ∧ Same f.2 g.2)
        fields.sorted fields' := by
    rw [← List.forall₂_comp_perm_eq_perm_comp_forall₂]
    exact ⟨fields'.sorted, h, sorted_perm fields'⟩
  exact .of_fields ((sorted_perm fields).symm.trans horder) hlisted

/-- An object is read by reading its fields. -/
theorem delimited_object {fields fields' : Fields}
    (hread : ∀ f ∈ fields, ∀ g ∈ fields', f.1 = g.1 → Delimited canonicalChars Same f.2 g.2) :
    Delimited canonicalChars Same (.object fields) (.object fields') := by
  intro rest rest' _ _ h
  simp only [canonicalChars_object, map_fieldText_named, List.cons_append, List.append_assoc,
    List.cons.injEq, true_and] at h
  obtain ⟨hsame, hrests⟩ := joined_append_inj (by decide) (by decide)
    (fun f _ => startsOff_memberText f) (fun f _ => startsOff_memberText f)
    (fun f hf g hg => delimited_memberText
      (hread f ((sorted_perm _).mem_iff.mp hf) g ((sorted_perm _).mem_iff.mp hg))) h
  exact ⟨.of_sorted hsame, hrests⟩

/-- A string is read off its text, whether it is a text or not. -/
theorem delimited_points {points points' : List Nat} {v w : Json}
    (hpoints : Text.WellFormed points) (hpoints' : Text.WellFormed points')
    (hv : canonicalChars v = pointsText points) (hw : canonicalChars w = pointsText points')
    (hsame : points = points' → Same v w) : Delimited canonicalChars Same v w := by
  intro rest rest' _ _ h
  rw [hv, hw] at h
  obtain ⟨heq, hrests⟩ := pointsText_append_inj hpoints hpoints' h
  exact ⟨hsame heq, hrests⟩

/-- A text is written by its code points. -/
theorem canonicalChars_text (s : String) :
    canonicalChars (.text s) = pointsText (s.toList.map Char.toNat) := by
  rw [canonicalChars, stringText_eq]

/-- A string that is no text is written by its code points as well. -/
theorem canonicalChars_illFormed (points : List Nat) :
    canonicalChars (.illFormed points) = pointsText points := by
  rw [canonicalChars]

/-- A text has no half of a surrogate pair. -/
theorem toNat_ne_of_halved {points : List Nat} (halved : points.any Text.isSurrogate = true)
    (s : String) : s.toList.map Char.toNat ≠ points := by
  rintro rfl
  obtain ⟨p, hp, hsurrogate⟩ := List.any_eq_true.mp halved
  obtain ⟨c, -, rfl⟩ := List.mem_map.mp hp
  exact absurd hsurrogate (by simp [Text.isSurrogate_toNat c])

/-- A value is read off its text up to the order of fields, with what follows it. -/
theorem delimited_canonicalChars {v w : Json} (hv : Legible v) (hw : Legible w) :
    Delimited canonicalChars Same v w := by
  obtain ⟨hformed, hfree⟩ := hv
  obtain ⟨hformed', hfree'⟩ := hw
  -- on the first value, for every second one: the first characters tell that both have the same
  -- type, and within the type the text is taken apart
  induction hfree generalizing w with
  | null =>
    intro rest rest' _ _ h
    have htype := typeName_eq_of_append .null hfree' h
    cases hfree' with
    | null => exact ⟨.refl _, List.append_cancel_left h⟩
    | _ => exact absurd htype (by simp [typeName])
  | bool b =>
    intro rest rest' _ _ h
    have htype := typeName_eq_of_append (.bool b) hfree' h
    cases hfree' with
    | bool b' =>
      have hb : b = b' := by
        cases b <;> cases b' <;> simp [canonicalChars] at h ⊢
      subst hb
      exact ⟨.refl _, List.append_cancel_left h⟩
    | _ => exact absurd htype (by simp [typeName])
  | int n =>
    intro rest rest' hrest hrest' h
    have htype := typeName_eq_of_append (.int n) hfree' h
    cases hfree' with
    | int n' =>
      simp only [canonicalChars] at h
      obtain ⟨rfl, hrests⟩ := intText_append_inj hrest hrest' h
      exact ⟨.refl _, hrests⟩
    | _ => exact absurd htype (by simp [typeName])
  | text s =>
    intro rest rest' hrest hrest' h
    have htype := typeName_eq_of_append (.text s) hfree' h
    cases hfree' with
    | text s' =>
      simp only [canonicalChars] at h
      obtain ⟨rfl, hrests⟩ := stringText_append_inj h
      exact ⟨.refl _, hrests⟩
    -- a text and a string that is none are written alike, but by different code points
    | illFormed points =>
      cases hformed' with
      | illFormed hpoints halved =>
        exact delimited_points (Text.wellFormed_toNat _) hpoints (canonicalChars_text s)
          (canonicalChars_illFormed points) (fun heq => absurd heq (toNat_ne_of_halved halved s))
          hrest hrest' h
    | _ => exact absurd htype (by simp [typeName])
  | illFormed points =>
    intro rest rest' hrest hrest' h
    have htype := typeName_eq_of_append (.illFormed points) hfree' h
    cases hformed with
    | illFormed hpoints halved =>
      cases hfree' with
      | text s' =>
        exact delimited_points hpoints (Text.wellFormed_toNat _) (canonicalChars_illFormed points)
          (canonicalChars_text s') (fun heq => absurd heq.symm (toNat_ne_of_halved halved s'))
          hrest hrest' h
      | illFormed points' =>
        cases hformed' with
        | illFormed hpoints' halved' =>
          exact delimited_points hpoints hpoints' (canonicalChars_illFormed points)
            (canonicalChars_illFormed points') (fun heq => heq ▸ .refl _) hrest hrest' h
      | _ => exact absurd htype (by simp [typeName])
  | list hitems ih =>
    intro rest rest' hrest hrest' h
    have htype := typeName_eq_of_append (.list hitems) hfree' h
    cases hfree' with
    | list hitems' =>
      -- no item starts with the bracket that closes the list
      exact delimited_list (fun j hj => startsOff_canonicalChars (hitems j hj))
        (fun j hj => startsOff_canonicalChars (hitems' j hj))
        (fun j hj k hk => ih j hj (hformed.items j hj) (hformed'.items k hk) (hitems' k hk))
        hrest hrest' h
    | _ => exact absurd htype (by simp [typeName])
  | object hfields ih =>
    intro rest rest' hrest hrest' h
    have htype := typeName_eq_of_append (.object hfields) hfree' h
    cases hfree' with
    | object hfields' =>
      exact delimited_object
        (fun f hf g hg _ => ih f hf (hformed.values f hf) (hformed'.values g hg) (hfields' g hg))
        hrest hrest' h
    | _ => exact absurd htype (by simp [typeName])

/-! ## Writing the same value -/

theorem map_eq_map_of_forall₂ {α β : Type} {R : α → α → Prop} {f : α → β} {xs ys : List α}
    (h : List.Forall₂ R xs ys) (heq : ∀ x ∈ xs, ∀ y, R x y → f x = f y) : xs.map f = ys.map f := by
  induction h with
  | nil => rfl
  | cons hxy _ ih =>
    rw [List.map_cons, List.map_cons, heq _ (by simp) _ hxy,
      ih fun x hx => heq x (List.mem_cons_of_mem _ hx)]

/-- The order in which fields are listed does not show in the canonical text. -/
theorem Same.canonicalChars_eq {v w : Json} (hv : WellFormed v) (h : Same v w) :
    canonicalChars v = canonicalChars w := by
  -- on the first value: only objects can differ from what they are the same as
  induction hv generalizing w with
  | null | bool _ | int _ | float _ | text _ | illFormed _ _ => cases h; rfl
  | list hitems ih =>
    cases h with
    | refl => rfl
    | list hsame =>
      rw [canonicalChars_list, canonicalChars_list,
        map_eq_map_of_forall₂ hsame fun j hj _ hjk => ih j hj hjk]
  | @object fields hnames hfields ih =>
    cases h with
    | refl => rfl
    | @object _ listed fields' horder hlisted hvalues =>
      -- the values are compared in the order of the first object, its fields only afterwards
      have htexts : (listed.map Prod.snd).map canonicalChars =
          (fields'.map Prod.snd).map canonicalChars := by
        refine map_eq_map_of_forall₂ hvalues fun j hj _ hjk => ?_
        obtain ⟨f, hf, rfl⟩ := List.mem_map.mp hj
        exact ih f (horder.mem_iff.mpr hf) hjk
      -- so the written fields are the same but for their order, and sorting undoes that
      have hperm : (named fields).Perm (named fields') := by
        rw [← named_eq_of_maps hlisted htexts]
        exact horder.map _
      rw [canonicalChars_object, canonicalChars_object, named_sorted_eq_of_perm hnames hperm]

/-- Two values of which one is read off the text of the other have one canonical text exactly when
they are the same up to the order of fields. -/
theorem canonical_eq_iff_of_delimited {v w : Json} (hv : WellFormed v)
    (hread : Delimited canonicalChars Same v w) : v.canonical = w.canonical ↔ Same v w := by
  constructor
  · intro h
    have htext : canonicalChars v ++ [] = canonicalChars w ++ [] := by
      rw [List.append_nil, List.append_nil, ← String.ofList_inj]
      exact h
    exact (hread noDigit_nil noDigit_nil htext).1
  · intro h
    rw [canonical, canonical, h.canonicalChars_eq hv]

/-- Two values have one canonical text exactly when they are the same up to the order of fields.
Integers may have any number of digits. -/
theorem canonical_eq_iff {v w : Json} (hv : Plain v) (hw : Plain w) :
    v.canonical = w.canonical ↔ Same v w :=
  canonical_eq_iff_of_delimited hv.legible.wellFormed
    (delimited_canonicalChars hv.legible hw.legible)

/-- Every field has its counterpart in the other object. -/
theorem Same.field {fields fields' : Fields} (h : Same (.object fields) (.object fields'))
    {f : String × Json} (hf : f ∈ fields) : ∃ g ∈ fields', f.1 = g.1 ∧ Same f.2 g.2 := by
  cases h with
  | refl => exact ⟨f, hf, rfl, .refl _⟩
  | @object _ listed _ horder hnames hvalues =>
    obtain ⟨i, hi, rfl⟩ := List.getElem_of_mem (horder.mem_iff.mp hf)
    have hlength : fields'.length = listed.length := by
      simpa using (congrArg List.length hnames).symm
    refine ⟨fields'[i], List.getElem_mem (by omega), ?_, ?_⟩
    · have hname := List.getElem_of_eq hnames (by simpa using hi)
      rwa [List.getElem_map, List.getElem_map] at hname
    · simpa using (List.forall₂_iff_get.mp hvalues).2 i (by simpa using hi) (by simp; omega)

/-- The values under one name agree. -/
theorem Same.of_mem {fields fields' : Fields} (h : Same (.object fields) (.object fields'))
    (hnames : (fields'.map Prod.fst).Nodup) {name : String} {v w : Json} (hv : (name, v) ∈ fields)
    (hw : (name, w) ∈ fields') : Same v w := by
  obtain ⟨g, hg, hname, hsame⟩ := h.field hv
  obtain rfl : g = (name, w) := List.inj_on_of_nodup_map hnames hg hw hname.symm
  exact hsame

/-- Integers are the same only if they are equal. -/
theorem Same.int_eq {m n : Int} (h : Same (.int m) (.int n)) : m = n := by
  cases h
  rfl

/-- Lists are the same only item by item, in order. -/
theorem Same.forall₂ {items items' : List Json} (h : Same (.list items) (.list items')) :
    List.Forall₂ Same items items' := by
  cases h with
  | refl => exact List.forall₂_same.mpr fun j _ => .refl j
  | list h => exact h

end Json

end Kanban
