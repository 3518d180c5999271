import Kanban.Proofs.Canonical
import Kanban.Proofs.Work
import Kanban.Http.Message

/-!
# What is read

A value that is read off a text can be written again: half of a surrogate pair stands alone in each
of its strings that is no text, because the escapes of two halves are read as one code point, and its
objects give each name one value, because a later field takes the place of an earlier one
(`Json.wellFormed_of_readChars`).
-/

namespace Kanban

namespace Text

/-- What two halves make up lies beyond the units, and so is no half itself. -/
theorem paired?_eq_some {high low point : Nat} (h : paired? high low = some point) :
    isLowSurrogate low = true ∧ 0x10000 ≤ point ∧ point < 0x110000 := by
  unfold paired? at h
  split at h
  · next hhalves =>
    simp only [Bool.and_eq_true] at hhalves
    obtain ⟨hhigh, hlow⟩ := hhalves
    have hpoint := Option.some.inj h
    refine ⟨hlow, ?_⟩
    simp only [isHighSurrogate, isLowSurrogate, Bool.and_eq_true, decide_eq_true_eq] at hhigh hlow
    omega
  · cases h

/-- A code point beyond the units of sixteen bits is no half of a pair. -/
theorem isSurrogate_of_large {p : Nat} (h : 0x10000 ≤ p) : isSurrogate p = false := by
  simp [isSurrogate, isHighSurrogate, isLowSurrogate]
  omega

theorem hexValue?_lt {c : Char} {d : Nat} (h : hexValue? c = some d) : d < 0x10 := by
  have hle : ∀ a b : Char, a ≤ b → a.toNat ≤ b.toNat := fun a b hab => hab
  have hdigit : c.toNat ≤ 57 → c.toNat - 48 < 0x10 := by omega
  have hsmall : c.toNat ≤ 102 → c.toNat - 97 + 10 < 0x10 := by omega
  have hlarge : c.toNat ≤ 70 → c.toNat - 65 + 10 < 0x10 := by omega
  unfold hexValue? at h
  split_ifs at h with h₁ h₂ h₃
  · exact Option.some.inj h ▸ hdigit (hle _ _ h₁.2)
  · exact Option.some.inj h ▸ hsmall (hle _ _ h₂.2)
  · exact Option.some.inj h ▸ hlarge (hle _ _ h₃.2)

end Text

namespace Json

/-! ## Strings -/

variable {cs after : List Char} {points : List Nat}

/-- Four hexadecimal digits write a unit. -/
theorem hexUnit?_lt {a b c d : Char} {u : Nat} (h : hexUnit? a b c d = some u) : u < 0x10000 := by
  simp only [hexUnit?, Option.bind_eq_bind] at h
  obtain ⟨m, hm, h₁⟩ := Option.bind_eq_some_iff.mp h
  obtain ⟨n, hn, h₂⟩ := Option.bind_eq_some_iff.mp h₁
  obtain ⟨k, hk, h₃⟩ := Option.bind_eq_some_iff.mp h₂
  obtain ⟨l, hl, h₄⟩ := Option.bind_eq_some_iff.mp h₃
  have hm := Text.hexValue?_lt hm
  have hn := Text.hexValue?_lt hn
  have hk := Text.hexValue?_lt hk
  have hl := Text.hexValue?_lt hl
  have hu := Option.some.inj h₄
  omega

/-- A string is empty, or it begins with a character, with a code point that a pair of escapes writes,
or with the unit of an escape that makes no pair with the next one. -/
theorem stringBody_cases (h : stringBody cs = some (points, after)) :
    points = [] ∨
    (∃ (c : Char) (ps : List Nat) (rest : List Char), points = c.toNat :: ps ∧
      stringBody rest = some (ps, after)) ∨
    (∃ (p : Nat) (ps : List Nat) (rest : List Char), points = p :: ps ∧
      0x10000 ≤ p ∧ p < 0x110000 ∧ stringBody rest = some (ps, after)) ∨
    ∃ (a b c d : Char) (u : Nat) (ps : List Nat) (rest : List Char),
      cs = '\\' :: 'u' :: a :: b :: c :: d :: rest ∧ hexUnit? a b c d = some u ∧
      points = u :: ps ∧ stringBody rest = some (ps, after) ∧
      ∀ e f g i rest', rest = '\\' :: 'u' :: e :: f :: g :: i :: rest' →
        (hexUnit? e f g i).bind (Text.paired? u) = none := by
  fun_cases stringBody cs with
  | case1 rest =>
    simp only [stringBody] at h
    cases h
    exact .inl rfl
  -- two escapes of units in a row
  | case2 a b c d e f g i rest =>
    simp only [stringBody, Option.bind_eq_bind] at h
    obtain ⟨u, hunit, h⟩ := Option.bind_eq_some_iff.mp h
    split at h
    -- they make a pair
    · next p hpoint =>
      obtain ⟨low, -, hpair⟩ := Option.bind_eq_some_iff.mp hpoint
      obtain ⟨⟨ps, after'⟩, hrest, heq⟩ := Option.bind_eq_some_iff.mp h
      cases heq
      obtain ⟨-, hlarge, hp⟩ := Text.paired?_eq_some hpair
      exact .inr (.inr (.inl ⟨p, ps, rest, rfl, hlarge, hp, hrest⟩))
    -- they do not, and then the second escape is read by itself
    · next hpair =>
      obtain ⟨⟨ps, after'⟩, hrest, heq⟩ := Option.bind_eq_some_iff.mp h
      cases heq
      refine .inr (.inr (.inr ⟨a, b, c, d, u, ps, _, rfl, hunit, rfl, hrest, ?_⟩))
      intro e' f' g' i' rest' heq
      simp only [List.cons.injEq, true_and] at heq
      obtain ⟨rfl, rfl, rfl, rfl, -⟩ := heq
      exact hpair
  -- an escape of a unit before something else
  | case3 a b c d rest hnext =>
    simp only [stringBody, Option.bind_eq_bind] at h
    obtain ⟨u, hunit, h⟩ := Option.bind_eq_some_iff.mp h
    obtain ⟨⟨ps, after'⟩, hrest, heq⟩ := Option.bind_eq_some_iff.mp h
    cases heq
    refine .inr (.inr (.inr ⟨a, b, c, d, u, ps, rest, rfl, hunit, rfl, hrest, ?_⟩))
    intro e f g i rest' heq
    exact absurd heq (hnext e f g i rest')
  -- a one-letter escape
  | case4 e rest _ _ =>
    simp only [stringBody, Option.bind_eq_bind] at h
    obtain ⟨c, -, h⟩ := Option.bind_eq_some_iff.mp h
    obtain ⟨⟨ps, after'⟩, hrest, heq⟩ := Option.bind_eq_some_iff.mp h
    cases heq
    exact .inr (.inl ⟨c, ps, rest, rfl, hrest⟩)
  | case5 c rest _ _ _ _ hc =>
    simp only [stringBody, if_pos hc] at h
    cases h
  -- a character that stands for itself
  | case6 c rest _ _ _ _ hc =>
    simp only [stringBody, if_neg hc, Option.bind_eq_bind] at h
    obtain ⟨⟨ps, after'⟩, hrest, heq⟩ := Option.bind_eq_some_iff.mp h
    cases heq
    exact .inr (.inl ⟨c, ps, rest, rfl, hrest⟩)
  | case7 => cases h

/-- A string begins with a surrogate only where its text begins with the escape of it. -/
theorem exists_escape_of_head {p : Nat} (hp : Text.isSurrogate p = true)
    (h : stringBody cs = some (p :: points, after)) :
    ∃ a b c d rest, cs = '\\' :: 'u' :: a :: b :: c :: d :: rest ∧
      hexUnit? a b c d = some p := by
  rcases stringBody_cases h with hnil | ⟨c, ps, rest, heq, -⟩ | ⟨q, ps, rest, heq, hlarge, -, -⟩ |
    ⟨a, b, c, d, u, ps, rest, rfl, hunit, heq, -, -⟩
  · cases hnil
  · obtain ⟨rfl, -⟩ := List.cons.inj heq
    exact absurd hp (by simp [Text.isSurrogate_toNat])
  · obtain ⟨rfl, -⟩ := List.cons.inj heq
    exact absurd hp (by simp [Text.isSurrogate_of_large hlarge])
  · obtain ⟨rfl, -⟩ := List.cons.inj heq
    exact ⟨a, b, c, d, rest, rfl, hunit⟩

/-- No pair of surrogates is read as two code points. -/
theorem wellFormed_of_stringBody (h : stringBody cs = some (points, after)) :
    Text.WellFormed points := by
  -- on the code points: what follows the first one is read off the rest of the text
  induction points generalizing cs with
  | nil => exact ⟨by simp, .nil⟩
  | cons p points ih =>
    rcases stringBody_cases h with hnil | ⟨c, ps, rest, heq, hrest⟩ |
      ⟨q, ps, rest, heq, hlarge, hq, hrest⟩ | ⟨a, b, c, d, u, ps, rest, rfl, hunit, heq, hrest, hnext⟩
    · cases hnil
    · obtain ⟨rfl, rfl⟩ := List.cons.inj heq
      exact .cons (Text.toNat_lt c) (fun low _ => Text.toNat_unpaired c low) (ih hrest)
    · obtain ⟨rfl, rfl⟩ := List.cons.inj heq
      have hhigh : Text.isHighSurrogate p = false := by
        have hnone := Text.isSurrogate_of_large hlarge
        rw [Text.isSurrogate, Bool.or_eq_false_iff] at hnone
        exact hnone.1
      exact .cons hq (fun low _ => Text.paired?_eq_none hhigh low) (ih hrest)
    · obtain ⟨rfl, rfl⟩ := List.cons.inj heq
      have hlt := hexUnit?_lt hunit
      refine .cons (by omega) (fun low hlow => ?_) (ih hrest)
      -- a second half would be the unit of the next escape
      rw [Option.eq_none_iff_forall_ne_some]
      intro point hpair
      obtain ⟨hsecond, -, -⟩ := Text.paired?_eq_some hpair
      cases points with
      | nil => cases hlow
      | cons q points =>
        obtain rfl : q = low := Option.some.inj hlow
        obtain ⟨e, f, g, i, rest', rfl, hlow⟩ :=
          exists_escape_of_head (by simp [Text.isSurrogate, hsecond]) hrest
        have hnone := hnext e f g i rest' rfl
        rw [hlow, Option.bind_some, hpair] at hnone
        cases hnone

/-- A string that was read can be written, whether it is a text or not. -/
theorem wellFormed_ofPoints (h : Text.WellFormed points) : (ofPoints points).WellFormed := by
  unfold ofPoints Text.ofPoints?
  split
  · exact .text _
  · next hs =>
    split at hs
    · next halved => exact .illFormed h halved
    · cases hs

theorem floatFree_ofPoints (points : List Nat) : (ofPoints points).FloatFree := by
  unfold ofPoints
  split
  · exact .text _
  · exact .illFormed _

/-! ## Fields -/

theorem mem_put {fields : Fields} {name : String} {j : Json} {f : String × Json}
    (h : f ∈ Fields.put fields name j) : f = (name, j) ∨ f ∈ fields := by
  induction fields with
  | nil => exact .inl (List.mem_singleton.mp h)
  | cons g fields ih =>
    rw [Fields.put] at h
    split at h
    · next hname =>
      rcases List.mem_cons.mp h with rfl | h
      · exact .inl (by rw [hname])
      · exact .inr (List.mem_cons_of_mem _ h)
    · rcases List.mem_cons.mp h with rfl | h
      · exact .inr (List.mem_cons_self ..)
      · exact (ih h).imp_right (List.mem_cons_of_mem _)

/-- A field that is set again takes the place of the first one, so no name comes twice. -/
theorem names_nodup_put {fields : Fields} (h : (fields.map Prod.fst).Nodup) (name : String)
    (j : Json) : ((Fields.put fields name j).map Prod.fst).Nodup := by
  induction fields with
  | nil => exact List.nodup_singleton name
  | cons g fields ih =>
    obtain ⟨hg, hfields⟩ := List.nodup_cons.mp h
    rw [Fields.put]
    split
    · exact h
    · next hname =>
      refine List.nodup_cons.mpr ⟨fun hmem => ?_, ih hfields⟩
      obtain ⟨f, hf, heq⟩ := List.mem_map.mp hmem
      rcases mem_put hf with rfl | hf
      · exact hname heq.symm
      · exact hg (List.mem_map.mpr ⟨f, hf, heq⟩)

/-- A field that is written again takes the place of the earlier one. -/
theorem WellFormed.put {fields : Fields} (h : WellFormed (.object fields)) (name : String) {j : Json}
    (hj : j.WellFormed) : WellFormed (.object (Fields.put fields name j)) := by
  refine .object (names_nodup_put h.names_nodup name j) fun f hf => ?_
  rcases mem_put hf with rfl | hf
  · exact hj
  · exact h.values f hf

/-! ## Values -/

/-- Whatever is read has a property. -/
def Reads {α : Type} (p : α → Prop) (r : Except Defect (α × List Char)) : Prop :=
  ∀ a rest, r = .ok (a, rest) → p a

section Reads

variable {α β : Type} {p : α → Prop} {q : β → Prop} {r : Except Defect (α × List Char)}

theorem reads_ok {a : α} {rest : List Char} (h : p a) : Reads p (.ok (a, rest)) := by
  intro a' rest' heq
  cases heq
  exact h

theorem reads_error (d : Defect) : Reads p (.error d) := by
  intro a rest h
  cases h

theorem reads_expected {o : Option (α × List Char)} (h : ∀ a rest, o = some (a, rest) → p a) :
    Reads p (expected o) := by
  cases o with
  | none => exact reads_error _
  | some found => exact reads_ok (h found.1 found.2 rfl)

/-- Reading one thing and then another has what the second one has, given what the first one had. -/
theorem Reads.bind (hr : Reads p r) {f : α × List Char → Except Defect (β × List Char)}
    (hf : ∀ a rest, p a → Reads q (f (a, rest))) : Reads q (r >>= f) := by
  intro b rest h
  obtain ⟨⟨a, rest'⟩, ha, hb⟩ := except_bind_eq_ok.mp h
  exact hf a rest' (hr a rest' ha) b rest hb

theorem Reads.map (hr : Reads p r) {f : α → β} (hf : ∀ a, p a → q (f a)) :
    Reads q (r.map fun (a, rest) => (f a, rest)) := by
  intro b rest h
  obtain ⟨⟨a, rest'⟩, ha, heq⟩ := except_map_eq_ok.mp h
  cases heq
  exact hf a (hr a rest ha)

end Reads

theorem wellFormed_number (negative : Bool) (cs : List Char) :
    Reads WellFormed (expected (number negative cs)) := by
  refine reads_expected fun j rest h => ?_
  simp only [number, Option.bind_eq_bind] at h
  obtain ⟨⟨whole, afterWhole⟩, -, h⟩ := Option.bind_eq_some_iff.mp h
  dsimp only at h
  split at h
  · split at h
    · cases h
    · cases h
      exact .int _
  · cases h
    exact .float _

theorem wellFormed_string (cs : List Char) :
    Reads WellFormed ((expected (stringBody cs)).map fun (points, after) =>
      (ofPoints points, after)) := by
  refine Reads.map (reads_expected fun points rest h => ?_) fun points => wellFormed_ofPoints
  exact wellFormed_of_stringBody h

/-- Values, the items of a list and the fields of an object are read by each other, so what they
have is shown of all three at once. -/
theorem wellFormed_reads (fuel : Nat) :
    (∀ room cs, Reads WellFormed (value fuel room cs)) ∧
    (∀ room cs, Reads (fun js => ∀ j ∈ js, WellFormed j) (items fuel room cs)) ∧
    ∀ room fields cs, WellFormed (.object fields) →
      Reads (fun fs => WellFormed (.object fs)) (members fuel room fields cs) := by
  -- on the number of steps: what is entered is read with one step less
  induction fuel with
  | zero =>
    exact ⟨fun _ _ => reads_error _, fun _ _ => reads_error _, fun _ _ _ _ => reads_error _⟩
  | succ fuel ih =>
    obtain ⟨hvalue, hitems, hmembers⟩ := ih
    refine ⟨?_, ?_, ?_⟩
    · intro room cs
      unfold value
      split
      · exact reads_error _
      · exact reads_ok .null
      · exact reads_ok (.bool true)
      · exact reads_ok (.bool false)
      · exact reads_ok (.float _)
      · exact reads_ok (.float _)
      · exact reads_ok (.float _)
      · exact wellFormed_string _
      · exact reads_error _
      · exact reads_error _
      · next heq =>
        obtain rfl := Nat.succ.inj heq
        split
        · exact reads_ok (.list (by simp))
        · exact (hitems _ _).map fun js => .list
      · next heq =>
        obtain rfl := Nat.succ.inj heq
        split
        · exact reads_ok (.object (by simp) (by simp))
        · exact (hmembers _ _ _ (.object (by simp) (by simp))).map fun fs => id
      · exact wellFormed_number _ _
      · exact wellFormed_number _ _
    · intro room cs
      unfold items
      refine (hvalue _ _).bind fun j rest hj => ?_
      dsimp only
      split
      · exact reads_ok (List.forall_mem_singleton.mpr hj)
      · refine (hitems _ _).bind fun js last hjs => ?_
        exact reads_ok (List.forall_mem_cons.mpr ⟨hj, hjs⟩)
      · exact reads_error _
    · intro room fields cs hfields
      unfold members
      split
      · refine Reads.bind (reads_expected fun points rest _ => trivial) fun name rest _ => ?_
        dsimp only
        split
        · refine (hvalue _ _).bind fun j rest hj => ?_
          dsimp only
          split
          · exact reads_ok (hfields.put _ hj)
          · exact hmembers _ _ _ (hfields.put _ hj)
          · exact reads_error _
        · exact reads_error _
      · exact reads_error _

/-- A value that is read off a text can be written as text. -/
theorem wellFormed_of_readChars {depth : Nat} {cs : List Char} {j : Json}
    (h : readChars depth cs = .ok j) : j.WellFormed := by
  obtain ⟨⟨j', rest⟩, hvalue, h⟩ := except_bind_eq_ok.mp h
  dsimp only at h
  split at h
  · cases h
    exact (wellFormed_reads _).1 _ _ _ _ hvalue
  · cases h

end Json

/-! ## What is sent along -/

namespace Http

/-- A value that is sent along as such can be written as text. -/
def Content.WellFormed : Content → Prop
  | .value j => j.WellFormed
  | .absent | .text _ _ => True

/-- Whatever is sent along with a request, the value that is read from it can be written as text. -/
theorem Content.wellFormed_of_json? {content : Content} (hcontent : content.WellFormed) {j : Json}
    (h : content.json? = .ok (some j)) : j.WellFormed := by
  cases content with
  | absent => cases h
  | value j' =>
    cases h
    exact hcontent
  | text mediaType s =>
    simp only [json?] at h
    split at h
    · cases h
    · split at h
      · next hread =>
        cases h
        exact Json.wellFormed_of_readChars hread
      · cases h
      · cases h

theorem Content.wellFormed_of_fields {content : Content} (hcontent : content.WellFormed)
    {fields : Fields} (h : content.fields = .ok fields) : (Json.object fields).WellFormed := by
  obtain ⟨found, hjson, h⟩ := except_bind_eq_ok.mp h
  split at h
  · cases h
    exact .object (by simp) (by simp)
  · cases h
    exact .object (by simp) (by simp)
  · cases h
    exact wellFormed_of_json? hcontent hjson
  · cases h

end Http

end Kanban
