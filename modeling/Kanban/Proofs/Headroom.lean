import Kanban.Proofs.Retry

/-!
# Headroom

A position that a caller chooses may lie anywhere in the range of the stored field, and a place at
either end of a column is reckoned from the outermost task without a look at that range. So a column
whose outermost task stands within a gap of the limit takes no task beyond it, however few tasks it has
(`headroom_lost`), although the middle of a column is renumbered when there is no room.

That is all that can make a column unusable. Where its multiples fit, a task is created in it exactly
when the end of the column fits, and a guided move into it succeeds exactly when it does not overrun
the range (`usable_iff`).
-/

namespace Kanban

open Work

/-! ## New tasks -/

/-- What is written on a task can be stored: nothing of it has parts or is an integer too large, and
the fields that must not be empty are filled. -/
def Store.Draft.Writable (d : Store.Draft) : Prop :=
  (∃ title, Stored.text? d.title = .ok (some title)) ∧
    (∃ description, Stored.text? d.description = .ok description) ∧
    (∃ priority, Stored.text? d.priority = .ok (some priority)) ∧
    ∃ assignee, Stored.text? d.assignee = .ok assignee

namespace Operation

/-- What a request for a new task wants to have written on it can be stored. -/
def NewTask.Writable (r : NewTask) : Prop :=
  ∃ description tags, r.descriptionText = .ok description ∧ r.tagList = .ok tags ∧
    Store.Draft.Writable ⟨"", r.title, description,
      if r.priority.isGiven then r.priority else defaultPriority, r.assignee, tags⟩

end Operation

theorem Store.addTask_of_writable {d : Draft} (h : d.Writable) {column position : Int}
    (hcolumn : Stored.Fits column) {now : Timestamp} {b : Board}
    (hcode : d.code ∉ b.tasks.map Task.code) :
    (∃ t b', addTask d column position ⟨now, none⟩ b = (.ok t, b')) ∨
      (addTask d column position ⟨now, none⟩ b = (.error .integerOverflow, b) ∧
        ¬ Stored.Fits position) := by
  obtain ⟨⟨title, htitle⟩, ⟨description, hdescription⟩, ⟨priority, hpriority⟩, assignee, hassignee⟩ := h
  rw [addTask, flush_of_working]
  by_cases hposition : Stored.Fits position
  · left
    have hinserted : insertTask ⟨d.code, title, description.getD "", priority, assignee, d.tags⟩
        column position now b = _ := insertTask_of_not_mem column position now hcode
    simp only [Stored.integer_of_fits hcolumn, Stored.integer_of_fits hposition, htitle,
      hdescription, hpriority, hassignee, bind, Except.bind]
    exact ⟨_, _, write_eq_ok.mpr hinserted⟩
  · have hoverflow : Stored.integer position = .error .integerOverflow := if_neg hposition
    right
    simp only [write, Stored.integer_of_fits hcolumn, hoverflow, htitle, hdescription, hpriority,
      hassignee, bind, Except.bind]
    exact ⟨rfl, hposition⟩

namespace Operation

variable {spacing : Spacing} {now : Timestamp} {b b₁ : Board}

/-- A task is created under a new code in a column that is there exactly when the end of the column
fits. -/
theorem creation_iff {code : String} (hcode : code ∉ b.tasks.map Task.code) {r : NewTask}
    (hcolumn : Stored.Fits r.column) (hwritable : r.Writable) {d : Column}
    (hd : b.column? r.column = some d) :
    (∃ t b', creation spacing code r ⟨now, none⟩ b = (.ok t, b')) ↔
      Stored.Fits (Position.atEnd (b.entries r.column) spacing.gap) := by
  obtain ⟨description, tags, hdescription, htags, hdraft⟩ := hwritable
  -- with the column found and the fields readable, only the insert is left
  have hwork : creation spacing code r ⟨now, none⟩ b =
      Store.addTask ⟨code, r.title, description,
        if r.priority.isGiven then r.priority else defaultPriority, r.assignee, tags⟩ r.column
        (Position.atEnd (b.entries r.column) spacing.gap) ⟨now, none⟩ b := by
    unfold creation
    rw [bind_of_ok (Store.lockColumn_of_some hcolumn hd), bind_of_ok (Store.order_of_fits hcolumn),
      hdescription, htags]
    rfl
  rw [hwork]
  constructor
  · rintro ⟨t, b', h⟩
    exact (Store.addTask_eq_ok h).1.2
  · intro hfits
    rcases Store.addTask_of_writable (d := ⟨code, _, _, _, _, _⟩) hdraft hcolumn hcode with
      hok | ⟨-, hnot⟩
    · exact hok
    · exact absurd hfits hnot

end Operation

/-! ## Multiples that fit -/

/-- When there is room for the multiples of a few more tasks than a column has, its own fit. -/
theorem fits_multiple_of_le {gap : Int} {n i : Nat} (hgap : 1 ≤ gap)
    (hroom : (n + 2) * gap < 2 ^ 63) (hi : i ≤ n) : Stored.Fits (multiple gap i) := by
  have hle : (i : Int) * gap ≤ (n + 2) * gap :=
    Int.mul_le_mul_of_nonneg_right (by omega) (by omega)
  have hnonneg : 0 ≤ (i : Int) * gap := Int.mul_nonneg (by omega) (by omega)
  unfold multiple basePosition Stored.Fits Stored.minInteger Stored.maxInteger
  omega

theorem length_insertBeside_le (id reference : Int) (after : Bool) (l : List Int) :
    (insertBeside id reference after l).length ≤ l.length + 1 := by
  induction l with
  | nil => simp [insertBeside]
  | cons n rest ih =>
    unfold insertBeside
    split
    · cases after <;> simp
    · simpa using ih

/-- A move makes a column longer by one task at most. -/
theorem Change.length_apply_le {task column : Int} {x : Change}
    (hx : x = .last task column ∨ ∃ reference after, x = .beside task column reference after)
    (l : Lineup) : (x.apply l column).length ≤ (l column).length + 1 := by
  have hwithout : (l.without task column).length ≤ (l column).length := List.length_filter_le ..
  rcases hx with rfl | ⟨reference, after, rfl⟩
  · simpa [apply, Lineup.set] using hwithout
  · have := length_insertBeside_le task reference after (l.without task column)
    simp only [apply, Lineup.set, Function.update_self]
    omega

/-! ## Guided moves -/

namespace Operation

variable {spacing : Spacing} {now : Timestamp} {b b₁ : Board} {r : MoveRequest} {column : Int}

/-- A guided request would put its task beyond the range of the stored field. -/
def MoveRequest.Overruns (gap : Int) (b : Board) (column : Int) (r : MoveRequest) : Prop :=
  match r.reference with
  | none => ¬ Stored.Fits (Position.atEnd (b.entriesWithout column r.task) gap)
  | some reference => ∃ p, ¬ Stored.Fits p ∧
      Position.place (b.entriesWithout column r.task) (some reference) r.after gap = .ok p

/-- Where a task is placed into a renumbered column for lack of room, its position fits. -/
theorem fits_place_renumbered (now : Timestamp) {gap : Int} (hgap : 2 ≤ gap)
    (hroom : ((b.order column).length + 2) * gap < 2 ^ 63) {task reference lower upper p : Int}
    {after : Bool}
    (hfull : Position.place (b.entriesWithout column task) (some reference) after gap =
      .error (.exhausted lower upper))
    (hplace : Position.place ((b.renumbered column gap now).entriesWithout column task)
      (some reference) after gap = .ok p) : Stored.Fits p := by
  obtain ⟨l₁, e, f, l₂, hl, -, hmiddle⟩ := place_renumbered_of_exhausted now hgap hfull
  obtain rfl : p = Position.midpoint e.2 f.2 := Except.ok.inj (hplace.symm.trans hmiddle)
  -- the middle lies between two entries, and these stand at multiples
  have hentry : ∀ d ∈ (b.renumbered column gap now).entriesWithout column task,
      Stored.Fits d.2 := by
    intro d hd
    obtain ⟨s, hs, -, rfl⟩ := Board.exists_of_mem_entriesWithout hd
    obtain ⟨i, hi, hposition⟩ := Board.exists_position_eq_multiple (by omega) hs
    have hlt := (List.getElem?_eq_some_iff.mp hi).1
    rw [List.length_map] at hlt
    simp only [Task.entry, hposition]
    exact fits_multiple_of_le (by omega) hroom (by omega)
  have hsorted := (b.renumbered column gap now).entriesWithout_ascending column task
  rw [hl] at hsorted hentry
  have hle : e.2 + 2 * 0 ≤ f.2 := by
    have := (List.pairwise_cons.mp (List.pairwise_append.mp hsorted).2.1).1 f List.mem_cons_self
    omega
  obtain ⟨hlower, hupper⟩ := Position.midpoint_apart hle
  exact Stored.fits_of_le_of_le (hentry e (by simp)) (hentry f (by simp)) (by omega) (by omega)

/-- A guided move lands at a position that fits exactly when it does not overrun the range. -/
theorem Lands.fits_iff {p : Int} {cleared : Bool} (h : Lands spacing now b column r p cleared b₁)
    (hgap : 2 ≤ spacing.gap) (hroom : ((b.order column).length + 2) * spacing.gap < 2 ^ 63)
    (hsound : r.reference ≠ some r.task) (hguided : r.Guided b column) :
    Stored.Fits p ↔ ¬ r.Overruns spacing.gap b column := by
  unfold MoveRequest.Guided at hguided
  unfold MoveRequest.Overruns
  cases h with
  | explicit href hpos => simp [href, hpos] at hguided
  | last href => simp [href]
  | beside href hplace => simp [href, hplace]
  | @fallback reference _ href hmissing =>
    simp only [href] at hguided
    have hne : reference ≠ r.task := fun heq => hsound (href.trans (congrArg some heq))
    exact absurd (Board.mem_ids_entriesWithout.mpr ⟨hne, Board.mem_lineup.mp hguided⟩) hmissing
  | cleared href hfull hplace =>
    simpa [href, hfull] using fits_place_renumbered now hgap hroom hfull hplace

/-- A guided move that does not overrun the range has nothing to write that does not fit. -/
theorem Writes.fits {t : Task} {q : Int} (h : Writes spacing now b column r q)
    (hgap : 2 ≤ spacing.gap) (hroom : ((b.order column).length + 2) * spacing.gap < 2 ^ 63)
    (ht : b.task? r.task = some t) (hsound : r.reference ≠ some r.task)
    (hguided : r.Guided b column) (hwithin : ¬ r.Overruns spacing.gap b column) :
    Stored.Fits q := by
  -- a renumbering writes multiples of the gap, at most one for each place of the column
  have hmultiple : ∀ {ordered : List Task}, ordered.length ≤ (b.order column).length + 1 →
      ∀ q ∈ (Store.misplaced ordered spacing.gap).map Prod.snd, Stored.Fits q := by
    intro ordered hlength q hq
    obtain ⟨target, htarget, rfl⟩ := List.mem_map.mp hq
    obtain ⟨i, s, hi, -, hmultiple, -⟩ := mem_misplaced.mp htarget
    have hlt := (List.getElem?_eq_some_iff.mp hi).1
    rw [hmultiple]
    exact fits_multiple_of_le (by omega) hroom (by omega)
  cases h with
  -- the three ways in which a move writes a position
  | clearing _ _ hq => exact hmultiple (Nat.le_succ _) q hq
  | landing hlands => exact (hlands.fits_iff hgap hroom hsound hguided).mpr hwithin
  | easing hlands _ hq =>
    obtain ⟨hmem, hid⟩ := Board.task?_eq_some_iff.mp ht
    have hlineup := hlands.lineup_eq hmem hid (by omega) hsound
    have hlength := Change.length_apply_le hguided.change_eq b.lineup
    rw [← hlineup] at hlength
    exact hmultiple (by simpa [Board.lineup] using hlength) q hq

/-- A guided move succeeds exactly when it does not overrun the range. -/
theorem relocation_iff {t : Task} {d : Column} (hgap : 2 ≤ spacing.gap) (hb : b.IntegersFit)
    (hcolumn : Stored.Fits column)
    (hroom : ((b.order column).length + 2) * spacing.gap < 2 ^ 63)
    (hsound : r.reference ≠ some r.task) (ht : b.task? r.task = some t)
    (hdestination : b.destination t r = column) (hd : b.column? column = some d)
    (hguided : r.Guided b column) :
    (∃ m b', relocation spacing r ⟨now, none⟩ b = (.ok m, b')) ↔
      ¬ r.Overruns spacing.gap b column := by
  subst hdestination
  constructor
  · rintro ⟨m, b', h⟩
    obtain ⟨p, cleared, b₁, hlands, hfits⟩ := lands_of_relocation hb h ht
    exact (hlands.fits_iff hgap hroom hsound hguided).mp hfits
  · intro hwithin
    obtain ⟨hmem, hid⟩ := Board.task?_eq_some_iff.mp ht
    have hnamed : ∀ column ∈ r.column, Stored.Fits column := fun column hnamed =>
      destination_of_column (b := b) (t := t) hnamed ▸ hcolumn
    -- the only other outcomes are a stray reference and an overflow, and neither can happen here
    rcases relocation_of_fits now hgap hb.keys (hid ▸ (hb.keys t hmem).1) hnamed
      (hguided.fits_reference hb.keys) hsound ht hd with
      hok | ⟨hstranded, -⟩ | ⟨-, -, q, hq, hoverflow⟩
    · exact hok
    · exact absurd hstranded hguided.not_stranded
    · exact absurd (hq.fits hgap hroom ht hsound hguided hwithin) hoverflow

/-- A guided move does not overrun the range when all tasks of the column stand a gap within it. -/
theorem not_overruns_of_within {gap : Int} (hb : b.IntegersFit)
    (h : ∀ t ∈ b.order column, Stored.Fits (t.position - gap) ∧ Stored.Fits (t.position + gap)) :
    ¬ r.Overruns gap b column := by
  have hentry : ∀ e ∈ b.entriesWithout column r.task, Stored.Fits e.2 ∧
      Stored.Fits (e.2 - gap) ∧ Stored.Fits (e.2 + gap) := by
    intro e he
    obtain ⟨s, hs, -, rfl⟩ := Board.exists_of_mem_entriesWithout he
    exact ⟨hb.positions s (Board.mem_order.mp hs).1, h s hs⟩
  unfold MoveRequest.Overruns
  split
  -- without a reference the task goes to the end
  · rw [not_not]
    exact Position.fits_atEnd fun e he => (hentry e he).2.2
  · rintro ⟨p, hnot, hplace⟩
    apply hnot
    -- the new position lies between two entries, between zero and an entry, or one gap off an entry
    rcases Position.place_reach (b.entriesWithout_ascending column r.task) hplace with
      ⟨e, he, f, hf, hep, hpf⟩ | ⟨q, hq, ⟨hzero, hp⟩ | ⟨-, rfl⟩ | ⟨-, rfl⟩⟩
    · exact Stored.fits_of_le_of_le (hentry e he).1 (hentry f hf).1 hep hpf
    · exact Stored.fits_of_le_of_le (by decide) (hentry _ hq).1 hzero hp
    · exact (hentry _ hq).2.2
    · exact (hentry _ hq).2.1

end Operation

/-! ## Usable columns -/

/-- On a stored board, in a column whose multiples fit with room for two more: a task is created under
a new code exactly when the end of the column fits, and a guided move succeeds exactly when it does
not overrun the range. Both hold when all tasks of the column stand a gap within the range. -/
theorem usable_iff {spacing : Spacing} {b : Board} {column : Int} {d : Column}
    (hgap : 2 ≤ spacing.gap) (hb : b.IntegersFit) (hcolumn : Stored.Fits column)
    (hd : b.column? column = some d)
    (hroom : ((b.order column).length + 2) * spacing.gap < 2 ^ 63) (now : Timestamp) :
    (∀ code r, code ∉ b.tasks.map Task.code → r.column = column → r.Writable →
      ((∃ t, (Operation.create spacing code r ⟨now, none⟩ b).1 = .ok t) ↔
        Stored.Fits (Position.atEnd (b.entries column) spacing.gap))) ∧
    (∀ r t, b.task? r.task = some t → r.reference ≠ some r.task → b.destination t r = column →
      r.Guided b column →
      ((∃ m, (Operation.move spacing r ⟨now, none⟩ b).1 = .ok m) ↔
        ¬ r.Overruns spacing.gap b column)) ∧
    ((∀ t ∈ b.order column,
        Stored.Fits (t.position - spacing.gap) ∧ Stored.Fits (t.position + spacing.gap)) →
      Stored.Fits (Position.atEnd (b.entries column) spacing.gap) ∧
        ∀ r : Operation.MoveRequest, ¬ r.Overruns spacing.gap b column) := by
  -- without faults, the unit of work succeeds exactly when its body does
  have hcommitted : ∀ {α : Type} {w : Work α}, (∃ x, (transaction w ⟨now, none⟩ b).1 = .ok x) ↔
      ∃ x b', w ⟨now, none⟩ b = (.ok x, b') := by
    intro α w
    constructor
    · rintro ⟨x, hx⟩
      exact ⟨x, _, (transaction_eq_ok.mp (Prod.ext hx rfl)).1⟩
    · rintro ⟨x, b', hx⟩
      exact ⟨x, congrArg Prod.fst (transaction_eq_ok.mpr ⟨hx, rfl⟩)⟩
  refine ⟨?_, ?_, fun hwithin => ⟨Position.fits_atEnd fun e he => ?_, fun r =>
    Operation.not_overruns_of_within hb hwithin⟩⟩
  · rintro code r hcode rfl hwritable
    exact hcommitted.trans (Operation.creation_iff hcode hcolumn hwritable hd)
  · intro r t ht hsound hdestination hguided
    exact hcommitted.trans
      (Operation.relocation_iff hgap hb hcolumn hroom hsound ht hdestination hd hguided)
  · obtain ⟨t, ht, rfl⟩ := List.mem_map.mp he
    exact (hwithin t ht).2

/-- A task is created, and its caller puts it at the largest position that there is. -/
def farRun : List Event :=
  [.ofCall 1000000 100 "a" (.create (.int 1) (.text "a") .null .null .null .null),
    .ofCall 1000000 100 "" (.move (.int 1) .null .null (.bool true) (.int 9223372036854775807))]

/-- No task can be created after that in a column with one task, although there would be room for
many. -/
theorem headroom_lost :
    (run bareBoard farRun).column? 1 = bareBoard.column? 1 ∧
      (((run bareBoard farRun).order 1).length + 2) * (1000000 : Int) < 2 ^ 63 ∧
      ((Call.create (.int 1) (.text "b") .null .null .null .null).perform ⟨1000000, 100⟩ "b"
        ⟨⟨0⟩, none⟩ (run bareBoard farRun)).1 = .error .integerOverflow := by
  have hlength : ((run bareBoard farRun).order 1).length = 1 := by cbv
  refine ⟨by cbv, ?_, by cbv⟩
  rw [hlength]
  decide

/-- The end of that column does not fit, and nothing but the end is wrong with it. -/
theorem usable_iff_far :
    ¬ Stored.Fits (Position.atEnd ((run bareBoard farRun).entries 1) 1000000) ∧
      ¬ ∃ t, (Operation.create ⟨1000000, 100⟩ "b" ⟨1, .text "b", .null, .null, .null, .null⟩
        ⟨⟨0⟩, none⟩ (run bareBoard farRun)).1 = .ok t := by
  have hlength : ((run bareBoard farRun).order 1).length = 1 := by cbv
  have hentries : (run bareBoard farRun).entries 1 = [(1, 9223372036854775807)] := by cbv
  have hfits : decide (run bareBoard farRun).IntegersFit = true := by cbv
  have hd : (run bareBoard farRun).column? 1 = some ⟨1, "todo", "To do", none, .integer 0⟩ := by cbv
  have hcodes : (run bareBoard farRun).tasks.map Task.code = ["a"] := by cbv
  have hfar : ¬ Stored.Fits (Position.atEnd ((run bareBoard farRun).entries 1) 1000000) := by
    rw [hentries]
    decide
  have hwritable : Operation.NewTask.Writable ⟨1, .text "b", .null, .null, .null, .null⟩ :=
    ⟨.text "", [], rfl, rfl, ⟨_, rfl⟩, ⟨_, rfl⟩, ⟨_, rfl⟩, ⟨_, rfl⟩⟩
  obtain ⟨hcreate, -⟩ := usable_iff (by decide : 2 ≤ (⟨1000000, 100⟩ : Spacing).gap)
    (of_decide_eq_true hfits) (by decide) hd (by rw [hlength]; decide) ⟨0⟩
  exact ⟨hfar, fun h => hfar ((hcreate "b" _ (by rw [hcodes]; decide) rfl hwritable).mp h)⟩

end Kanban
