import Kanban.Proofs.Confinement
import Kanban.Proofs.Distance
import Mathlib

/-!
# How a move ends

On a working database a move can fail in four ways only: its task, its destination or its reference
is missing, or a position that it has to write does not fit the stored field (`MoveEnds`). It never
finds the gap next to its reference exhausted for good, because a column that was renumbered has room
everywhere, and a move that had to make room is not followed by another renumbering when the gap is
at least twice the threshold.
-/

namespace Kanban

open Work

/-! ## Stored keys -/

/-- The ids on a board fit their fields, as those of every stored board do. -/
def Board.KeysFit (b : Board) : Prop := ∀ t ∈ b.tasks, Stored.Fits t.id ∧ Stored.Fits t.column

instance (b : Board) : Decidable b.KeysFit :=
  inferInstanceAs (Decidable (∀ t ∈ b.tasks, Stored.Fits t.id ∧ Stored.Fits t.column))

namespace Board.KeysFit

variable {b : Board} {column : Int} {now : Timestamp}

theorem renumbered (h : b.KeysFit) (gap : Int) : (b.renumbered column gap now).KeysFit := by
  intro t ht
  obtain ⟨s, hs, rfl⟩ := List.mem_map.mp ht
  rw [retarget_id, retarget_column]
  exact h s hs

theorem putTask (h : b.KeysFit) (hcolumn : Stored.Fits column) {id position : Int} :
    (b.putTask id column position now).KeysFit := by
  intro t ht
  rcases mem_tasks_putTask.mp ht with ⟨ht, -⟩ | ⟨s, hs, -, rfl⟩
  · exact h t ht
  · rw [Task.put_id, Task.put_column]
    exact ⟨(h s hs).1, hcolumn⟩

end Board.KeysFit

namespace Operation

variable {now : Timestamp} {b : Board} {spacing : Spacing} {column gap : Int}

/-! ## What a move has to write -/

/-- The positions that a move to a column has to write. -/
inductive Writes (spacing : Spacing) (now : Timestamp) (b : Board) (column : Int)
    (r : MoveRequest) : Int → Prop where
  /-- Those of the tasks that are renumbered to make room next to the reference. -/
  | clearing {reference lower upper p : Int} (href : r.reference = some reference)
      (hfull : Position.place (b.entriesWithout column r.task) (some reference) r.after
        spacing.gap = .error (.exhausted lower upper))
      (hp : p ∈ (Store.misplaced (b.order column) spacing.gap).map Prod.snd) :
      Writes spacing now b column r p
  /-- That of the moved task. -/
  | landing {p : Int} {cleared : Bool} {b₁ : Board}
      (hlands : Lands spacing now b column r p cleared b₁) : Writes spacing now b column r p
  /-- Those of the tasks that are renumbered because the column is crowded after the move. -/
  | easing {p q : Int} {cleared : Bool} {b₁ : Board}
      (hlands : Lands spacing now b column r p cleared b₁)
      (hcrowded : Spacing.isCrowded ((b₁.putTask r.task column p now).positions column)
        spacing.threshold = true)
      (hq : q ∈ (Store.misplaced ((b₁.putTask r.task column p now).order column)
        spacing.gap).map Prod.snd) : Writes spacing now b column r q

/-! ## Renumbering on a working database -/

/-- Renumbering fails only when a position does not fit. -/
theorem renumber_of_fits (now : Timestamp) (gap : Int) (hb : b.KeysFit)
    (hcolumn : Stored.Fits column) :
    renumber column gap ⟨now, none⟩ b = (.ok (), b.renumbered column gap now) ∨
      (renumber column gap ⟨now, none⟩ b = (.error .integerOverflow, b) ∧
        ∃ p ∈ (Store.misplaced (b.order column) gap).map Prod.snd, ¬ Stored.Fits p) := by
  have hrebalance := Store.rebalance_of_fits now gap hcolumn fun t ht =>
    (hb t (Board.mem_order.mp ht).1).1
  have hrenumber : renumber column gap ⟨now, none⟩ b =
      (do let _ ← Store.rebalance column gap; pure () : Work Unit) ⟨now, none⟩ b := rfl
  rw [hrenumber]
  by_cases hstorable : Store.AllStorable b (Store.misplaced (b.order column) gap)
  · rw [if_pos hstorable] at hrebalance
    left
    rw [bind_of_ok hrebalance]
    rfl
  · rw [if_neg hstorable] at hrebalance
    right
    refine ⟨bind_of_error hrebalance, ?_⟩
    simp only [Store.AllStorable, not_forall] at hstorable
    -- one of the multiples does not fit, as the column does
    obtain ⟨t, -, p, hp, hnot⟩ := hstorable
    have hnodup := (b.nodup_ids_order column).sublist (misplaced_ids_sublist _ gap)
    refine ⟨p, List.mem_map_of_mem ((lookup_eq_some_iff_mem hnodup).mp hp), fun hfits => ?_⟩
    exact hnot ⟨.inl rfl, .inr hfits⟩

/-- On a working database, watching a column goes well unless a position that has to be written does
not fit. -/
theorem renumberIfCrowded_of_fits (now : Timestamp) (spacing : Spacing) (hb : b.KeysFit)
    (hcolumn : Stored.Fits column) :
    (∃ crowded b', renumberIfCrowded spacing column ⟨now, none⟩ b = (.ok crowded, b')) ∨
      (∃ b', renumberIfCrowded spacing column ⟨now, none⟩ b = (.error .integerOverflow, b')) ∧
        Spacing.isCrowded (b.positions column) spacing.threshold = true ∧
        ∃ p ∈ (Store.misplaced (b.order column) spacing.gap).map Prod.snd, ¬ Stored.Fits p := by
  unfold renumberIfCrowded
  rw [bind_of_ok (Store.order_of_fits hcolumn)]
  split
  · next hcrowded =>
    rcases renumber_of_fits now spacing.gap hb hcolumn with hok | ⟨herror, hp⟩
    · exact .inl ⟨_, _, bind_of_ok hok⟩
    · exact .inr ⟨⟨_, bind_of_error herror⟩, hcrowded, hp⟩
  · exact .inl ⟨_, _, rfl⟩

/-! ## Landing on a working database -/

/-- The request has a reference that is not in the column, and no position to take instead. -/
def MoveRequest.Stranded (b : Board) (column : Int) (r : MoveRequest) : Prop :=
  r.position = none ∧
    ∃ reference, r.reference = some reference ∧ ∀ t ∈ b.tasks, t.id = reference → t.column ≠ column

/-- A renumbered column has room next to each of its tasks. -/
theorem place_renumbered_ne_exhausted (hgap : 2 ≤ gap) {task reference lower upper : Int}
    {after : Bool} :
    Position.place ((b.renumbered column gap now).entriesWithout column task) (some reference)
      after gap ≠ .error (.exhausted lower upper) :=
  Board.place_ne_exhausted
    ((b.pairwise_positions_renumbered column (by omega) now).imp fun h => h.mono hgap)

/-- On a working database, the place next to a reference is computed, be it free, full or missing.
-/
theorem besideIn_of_fits (hcolumn : Stored.Fits column) {task : Int} (htask : Stored.Fits task)
    (reference : Int) (after : Bool) :
    besideIn column task reference after gap ⟨now, none⟩ b =
      (.ok (Position.place (b.entriesWithout column task) (some reference) after gap), b) :=
  bind_of_ok (Store.orderWithout_of_fits hcolumn htask)

/-- Finding a place next to a reference fails only when a position does not fit that has to be
written to make room. -/
theorem beside_of_fits (now : Timestamp) (hgap : 2 ≤ gap) (hb : b.KeysFit)
    (hcolumn : Stored.Fits column) {task : Int} (htask : Stored.Fits task) (reference : Int)
    (after : Bool) :
    (∃ place b', beside column task reference after gap ⟨now, none⟩ b = (.ok place, b')) ∨
      (∃ b', beside column task reference after gap ⟨now, none⟩ b =
        (.error .integerOverflow, b')) ∧
        (∃ lower upper, Position.place (b.entriesWithout column task) (some reference) after gap =
          .error (.exhausted lower upper)) ∧
        ∃ p ∈ (Store.misplaced (b.order column) gap).map Prod.snd, ¬ Stored.Fits p := by
  unfold beside
  rw [bind_of_ok (besideIn_of_fits hcolumn htask reference after)]
  rcases hplace : Position.place (b.entriesWithout column task) (some reference) after gap with
    (key | ⟨lower, upper⟩) | p
  · exact .inl ⟨_, _, rfl⟩
  · rcases renumber_of_fits now gap hb hcolumn with hok | ⟨herror, hp⟩
    · left
      simp only
      rw [bind_of_ok hok, bind_of_ok (besideIn_of_fits hcolumn htask reference after)]
      rcases hsecond : Position.place ((b.renumbered column gap now).entriesWithout column task)
        (some reference) after gap with (key | ⟨lower, upper⟩) | p
      · exact ⟨_, _, rfl⟩
      -- a renumbered column has room everywhere
      · exact absurd hsecond (place_renumbered_ne_exhausted hgap)
      · exact ⟨_, _, rfl⟩
    · exact .inr ⟨⟨_, bind_of_error herror⟩, ⟨lower, upper, rfl⟩, hp⟩
  · exact .inl ⟨_, _, rfl⟩

theorem MoveRequest.not_stranded_of_mem {r : MoveRequest} {reference : Int}
    (href : r.reference = some reference)
    (hmem : reference ∈ (b.entriesWithout column r.task).map Prod.fst) : ¬ r.Stranded b column := by
  rintro ⟨-, reference', href', hmissing⟩
  obtain rfl : reference = reference' := Option.some.inj (href.symm.trans href')
  obtain ⟨-, t, ht, hid, hc⟩ := Board.mem_ids_entriesWithout.mp hmem
  exact hmissing t ht hid hc

/-- A request without a position is stranded where its reference is missing. -/
theorem MoveRequest.stranded_of_not_mem {r : MoveRequest} {reference : Int}
    (href : r.reference = some reference) (hne : reference ≠ r.task) (hpos : r.position = none)
    (hmissing : reference ∉ (b.entriesWithout column r.task).map Prod.fst) :
    r.Stranded b column := by
  refine ⟨hpos, reference, href, fun t ht hid hc => ?_⟩
  exact hmissing (Board.mem_ids_entriesWithout.mpr ⟨hne, t, ht, hid, hc⟩)

/-- A task that lands was not stranded. -/
theorem Lands.not_stranded {r : MoveRequest} {p : Int} {cleared : Bool} {b₁ : Board}
    (h : Lands spacing now b column r p cleared b₁) : ¬ r.Stranded b column := by
  cases h with
  | explicit href | last href =>
    rintro ⟨-, reference, href', -⟩
    simp [href] at href'
  | fallback _ _ hpos =>
    rintro ⟨hpos', -⟩
    simp [hpos] at hpos'
  | beside href hplace =>
    exact MoveRequest.not_stranded_of_mem href (Position.mem_of_place_eq_ok hplace)
  | cleared href hfull =>
    exact MoveRequest.not_stranded_of_mem href (Position.mem_of_place_eq_exhausted hfull)

/-- A task lands, it is stranded, or a position does not fit. -/
theorem landing_of_fits (now : Timestamp) (hgap : 2 ≤ spacing.gap) (hb : b.KeysFit)
    (hcolumn : Stored.Fits column) {r : MoveRequest} (htask : Stored.Fits r.task)
    (hsound : r.reference ≠ some r.task) :
    (∃ place b', landing spacing column r ⟨now, none⟩ b = (.ok place, b')) ∨
      (r.Stranded b column ∧ ∃ reference b', r.reference = some reference ∧
        landing spacing column r ⟨now, none⟩ b = (.error (.referenceNotFound reference), b')) ∨
      (¬ r.Stranded b column ∧
        (∃ b', landing spacing column r ⟨now, none⟩ b = (.error .integerOverflow, b')) ∧
        ∃ p, Writes spacing now b column r p ∧ ¬ Stored.Fits p) := by
  obtain ⟨task, column', reference, after, position⟩ := r
  rcases reference with _ | reference
  · left
    rcases position with _ | p
    · exact ⟨_, _, bind_of_ok (bind_of_ok (Store.orderWithout_of_fits hcolumn htask))⟩
    · exact ⟨_, _, rfl⟩
  · rcases beside_of_fits now hgap hb hcolumn htask reference after with
      ⟨place, b', hbeside⟩ | ⟨⟨b', hbeside⟩, ⟨lower, upper, hfull⟩, p, hp, hfits⟩
    · rcases place with _ | place
      · rcases position with _ | p
        · -- no place was found without a failure, so the reference is missing
          right
          left
          have hmissing : reference ∉ (b.entriesWithout column task).map Prod.fst := by
            rcases beside_eq_ok hbeside with ⟨p, h, -⟩ | ⟨-, -, h⟩ | ⟨p, lower, upper, h, -⟩
            · cases h
            · exact h
            · cases h
          have hne : reference ≠ task := fun heq => hsound (congrArg some heq)
          exact ⟨MoveRequest.stranded_of_not_mem rfl hne rfl hmissing, reference, _, rfl,
            bind_of_ok hbeside⟩
        · exact .inl ⟨_, _, bind_of_ok hbeside⟩
      · exact .inl ⟨_, _, bind_of_ok hbeside⟩
    -- room was to be made, so the reference is in the column
    · have hmem := Position.mem_of_place_eq_exhausted hfull
      exact .inr (.inr ⟨MoveRequest.not_stranded_of_mem rfl hmem, ⟨_, bind_of_error hbeside⟩, p,
        .clearing rfl hfull hp, hfits⟩)

/-! ## Moves on a working database -/

/-- The destination of a move can be looked for: it is named by the request or has a task. -/
theorem fits_destination (hb : b.KeysFit) {t : Task} (ht : t ∈ b.tasks) {r : MoveRequest}
    (hcolumn : ∀ column ∈ r.column, Stored.Fits column) : Stored.Fits (b.destination t r) := by
  obtain ⟨task, column', reference, after, position⟩ := r
  rcases column' with _ | column'
  · rcases reference with _ | reference
    · exact (hb t ht).2
    · simp only [Board.destination]
      cases hu : b.task? reference with
      | none => exact (hb t ht).2
      | some u => exact (hb u (Board.task?_eq_some_iff.mp hu).1).2
  · exact hcolumn column' rfl

theorem destination_of_fits {t : Task} {r : MoveRequest}
    (href : ∀ reference ∈ r.reference, Stored.Fits reference) :
    destination t r ⟨now, none⟩ b = (.ok (b.destination t r), b) := by
  obtain ⟨task, column', reference, after, position⟩ := r
  rcases column' with _ | column'
  · rcases reference with _ | reference
    · rfl
    · unfold destination Board.destination
      simp only
      rw [bind_of_ok (Store.task?_of_fits (href reference rfl))]
      cases b.task? reference with
      | none => rfl
      | some u => rfl
  · rfl

/-- Wherever a task lands, all ids still fit. -/
theorem Lands.keysFit {r : MoveRequest} {p : Int} {cleared : Bool} {b₁ : Board}
    (h : Lands spacing now b column r p cleared b₁) (hb : b.KeysFit) : b₁.KeysFit := by
  rcases h.board_eq with rfl | rfl
  · exact hb
  · exact hb.renumbered spacing.gap

/-- Wherever a task lands, it is still there. -/
theorem Lands.exists_task? {r : MoveRequest} {p : Int} {cleared : Bool} {b₁ : Board}
    (h : Lands spacing now b column r p cleared b₁) {id : Int} {t : Task}
    (ht : b.task? id = some t) : ∃ t₁, b₁.task? id = some t₁ := by
  rcases h.board_eq with rfl | rfl
  · exact ⟨t, ht⟩
  · exact Board.exists_task?_renumbered ht column spacing.gap now

theorem exists_task?_eased {id : Int} {t : Task} (ht : b.task? id = some t) :
    ∃ t₁, (b.eased spacing column now).task? id = some t₁ := by
  unfold Board.eased
  split
  · exact Board.exists_task?_renumbered ht column spacing.gap now
  · exact ⟨t, ht⟩

/-- A move of a task to a column that is there succeeds, the task is stranded, or a position does
not fit. -/
theorem relocation_of_fits (now : Timestamp) (hgap : 2 ≤ spacing.gap) (hb : b.KeysFit)
    {r : MoveRequest} (htask : Stored.Fits r.task)
    (hcolumn : ∀ column ∈ r.column, Stored.Fits column)
    (href : ∀ reference ∈ r.reference, Stored.Fits reference)
    (hsound : r.reference ≠ some r.task) {t : Task} (ht : b.task? r.task = some t) {d : Column}
    (hd : b.column? (b.destination t r) = some d) :
    (∃ m b', relocation spacing r ⟨now, none⟩ b = (.ok m, b')) ∨
      (r.Stranded b (b.destination t r) ∧ ∃ reference b', r.reference = some reference ∧
        relocation spacing r ⟨now, none⟩ b = (.error (.referenceNotFound reference), b')) ∨
      (¬ r.Stranded b (b.destination t r) ∧
        (∃ b', relocation spacing r ⟨now, none⟩ b = (.error .integerOverflow, b')) ∧
        ∃ p, Writes spacing now b (b.destination t r) r p ∧ ¬ Stored.Fits p) := by
  have hfits : Stored.Fits (b.destination t r) :=
    fits_destination hb (Board.task?_eq_some_iff.mp ht).1 hcolumn
  unfold relocation
  rw [bind_of_ok (Store.task_of_some htask ht), bind_of_ok (destination_of_fits href),
    bind_of_ok (Store.lockColumn_of_some hfits hd)]
  rcases landing_of_fits now hgap hb hfits htask hsound with ⟨⟨p, cleared⟩, b₁, hlanding⟩ |
    ⟨hstranded, reference, b₁, hreference, hlanding⟩ | ⟨hfound, ⟨b₁, hlanding⟩, hp⟩
  -- a place was found, and three things are left to do: to write it, to watch the column, and to
  -- read the task again
  · have hlands : Lands spacing now b (b.destination t r) r p cleared b₁ := landing_eq_ok hlanding
    have hfound := hlands.not_stranded
    obtain ⟨t₁, ht₁⟩ := hlands.exists_task? ht
    have hwrite : Store.writePosition r.task (b.destination t r) p ⟨now, none⟩ b₁ = _ :=
      Store.writePosition_of_some ht₁
    rw [bind_of_ok hlanding]
    simp only
    by_cases hstorable : Store.Storable t₁ (b.destination t r) p
    · rw [if_pos hstorable] at hwrite
      rw [bind_of_ok hwrite]
      obtain ⟨t₂, ht₂⟩ := Board.exists_task?_putTask ht₁ r.task (b.destination t r) p now
      rcases renumberIfCrowded_of_fits now spacing ((hlands.keysFit hb).putTask hfits) hfits with
        ⟨crowded, b₃, hease⟩ | ⟨⟨b₃, hease⟩, hcrowded, q, hq, hqfits⟩
      · obtain ⟨-, rfl⟩ := renumberIfCrowded_eq_ok hease
        obtain ⟨t₃, ht₃⟩ := exists_task?_eased ht₂
        left
        rw [bind_of_ok hease, bind_of_ok (Store.task_of_some htask ht₃)]
        exact ⟨_, _, rfl⟩
      · exact .inr (.inr ⟨hfound, ⟨_, bind_of_error hease⟩, q, .easing hlands hcrowded hq, hqfits⟩)
    · rw [if_neg hstorable] at hwrite
      -- the column fits, so it is the position that does not
      refine .inr (.inr ⟨hfound, ⟨_, bind_of_error hwrite⟩, p, .landing hlands, fun hp => ?_⟩)
      exact hstorable ⟨.inr hfits, .inr hp⟩
  · exact .inr (.inl ⟨hstranded, reference, _, hreference, bind_of_error hlanding⟩)
  · exact .inr (.inr ⟨hfound, ⟨_, bind_of_error hlanding⟩, hp⟩)

/-- How a move ends on a working database. -/
inductive MoveEnds (spacing : Spacing) (now : Timestamp) (b : Board) (r : MoveRequest) :
    Except Failure Moved → Prop where
  | taskNotFound (ht : b.task? r.task = none) :
      MoveEnds spacing now b r (.error (.taskNotFound r.task))
  | columnNotFound {t : Task} (ht : b.task? r.task = some t)
      (hd : b.column? (b.destination t r) = none) :
      MoveEnds spacing now b r (.error (.columnNotFound (.int (b.destination t r))))
  | referenceNotFound {t : Task} {d : Column} {reference : Int} (ht : b.task? r.task = some t)
      (hd : b.column? (b.destination t r) = some d) (href : r.reference = some reference)
      (hstranded : r.Stranded b (b.destination t r)) :
      MoveEnds spacing now b r (.error (.referenceNotFound reference))
  | overflow {t : Task} {d : Column} {p : Int} (ht : b.task? r.task = some t)
      (hd : b.column? (b.destination t r) = some d)
      (hfound : ¬ r.Stranded b (b.destination t r))
      (hp : Writes spacing now b (b.destination t r) r p) (hfits : ¬ Stored.Fits p) :
      MoveEnds spacing now b r (.error .integerOverflow)
  | moved {t : Task} {d : Column} {m : Moved} (ht : b.task? r.task = some t)
      (hd : b.column? (b.destination t r) = some d)
      (hfound : ¬ r.Stranded b (b.destination t r)) : MoveEnds spacing now b r (.ok m)

/-- Every move on a working database ends in one of the ways that are listed. -/
theorem move_ends (now : Timestamp) (hgap : 2 ≤ spacing.gap) (hb : b.KeysFit) {r : MoveRequest}
    (htask : Stored.Fits r.task) (hcolumn : ∀ column ∈ r.column, Stored.Fits column)
    (href : ∀ reference ∈ r.reference, Stored.Fits reference)
    (hsound : r.reference ≠ some r.task) :
    MoveEnds spacing now b r (move spacing r ⟨now, none⟩ b).1 := by
  -- the caller of a unit of work sees each of these failures as it is
  have hfailed : ∀ {f : Failure} {b'}, relocation spacing r ⟨now, none⟩ b = (.error f, b') →
      (move spacing r ⟨now, none⟩ b).1 = .error f.surfaced := by
    intro f b' h
    exact congrArg Prod.fst (transaction_eq_error.mpr ⟨⟨f, .inl ⟨b', h⟩, rfl⟩, rfl⟩)
  cases ht : b.task? r.task with
  | none =>
    rw [hfailed (bind_of_error (Store.task_of_none htask ht))]
    exact .taskNotFound ht
  | some t =>
    have hfits : Stored.Fits (b.destination t r) :=
      fits_destination hb (Board.task?_eq_some_iff.mp ht).1 hcolumn
    cases hd : b.column? (b.destination t r) with
    | none =>
      -- the destination is locked before anything else is asked about it
      have hmissing : relocation spacing r ⟨now, none⟩ b =
          (.error (.columnNotFound (.int (b.destination t r))), b) := by
        unfold relocation
        rw [bind_of_ok (Store.task_of_some htask ht), bind_of_ok (destination_of_fits href),
          bind_of_error (Store.lockColumn_of_none hfits hd)]
      rw [hfailed hmissing]
      exact .columnNotFound ht hd
    | some d =>
      rcases relocation_of_fits now hgap hb htask hcolumn href hsound ht hd with ⟨m, b', h⟩ |
        ⟨hstranded, reference, b', hreference, h⟩ | ⟨hfound, ⟨b', h⟩, p, hp, hpfits⟩
      · -- a success has landed, and what lands was not stranded
        obtain ⟨t', p, cleared, b₁, ht', -, hlands, -⟩ := relocation_eq_ok h
        obtain rfl : t = t' := Option.some.inj (ht.symm.trans ht')
        have hmove : move spacing r ⟨now, none⟩ b = (.ok m, b') :=
          transaction_eq_ok.mpr ⟨h, rfl⟩
        rw [hmove]
        exact .moved ht hd hlands.not_stranded
      · rw [hfailed h]
        exact .referenceNotFound ht hd hreference hstranded
      · rw [hfailed h]
        exact .overflow ht hd hfound hp hpfits

/-! ## Making room -/

/-- No task of a renumbered column stands between zero and a gap. -/
theorem entriesWithout_renumbered_head (hgap : 1 ≤ gap) {task : Int} {e : Int × Int}
    (he : e ∈ (b.renumbered column gap now).entriesWithout column task) : e.2 ≤ 0 ∨ gap ≤ e.2 := by
  rw [Board.entriesWithout_eq] at he
  obtain ⟨t, ht, rfl⟩ := List.mem_map.mp (List.mem_filter.mp he).1
  obtain ⟨i, -, hi⟩ := Board.exists_position_eq_multiple hgap ht
  have hbase : multiple gap 0 = 0 := by simp [multiple, basePosition]
  simp only [Task.entry, hi]
  cases i with
  | zero => exact .inl (by omega)
  | succ i =>
    have : multiple gap 0 + gap ≤ multiple gap (i + 1) := multiple_add_le hgap (Nat.succ_pos i)
    exact .inr (by omega)

/-- A task that is placed into a renumbered column does not crowd it. -/
theorem isCrowded_placed {threshold : Int} (hgap : 1 ≤ gap) (hthreshold : 2 * threshold ≤ gap)
    {task reference p : Int} {after : Bool}
    (hplace : Position.place ((b.renumbered column gap now).entriesWithout column task)
      (some reference) after gap = .ok p) :
    Spacing.isCrowded (((b.renumbered column gap now).putTask task column p now).positions column)
      threshold = false := by
  have hapart := b.pairwise_positions_renumbered column hgap now
  rw [Spacing.isCrowded_eq_false_iff]
  apply Board.pairwise_positions_putTask
  · exact hapart.imp fun h => h.mono (by omega)
  · intro s hs
    exact Position.place_apart (Board.entriesWithout_spaced hapart hgap task)
      (fun e he => entriesWithout_renumbered_head hgap he) hgap le_rfl hthreshold hplace s.entry
      (List.mem_map_of_mem hs)

/-- When there was no room next to a reference, renumbering the column makes some: the place is then
the middle between the reference and the neighbour on the asked side. -/
theorem place_renumbered_of_exhausted (now : Timestamp) (hgap : 2 ≤ gap)
    {task reference lower upper : Int} {after : Bool}
    (hfull : Position.place (b.entriesWithout column task) (some reference) after gap =
      .error (.exhausted lower upper)) :
    ∃ l₁ e f l₂, (b.renumbered column gap now).entriesWithout column task = l₁ ++ e :: f :: l₂ ∧
      (if after then e.1 else f.1) = reference ∧
      Position.place ((b.renumbered column gap now).entriesWithout column task) (some reference)
        after gap = .ok (Position.midpoint e.2 f.2) := by
  have hgap' : 1 ≤ gap := by omega
  have hapart := b.pairwise_positions_renumbered column hgap' now
  refine Position.place_of_exhausted (b.nodup_ids_entriesWithout column task) ?_ ?_ hfull
  · rw [Board.ids_entriesWithout_eq_filter, Board.ids_entriesWithout_eq_filter,
      b.ids_order_renumbered column hgap']
  · refine (Board.entriesWithout_spaced hapart hgap' task).imp fun h => ?_
    omega

/-- A move made room in its column, and put its task there. -/
structure MadeRoom (spacing : Spacing) (now : Timestamp) (b : Board) (column : Int)
    (r : MoveRequest) (m : Moved) (b' : Board) : Prop where
  /-- The caller is told. -/
  rebalanced : m.rebalanced = true
  /-- The task stands in the middle between its reference and the neighbour on the asked side, as they
  stand in the renumbered column, and nothing else has changed since. -/
  middle : ∃ l₁ e f l₂, (b.renumbered column spacing.gap now).entriesWithout column r.task =
      l₁ ++ e :: f :: l₂ ∧
    some (if r.after then e.1 else f.1) = r.reference ∧
    b' = (b.renumbered column spacing.gap now).putTask r.task column
      (Position.midpoint e.2 f.2) now
  /-- Each other task of the column stands at the multiple that belongs to its place. -/
  multiples : ∀ s ∈ b'.order column, s.id ≠ r.task → ∃ i : Nat,
    ((b.order column).map Task.id)[i]? = some s.id ∧ s.position = multiple spacing.gap i
  /-- There is nothing to renumber again. -/
  uncrowded : Spacing.isCrowded (b'.positions column) spacing.threshold = false

/-- A move that finds the gap next to its reference exhausted, and then succeeds, has made room. -/
theorem relocation_of_exhausted {c : Conditions} {b' : Board} {r : MoveRequest} {m : Moved}
    {t : Task} {d reference lower upper : Int} (hgap : 2 ≤ spacing.gap)
    (hthreshold : 2 * spacing.threshold ≤ spacing.gap) (ht : b.task? r.task = some t)
    (hd : b.destination t r = d) (href : r.reference = some reference)
    (hfull : Position.place (b.entriesWithout d r.task) (some reference) r.after spacing.gap =
      .error (.exhausted lower upper))
    (h : relocation spacing r c b = (.ok m, b')) : MadeRoom spacing c.now b d r m b' := by
  obtain ⟨t', p, cleared, b₁, ht', -, hlands, rfl, -, hm⟩ := relocation_eq_ok h
  obtain rfl : t = t' := Option.some.inj (ht.symm.trans ht')
  subst hd
  cases hlands with
  -- there is a reference, it is there, and next to it there was no room
  | explicit href' | last href' => simp [href] at href'
  | beside href' hplace =>
    obtain rfl : reference = _ := Option.some.inj (href.symm.trans href')
    cases hfull.symm.trans hplace
  | fallback href' hmissing =>
    obtain rfl : reference = _ := Option.some.inj (href.symm.trans href')
    exact absurd (Position.mem_of_place_eq_exhausted hfull) hmissing
  | cleared href' hfull' hplace =>
    obtain rfl : reference = _ := Option.some.inj (href.symm.trans href')
    obtain ⟨l₁, e, f, l₂, hl, hkey, hmiddle⟩ := place_renumbered_of_exhausted c.now hgap hfull
    obtain rfl : p = Position.midpoint e.2 f.2 := Except.ok.inj (hplace.symm.trans hmiddle)
    -- the gap is twice the threshold, so half of it keeps the column calm
    have hcrowded := isCrowded_placed (by omega) hthreshold hplace
    rw [Board.eased, if_neg (Bool.eq_false_iff.mp hcrowded)]
    refine ⟨by simpa using hm, ⟨l₁, e, f, l₂, hl, by rw [hkey, href], rfl⟩,
      fun s hs hid => ?_, hcrowded⟩
    obtain ⟨hs, hsc⟩ := Board.mem_order.mp hs
    rcases Board.mem_tasks_putTask.mp hs with ⟨hs, -⟩ | ⟨u, -, hu, rfl⟩
    · exact Board.exists_position_eq_multiple (by omega) (Board.mem_order.mpr ⟨hs, hsc⟩)
    · rw [Task.put_id] at hid
      exact absurd hu hid

/-- What is missing, or does not fit, is told by the failure of a move. -/
theorem MoveEnds.verdict {r : MoveRequest} {result : Except Failure Moved}
    (h : MoveEnds spacing now b r result) :
    ((∃ id, result = .error (.taskNotFound id)) ↔ b.task? r.task = none) ∧
    (∀ t d, b.task? r.task = some t → b.destination t r = d →
      ((∃ key, result = .error (.columnNotFound key)) ↔ b.column? d = none) ∧
      (b.column? d ≠ none →
        ((∃ id, result = .error (.referenceNotFound id)) ↔ r.Stranded b d) ∧
        (¬ r.Stranded b d → (∃ m, result = .ok m) ∨
          (result = .error .integerOverflow ∧
            ∃ p, Writes spacing now b d r p ∧ ¬ Stored.Fits p)))) ∧
    (∀ lower upper, result ≠ .error (.gapExhausted lower upper)) ∧
    result ≠ .error .transactionFailed := by
  -- each way to end answers all questions
  cases h with
  | taskNotFound ht => simp [ht]
  | columnNotFound ht hd =>
    refine ⟨by simp [ht], fun t' d' ht' hd' => ?_, by simp, by simp⟩
    obtain rfl := Option.some.inj (ht.symm.trans ht')
    subst hd'
    simp [hd]
  | referenceNotFound ht hd href hstranded =>
    refine ⟨by simp [ht], fun t' d' ht' hd' => ?_, by simp, by simp⟩
    obtain rfl := Option.some.inj (ht.symm.trans ht')
    subst hd'
    simp [hd, hstranded]
  | overflow ht hd hfound hp hfits =>
    refine ⟨by simp [ht], fun t' d' ht' hd' => ?_, by simp, by simp⟩
    obtain rfl := Option.some.inj (ht.symm.trans ht')
    subst hd'
    simp [hd, hfound]
    exact ⟨_, hp, hfits⟩
  | moved ht hd hfound =>
    refine ⟨by simp [ht], fun t' d' ht' hd' => ?_, by simp, by simp⟩
    obtain rfl := Option.some.inj (ht.symm.trans ht')
    subst hd'
    simp [hd, hfound]

end Operation

/-! ## Calls -/

/-- The destination of a move is the column that is given, else that of the reference if there is such
a task, else the task's own. -/
theorem Board.destination_eq (b : Board) (t : Task) (task : Int) (column reference : Option Int)
    (after : Bool) (position : Option Int) :
    b.destination t ⟨task, column, reference, after, position⟩ =
      column.getD (((reference.bind b.task?).map Task.column).getD t.column) := by
  cases column with
  | some column => rfl
  | none => cases reference <;> rfl

/-- How a call of a move ends on a working database, when its ids and its position fit. The task, then
the destination and then the reference is looked for, and whichever is missing first is told. The
reference is missing when it does not stand in the destination, unless there is a position to take
instead. When nothing is missing the move succeeds, unless a position that it has to write does not
fit. It is never refused for lack of room; and where there was none, it succeeds with its column
renumbered once. -/
theorem Call.move_verdict {task : Int} {column reference position : Option Int} (after : Bool)
    (htask : Stored.Fits task) (hcolumn : ∀ d ∈ column, Stored.Fits d)
    (href : ∀ u ∈ reference, Stored.Fits u) (hposition : ∀ p ∈ position, Stored.Fits p)
    (hne : reference ≠ some task) {spacing : Spacing} (hgap : 2 ≤ spacing.gap) {b : Board}
    (hb : b.KeysFit) (code : String) (now : Timestamp) :
    let r : Operation.MoveRequest := ⟨task, column, reference, after, position⟩
    let ended := (Call.moveTo task column reference after position).perform spacing code ⟨now, none⟩ b
    ((∃ id, ended.1 = .error (.taskNotFound id)) ↔ b.task? task = none) ∧
    (∀ t d, b.task? task = some t →
      column.getD (((reference.bind b.task?).map Task.column).getD t.column) = d →
      ((∃ key, ended.1 = .error (.columnNotFound key)) ↔ b.column? d = none) ∧
      (b.column? d ≠ none →
        ((∃ id, ended.1 = .error (.referenceNotFound id)) ↔
          position = none ∧ ∃ u, reference = some u ∧ ∀ s ∈ b.tasks, s.id = u → s.column ≠ d) ∧
        (¬ (∃ id, ended.1 = .error (.referenceNotFound id)) →
          (∃ m, ended.1 = .ok (.moved m)) ∨
            (ended.1 = .error .integerOverflow ∧
              ∃ p, Operation.Writes spacing now b d r p ∧ ¬ Stored.Fits p)))) ∧
    (∀ lower upper, ended.1 ≠ .error (.gapExhausted lower upper)) ∧
    ended.1 ≠ .error .transactionFailed ∧
    (1 ≤ spacing.threshold → 2 * spacing.threshold ≤ spacing.gap →
      ∀ t d u lower upper m b', b.task? task = some t →
        column.getD (((reference.bind b.task?).map Task.column).getD t.column) = d →
        reference = some u →
        Position.place (b.entriesWithout d task) (some u) after spacing.gap =
          .error (.exhausted lower upper) →
        ended = (.ok (.moved m), b') →
        Operation.MadeRoom spacing now b d r m b') := by
  intro r ended
  have hends := Operation.move_ends now hgap hb htask hcolumn href hne (r := r)
  -- the arguments fit, so the call asks for just this request
  have hended : ended = (Outcome.moved <$> Operation.move spacing r) ⟨now, none⟩ b := by
    show (Call.moveTo task column reference after position).perform spacing code ⟨now, none⟩ b = _
    rw [Call.perform_of_request (Call.request_moveTo after hne hposition),
      Operation.Request.perform_move]
  obtain ⟨htaskMissing, hrest, hfull, hfailed⟩ := hends.verdict
  rw [hended, Work.fst_map]
  simp only [ne_eq, except_map_eq_error, except_map_eq_ok, Outcome.moved.injEq, exists_eq_right,
    ← b.destination_eq _ task column reference after position]
  refine ⟨htaskMissing, fun t d ht hd => ?_, hfull, hfailed, ?_⟩
  · obtain ⟨hcolumnMissing, hfound⟩ := hrest t d ht hd
    refine ⟨hcolumnMissing, fun hexists => ?_⟩
    obtain ⟨hstranded, hmoved⟩ := hfound hexists
    exact ⟨hstranded, fun hnot => hmoved (mt hstranded.mpr hnot)⟩
  · intro _ hthreshold t d u lower upper m b' ht hd hu hplace h
    obtain ⟨m', hmove, hm⟩ := map_eq_ok.mp h
    obtain rfl : m' = m := Outcome.moved.inj hm
    exact Operation.relocation_of_exhausted hgap hthreshold ht hd hu hplace
      (transaction_eq_ok.mp hmove).1

/-- A task of the second column is moved to the first one, where there is no room. -/
theorem Call.move_verdict_across :
    let perform (call : Call) := call.perform ⟨4, 2⟩ "" ⟨⟨9⟩, none⟩ splitBoard
    -- next to a reference, with a position that is not needed
    (perform (Call.moveTo 4 (some 1) (some 1) true (some (-9)))).1 =
        .ok (.moved ⟨⟨4, ⟨"d", "", "", "", none, []⟩, 1, 2, ⟨0⟩, ⟨9⟩⟩, true⟩) ∧
      Operation.MadeRoom ⟨4, 2⟩ ⟨9⟩ splitBoard 1 ⟨4, some 1, some 1, true, some (-9)⟩
        ⟨⟨4, ⟨"d", "", "", "", none, []⟩, 1, 2, ⟨0⟩, ⟨9⟩⟩, true⟩
        (perform (Call.moveTo 4 (some 1) (some 1) true (some (-9)))).2 ∧
    -- at a position alone, and at it because the reference stands elsewhere
      (perform (Call.moveTo 4 (some 1) none true (some (-9)))).2.entries 1 =
        [(4, 0), (1, 4), (2, 8), (3, 12)] ∧
      (perform (Call.moveTo 4 (some 1) (some 5) true (some (-9)))).2.entries 1 =
        [(4, 0), (1, 4), (2, 8), (3, 12)] ∧
    -- without one
      ∃ id, (perform (Call.moveTo 4 (some 1) (some 5) true none)).1 =
        .error (.referenceNotFound id) := by
  have htask : splitBoard.task? 4 = some ⟨4, ⟨"d", "", "", "", none, []⟩, 2, 0, ⟨0⟩, ⟨0⟩⟩ := by
    decide
  have hcolumn : ∀ d ∈ some (1 : Int), Stored.Fits d := by decide
  obtain ⟨-, -, -, -, hroom⟩ := Call.move_verdict true (by decide : Stored.Fits 4) hcolumn
    (by decide : ∀ u ∈ some (1 : Int), Stored.Fits u)
    (by decide : ∀ p ∈ some (-9 : Int), Stored.Fits p) (by decide)
    (by decide : 2 ≤ (⟨4, 2⟩ : Spacing).gap) (by decide : splitBoard.KeysFit) "" ⟨9⟩
  obtain ⟨-, hmissing, -⟩ := Call.move_verdict true (by decide : Stored.Fits 4) hcolumn
    (by decide : ∀ u ∈ some (5 : Int), Stored.Fits u)
    (by simp : ∀ p ∈ (none : Option Int), Stored.Fits p) (by decide)
    (by decide : 2 ≤ (⟨4, 2⟩ : Spacing).gap) (by decide : splitBoard.KeysFit) "" ⟨9⟩
  have hplace : Position.place (splitBoard.entriesWithout 1 4) (some 1) true 4 =
      .error (.exhausted (-1) 0) := by cbv
  have hmoved : ((Call.moveTo 4 (some 1) (some 1) true (some (-9))).perform ⟨4, 2⟩ "" ⟨⟨9⟩, none⟩
      splitBoard).1 =
      .ok (.moved ⟨⟨4, ⟨"d", "", "", "", none, []⟩, 1, 2, ⟨0⟩, ⟨9⟩⟩, true⟩) := by cbv
  refine ⟨hmoved, ?_, by cbv, by cbv, ?_⟩
  · exact hroom (by decide) (by decide) _ 1 1 (-1) 0 _ _ htask rfl rfl hplace (Prod.ext hmoved rfl)
  · exact ((hmissing _ 1 htask rfl).2 (by decide)).1.mpr ⟨rfl, 5, rfl, by decide⟩

end Kanban
