import Kanban.Proofs.Confinement

/-!
# What decides where a task lands

A move can name a reference task and an explicit position at once, and only one of them decides. If
the reference stands in the destination, the explicit position makes no difference, also when there is
no room next to the reference and the column has to be renumbered, or when that fails. If it does not,
the reference and the side make no difference. Both are equations between two moves on every board,
whether they succeed or not (`Call.move_precedence`).
-/

namespace Kanban

open Work

/-- A reference task stands in the destination of a move: in the column that is named, or in any column
when none is. -/
def Board.Reaches (b : Board) (column : Option Int) (reference : Int) : Prop :=
  ∃ u, b.task? reference = some u ∧ u.column = column.getD u.column

namespace Operation

variable {spacing : Spacing} {c : Conditions} {b : Board} {t : Task} {r r' : MoveRequest}

/-! ## Destinations -/

/-- The reference stands in the column to which the task moves, unless it does not reach it. -/
theorem reaches_iff {reference : Int} (href : r.reference = some reference)
    (hne : reference ≠ r.task) :
    b.Reaches r.column reference ↔
      reference ∈ (b.entriesWithout (b.destination t r) r.task).map Prod.fst := by
  rw [Board.mem_ids_entriesWithout]
  -- with no column given, the reference's own column is the destination
  obtain ⟨task, column, reference', after, position⟩ := r
  obtain rfl : reference' = some reference := href
  constructor
  · rintro ⟨u, hu, hcolumn⟩
    obtain ⟨hmem, hid⟩ := Board.task?_eq_some_iff.mp hu
    refine ⟨hne, u, hmem, hid, ?_⟩
    cases column with
    | none => simp [Board.destination, hu]
    | some d => exact hcolumn
  · rintro ⟨-, u, hmem, hid, hcolumn⟩
    refine ⟨u, Board.task?_eq_some_iff.mpr ⟨hmem, hid⟩, ?_⟩
    cases column with
    | none => rfl
    | some d => exact hcolumn

/-- A reference that does not stand in the destination has no part in choosing it. -/
theorem destination_of_not_reaches {reference : Int} (href : r.reference = some reference)
    (hfits : Stored.Fits reference) (hquery : c.refusal? .query = none)
    (h : ¬ b.Reaches r.column reference) (after : Bool) :
    (destination t r).SameOn (destination t { r with reference := none, after := after }) c b := by
  obtain ⟨task, column, reference', after', position⟩ := r
  obtain rfl : reference' = some reference := href
  cases column with
  | some d => exact .refl _
  | none =>
    have hnone : b.task? reference = none :=
      Option.eq_none_iff_forall_not_mem.mpr fun u hu => h ⟨u, hu, rfl⟩
    have hfound : Store.task? reference c b = (.ok none, b) := by
      refine query_eq_ok.mpr ⟨hquery, ?_, rfl⟩
      rw [Stored.integer_of_fits hfits, ← hnone]
      rfl
    exact (Store.readOnly_task? reference).bind_sameOn (congrArg Prod.fst hfound) _

/-! ## Landing -/

/-- The explicit position is not looked at when the reference is in the column. -/
theorem landing_of_present {column reference : Int} (href : r.reference = some reference)
    (hpresent : reference ∈ (b.entriesWithout column r.task).map Prod.fst) :
    (landing spacing column r).SameOn (landing spacing column { r with position := none }) c b := by
  unfold landing
  rw [href]
  refine (SameOn.refl _).bind fun place b₁ hplace => ?_
  rcases beside_eq_ok hplace with ⟨p, rfl, -⟩ | ⟨-, -, hmissing⟩ | ⟨p, lower, upper, rfl, -⟩
  · exact .refl _
  · exact absurd hpresent hmissing
  · exact .refl _

/-- Neither the reference nor the side is looked at when the reference is not in the column and there
is an explicit position. -/
theorem landing_of_missing {column reference p : Int} (href : r.reference = some reference)
    (hposition : r.position = some p) (hquery : c.refusal? .query = none)
    (hcolumn : Stored.Fits column) (htask : Stored.Fits r.task)
    (hmissing : reference ∉ (b.entriesWithout column r.task).map Prod.fst) (after : Bool) :
    (landing spacing column r).SameOn
      (landing spacing column { r with reference := none, after := after }) c b := by
  have hordered : Store.orderWithout column r.task c b = (.ok (b.orderWithout column r.task), b) := by
    refine query_eq_ok.mpr ⟨hquery, ?_, rfl⟩
    rw [Stored.integer_of_fits hcolumn, Stored.integer_of_fits htask]
    rfl
  have hplace : besideIn column r.task reference r.after spacing.gap c b =
      (.ok (.error (.missing reference)), b) := by
    rw [← Position.place_eq_missing_iff.mpr ⟨rfl, hmissing⟩]
    exact (Store.readOnly_orderWithout _ _).bind_of_ok (congrArg Prod.fst hordered) _
  -- the place beside the reference is asked for, and there is none
  have hbeside : (beside column r.task reference r.after spacing.gap).SameOn
      (pure none : Work (Option (Int × Bool))) c b :=
    (readOnly_besideIn _ _ _ _ _).bind_sameOn (congrArg Prod.fst hplace) _
  unfold landing
  rw [href, hposition]
  refine (hbeside.bind fun _ _ _ => .refl _).trans ?_
  rw [pure_bind]
  exact .refl _

/-! ## Moves -/

/-- Two moves of a task come to the same when they have the same destination and land at the same
place in it. When they come to choose them, the task is found, and when they come to land, the column
is. -/
theorem relocation_congr (htask : r'.task = r.task)
    (hdestination : ∀ t, c.refusal? .query = none → b.task? r.task = some t →
      (destination t r).SameOn (destination t r') c b)
    (hlanding : ∀ t, c.refusal? .query = none → Stored.Fits r.task →
      Stored.Fits (b.destination t r) →
      (landing spacing (b.destination t r) r).SameOn (landing spacing (b.destination t r) r') c b) :
    (relocation spacing r).SameOn (relocation spacing r') c b := by
  unfold relocation
  rw [htask]
  -- the task is looked up in the same way, and what that has shown is handed on
  refine (SameOn.refl _).bind fun t b₁ ht => ?_
  have hquery : c.refusal? .query = none := by
    obtain ⟨found, b₂, hfound, -⟩ := bind_eq_ok.mp ht
    exact (query_eq_ok.mp hfound).1
  have hfits := Store.fits_of_task ht
  obtain ⟨hfound, rfl⟩ := Store.task_eq_ok ht
  rw [(Store.readOnly_task r.task).after_eq]
  -- then the destination, which the first hypothesis settles
  refine (hdestination t hquery hfound).bind fun column b₂ hcolumn => ?_
  obtain ⟨rfl, rfl⟩ := destination_eq_ok hcolumn
  rw [(readOnly_destination t r).after_eq]
  -- then the lock on that column
  refine (SameOn.refl _).bind fun locked b₃ hlocked => ?_
  have hcolumn := Store.fits_of_lockColumn hlocked
  obtain ⟨-, rfl⟩ := Store.lockColumn_eq_ok hlocked
  rw [(Store.readOnly_lockColumn _).after_eq]
  exact (hlanding t hquery hfits hcolumn).bind fun _ _ _ => .refl _

/-- The reference of a move takes precedence over its explicit position when it stands in the
destination. -/
theorem relocation_of_reaches {reference : Int} (href : r.reference = some reference)
    (hne : reference ≠ r.task) (h : b.Reaches r.column reference) :
    (relocation spacing r).SameOn (relocation spacing { r with position := none }) c b := by
  refine relocation_congr rfl ?_ ?_
  · intro t _ _
    exact .refl _
  · intro t _ _ _
    exact landing_of_present href ((reaches_iff href hne).mp h)

/-- The explicit position of a move takes precedence over its reference when that does not stand in
the destination. -/
theorem relocation_of_not_reaches {reference p : Int} (href : r.reference = some reference)
    (hposition : r.position = some p) (hne : reference ≠ r.task) (hfits : Stored.Fits reference)
    (h : ¬ b.Reaches r.column reference) (after : Bool) :
    (relocation spacing r).SameOn
      (relocation spacing { r with reference := none, after := after }) c b := by
  refine relocation_congr rfl ?_ ?_
  · intro t hquery _
    exact destination_of_not_reaches href hfits hquery h after
  · intro t hquery htask hcolumn
    exact landing_of_missing href hposition hquery hcolumn htask
      (fun hmem => h ((reaches_iff href hne).mpr hmem)) after

end Operation

/-! ## Calls -/

/-- A reference and an explicit position in one call. When the reference stands in the destination the
call does what it does without the position, and when it does not the call does what it does with the
position alone: it has the same outcome and leaves the same board, or it fails in the same way. -/
theorem Call.move_precedence {task reference p : Int} (hne : reference ≠ task)
    (hfits : Stored.Fits reference) (hp : Stored.Fits p) (column : Option Int) (after : Bool)
    (spacing : Spacing) (code : String) (c : Conditions) (b : Board) :
    (b.Reaches column reference →
      (Call.moveTo task column (some reference) after (some p)).perform spacing code c b =
        (Call.moveTo task column (some reference) after none).perform spacing code c b) ∧
    (¬ b.Reaches column reference → ∀ side,
      (Call.moveTo task column (some reference) after (some p)).perform spacing code c b =
        (Call.moveTo task column none side (some p)).perform spacing code c b) := by
  have hreference : some reference ≠ some task := fun h => hne (Option.some.inj h)
  have hnone : (none : Option Int) ≠ some task := by simp
  have hsome : ∀ q ∈ some p, Stored.Fits q := by
    rintro q ⟨⟩
    exact hp
  rw [Call.perform_moveTo after hreference hsome]
  constructor
  · intro h
    rw [Call.perform_moveTo after hreference (by simp)]
    exact ((Operation.relocation_of_reaches rfl hne h).map _).transaction
  · intro h side
    rw [Call.perform_moveTo side hnone hsome]
    exact ((Operation.relocation_of_not_reaches rfl rfl hne hfits h side).map _).transaction

/-- A task of the second column is told to stand after the first task of the first one, or else at a
position. It goes to the first column, which has to be renumbered, as if there was no position; and it
goes to the position, as if there was no reference, when it is told to stay in its own column. -/
theorem Call.move_precedence_across :
    let perform (call : Call) := call.perform ⟨4, 2⟩ "" ⟨⟨9⟩, none⟩ splitBoard
    perform (Call.moveTo 4 none (some 1) true (some 50)) =
        perform (Call.moveTo 4 none (some 1) true none) ∧
      (perform (Call.moveTo 4 none (some 1) true (some 50))).1 =
        .ok (.moved ⟨⟨4, ⟨"d", "", "", "", none, []⟩, 1, 2, ⟨0⟩, ⟨9⟩⟩, true⟩) ∧
      perform (Call.moveTo 4 (some 2) (some 1) true (some 50)) =
        perform (Call.moveTo 4 (some 2) none false (some 50)) ∧
      (perform (Call.moveTo 4 (some 2) (some 1) true (some 50))).1 =
        .ok (.moved ⟨⟨4, ⟨"d", "", "", "", none, []⟩, 2, 50, ⟨0⟩, ⟨9⟩⟩, false⟩) := by
  have hsplit : splitBoard.task? 1 = some ⟨1, ⟨"a", "", "", "", none, []⟩, 1, -1, ⟨0⟩, ⟨0⟩⟩ := by
    decide
  have hprecedence := fun column => Call.move_precedence (by decide : (1 : Int) ≠ 4) (by decide)
    (by decide : Stored.Fits 50) column true ⟨4, 2⟩ "" ⟨⟨9⟩, none⟩ splitBoard
  have hthere : splitBoard.Reaches none 1 := ⟨_, hsplit, rfl⟩
  have helsewhere : ¬ splitBoard.Reaches (some 2) 1 := by
    rintro ⟨u, hu, hcolumn⟩
    cases hsplit.symm.trans hu
    exact absurd hcolumn (by decide)
  exact ⟨(hprecedence none).1 hthere, by cbv, (hprecedence (some 2)).2 helsewhere false, by cbv⟩

end Kanban
