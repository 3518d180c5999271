import Kanban.Proofs.Recovery

/-!
# Stored integers

A stored board holds no integer that does not fit its field (`Board.IntegersFit`), and a move that
succeeds leaves such a board behind: whatever it wrote was taken by the database. For the same reason
the ids that it looked for fit (`fits_of_relocation`, `fits_of_placement`).
-/

namespace Kanban

open Work

/-- An integer between two integers that fit fits as well. -/
theorem Stored.fits_of_le_of_le {lower n upper : Int} (hlower : Stored.Fits lower)
    (hupper : Stored.Fits upper) (h : lower ≤ n) (h' : n ≤ upper) : Stored.Fits n := by
  unfold Stored.Fits at *
  omega

/-- The end of a column fits when a gap beyond each of its entries fits. -/
theorem Position.fits_atEnd {κ : Type} {ordered : List (κ × Int)} {gap : Int}
    (h : ∀ e ∈ ordered, Stored.Fits (e.2 + gap)) : Stored.Fits (atEnd ordered gap) := by
  rcases atEnd_cases ordered gap with ⟨-, heq⟩ | ⟨e, he, heq⟩
  · rw [heq]
    decide
  · rw [heq]
    exact h e he

structure Board.IntegersFit (b : Board) : Prop where
  keys : b.KeysFit
  positions : ∀ t ∈ b.tasks, Stored.Fits t.position

instance (b : Board) : Decidable b.IntegersFit :=
  decidable_of_iff (b.KeysFit ∧ ∀ t ∈ b.tasks, Stored.Fits t.position)
    ⟨fun h => ⟨h.1, h.2⟩, fun h => ⟨h.keys, h.positions⟩⟩

namespace Store

/-- What a task can be put at fits, where the task stands on a board of integers that fit. -/
theorem Storable.fits {b : Board} (hb : b.IntegersFit) {t : Task} (ht : t ∈ b.tasks)
    {column position : Int} (h : Storable t column position) :
    Stored.Fits column ∧ Stored.Fits position := by
  obtain ⟨hcolumn, hposition⟩ := h
  constructor
  · rcases hcolumn with rfl | hcolumn
    · exact (hb.keys t ht).2
    · exact hcolumn
  · rcases hposition with rfl | hposition
    · exact hb.positions t ht
    · exact hposition

/-- A position that could be written fits. -/
theorem preserves_writePosition (id column position : Int) :
    (writePosition id column position).Preserves Board.IntegersFit := by
  intro c b t b' h hb
  obtain ⟨s, hs, hstorable⟩ := storable_of_writePosition h
  obtain rfl := writePosition_eq_ok h
  obtain ⟨hcolumn, hposition⟩ := hstorable.fits hb (Board.task?_eq_some_iff.mp hs).1
  refine ⟨hb.keys.putTask hcolumn, fun u hu => ?_⟩
  rcases Board.mem_tasks_putTask.mp hu with ⟨hu, -⟩ | ⟨v, -, -, rfl⟩
  · exact hb.positions u hu
  · rwa [Task.put_position]

/-- Whatever a renumbering wrote fits; it fails otherwise, and then nothing is kept. -/
theorem preserves_rebalance (column gap : Int) :
    (rebalance column gap).Preserves Board.IntegersFit := by
  intro c b n b' h hb
  have hstorable := storable_of_rebalance h
  obtain rfl := rebalance_eq_ok h
  refine ⟨hb.keys.renumbered gap, fun u hu => ?_⟩
  obtain ⟨t, ht, rfl⟩ := List.mem_map.mp hu
  rw [retarget_position]
  cases hlookup : (misplaced (b.order column) gap).lookup t.id with
  | none => exact hb.positions t ht
  | some position => exact ((hstorable t ht position hlookup).fits hb ht).2

end Store

namespace Operation

/-! ## What a move leaves behind -/

theorem preserves_renumber (column gap : Int) :
    (renumber column gap).Preserves Board.IntegersFit :=
  (Preserves.guard .rebalance).bind fun _ =>
    (Store.preserves_rebalance column gap).bind fun _ => (ReadOnly.pure ()).preserves

theorem preserves_renumberIfCrowded (spacing : Spacing) (column : Int) :
    (renumberIfCrowded spacing column).Preserves Board.IntegersFit := by
  refine (ReadOnly.query _).preserves.bind fun ordered => ?_
  split
  · exact (preserves_renumber column spacing.gap).bind fun _ => (ReadOnly.pure true).preserves
  · exact (ReadOnly.pure false).preserves

/-- Making room keeps everything fitting. The place that is found need not fit. -/
theorem preserves_beside (column task reference : Int) (after : Bool) (gap : Int) :
    (beside column task reference after gap).Preserves Board.IntegersFit := by
  refine (readOnly_besideIn column task reference after gap).preserves.bind fun place => ?_
  split
  · exact (ReadOnly.pure _).preserves
  · exact (ReadOnly.pure _).preserves
  · refine (preserves_renumber column gap).bind fun _ => ?_
    refine (readOnly_besideIn column task reference after gap).preserves.bind fun place => ?_
    split
    · exact (ReadOnly.pure _).preserves
    · exact (ReadOnly.pure _).preserves
    · exact (ReadOnly.fail _).preserves

theorem preserves_landing (spacing : Spacing) (column : Int) (r : MoveRequest) :
    (landing spacing column r).Preserves Board.IntegersFit := by
  unfold landing
  split
  · exact (ReadOnly.pure _).preserves
  · refine ((ReadOnly.query _).bind fun _ => ReadOnly.pure _).preserves.bind fun position => ?_
    exact (ReadOnly.pure _).preserves
  · refine (preserves_beside column _ _ _ _).bind fun place => ?_
    split
    · exact (ReadOnly.pure _).preserves
    · exact (ReadOnly.pure _).preserves
    · exact (ReadOnly.fail _).preserves

/-- A move leaves a board of integers that fit behind. -/
theorem preserves_relocation (spacing : Spacing) (r : MoveRequest) :
    (relocation spacing r).Preserves Board.IntegersFit := by
  refine (Store.readOnly_task r.task).preserves.bind fun t => ?_
  refine (readOnly_destination t r).preserves.bind fun column => ?_
  refine (Store.readOnly_lockColumn column).preserves.bind fun _ => ?_
  refine (preserves_landing spacing column r).bind fun place => ?_
  refine (Store.preserves_writePosition r.task column place.1).bind fun _ => ?_
  refine (preserves_renumberIfCrowded spacing column).bind fun crowded => ?_
  exact ((Store.readOnly_task r.task).bind fun _ => ReadOnly.pure _).preserves

/-! ## What was looked for -/

/-- The ids that a move has looked for fit: that of its task, that of its destination, and that of its
reference when the destination was not named. -/
theorem fits_of_relocation {spacing : Spacing} {r : MoveRequest} {c : Conditions} {b b' : Board}
    {m : Moved} {t : Task} (h : relocation spacing r c b = (.ok m, b'))
    (ht : b.task? r.task = some t) :
    Stored.Fits r.task ∧ Stored.Fits (b.destination t r) ∧
      (r.column = none → ∀ reference ∈ r.reference, Stored.Fits reference) := by
  obtain ⟨t', b₁, htask, h₁⟩ := bind_eq_ok.mp h
  obtain ⟨ht', rfl⟩ := Store.task_eq_ok htask
  obtain rfl : t = t' := Option.some.inj (ht.symm.trans ht')
  obtain ⟨d, b₂, hdestination, h₂⟩ := bind_eq_ok.mp h₁
  obtain ⟨column, b₃, hcolumn, -⟩ := bind_eq_ok.mp h₂
  have hreference : r.column = none → ∀ reference ∈ r.reference, Stored.Fits reference := by
    intro hnone reference href
    unfold destination at hdestination
    rw [hnone, Option.mem_def.mp href] at hdestination
    obtain ⟨found, b₄, hfound, -⟩ := bind_eq_ok.mp hdestination
    exact Store.fits_of_task? hfound
  obtain ⟨rfl, rfl⟩ := destination_eq_ok hdestination
  exact ⟨Store.fits_of_task htask, Store.fits_of_lockColumn hcolumn, hreference⟩

theorem fits_of_creation {spacing : Spacing} {code : String} {r : NewTask} {c : Conditions}
    {b b' : Board} {t : Task} (h : creation spacing code r c b = (.ok t, b')) :
    Stored.Fits r.column := by
  obtain ⟨column, b₁, hcolumn, -⟩ := bind_eq_ok.mp h
  exact Store.fits_of_lockColumn hcolumn

/-- Where a task has landed, its position fits. -/
theorem lands_of_relocation {spacing : Spacing} {r : MoveRequest} {c : Conditions} {b b' : Board}
    {m : Moved} {t : Task} (hb : b.IntegersFit) (h : relocation spacing r c b = (.ok m, b'))
    (ht : b.task? r.task = some t) :
    ∃ p cleared b₁, Lands spacing c.now b (b.destination t r) r p cleared b₁ ∧ Stored.Fits p := by
  obtain ⟨t', b₁, htask, h₁⟩ := bind_eq_ok.mp h
  obtain ⟨ht', rfl⟩ := Store.task_eq_ok htask
  obtain rfl : t = t' := Option.some.inj (ht.symm.trans ht')
  obtain ⟨d, b₂, hdestination, h₂⟩ := bind_eq_ok.mp h₁
  obtain ⟨rfl, rfl⟩ := destination_eq_ok hdestination
  obtain ⟨column, b₃, hcolumn, h₃⟩ := bind_eq_ok.mp h₂
  obtain ⟨-, rfl⟩ := Store.lockColumn_eq_ok hcolumn
  obtain ⟨⟨p, cleared⟩, b₄, hlanding, h₄⟩ := bind_eq_ok.mp h₃
  obtain ⟨written, b₅, hwritten, -⟩ := bind_eq_ok.mp h₄
  have hb₄ := preserves_landing spacing _ r _ _ _ b₄ hlanding hb
  obtain ⟨s, hs, hstorable⟩ := Store.storable_of_writePosition hwritten
  exact ⟨p, cleared, b₄, landing_eq_ok hlanding,
    (hstorable.fits hb₄ (Board.task?_eq_some_iff.mp hs).1).2⟩

/-- The ids that a batch has looked for fit. -/
theorem fits_of_placement {spacing : Spacing} {r : BatchRequest} {c : Conditions} {b b' : Board}
    {placed : Placed} (h : placement spacing r c b = (.ok placed, b')) :
    Stored.Fits r.column ∧ ∀ id ∈ r.targets.map Prod.fst, Stored.Fits id := by
  obtain ⟨column, b₁, hcolumn, h₁⟩ := bind_eq_ok.mp h
  obtain ⟨written, b₂, hwritten, -⟩ := bind_eq_ok.mp h₁
  exact ⟨Store.fits_of_lockColumn hcolumn, (Store.storable_of_writePositions hwritten).1⟩

end Operation

end Kanban
