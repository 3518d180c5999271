import Kanban.Proofs.Crowding
import Kanban.Proofs.Event
import Mathlib

/-!
# The distance between tasks

On a board that was filled by the operations alone, any two tasks of a column stand a distance apart
that no gap and no threshold of the run falls below (`apart_run`). Creating and deleting a task never
check distances, and neither does a move in the column that a task leaves; a move and a batch check the
column to which they write, and renumber it when it is crowded.

Where tasks stand at least two apart there is room next to each of them, so no move has to make
some.
-/

namespace Kanban

open Work

namespace Board

/-! ## Tasks that stand apart -/

/-- Any two tasks of the same column stand a distance apart. -/
def Apart (b : Board) (distance : Int) : Prop :=
  ∀ s ∈ b.tasks, ∀ t ∈ b.tasks, s.id ≠ t.id → s.column = t.column →
    Spacing.Apart distance s.position t.position

/-- The positions of a column are apart when those of any two different tasks of it are. -/
theorem pairwise_positions_iff {b : Board} {column distance : Int} :
    (b.positions column).Pairwise (Spacing.Apart distance) ↔
      ∀ s ∈ b.order column, ∀ t ∈ b.order column, s.id ≠ t.id →
        Spacing.Apart distance s.position t.position := by
  have : Std.Symm fun s t : Task => Spacing.Apart distance s.position t.position :=
    ⟨fun _ _ => Spacing.Apart.symm⟩
  rw [positions, List.pairwise_map]
  constructor
  · intro h s hs t ht hid
    exact h.forall hs ht fun heq => hid (congrArg Task.id heq)
  · intro h
    refine (b.pairwise_before_order column).imp_of_mem fun {s t} hs ht hst => ?_
    exact h s hs t ht fun hid => hst.ne (eq_of_id_eq (mem_order.mp hs).1 (mem_order.mp ht).1 hid)

/-- Tasks stand apart when the positions of each column do. -/
theorem apart_iff {b : Board} {distance : Int} :
    b.Apart distance ↔ ∀ column, (b.positions column).Pairwise (Spacing.Apart distance) := by
  simp only [pairwise_positions_iff]
  constructor
  · intro h column s hs t ht hid
    obtain ⟨hs, hsc⟩ := mem_order.mp hs
    obtain ⟨ht, htc⟩ := mem_order.mp ht
    exact h s hs t ht hid (hsc.trans htc.symm)
  · intro h s hs t ht hid hc
    exact h t.column s (mem_order.mpr ⟨hs, hc⟩) t (mem_order.mpr ⟨ht, rfl⟩) hid

/-- In order, each task of a column stands a distance beyond those before it. -/
theorem entriesWithout_spaced {b : Board} {column distance : Int}
    (h : (b.positions column).Pairwise (Spacing.Apart distance)) (hdistance : 1 ≤ distance)
    (task : Int) : (b.entriesWithout column task).Pairwise fun e f => e.2 + distance ≤ f.2 := by
  rw [entriesWithout_eq]
  refine (List.pairwise_map.mpr ?_).filter _
  refine ((b.pairwise_before_order column).and (List.pairwise_map.mp h)).imp ?_
  rintro s t ⟨hst, hapart⟩
  have := hst.position_le
  unfold Spacing.Apart at hapart
  simp only [Task.entry]
  omega

/-- Where the tasks of a column stand two apart, there is room next to each of them. -/
theorem place_ne_exhausted {b : Board} {column : Int}
    (h : (b.positions column).Pairwise (Spacing.Apart 2)) {task reference gap lower upper : Int}
    {after : Bool} :
    Position.place (b.entriesWithout column task) (some reference) after gap ≠
      .error (.exhausted lower upper) := by
  intro hplace
  obtain ⟨l₁, e, f, l₂, hl, hclose⟩ := Position.place_eq_exhausted hplace
  have hspaced := entriesWithout_spaced h (by decide) task
  rw [hl] at hspaced
  have := (List.pairwise_cons.mp (List.pairwise_append.mp hspaced).2.1).1 f List.mem_cons_self
  omega

/-! ## Renumbered columns -/

/-- A task of a renumbered column stands at the multiple that belongs to its place in the order. -/
theorem exists_position_eq_multiple {b : Board} {column gap : Int} (hgap : 1 ≤ gap)
    {now : Timestamp} {t : Task} (ht : t ∈ (b.renumbered column gap now).order column) :
    ∃ i : Nat, ((b.order column).map Task.id)[i]? = some t.id ∧ t.position = multiple gap i := by
  rw [order_renumbered b column hgap] at ht
  obtain ⟨i, hi, rfl⟩ := List.mem_mapIdx.mp ht
  refine ⟨i, ?_, Task.put_position ..⟩
  rw [List.getElem?_map, List.getElem?_eq_getElem hi, Option.map_some, Task.put_id]

/-- The tasks of a renumbered column stand a gap apart. -/
theorem pairwise_positions_renumbered (b : Board) (column : Int) {gap : Int} (hgap : 1 ≤ gap)
    (now : Timestamp) :
    ((b.renumbered column gap now).positions column).Pairwise (Spacing.Apart gap) := by
  rw [positions, order_renumbered b column hgap, List.pairwise_map, List.pairwise_iff_getElem]
  intro i j hi hj hij
  left
  simpa using multiple_add_le hgap hij

/-- The other columns do not see a renumbering. -/
theorem positions_renumbered_of_ne {b : Board} {column gap c : Int} (hc : c ≠ column)
    (now : Timestamp) : (b.renumbered column gap now).positions c = b.positions c := by
  rw [positions, order_renumbered_of_ne hc, positions]

/-- A board whose tasks stand apart except in one column is as good once that column is eased. -/
theorem apart_eased {b : Board} {distance column : Int} {spacing : Spacing} {now : Timestamp}
    (hdistance : 1 ≤ distance) (hgap : distance ≤ spacing.gap)
    (hthreshold : distance ≤ spacing.threshold)
    (h : ∀ c, c ≠ column → (b.positions c).Pairwise (Spacing.Apart distance)) :
    (b.eased spacing column now).Apart distance := by
  rw [apart_iff]
  intro c
  unfold eased
  split
  -- the column itself stands at multiples of the gap, and the others are as they were
  · by_cases hc : c = column
    · subst hc
      exact (b.pairwise_positions_renumbered c (by omega) now).imp fun hpq => hpq.mono hgap
    · rw [positions_renumbered_of_ne hc]
      exact h c hc
  · next hcrowded =>
    by_cases hc : c = column
    · subst hc
      -- nothing was written, since the threshold was kept already
      have hpairwise := Spacing.isCrowded_eq_false_iff.mp (Bool.eq_false_iff.mpr hcrowded)
      exact hpairwise.imp fun hpq => hpq.mono hthreshold
    · exact h c hc

/-! ## Edits -/

/-- A task that is added a gap beyond its column stands apart from all others. -/
theorem Apart.addTask {b : Board} {distance : Int} (h : b.Apart distance) {card : Card}
    {column position : Int} {now : Timestamp} {hcode : card.code ∉ b.tasks.map Task.code}
    (hposition : ∀ t ∈ b.order column, t.position + distance ≤ position) :
    (b.addTask card column position now hcode).Apart distance := by
  intro s hs t ht hid hc
  rw [tasks_addTask, List.mem_append, List.mem_singleton] at hs ht
  rcases hs with hs | rfl <;> rcases ht with ht | rfl
  · exact h s hs t ht hid hc
  · exact .inl (hposition s (mem_order.mpr ⟨hs, hc⟩))
  · exact .inr (hposition t (mem_order.mpr ⟨ht, hc.symm⟩))
  · exact absurd rfl hid

theorem Apart.removeTask {b : Board} {distance : Int} (h : b.Apart distance) (id : Int) :
    (b.removeTask id).Apart distance := by
  intro s hs t ht
  exact h s (List.mem_filter.mp hs).1 t (List.mem_filter.mp ht).1

/-- A task that is put into a column a distance away from its tasks. -/
theorem pairwise_positions_putTask {b : Board} {distance id column position : Int} {now : Timestamp}
    (h : (b.positions column).Pairwise (Spacing.Apart distance))
    (hposition : ∀ s ∈ b.orderWithout column id, Spacing.Apart distance s.position position) :
    ((b.putTask id column position now).positions column).Pairwise (Spacing.Apart distance) := by
  rw [pairwise_positions_iff] at h ⊢
  intro s hs t ht hid
  obtain ⟨hs, hsc⟩ := mem_order.mp hs
  obtain ⟨ht, htc⟩ := mem_order.mp ht
  rcases mem_tasks_putTask.mp hs with ⟨hs, hsid⟩ | ⟨u, hu, rfl, rfl⟩ <;>
    rcases mem_tasks_putTask.mp ht with ⟨ht, htid⟩ | ⟨v, hv, hvid, rfl⟩
  · exact h s (mem_order.mpr ⟨hs, hsc⟩) t (mem_order.mpr ⟨ht, htc⟩) hid
  · rw [Task.put_position]
    exact hposition s (mem_orderWithout.mpr ⟨hs, hsc, hsid⟩)
  · rw [Task.put_position]
    exact (hposition t (mem_orderWithout.mpr ⟨ht, htc, htid⟩)).symm
  · rw [Task.put_id, Task.put_id, hvid] at hid
    exact absurd rfl hid

/-- Putting a task into a column leaves the tasks of other columns apart. -/
theorem pairwise_positions_putTask_of_ne {b : Board} {distance id column position c : Int}
    {now : Timestamp} (hc : c ≠ column)
    (h : (b.positions c).Pairwise (Spacing.Apart distance)) :
    ((b.putTask id column position now).positions c).Pairwise (Spacing.Apart distance) := by
  rw [positions, order_putTask_of_ne hc]
  exact h.sublist (List.filter_sublist.map _)

end Board

namespace Operation

variable {c : Conditions} {b b' : Board} {spacing : Spacing} {distance : Int}

/-- A task lands on a board whose other columns are as they were. -/
theorem Lands.positions_of_ne {now : Timestamp} {column p : Int} {r : MoveRequest}
    {cleared : Bool} {b₁ : Board} (h : Lands spacing now b column r p cleared b₁) {d : Int}
    (hd : d ≠ column) : b₁.positions d = b.positions d := by
  rcases h.board_eq with rfl | rfl
  · rfl
  · exact Board.positions_renumbered_of_ne hd now

/-- An operation that has succeeded leaves tasks apart that were apart. -/
theorem Request.apart {q : Request} (hdistance : 1 ≤ distance) (hgap : distance ≤ spacing.gap)
    (hthreshold : distance ≤ spacing.threshold) (hb : b.Apart distance) {code : String}
    {o : Outcome} (h : q.work spacing code c b = (.ok o, b')) : b'.Apart distance := by
  cases q with
  | create r =>
    obtain ⟨t, hwork, -⟩ := map_eq_ok.mp h
    obtain ⟨-, card, hcode, -, rfl⟩ := creation_eq_ok hwork
    -- the end of the column lies a gap behind all of its tasks
    apply hb.addTask
    intro t ht
    have := Board.position_add_le_atEnd ht spacing.gap
    omega
  | move r =>
    obtain ⟨m, hwork, -⟩ := map_eq_ok.mp h
    obtain ⟨t, p, cleared, b₁, -, -, hlands, rfl, -, -⟩ := relocation_eq_ok hwork
    -- the watch answers for the destination, so only the other columns are left
    apply Board.apart_eased hdistance hgap hthreshold
    intro d hd
    apply Board.pairwise_positions_putTask_of_ne hd
    rw [hlands.positions_of_ne hd]
    exact Board.apart_iff.mp hb d
  | batch r =>
    obtain ⟨placed, hwork, -⟩ := map_eq_ok.mp h
    obtain ⟨-, hnamed, rfl, -⟩ := placement_eq_ok hwork
    -- the same for the column of a batch
    apply Board.apart_eased hdistance hgap hthreshold
    intro d hd
    rw [Board.positions, Board.order_reposition_of_ne hd hnamed]
    exact Board.apart_iff.mp hb d
  | delete task =>
    obtain ⟨x, hwork, -⟩ := map_eq_ok.mp h
    obtain ⟨-, rfl⟩ := deletion_eq_ok hwork
    exact hb.removeTask task

/-! ## Room next to every task -/

/-- Where tasks stand two apart, there is room next to each of them. -/
theorem besideIn_ne_exhausted (hb : b.Apart 2) {column task reference : Int} {after : Bool}
    {gap lower upper : Int} :
    (besideIn column task reference after gap c b).1 ≠ .ok (.error (.exhausted lower upper)) := by
  intro h
  obtain ⟨hplace, -⟩ := besideIn_eq_ok (Prod.ext h rfl : _ = (_, _))
  exact Board.place_ne_exhausted (Board.apart_iff.mp hb column) hplace.symm

/-- The position next to a reference task, found without ever making room. -/
def besideUnguarded (column task reference : Int) (after : Bool) (gap : Int) :
    Work (Option (Int × Bool)) := do
  match ← besideIn column task reference after gap with
  | .ok position => pure (some (position, false))
  | .error _ => pure none

/-- The position that a task moves to, found without ever making room. -/
def landingUnguarded (spacing : Spacing) (column : Int) (r : MoveRequest) : Work (Int × Bool) :=
  match r.reference, r.position with
  | none, some position => pure (position, false)
  | none, none => do
    let position ← endOf column r.task spacing.gap
    pure (position, false)
  | some reference, fallback => do
    match ← besideUnguarded column r.task reference r.after spacing.gap, fallback with
    | some place, _ => pure place
    | none, some position => pure (position, false)
    | none, none => .fail (.referenceNotFound reference)

/-- The work of moving a task, without ever making room before it is written. -/
def relocationUnguarded (spacing : Spacing) (r : MoveRequest) : Work Moved := do
  let t ← Store.task r.task
  let column ← destination t r
  let _ ← Store.lockColumn column
  let (position, cleared) ← landingUnguarded spacing column r
  let _ ← Store.writePosition r.task column position
  let crowded ← renumberIfCrowded spacing column
  let t ← Store.task r.task
  pure ⟨t, cleared || crowded⟩

/-- Where tasks are two apart, room need not be made: the midpoint is always found. -/
theorem sameOn_besideUnguarded (hb : b.Apart 2) (column task reference : Int) (after : Bool)
    (gap : Int) : (beside column task reference after gap).SameOn
      (besideUnguarded column task reference after gap) c b := by
  refine (SameOn.refl _).bind fun place b₁ hplace => ?_
  rcases place with (key | ⟨lower, upper⟩) | p
  · exact .refl _
  · exact absurd (congrArg Prod.fst hplace) (besideIn_ne_exhausted hb)
  · exact .refl _

/-- Where tasks are two apart, the guard of a landing is never called on. -/
theorem sameOn_landingUnguarded (hb : b.Apart 2) (column : Int) (r : MoveRequest) :
    (landing spacing column r).SameOn (landingUnguarded spacing column r) c b := by
  obtain ⟨task, column', reference, after, position⟩ := r
  rcases reference with _ | reference
  · rcases position with _ | position <;> exact .refl _
  · exact (sameOn_besideUnguarded hb column task reference after spacing.gap).bind
      fun _ _ _ => .refl _

/-- Where tasks stand two apart, a move does the same as one that never makes room. -/
theorem move_eq_unguarded (hb : b.Apart 2) (r : MoveRequest) :
    move spacing r c b = transaction (relocationUnguarded spacing r) c b := by
  apply SameOn.transaction
  -- what precedes the landing only looks, so the landing is found on the same board
  refine (SameOn.refl _).bind fun t b₁ ht => ?_
  obtain ⟨-, rfl⟩ := Store.task_eq_ok ht
  refine (SameOn.refl _).bind fun column b₂ hcolumn => ?_
  obtain ⟨-, rfl⟩ := destination_eq_ok hcolumn
  refine (SameOn.refl _).bind fun _ b₃ hlocked => ?_
  obtain ⟨-, rfl⟩ := Store.lockColumn_eq_ok hlocked
  exact (sameOn_landingUnguarded hb column r).bind fun _ _ _ => .refl _

end Operation

/-! ## Runs -/

/-- An event leaves tasks apart that were apart. -/
theorem Event.apart_perform {e : Event} (hstep : e.step.IsOperation) {distance : Int}
    (hdistance : 1 ≤ distance)
    (hspacing : ∀ spacing ∈ e.spacing?, distance ≤ spacing.gap ∧ distance ≤ spacing.threshold)
    {b : Board} (hb : b.Apart distance) : (e.perform b).2.Apart distance := by
  refine board_of_perform (P := fun b => b.Apart distance) hstep hb
    fun spacing q o b' hrequest hwork => ?_
  obtain ⟨hgap, hthreshold⟩ := hspacing spacing (request?_eq_some hrequest).1
  exact Operation.Request.apart hdistance hgap hthreshold hb hwork

/-- A run keeps tasks apart by what all of its gaps and thresholds are at least. -/
theorem Board.run_apart {distance : Int} (hdistance : 1 ≤ distance) {events : List Event}
    (hstep : ∀ e ∈ events, e.step.IsOperation)
    (hspacing : ∀ e ∈ events, ∀ spacing ∈ e.spacing?,
      distance ≤ spacing.gap ∧ distance ≤ spacing.threshold)
    {b : Board} (hb : b.Apart distance) : (run b events).Apart distance := by
  -- on the events, with the distance as the invariant that each of them keeps
  induction events generalizing b with
  | nil => exact hb
  | cons e rest ih =>
    rw [List.forall_mem_cons] at hstep hspacing
    exact ih hstep.2 hspacing.2 (e.apart_perform hstep.1 hdistance hspacing.1 hb)

/-- After a run from a board without tasks, any two tasks of a column stand apart by the smallest gap
and threshold of the run. Where these are at least two, no move finds the gap next to its reference
exhausted, and making room before a move is never needed. -/
theorem apart_run {distance : Int} (hdistance : 1 ≤ distance) {events : List Event}
    (hstep : ∀ e ∈ events, e.step.IsOperation)
    (hspacing : ∀ e ∈ events, ∀ spacing ∈ e.spacing?,
      distance ≤ spacing.gap ∧ distance ≤ spacing.threshold)
    {b : Board} (hb : b.tasks = []) :
    (run b events).Apart distance ∧
      (2 ≤ distance → ∀ (spacing : Spacing) (r : Operation.MoveRequest) (c : Conditions),
        (∀ column reference lower upper,
          (Operation.besideIn column r.task reference r.after spacing.gap c (run b events)).1 ≠
            .ok (.error (.exhausted lower upper))) ∧
        Operation.move spacing r c (run b events) =
          transaction (Operation.relocationUnguarded spacing r) c (run b events)) := by
  have hempty : b.Apart distance := by
    intro s hs
    rw [hb] at hs
    cases hs
  have hapart := Board.run_apart hdistance hstep hspacing hempty
  refine ⟨hapart, fun htwo spacing r c => ?_⟩
  have hroom : (run b events).Apart 2 := fun s hs t ht hid hc => (hapart s hs t ht hid hc).mono htwo
  exact ⟨fun _ _ _ _ => Operation.besideIn_ne_exhausted hroom,
    Operation.move_eq_unguarded hroom r⟩

/-- A board with one column and no tasks. -/
def bareBoard : Board :=
  { tightBoard with
    tasks := []
    taskIds_nodup := List.nodup_nil
    taskCodes_nodup := List.nodup_nil }

/-- Three tasks are created, and then the third and the second one go right after the first. -/
def bareRun : List Event :=
  let creation : Call := .create (.int 1) (.text "x") .null .null .null .null
  let afterFirst : Int → Call := fun task => .move (.int task) .null (.int 1) (.bool true) .null
  ["a", "b", "c"].map (fun code => .ofCall 4 2 code creation) ++
    [3, 2].map fun task => .ofCall 4 2 "" (afterFirst task)

theorem apart_run_bare :
    (run bareBoard bareRun).Apart 2 ∧
      (∀ lower upper, (Operation.besideIn 1 3 1 true 4 ⟨⟨0⟩, none⟩ (run bareBoard bareRun)).1 ≠
        .ok (.error (.exhausted lower upper))) ∧
      (run bareBoard bareRun).entries 1 = [(1, 0), (2, 4), (3, 8)] := by
  have hstep : ∀ e ∈ bareRun, e.step.IsOperation := by
    simp [bareRun, Event.ofCall, Step.IsOperation]
  obtain ⟨hapart, hroom⟩ := apart_run (by decide : (1 : Int) ≤ 2) hstep (by decide)
    (rfl : bareBoard.tasks = [])
  refine ⟨hapart, ?_, by cbv⟩
  exact (hroom (by decide) ⟨4, 2⟩ ⟨3, none, some 1, true, none⟩ ⟨⟨0⟩, none⟩).1 1 1

end Kanban
