import Kanban.Proofs.Edit
import Kanban.Store

/-!
# Renumbered columns

`Board.renumbered` is the board after a column was renumbered. The tasks of the column keep their
order and stand at the multiples of the gap (`order_renumbered`), and all other columns keep their
tasks as they are.
-/

namespace Kanban

/-! ## Targets -/

/-- A list of targets in which no task is named twice has the target of each task at one place. -/
theorem lookup_eq_some_iff_mem {targets : List (Int × Int)} (h : (targets.map Prod.fst).Nodup)
    {id position : Int} : targets.lookup id = some position ↔ (id, position) ∈ targets := by
  induction targets with
  | nil => simp
  | cons target rest ih =>
    obtain ⟨i, p⟩ := target
    rw [List.map_cons, List.nodup_cons] at h
    rw [List.lookup_cons]
    by_cases hid : id = i
    · subst hid
      have hrest : (id, position) ∉ rest := fun hmem =>
        h.1 (List.mem_map.mpr ⟨(id, position), hmem, rfl⟩)
      simp [hrest, eq_comm]
    · rw [beq_false_of_ne hid]
      simp [ih h.2, hid]

/-- The position at which the task of a given place of a column is put. -/
def multiple (gap : Int) (i : Nat) : Int := basePosition + i * gap

/-- Multiples of a gap stand a gap apart. -/
theorem multiple_add_le {gap : Int} (hgap : 1 ≤ gap) {i j : Nat} (h : i < j) :
    multiple gap i + gap ≤ multiple gap j := by
  obtain ⟨k, rfl⟩ := Nat.exists_eq_add_of_lt h
  have hk : 0 ≤ (k : Int) * gap := Int.mul_nonneg (by omega) (by omega)
  have hj : ((i + k + 1 : Nat) : Int) * gap = i * gap + k * gap + gap := by
    push_cast
    rw [Int.add_mul, Int.add_mul, Int.one_mul]
  unfold multiple
  omega

/-- A task is misplaced when it stands at another position than the multiple of its place. -/
theorem mem_misplaced {ordered : List Task} {gap id position : Int} :
    (id, position) ∈ Store.misplaced ordered gap ↔
      ∃ (i : Nat) (t : Task), ordered[i]? = some t ∧ t.id = id ∧ position = multiple gap i ∧
        t.position ≠ position := by
  simp only [Store.misplaced, List.mem_map, List.mem_filter, decide_eq_true_eq, Prod.exists,
    Prod.mk.injEq, List.mem_zipIdx_iff_getElem?, multiple]
  constructor
  · rintro ⟨t, i, ⟨hi, hne⟩, rfl, rfl⟩
    exact ⟨i, t, hi, rfl, rfl, hne⟩
  · rintro ⟨i, t, hi, rfl, rfl, hne⟩
    exact ⟨t, i, ⟨hi, hne⟩, rfl, rfl⟩

theorem misplaced_ids_sublist (ordered : List Task) (gap : Int) :
    ((Store.misplaced ordered gap).map Prod.fst).Sublist (ordered.map Task.id) := by
  have hids : ordered.map Task.id = ordered.zipIdx.map fun p => p.1.id := by
    rw [← Function.comp_def Task.id Prod.fst, ← List.map_map, List.zipIdx_map_fst]
  rw [hids, Store.misplaced, List.map_map]
  exact List.filter_sublist.map _

/-- The target of the task at a place of a column, if it does not stand there already. -/
theorem lookup_misplaced {ordered : List Task} (hids : (ordered.map Task.id).Nodup) {gap : Int}
    {i : Nat} {t : Task} (hi : ordered[i]? = some t) :
    (Store.misplaced ordered gap).lookup t.id =
      if t.position = multiple gap i then none else some (multiple gap i) := by
  have hnodup := hids.sublist (misplaced_ids_sublist ordered gap)
  -- an id stands at one place only, so a target under it is the one of that place
  have hplace : ∀ {j : Nat} {s : Task}, ordered[j]? = some s → s.id = t.id → j = i := by
    intro j s hj hs
    have hlt : j < (ordered.map Task.id).length := by
      rw [List.length_map]
      exact (List.getElem?_eq_some_iff.mp hj).1
    apply (List.getElem?_inj hlt hids).mp
    rw [List.getElem?_map, List.getElem?_map, hj, hi, Option.map_some, Option.map_some, hs]
  split
  · next heq =>
    cases hl : (Store.misplaced ordered gap).lookup t.id with
    | none => rfl
    | some position =>
      obtain ⟨j, s, hj, hs, rfl, hne⟩ := mem_misplaced.mp ((lookup_eq_some_iff_mem hnodup).mp hl)
      obtain rfl := hplace hj hs
      obtain rfl : t = s := by simpa [hi] using hj
      exact absurd heq hne
  · next hne =>
    rw [lookup_eq_some_iff_mem hnodup, mem_misplaced]
    exact ⟨i, t, hi, rfl, rfl, hne⟩

namespace Board

def renumbered (b : Board) (column gap : Int) (now : Timestamp) : Board :=
  b.reposition (Store.misplaced (b.order column) gap) now

/-- Each task of a column is put at the multiple that belongs to its place. -/
theorem retarget_misplaced {b : Board} {column gap : Int} {now : Timestamp} {i : Nat} {t : Task}
    (hi : (b.order column)[i]? = some t) :
    retarget (Store.misplaced (b.order column) gap) now t =
      t.put t.column (multiple gap i) now := by
  unfold retarget
  rw [lookup_misplaced (b.nodup_ids_order column) hi]
  by_cases heq : t.position = multiple gap i
  · simp [heq, Task.put]
  · simp [heq]

/-- A renumbered column keeps its order, and its tasks stand at the multiples of the gap. -/
theorem order_renumbered (b : Board) (column : Int) {gap : Int} (hgap : 1 ≤ gap)
    (now : Timestamp) :
    (b.renumbered column gap now).order column =
      (b.order column).mapIdx fun i t => t.put t.column (multiple gap i) now := by
  have hmap : (b.order column).map (retarget (Store.misplaced (b.order column) gap) now) =
      (b.order column).mapIdx fun i t => t.put t.column (multiple gap i) now := by
    apply List.ext_getElem?
    intro i
    rw [List.getElem?_map, List.getElem?_mapIdx]
    cases hi : (b.order column)[i]? with
    | none => rfl
    | some t => rw [Option.map_some, Option.map_some, retarget_misplaced hi]
  -- the multiples ascend with the places, so sorting changes nothing
  rw [renumbered, order_reposition, hmap]
  apply List.mergeSort_of_pairwise
  rw [List.pairwise_iff_getElem]
  intro i j hi hj hij
  have := multiple_add_le hgap hij
  apply Task.Before.precedes
  left
  simp only [List.getElem_mapIdx, Task.put_position]
  omega

theorem order_renumbered_of_ne {b : Board} {column gap c : Int} (hc : c ≠ column)
    (now : Timestamp) : (b.renumbered column gap now).order c = b.order c := by
  apply order_reposition_of_ne hc
  intro id hid
  exact List.mem_map.mp ((misplaced_ids_sublist _ gap).subset hid)

/-- Renumbering a column changes the order of no column. -/
theorem ids_order_renumbered (b : Board) (column : Int) {gap : Int} (hgap : 1 ≤ gap)
    (now : Timestamp) (c : Int) :
    ((b.renumbered column gap now).order c).map Task.id = (b.order c).map Task.id := by
  by_cases hc : c = column
  · subst hc
    rw [order_renumbered b c hgap now]
    apply List.ext_getElem?
    intro i
    rw [List.getElem?_map, List.getElem?_map, List.getElem?_mapIdx, Option.map_map]
    simp [Function.comp_def]
  · rw [order_renumbered_of_ne hc]

/-- Renumbering a column loses no task. -/
theorem exists_task?_renumbered {b : Board} {id : Int} {t : Task} (ht : b.task? id = some t)
    (column gap : Int) (now : Timestamp) :
    ∃ s, (b.renumbered column gap now).task? id = some s :=
  ⟨_, by rw [renumbered, reposition, task?_mapTasks, ht]; rfl⟩

end Board

end Kanban
