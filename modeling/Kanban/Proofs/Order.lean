import Kanban.Board.Edit
import Kanban.Board.Order
import Mathlib.Data.List.Nodup

/-!
# A column has one order

The tasks of a board have distinct ids, so the order by position and id is strict on them
(`Task.Before`), and a list of tasks that is sorted by it is determined by its members
(`eq_of_pairwise_before`). That makes `Board.order_eq` the way to find the order of a column after an
edit: give a sorted list and show that it has the right tasks.
-/

namespace Kanban

/-! ## The strict order of tasks -/

namespace Task

def Before (s t : Task) : Prop :=
  s.position < t.position ∨ (s.position = t.position ∧ s.id < t.id)

theorem Before.precedes {s t : Task} (h : s.Before t) : s.precedes t := by
  simp only [Task.precedes, Bool.or_eq_true, Bool.and_eq_true, decide_eq_true_eq, beq_iff_eq]
  unfold Before at h
  omega

/-- The order of the table is strict between different tasks, because no two of them share an id. -/
theorem before_of_precedes {s t : Task} (h : s.precedes t) (hne : s.id ≠ t.id) : s.Before t := by
  simp only [Task.precedes, Bool.or_eq_true, Bool.and_eq_true, decide_eq_true_eq, beq_iff_eq] at h
  unfold Before
  omega

theorem Before.asymm {s t : Task} (h : s.Before t) : ¬ t.Before s := by
  unfold Before at *
  omega

theorem Before.trans {s t u : Task} (h : s.Before t) (h' : t.Before u) : s.Before u := by
  unfold Before at *
  omega

theorem Before.ne {s t : Task} (h : s.Before t) : s ≠ t := by
  rintro rfl
  exact h.asymm h

theorem Before.position_le {s t : Task} (h : s.Before t) : s.position ≤ t.position := by
  unfold Before at h
  omega

end Task

/-! ## Sorted lists of tasks -/

/-- A sorted list of tasks is determined by its members. -/
theorem eq_of_pairwise_before {l₁ l₂ : List Task} (h₁ : l₁.Pairwise Task.Before)
    (h₂ : l₂.Pairwise Task.Before) (h : ∀ t, t ∈ l₁ ↔ t ∈ l₂) : l₁ = l₂ := by
  -- a strict order leaves no room for repetitions, so equal members make a permutation
  have hperm : l₁.Perm l₂ :=
    (List.perm_ext_iff_of_nodup (h₁.imp Task.Before.ne) (h₂.imp Task.Before.ne)).mpr h
  refine List.Perm.eq_of_pairwise ?_ h₁ h₂ hperm
  intro s t _ _ hst hts
  exact absurd hts hst.asymm

/-- Sorting puts tasks with distinct ids into the strict order. -/
theorem pairwise_before_mergeSort {l : List Task} (h : (l.map Task.id).Nodup) :
    (l.mergeSort Task.precedes).Pairwise Task.Before := by
  have hids : (l.mergeSort Task.precedes).Pairwise fun s t => s.id ≠ t.id := by
    have hperm := (List.mergeSort_perm l Task.precedes).map Task.id
    exact List.pairwise_map.mp (hperm.nodup_iff.mpr h)
  have hsorted := List.pairwise_mergeSort Task.precedes_trans Task.precedes_total l
  exact (hsorted.and hids).imp fun h => Task.before_of_precedes h.1 h.2

/-- A task that is put into a sorted list between its predecessors and its successors. -/
theorem pairwise_before_insert {l₁ l₂ : List Task} {t : Task}
    (h : (l₁ ++ l₂).Pairwise Task.Before) (h₁ : ∀ s ∈ l₁, s.Before t) (h₂ : ∀ s ∈ l₂, t.Before s) :
    (l₁ ++ t :: l₂).Pairwise Task.Before := by
  obtain ⟨hl₁, hl₂, hcross⟩ := List.pairwise_append.mp h
  refine List.pairwise_append.mpr ⟨hl₁, List.pairwise_cons.mpr ⟨h₂, hl₂⟩, ?_⟩
  intro s hs u hu
  rcases List.mem_cons.mp hu with rfl | hu
  · exact h₁ s hs
  · exact hcross s hs u hu

/-- A sorted list is cut where a task with another id would be put. -/
theorem exists_cut_before {l : List Task} (h : l.Pairwise Task.Before) {t : Task}
    (hid : ∀ s ∈ l, s.id ≠ t.id) :
    ∃ l₁ l₂, l = l₁ ++ l₂ ∧ (∀ s ∈ l₁, s.Before t) ∧ ∀ s ∈ l₂, t.Before s := by
  induction l with
  | nil => exact ⟨[], [], rfl, by simp, by simp⟩
  | cons s rest ih =>
    obtain ⟨hs, hrest⟩ := List.pairwise_cons.mp h
    by_cases hst : s.Before t
    · obtain ⟨l₁, l₂, rfl, h₁, h₂⟩ := ih hrest fun u hu => hid u (List.mem_cons_of_mem _ hu)
      exact ⟨s :: l₁, l₂, rfl, List.forall_mem_cons.mpr ⟨hst, h₁⟩, h₂⟩
    · -- ids differ, so the order is total here and the cut is in front of the rest
      have hts : t.Before s := by
        have hne := hid s List.mem_cons_self
        unfold Task.Before at *
        omega
      exact ⟨[], s :: rest, rfl, by simp,
        List.forall_mem_cons.mpr ⟨hts, fun u hu => hts.trans (hs u hu)⟩⟩

namespace Board

/-! ## Tasks and their ids -/

/-- A task is known by its id. -/
theorem eq_of_id_eq {b : Board} {s t : Task} (hs : s ∈ b.tasks) (ht : t ∈ b.tasks)
    (h : s.id = t.id) : s = t :=
  List.inj_on_of_nodup_map b.taskIds_nodup hs ht h

/-- A task is found under its id, and under no other one. -/
theorem task?_eq_some_iff {b : Board} {id : Int} {t : Task} :
    b.task? id = some t ↔ t ∈ b.tasks ∧ t.id = id := by
  constructor
  · intro h
    exact ⟨List.mem_of_find?_eq_some h, by simpa using List.find?_some h⟩
  · rintro ⟨ht, rfl⟩
    cases hfind : b.task? t.id with
    | none =>
      have := List.find?_eq_none.mp hfind t ht
      simp at this
    | some s =>
      have hs := List.mem_of_find?_eq_some hfind
      have hid : s.id = t.id := by simpa using List.find?_some hfind
      rw [eq_of_id_eq hs ht hid]

/-! ## The order of a column -/

/-- The order of a column is strict. -/
theorem pairwise_before_order (b : Board) (column : Int) :
    (b.order column).Pairwise Task.Before :=
  pairwise_before_mergeSort (nodup_map_filter _ b.taskIds_nodup)

/-- A column lists each of its tasks once. -/
theorem nodup_ids_order (b : Board) (column : Int) :
    ((b.order column).map Task.id).Nodup := by
  have hperm := (List.mergeSort_perm (b.tasks.filter fun t => t.column = column)
    Task.precedes).map Task.id
  exact hperm.nodup_iff.mpr (nodup_map_filter _ b.taskIds_nodup)

/-- The order of a column is the only sorted list of its tasks. -/
theorem order_eq {b : Board} {column : Int} {l : List Task} (h : l.Pairwise Task.Before)
    (hmem : ∀ t, t ∈ l ↔ t ∈ b.tasks ∧ t.column = column) : b.order column = l :=
  eq_of_pairwise_before (b.pairwise_before_order column) h fun t => by rw [mem_order, hmem]

/-- The order of a column depends on the tasks in it alone. -/
theorem order_congr {b b' : Board} {column : Int}
    (h : ∀ t, t.column = column → (t ∈ b'.tasks ↔ t ∈ b.tasks)) :
    b'.order column = b.order column := by
  apply order_eq (b.pairwise_before_order column)
  intro t
  rw [mem_order]
  constructor
  · rintro ⟨ht, hc⟩
    exact ⟨(h t hc).mpr ht, hc⟩
  · rintro ⟨ht, hc⟩
    exact ⟨(h t hc).mp ht, hc⟩

/-- The order without a task is the order with the task left out. -/
theorem orderWithout_eq (b : Board) (column id : Int) :
    b.orderWithout column id = (b.order column).filter fun t => t.id ≠ id := by
  apply eq_of_pairwise_before
  · exact pairwise_before_mergeSort (nodup_map_filter _ b.taskIds_nodup)
  · exact (b.pairwise_before_order column).filter _
  · intro t
    simp [orderWithout, and_assoc]

/-- A column without a task has its other tasks. -/
theorem mem_orderWithout {b : Board} {column id : Int} {t : Task} :
    t ∈ b.orderWithout column id ↔ t ∈ b.tasks ∧ t.column = column ∧ t.id ≠ id := by
  simp [orderWithout_eq, and_assoc]

theorem pairwise_before_orderWithout (b : Board) (column id : Int) :
    (b.orderWithout column id).Pairwise Task.Before := by
  rw [orderWithout_eq]
  exact (b.pairwise_before_order column).filter _

end Board

end Kanban
