import Kanban.Proofs.Order

/-!
# What edits do to the order

Each edit of a board changes the order of a column in a simple way: a new task is appended, a task
that leaves is filtered out, a task that is put somewhere is inserted there (`order_putTask`), and
tasks that get new positions are sorted again (`order_reposition`).
-/

namespace Kanban

/-- The next id is larger than every id in use. -/
theorem lt_nextId {ids : List Int} {n : Int} (h : n ∈ ids) : n < nextId ids := by
  unfold nextId
  split
  · next hmax => simp_all
  · next largest hmax =>
    have := (List.max?_eq_some_iff.mp hmax).2 n h
    omega

/-! ## Tasks at new positions -/

/-- A task that is not listed has no target. -/
theorem lookup_eq_none_of_not_mem {targets : List (Int × Int)} {id : Int}
    (h : id ∉ targets.map Prod.fst) : targets.lookup id = none := by
  rw [List.lookup_eq_none_iff]
  intro target htarget
  have : id ≠ target.1 := fun heq => h (heq ▸ List.mem_map_of_mem htarget)
  simpa using this

@[simp] theorem retarget_column (targets : List (Int × Int)) (now : Timestamp) (t : Task) :
    (Board.retarget targets now t).column = t.column := by
  unfold Board.retarget
  split <;> simp

@[simp] theorem retarget_position (targets : List (Int × Int)) (now : Timestamp) (t : Task) :
    (Board.retarget targets now t).position = (targets.lookup t.id).getD t.position := by
  unfold Board.retarget
  split
  · next h => simp [h]
  · next h => simp [h]

namespace Board

/-! ## Adding and removing -/

/-- A task that is added at or beyond the last position of its column becomes the last one. -/
theorem order_addTask {b : Board} {card : Card} {column position : Int} {now : Timestamp}
    {hcode : card.code ∉ b.tasks.map Task.code} (h : ∀ t ∈ b.order column, t.position ≤ position) :
    (b.addTask card column position now hcode).order column =
      b.order column ++ [b.newTask card column position now] := by
  -- at equal positions the new task comes last because its id is the largest
  have hid : ∀ t ∈ b.order column, t.id < b.nextTaskId := fun t ht =>
    lt_nextId (List.mem_map_of_mem (mem_order.mp ht).1)
  apply order_eq
  · refine List.pairwise_append.mpr ⟨b.pairwise_before_order column, by simp, ?_⟩
    intro t ht u hu
    obtain rfl : u = b.newTask card column position now := by simpa using hu
    rcases Int.lt_or_eq_of_le (h t ht) with hlt | heq
    · exact .inl hlt
    · exact .inr ⟨heq, hid t ht⟩
  · intro t
    rw [tasks_addTask, List.mem_append, List.mem_append, mem_order, List.mem_singleton]
    constructor
    · rintro (⟨ht, hc⟩ | rfl)
      · exact ⟨.inl ht, hc⟩
      · exact ⟨.inr rfl, rfl⟩
    · rintro ⟨ht | rfl, hc⟩
      · exact .inl ⟨ht, hc⟩
      · exact .inr rfl

/-- The other columns do not see a new task. -/
theorem order_addTask_of_ne {b : Board} {card : Card} {column position c : Int} {now : Timestamp}
    {hcode : card.code ∉ b.tasks.map Task.code} (hc : c ≠ column) :
    (b.addTask card column position now hcode).order c = b.order c := by
  apply order_congr
  rintro t rfl
  rw [tasks_addTask, List.mem_append, List.mem_singleton, or_iff_left]
  rintro rfl
  exact hc rfl

/-- A task is removed from its column, and the other tasks stay in order. -/
theorem order_removeTask (b : Board) (id c : Int) :
    (b.removeTask id).order c = (b.order c).filter fun t => t.id ≠ id := by
  apply order_eq ((b.pairwise_before_order c).filter _)
  intro t
  simp [and_right_comm]

/-! ## Putting a task somewhere -/

/-- After a task is put, the board has that task at its new place and the others as they were. -/
theorem mem_tasks_putTask {b : Board} {id column position : Int} {now : Timestamp} {t : Task} :
    t ∈ (b.putTask id column position now).tasks ↔
      (t ∈ b.tasks ∧ t.id ≠ id) ∨ ∃ s ∈ b.tasks, s.id = id ∧ t = s.put column position now := by
  rw [tasks_putTask, List.mem_map]
  constructor
  · rintro ⟨s, hs, rfl⟩
    by_cases hid : s.id = id
    · rw [if_pos hid]
      exact .inr ⟨s, hs, hid, rfl⟩
    · rw [if_neg hid]
      exact .inl ⟨hs, hid⟩
  · rintro (⟨ht, hid⟩ | ⟨s, hs, hid, rfl⟩)
    · exact ⟨t, ht, if_neg hid⟩
    · exact ⟨s, hs, if_pos hid⟩

/-- A task that is put into another column leaves the column in which it stood. -/
theorem order_putTask_of_ne {b : Board} {id column position c : Int} {now : Timestamp}
    (hc : c ≠ column) :
    (b.putTask id column position now).order c = (b.order c).filter fun t => t.id ≠ id := by
  apply order_eq ((b.pairwise_before_order c).filter _)
  intro t
  rw [mem_tasks_putTask, List.mem_filter, mem_order, decide_eq_true_eq]
  constructor
  · rintro ⟨⟨ht, htc⟩, hid⟩
    exact ⟨.inl ⟨ht, hid⟩, htc⟩
  · rintro ⟨⟨ht, hid⟩ | ⟨s, hs, hid, rfl⟩, htc⟩
    · exact ⟨⟨ht, htc⟩, hid⟩
    · rw [Task.put_column] at htc
      exact absurd htc.symm hc

/-- A task that is put into a column stands between those that it comes after and those that it
comes before. -/
theorem order_putTask {b : Board} {t : Task} (ht : t ∈ b.tasks) {column position : Int}
    {now : Timestamp} {l₁ l₂ : List Task} (hl : b.orderWithout column t.id = l₁ ++ l₂)
    (h₁ : ∀ s ∈ l₁, s.Before (t.put column position now))
    (h₂ : ∀ s ∈ l₂, (t.put column position now).Before s) :
    (b.putTask t.id column position now).order column =
      l₁ ++ t.put column position now :: l₂ := by
  have hmem : ∀ s, s ∈ l₁ ++ l₂ ↔ s ∈ b.tasks ∧ s.column = column ∧ s.id ≠ t.id := fun s => by
    rw [← hl, mem_orderWithout]
  -- the order is the only sorted list with the right members, so both are shown of the claimed one
  apply order_eq
  · apply pairwise_before_insert _ h₁ h₂
    rw [← hl]
    exact b.pairwise_before_orderWithout column t.id
  · intro u
    rw [List.mem_append, List.mem_cons, or_left_comm, ← List.mem_append, hmem, mem_tasks_putTask]
    constructor
    · rintro (rfl | ⟨hu, hc, hid⟩)
      · exact ⟨.inr ⟨t, ht, rfl, rfl⟩, t.put_column column position now⟩
      · exact ⟨.inl ⟨hu, hid⟩, hc⟩
    · rintro ⟨⟨hu, hid⟩ | ⟨s, hs, hid, rfl⟩, hc⟩
      · exact .inr ⟨hu, hc, hid⟩
      · obtain rfl := eq_of_id_eq hs ht hid
        exact .inl rfl

/-! ## Tasks of a column at new positions -/

/-- An edit that keeps ids is seen by looking tasks up. -/
theorem task?_mapTasks (b : Board) (f : Task → Task) (hid : ∀ t, (f t).id = t.id)
    (hcode : ∀ t, (f t).code = t.code) (id : Int) :
    (b.mapTasks f hid hcode).task? id = (b.task? id).map f := by
  unfold task?
  rw [tasks_mapTasks, List.find?_map]
  congr 2
  funext t
  simp [hid]

/-- A removed task is not found again, and no other one is lost with it. -/
theorem task?_removeTask (b : Board) (id i : Int) :
    (b.removeTask id).task? i = if i = id then none else b.task? i := by
  rw [task?, tasks_removeTask, List.find?_filter]
  split
  · next hid =>
    subst hid
    simp
  · next hid =>
    unfold task?
    congr 1
    funext t
    by_cases ht : t.id = i
    · simp [ht, hid]
    · simp [ht]

/-- Putting tasks somewhere loses none of them. -/
theorem exists_task?_putTask {b : Board} {id : Int} {t : Task} (ht : b.task? id = some t)
    (i column position : Int) (now : Timestamp) :
    ∃ s, (b.putTask i column position now).task? id = some s :=
  ⟨_, by rw [putTask, task?_mapTasks, ht]; rfl⟩

@[simp] theorem reposition_nil (b : Board) (now : Timestamp) : b.reposition [] now = b := by
  ext1
  · rfl
  · exact List.map_id b.tasks

/-- Tasks at new positions are sorted again, each in its column. -/
theorem order_reposition (b : Board) (targets : List (Int × Int)) (now : Timestamp) (c : Int) :
    (b.reposition targets now).order c =
      ((b.order c).map (retarget targets now)).mergeSort Task.precedes := by
  apply order_eq
  · apply pairwise_before_mergeSort
    rw [List.map_map, show Task.id ∘ retarget targets now = Task.id from
      funext (retarget_id targets now)]
    exact b.nodup_ids_order c
  · intro t
    rw [List.mem_mergeSort, tasks_reposition, List.mem_map, List.mem_map]
    constructor
    · rintro ⟨s, hs, rfl⟩
      obtain ⟨hs, hc⟩ := mem_order.mp hs
      exact ⟨⟨s, hs, rfl⟩, by rw [retarget_column, hc]⟩
    · rintro ⟨⟨s, hs, rfl⟩, hc⟩
      rw [retarget_column] at hc
      exact ⟨s, mem_order.mpr ⟨hs, hc⟩, rfl⟩

/-- When tasks of one column get new positions, every other column keeps its order. -/
theorem order_reposition_of_ne {b : Board} {targets : List (Int × Int)} {now : Timestamp}
    {column c : Int} (hc : c ≠ column)
    (h : ∀ id ∈ targets.map Prod.fst, ∃ t ∈ b.order column, t.id = id) :
    (b.reposition targets now).order c = b.order c := by
  -- a target names only tasks of the one column, and a task stands in one column
  have hmap : (b.order c).map (retarget targets now) = b.order c := by
    conv_rhs => rw [← List.map_id (b.order c)]
    apply List.map_congr_left
    intro t ht
    have hid : t.id ∉ targets.map Prod.fst := by
      intro hmem
      obtain ⟨s, hs, hid⟩ := h t.id hmem
      obtain ⟨ht, htc⟩ := mem_order.mp ht
      obtain ⟨hs, hsc⟩ := mem_order.mp hs
      obtain rfl := eq_of_id_eq hs ht hid
      exact hc (htc.symm.trans hsc)
    simp [retarget, lookup_eq_none_of_not_mem hid]
  rw [order_reposition, hmap]
  exact List.mergeSort_of_pairwise (b.pairwise_order c)

end Board

end Kanban
