import Kanban.Proofs.Operation
import Mathlib.Data.List.Sort
import Mathlib.Logic.Function.Basic

/-!
# Lineups

The lineup of a board is what its users see of the order: one list of task ids for each column, and no
positions. A `Change` is what an operation does to a lineup. It inserts, appends and removes ids; where
the operation was given positions, the change also carries the stored entries among which they are
sorted.
-/

namespace Kanban

/-- For each column, the ids of its tasks in order. -/
abbrev Lineup : Type := Int → List Int

def Board.lineup (b : Board) : Lineup := fun column => (b.order column).map Task.id

/-! ## Lists of ids and entries -/

/-- An id is put into a list, right after or right before another one. -/
def insertBeside (id reference : Int) (after : Bool) : List Int → List Int
  | [] => []
  | n :: rest =>
    if n = reference then if after then n :: id :: rest else id :: n :: rest
    else n :: insertBeside id reference after rest

/-- An id is put beside the first place where its reference stands. -/
theorem insertBeside_append {id reference : Int} {after : Bool} {l₁ l₂ : List Int}
    (h : reference ∉ l₁) :
    insertBeside id reference after (l₁ ++ reference :: l₂) =
      l₁ ++ if after then reference :: id :: l₂ else id :: reference :: l₂ := by
  induction l₁ with
  | nil => simp [insertBeside]
  | cons n rest ih =>
    rw [List.mem_cons, not_or] at h
    rw [List.cons_append, insertBeside, if_neg (Ne.symm h.1), ih h.2, List.cons_append]

/-- An entry, an id with a position, does not come after another one: positions are compared first,
and then ids. -/
def Upto (e f : Int × Int) : Prop := e.2 < f.2 ∨ (e.2 = f.2 ∧ e.1 ≤ f.1)

instance (e f : Int × Int) : Decidable (Upto e f) := inferInstanceAs (Decidable (_ ∨ _))

/-- Tasks are sorted as their entries are. -/
theorem precedes_eq_upto (s t : Task) : s.precedes t = decide (Upto s.entry t.entry) := by
  rw [Bool.eq_iff_iff, decide_eq_true_iff]
  simp [Task.precedes, Upto, Task.entry]

/-- An entry that is put into a list between those that it comes after and those that it does not
come after. -/
theorem orderedInsert_append {e : Int × Int} {l₁ l₂ : List (Int × Int)}
    (h₁ : ∀ f ∈ l₁, ¬ Upto e f) (h₂ : ∀ f ∈ l₂, Upto e f) :
    (l₁ ++ l₂).orderedInsert Upto e = l₁ ++ e :: l₂ := by
  induction l₁ with
  | nil =>
    cases l₂ with
    | nil => rfl
    | cons f rest => exact List.orderedInsert_cons_of_le _ rest (h₂ f List.mem_cons_self)
  | cons f rest ih =>
    rw [List.forall_mem_cons] at h₁
    rw [List.cons_append, List.orderedInsert_of_not_le _ _ h₁.1, ih h₁.2, List.cons_append]

/-! ## Changes -/

namespace Lineup

def without (l : Lineup) (task : Int) : Lineup := fun column =>
  (l column).filter fun id => id ≠ task

def set (l : Lineup) (column : Int) (ids : List Int) : Lineup := Function.update l column ids

end Lineup

/-- What an operation does to a lineup. -/
inductive Change where
  | keep
  /-- A new task is appended to a column. -/
  | append (column task : Int)
  /-- A task leaves its place and goes right after, or right before, a task of a column. -/
  | beside (task column reference : Int) (after : Bool)
  /-- A task leaves its place and becomes the last one of a column. -/
  | last (task column : Int)
  /-- A task leaves its place and is sorted, with a position, among the stored entries of a
  column. -/
  | sorted (task column position : Int) (stored : List (Int × Int))
  /-- The entries of a column are sorted by their new positions. -/
  | resort (column : Int) (entries : List (Int × Int))
  | remove (task : Int)
deriving DecidableEq, Repr

def Change.apply : Change → Lineup → Lineup
  | .keep, l => l
  | .append column task, l => l.set column (l column ++ [task])
  | .beside task column reference after, l =>
    (l.without task).set column (insertBeside task reference after (l.without task column))
  | .last task column, l => (l.without task).set column (l.without task column ++ [task])
  | .sorted task column position stored, l =>
    (l.without task).set column
      (((stored.filter fun e => e.1 ≠ task).orderedInsert Upto (task, position)).map Prod.fst)
  | .resort column entries, l =>
    l.set column ((entries.mergeSort fun e f => Upto e f).map Prod.fst)
  | .remove task, l => l.without task

/-! ## The lineup after an edit -/

namespace Board

theorem mem_lineup {b : Board} {column id : Int} :
    id ∈ b.lineup column ↔ ∃ t ∈ b.tasks, t.id = id ∧ t.column = column := by
  rw [lineup, List.mem_map]
  constructor
  · rintro ⟨t, ht, rfl⟩
    obtain ⟨ht, hc⟩ := mem_order.mp ht
    exact ⟨t, ht, rfl, hc⟩
  · rintro ⟨t, ht, rfl, hc⟩
    exact ⟨t, mem_order.mpr ⟨ht, hc⟩, rfl⟩

/-- The ids of a column without a task, as entries and as a lineup. -/
theorem map_fst_entriesWithout (b : Board) (column task : Int) :
    (b.entriesWithout column task).map Prod.fst = b.lineup.without task column :=
  b.ids_entriesWithout_eq_filter column task

/-- A task at the end of a column is appended to its list. -/
theorem lineup_addTask {b : Board} {card : Card} {column position : Int} {now : Timestamp}
    {hcode : card.code ∉ b.tasks.map Task.code} (h : ∀ t ∈ b.order column, t.position ≤ position) :
    (b.addTask card column position now hcode).lineup =
      (Change.append column b.nextTaskId).apply b.lineup := by
  funext c
  by_cases hc : c = column
  · subst hc
    simp [lineup, Change.apply, Lineup.set, order_addTask h, newTask]
  · simp [lineup, Change.apply, Lineup.set, order_addTask_of_ne hc, Function.update_of_ne hc]

/-- A removed task is gone from the list of its column, and no list changes otherwise. -/
theorem lineup_removeTask (b : Board) (id : Int) :
    (b.removeTask id).lineup = (Change.remove id).apply b.lineup := by
  funext c
  rw [lineup, order_removeTask, Change.apply, Lineup.without, lineup, List.filter_map]
  rfl

/-- Renumbering is not seen in a lineup. -/
theorem lineup_renumbered (b : Board) (column : Int) {gap : Int} (hgap : 1 ≤ gap)
    (now : Timestamp) : (b.renumbered column gap now).lineup = b.lineup :=
  funext (b.ids_order_renumbered column hgap now)

/-- No list changes when a crowded column is renumbered. -/
theorem lineup_eased (b : Board) {spacing : Spacing} (hgap : 1 ≤ spacing.gap) (column : Int)
    (now : Timestamp) : (b.eased spacing column now).lineup = b.lineup := by
  unfold eased
  split
  · exact b.lineup_renumbered column hgap now
  · rfl

/-- A task that is put into a column stands in the lineup where it stands in the order. -/
theorem lineup_putTask {b : Board} {t : Task} (ht : t ∈ b.tasks) {column position : Int}
    {now : Timestamp} {l₁ l₂ : List Task} (hl : b.orderWithout column t.id = l₁ ++ l₂)
    (h₁ : ∀ s ∈ l₁, s.Before (t.put column position now))
    (h₂ : ∀ s ∈ l₂, (t.put column position now).Before s) :
    (b.putTask t.id column position now).lineup =
      (b.lineup.without t.id).set column (l₁.map Task.id ++ t.id :: l₂.map Task.id) := by
  funext c
  by_cases hc : c = column
  · subst hc
    simp [lineup, Lineup.set, order_putTask ht hl h₁ h₂]
  · rw [lineup, order_putTask_of_ne hc, Lineup.set, Function.update_of_ne hc, Lineup.without,
      lineup, List.filter_map]
    rfl

/-- A task that is put beyond all others of a column becomes the last one. -/
theorem lineup_putTask_last {b : Board} {t : Task} (ht : t ∈ b.tasks) {column position : Int}
    {now : Timestamp} (h : ∀ s ∈ b.orderWithout column t.id, s.position < position) :
    (b.putTask t.id column position now).lineup = (Change.last t.id column).apply b.lineup := by
  have hbefore : ∀ s ∈ b.orderWithout column t.id, s.Before (t.put column position now) :=
    fun s hs => .inl (by rw [Task.put_position]; exact h s hs)
  rw [lineup_putTask ht (List.append_nil _).symm hbefore (by simp), Change.apply,
    ← map_fst_entriesWithout, ids_entriesWithout]
  rfl

/-- A task that is put at a position is sorted among the entries of the column. -/
theorem lineup_putTask_sorted {b : Board} {t : Task} (ht : t ∈ b.tasks) {column position : Int}
    {now : Timestamp} :
    (b.putTask t.id column position now).lineup =
      (Change.sorted t.id column position (b.entries column)).apply b.lineup := by
  have hother : ∀ s ∈ b.orderWithout column t.id, s.id ≠ (t.put column position now).id := by
    intro s hs
    rw [Task.put_id]
    exact (mem_orderWithout.mp hs).2.2
  obtain ⟨l₁, l₂, hl, h₁, h₂⟩ :=
    exists_cut_before (b.pairwise_before_orderWithout column t.id) hother
  -- the order of tasks and the order of entries cut the column at the same place
  have hsorted : (b.entriesWithout column t.id).orderedInsert Upto (t.id, position) =
      l₁.map Task.entry ++ (t.id, position) :: l₂.map Task.entry := by
    have hentry : (t.id, position) = (t.put column position now).entry := by simp [Task.entry]
    rw [entriesWithout, hl, List.map_append, hentry]
    apply orderedInsert_append
    · rw [List.forall_mem_map]
      intro s hs hupto
      exact (h₁ s hs).asymm (Task.before_of_precedes (by simpa [precedes_eq_upto] using hupto)
        fun hid => hother s (by simp [hl, hs]) hid.symm)
    · rw [List.forall_mem_map]
      intro s hs
      simpa [precedes_eq_upto] using (h₂ s hs).precedes
  rw [lineup_putTask ht hl h₁ h₂, Change.apply, ← entriesWithout_eq, hsorted]
  simp [Task.entry, Function.comp_def]

/-- A task that is put between a task and its neighbour on one side stands next to that task. -/
theorem lineup_putTask_beside {b : Board} {t u : Task} (ht : t ∈ b.tasks) {column position : Int}
    {now : Timestamp} {after : Bool} {l₁ l₂ : List Task}
    (hl : b.orderWithout column t.id = l₁ ++ u :: l₂)
    (h : if after then u.position < position ∧ ∀ s ∈ l₂, position < s.position
      else (∀ s ∈ l₁, s.position < position) ∧ position < u.position) :
    (b.putTask t.id column position now).lineup =
      (Change.beside t.id column u.id after).apply b.lineup := by
  have hsorted := b.pairwise_before_orderWithout column t.id
  rw [hl] at hsorted
  obtain ⟨-, hs₂, hcross⟩ := List.pairwise_append.mp hsorted
  have hbelow : ∀ s ∈ l₁, s.Before u := fun s hs => hcross s hs u List.mem_cons_self
  have hfirst : u.id ∉ l₁.map Task.id := by
    intro hmem
    obtain ⟨s, hs, hid⟩ := List.mem_map.mp hmem
    have hsb : s ∈ b.orderWithout column t.id := by simp [hl, hs]
    have hub : u ∈ b.orderWithout column t.id := by simp [hl]
    exact (hbelow s hs).ne
      (eq_of_id_eq (mem_orderWithout.mp hsb).1 (mem_orderWithout.mp hub).1 hid)
  have hids : b.lineup.without t.id column = l₁.map Task.id ++ u.id :: l₂.map Task.id := by
    rw [← map_fst_entriesWithout, ids_entriesWithout, hl, List.map_append, List.map_cons]
  -- the task stands on one side of the reference, and positions ascend on both sides of it
  rw [Change.apply, hids, insertBeside_append hfirst]
  cases after with
  | true =>
    obtain ⟨hu, hrest⟩ := h
    have hcut : b.orderWithout column t.id = (l₁ ++ [u]) ++ l₂ := by simp [hl]
    rw [lineup_putTask ht hcut]
    · simp
    · intro s hs
      left
      rw [Task.put_position]
      rcases List.mem_append.mp hs with hs | hs
      · have := (hbelow s hs).position_le
        omega
      · obtain rfl := List.mem_singleton.mp hs
        exact hu
    · intro s hs
      left
      rw [Task.put_position]
      exact hrest s hs
  | false =>
    obtain ⟨hrest, hu⟩ := h
    rw [lineup_putTask ht hl]
    · simp
    · intro s hs
      left
      rw [Task.put_position]
      exact hrest s hs
    · intro s hs
      left
      rw [Task.put_position]
      rcases List.mem_cons.mp hs with rfl | hs
      · exact hu
      · have := ((List.pairwise_cons.mp hs₂).1 s hs).position_le
        omega

end Board

end Kanban
