import Kanban.Proofs.Confinement
import Mathlib

/-!
# Boards that agree

An operation reads the columns of the board, the tasks in the columns that it works on, and the
tasks that it names. On two boards that agree on these (`Board.Agree`) it has the same outcome and
leaves boards that agree on them again, whenever it is performed on either. The time is seen in
nothing but the times of updates, so rows are compared without them (`Task.untimed`). `Work.Alike`
states this of two pieces of work, and there is one lemma for each access to the store and each part
of an operation.
-/

namespace Kanban

open Work

/-! ## Tasks without their times -/

namespace Task

def untimed (t : Task) : Task := { t with updatedAt := ⟨0⟩ }

@[simp] theorem untimed_id (t : Task) : t.untimed.id = t.id := rfl

@[simp] theorem untimed_column (t : Task) : t.untimed.column = t.column := rfl

@[simp] theorem untimed_position (t : Task) : t.untimed.position = t.position := rfl

@[simp] theorem entry_untimed (t : Task) : t.untimed.entry = t.entry := rfl

@[simp] theorem untimed_put (t : Task) (column position : Int) (now : Timestamp) :
    (t.put column position now).untimed =
      { t.untimed with column := column, position := position } := by
  unfold put
  split
  · next h =>
    obtain ⟨rfl, rfl⟩ := h
    rfl
  · rfl

theorem untimed_retarget (targets : List (Int × Int)) (now : Timestamp) (t : Task) :
    (Board.retarget targets now t).untimed =
      { t.untimed with position := (targets.lookup t.id).getD t.position } := by
  unfold Board.retarget
  split
  · next h => rw [untimed_put, h]; rfl
  · next h => rw [h]; rfl

theorem id_eq_of_untimed {s t : Task} (h : s.untimed = t.untimed) : s.id = t.id := by
  rw [← s.untimed_id, h, untimed_id]

theorem column_eq_of_untimed {s t : Task} (h : s.untimed = t.untimed) : s.column = t.column := by
  rw [← s.untimed_column, h, untimed_column]

theorem position_eq_of_untimed {s t : Task} (h : s.untimed = t.untimed) :
    s.position = t.position := by
  rw [← s.untimed_position, h, untimed_position]

end Task

namespace Board

/-! ## Agreement -/

/-- The row under an id, but for the time of its update. -/
def row (b : Board) (id : Int) : Option Task := (b.task? id).map Task.untimed

def Holds (b : Board) (columns : List Int) (id : Int) : Prop :=
  ∃ t, b.task? id = some t ∧ t.column ∈ columns

/-- Two boards have the same columns, and the same row under each of the listed ids and under each
id whose row is in one of the listed columns on either of them. The rows under the listed ids are in
the listed columns. -/
structure Agree (columns ids : List Int) (b b' : Board) : Prop where
  columns_eq : b.columns = b'.columns
  row_eq : ∀ id, id ∈ ids ∨ b.Holds columns id ∨ b'.Holds columns id → b.row id = b'.row id
  named : ∀ id ∈ ids, ∀ t, b.task? id = some t → t.column ∈ columns

variable {columns ids : List Int} {b b' : Board}

/-- A task of the one board is on the other one as well, and the same but for the time of its
update. -/
theorem exists_of_row_eq {id : Int} (h : b.row id = b'.row id) {t : Task}
    (ht : b.task? id = some t) : ∃ t', b'.task? id = some t' ∧ t.untimed = t'.untimed := by
  rw [row, row, ht] at h
  obtain ⟨t', ht', heq⟩ := Option.map_eq_some_iff.mp h.symm
  exact ⟨t', ht', heq.symm⟩

theorem none_of_row_eq {id : Int} (h : b.row id = b'.row id) (ht : b.task? id = none) :
    b'.task? id = none := by
  rw [row, row, ht] at h
  exact Option.map_eq_none_iff.mp h.symm

theorem Agree.symm (h : Agree columns ids b b') : Agree columns ids b' b where
  columns_eq := h.columns_eq.symm
  row_eq id hid := (h.row_eq id (hid.imp_right Or.symm)).symm
  named id hid t ht := by
    obtain ⟨s, hs, heq⟩ := exists_of_row_eq (h.row_eq id (.inl hid)).symm ht
    rw [Task.column_eq_of_untimed heq]
    exact h.named id hid s hs

/-- A task in one of the columns is on the other board as well. -/
theorem Agree.exists_task (h : Agree columns ids b b') {t : Task} (ht : t ∈ b.tasks)
    (hcolumn : t.column ∈ columns) : ∃ t' ∈ b'.tasks, t.untimed = t'.untimed := by
  have htask : b.task? t.id = some t := task?_eq_some_iff.mpr ⟨ht, rfl⟩
  obtain ⟨t', ht', heq⟩ := exists_of_row_eq (h.row_eq t.id (.inr (.inl ⟨t, htask, hcolumn⟩))) htask
  exact ⟨t', (task?_eq_some_iff.mp ht').1, heq⟩

/-- The columns have the same order on both boards. -/
theorem Agree.order_eq (h : Agree columns ids b b') {column : Int} (hcolumn : column ∈ columns) :
    (b.order column).map Task.untimed = (b'.order column).map Task.untimed := by
  have hsorted : ∀ b : Board, ((b.order column).map Task.untimed).Pairwise Task.Before := fun b =>
    List.pairwise_map.mpr (b.pairwise_before_order column)
  have hsubset : ∀ {b b' : Board}, Agree columns ids b b' →
      ∀ t ∈ (b.order column).map Task.untimed, t ∈ (b'.order column).map Task.untimed := by
    intro b b' h t ht
    obtain ⟨s, hs, rfl⟩ := List.mem_map.mp ht
    obtain ⟨hs, hc⟩ := mem_order.mp hs
    obtain ⟨s', hs', heq⟩ := h.exists_task hs (hc ▸ hcolumn)
    rw [heq]
    exact List.mem_map_of_mem
      (mem_order.mpr ⟨hs', (Task.column_eq_of_untimed heq).symm.trans hc⟩)
  exact eq_of_pairwise_before (hsorted b) (hsorted b') fun t =>
    ⟨hsubset h t, hsubset h.symm t⟩

/-- The tasks of a listed column stand in the same order on both boards, with one of them left out
as well. -/
theorem Agree.orderWithout_eq (h : Agree columns ids b b') {column : Int}
    (hcolumn : column ∈ columns) (task : Int) :
    (b.orderWithout column task).map Task.untimed =
      (b'.orderWithout column task).map Task.untimed := by
  have hfilter : ∀ b : Board, (b.orderWithout column task).map Task.untimed =
      ((b.order column).map Task.untimed).filter fun t => t.id ≠ task := by
    intro b
    rw [Board.orderWithout_eq, List.filter_map]
    rfl
  rw [hfilter, hfilter, h.order_eq hcolumn]

/-! ## Edits of boards that agree -/

/-- The same change of tasks, at two times. -/
theorem Agree.mapTasks (h : Agree columns ids b b') {f f' : Task → Task}
    (hid : ∀ t, (f t).id = t.id) (hid' : ∀ t, (f' t).id = t.id)
    (hcode : ∀ t, (f t).code = t.code) (hcode' : ∀ t, (f' t).code = t.code)
    (heq : ∀ t t', t.untimed = t'.untimed → (f t).untimed = (f' t').untimed)
    (hholds : ∀ t, (f t).column ∈ columns → t.column ∈ columns ∨ t.id ∈ ids)
    (hholds' : ∀ t, (f' t).column ∈ columns → t.column ∈ columns ∨ t.id ∈ ids)
    (hstay : ∀ t, t.column ∈ columns → (f t).column ∈ columns) :
    Agree columns ids (b.mapTasks f hid hcode) (b'.mapTasks f' hid' hcode') := by
  -- what is in the columns after the change was in them before, or is listed
  have hbefore : ∀ {b : Board} {f : Task → Task} {hid : ∀ t, (f t).id = t.id}
      {hcode : ∀ t, (f t).code = t.code} {id : Int},
      (∀ t, (f t).column ∈ columns → t.column ∈ columns ∨ t.id ∈ ids) →
      (b.mapTasks f hid hcode).Holds columns id → id ∈ ids ∨ b.Holds columns id := by
    rintro b f hid hcode id hf ⟨s, hs, hc⟩
    rw [task?_mapTasks] at hs
    obtain ⟨t, ht, rfl⟩ := Option.map_eq_some_iff.mp hs
    rcases hf t hc with htc | htid
    · exact .inr ⟨t, ht, htc⟩
    · exact .inl ((task?_eq_some_iff.mp ht).2 ▸ htid)
  refine ⟨h.columns_eq, fun id hidw => ?_, fun id hid' s hs => ?_⟩
  · have hrow : b.row id = b'.row id := by
      apply h.row_eq
      rcases hidw with hmem | hw | hw
      · exact .inl hmem
      · exact (hbefore hholds hw).imp_right .inl
      · exact (hbefore hholds' hw).imp_right .inr
    rw [row, row, task?_mapTasks, task?_mapTasks]
    cases ht : b.task? id with
    | none =>
      rw [none_of_row_eq hrow ht]
      rfl
    | some t =>
      obtain ⟨t', ht', huntimed⟩ := exists_of_row_eq hrow ht
      rw [ht']
      exact congrArg some (heq t t' huntimed)
  · rw [task?_mapTasks] at hs
    obtain ⟨t, ht, rfl⟩ := Option.map_eq_some_iff.mp hs
    exact hstay t (h.named id hid' t ht)

/-- Boards still agree when the same task is put at the same place on each of them, be it at
different times. The task and its column are listed, so nothing comes into view that differs. -/
theorem Agree.putTask (h : Agree columns ids b b') {id column : Int} (hid : id ∈ ids)
    (hcolumn : column ∈ columns) (position : Int) (now now' : Timestamp) :
    Agree columns ids (b.putTask id column position now) (b'.putTask id column position now') := by
  -- a task that stands in a listed column afterwards stood there before, or is listed itself
  have hholds : ∀ (now : Timestamp) (t : Task),
      (if t.id = id then t.put column position now else t).column ∈ columns →
        t.column ∈ columns ∨ t.id ∈ ids := by
    intro now t hc
    split at hc
    · next heq => exact .inr (heq ▸ hid)
    · exact .inl hc
  refine h.mapTasks _ _ _ _ ?_ (hholds now) (hholds now') ?_
  · intro t t' heq
    rw [← Task.id_eq_of_untimed heq]
    split
    · rw [Task.untimed_put, Task.untimed_put, heq]
    · exact heq
  · intro t ht
    split
    · rw [Task.put_column]
      exact hcolumn
    · exact ht

/-- Boards still agree when the same targets are written on each of them. -/
theorem Agree.reposition (h : Agree columns ids b b') (targets : List (Int × Int))
    (now now' : Timestamp) :
    Agree columns ids (b.reposition targets now) (b'.reposition targets now') := by
  refine h.mapTasks _ _ _ _ ?_ ?_ ?_ ?_
  · intro t t' heq
    rw [Task.untimed_retarget, Task.untimed_retarget, heq, Task.id_eq_of_untimed heq,
      Task.position_eq_of_untimed heq]
  · intro t hc
    rw [retarget_column] at hc
    exact .inl hc
  · intro t hc
    rw [retarget_column] at hc
    exact .inl hc
  · intro t hc
    rwa [retarget_column]

/-- Boards still agree when the same task is removed from each of them. -/
theorem Agree.removeTask (h : Agree columns ids b b') (id : Int) :
    Agree columns ids (b.removeTask id) (b'.removeTask id) := by
  refine ⟨h.columns_eq, fun i hi => ?_, fun i hi t ht => ?_⟩
  · simp only [row, Holds, task?_removeTask] at hi ⊢
    split
    · rfl
    · next hne =>
      simp only [if_neg hne] at hi
      exact h.row_eq i hi
  · rw [task?_removeTask] at ht
    split at ht
    · cases ht
    · exact h.named i hi t ht

end Board

/-! ## Work that does the same on boards that agree -/

namespace Work

variable {α β : Type} {A : Board → Board → Prop}

/-- Two pieces of work end alike: with related results and related boards, or with the same
failure. -/
inductive Ends (A : Board → Board → Prop) (R : α → α → Prop) :
    Except Failure α × Board → Except Failure α × Board → Prop where
  | ok {x x' : α} {b b' : Board} (hresult : R x x') (hboard : A b b') :
      Ends A R (.ok x, b) (.ok x', b')
  | error (f : Failure) (b b' : Board) : Ends A R (.error f, b) (.error f, b')

/-- A view of the results that relates them is the same on both sides. -/
theorem Ends.map_eq {f : α → β} {p p' : Except Failure α × Board}
    (h : Ends A (fun x x' => f x = f x') p p') : p.1.map f = p'.1.map f := by
  cases h with
  | ok hresult hboard => exact congrArg Except.ok hresult
  | error => rfl

/-- Units of work that end alike leave related boards, also when they fail. -/
theorem Ends.rel_of_transaction {R : α → α → Prop} {w w' : Work α} {c c' : Conditions}
    {b b' : Board} (h : Ends A R (transaction w c b) (transaction w' c' b')) (hA : A b b') :
    A (transaction w c b).2 (transaction w' c' b').2 := by
  rcases hw : transaction w c b with ⟨f | x, b₁⟩
  all_goals rcases hw' : transaction w' c' b' with ⟨f' | x', b₁'⟩
  all_goals rw [hw, hw'] at h
  · rw [transaction_of_error hw, transaction_of_error hw']
    exact hA
  · cases h
  · cases h
  · cases h with
    | ok hresult hboard => exact hboard

/-- On related boards, two pieces of work end alike, whenever each of them is done. The database
works. -/
def Alike (A : Board → Board → Prop) (R : α → α → Prop) (w w' : Work α) : Prop :=
  ∀ now now' b b', A b b' → Ends A R (w ⟨now, none⟩ b) (w' ⟨now', none⟩ b')

namespace Alike

variable {R : α → α → Prop} {Q : β → β → Prop}

theorem pure {x x' : α} (h : R x x') : Alike A R (pure x) (pure x') :=
  fun _ _ _ _ hA => .ok h hA

theorem fail (f : Failure) : Alike A R (fail f : Work α) (fail f) := fun _ _ b b' _ => .error f b b'

/-- Pieces of work that end alike go on alike, if what comes next does so on related results. -/
theorem bind {w w' : Work α} {f f' : α → Work β} (hw : Alike A R w w')
    (hf : ∀ x x', R x x' → Alike A Q (f x) (f' x')) : Alike A Q (w >>= f) (w' >>= f') := by
  intro now now' b b' hA
  have hfirst := hw now now' b b' hA
  rw [bind_apply, bind_apply]
  rcases hw : w ⟨now, none⟩ b with ⟨e | x, b₁⟩
  all_goals rcases hw' : w' ⟨now', none⟩ b' with ⟨e' | x', b₁'⟩
  all_goals rw [hw, hw'] at hfirst
  · cases hfirst
    exact .error _ _ _
  · cases hfirst
  · cases hfirst
  · cases hfirst with
    -- a database that works still works after the first part
    | ok hresult hboard => exact hf x x' hresult now now' b₁ b₁' hboard

theorem map {w w' : Work α} {f f' : α → β} (hw : Alike A R w w')
    (hf : ∀ x x', R x x' → Q (f x) (f' x')) : Alike A Q (f <$> w) (f' <$> w') := by
  rw [map_eq_pure_bind, map_eq_pure_bind]
  exact hw.bind fun x x' h => .pure (hf x x' h)

theorem guard (access : Access) : Alike A (fun _ _ => True) (guard access) (guard access) :=
  fun _ _ _ _ hA => .ok trivial hA

/-- Queries with related answers. -/
theorem query {f f' : Board → Except Failure α}
    (h : ∀ b b', A b b' → Ends A R (f b, b) (f' b', b')) : Alike A R (query f) (query f') :=
  fun _ _ b b' hA => h b b' hA

/-- What a query has found holds for the work that follows it. -/
theorem query_bind {f : Board → Except Failure α} {g : α → Work β}
    (h : ∀ b b', A b b' → f b = f b')
    (hg : ∀ now now' b b' x, A b b' → f b = .ok x →
      Ends A Q (g x ⟨now, none⟩ b) (g x ⟨now', none⟩ b')) :
    Alike A Q (Work.query f >>= g) (Work.query f >>= g) := by
  intro now now' b b' hA
  rw [bind_apply, bind_apply, query_of_working, query_of_working, ← h b b' hA]
  cases hf : f b with
  | error e => exact .error e b b'
  | ok x => exact hg now now' b b' x hA hf

/-- A unit of work ends like its work, and leaves the board alone when it fails. -/
theorem transaction {w w' : Work α} (h : Alike A R w w') :
    Alike A R (transaction w) (transaction w') := by
  intro now now' b b' hA
  have hends := h now now' b b' hA
  -- the database works, so what was done is kept on both sides
  have hnone : (⟨now, none⟩ : Conditions).refusal? .commit = none := rfl
  have hnone' : (⟨now', none⟩ : Conditions).refusal? .commit = none := rfl
  rcases hw : w ⟨now, none⟩ b with ⟨e | x, b₁⟩
  all_goals rcases hw' : w' ⟨now', none⟩ b' with ⟨e' | x', b₁'⟩
  all_goals rw [hw, hw'] at hends
  · cases hends
    rw [transaction_eq_error.mpr ⟨⟨e, .inl ⟨b₁, hw⟩, rfl⟩, rfl⟩,
      transaction_eq_error.mpr ⟨⟨e, .inl ⟨b₁', hw'⟩, rfl⟩, rfl⟩]
    exact .error _ _ _
  · cases hends
  · cases hends
  · rw [transaction_eq_ok.mpr ⟨hw, hnone⟩, transaction_eq_ok.mpr ⟨hw', hnone'⟩]
    exact hends

end Alike

end Work

/-! ## The store -/

/-- Two tasks are the same but for the times of updates, and in one of the listed columns. -/
def SameTask (columns : List Int) (t t' : Task) : Prop :=
  t.untimed = t'.untimed ∧ t.column ∈ columns

def SameTasks (l l' : List Task) : Prop := l.map Task.untimed = l'.map Task.untimed

theorem SameTasks.entries_eq {l l' : List Task} (h : SameTasks l l') :
    l.map Task.entry = l'.map Task.entry := by
  have hentry : ∀ l : List Task, l.map Task.entry = (l.map Task.untimed).map Task.entry := by
    simp
  rw [hentry, hentry l', h]

theorem SameTasks.positions_eq {l l' : List Task} (h : SameTasks l l') :
    l.map Task.position = l'.map Task.position := by
  have hposition : ∀ l : List Task,
      l.map Task.position = (l.map Task.untimed).map Task.position := by
    simp
  rw [hposition, hposition l', h]

namespace Store

theorem misplaced_eq {l l' : List Task} (h : SameTasks l l') (gap : Int) :
    misplaced l gap = misplaced l' gap := by
  have huntimed : ∀ l : List Task, misplaced l gap = misplaced (l.map Task.untimed) gap := by
    intro l
    simp only [misplaced, List.zipIdx_map, List.filter_map, List.map_map]
    rfl
  rw [huntimed, huntimed l', h]

variable {columns ids : List Int}

/-- The columns are the same on both boards, so a column is there on both of them or on neither. -/
theorem alike_lockColumn (id : Int) :
    Alike (Board.Agree columns ids) Eq (lockColumn id) (lockColumn id) := by
  refine .query fun b b' h => ?_
  have heq : columnIn id b = columnIn id b' := by
    simp only [columnIn, Board.column?, h.columns_eq]
  rw [← heq]
  cases columnIn id b with
  | error f => exact .error f b b'
  | ok c => exact .ok rfl h

/-- A listed task is found on both boards or on neither, and in a listed column. -/
theorem alike_task? {id : Int} (hid : id ∈ ids) :
    Alike (Board.Agree columns ids) (Option.Rel (SameTask columns)) (task? id) (task? id) := by
  refine .query fun b b' h => ?_
  cases hfits : Stored.integer id with
  | error f => exact .error f b b'
  | ok n =>
    obtain ⟨-, rfl⟩ := Stored.integer_eq_ok hfits
    -- the row under a listed id is the same on both boards
    have hrow := h.row_eq n (.inl hid)
    refine .ok ?_ h
    cases ht : b.task? n with
    | none =>
      rw [Board.none_of_row_eq hrow ht]
      exact .none
    | some t =>
      obtain ⟨t', ht', heq⟩ := Board.exists_of_row_eq hrow ht
      rw [ht']
      exact .some ⟨heq, h.named n hid t ht⟩

theorem alike_task {id : Int} (hid : id ∈ ids) :
    Alike (Board.Agree columns ids) (SameTask columns) (task id) (task id) := by
  refine (alike_task? hid).bind ?_
  rintro _ _ (⟨h⟩ | _)
  · exact .pure h
  · exact .fail _

theorem alike_order {column : Int} (hcolumn : column ∈ columns) :
    Alike (Board.Agree columns ids) SameTasks (order column) (order column) := by
  refine .query fun b b' h => ?_
  cases hfits : Stored.integer column with
  | error f => exact .error f b b'
  | ok n =>
    obtain ⟨-, rfl⟩ := Stored.integer_eq_ok hfits
    exact .ok (h.order_eq hcolumn) h

/-- A listed column is read alike, whichever of its tasks is left out. -/
theorem alike_orderWithout {column : Int} (hcolumn : column ∈ columns) (task : Int) :
    Alike (Board.Agree columns ids) SameTasks (orderWithout column task)
      (orderWithout column task) := by
  refine .query fun b b' h => ?_
  cases hfits : Stored.integer column with
  | error f => exact .error f b b'
  | ok n =>
    cases hfits' : Stored.integer task with
    | error f => exact .error f b b'
    | ok m =>
      obtain ⟨-, rfl⟩ := Stored.integer_eq_ok hfits
      obtain ⟨-, rfl⟩ := Stored.integer_eq_ok hfits'
      exact .ok (h.orderWithout_eq hcolumn m) h

theorem alike_removeTask (id : Int) :
    Alike (Board.Agree columns ids) Eq (removeTask id) (removeTask id) :=
  fun _ _ _ _ h => .ok rfl (h.removeTask id)

/-- Whether a task can be put at a position does not depend on when it was last updated. -/
theorem storable_congr {t t' : Task} (h : t.untimed = t'.untimed) (column position : Int) :
    Storable t column position ↔ Storable t' column position := by
  rw [Storable, Storable, Task.column_eq_of_untimed h, Task.position_eq_of_untimed h]

/-- A listed task is put into a listed column alike: it is missing on both boards, refused on both,
or written on both. -/
theorem alike_writePosition {id column : Int} (hid : id ∈ ids) (hcolumn : column ∈ columns)
    (position : Int) :
    Alike (Board.Agree columns ids) (fun _ _ => True) (writePosition id column position)
      (writePosition id column position) := by
  intro now now' b b' h
  have hrow := h.row_eq id (.inl hid)
  cases ht : b.task? id with
  | none =>
    have ht' := Board.none_of_row_eq hrow ht
    simp only [writePosition, flush_of_working, write_apply, ht, ht']
    exact .error _ b b'
  | some t =>
    obtain ⟨t', ht', heq⟩ := Board.exists_of_row_eq hrow ht
    rw [writePosition_of_some ht, writePosition_of_some ht']
    -- what fits does not depend on when the task was updated
    by_cases hstorable : Storable t column position
    · rw [if_pos hstorable, if_pos ((storable_congr heq column position).mp hstorable)]
      exact .ok trivial (h.putTask hid hcolumn position now now')
    · rw [if_neg hstorable, if_neg (mt (storable_congr heq column position).mpr hstorable)]
      exact .error _ b b'

/-- The same tasks are missing in a column. -/
theorem firstMissing?_congr {b b' : Board} (h : Board.Agree columns ids b b') {column : Int}
    (hcolumn : column ∈ columns) (targets : List (Int × Int)) :
    firstMissing? b column targets = firstMissing? b' column targets := by
  have hids : (b.order column).map Task.id = (b'.order column).map Task.id := by
    have horder := congrArg (List.map Task.id) (h.order_eq hcolumn)
    simpa [Function.comp_def] using horder
  have hany : ∀ (b : Board) (id : Int),
      (b.tasks.any fun t => t.column = column && t.id = id) =
        decide (id ∈ (b.order column).map Task.id) := by
    intro b id
    rw [Bool.eq_iff_iff]
    simp [and_assoc]
  simp only [firstMissing?, hany, hids]

/-- What is to be put at new positions fits on both boards, or on neither. -/
theorem allStorable_of_agree {b b' : Board} (h : Board.Agree columns ids b b') {column : Int}
    (hcolumn : column ∈ columns) {targets : List (Int × Int)}
    (hnamed : firstMissing? b column targets = none) (hstorable : AllStorable b' targets) :
    AllStorable b targets := by
  intro t ht position hposition
  -- a task with a target stands in the column, so it is on the other board as well
  have hmem : t.id ∈ targets.map Prod.fst := by
    by_contra hnot
    rw [lookup_eq_none_of_not_mem hnot] at hposition
    cases hposition
  obtain ⟨s, hs, hid⟩ := firstMissing?_eq_none_iff.mp hnamed t.id hmem
  obtain ⟨hs, hc⟩ := Board.mem_order.mp hs
  obtain rfl := Board.eq_of_id_eq hs ht hid
  obtain ⟨t', ht', heq⟩ := h.exists_task ht (hc ▸ hcolumn)
  rw [Task.id_eq_of_untimed heq] at hposition
  rw [Task.column_eq_of_untimed heq, storable_congr heq]
  exact hstorable t' ht' position hposition

/-- Targets in a listed column are written alike, since the first one that is missing and the first
one that does not fit are read off that column. -/
theorem alike_writePositions {column : Int} (hcolumn : column ∈ columns)
    (targets : List (Int × Int)) :
    Alike (Board.Agree columns ids) Eq (writePositions column targets)
      (writePositions column targets) := by
  unfold writePositions
  split
  · exact .pure rfl
  · refine .query_bind ?_ ?_
    · intro b b' h
      cases hfits : Stored.integer column with
      | error f => rfl
      | ok n =>
        obtain ⟨-, rfl⟩ := Stored.integer_eq_ok hfits
        simp only [bind, Except.bind, firstMissing?_congr h hcolumn targets]
    · intro now now' b b' _ h hfound
      obtain ⟨n, hfits, h₁⟩ := except_bind_eq_ok.mp hfound
      obtain ⟨-, rfl⟩ := Stored.integer_eq_ok hfits
      obtain ⟨_, -, h₂⟩ := except_bind_eq_ok.mp h₁
      -- no target is missing on the one board, and so none on the other
      have hnamed : firstMissing? b n targets = none := by
        split at h₂
        · cases h₂
        · assumption
      have hnamed' : firstMissing? b' n targets = none :=
        firstMissing?_congr h hcolumn targets ▸ hnamed
      rw [flush_of_working, flush_of_working]
      by_cases hstorable : AllStorable b targets
      · have hstorable' := allStorable_of_agree h.symm hcolumn hnamed' hstorable
        simp only [write_apply, if_pos hstorable, if_pos hstorable']
        exact .ok rfl (h.reposition targets now now')
      · have hstorable' := mt (allStorable_of_agree h hcolumn hnamed) hstorable
        simp only [write_apply, if_neg hstorable, if_neg hstorable']
        exact .error _ b b'

/-- A listed column is renumbered alike: what is misplaced there depends on ids and positions alone.
-/
theorem alike_rebalance {column : Int} (hcolumn : column ∈ columns) (gap : Int) :
    Alike (Board.Agree columns ids) Eq (rebalance column gap) (rebalance column gap) := by
  refine (alike_order hcolumn).bind fun l l' hl => ?_
  rw [misplaced_eq hl]
  exact (alike_writePositions hcolumn _).bind fun _ _ _ => .pure rfl

end Store

/-! ## The operations -/

def Outcome.untimed : Outcome → Outcome
  | .created t => .created t.untimed
  | .moved m => .moved ⟨m.task.untimed, m.rebalanced⟩
  | o => o

namespace Operation

variable {columns ids : List Int} {spacing : Spacing}

theorem alike_renumber {column : Int} (hcolumn : column ∈ columns) (gap : Int) :
    Alike (Board.Agree columns ids) (fun _ _ => True) (renumber column gap)
      (renumber column gap) :=
  (Alike.guard .rebalance).bind fun _ _ _ =>
    (Store.alike_rebalance hcolumn gap).bind fun _ _ _ => .pure trivial

/-- A listed column is crowded on both boards or on neither. -/
theorem alike_renumberIfCrowded {column : Int} (hcolumn : column ∈ columns) :
    Alike (Board.Agree columns ids) Eq (renumberIfCrowded spacing column)
      (renumberIfCrowded spacing column) := by
  refine (Store.alike_order hcolumn).bind fun l l' hl => ?_
  rw [hl.positions_eq]
  split
  · exact (alike_renumber hcolumn spacing.gap).bind fun _ _ _ => .pure rfl
  · exact .pure rfl

/-- The position next to a reference is computed from the entries of a listed column. -/
theorem alike_besideIn {column : Int} (hcolumn : column ∈ columns) (task reference : Int)
    (after : Bool) (gap : Int) :
    Alike (Board.Agree columns ids) Eq (besideIn column task reference after gap)
      (besideIn column task reference after gap) := by
  refine (Store.alike_orderWithout hcolumn task).bind fun l l' hl => ?_
  rw [hl.entries_eq]
  exact .pure rfl

theorem alike_beside {column : Int} (hcolumn : column ∈ columns) (task reference : Int)
    (after : Bool) (gap : Int) :
    Alike (Board.Agree columns ids) Eq (beside column task reference after gap)
      (beside column task reference after gap) := by
  refine (alike_besideIn hcolumn task reference after gap).bind ?_
  rintro place _ rfl
  split
  · exact .pure rfl
  · exact .pure rfl
  · refine (alike_renumber hcolumn gap).bind fun _ _ _ => ?_
    refine (alike_besideIn hcolumn task reference after gap).bind ?_
    rintro place _ rfl
    split
    · exact .pure rfl
    · exact .pure rfl
    · exact .fail _

/-- A move lands alike in a listed column, with or without room made for it. -/
theorem alike_landing {column : Int} (hcolumn : column ∈ columns) (r : MoveRequest) :
    Alike (Board.Agree columns ids) Eq (landing spacing column r) (landing spacing column r) := by
  unfold landing
  split
  · exact .pure rfl
  · refine .bind (R := Eq) ?_ (by rintro p _ rfl; exact .pure rfl)
    refine (Store.alike_orderWithout hcolumn r.task).bind fun l l' hl => ?_
    rw [hl.entries_eq]
    exact .pure rfl
  · refine (alike_beside hcolumn r.task _ r.after spacing.gap).bind ?_
    rintro place _ rfl
    split
    · exact .pure rfl
    · exact .pure rfl
    · exact .fail _

/-- Related tasks go to the same column, and it is listed. The reference is looked for only where no
column is named, so it need not be listed otherwise. -/
theorem alike_destination {t t' : Task} (ht : SameTask columns t t') {r : MoveRequest}
    (hcolumn : ∀ column ∈ r.column, column ∈ columns)
    (hreference : r.column = none → ∀ reference ∈ r.reference, reference ∈ ids) :
    Alike (Board.Agree columns ids) (fun d d' => d = d' ∧ d ∈ columns) (destination t r)
      (destination t' r) := by
  obtain ⟨heq, hc⟩ := ht
  have hown : t.column = t'.column ∧ t.column ∈ columns := ⟨Task.column_eq_of_untimed heq, hc⟩
  obtain ⟨task, column, reference, after, position⟩ := r
  rcases column with _ | column
  · rcases reference with _ | reference
    · exact .pure hown
    · refine (Store.alike_task? (hreference rfl reference rfl)).bind ?_
      rintro _ _ (⟨hu, huc⟩ | _)
      · exact .pure ⟨Task.column_eq_of_untimed hu, huc⟩
      · exact .pure hown
  · exact .pure ⟨rfl, hcolumn column rfl⟩

/-- A move ends alike if what it looks at is listed: its task, the column that it names, and its
reference where it names none. -/
theorem alike_relocation {r : MoveRequest} (htask : r.task ∈ ids)
    (hcolumn : ∀ column ∈ r.column, column ∈ columns)
    (hreference : r.column = none → ∀ reference ∈ r.reference, reference ∈ ids) :
    Alike (Board.Agree columns ids)
      (fun m m' => (Outcome.moved m).untimed = (Outcome.moved m').untimed)
      (relocation spacing r) (relocation spacing r) := by
  refine (Store.alike_task htask).bind fun t t' ht => ?_
  refine (alike_destination ht hcolumn hreference).bind ?_
  rintro column _ ⟨rfl, hdestination⟩
  refine (Store.alike_lockColumn column).bind fun _ _ _ => ?_
  refine (alike_landing hdestination r).bind ?_
  rintro ⟨position, cleared⟩ _ rfl
  refine (Store.alike_writePosition htask hdestination position).bind fun _ _ _ => ?_
  refine (alike_renumberIfCrowded hdestination).bind ?_
  rintro crowded _ rfl
  refine (Store.alike_task htask).bind fun u u' hu => .pure ?_
  simp only [Outcome.untimed, hu.1]

/-- A batch ends alike if its column is listed. Tasks of other columns that it names are missing on
both boards. -/
theorem alike_placement {r : BatchRequest} (hcolumn : r.column ∈ columns) :
    Alike (Board.Agree columns ids) Eq (placement spacing r) (placement spacing r) := by
  refine (Store.alike_lockColumn r.column).bind fun _ _ _ => ?_
  refine (Store.alike_writePositions hcolumn r.targets).bind fun _ _ _ => ?_
  refine (alike_renumberIfCrowded hcolumn).bind ?_
  rintro crowded _ rfl
  exact .pure rfl

theorem alike_deletion {task : Int} (htask : task ∈ ids) :
    Alike (Board.Agree columns ids) Eq (deletion task) (deletion task) := by
  refine (Store.alike_task htask).bind fun t t' ht => ?_
  rw [Task.id_eq_of_untimed ht.1]
  exact Store.alike_removeTask t'.id

/-- What a request looks at is listed: the columns that it works on, and the tasks that it names
while it looks for its column. The new task of a creation gets an id that depends on all tasks, so
nothing that can be listed suffices for it. -/
def Request.Covered (columns ids : List Int) : Request → Prop
  | .create _ => False
  | .move r => r.task ∈ ids ∧ (∀ column ∈ r.column, column ∈ columns) ∧
      (r.column = none → ∀ reference ∈ r.reference, reference ∈ ids)
  | .batch r => r.column ∈ columns
  | .delete task => task ∈ ids

/-- A request has the same outcome on boards that agree on what it looks at, and leaves boards that
agree on it. -/
theorem Request.alike_perform {q : Request} (h : q.Covered columns ids) (spacing : Spacing)
    (code : String) :
    Alike (Board.Agree columns ids) (fun o o' => o.untimed = o'.untimed) (q.perform spacing code)
      (q.perform spacing code) := by
  refine .transaction ?_
  cases q with
  | create r => exact h.elim
  | move r =>
    obtain ⟨htask, hcolumn, hreference⟩ := h
    exact (alike_relocation htask hcolumn hreference).map fun _ _ hm => hm
  | batch r => exact (alike_placement h).map fun _ _ hp => by rw [hp]
  | delete task => exact (alike_deletion h).map fun _ _ _ => rfl

end Operation

end Kanban
