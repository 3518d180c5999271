import Kanban.Proofs.Service
import Mathlib

/-!
# Writes are confined

A client keeps the positions that it knows for as long as it is not told that a column was renumbered.
So an operation may write to no row but those that it names, unless it says that it renumbered its
column, and then to no row outside that column. `Board.Rows` compares two boards row by row, and
`Operation.Request.Confined` says for each operation which rows may differ, and in which fields.
-/

namespace Kanban

open Work

/-! ## Rows that were written -/

namespace Task

/-- A row after its position was written: nothing but the position and the time of the update
differs. -/
def Shifted (s t : Task) : Prop :=
  t = { s with position := t.position, updatedAt := t.updatedAt }

/-- A row after its task was put into a column: nothing but the column, the position and the time of
the update differs. -/
def MovedTo (column : Int) (s t : Task) : Prop :=
  t = { s with column := column, position := t.position, updatedAt := t.updatedAt }

theorem shifted_iff {s t : Task} :
    s.Shifted t ↔ t.id = s.id ∧ t.card = s.card ∧ t.column = s.column ∧
      t.createdAt = s.createdAt := by
  cases s
  cases t
  simp [Shifted]

theorem movedTo_iff {column : Int} {s t : Task} :
    s.MovedTo column t ↔ t.id = s.id ∧ t.card = s.card ∧ t.column = column ∧
      t.createdAt = s.createdAt := by
  cases s
  cases t
  simp [MovedTo]

@[simp] theorem put_createdAt (t : Task) (column position : Int) (now : Timestamp) :
    (t.put column position now).createdAt = t.createdAt := by
  unfold put
  split <;> rfl

theorem movedTo_put (t : Task) (column position : Int) (now : Timestamp) :
    t.MovedTo column (t.put column position now) := by
  simp [movedTo_iff]

theorem shifted_retarget (targets : List (Int × Int)) (now : Timestamp) (t : Task) :
    t.Shifted (Board.retarget targets now t) := by
  rw [shifted_iff]
  unfold Board.retarget
  split <;> simp

end Task

/-! ## Boards row by row -/

namespace Board

/-- Under each id, two boards have related rows, or neither of them has one. -/
def Rows (R : Task → Task → Prop) (b b' : Board) : Prop :=
  ∀ id, Option.Rel R (b.task? id) (b'.task? id)

variable {R S T : Task → Task → Prop} {b b₁ b' : Board}

/-- An edit of the rows one by one is seen under each id. -/
theorem Rows.mapTasks {f : Task → Task} (hid : ∀ t, (f t).id = t.id)
    (hcode : ∀ t, (f t).code = t.code) (h : ∀ t ∈ b.tasks, R t (f t)) :
    Rows R b (b.mapTasks f hid hcode) := by
  intro id
  rw [task?_mapTasks]
  cases ht : b.task? id with
  | none => exact .none
  | some t => exact .some (h t (task?_eq_some_iff.mp ht).1)

theorem Rows.refl (h : ∀ t, R t t) (b : Board) : Rows R b b := by
  intro id
  cases b.task? id with
  | none => exact .none
  | some t => exact .some (h t)

/-- Rows that are related in two steps are related over both. -/
theorem Rows.trans (hR : Rows R b b₁) (hS : Rows S b₁ b')
    (h : ∀ s t u, R s t → S t u → T s u) : Rows T b b' := by
  have hoption : ∀ {x y z : Option Task}, Option.Rel R x y → Option.Rel S y z →
      Option.Rel T x z := by
    rintro x y z (hst | _) (htu | _)
    · exact .some (h _ _ _ hst htu)
    · exact .none
  exact fun id => hoption (hR id) (hS id)

/-! ## The rows of an edit -/

/-- Putting a task writes to the row of that task alone. -/
theorem rows_putTask (b : Board) (id column position : Int) (now : Timestamp) :
    Rows (fun s t => if s.id = id then s.MovedTo column t else t = s) b
      (b.putTask id column position now) := by
  refine Rows.mapTasks _ _ fun t _ => ?_
  by_cases hid : t.id = id
  · simp only [if_pos hid]
    exact t.movedTo_put column position now
  · simp only [if_neg hid]

/-- Writing targets writes to the listed rows alone. -/
theorem rows_reposition (b : Board) (targets : List (Int × Int)) (now : Timestamp) :
    Rows (fun s t => if s.id ∈ targets.map Prod.fst then s.Shifted t else t = s) b
      (b.reposition targets now) := by
  refine Rows.mapTasks _ _ fun t _ => ?_
  by_cases hid : t.id ∈ targets.map Prod.fst
  · simp only [if_pos hid]
    exact t.shifted_retarget targets now
  · simp only [if_neg hid, retarget, lookup_eq_none_of_not_mem hid]

/-- Renumbering a column writes to its rows alone. -/
theorem rows_renumbered (b : Board) (column gap : Int) (now : Timestamp) :
    Rows (fun s t => if s.column = column then s.Shifted t else t = s) b
      (b.renumbered column gap now) := by
  refine Rows.mapTasks (retarget_id _ now) (retarget_code _ now) fun t ht => ?_
  by_cases hc : t.column = column
  · simp only [if_pos hc]
    exact t.shifted_retarget _ now
  · -- what is renumbered stands in the column, and ids are distinct
    have hid : t.id ∉ (Store.misplaced (b.order column) gap).map Prod.fst := by
      intro hmem
      obtain ⟨s, hs, hst⟩ := List.mem_map.mp ((misplaced_ids_sublist _ gap).subset hmem)
      obtain ⟨hs, hsc⟩ := mem_order.mp hs
      exact hc (eq_of_id_eq hs ht hst ▸ hsc)
    simp only [if_neg hc, retarget, lookup_eq_none_of_not_mem hid]

/-- Watching a column writes to rows only if the column is crowded, and then only to its own. -/
theorem rows_eased (b : Board) (spacing : Spacing) (column : Int) (now : Timestamp) :
    Rows (fun s t =>
        if Spacing.isCrowded (b.positions column) spacing.threshold = true ∧ s.column = column then
          s.Shifted t
        else t = s) b
      (b.eased spacing column now) := by
  unfold eased
  split
  · next hcrowded => simpa [hcrowded] using b.rows_renumbered column spacing.gap now
  · next hcrowded => exact Rows.refl (fun t => by simp [hcrowded]) b

@[simp] theorem columns_eased (b : Board) (spacing : Spacing) (column : Int) (now : Timestamp) :
    (b.eased spacing column now).columns = b.columns := by
  unfold eased
  split <;> rfl

end Board

/-! ## The rows of an operation -/

namespace Operation

variable {c : Conditions} {b b' : Board} {spacing : Spacing} {code : String}

/-- The rows to which an operation with an outcome may have written. -/
def Request.Confined (b b' : Board) : Request → Outcome → Prop
  -- the new row appears, and no other one differs
  | .create _, .created t =>
    b.task? t.id = none ∧ ∀ id, b'.task? id = if id = t.id then some t else b.task? id
  -- the row of the moved task, and those of its new column if they were renumbered
  | .move r, .moved m =>
    ∃ t, b.task? r.task = some t ∧ b'.task? r.task = some m.task ∧
      b.Rows (fun s s' =>
        if s.id = r.task then s.MovedTo (b.destination t r) s'
        else if m.rebalanced = true ∧ s.column = b.destination t r then s.Shifted s'
        else s' = s) b'
  -- the rows of the listed tasks, and the others of the column if they were renumbered
  | .batch r, .placed p =>
    b.Rows (fun s s' =>
      if s.id ∈ r.targets.map Prod.fst ∨ (p.rebalanced = true ∧ s.column = r.column) then
        s.Shifted s'
      else s' = s) b'
  -- the deleted row is gone, and no other one differs
  | .delete task, .deleted => ∀ id, b'.task? id = if id = task then none else b.task? id
  | _, _ => False

/-- Finding a place writes to rows only if room was made, and then only to rows of the destination.
-/
theorem Lands.rows {now : Timestamp} {column p : Int} {r : MoveRequest} {cleared : Bool}
    {b₁ : Board} (h : Lands spacing now b column r p cleared b₁) :
    b.Rows (fun s t => if cleared = true ∧ s.column = column then s.Shifted t else t = s) b₁ := by
  cases h with
  | explicit | last | beside | fallback => exact Board.Rows.refl (fun t => by simp) b
  | cleared => simpa using b.rows_renumbered column spacing.gap now

theorem Lands.columns_eq {now : Timestamp} {column p : Int} {r : MoveRequest} {cleared : Bool}
    {b₁ : Board} (h : Lands spacing now b column r p cleared b₁) : b₁.columns = b.columns := by
  rcases h.board_eq with rfl | rfl <;> rfl

theorem confined_of_creation {r : NewTask} {t : Task}
    (h : creation spacing code r c b = (.ok t, b')) :
    b'.columns = b.columns ∧ (Request.create r).Confined b b' (.created t) := by
  obtain ⟨-, card, hcode, rfl, rfl⟩ := creation_eq_ok h
  -- the new id is larger than every id in use
  have hnew : b.task? b.nextTaskId = none := by
    rw [Board.task?, List.find?_eq_none]
    intro t ht hid
    have hmem := List.mem_map_of_mem (f := Task.id) ht
    rw [of_decide_eq_true hid] at hmem
    exact nextId_not_mem _ hmem
  refine ⟨rfl, hnew, fun id => ?_⟩
  rw [Board.task?, Board.tasks_addTask, List.find?_append, ← Board.task?]
  split
  · next hid =>
    change id = b.nextTaskId at hid
    subst hid
    simp [hnew, Board.newTask]
  · next hid =>
    have hne : b.nextTaskId ≠ id := fun heq => hid heq.symm
    simp [Board.newTask, hne]

theorem confined_of_deletion {task : Int} {x : Unit} (h : deletion task c b = (.ok x, b')) :
    b'.columns = b.columns ∧ (Request.delete task).Confined b b' .deleted := by
  obtain ⟨-, rfl⟩ := deletion_eq_ok h
  exact ⟨rfl, b.task?_removeTask task⟩

theorem confined_of_placement {r : BatchRequest} {p : Placed}
    (h : placement spacing r c b = (.ok p, b')) :
    b'.columns = b.columns ∧ (Request.batch r).Confined b b' (.placed p) := by
  obtain ⟨-, -, rfl, rfl⟩ := placement_eq_ok h
  refine ⟨by simp, ?_⟩
  refine (b.rows_reposition r.targets c.now).trans (Board.rows_eased _ spacing r.column c.now) ?_
  intro s t u hst htu
  grind [Task.shifted_iff]

theorem confined_of_relocation {r : MoveRequest} {m : Moved}
    (h : relocation spacing r c b = (.ok m, b')) :
    b'.columns = b.columns ∧ (Request.move r).Confined b b' (.moved m) := by
  obtain ⟨t, p, cleared, b₁, ht, -, hlands, rfl, hm, hrebalanced⟩ := relocation_eq_ok h
  refine ⟨by simp [hlands.columns_eq], t, ht, hm, ?_⟩
  -- three edits one after another: making room, the move itself, and easing the column
  have hmoved : b.Rows (fun s s' =>
      if s.id = r.task then s.MovedTo (b.destination t r) s'
      else if cleared = true ∧ s.column = b.destination t r then s.Shifted s'
      else s' = s) (b₁.putTask r.task (b.destination t r) p c.now) := by
    refine hlands.rows.trans (b₁.rows_putTask r.task (b.destination t r) p c.now) ?_
    intro s u v hsu huv
    grind [Task.shifted_iff, Task.movedTo_iff]
  refine hmoved.trans (Board.rows_eased _ spacing (b.destination t r) c.now) ?_
  intro s u v hsu huv
  grind [Task.shifted_iff, Task.movedTo_iff]

/-- An operation that has succeeded has written to the rows that it may write to, and to no
column. -/
theorem Request.confined {q : Request} {o : Outcome}
    (h : q.perform spacing code c b = (.ok o, b')) :
    b'.columns = b.columns ∧ q.Confined b b' o := by
  obtain ⟨hwork, -⟩ := transaction_eq_ok.mp h
  cases q with
  | create r =>
    obtain ⟨t, hcreation, rfl⟩ := map_eq_ok.mp hwork
    exact confined_of_creation hcreation
  | move r =>
    obtain ⟨m, hrelocation, rfl⟩ := map_eq_ok.mp hwork
    exact confined_of_relocation hrelocation
  | batch r =>
    obtain ⟨p, hplacement, rfl⟩ := map_eq_ok.mp hwork
    exact confined_of_placement hplacement
  | delete task =>
    obtain ⟨x, hdeletion, rfl⟩ := map_eq_ok.mp hwork
    exact confined_of_deletion hdeletion

end Operation

/-- A call that succeeds has written to no rows but those that it may write to, and so has a request
over HTTP that is answered with success: what its client reads in the answer, the flag included, is
the outcome of an operation that was as confined. -/
theorem writes_confined :
    (∀ (spacing : Spacing) (code : String) (call : Call) (c : Conditions) (b b' : Board)
      (o : Outcome), call.perform spacing code c b = (.ok o, b') →
        ∃ q, call.request = .ok q ∧ b'.columns = b.columns ∧ q.Confined b b' o) ∧
    (∀ (s : Http.Service) (code : String) (r : Http.Request) (c : Conditions) (b : Board)
      (asked : Work (Spacing × Operation.Request)), Http.operation? s.config r = some asked →
        (Http.respond s code r c b).1.status < 400 →
        ∃ spacing q o, (asked c b).1 = .ok (spacing, q) ∧
          (Http.respond s code r c b).1 = Http.sent r.method (Http.outcomeAnswer o) ∧
          (Http.respond s code r c b).2.columns = b.columns ∧
          q.Confined b (Http.respond s code r c b).2 o) := by
  constructor
  · intro spacing code call c b b' o h
    cases hrequest : call.request with
    | error cause =>
      rw [Call.perform_of_refused hrequest] at h
      cases h
    | ok q =>
      rw [Call.perform_of_request hrequest] at h
      exact ⟨q, rfl, Operation.Request.confined h⟩
  · intro s code r c b asked hasked hstatus
    rw [Http.respond_of_operation hasked] at hstatus ⊢
    rw [Http.status_sent] at hstatus
    -- an answer that tells of a failure has another status
    cases hresult : (asked c b).1 with
    | error f =>
      rw [Http.answered_of_refused hresult] at hstatus
      exact absurd (Http.status_ofFailure f) (Int.not_le.mpr hstatus)
    | ok found =>
      obtain ⟨spacing, q⟩ := found
      rcases Http.answered_of_asked code (Http.readOnly_of_operation? hasked) hresult with
        ⟨o, b', hq, hanswer⟩ | ⟨f, -, hanswer⟩
      · rw [hanswer]
        exact ⟨spacing, q, o, rfl, rfl, Operation.Request.confined hq⟩
      · rw [hanswer] at hstatus
        exact absurd (Http.status_ofFailure f) (Int.not_le.mpr hstatus)

/-- A board with two columns. In the first one there is no room between any two tasks. -/
def splitBoard : Board where
  columns := [⟨1, "todo", "To do", none, .integer 0⟩, ⟨2, "done", "Done", none, .integer 1⟩]
  tasks := [(1, "a", 1, -1), (2, "b", 1, 0), (3, "c", 1, 0), (4, "d", 2, 0), (5, "e", 2, 1)].map
    fun (id, code, column, position) =>
      ⟨id, ⟨code, "", "", "", none, []⟩, column, position, ⟨0⟩, ⟨0⟩⟩
  columnIds_nodup := by decide
  columnNames_nodup := by decide
  taskIds_nodup := by decide
  taskCodes_nodup := by decide

/-- A task of the second column goes right after the first task of the first one. -/
def crossing : Call := .move (.int 4) .null (.int 1) (.bool true) .null

/-- The same move, asked for over HTTP. -/
def crossingRequest : Http.Request where
  method := "PUT"
  path := "/api/kanban/tasks/4"
  content := .value (.object [("targetTaskId", .int 1), ("insertAfter", .bool true)])
  ifNoneMatch := none

theorem writes_confined_across :
    (∃ m, (crossing.perform ⟨4, 2⟩ "" ⟨⟨9⟩, none⟩ splitBoard).1 = .ok (.moved m) ∧
      m.rebalanced = true ∧
      (Operation.Request.move ⟨4, none, some 1, true, none⟩).Confined splitBoard
        (crossing.perform ⟨4, 2⟩ "" ⟨⟨9⟩, none⟩ splitBoard).2 (.moved m)) ∧
    (Http.respond ⟨[], none⟩ "" crossingRequest ⟨⟨9⟩, none⟩ splitBoard).1.status = 200 ∧
    ∃ (q : Operation.Request) (o : Outcome), q.Confined splitBoard
      (Http.respond ⟨[], none⟩ "" crossingRequest ⟨⟨9⟩, none⟩ splitBoard).2 o := by
  obtain ⟨hcall, hhttp⟩ := writes_confined
  -- the task crosses into a crowded column, which is renumbered on the way
  have hmoved : (crossing.perform ⟨4, 2⟩ "" ⟨⟨9⟩, none⟩ splitBoard).1 =
      .ok (.moved ⟨⟨4, ⟨"d", "", "", "", none, []⟩, 1, 2, ⟨0⟩, ⟨9⟩⟩, true⟩) := by cbv
  have hrequest : crossing.request = .ok (.move ⟨4, none, some 1, true, none⟩) := by decide
  have hstatus : (Http.respond ⟨[], none⟩ "" crossingRequest ⟨⟨9⟩, none⟩ splitBoard).1.status =
      200 := by cbv
  refine ⟨⟨_, hmoved, rfl, ?_⟩, hstatus, ?_⟩
  · obtain ⟨q, hq, -, hconfined⟩ := hcall _ _ _ _ _ _ _ (Prod.ext hmoved rfl)
    cases hq.symm.trans hrequest
    exact hconfined
  · have hasked : Http.operation? [] crossingRequest =
        some (Http.moveAsked [] 4 crossingRequest.content) := rfl
    obtain ⟨_, q, o, -, -, -, hconfined⟩ := hhttp ⟨[], none⟩ "" crossingRequest ⟨⟨9⟩, none⟩
      splitBoard _ hasked (by omega)
    exact ⟨q, o, hconfined⟩

end Kanban
