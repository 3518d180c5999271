import Kanban.Board

/-!
# Editing a board

Every edit keeps the ids, names and codes of a board distinct: a task that is changed keeps its id and
its code, a new task takes an id that is not in use and is added only under a new code, and a column
is added only under a new id and a new name.
-/

namespace Kanban

/-! ## Distinct keys -/

/-- Keys stay distinct when some rows are left out. -/
theorem nodup_map_filter {α β : Type} {f : α → β} {rows : List α} (p : α → Bool)
    (h : (rows.map f).Nodup) : ((rows.filter p).map f).Nodup :=
  h.sublist (List.filter_sublist.map f)

/-- Keys stay distinct when a row with a new key is added. -/
theorem nodup_map_concat {α β : Type} {f : α → β} {rows : List α} {row : α}
    (h : (rows.map f).Nodup) (hnew : f row ∉ rows.map f) : ((rows ++ [row]).map f).Nodup := by
  rw [List.map_append, List.nodup_append]
  refine ⟨h, by simp, ?_⟩
  intro x hx y hy
  simp only [List.map_cons, List.map_nil, List.mem_singleton] at hy
  rintro rfl
  exact hnew (hy ▸ hx)

namespace Board

/-! ## Tasks -/

def mapTasks (b : Board) (f : Task → Task) (hid : ∀ t, (f t).id = t.id)
    (hcode : ∀ t, (f t).code = t.code) : Board :=
  { b with
    tasks := b.tasks.map f
    taskIds_nodup := by
      rw [List.map_map, show Task.id ∘ f = Task.id from funext hid]
      exact b.taskIds_nodup
    taskCodes_nodup := by
      rw [List.map_map, show Task.code ∘ f = Task.code from funext hcode]
      exact b.taskCodes_nodup }

/-- An edit that keeps the ids and the codes of tasks is seen in the list of tasks alone. -/
@[simp] theorem tasks_mapTasks (b : Board) (f : Task → Task) (hid : ∀ t, (f t).id = t.id)
    (hcode : ∀ t, (f t).code = t.code) : (b.mapTasks f hid hcode).tasks = b.tasks.map f := rfl

@[simp] theorem columns_mapTasks (b : Board) (f : Task → Task) (hid : ∀ t, (f t).id = t.id)
    (hcode : ∀ t, (f t).code = t.code) : (b.mapTasks f hid hcode).columns = b.columns := rfl

def putTask (b : Board) (id column position : Int) (now : Timestamp) : Board :=
  b.mapTasks (fun t => if t.id = id then t.put column position now else t)
    (fun t => by split <;> simp) fun t => by split <;> simp

/-- Only the named task is put; the order in which the table lists its rows stays. -/
@[simp] theorem tasks_putTask (b : Board) (id column position : Int) (now : Timestamp) :
    (b.putTask id column position now).tasks =
      b.tasks.map fun t => if t.id = id then t.put column position now else t := rfl

@[simp] theorem columns_putTask (b : Board) (id column position : Int) (now : Timestamp) :
    (b.putTask id column position now).columns = b.columns := rfl

/-- A task of a list of targets is put at its target, and any other stays as it is. -/
def retarget (targets : List (Int × Int)) (now : Timestamp) (t : Task) : Task :=
  match targets.lookup t.id with
  | some position => t.put t.column position now
  | none => t

@[simp] theorem retarget_id (targets : List (Int × Int)) (now : Timestamp) (t : Task) :
    (retarget targets now t).id = t.id := by
  unfold retarget
  split <;> simp

@[simp] theorem retarget_code (targets : List (Int × Int)) (now : Timestamp) (t : Task) :
    (retarget targets now t).code = t.code := by
  unfold retarget
  split <;> simp

/-- The listed tasks are put at their new positions, each in its own column. -/
def reposition (b : Board) (targets : List (Int × Int)) (now : Timestamp) : Board :=
  b.mapTasks (retarget targets now) (fun t => by simp) fun t => by simp

@[simp] theorem tasks_reposition (b : Board) (targets : List (Int × Int)) (now : Timestamp) :
    (b.reposition targets now).tasks = b.tasks.map (retarget targets now) := rfl

@[simp] theorem columns_reposition (b : Board) (targets : List (Int × Int)) (now : Timestamp) :
    (b.reposition targets now).columns = b.columns := rfl

def nextTaskId (b : Board) : Int := nextId (b.tasks.map Task.id)

/-- The task that a card becomes when it is put on the board. -/
def newTask (b : Board) (card : Card) (column position : Int) (now : Timestamp) : Task :=
  ⟨b.nextTaskId, card, column, position, now, now⟩

/-- A card with a new code is put at the end of the tasks. -/
def addTask (b : Board) (card : Card) (column position : Int) (now : Timestamp)
    (hcode : card.code ∉ b.tasks.map Task.code) : Board :=
  { b with
    tasks := b.tasks ++ [b.newTask card column position now]
    taskIds_nodup := nodup_map_concat b.taskIds_nodup (nextId_not_mem _)
    taskCodes_nodup := nodup_map_concat b.taskCodes_nodup hcode }

@[simp] theorem tasks_addTask (b : Board) (card : Card) (column position : Int)
    (now : Timestamp) (hcode : card.code ∉ b.tasks.map Task.code) :
    (b.addTask card column position now hcode).tasks =
      b.tasks ++ [b.newTask card column position now] := rfl

@[simp] theorem columns_addTask (b : Board) (card : Card) (column position : Int)
    (now : Timestamp) (hcode : card.code ∉ b.tasks.map Task.code) :
    (b.addTask card column position now hcode).columns = b.columns := rfl

def removeTask (b : Board) (id : Int) : Board :=
  { b with
    tasks := b.tasks.filter fun t => t.id ≠ id
    taskIds_nodup := nodup_map_filter _ b.taskIds_nodup
    taskCodes_nodup := nodup_map_filter _ b.taskCodes_nodup }

@[simp] theorem tasks_removeTask (b : Board) (id : Int) :
    (b.removeTask id).tasks = b.tasks.filter fun t => t.id ≠ id := rfl

@[simp] theorem columns_removeTask (b : Board) (id : Int) :
    (b.removeTask id).columns = b.columns := rfl

/-! ## Columns -/

def nextColumnId (b : Board) : Int := nextId (b.columns.map Column.id)

/-- A column is added under the given id, or else under the next one, unless its id or its name is
taken. -/
def addColumn? (b : Board) (given : Option Int) (spec : ColumnSpec) : Option Board :=
  let id := given.getD b.nextColumnId
  if h : id ∈ b.columns.map Column.id ∨ spec.name ∈ b.columns.map Column.name then none
  else
    some
      { b with
        columns := b.columns ++ [spec.column id]
        columnIds_nodup := nodup_map_concat b.columnIds_nodup fun hid => h (.inl hid)
        columnNames_nodup := nodup_map_concat b.columnNames_nodup fun hname => h (.inr hname) }

/-- Without a given id, only the name of a column can be taken. -/
theorem addColumn?_none (b : Board) (spec : ColumnSpec) :
    (b.addColumn? none spec).isSome = decide (spec.name ∉ b.columns.map Column.name) := by
  have hid : b.nextColumnId ∉ b.columns.map Column.id := nextId_not_mem _
  by_cases hname : spec.name ∈ b.columns.map Column.name <;> simp_all [addColumn?]

/-- Columns are added in order, unless the id or the name of one of them is taken. -/
def addColumns? (b : Board) (specs : List (Option Int × ColumnSpec)) : Option Board :=
  specs.foldlM (fun b (given, spec) => b.addColumn? given spec) b

end Board

end Kanban
