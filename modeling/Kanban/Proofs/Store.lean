import Kanban.Proofs.Renumbering
import Kanban.Proofs.Work

/-!
# What the store has done

For each access to the store: that it only looks, or what it has changed once it has succeeded. The
last section says what a working database answers to ids that fit their fields.
-/

namespace Kanban

open Work

theorem Stored.integer_of_fits {n : Int} (h : Stored.Fits n) : Stored.integer n = .ok n :=
  if_pos h

theorem Stored.integer_eq_ok {n m : Int} (h : Stored.integer n = .ok m) :
    Stored.Fits n ∧ m = n := by
  unfold Stored.integer at h
  split at h
  · next hn =>
    cases h
    exact ⟨hn, rfl⟩
  · cases h

namespace Store

variable {c : Conditions} {b b' : Board}

/-! ## Looking -/

theorem readOnly_lockColumn (id : Int) : (lockColumn id).ReadOnly := ReadOnly.query _

theorem readOnly_columnNamed (name : Json) : (columnNamed name).ReadOnly := ReadOnly.query _

theorem readOnly_task? (id : Int) : (task? id).ReadOnly := ReadOnly.query _

theorem readOnly_task (id : Int) : (task id).ReadOnly := by
  refine (readOnly_task? id).bind fun found => ?_
  cases found with
  | none => exact ReadOnly.fail _
  | some t => exact ReadOnly.pure t

theorem readOnly_orderWithout (column id : Int) : (orderWithout column id).ReadOnly :=
  ReadOnly.query _

theorem columnIn_eq_ok {id : Int} {column : Column} (h : columnIn id b = .ok column) :
    b.column? id = some column := by
  obtain ⟨n, hn, hfound⟩ := except_bind_eq_ok.mp h
  obtain ⟨-, rfl⟩ := Stored.integer_eq_ok hn
  split at hfound
  · next hc =>
    cases hfound
    exact hc
  · cases hfound

/-- A column that could be locked is there, and locking it changes nothing. -/
theorem lockColumn_eq_ok {id : Int} {column : Column}
    (h : lockColumn id c b = (.ok column, b')) : b.column? id = some column ∧ b' = b := by
  obtain ⟨-, h, rfl⟩ := query_eq_ok.mp h
  exact ⟨columnIn_eq_ok h, rfl⟩

theorem task?_eq_ok {id : Int} {found : Option Task} (h : task? id c b = (.ok found, b')) :
    found = b.task? id ∧ b' = b := by
  obtain ⟨-, h, rfl⟩ := query_eq_ok.mp h
  obtain ⟨n, hn, rfl⟩ := except_map_eq_ok.mp h
  obtain ⟨-, rfl⟩ := Stored.integer_eq_ok hn
  exact ⟨rfl, rfl⟩

/-- A task that could be had is there, and having it changes nothing. -/
theorem task_eq_ok {id : Int} {t : Task} (h : task id c b = (.ok t, b')) :
    b.task? id = some t ∧ b' = b := by
  obtain ⟨found, b₁, hfound, hrest⟩ := bind_eq_ok.mp h
  obtain ⟨rfl, rfl⟩ := task?_eq_ok hfound
  cases htask : b₁.task? id with
  | none =>
    rw [htask] at hrest
    cases hrest
  | some s =>
    rw [htask] at hrest
    obtain ⟨rfl, rfl⟩ := pure_eq_ok.mp hrest
    exact ⟨rfl, rfl⟩

theorem order_eq_ok {column : Int} {ordered : List Task}
    (h : order column c b = (.ok ordered, b')) : ordered = b.order column ∧ b' = b := by
  obtain ⟨-, h, rfl⟩ := query_eq_ok.mp h
  obtain ⟨n, hn, rfl⟩ := except_map_eq_ok.mp h
  obtain ⟨-, rfl⟩ := Stored.integer_eq_ok hn
  exact ⟨rfl, rfl⟩

theorem orderWithout_eq_ok {column id : Int} {ordered : List Task}
    (h : orderWithout column id c b = (.ok ordered, b')) :
    ordered = b.orderWithout column id ∧ b' = b := by
  obtain ⟨-, hordered, rfl⟩ := query_eq_ok.mp h
  obtain ⟨n, hn, hrest⟩ := except_bind_eq_ok.mp hordered
  obtain ⟨m, hm, hlist⟩ := except_bind_eq_ok.mp hrest
  obtain ⟨-, rfl⟩ := Stored.integer_eq_ok hn
  obtain ⟨-, rfl⟩ := Stored.integer_eq_ok hm
  cases hlist
  exact ⟨rfl, rfl⟩

/-! ## Changing -/

/-- A card with a new code is put on the board. -/
theorem insertTask_of_not_mem {card : Card} (column position : Int) (now : Timestamp)
    (hcode : card.code ∉ b.tasks.map Task.code) :
    insertTask card column position now b =
      .ok (b.newTask card column position now, b.addTask card column position now hcode) :=
  dif_neg hcode

/-- A card that was put on the board had a new code. -/
theorem insertTask_eq_ok {card : Card} {column position : Int} {now : Timestamp} {t : Task}
    (h : insertTask card column position now b = .ok (t, b')) :
    ∃ hcode, t = b.newTask card column position now ∧
      b' = b.addTask card column position now hcode := by
  unfold insertTask at h
  split at h
  · cases h
  · next hcode =>
    cases h
    exact ⟨hcode, rfl, rfl⟩

/-- A card is refused only as a row that breaks a constraint, because its code is in use. -/
theorem insertTask_eq_error {card : Card} {column position : Int} {now : Timestamp} {f : Failure}
    (h : insertTask card column position now b = .error f) : f = .database .constraint := by
  unfold insertTask at h
  split at h
  · cases h
    rfl
  · cases h

/-- A task that was added is the next one, at the given position of the given column, and both of
them fit. No other task has its code. -/
theorem addTask_eq_ok {draft : Draft} {column position : Int} {t : Task}
    (h : addTask draft column position c b = (.ok t, b')) :
    (Stored.Fits column ∧ Stored.Fits position) ∧
      ∃ card hcode, t = b.newTask card column position c.now ∧
        b' = b.addTask card column position c.now hcode := by
  obtain ⟨-, h₀⟩ := flush_eq_ok.mp h
  obtain ⟨column', hcolumn, h₁⟩ := except_bind_eq_ok.mp h₀
  obtain ⟨title, -, h₂⟩ := except_bind_eq_ok.mp h₁
  obtain ⟨description, -, h₃⟩ := except_bind_eq_ok.mp h₂
  obtain ⟨priority, -, h₄⟩ := except_bind_eq_ok.mp h₃
  obtain ⟨assignee, -, h₅⟩ := except_bind_eq_ok.mp h₄
  obtain ⟨position', hposition, h₆⟩ := except_bind_eq_ok.mp h₅
  obtain ⟨hcolumn, rfl⟩ := Stored.integer_eq_ok hcolumn
  obtain ⟨hposition, rfl⟩ := Stored.integer_eq_ok hposition
  split at h₆
  · obtain ⟨hcode, rfl, rfl⟩ := insertTask_eq_ok h₆
    exact ⟨⟨hcolumn, hposition⟩, _, hcode, rfl, rfl⟩
  · cases h₆

/-- A task is not added when the database refuses it, or when its column, its position or something of
what is written on it cannot be stored. -/
theorem failsOnly_addTask {P : Failure → Prop} {draft : Draft} {column position : Int}
    (hdatabase : ∀ e, P (.database e))
    (hintegers : ∀ n ∈ [column, position], ∀ f, Stored.integer n = .error f → P f)
    (htexts : ∀ value ∈ [draft.title, draft.description, draft.priority, draft.assignee],
      ∀ f, Stored.text? value = .error f → P f) :
    (addTask draft column position).FailsOnly P c b := by
  simp only [List.forall_mem_cons, List.not_mem_nil, false_imp_iff, implies_true, and_true]
    at hintegers htexts
  obtain ⟨hcolumn, hposition⟩ := hintegers
  obtain ⟨htitle, hdescription, hpriority, hassignee⟩ := htexts
  refine .flush (fun e _ => hdatabase e) fun f hf => ?_
  rcases except_bind_eq_error.mp hf with hf | ⟨column', -, hf⟩
  · exact hcolumn f hf
  rcases except_bind_eq_error.mp hf with hf | ⟨title, -, hf⟩
  · exact htitle f hf
  rcases except_bind_eq_error.mp hf with hf | ⟨description, -, hf⟩
  · exact hdescription f hf
  rcases except_bind_eq_error.mp hf with hf | ⟨priority, -, hf⟩
  · exact hpriority f hf
  rcases except_bind_eq_error.mp hf with hf | ⟨assignee, -, hf⟩
  · exact hassignee f hf
  rcases except_bind_eq_error.mp hf with hf | ⟨position', -, hf⟩
  · exact hposition f hf
  -- everything is read, and a field may be empty or taken that must not be
  split at hf
  · obtain rfl := insertTask_eq_error hf
    exact hdatabase _
  · cases hf
    exact hdatabase _

theorem removeTask_eq_ok {id : Int} {x : Unit} (h : removeTask id c b = (.ok x, b')) :
    b' = b.removeTask id := by
  obtain ⟨-, h⟩ := flush_eq_ok.mp h
  cases h
  rfl

/-- Writing one position puts one task, at the time of the work. -/
theorem writePosition_eq_ok {id column position : Int} {t : Task}
    (h : writePosition id column position c b = (.ok t, b')) :
    b' = b.putTask id column position c.now := by
  obtain ⟨-, h⟩ := flush_eq_ok.mp h
  split at h
  · cases h
  · split at h
    · cases h
      rfl
    · cases h

/-- No task is missing when all of them stand in the column. -/
theorem firstMissing?_eq_none_iff {column : Int} {targets : List (Int × Int)} :
    firstMissing? b column targets = none ↔
      ∀ id ∈ targets.map Prod.fst, ∃ t ∈ b.order column, t.id = id := by
  simp [firstMissing?, and_assoc]

/-- The tasks that were put at their targets stand in the column, all of them. -/
theorem writePositions_eq_ok {column : Int} {targets : List (Int × Int)} {ids : List Int}
    (h : writePositions column targets c b = (.ok ids, b')) :
    (∀ id ∈ targets.map Prod.fst, ∃ t ∈ b.order column, t.id = id) ∧
      b' = b.reposition targets c.now := by
  unfold writePositions at h
  split at h
  · next hempty =>
    obtain rfl : targets = [] := by simpa using hempty
    obtain ⟨-, rfl⟩ := pure_eq_ok.mp h
    exact ⟨by simp, (Board.reposition_nil _ _).symm⟩
  · -- a query finds the tasks first, and only then is anything sent
    obtain ⟨_, b₁, hquery, hflush⟩ := bind_eq_ok.mp h
    obtain ⟨-, hread, rfl⟩ := query_eq_ok.mp hquery
    obtain ⟨n, hn, hread⟩ := except_bind_eq_ok.mp hread
    obtain ⟨_, -, hfound⟩ := except_bind_eq_ok.mp hread
    obtain ⟨-, rfl⟩ := Stored.integer_eq_ok hn
    obtain ⟨-, hwrite⟩ := flush_eq_ok.mp hflush
    split at hfound
    · cases hfound
    · next hmissing =>
      refine ⟨firstMissing?_eq_none_iff.mp hmissing, ?_⟩
      split at hwrite
      · cases hwrite
        rfl
      · cases hwrite

/-- A column that was renumbered has its tasks at the multiples of the gap. -/
theorem rebalance_eq_ok {column gap : Int} {n : Nat}
    (h : rebalance column gap c b = (.ok n, b')) : b' = b.renumbered column gap c.now := by
  obtain ⟨ordered, b₁, hordered, hrest⟩ := bind_eq_ok.mp h
  obtain ⟨rfl, rfl⟩ := order_eq_ok hordered
  obtain ⟨ids, b₂, hids, hpure⟩ := bind_eq_ok.mp hrest
  obtain ⟨-, rfl⟩ := pure_eq_ok.mp hpure
  exact (writePositions_eq_ok hids).2

/-! ## Integers that were accepted -/

theorem fits_of_lockColumn {id : Int} {column : Column}
    (h : lockColumn id c b = (.ok column, b')) : Stored.Fits id := by
  obtain ⟨-, h, -⟩ := query_eq_ok.mp h
  obtain ⟨n, hn, -⟩ := except_bind_eq_ok.mp h
  exact (Stored.integer_eq_ok hn).1

/-- Only an id that fits can be looked for, whether or not there is such a task. -/
theorem fits_of_task? {id : Int} {found : Option Task} (h : task? id c b = (.ok found, b')) :
    Stored.Fits id := by
  obtain ⟨-, h, -⟩ := query_eq_ok.mp h
  obtain ⟨n, hn, -⟩ := except_map_eq_ok.mp h
  exact (Stored.integer_eq_ok hn).1

theorem fits_of_task {id : Int} {t : Task} (h : task id c b = (.ok t, b')) : Stored.Fits id := by
  obtain ⟨found, b₁, hfound, -⟩ := bind_eq_ok.mp h
  exact fits_of_task? hfound

/-- A task that was put somewhere was there, and what has changed of it fits. -/
theorem storable_of_writePosition {id column position : Int} {t : Task}
    (h : writePosition id column position c b = (.ok t, b')) :
    ∃ s, b.task? id = some s ∧ Storable s column position := by
  obtain ⟨-, h⟩ := flush_eq_ok.mp h
  split at h
  · cases h
  · next s hs =>
    split at h
    · next hstorable => exact ⟨s, hs, hstorable⟩
    · cases h

/-- Ids that were handed over in one question fit, each of them. -/
theorem fits_of_mapM_integer {ids found : List Int} (h : ids.mapM Stored.integer = .ok found) :
    ∀ id ∈ ids, Stored.Fits id := by
  induction ids generalizing found with
  | nil => simp
  | cons id rest ih =>
    rw [List.mapM_cons] at h
    obtain ⟨n, hn, h⟩ := except_bind_eq_ok.mp h
    obtain ⟨others, hothers, -⟩ := except_bind_eq_ok.mp h
    exact List.forall_mem_cons.mpr ⟨(Stored.integer_eq_ok hn).1, ih hothers⟩

/-- The ids of tasks that were put at their targets fit, and so does what has changed of them. -/
theorem storable_of_writePositions {column : Int} {targets : List (Int × Int)} {ids : List Int}
    (h : writePositions column targets c b = (.ok ids, b')) :
    (∀ id ∈ targets.map Prod.fst, Stored.Fits id) ∧ AllStorable b targets := by
  unfold writePositions at h
  split at h
  · next hempty =>
    obtain rfl : targets = [] := by simpa using hempty
    simp [AllStorable]
  · obtain ⟨_, b₁, hquery, hflush⟩ := bind_eq_ok.mp h
    obtain ⟨-, hread, rfl⟩ := query_eq_ok.mp hquery
    obtain ⟨n, -, hread⟩ := except_bind_eq_ok.mp hread
    obtain ⟨found, hfound, -⟩ := except_bind_eq_ok.mp hread
    obtain ⟨-, hwrite⟩ := flush_eq_ok.mp hflush
    split at hwrite
    · next hstorable => exact ⟨fits_of_mapM_integer hfound, hstorable⟩
    · cases hwrite

/-- A renumbering that went well wrote nothing that does not fit. -/
theorem storable_of_rebalance {column gap : Int} {n : Nat}
    (h : rebalance column gap c b = (.ok n, b')) :
    AllStorable b (misplaced (b.order column) gap) := by
  obtain ⟨ordered, b₁, hordered, hrest⟩ := bind_eq_ok.mp h
  obtain ⟨rfl, rfl⟩ := order_eq_ok hordered
  obtain ⟨ids, b₂, hids, -⟩ := bind_eq_ok.mp hrest
  exact (storable_of_writePositions hids).2

/-! ## A working database -/

variable {now : Timestamp}

theorem lockColumn_of_some {id : Int} {column : Column} (h : Stored.Fits id)
    (hcolumn : b.column? id = some column) : lockColumn id ⟨now, none⟩ b = (.ok column, b) := by
  rw [lockColumn, query_of_working, columnIn, Stored.integer_of_fits h]
  simp only [bind, Except.bind, hcolumn]

/-- A missing column is told by the id that was looked for. -/
theorem lockColumn_of_none {id : Int} (h : Stored.Fits id) (hcolumn : b.column? id = none) :
    lockColumn id ⟨now, none⟩ b = (.error (.columnNotFound (.int id)), b) := by
  rw [lockColumn, query_of_working, columnIn, Stored.integer_of_fits h]
  simp only [bind, Except.bind, hcolumn]

theorem task?_of_fits {id : Int} (h : Stored.Fits id) :
    task? id ⟨now, none⟩ b = (.ok (b.task? id), b) := by
  rw [task?, query_of_working, Stored.integer_of_fits h]
  rfl

theorem task_of_some {id : Int} {t : Task} (h : Stored.Fits id) (ht : b.task? id = some t) :
    task id ⟨now, none⟩ b = (.ok t, b) := by
  rw [task, bind_of_ok (task?_of_fits h), ht]
  rfl

/-- A missing task is told by the id that was looked for. -/
theorem task_of_none {id : Int} (h : Stored.Fits id) (ht : b.task? id = none) :
    task id ⟨now, none⟩ b = (.error (.taskNotFound id), b) := by
  rw [task, bind_of_ok (task?_of_fits h), ht]
  rfl

theorem order_of_fits {column : Int} (h : Stored.Fits column) :
    order column ⟨now, none⟩ b = (.ok (b.order column), b) := by
  rw [order, query_of_working, Stored.integer_of_fits h]
  rfl

theorem orderWithout_of_fits {column id : Int} (h : Stored.Fits column) (hid : Stored.Fits id) :
    orderWithout column id ⟨now, none⟩ b = (.ok (b.orderWithout column id), b) := by
  rw [orderWithout, query_of_working, Stored.integer_of_fits h, Stored.integer_of_fits hid]
  rfl

/-- On a working database, whether a task can be put at a position is a question of what fits alone.
-/
theorem writePosition_of_some {id column position : Int} {t : Task} (ht : b.task? id = some t) :
    writePosition id column position ⟨now, none⟩ b =
      if Storable t column position then
        (.ok (t.put column position now), b.putTask id column position now)
      else (.error .integerOverflow, b) := by
  rw [writePosition, flush_of_working]
  by_cases hstorable : Storable t column position
  · simp only [write_apply, ht, if_pos hstorable]
  · simp only [write_apply, ht, if_neg hstorable]

theorem mapM_integer_of_fits {ids : List Int} (h : ∀ id ∈ ids, Stored.Fits id) :
    ids.mapM Stored.integer = .ok ids := by
  induction ids with
  | nil => rfl
  | cons id rest ih =>
    rw [List.forall_mem_cons] at h
    rw [List.mapM_cons, Stored.integer_of_fits h.1, ih h.2]
    rfl

/-- On a working database, targets that are all in the column are written just when all of them fit.
One that does not fit holds back the others. -/
theorem writePositions_of_fits (now : Timestamp) {column : Int} {targets : List (Int × Int)}
    (h : Stored.Fits column) (hids : ∀ id ∈ targets.map Prod.fst, Stored.Fits id)
    (hnamed : ∀ id ∈ targets.map Prod.fst, ∃ t ∈ b.order column, t.id = id) :
    writePositions column targets ⟨now, none⟩ b =
      if AllStorable b targets then (.ok (targets.map Prod.fst), b.reposition targets now)
      else (.error .integerOverflow, b) := by
  unfold writePositions
  split
  · next hempty =>
    obtain rfl : targets = [] := by simpa using hempty
    have hstorable : AllStorable b [] := by simp [AllStorable]
    rw [if_pos hstorable, Board.reposition_nil]
    rfl
  · refine (bind_of_ok (show query _ _ _ = ((.ok () : Except Failure Unit), b) from ?_)).trans ?_
    · rw [query_of_working, Stored.integer_of_fits h, mapM_integer_of_fits hids]
      simp only [bind, Except.bind, firstMissing?_eq_none_iff.mpr hnamed]
    rw [flush_of_working]
    by_cases hstorable : AllStorable b targets
    · simp only [write_apply, if_pos hstorable]
    · simp only [write_apply, if_neg hstorable]

/-- On a working database, a column is renumbered just when all positions that have to be written
fit. -/
theorem rebalance_of_fits (now : Timestamp) {column : Int} (gap : Int) (h : Stored.Fits column)
    (hids : ∀ t ∈ b.order column, Stored.Fits t.id) :
    rebalance column gap ⟨now, none⟩ b =
      if AllStorable b (misplaced (b.order column) gap) then
        (.ok (misplaced (b.order column) gap).length, b.renumbered column gap now)
      else (.error .integerOverflow, b) := by
  -- only tasks of the column are renumbered, so the rewrite finds every one of them
  have hnamed : ∀ id ∈ (misplaced (b.order column) gap).map Prod.fst,
      ∃ t ∈ b.order column, t.id = id := fun id hid =>
    List.mem_map.mp ((misplaced_ids_sublist _ gap).subset hid)
  have hfit : ∀ id ∈ (misplaced (b.order column) gap).map Prod.fst, Stored.Fits id := by
    intro id hid
    obtain ⟨t, ht, rfl⟩ := hnamed id hid
    exact hids t ht
  have hwrite := writePositions_of_fits now h hfit hnamed
  rw [rebalance, bind_of_ok (order_of_fits h)]
  by_cases hstorable : AllStorable b (misplaced (b.order column) gap)
  · rw [if_pos hstorable] at hwrite ⊢
    rw [bind_of_ok hwrite]
    rfl
  · rw [if_neg hstorable] at hwrite ⊢
    rw [bind_of_error hwrite]

end Store

end Kanban
