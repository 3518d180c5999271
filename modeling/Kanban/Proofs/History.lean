import Kanban.Proofs.Confinement
import Kanban.Proofs.Event
import Kanban.Proofs.Reading

/-!
# Histories

Of the history of a board only two things matter for which tasks are on it: which tasks were
created, and which ones were deleted. `Event.entry?` finds out from each step what it adds to this
history, and `present` what is left in the end. No other step takes a task away, adds one, or
changes more of it than where it stands (`Tallies.perform`), so what is on the board after a run is
what its history leaves (`history_run`).
-/

namespace Kanban

open Work

/-! ## Entries -/

/-- What a step can add to the history of a board. -/
inductive Entry where
  | created (t : Task)
  | deleted (id : Int)
deriving DecidableEq, Repr

/-- The tasks that are there after an entry. -/
def Entry.apply (l : List Task) : Entry → List Task
  | .created t => l ++ [t]
  | .deleted id => l.filter fun t => t.id ≠ id

/-- The tasks that were created and not deleted since. -/
def present (entries : List Entry) : List Task := entries.foldl Entry.apply []

/-- The entry of an operation that succeeds. -/
def Operation.Request.entry? : Operation.Request → Outcome → Option Entry
  | _, .created t => some (.created t)
  | .delete id, .deleted => some (.deleted id)
  | _, _ => none

namespace Event

/-- The operation that an event performs with success, and its outcome. -/
def outcome? (e : Event) (b : Board) : Option (Operation.Request × Outcome) :=
  match e.request? b with
  | some (spacing, q) =>
    match (q.perform spacing (e.codes 0) e.conditions b).1 with
    | .ok o => some (q, o)
    | .error _ => none
  | none => none

/-- What an event adds to the history. -/
def entry? (e : Event) (b : Board) : Option Entry :=
  (e.outcome? b).bind fun (q, o) => q.entry? o

/-- An outcome is one of what the event asks for, and the board after the event is the one that the
operation leaves. -/
theorem outcome?_eq_some {e : Event} {b : Board} {q : Operation.Request} {o : Outcome}
    (h : e.outcome? b = some (q, o)) :
    ∃ spacing b', e.request? b = some (spacing, q) ∧
      q.perform spacing (e.codes 0) e.conditions b = (.ok o, b') ∧ (e.perform b).2 = b' := by
  unfold outcome? at h
  split at h
  · next spacing q' hrequest =>
    split at h
    · next o' ho =>
      cases h
      refine ⟨spacing, _, hrequest, ?_, rfl⟩
      rcases perform_of_request? hrequest with ⟨o'', hq, -⟩ | ⟨f, hq, -, -⟩
      · rw [hq] at ho
        cases ho
        exact hq
      · rw [hq] at ho
        cases ho
    · cases h
  · cases h

/-- A step without an outcome leaves the board as it is. -/
theorem perform_of_no_outcome {e : Event} {b : Board} (hstep : e.step.IsOperation)
    (h : e.outcome? b = none) : (e.perform b).2 = b := by
  cases hrequest : e.request? b with
  | none => exact perform_of_no_request hstep hrequest
  | some asked =>
    obtain ⟨spacing, q⟩ := asked
    rcases perform_of_request? hrequest with ⟨o, hq, -⟩ | ⟨f, -, hb, -⟩
    · simp [outcome?, hrequest, hq] at h
    · exact hb

/-- Whoever asked for an operation is told its outcome. -/
theorem reaction_of_outcome {e : Event} {b : Board} {q : Operation.Request} {o : Outcome}
    (h : e.outcome? b = some (q, o)) :
    (e.perform b).1 = .outcome o ∨ (e.perform b).1 = .answer (Http.outcomeAnswer o) := by
  obtain ⟨spacing, b', hrequest, hq, -⟩ := outcome?_eq_some h
  obtain ⟨step, service, codes, conditions⟩ := e
  cases step with
  | call gap threshold call =>
    simp only [request?] at hrequest
    split at hrequest
    · next hspacing hcall =>
      cases hrequest
      -- a call gives its outcome as it is
      have hwork := (callWork_of_spacing hspacing (codes 0) call).trans
        (Call.perform_of_request hcall)
      left
      simp only [perform, Step.perform, Work.reaction, hwork, hq]
    · cases hrequest
  | request r =>
    simp only [request?] at hrequest
    obtain ⟨asked, hoperation, hasked⟩ := Option.bind_eq_some_iff.mp hrequest
    -- a request over HTTP gives it as an answer
    right
    simp only [perform, Step.perform]
    rcases Http.respond_of_asked (codes 0) hoperation (except_toOption_eq_some.mp hasked) with
      ⟨o', b'', hq', hanswer⟩ | ⟨f, hq', -⟩
    · rw [hq] at hq'
      cases hq'
      rw [hanswer]
    · rw [hq] at hq'
      cases hq'
  | unit actions ending => cases hrequest
  | action a => cases hrequest
  | seed descriptions => cases hrequest

end Event

/-- The history of a run of events. -/
def entries : Board → List Event → List Entry
  | _, [] => []
  | b, e :: rest => (e.entry? b).toList ++ entries (e.perform b).2 rest

/-! ## What a creation settles -/

namespace Task

/-- What is settled about a task when it is created: its id, what is written on it, and when that
was. -/
def settled (t : Task) : Int × Card × Timestamp := (t.id, t.card, t.createdAt)

@[simp] theorem settled_put (t : Task) (column position : Int) (now : Timestamp) :
    (t.put column position now).settled = t.settled := by
  simp [settled]

end Task

@[simp] theorem settled_retarget (targets : List (Int × Int)) (now : Timestamp) (t : Task) :
    (Board.retarget targets now t).settled = t.settled := by
  unfold Board.retarget
  split <;> simp

namespace Board

/-- What is settled about the tasks of a board. -/
def settled (b : Board) : List (Int × Card × Timestamp) := b.tasks.map Task.settled

/-- An edit that touches nothing settled leaves the settled part of the board. -/
theorem settled_mapTasks {b : Board} {f : Task → Task} (hid : ∀ t, (f t).id = t.id)
    (hcode : ∀ t, (f t).code = t.code) (h : ∀ t, (f t).settled = t.settled) :
    (b.mapTasks f hid hcode).settled = b.settled := by
  rw [settled, tasks_mapTasks, List.map_map]
  exact List.map_congr_left fun t _ => h t

@[simp] theorem settled_putTask (b : Board) (id column position : Int) (now : Timestamp) :
    (b.putTask id column position now).settled = b.settled := by
  refine settled_mapTasks _ _ fun t => ?_
  split <;> simp

@[simp] theorem settled_reposition (b : Board) (targets : List (Int × Int)) (now : Timestamp) :
    (b.reposition targets now).settled = b.settled :=
  settled_mapTasks _ _ fun t => settled_retarget targets now t

@[simp] theorem settled_renumbered (b : Board) (column gap : Int) (now : Timestamp) :
    (b.renumbered column gap now).settled = b.settled :=
  settled_reposition b _ now

@[simp] theorem settled_eased (b : Board) (spacing : Spacing) (column : Int) (now : Timestamp) :
    (b.eased spacing column now).settled = b.settled := by
  unfold eased
  split <;> simp

@[simp] theorem settled_addTask (b : Board) (card : Card) (column position : Int)
    (now : Timestamp) (hcode : card.code ∉ b.tasks.map Task.code) :
    (b.addTask card column position now hcode).settled =
      b.settled ++ [(b.newTask card column position now).settled] := by
  simp [settled]

/-- A removed task takes what was settled about it along. -/
@[simp] theorem settled_removeTask (b : Board) (id : Int) :
    (b.removeTask id).settled = b.settled.filter fun x => x.1 ≠ id := by
  rw [settled, tasks_removeTask, settled, List.filter_map]
  rfl

/-! ## Where tasks stand -/

/-- Tasks stay in columns that exist when each is put into one. -/
theorem Housed.mapTasks {b : Board} (hb : b.Housed) {f : Task → Task}
    (hid : ∀ t, (f t).id = t.id) (hcode : ∀ t, (f t).code = t.code)
    (h : ∀ t ∈ b.tasks, (f t).column = t.column ∨ ∃ c ∈ b.columns, c.id = (f t).column) :
    (b.mapTasks f hid hcode).Housed := by
  intro t ht
  obtain ⟨s, hs, rfl⟩ := List.mem_map.mp ht
  rcases h s hs with heq | hexists
  · rw [heq]
    exact hb s hs
  · exact hexists

theorem Housed.reposition {b : Board} (hb : b.Housed) (targets : List (Int × Int))
    (now : Timestamp) : (b.reposition targets now).Housed :=
  hb.mapTasks _ _ fun t _ => .inl (retarget_column targets now t)

theorem Housed.renumbered {b : Board} (hb : b.Housed) (column gap : Int) (now : Timestamp) :
    (b.renumbered column gap now).Housed :=
  hb.reposition _ now

theorem Housed.eased {b : Board} (hb : b.Housed) (spacing : Spacing) (column : Int)
    (now : Timestamp) : (b.eased spacing column now).Housed := by
  unfold Board.eased
  split
  · exact hb.renumbered column spacing.gap now
  · exact hb

/-- A task that is put into a column that exists does not make any task homeless. -/
theorem Housed.putTask {b : Board} (hb : b.Housed) {column : Int}
    (hcolumn : ∃ c, b.column? column = some c) (id position : Int) (now : Timestamp) :
    (b.putTask id column position now).Housed := by
  obtain ⟨c, hc⟩ := hcolumn
  refine hb.mapTasks _ _ fun t _ => ?_
  split
  · exact .inr ⟨c, by simpa using column?_eq_some_iff.mp hc⟩
  · exact .inl rfl

/-- A new task has a home if its column exists. -/
theorem Housed.addTask {b : Board} (hb : b.Housed) {column : Int}
    (hcolumn : ∃ c, b.column? column = some c) (card : Card) (position : Int) (now : Timestamp)
    (hcode : card.code ∉ b.tasks.map Task.code) :
    (b.addTask card column position now hcode).Housed := by
  obtain ⟨c, hc⟩ := hcolumn
  intro t ht
  rcases List.mem_append.mp ht with ht | ht
  · exact hb t ht
  · obtain rfl := List.mem_singleton.mp ht
    exact ⟨c, column?_eq_some_iff.mp hc⟩

theorem Housed.removeTask {b : Board} (hb : b.Housed) (id : Int) : (b.removeTask id).Housed :=
  fun t ht => hb t (List.mem_of_mem_filter ht)

end Board

/-! ## Operations -/

/-- A board agrees with its history: what is settled about its tasks is what was settled when they
were created, and each of them stands in a column that exists. -/
structure Tallies (b : Board) (l : List Task) : Prop where
  settled : b.settled = l.map Task.settled
  housed : b.Housed

/-- An operation that succeeds keeps to its entry. -/
theorem Tallies.work {q : Operation.Request} {spacing : Spacing} {code : String} {c : Conditions}
    {b b' : Board} {o : Outcome} {l : List Task} (hb : Tallies b l)
    (h : q.work spacing code c b = (.ok o, b')) :
    Tallies b' ((q.entry? o).elim l (Entry.apply l)) := by
  obtain ⟨hsettled, hhoused⟩ := hb
  cases q with
  | create r =>
    obtain ⟨t, hwork, rfl⟩ := map_eq_ok.mp h
    obtain ⟨hcolumn, card, hcode, rfl, rfl⟩ := Operation.creation_eq_ok hwork
    refine ⟨?_, hhoused.addTask hcolumn card _ c.now hcode⟩
    rw [Board.settled_addTask, hsettled]
    simp [Operation.Request.entry?, Entry.apply]
  | move r =>
    obtain ⟨m, hwork, rfl⟩ := map_eq_ok.mp h
    obtain ⟨t, p, cleared, b₁, -, hcolumn, hlands, rfl, -⟩ := Operation.relocation_eq_ok hwork
    -- the task lands on the board as it was, or on the one with its column renumbered
    obtain ⟨hsettled₁, hhoused₁, hcolumns⟩ :
        b₁.settled = b.settled ∧ b₁.Housed ∧ b₁.columns = b.columns := by
      rcases hlands.board_eq with rfl | rfl
      · exact ⟨rfl, hhoused, rfl⟩
      · exact ⟨by simp, hhoused.renumbered _ _ _, rfl⟩
    have hcolumn₁ : ∃ column, b₁.column? (b.destination t r) = some column := by
      unfold Board.column? at hcolumn ⊢
      rwa [hcolumns]
    refine ⟨?_, (hhoused₁.putTask hcolumn₁ r.task p c.now).eased spacing _ c.now⟩
    rw [Board.settled_eased, Board.settled_putTask, hsettled₁, hsettled]
    rfl
  | batch r =>
    obtain ⟨placed, hwork, rfl⟩ := map_eq_ok.mp h
    obtain ⟨-, -, rfl, -⟩ := Operation.placement_eq_ok hwork
    refine ⟨?_, (hhoused.reposition r.targets c.now).eased spacing r.column c.now⟩
    rw [Board.settled_eased, Board.settled_reposition, hsettled]
    rfl
  | delete task =>
    obtain ⟨x, hwork, rfl⟩ := map_eq_ok.mp h
    obtain ⟨-, rfl⟩ := Operation.deletion_eq_ok hwork
    refine ⟨?_, hhoused.removeTask task⟩
    rw [Board.settled_removeTask, hsettled, List.filter_map]
    rfl

/-! ## Seeding -/

namespace Board

/-- A board after columns were added to it. -/
def Widens (b b' : Board) : Prop := b'.tasks = b.tasks ∧ ∀ c ∈ b.columns, c ∈ b'.columns

theorem Widens.refl (b : Board) : Widens b b := ⟨rfl, fun _ hc => hc⟩

theorem Widens.trans {b b₁ b' : Board} (h : Widens b b₁) (h' : Widens b₁ b') : Widens b b' :=
  ⟨h'.1.trans h.1, fun c hc => h'.2 c (h.2 c hc)⟩

theorem widens_addColumn? {b b' : Board} {given : Option Int} {spec : ColumnSpec}
    (h : b.addColumn? given spec = some b') : Widens b b' := by
  simp only [addColumn?] at h
  split at h
  · cases h
  · cases h
    exact ⟨rfl, fun c hc => List.mem_append_left _ hc⟩

/-- Columns that are added come after those that are there. -/
theorem widens_addColumns? {specs : List (Option Int × ColumnSpec)} {b b' : Board}
    (h : b.addColumns? specs = some b') : Widens b b' := by
  -- on the columns, for every board: the rest is added to the board with the first one
  induction specs generalizing b with
  | nil =>
    obtain rfl : b = b' := Option.some.inj h
    exact .refl b
  | cons spec specs ih =>
    rw [addColumns?, List.foldlM_cons] at h
    obtain ⟨b₁, hfirst, hrest⟩ := Option.bind_eq_some_iff.mp h
    exact (widens_addColumn? hfirst).trans (ih hrest)

end Board

namespace Seed

theorem widens_addAlike {descriptions : List Fields} {b b' : Board}
    (h : addAlike b descriptions = .ok b') : b.Widens b' := by
  unfold addAlike at h
  split at h
  · cases h
  · obtain ⟨rows, -, h⟩ := except_bind_eq_ok.mp h
    split at h
    · next hadded =>
      cases h
      obtain ⟨specs, -, hspecs⟩ := Option.bind_eq_some_iff.mp hadded
      exact Board.widens_addColumns? hspecs
    · cases h

/-- Seeding only adds columns, or nothing. -/
theorem widens_addColumns {descriptions : List Fields} {b b' : Board}
    (h : addColumns b descriptions = .ok b') : b.Widens b' := by
  obtain ⟨_, -, hgroups⟩ := except_bind_eq_ok.mp h
  clear h
  generalize descriptions.splitBy (fun f g => outline f == outline g) = groups at hgroups
  induction groups generalizing b with
  | nil =>
    obtain rfl : b = b' := Except.ok.inj hgroups
    exact .refl b
  | cons group groups ih =>
    rw [List.foldlM_cons] at hgroups
    obtain ⟨b₁, hfirst, hrest⟩ := except_bind_eq_ok.mp hgroups
    exact (widens_addAlike hfirst).trans (ih hrest)

/-- Seeding adds columns and touches no task. -/
theorem widens_seed (descriptions : List Fields) (c : Conditions) (b : Board) :
    b.Widens (seed descriptions c b).2 := by
  rcases hseed : seed descriptions c b with ⟨f | names, b'⟩
  · obtain rfl := committed_of_error hseed
    exact .refl b'
  · rw [seed, committed_eq_ok] at hseed
    obtain ⟨taken, b₁, hquery, h₁⟩ := bind_eq_ok.mp hseed.1
    obtain ⟨-, -, rfl⟩ := query_eq_ok.mp hquery
    obtain ⟨new, b₂, hnew, h₂⟩ := bind_eq_ok.mp h₁
    obtain ⟨-, rfl⟩ := ofExcept_eq_ok.mp hnew
    obtain ⟨b₃, hadded, h⟩ := except_bind_eq_ok.mp (write_eq_ok.mp h₂)
    cases h
    exact widens_addColumns hadded

end Seed

/-- New columns are no event in the life of a task. -/
theorem Tallies.widens {b b' : Board} {l : List Task} (hb : Tallies b l) (h : b.Widens b') :
    Tallies b' l := by
  obtain ⟨htasks, hcolumns⟩ := h
  refine ⟨by rw [Board.settled, htasks]; exact hb.settled, ?_⟩
  intro t ht
  rw [htasks] at ht
  obtain ⟨c, hc, hid⟩ := hb.housed t ht
  exact ⟨c, hcolumns c hc, hid⟩

/-! ## Runs -/

/-- A step is one of the four operations, called or asked for over HTTP, or it seeds columns. -/
def Step.IsRegular : Step → Prop
  | .call .. | .request _ | .seed _ => True
  | .unit .. | .action _ => False

/-- A step adds its entry to the history, and changes no more. -/
theorem Tallies.perform {e : Event} {b : Board} {l : List Task} (hb : Tallies b l)
    (hstep : e.step.IsRegular) :
    Tallies (e.perform b).2 ((e.entry? b).elim l (Entry.apply l)) := by
  -- an operation adds its entry if it succeeds; seeding only widens the board
  by_cases hoperation : e.step.IsOperation
  · cases houtcome : e.outcome? b with
    | none =>
      rw [Event.perform_of_no_outcome hoperation houtcome, Event.entry?, houtcome]
      exact hb
    | some found =>
      obtain ⟨q, o⟩ := found
      obtain ⟨spacing, b', -, hq, hb'⟩ := Event.outcome?_eq_some houtcome
      rw [hb', Event.entry?, houtcome]
      exact hb.work (transaction_eq_ok.mp hq).1
  · obtain ⟨step, service, codes, conditions⟩ := e
    cases step with
    | seed descriptions =>
      have hboard : ((Seed.seed descriptions).reaction .names conditions b).2 =
          (Seed.seed descriptions conditions b).2 := by
        unfold Work.reaction
        split <;> next hseed => rw [hseed]
      exact hb.widens (hboard ▸ Seed.widens_seed descriptions conditions b)
    | call | request => exact absurd trivial hoperation
    | unit | action => cases hstep

/-- The history of a run tells the tasks that are there after it. -/
theorem Tallies.run {events : List Event} (hsteps : ∀ e ∈ events, e.step.IsRegular) {b : Board}
    {l : List Task} (hb : Tallies b l) :
    Tallies (run b events) ((entries b events).foldl Entry.apply l) := by
  -- on the events, for every board and history: the rest of the run begins where the first step
  -- ends
  induction events generalizing b l with
  | nil => exact hb
  | cons e rest ih =>
    rw [List.forall_mem_cons] at hsteps
    have hrest := ih hsteps.2 (hb.perform hsteps.1)
    rw [Kanban.run, List.foldl_cons, ← Kanban.run, entries, List.foldl_append]
    cases hentry : e.entry? b with
    | none => simpa [hentry] using hrest
    | some x => simpa [hentry] using hrest

/-- From a board without tasks, whatever is created, moved, placed, deleted and seeded, and whatever
of it fails: the tasks on the board are those that were created and not deleted since, as their
creation settled them, under distinct ids and in columns that exist. What was created or deleted is
what whoever asked for it was told, and a step that tells of no outcome has changed nothing. Both
reads show all of these tasks. -/
theorem history_run {b : Board} (hb : b.tasks = []) {events : List Event}
    (hsteps : ∀ e ∈ events, e.step.IsRegular) :
    ((run b events).tasks.map Task.settled = (present (entries b events)).map Task.settled ∧
      ((run b events).tasks.map Task.id).Nodup ∧
      ∀ t ∈ (run b events).tasks, ∃ c ∈ (run b events).columns, c.id = t.column) ∧
    (∀ (e : Event) (b₁ : Board), e.step.IsOperation →
      (∀ q o, e.outcome? b₁ = some (q, o) →
        (e.perform b₁).1 = .outcome o ∨ (e.perform b₁).1 = .answer (Http.outcomeAnswer o)) ∧
      (e.outcome? b₁ = none → (e.perform b₁).2 = b₁)) ∧
    Http.ShowsAll (run b events) := by
  have hstart : Tallies b [] :=
    ⟨by simp [Board.settled, hb], fun t ht => absurd ht (by simp [hb])⟩
  have hend := hstart.run hsteps
  refine ⟨⟨hend.settled, (run b events).taskIds_nodup, hend.housed⟩, ?_,
    Http.showsAll hend.housed⟩
  intro e b₁ hstep
  exact ⟨fun q o => Event.reaction_of_outcome, Event.perform_of_no_outcome hstep⟩

/-- Two columns are seeded and two tasks created, one of them over HTTP. The second one is deleted,
and its id goes to a third one. A deletion and a move fail. -/
def shortHistory : List Event :=
  let create : Step :=
    .call (some 4) (some 2) (.create (.int 1) (.text "x") .null .null .null .null)
  let post : Http.Request :=
    ⟨"POST", "/api/kanban/tasks",
      .value (.object [("columnName", .text "todo"), ("title", .text "x")]), none⟩
  let column (name : String) (place : Int) : Fields :=
    [("name", .text name), ("display_name", .text name), ("position", .int place)]
  let steps : List (String × Step) :=
    [("", .seed [column "done" 1, column "todo" 0]), ("a", create), ("b", .request post),
      ("", .call (some 4) (some 2) (.delete (.int 9))),
      ("", .call (some 4) (some 2) (.delete (.int 2))), ("c", create),
      ("", .call (some 4) (some 2) (.move (.int 1) (.int 2) .null (.bool false) .null)),
      ("", .call (some 4) (some 2) (.move (.int 1) (.int 3) .null (.bool false) .null))]
  steps.map fun (code, step) => ⟨step, ⟨[], none⟩, fun _ => code, ⟨⟨0⟩, none⟩⟩

/-- The two tasks that are left are shown by the read of the board and by that of a column. -/
theorem history_run_short :
    let b := run .empty shortHistory
    let todo : Column := ⟨2, "todo", "todo", none, .integer 0⟩
    let done : Column := ⟨1, "done", "done", none, .integer 1⟩
    let first : Task := ⟨1, ⟨"a", "x", "", "medium", none, []⟩, 2, 0, ⟨0⟩, ⟨0⟩⟩
    let third : Task := ⟨2, ⟨"c", "x", "", "medium", none, []⟩, 1, 4, ⟨0⟩, ⟨0⟩⟩
    let read (path : String) :=
      (Http.respond ⟨[], none⟩ "" ⟨"GET", path, .absent, none⟩ ⟨⟨0⟩, none⟩ b).1
    b.tasks.map Task.settled = [first.settled, third.settled] ∧ Http.ShowsAll b ∧
      (read "/api/kanban").body = .object
        [("columns", .list [todo.record, done.record]),
          ("tasks", .object [("todo", .list [first.record]), ("done", .list [third.record])])] ∧
      (read "/api/kanban/columns/2").body = .object
        [("column", todo.record), ("tasks", .list [first.record]),
          ("orderingEtag", .text (EntityTag.ofOrdering 2 [(1, 0)]))] := by
  intro b todo done first third read
  have hsteps : ∀ e ∈ shortHistory, e.step.IsRegular := by simp [shortHistory, Step.IsRegular]
  obtain ⟨⟨hsettled, -, -⟩, -, hshown⟩ := history_run (b := .empty) rfl hsteps
  -- the columns are shown by their places, and not in the order in which they were added
  have hcolumns : (run .empty shortHistory).orderedColumns =
      [⟨2, "todo", "todo", none, .integer 0⟩, ⟨1, "done", "done", none, .integer 1⟩] := by
    have hseeded : (run .empty shortHistory).columns =
      [⟨1, "done", "done", none, .integer 1⟩, ⟨2, "todo", "todo", none, .integer 0⟩] := by cbv
    rw [Board.orderedColumns, hseeded]
    simp [List.mergeSort, Column.precedes]
  have hcolumn : (run .empty shortHistory).column? (2 : Nat) =
      some ⟨2, "todo", "todo", none, .integer 0⟩ := by cbv
  have hfirst : (run .empty shortHistory).order 2 =
      [⟨1, ⟨"a", "x", "", "medium", none, []⟩, 2, 0, ⟨0⟩, ⟨0⟩⟩] := by cbv
  have hthird : (run .empty shortHistory).order 1 =
      [⟨2, ⟨"c", "x", "", "medium", none, []⟩, 1, 4, ⟨0⟩, ⟨0⟩⟩] := by cbv
  refine ⟨hsettled.trans (by cbv), hshown, ?_, ?_⟩
  · have hread : read "/api/kanban" = Http.fresh b.record := congrArg Prod.fst
      (Http.respond_board (Http.routed?_board "GET" .absent none) rfl (by simp))
    rw [hread]
    simp only [Http.fresh, Http.Answer.json, Board.record, b, hcolumns, List.map_cons,
      List.map_nil, hfirst, hthird, todo, done, first, third]
  · have hread : read "/api/kanban/columns/2" = Http.fresh (Http.columnRecord b todo) :=
      congrArg Prod.fst (Http.respond_column (Http.routed?_column "GET" .absent none
        (Http.lt_of_fits (by decide : Stored.Fits (2 : Nat)))) hcolumn (by decide) rfl (by simp))
    rw [hread]
    simp only [Http.fresh, Http.Answer.json, Http.columnRecord, b, todo, hfirst, List.map_cons,
      List.map_nil, first, Task.entry]

end Kanban
