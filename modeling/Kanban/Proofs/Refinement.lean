import Kanban.Proofs.Asking
import Kanban.Proofs.Confinement
import Kanban.Proofs.Lineup
import Mathlib

/-!
# Operations as changes of lineups

Seen through the lineup of the board, each operation that succeeds is a single change of lists of ids
(`Operation.Request.change`), and one that fails is none. No renumbering is seen: neither one that
makes room for a task before it is written, nor one that follows a write. What change a call asks for
is read off the arguments as they are given (`Call.change`). `lineup_run` says so of whole runs.
-/

namespace Kanban

open Work

/-! ## The change of an operation -/

namespace Operation

/-- The change of a move to a column. A reference that is not in the column counts as none when a
position is given. -/
def MoveRequest.change (b : Board) (column : Int) (r : MoveRequest) : Change :=
  match r.reference, r.position with
  | none, none => .last r.task column
  | none, some position => .sorted r.task column position (b.entries column)
  | some reference, fallback =>
    if reference ∈ b.lineup column then .beside r.task column reference r.after
    else
      match fallback with
      | some position => .sorted r.task column position (b.entries column)
      | none => .keep

/-- The change of an operation that succeeds on a board. -/
def Request.change (b : Board) : Request → Change
  | .create r => .append r.column b.nextTaskId
  | .move r =>
    match b.task? r.task with
    | some t => r.change b (b.destination t r)
    | none => .keep
  | .batch r =>
    .resort r.column
      ((b.entries r.column).map fun e => (e.1, (r.targets.lookup e.1).getD e.2))
  | .delete task => .remove task

end Operation

/-! ## Moves -/

namespace Board

/-- A task that is placed next to a reference stands next to it in the lineup. -/
theorem lineup_of_place {b : Board} {t : Task} (ht : t ∈ b.tasks) {column reference p gap : Int}
    {after : Bool} (hgap : 1 ≤ gap) {now : Timestamp}
    (h : Position.place (b.entriesWithout column t.id) (some reference) after gap = .ok p) :
    (b.putTask t.id column p now).lineup =
      (Change.beside t.id column reference after).apply b.lineup := by
  obtain ⟨e₁, q, e₂, he, -, hside⟩ :=
    Position.place_eq_ok (b.entriesWithout_ascending column t.id) hgap h
  obtain ⟨l₁, l, hl, rfl, hrest⟩ := List.map_eq_append_iff.mp he
  obtain ⟨u, l₂, rfl, hu, rfl⟩ := List.map_eq_cons_iff.mp hrest
  obtain ⟨rfl, rfl⟩ : u.id = reference ∧ u.position = q := by simpa [Task.entry] using hu
  apply lineup_putTask_beside ht hl
  cases after with
  | true => simpa [Task.entry] using hside
  | false => simpa [Task.entry] using hside

/-- The reference of a task that is placed next to it is in the column. -/
theorem mem_lineup_of_place {b : Board} {task column reference p gap : Int} {after : Bool}
    (h : Position.place (b.entriesWithout column task) (some reference) after gap = .ok p) :
    reference ∈ b.lineup column :=
  mem_lineup.mpr (mem_ids_entriesWithout.mp (Position.mem_of_place_eq_ok h)).2

/-- Renumbering a column leaves the task under an id in its place among the tasks. -/
theorem exists_mem_renumbered {b : Board} {t : Task} (ht : t ∈ b.tasks) (column gap : Int)
    (now : Timestamp) : ∃ s ∈ (b.renumbered column gap now).tasks, s.id = t.id :=
  ⟨_, List.mem_map_of_mem ht, retarget_id _ now t⟩

end Board

namespace Operation

variable {c : Conditions} {b b' : Board} {spacing : Spacing}

/-- Wherever a moved task lands, the lineup sees the change of the move. -/
theorem Lands.lineup_eq {now : Timestamp} {column p : Int} {r : MoveRequest} {cleared : Bool}
    {b₁ : Board} (h : Lands spacing now b column r p cleared b₁) {t : Task} (ht : t ∈ b.tasks)
    (hid : t.id = r.task) (hgap : 1 ≤ spacing.gap) (hsound : r.reference ≠ some r.task) :
    (b₁.putTask r.task column p now).lineup = (r.change b column).apply b.lineup := by
  rw [← hid] at hsound ⊢
  cases h with
  | explicit href hpos =>
    rw [Board.lineup_putTask_sorted ht, MoveRequest.change, href, hpos, hid]
  | last href hpos =>
    have hbeyond : ∀ s ∈ b.orderWithout column t.id,
        s.position < Position.atEnd (b.entriesWithout column t.id) spacing.gap := by
      intro s hs
      have := Board.position_add_le_atEnd_without hs spacing.gap
      omega
    rw [← hid, Board.lineup_putTask_last ht hbeyond, MoveRequest.change, href, hpos, hid]
  | beside href hplace =>
    rw [← hid] at hplace
    have hmem := Board.mem_lineup_of_place hplace
    rw [Board.lineup_of_place ht hgap hplace, MoveRequest.change, href, hid]
    simp only [if_pos hmem]
  | fallback href hmissing hpos =>
    rename_i reference
    -- the lists differ by the moved task alone, and that is not the reference
    have hmem : reference ∉ b.lineup column := by
      intro hmem
      rw [href] at hsound
      refine hmissing (Board.mem_ids_entriesWithout.mpr ⟨?_, Board.mem_lineup.mp hmem⟩)
      rintro rfl
      exact hsound (by rw [hid])
    rw [Board.lineup_putTask_sorted ht, MoveRequest.change, href, hpos, hid]
    simp only [if_neg hmem]
  | cleared href hfull hplace =>
    rename_i reference lower upper
    rw [← hid] at hplace
    -- the place is found on the renumbered board, whose lineup is that of the first one
    obtain ⟨s, hs, hst⟩ := Board.exists_mem_renumbered ht column spacing.gap now
    rw [← hst] at hplace
    have hmem := Board.mem_lineup_of_place hplace
    rw [Board.lineup_renumbered b column hgap now] at hmem
    rw [← hst, Board.lineup_of_place hs hgap hplace, Board.lineup_renumbered b column hgap now,
      MoveRequest.change, href, hst, hid]
    simp only [if_pos hmem]

end Operation

/-! ## Batches -/

/-- Tasks of a column that get new positions are sorted by them. -/
theorem Board.lineup_reposition {b : Board} {column : Int} {targets : List (Int × Int)}
    {now : Timestamp}
    (h : ∀ id ∈ targets.map Prod.fst, ∃ t ∈ b.order column, t.id = id) :
    (b.reposition targets now).lineup =
      (Change.resort column
        ((b.entries column).map fun e => (e.1, (targets.lookup e.1).getD e.2))).apply b.lineup := by
  funext c
  by_cases hc : c = column
  · subst hc
    have hentries : ((b.entries c).map fun e => (e.1, (targets.lookup e.1).getD e.2)) =
        ((b.order c).map (retarget targets now)).map Task.entry := by
      simp [entries, Task.entry, Function.comp_def]
    -- sorting the tasks by their rows sorts their entries by position and id
    have hsort : (((b.order c).map (retarget targets now)).mergeSort Task.precedes).map Task.entry =
        (((b.order c).map (retarget targets now)).map Task.entry).mergeSort
          fun e f => Upto e f :=
      List.map_mergeSort fun s _ t _ => precedes_eq_upto s t
    rw [Change.apply, Lineup.set, Function.update_self, hentries, ← hsort, ← order_reposition,
      List.map_map]
    rfl
  · rw [Change.apply, Lineup.set, Function.update_of_ne hc, lineup, order_reposition_of_ne hc h]
    rfl

/-! ## Operations -/

/-- An operation that has succeeded has made its change. -/
theorem Operation.Request.lineup_eq {q : Operation.Request} (hsound : q.Sound) {spacing : Spacing}
    (hgap : 1 ≤ spacing.gap) {code : String} {c : Conditions} {b b' : Board} {o : Outcome}
    (h : q.work spacing code c b = (.ok o, b')) : b'.lineup = (q.change b).apply b.lineup := by
  cases q with
  | create r =>
    obtain ⟨t, hwork, -⟩ := map_eq_ok.mp h
    obtain ⟨-, card, hcode, -, rfl⟩ := creation_eq_ok hwork
    -- the end of the column lies behind all of its tasks
    apply Board.lineup_addTask
    intro t ht
    have := Board.position_add_le_atEnd ht spacing.gap
    omega
  | move r =>
    obtain ⟨m, hwork, -⟩ := map_eq_ok.mp h
    obtain ⟨t, p, cleared, b₁, htask, -, hlands, rfl, -, -⟩ := relocation_eq_ok hwork
    obtain ⟨ht, hid⟩ := Board.task?_eq_some_iff.mp htask
    -- making room and watching the column leave the lineup as it is
    rw [Board.lineup_eased _ hgap, hlands.lineup_eq ht hid hgap hsound, change, htask]
  | batch r =>
    obtain ⟨placed, hwork, -⟩ := map_eq_ok.mp h
    obtain ⟨-, hnamed, rfl, -⟩ := placement_eq_ok hwork
    rw [Board.lineup_eased _ hgap, Board.lineup_reposition hnamed, change]
  | delete task =>
    obtain ⟨x, hwork, -⟩ := map_eq_ok.mp h
    obtain ⟨-, rfl⟩ := deletion_eq_ok hwork
    exact b.lineup_removeTask task

/-! ## Calls -/

def Json.int? : Json → Option Int
  | .int n => some n
  | _ => none

/-- The task and the position that an entry of a batch names. The field of the task has two
spellings, of which the first one counts. -/
def entryTarget? : Json → Option (Int × Int)
  | .object fields =>
    match (Fields.get? fields "taskId").getD (Fields.get fields "task_id"),
      Fields.get fields "position" with
    | .int task, .int position => some (task, position)
    | _, _ => none
  | _ => none

/-- The change that a call asks for on a board, read off its arguments as they are given. -/
def Call.change (b : Board) : Call → Change
  | .create (.int column) .. => .append column b.nextTaskId
  | .move (.int task) column reference (.bool after) position =>
    (Operation.Request.move ⟨task, column.int?, reference.int?, after, position.int?⟩).change b
  | .batch (.int column) (.list entries) =>
    (Operation.Request.batch ⟨column, entries.filterMap entryTarget?⟩).change b
  | .delete (.int task) => .remove task
  | _ => .keep

namespace Operation

theorem int?_of_integerArgument? {field : Field} {value : Json} {n : Option Int}
    (h : integerArgument? field value = .ok n) : value.int? = n := by
  cases value with
  | null | int => exact Except.ok.inj h
  | _ => cases h

theorem int?_of_positionArgument? {value : Json} {n : Option Int}
    (h : positionArgument? value = .ok n) : value.int? = n := by
  unfold positionArgument? at h
  split at h
  · exact Except.ok.inj h
  · obtain ⟨p, hp, rfl⟩ := except_map_eq_ok.mp h
    obtain ⟨rfl, -⟩ := positionArgument_eq_ok.mp hp
    rfl

/-- A side is given by a truth value, and by nothing that only counts as one. -/
theorem sideArgument_eq_ok {value : Json} {after : Bool} :
    sideArgument value = .ok after ↔ value = .bool after := by
  cases value with
  | bool b => simp [sideArgument]
  | _ => simp [sideArgument]

/-- An accepted entry of a batch names the target that it is accepted for. -/
theorem entryTarget?_of_targetArgument {entry : Json} {target : Int × Int}
    (h : targetArgument entry = .ok target) : entryTarget? entry = some target := by
  unfold targetArgument at h
  split at h
  · next fields =>
    obtain ⟨task, htask, h₁⟩ := except_bind_eq_ok.mp h
    obtain ⟨position, hposition, h₂⟩ := except_bind_eq_ok.mp h₁
    cases h₂
    rw [entryTarget?, integerArgument_eq_ok.mp htask, (positionArgument_eq_ok.mp hposition).1]
  · cases h

/-- All entries of an accepted batch name their targets, in order. -/
theorem filterMap_of_targetArguments {entries : List Json} {listed : List Int}
    {targets : List (Int × Int)} (h : targetArguments listed entries = .ok targets) :
    entries.filterMap entryTarget? = targets := by
  induction entries generalizing listed targets with
  | nil => exact Except.ok.inj h
  | cons entry rest ih =>
    obtain ⟨target, htarget, h₁⟩ := except_bind_eq_ok.mp h
    split at h₁
    · cases h₁
    · obtain ⟨others, hothers, h₂⟩ := except_bind_eq_ok.mp h₁
      cases h₂
      rw [List.filterMap_cons_some (entryTarget?_of_targetArgument htarget), ih hothers]

end Operation

/-- A call whose arguments are accepted asks for the change of its request. -/
theorem Call.change_of_request {call : Call} {q : Operation.Request} (h : call.request = .ok q)
    (b : Board) : call.change b = q.change b := by
  cases call with
  | create column =>
    obtain ⟨r, hr, rfl⟩ := except_map_eq_ok.mp h
    obtain ⟨column', hcolumn, h₁⟩ := except_bind_eq_ok.mp hr
    obtain ⟨title', -, h₂⟩ := except_bind_eq_ok.mp h₁
    cases h₂
    rw [Operation.integerArgument_eq_ok.mp hcolumn]
    rfl
  -- the arguments are read in this order, but for the side, which comes last
  | move task column reference after position =>
    obtain ⟨r, hr, rfl⟩ := except_map_eq_ok.mp h
    obtain ⟨task', htask, h₁⟩ := except_bind_eq_ok.mp hr
    obtain ⟨column', hcolumn, h₂⟩ := except_bind_eq_ok.mp h₁
    obtain ⟨reference', hreference, h₃⟩ := except_bind_eq_ok.mp h₂
    split at h₃
    · cases h₃
    · obtain ⟨position', hposition, h₄⟩ := except_bind_eq_ok.mp h₃
      obtain ⟨after', hafter, h₅⟩ := except_bind_eq_ok.mp h₄
      cases h₅
      rw [Operation.integerArgument_eq_ok.mp htask, Operation.sideArgument_eq_ok.mp hafter, change,
        Operation.int?_of_integerArgument? hcolumn, Operation.int?_of_integerArgument? hreference,
        Operation.int?_of_positionArgument? hposition]
  | batch column positions =>
    obtain ⟨r, hr, rfl⟩ := except_map_eq_ok.mp h
    unfold Operation.BatchRequest.ofArguments at hr
    -- a null column is told before the positions are looked at
    split at hr
    · cases hr
    · obtain ⟨column', hcolumn, h₁⟩ := except_bind_eq_ok.mp hr
      split at h₁
      · obtain ⟨targets, htargets, h₂⟩ := except_bind_eq_ok.mp h₁
        cases h₂
        rw [Operation.integerArgument_eq_ok.mp hcolumn, change,
          Operation.filterMap_of_targetArguments htargets]
      · cases h₁
  | delete task =>
    obtain ⟨id, hid, rfl⟩ := except_map_eq_ok.mp h
    rw [Operation.integerArgument_eq_ok.mp hid]
    rfl

/-! ## Runs -/

/-- The change that an event makes on a board: what its call asks for when it succeeds, and else
none. -/
def Event.change (e : Event) (b : Board) : Change :=
  match e.call? b with
  | some call => if (e.perform b).1.Failed then .keep else call.change b
  | none => .keep

/-- An event makes its change. -/
theorem Event.lineup_perform {e : Event} (hstep : e.step.IsOperation)
    (hgap : ∀ spacing ∈ e.spacing?, 1 ≤ spacing.gap) (b : Board) :
    (e.perform b).2.lineup = (e.change b).apply b.lineup := by
  unfold change
  cases hrequest : e.request? b with
  -- nothing is asked for, so the call, if there is one, has failed
  | none =>
    rw [perform_of_no_request hstep hrequest]
    cases hcall : e.call? b with
    | none => rfl
    | some call =>
      simp only [if_pos (failed_of_no_request hcall hrequest)]
      rfl
  | some asked =>
    obtain ⟨spacing, q⟩ := asked
    obtain ⟨hspacing, hsound⟩ := request?_eq_some hrequest
    obtain ⟨call, hcall, hq⟩ := exists_call?_of_request? hrequest
    rw [hcall]
    rcases perform_of_request? hrequest with ⟨o, hwork, hfailed⟩ | ⟨f, -, hb, hfailed⟩
    -- what the call names is what its request has changed
    · simp only [if_neg hfailed, Call.change_of_request hq]
      exact q.lineup_eq hsound (hgap spacing hspacing) (transaction_eq_ok.mp hwork).1
    · simp only [if_pos hfailed]
      rw [hb]
      rfl

def changes : Board → List Event → List Change
  | _, [] => []
  | b, e :: rest => e.change b :: changes (e.perform b).2 rest

/-- A run makes the changes of its events, whatever they are, in whatever order they come, and
wherever the database stops working. An event over HTTP has the change of the call that its address and
its fields spell out. -/
theorem lineup_run {events : List Event} (hstep : ∀ e ∈ events, e.step.IsOperation)
    (hgap : ∀ e ∈ events, ∀ spacing ∈ e.spacing?, 1 ≤ spacing.gap) (b : Board) :
    (run b events).lineup = (changes b events).foldl (fun l x => x.apply l) b.lineup ∧
    ∀ (b : Board) (task : Nat) (fields : Fields) (tag : Option String),
      task < 10 ^ Numeral.maxDigits → Http.SpellOut b task fields tag := by
  refine ⟨?_, fun b task fields tag h => Http.spellOut b h fields tag⟩
  -- on the events, for every board: the rest of the run begins where the first event ends
  induction events generalizing b with
  | nil => rfl
  | cons e rest ih =>
    rw [List.forall_mem_cons] at hstep hgap
    rw [run, List.foldl_cons, ← run, ih hstep.2 hgap.2, Event.lineup_perform hstep.1 hgap.1, changes,
      List.foldl_cons]

/-- The fourth task goes from the second column to the first one, right before the last task there. -/
def crossingFields : Fields :=
  [("columnName", .text "todo"), ("targetTaskId", .int 3), ("insertAfter", .bool false)]

/-- The third task goes right after the first one, for which the column is renumbered. Then the two
tasks of the other column follow: one over HTTP, by the name of the column, and one at a position below
all others. A task that is not there stays where it is. -/
def crossRun : List Event :=
  [.ofCall 4 2 "" (.move (.int 3) .null (.int 1) (.bool true) .null),
    { Event.ofCall 4 2 "" (.delete .null) with
      step := .request ⟨"PUT", "/api/kanban/tasks/4", .value (.object crossingFields), none⟩ },
    .ofCall 4 2 "" (.move (.int 5) (.int 1) .null (.bool false) (.int (-9))),
    .ofCall 4 2 "" (.delete (.int 9))]

theorem lineup_run_across :
    (run splitBoard crossRun).lineup 1 = [5, 1, 4, 3, 2] ∧ (run splitBoard crossRun).lineup 2 = [] := by
  rw [(lineup_run (by simp [crossRun, Event.ofCall, Step.IsOperation]) (by decide) splitBoard).1]
  exact ⟨by cbv, by cbv⟩

end Kanban
