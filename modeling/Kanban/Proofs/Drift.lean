import Kanban.Proofs.Distance
import Kanban.Proofs.Overflow

/-!
# Drift

Without explicit positions a task lands at most a gap beyond the positions that are there, and a
column with no more tasks than there were steps is renumbered to multiples within as many gaps. So after
a number of steps every position lies within as many gaps of zero (`Board.Drifted`, `drift_run`), and
as long as those fit the stored field no step overflows.
-/

namespace Kanban

open Work

/-! ## Places within bounds -/

def Within (distance p : Int) : Prop := -distance ≤ p ∧ p ≤ distance

theorem Within.mono {distance distance' p : Int} (h : Within distance p)
    (hle : distance ≤ distance') : Within distance' p := by
  unfold Within at *
  omega

namespace Position

variable {distance gap : Int}

/-- The end of a column lies at most one gap farther out than its tasks. -/
theorem within_atEnd {κ : Type} {ordered : List (κ × Int)} (hgap : 1 ≤ gap)
    (hdistance : 0 ≤ distance) (h : ∀ e ∈ ordered, Within distance e.2) :
    Within (distance + gap) (atEnd ordered gap) := by
  unfold Within at *
  rcases atEnd_cases ordered gap with ⟨-, heq⟩ | ⟨e, he, heq⟩
  · rw [heq, basePosition]
    omega
  · have := h e he
    omega

/-- A place next to a reference lies at most one gap farther out than the tasks that it was found
among. -/
theorem within_place {κ : Type} [DecidableEq κ] {ordered : List (κ × Int)} (hgap : 1 ≤ gap)
    (hsorted : ordered.Pairwise fun e f => e.2 ≤ f.2) (h : ∀ e ∈ ordered, Within distance e.2)
    {key : κ} {after : Bool} {p : Int} (hp : place ordered (some key) after gap = .ok p) :
    Within (distance + gap) p := by
  unfold Within at *
  rcases place_reach hsorted hp with ⟨e, he, f, hf, hep, hpf⟩ | ⟨q, hq, hside⟩
  · have := h e he
    have := h f hf
    omega
  · have : -distance ≤ q ∧ q ≤ distance := h (_, q) hq
    omega

end Position

/-! ## Drifted boards -/

/-- What a number of steps can have made of a board without tasks. -/
structure Board.Drifted (gap : Int) (steps : Nat) (b : Board) : Prop where
  count : b.tasks.length ≤ steps
  ids : ∀ t ∈ b.tasks, 1 ≤ t.id ∧ t.id ≤ steps
  columns : ∀ t ∈ b.tasks, Stored.Fits t.column
  positions : ∀ t ∈ b.tasks, Within (steps * gap) t.position

theorem steps_succ_mul (steps : Nat) (gap : Int) :
    ((steps + 1 : Nat) : Int) * gap = steps * gap + gap := by
  push_cast
  rw [Int.add_mul, Int.one_mul]

/-- The multiples of a gap that a column of few tasks is renumbered to. -/
theorem within_multiple {gap : Int} (hgap : 1 ≤ gap) {steps i : Nat} (hi : i ≤ steps) :
    Within (steps * gap) (multiple gap i) := by
  have hle : (i : Int) * gap ≤ steps * gap :=
    Int.mul_le_mul_of_nonneg_right (by omega) (by omega)
  have hnonneg : 0 ≤ (i : Int) * gap := Int.mul_nonneg (by omega) (by omega)
  unfold Within multiple basePosition
  omega

namespace Board.Drifted

variable {gap : Int} {spacing : Spacing} {steps : Nat} {b : Board} {column : Int} {now : Timestamp}

theorem succ (h : b.Drifted gap steps) (hgap : 1 ≤ gap) : b.Drifted gap (steps + 1) := by
  refine ⟨Nat.le_succ_of_le h.count, fun t ht => ?_, h.columns, fun t ht => ?_⟩
  · have := h.ids t ht
    omega
  · rw [steps_succ_mul]
    exact (h.positions t ht).mono (by omega)

/-- A new task at most one gap farther out is one more step. -/
theorem addTask (h : b.Drifted gap steps) (hgap : 1 ≤ gap) {card : Card} {position : Int}
    (hcode : card.code ∉ b.tasks.map Task.code) (hcolumn : Stored.Fits column)
    (hposition : Within (steps * gap + gap) position) :
    (b.addTask card column position now hcode).Drifted gap (steps + 1) := by
  have hb := h.succ hgap
  -- every step adds at most one to the largest id
  have hid : 1 ≤ b.nextTaskId ∧ b.nextTaskId ≤ steps + 1 := by
    unfold nextTaskId nextId
    split
    · omega
    · next largest hmax =>
      obtain ⟨t, ht, rfl⟩ := List.mem_map.mp (List.max?_eq_some_iff.mp hmax).1
      have := h.ids t ht
      omega
  -- what holds of the old tasks and of the new one holds of all
  have hnew : ∀ {P : Task → Prop}, (∀ t ∈ b.tasks, P t) →
      P (b.newTask card column position now) →
      ∀ t ∈ (b.addTask card column position now hcode).tasks, P t := by
    intro P hold hnew t ht
    rw [tasks_addTask, List.mem_append, List.mem_singleton] at ht
    rcases ht with ht | rfl
    · exact hold t ht
    · exact hnew
  refine ⟨by simpa using h.count, hnew hb.ids ?_, hnew hb.columns hcolumn, hnew hb.positions ?_⟩
  · simpa [newTask] using hid
  · rw [steps_succ_mul]
    exact hposition

theorem removeTask (h : b.Drifted gap steps) (id : Int) : (b.removeTask id).Drifted gap steps := by
  have hmem : ∀ t ∈ (b.removeTask id).tasks, t ∈ b.tasks := fun t ht => (List.mem_filter.mp ht).1
  exact ⟨(List.length_filter_le ..).trans h.count, fun t ht => h.ids t (hmem t ht),
    fun t ht => h.columns t (hmem t ht), fun t ht => h.positions t (hmem t ht)⟩

/-- A task that is put at most one gap farther out is one more step. -/
theorem putTask (h : b.Drifted gap steps) (hgap : 1 ≤ gap) {id position : Int}
    (hcolumn : Stored.Fits column) (hposition : Within (steps * gap + gap) position) :
    (b.putTask id column position now).Drifted gap (steps + 1) := by
  have hb := h.succ hgap
  refine ⟨by simpa using hb.count, fun t ht => ?_, fun t ht => ?_, fun t ht => ?_⟩ <;>
    rcases mem_tasks_putTask.mp ht with ⟨ht, -⟩ | ⟨s, hs, -, rfl⟩
  · exact hb.ids t ht
  · rw [Task.put_id]
    exact hb.ids s hs
  · exact h.columns t ht
  · rwa [Task.put_column]
  · exact hb.positions t ht
  · rwa [Task.put_position, steps_succ_mul]

/-- A renumbering is no step: there are no more tasks than there were steps, so their multiples lie
within as many gaps. -/
theorem renumbered (h : b.Drifted gap steps) (hgap : 1 ≤ gap) :
    (b.renumbered column gap now).Drifted gap steps := by
  refine ⟨by simpa [Board.renumbered] using h.count, fun t ht => ?_, fun t ht => ?_,
    fun t ht => ?_⟩ <;> obtain ⟨s, hs, rfl⟩ := List.mem_map.mp ht
  · rw [retarget_id]
    exact h.ids s hs
  · rw [retarget_column]
    exact h.columns s hs
  · rw [retarget_position]
    cases hlookup : (Store.misplaced (b.order column) gap).lookup s.id with
    | none => exact h.positions s hs
    | some position =>
      -- a rewritten task stands at the multiple of its place, and there are no more places than
      -- there were steps
      have hnodup := (b.nodup_ids_order column).sublist (misplaced_ids_sublist _ gap)
      obtain ⟨i, t, hi, -, rfl, -⟩ := mem_misplaced.mp ((lookup_eq_some_iff_mem hnodup).mp hlookup)
      have hlt := (List.getElem?_eq_some_iff.mp hi).1
      have hlength := b.length_order_le column
      have hcount := h.count
      exact within_multiple hgap (by omega)

/-- Watching a column is no step either. -/
theorem eased (h : b.Drifted spacing.gap steps) (hgap : 1 ≤ spacing.gap) :
    (b.eased spacing column now).Drifted spacing.gap steps := by
  unfold Board.eased
  split
  · exact h.renumbered hgap
  · exact h

/-- When as many gaps as there were steps fit the stored field, a drifted board is roomy. -/
theorem roomy (h : b.Drifted gap steps) (hgap : 1 ≤ gap) (hfits : steps * gap < 2 ^ 63) :
    b.Roomy gap := by
  have hsteps : (steps : Int) * 1 ≤ steps * gap := Int.mul_le_mul_of_nonneg_left hgap (by omega)
  refine ⟨fun t ht => ⟨?_, h.columns t ht⟩, fun i hi => ?_⟩
  · have := h.ids t ht
    unfold Stored.Fits Stored.minInteger Stored.maxInteger
    omega
  · have hcount := h.count
    have := within_multiple hgap (show i ≤ steps by omega)
    unfold Within at this
    unfold Stored.Fits Stored.minInteger Stored.maxInteger
    omega

theorem within_entries (h : b.Drifted gap steps) :
    ∀ e ∈ b.entries column, Within (steps * gap) e.2 := by
  intro e he
  obtain ⟨t, ht, rfl⟩ := List.mem_map.mp he
  exact h.positions t (mem_order.mp ht).1

theorem within_entriesWithout (h : b.Drifted gap steps) (task : Int) :
    ∀ e ∈ b.entriesWithout column task, Within (steps * gap) e.2 := by
  intro e he
  obtain ⟨t, ht, -, rfl⟩ := exists_of_mem_entriesWithout he
  exact h.positions t (mem_order.mp ht).1

theorem within_atEnd (h : b.Drifted gap steps) (hgap : 1 ≤ gap) :
    Within (steps * gap + gap) (Position.atEnd (b.entries column) gap) := by
  have hsteps : 0 ≤ (steps : Int) * gap := Int.mul_nonneg (by omega) (by omega)
  exact Position.within_atEnd hgap hsteps h.within_entries

end Board.Drifted

/-! ## Operations without explicit positions -/

namespace Operation

def Request.Unplaced : Request → Prop
  | .create _ | .delete _ => True
  | .move r => r.position = none
  | .batch _ => False

/-- The integers of a request fit stored fields: its ids, its positions, and what is to be written on a
task as an integer. -/
def Request.IntegersFit : Request → Prop
  | .create r => Stored.Fits r.column ∧ (∀ n, r.priority = .int n → Stored.Fits n) ∧
      ∀ n, r.assignee = .int n → Stored.Fits n
  | .move r => Stored.Fits r.task ∧ (∀ column ∈ r.column, Stored.Fits column) ∧
      (∀ reference ∈ r.reference, Stored.Fits reference) ∧
      ∀ position ∈ r.position, Stored.Fits position
  | .batch r => Stored.Fits r.column ∧
      ∀ target ∈ r.targets, Stored.Fits target.1 ∧ Stored.Fits target.2
  | .delete task => Stored.Fits task

variable {spacing : Spacing} {now : Timestamp} {c : Conditions} {b b₁ b' : Board} {steps : Nat}

/-- Without an explicit position a task lands at most a gap beyond what is there. -/
theorem Lands.within {column p : Int} {r : MoveRequest} {cleared : Bool}
    (h : Lands spacing now b column r p cleared b₁) (hb : b.Drifted spacing.gap steps)
    (hgap : 1 ≤ spacing.gap) (hpos : r.position = none) :
    b₁.Drifted spacing.gap steps ∧ Within (steps * spacing.gap + spacing.gap) p := by
  have hplaced : ∀ {b₂ : Board} {reference : Int}, b₂.Drifted spacing.gap steps →
      Position.place (b₂.entriesWithout column r.task) (some reference) r.after spacing.gap = .ok p →
      Within (steps * spacing.gap + spacing.gap) p := fun hb₂ hplace =>
    Position.within_place hgap (Board.entriesWithout_ascending _ column r.task)
      (hb₂.within_entriesWithout r.task) hplace
  cases h with
  | explicit _ hpos' | fallback _ _ hpos' => simp [hpos] at hpos'
  | last =>
    have hsteps : 0 ≤ (steps : Int) * spacing.gap := Int.mul_nonneg (by omega) (by omega)
    exact ⟨hb, Position.within_atEnd hgap hsteps (hb.within_entriesWithout r.task)⟩
  | beside _ hplace => exact ⟨hb, hplaced hb hplace⟩
  | cleared _ _ hplace => exact ⟨hb.renumbered hgap, hplaced (hb.renumbered hgap) hplace⟩

/-- An operation without explicit positions that has succeeded is one step. -/
theorem Request.drifted {q : Request} (hq : q.Unplaced) (hgap : 1 ≤ spacing.gap)
    (hb : b.Drifted spacing.gap steps) {code : String} {o : Outcome}
    (h : q.work spacing code c b = (.ok o, b')) : b'.Drifted spacing.gap (steps + 1) := by
  cases q with
  | create r =>
    obtain ⟨t, hwork, -⟩ := map_eq_ok.mp h
    obtain ⟨-, card, hcode, -, rfl⟩ := creation_eq_ok hwork
    exact hb.addTask hgap hcode (fits_of_creation hwork) (hb.within_atEnd hgap)
  | move r =>
    obtain ⟨m, hwork, -⟩ := map_eq_ok.mp h
    obtain ⟨t, p, cleared, b₁, ht, -, hlands, rfl, -, -⟩ := relocation_eq_ok hwork
    -- making room moves no task farther out, and the place lies one gap farther out at most
    obtain ⟨hb₁, hp⟩ := hlands.within hb hgap hq
    exact (hb₁.putTask hgap (fits_of_relocation hwork ht).2.1 hp).eased hgap
  | batch r => cases hq
  | delete task =>
    obtain ⟨x, hwork, -⟩ := map_eq_ok.mp h
    obtain ⟨-, rfl⟩ := deletion_eq_ok hwork
    -- a deletion moves no task, but it counts as a step as well
    exact (hb.removeTask task).succ hgap

/-- A title is a string before it is stored. -/
theorem NewTask.title_ne_int {column title description priority assignee tags : Json} {r : NewTask}
    (h : NewTask.ofArguments column title description priority assignee tags = .ok r) (n : Int) :
    r.title ≠ .int n := by
  obtain ⟨column', -, h₁⟩ := except_bind_eq_ok.mp h
  obtain ⟨title', htitle, h₂⟩ := except_bind_eq_ok.mp h₁
  cases h₂
  unfold titleArgument at htitle
  split at htitle
  · split at htitle
    · cases htitle
    · cases htitle
      simp
  · cases htitle
    simp
  · cases htitle

/-- As long as the next number of gaps fits, so does a position that lies within it. -/
theorem fits_of_within {gap p : Int} (hfits : ((steps + 1 : Nat) : Int) * gap < 2 ^ 63)
    (hp : Within (steps * gap + gap) p) : Stored.Fits p := by
  rw [steps_succ_mul] at hfits
  unfold Within at hp
  unfold Stored.Fits Stored.minInteger Stored.maxInteger
  omega

end Operation

/-- A call that names no position does not overflow as the next step, when its integers fit and so do
as many gaps as there are steps with it. -/
theorem Call.noOverflow_perform {call : Call} {q : Operation.Request} {spacing : Spacing}
    {code : String} {c : Conditions} {b : Board} {steps : Nat} (hrequest : call.request = .ok q)
    (hunplaced : q.Unplaced) (hintegers : q.IntegersFit) (hgap : 1 ≤ spacing.gap)
    (hb : b.Drifted spacing.gap steps)
    (hfits : ((steps + 1 : Nat) : Int) * spacing.gap < 2 ^ 63) :
    (call.perform spacing code).NoOverflow c b := by
  -- there is room for the multiples, as there are no more tasks than there were steps
  have hroomy : b.Roomy spacing.gap := by
    refine hb.roomy hgap ?_
    rw [steps_succ_mul] at hfits
    omega
  rw [Call.perform_of_request hrequest]
  apply NoOverflow.transaction
  cases q with
  | create r =>
    obtain ⟨hcolumn, hpriority, hassignee⟩ := hintegers
    -- a title is a text, so it is not bound as an integer
    have htitle : ∀ n, r.title ≠ .int n := by
      cases call with
      | create =>
        obtain ⟨r', hr, heq⟩ := except_map_eq_ok.mp hrequest
        cases heq
        exact Operation.NewTask.title_ne_int hr
      | move | batch | delete =>
        obtain ⟨r', -, heq⟩ := except_map_eq_ok.mp hrequest
        cases heq
    have hend : Stored.Fits (Position.atEnd (b.entries r.column) spacing.gap) :=
      Operation.fits_of_within hfits (hb.within_atEnd hgap)
    exact (Operation.noOverflow_creation hcolumn hend htitle hpriority hassignee).map
  | move r =>
    obtain ⟨htask, hcolumn, href, -⟩ := hintegers
    exact (Operation.noOverflow_relocation hroomy htask hcolumn href fun hlands =>
      Operation.fits_of_within hfits (hlands.within hb hgap hunplaced).2).map
  | batch r => cases hunplaced
  | delete task => exact (Operation.noOverflow_deletion hintegers).map

/-! ## Runs -/

namespace Event

/-- An event that asks for no position, on whatever board it comes. -/
def Unplaced (e : Event) : Prop := ∀ b asked, e.request? b = some asked → asked.2.Unplaced

variable {e : Event} {gap : Int} {steps : Nat} {b : Board}

/-- A call names no position if none of the requests that it can make does. -/
theorem unplaced_of_call {given threshold : Option Int} {call : Call}
    (hcall : e.step = .call given threshold call)
    (h : ∀ q, call.request = .ok q → q.Unplaced) : e.Unplaced := by
  intro b asked hasked
  simp only [request?, hcall] at hasked
  split at hasked
  · next q _ hrequest =>
    cases hasked
    exact h q hrequest
  · cases hasked

/-- An event without explicit positions is one step. -/
theorem drifted_perform (hstep : e.step.IsOperation)
    (hspacing : ∀ spacing ∈ e.spacing?, spacing.gap = gap) (hunplaced : e.Unplaced)
    (hgap : 1 ≤ gap) (hb : b.Drifted gap steps) : (e.perform b).2.Drifted gap (steps + 1) := by
  -- a step that changes nothing counts as one, too
  refine board_of_perform (P := fun b => b.Drifted gap (steps + 1)) hstep (hb.succ hgap)
    fun spacing q o b' hrequest hwork => ?_
  obtain rfl := hspacing spacing (request?_eq_some hrequest).1
  exact Operation.Request.drifted (hunplaced b _ hrequest) hgap hb hwork

/-- A call without explicit positions does not overflow as the next step. -/
theorem ne_overflow_of_call {given threshold : Option Int} {call : Call}
    (hcall : e.step = .call given threshold call)
    (hspacing : ∀ spacing ∈ e.spacing?, spacing.gap = gap) (hunplaced : e.Unplaced)
    (hintegers : ∀ q, call.request = .ok q → q.IntegersFit) (hgap : 1 ≤ gap)
    (hb : b.Drifted gap steps) (hfits : ((steps + 1 : Nat) : Int) * gap < 2 ^ 63) :
    (e.perform b).1 ≠ .failure .integerOverflow := by
  obtain ⟨step, service, codes, conditions⟩ := e
  obtain rfl : step = .call given threshold call := hcall
  -- the distances, the arguments and the operation, in the order in which a call goes through them
  have hwork : (callWork service.config (codes 0) given threshold call).NoOverflow conditions b := by
    cases hspaced : Spacing.ofConfig service.config given threshold with
    | error cause =>
      unfold callWork
      rw [hspaced]
      exact (NoOverflow.ofExcept (by simp [Except.mapError])).bind fun _ _ h => by
        cases (ofExcept_eq_ok.mp h).1
    | ok spacing =>
      obtain rfl := hspacing spacing (by simp [spacing?, hspaced, Except.toOption])
      rw [callWork_of_spacing hspaced]
      cases hrequest : call.request with
      | error cause =>
        rw [Call.perform_of_refused hrequest]
        exact NoOverflow.fail (by simp)
      | ok q =>
        have hasked : request? ⟨.call given threshold call, service, codes, conditions⟩ b =
            some (spacing, q) := by simp [request?, hspaced, hrequest]
        exact Call.noOverflow_perform hrequest (hunplaced b _ hasked) (hintegers q hrequest) hgap hb
          hfits
  intro h
  simp only [perform, Step.perform, Work.reaction] at h
  split at h
  · cases h
  · next f b' hfailed =>
    cases h
    exact hwork (congrArg Prod.fst hfailed)

end Event

/-- A run adds its steps to those that were made before. -/
theorem Board.run_drifted {gap : Int} (hgap : 1 ≤ gap) {events : List Event}
    (hstep : ∀ e ∈ events, e.step.IsOperation)
    (hspacing : ∀ e ∈ events, ∀ spacing ∈ e.spacing?, spacing.gap = gap)
    (hunplaced : ∀ e ∈ events, e.Unplaced) {b : Board} {steps : Nat} (hb : b.Drifted gap steps) :
    (run b events).Drifted gap (steps + events.length) := by
  -- on the events, where each of them adds one step to those before
  induction events generalizing b steps with
  | nil => exact hb
  | cons e rest ih =>
    rw [List.forall_mem_cons] at hstep hspacing hunplaced
    have hrest := ih hstep.2 hspacing.2 hunplaced.2
      (e.drifted_perform hstep.1 hspacing.1 hunplaced.1 hgap hb)
    rwa [Nat.add_right_comm, Nat.add_assoc] at hrest

/-- After a run without explicit positions from a board without tasks, every position lies within as
many gaps of zero as there were steps. As long as that many gaps fit the stored field, no call of the
run overflows whose own integers fit. -/
theorem drift_run {gap : Int} (hgap : 1 ≤ gap) {events : List Event}
    (hstep : ∀ e ∈ events, e.step.IsOperation)
    (hspacing : ∀ e ∈ events, ∀ spacing ∈ e.spacing?, spacing.gap = gap)
    (hunplaced : ∀ e ∈ events, e.Unplaced) {b : Board} (hb : b.tasks = []) :
    (∀ t ∈ (run b events).tasks,
      -(events.length * gap) ≤ t.position ∧ t.position ≤ events.length * gap) ∧
    (events.length * gap < 2 ^ 63 → ∀ before e after, events = before ++ e :: after →
      ∀ given threshold call, e.step = .call given threshold call →
        (∀ q, call.request = .ok q → q.IntegersFit) →
        (e.perform (run b before)).1 ≠ .failure .integerOverflow) := by
  have hempty : b.Drifted gap 0 := ⟨by simp [hb], by simp [hb], by simp [hb], by simp [hb]⟩
  constructor
  · have hdrifted := Board.run_drifted hgap hstep hspacing hunplaced hempty
    rw [Nat.zero_add] at hdrifted
    exact hdrifted.positions
  · rintro hfits before e after rfl given threshold call hcall hintegers
    simp only [List.forall_mem_append, List.forall_mem_cons] at hstep hspacing hunplaced
    have hdrifted := Board.run_drifted hgap hstep.1 hspacing.1 hunplaced.1 hempty
    rw [Nat.zero_add] at hdrifted
    refine Event.ne_overflow_of_call hcall hspacing.2.1 hunplaced.2.1 hintegers hgap hdrifted ?_
    have hle : ((before.length + 1 : Nat) : Int) * gap ≤ (before ++ e :: after).length * gap :=
      Int.mul_le_mul_of_nonneg_right (by simp) (by omega)
    omega

def plainCreation : Call := .create (.int 1) (.text "a") .null .null .null .null

/-- Two tasks are created, the second one goes right before the first one, and a third one is
created. -/
def driftRun : List Event :=
  [("a", plainCreation), ("b", plainCreation), ("", .move (.int 2) .null (.int 1) (.bool false) .null),
    ("c", plainCreation)].map fun (code, call) => .ofCall 4 2 code call

/-- The second task has drifted below zero, and the third one still finds its place. -/
theorem drift_run_below :
    (run bareBoard driftRun).entries 1 = [(2, -4), (1, 0), (3, 4)] ∧
      (∀ t ∈ (run bareBoard driftRun).tasks, -16 ≤ t.position ∧ t.position ≤ 16) ∧
      ((Event.ofCall 4 2 "c" plainCreation).perform (run bareBoard (driftRun.take 3))).1 ≠
        .failure .integerOverflow := by
  -- the three creations have the same arguments
  have hcreation : ∀ q, plainCreation.request = .ok q → q.Unplaced ∧ q.IntegersFit := by
    intro q hq
    unfold plainCreation Call.request at hq
    obtain ⟨r, hr, rfl⟩ := except_map_eq_ok.mp hq
    obtain ⟨column, hcolumn, h₁⟩ := except_bind_eq_ok.mp hr
    obtain ⟨title, -, h₂⟩ := except_bind_eq_ok.mp h₁
    cases hcolumn
    cases h₂
    exact ⟨trivial, (by decide : Stored.Fits 1), by simp, by simp⟩
  have hmove : (Call.move (.int 2) .null (.int 1) (.bool false) .null).request =
      .ok (.move ⟨2, none, some 1, false, none⟩) := by decide
  have hstep : ∀ e ∈ driftRun, e.step.IsOperation := by
    simp [driftRun, Event.ofCall, Step.IsOperation]
  have hunplaced : ∀ e ∈ driftRun, e.Unplaced := by
    intro e he
    obtain ⟨⟨code, call⟩, hcall, rfl⟩ := List.mem_map.mp he
    refine Event.unplaced_of_call rfl fun q hq => ?_
    simp only [List.mem_cons, List.not_mem_nil, or_false, Prod.mk.injEq] at hcall
    rcases hcall with ⟨-, rfl⟩ | ⟨-, rfl⟩ | ⟨-, rfl⟩ | ⟨-, rfl⟩
    · exact (hcreation q hq).1
    · exact (hcreation q hq).1
    · cases hmove.symm.trans hq
      rfl
    · exact (hcreation q hq).1
  obtain ⟨hpositions, hno⟩ := drift_run (by decide : (1 : Int) ≤ 4) hstep (by decide) hunplaced
    (rfl : bareBoard.tasks = [])
  refine ⟨by cbv, hpositions, ?_⟩
  exact hno (by decide) (driftRun.take 3) _ [] rfl _ _ _ rfl fun q hq => (hcreation q hq).2

/-- A number too large for the stored field, given as the assignee of a new task, overflows although
it is turned into a text when it is stored. -/
theorem drift_run_assignee :
    bareBoard.tasks = [] ∧ Stored.Fits 1 ∧ ((1 : Nat) * 4 : Int) < 2 ^ 63 ∧
      ((Event.ofCall 4 2 "a" (.create (.int 1) (.text "a") .null .null (.int 9223372036854775808)
        .null)).perform bareBoard).1 = .failure .integerOverflow :=
  ⟨rfl, by decide, by decide, by cbv⟩

end Kanban
