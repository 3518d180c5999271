import Kanban.Proofs.Event
import Mathlib

/-!
# Failures leave no trace

Whatever fails, and wherever it fails, the board is afterwards what it was before: before anything was
written, after a renumbering was sent to the database, between two writes, or at the commit. The caller
of a unit of work sees the failure itself, except for what the database had to say.
-/

namespace Kanban

open Work

/-! ## What the caller sees -/

/-- A failure inside a unit of work is seen as another one by its caller. -/
def Failure.SurfacesAs (inner outer : Failure) : Prop :=
  (∃ cause, inner = .database cause ∧ outer = .transactionFailed) ∨
    ((∀ cause, inner ≠ .database cause) ∧ outer = inner)

theorem Failure.surfacesAs_iff {inner outer : Failure} :
    inner.SurfacesAs outer ↔ outer = inner.surfaced := by
  cases inner <;> simp [Failure.SurfacesAs, Failure.surfaced]

/-- A unit of work fails exactly when its work or its commit does, and leaves the board as it is. -/
theorem Work.transaction_fails_iff {α : Type} {w : Work α} {c : Conditions} {b b' : Board}
    {f : Failure} :
    transaction w c b = (.error f, b') ↔ b' = b ∧ ∃ inner, FailsWith w c b inner ∧
      inner.SurfacesAs f := by
  rw [transaction_eq_error, and_comm]
  simp only [Failure.surfacesAs_iff]

/-! ## Calls -/

/-- A call fails when the distances cannot be read, when its arguments are refused, or when the
operation that it asks for fails. -/
theorem callWork_eq_error {config : Config} {code : String} {gap threshold : Option Int}
    {call : Call} {c : Conditions} {b b' : Board} {f : Failure} :
    callWork config code gap threshold call c b = (.error f, b') ↔
      b' = b ∧
        ((∃ cause, Spacing.ofConfig config gap threshold = .error cause ∧ f = .mismatch cause) ∨
          ∃ spacing, Spacing.ofConfig config gap threshold = .ok spacing ∧
            ((∃ cause, call.request = .error cause ∧ f = .invalidInput cause) ∨
              ∃ q, call.request = .ok q ∧
                ∃ inner, FailsWith (q.work spacing code) c b inner ∧ inner.SurfacesAs f)) := by
  cases hspacing : Spacing.ofConfig config gap threshold with
  | error cause =>
    unfold callWork
    rw [hspacing]
    simp [Except.mapError, bind_apply, eq_comm, and_comm]
  | ok spacing =>
    rw [callWork_of_spacing hspacing]
    cases hrequest : call.request with
    | error cause =>
      rw [Call.perform_of_refused hrequest]
      simp [eq_comm, and_comm]
    | ok q =>
      rw [Call.perform_of_request hrequest, Operation.Request.perform, transaction_fails_iff]
      simp

/-! ## Units of work on the store -/

/-- A unit of work on the store fails when one of its actions does, with the failure with which it
ends, or at the commit. -/
theorem failsWith_unitBody_iff {codes : Nat → String} {actions : List Store.Action}
    {ending : Option Failure} {c : Conditions} {b : Board} {f : Failure} :
    FailsWith (unitBody codes actions ending) c b f ↔
      (∃ b₁, Store.performAll codes 0 actions c b = (.error f, b₁)) ∨
        ∃ replies b₁, Store.performAll codes 0 actions c b = (.ok replies, b₁) ∧
          (ending = some f ∨
            (ending = none ∧ ∃ refusal, c.refusal? .commit = some refusal ∧
              f = .database refusal)) := by
  unfold FailsWith unitBody
  simp only [bind_apply]
  rcases Store.performAll codes 0 actions c b with ⟨e | replies, b₁⟩
  · simp
  · cases ending with
    | none => simp
    | some e => simp

/-! ## Requests over HTTP -/

namespace Http

/-- Work that finds out what is asked for, and then performs it, leaves no trace when it fails. -/
theorem board_eq_of_performAsked {code : String} {asked : Work (Spacing × Operation.Request)}
    (hread : asked.ReadOnly) {c : Conditions} {b b' : Board} {f : Failure}
    (h : performAsked code asked c b = (.error f, b')) : b' = b := by
  rcases bind_eq_error.mp h with hasked | ⟨⟨spacing, q⟩, b₁, hasked, hq⟩
  · exact hread.board_eq hasked
  · obtain rfl := hread.board_eq hasked
    exact transaction_of_error (map_eq_error.mp hq)

/-- A request whose method is none of those that change something leaves the board as it is. -/
theorem respond_of_reading {s : Service} {code : String} {r : Request}
    (h : Verb.ofName? r.method ∉ [some .post, some .put, some .delete]) (c : Conditions)
    (b : Board) : (respond s code r c b).2 = b := by
  apply respond_of_no_operation
  unfold operation?
  cases hrouted : routed? r with
  | none => rfl
  | some routed =>
    obtain ⟨route, verb⟩ := routed
    obtain ⟨hname, hverb⟩ := verb_of_routed? hrouted
    rw [hname] at h
    cases verb with
    | post | put | delete => simp at h
    | options => rfl
    | get | head =>
      -- a path that only takes writes is not routed under a reading verb
      cases route with
      | tasks | task | reorder => simp [Route.verbs] at hverb
      | board | column | live | ready | startup | file => rfl

end Http

/-! ## Steps and runs -/

/-- Work that fails without a trace is a step that does so. -/
theorem Work.reaction_of_failed {α : Type} {form : α → Reaction} (hform : ∀ a, ¬ (form a).Failed)
    {w : Work α} {c : Conditions} {b : Board}
    (hw : ∀ f b', w c b = (.error f, b') → b' = b) (h : (w.reaction form c b).1.Failed) :
    (w.reaction form c b).2 = b := by
  unfold Work.reaction at h ⊢
  rcases hresult : w c b with ⟨f | a, b'⟩
  · exact hw f b' hresult
  · rw [hresult] at h
    exact absurd h (hform a)

/-- A step that fails leaves the board as it is. -/
theorem Event.board_eq_of_failed {e : Event} {b : Board} (h : (e.perform b).1.Failed) :
    (e.perform b).2 = b := by
  by_cases hstep : e.step.IsOperation
  · cases hrequest : e.request? b with
    | none => exact perform_of_no_request hstep hrequest
    | some asked =>
      rcases perform_of_request? hrequest with ⟨o, -, hnot⟩ | ⟨f, -, heq, -⟩
      · exact absurd h hnot
      · exact heq
  · obtain ⟨step, service, codes, conditions⟩ := e
    cases step with
    | call | request => exact absurd trivial hstep
    | unit => exact reaction_of_failed (fun _ => id) (fun _ _ => transaction_of_error) h
    | action a => exact reaction_of_failed (fun _ => id) (fun _ _ h => (congrArg Prod.snd h).symm) h
    | seed => exact reaction_of_failed (fun _ => id) (fun _ _ => committed_of_error) h

def successes : Board → List Event → List Event
  | _, [] => []
  | b, e :: rest =>
    if (e.perform b).1.Failed then successes b rest
    else e :: successes (e.perform b).2 rest

/-- A run does what its successful events do. -/
theorem run_successes (b : Board) (events : List Event) :
    run b (successes b events) = run b events := by
  -- on the events, for every board: a failed event leaves the board on which the rest begins
  induction events generalizing b with
  | nil => rfl
  | cons e rest ih =>
    unfold successes
    split
    · next hfailed => rw [ih, run, run, List.foldl_cons, e.board_eq_of_failed hfailed]
    · rw [run, run, List.foldl_cons, List.foldl_cons, ← run, ← run, ih]

/-! ## Failures -/

/-- Failures leave no trace, under any conditions: a step of a session that fails, a call and a unit of
work on the store that fail, whose failure surfaces to the caller, the handlers of the routes, and
requests that only read. -/
theorem no_trace_of_failure :
    (∀ (e : Event) (b : Board), (e.perform b).1.Failed → (e.perform b).2 = b) ∧
    (∀ config code gap threshold call c b f b',
      callWork config code gap threshold call c b = (.error f, b') ↔
        b' = b ∧
          ((∃ cause, Spacing.ofConfig config gap threshold = .error cause ∧ f = .mismatch cause) ∨
            ∃ spacing, Spacing.ofConfig config gap threshold = .ok spacing ∧
              ((∃ cause, call.request = .error cause ∧ f = .invalidInput cause) ∨
                ∃ q, call.request = .ok q ∧
                  ∃ inner, FailsWith (q.work spacing code) c b inner ∧ inner.SurfacesAs f))) ∧
    (∀ codes actions ending c b f b',
      unitWork codes actions ending c b = (.error f, b') ↔
        b' = b ∧ ∃ inner, inner.SurfacesAs f ∧
          ((∃ b₁, Store.performAll codes 0 actions c b = (.error inner, b₁)) ∨
            ∃ replies b₁, Store.performAll codes 0 actions c b = (.ok replies, b₁) ∧
              (ending = some inner ∨
                (ending = none ∧ ∃ refusal, c.refusal? .commit = some refusal ∧
                  inner = .database refusal)))) ∧
    (∀ config code task content c b f b',
      Http.createTask config code content c b = (.error f, b') ∨
        Http.moveTask config task content c b = (.error f, b') ∨
        Http.placeTasks config content c b = (.error f, b') ∨
        Http.deleteTask config task c b = (.error f, b') → b' = b) ∧
    (∀ s code (r : Http.Request) c b,
      Http.Verb.ofName? r.method ∉ [some .post, some .put, some .delete] →
        (Http.respond s code r c b).2 = b) := by
  refine ⟨fun e b => e.board_eq_of_failed, fun _ _ _ _ _ _ _ _ _ => callWork_eq_error, ?_, ?_,
    fun _ _ _ c b h => Http.respond_of_reading h c b⟩
  · intro codes actions ending c b f b'
    rw [unitWork, transaction_fails_iff]
    simp only [failsWith_unitBody_iff, and_comm]
  · rintro config code task content c b f b' (h | h | h | h)
    · rw [Http.createTask_eq] at h
      exact Http.board_eq_of_performAsked (Http.readOnly_newTaskAsked config content) h
    · rw [Http.moveTask_eq config code] at h
      exact Http.board_eq_of_performAsked (Http.readOnly_moveAsked config task content) h
    · rw [Http.placeTasks_eq config code] at h
      exact Http.board_eq_of_performAsked (Http.readOnly_batchAsked config content) h
    · rw [Http.deleteTask_eq config code] at h
      exact Http.board_eq_of_performAsked (Http.readOnly_deletionAsked config task) h

/-- With a gap of one, renumbering makes no room. The move fails once its column was renumbered. -/
def hopelessMove : Event :=
  .ofCall 1 1 "" (.move (.int 3) .null (.int 1) (.bool true) .null)

/-- A move that sends changes three times: it renumbers its column to make room, puts the task there,
and renumbers the column because it is crowded then. The database takes some of the changes only. -/
def strandedMove (taken : Nat) : Event where
  step := .call (some 4) (some 3) (.move (.int 3) .null (.int 1) (.bool true) .null)
  service := ⟨[], none⟩
  codes := fun _ => ""
  conditions := ⟨⟨0⟩, some ⟨.flush taken, "disk I/O error"⟩⟩

/-- What the work of that move leaves behind when it is not undone. -/
def strandedEntries (taken : Nat) : List (Int × Int) :=
  (Operation.relocation ⟨4, 3⟩ ⟨3, none, some 1, true, none⟩ (strandedMove taken).conditions
    tightBoard).2.entries 1

/-- A creation with the code of a task that is there. -/
def repeatedCode : Event :=
  .ofCall 4 2 "a" (.create (.int 1) (.text "x") .null .null .null .null)

theorem no_trace_of_failure_midway :
    ((hopelessMove.perform tightBoard).1 = .failure (.gapExhausted 0 1) ∧
      (hopelessMove.perform tightBoard).2 = tightBoard) ∧
    (strandedEntries 1 = [(1, 0), (2, 4), (3, 8)] ∧
      ((strandedMove 1).perform tightBoard).1 = .failure .transactionFailed ∧
      ((strandedMove 1).perform tightBoard).2 = tightBoard) ∧
    (strandedEntries 2 = [(1, 0), (3, 2), (2, 4)] ∧
      ((strandedMove 2).perform tightBoard).1 = .failure .transactionFailed ∧
      ((strandedMove 2).perform tightBoard).2 = tightBoard) ∧
    ((strandedMove 3).perform tightBoard).2.entries 1 = [(1, 0), (3, 4), (2, 8)] ∧
    ((repeatedCode.perform tightBoard).1 = .failure .transactionFailed ∧
      (repeatedCode.perform tightBoard).2 = tightBoard) ∧
    (Http.deleteTask [] 9 ⟨⟨0⟩, none⟩ tightBoard).2 = tightBoard ∧
    (Http.respond ⟨[], none⟩ "" ⟨"GET", "/api/kanban", .absent, none⟩ ⟨⟨0⟩, none⟩
      tightBoard).2 = tightBoard := by
  obtain ⟨hstep, -, -, hhandler, hread⟩ := no_trace_of_failure
  have hundone : ∀ {e : Event} {f : Failure}, (e.perform tightBoard).1 = .failure f →
      (e.perform tightBoard).1 = .failure f ∧ (e.perform tightBoard).2 = tightBoard :=
    fun h => ⟨h, hstep _ tightBoard (by rw [h]; trivial)⟩
  have hdelete : (Http.deleteTask [] 9 ⟨⟨0⟩, none⟩ tightBoard).1 = .error (.taskNotFound 9) := by
    cbv
  refine ⟨hundone (by cbv), ⟨by cbv, hundone (by cbv)⟩, ⟨by cbv, hundone (by cbv)⟩, by cbv,
    hundone (by cbv), ?_, ?_⟩
  · exact hhandler [] "" 9 .absent ⟨⟨0⟩, none⟩ tightBoard _ _ (.inr (.inr (.inr
      (Prod.ext hdelete rfl))))
  · exact hread ⟨[], none⟩ "" ⟨"GET", "/api/kanban", .absent, none⟩ ⟨⟨0⟩, none⟩ tightBoard
      (by decide)

end Kanban
