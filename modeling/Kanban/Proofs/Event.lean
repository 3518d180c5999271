import Kanban.Proofs.Service

/-!
# Events that ask for an operation

An event of a session that is a call or a request over HTTP asks for an operation, or for nothing that
would change the board. `Event.perform_of_request?` and `Event.perform_of_no_request` say what it does
in either case, whatever the database does in the meantime.
-/

namespace Kanban

open Work

/-- A step that is a call of an operation or a request over HTTP. -/
def Step.IsOperation : Step → Prop
  | .call .. | .request _ => True
  | .unit .. | .action _ | .seed _ => False

/-- A step that failed: with a failure, or with an answer that tells of one. -/
def Reaction.Failed : Reaction → Prop
  | .failure _ => True
  | .answer a => 400 ≤ a.status
  | _ => False

instance : ∀ r : Reaction, Decidable r.Failed
  | .failure _ => inferInstanceAs (Decidable True)
  | .answer a => inferInstanceAs (Decidable (400 ≤ a.status))
  | .outcome _ | .replies _ | .reply _ | .names _ => inferInstanceAs (Decidable False)

namespace Event

/-- The distances under which an event performs an operation, if they can be read. -/
def spacing? (e : Event) : Option Spacing :=
  match e.step with
  | .call gap threshold _ => (Spacing.ofConfig e.service.config gap threshold).toOption
  | .request _ => (Spacing.ofConfig e.service.config none none).toOption
  | _ => none

/-- The operation that an event asks for on a board, with the distances to perform it under. There is
none when the event asks for something else, or when what it asks for is refused before an operation
begins. -/
def request? (e : Event) (b : Board) : Option (Spacing × Operation.Request) :=
  match e.step with
  | .call gap threshold call =>
    match Spacing.ofConfig e.service.config gap threshold, call.request with
    | .ok spacing, .ok q => some (spacing, q)
    | _, _ => none
  | .request r => (Http.operation? e.service.config r).bind fun asked =>
    (asked e.conditions b).1.toOption
  | _ => none

/-- An event that asks for an operation does what the operation does: it succeeds with the board
that the operation leaves, or it fails and leaves the board as it is. -/
theorem perform_of_request? {e : Event} {b : Board} {spacing : Spacing} {q : Operation.Request}
    (h : e.request? b = some (spacing, q)) :
    (∃ o, q.perform spacing (e.codes 0) e.conditions b = (.ok o, (e.perform b).2) ∧
      ¬ (e.perform b).1.Failed) ∨
    (∃ f, q.perform spacing (e.codes 0) e.conditions b = (.error f, b) ∧ (e.perform b).2 = b ∧
      (e.perform b).1.Failed) := by
  obtain ⟨step, service, codes, conditions⟩ := e
  cases step with
  | call gap threshold call =>
    simp only [request?] at h
    split at h
    · next spacing' q' hspacing hrequest =>
      cases h
      have hwork := (callWork_of_spacing hspacing (codes 0) call).trans
        (Call.perform_of_request hrequest)
      simp only [perform, Step.perform, Work.reaction, hwork]
      rcases hq : q.perform spacing (codes 0) conditions b with ⟨f | o, b'⟩
      · obtain rfl := transaction_of_error hq
        exact .inr ⟨f, rfl, rfl, trivial⟩
      · exact .inl ⟨o, rfl, id⟩
    · cases h
  | request r =>
    simp only [request?] at h
    obtain ⟨asked, hoperation, hasked⟩ := Option.bind_eq_some_iff.mp h
    have hok := except_toOption_eq_some.mp hasked
    simp only [perform, Step.perform, Reaction.Failed, Http.respond_of_operation hoperation]
    -- whether the request failed is read off the status of its answer
    rcases Http.answered_of_asked (codes 0) (Http.readOnly_of_operation? hoperation) hok
      with ⟨o, b', hq, ha⟩ | ⟨f, hq, ha⟩
    · rw [ha, Http.status_sent]
      exact .inl ⟨o, hq, Int.not_le.mpr (Http.status_outcomeAnswer o)⟩
    · rw [ha, Http.status_sent]
      exact .inr ⟨f, hq, rfl, Http.status_ofFailure f⟩
  | unit actions ending => cases h
  | action a => cases h
  | seed descriptions => cases h

/-- An event that asks for no operation leaves the board as it is. -/
theorem perform_of_no_request {e : Event} {b : Board} (hstep : e.step.IsOperation)
    (h : e.request? b = none) : (e.perform b).2 = b := by
  obtain ⟨step, service, codes, conditions⟩ := e
  cases step with
  | call gap threshold call =>
    simp only [perform, Step.perform, Work.reaction]
    -- a call without a request is refused before anything is written
    have hread : (callWork service.config (codes 0) gap threshold call).ReadOnly := by
      unfold callWork
      cases hrequest : call.request with
      | error cause =>
        refine (ReadOnly.ofExcept _).bind fun spacing => ?_
        rw [Call.perform_of_refused hrequest]
        exact ReadOnly.fail _
      | ok q =>
        cases hspacing : Spacing.ofConfig service.config gap threshold with
        | error cause => exact ReadOnly.fail _
        | ok spacing => simp [request?, hspacing, hrequest] at h
    split
    · next hw => exact hread.board_eq hw
    · next hw => exact hread.board_eq hw
  | request r =>
    simp only [perform, Step.perform]
    cases hoperation : Http.operation? service.config r with
    | none => exact Http.respond_of_no_operation hoperation conditions b
    | some asked =>
      -- the route only looks while it finds out what is asked for
      rw [Http.respond_of_operation hoperation]
      cases hasked : (asked conditions b).1 with
      | error f => rw [Http.answered_of_refused hasked]
      | ok found => simp [request?, hoperation, hasked, Except.toOption] at h
  | unit actions ending => cases hstep
  | action a => cases hstep
  | seed descriptions => cases hstep

/-- What holds of the board before a call or a request over HTTP holds of it afterwards, when the
operation that is asked for keeps it. -/
theorem board_of_perform {P : Board → Prop} {e : Event} (hstep : e.step.IsOperation) {b : Board}
    (hb : P b)
    (hwork : ∀ spacing q o b', e.request? b = some (spacing, q) →
      q.work spacing (e.codes 0) e.conditions b = (.ok o, b') → P b') : P (e.perform b).2 := by
  cases hrequest : e.request? b with
  | none =>
    rw [perform_of_no_request hstep hrequest]
    exact hb
  | some asked =>
    obtain ⟨spacing, q⟩ := asked
    rcases perform_of_request? hrequest with ⟨o, hq, -⟩ | ⟨f, -, heq, -⟩
    · exact hwork spacing q o _ hrequest (transaction_eq_ok.mp hq).1
    · rw [heq]
      exact hb

/-- What an event asks for can be asked for, and it is performed under the distances of the
event. -/
theorem request?_eq_some {e : Event} {b : Board} {spacing : Spacing} {q : Operation.Request}
    (h : e.request? b = some (spacing, q)) : e.spacing? = some spacing ∧ q.Sound := by
  obtain ⟨step, service, codes, conditions⟩ := e
  cases step with
  | call gap threshold call =>
    simp only [request?] at h
    split at h
    · next hspacing hrequest =>
      cases h
      exact ⟨except_toOption_eq_some.mpr hspacing, Call.sound_of_request hrequest⟩
    · cases h
  | request r =>
    simp only [request?] at h
    obtain ⟨asked, hoperation, hasked⟩ := Option.bind_eq_some_iff.mp h
    -- the route has read the distances from the same configuration
    obtain ⟨hspacing, hsound⟩ := Http.asked_eq_ok hoperation
      (Prod.ext (except_toOption_eq_some.mp hasked) rfl)
    exact ⟨except_toOption_eq_some.mpr hspacing, hsound⟩
  | unit actions ending => cases h
  | action a => cases h
  | seed descriptions => cases h

/-- A call with a gap and a threshold, while the database works. The code is the one of a task that
it creates. -/
def ofCall (gap threshold : Int) (code : String) (call : Call) : Event where
  step := .call (some gap) (some threshold) call
  service := ⟨[], none⟩
  codes := fun _ => code
  conditions := ⟨⟨0⟩, none⟩

end Event

/-- A board with one column, in which there is no room between any two tasks. -/
def tightBoard : Board where
  columns := [⟨1, "todo", "To do", none, .integer 0⟩]
  tasks := [(1, "a", -1), (2, "b", 0), (3, "c", 0)].map fun (id, code, position) =>
    ⟨id, ⟨code, "", "", "", none, []⟩, 1, position, ⟨0⟩, ⟨0⟩⟩
  columnIds_nodup := by decide
  columnNames_nodup := by decide
  taskIds_nodup := by decide
  taskCodes_nodup := by decide

end Kanban
