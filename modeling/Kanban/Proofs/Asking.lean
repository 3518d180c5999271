import Kanban.Proofs.Event
import Kanban.Proofs.Routing

/-!
# Calls that clients ask for

A request over HTTP spells out a call of one of the four operations: its address names the operation
and perhaps a task, and its fields are the arguments, where a column may be given by its name
(`Http.Request.call?`). Neither the call nor the fields have been checked yet. What is performed in the
end is what the call asks for (`Event.exists_call?`), and when nothing is performed the client is told
that the call has failed (`Event.failed_of_no_request`).
-/

namespace Kanban

open Work

namespace Http

/-! ## What a request spells out -/

/-- The column that the fields of a request name, by its id or else by its name. It is null when
neither is given, and there is none when no column has the name. -/
def namedColumn? (b : Board) (fields : Fields) : Option Json :=
  if fields.get "columnId" ≠ .null then some (fields.get "columnId")
  else if (fields.get "columnName").isGiven then
    match Stored.text? (fields.get "columnName") with
    | .ok (some name) => (b.columnNamed? name).map fun c => .int c.id
    | _ => none
  else some .null

/-- The call that fields spell out for a new task. -/
def creationCall? (b : Board) (fields : Fields) : Option Call :=
  (namedColumn? b fields).map fun column =>
    .create column (fields.get "title") (fields.get "description") (fields.get "priority")
      (fields.get "assignedTo") (fields.get "tags")

/-- The call that fields spell out for a task that is to move. It goes before its reference unless
something else is said. -/
def moveCall? (b : Board) (task : Nat) (fields : Fields) : Option Call :=
  (namedColumn? b fields).map fun column =>
    .move (.int task) column (fields.get "targetTaskId")
      (if fields.get "insertAfter" = .null then .bool false else fields.get "insertAfter")
      (fields.get "position")

/-- The call that a request spells out, if it is one for an operation. -/
def Request.call? (b : Board) (r : Request) : Option Call :=
  match routed? r, r.content.fields with
  | some (.task task, .delete), _ => some (.delete (.int task))
  | some (.task task, .put), .ok fields => moveCall? b task fields
  | some (.tasks, .post), .ok fields => creationCall? b fields
  | some (.reorder, .post), .ok fields =>
    some (.batch (fields.get "columnId") (fields.get "taskPositions"))
  | _, _ => none

/-- The requests to the addresses of the operations spell out their calls. -/
structure SpellOut (b : Board) (task : Nat) (fields : Fields) (tag : Option String) : Prop where
  create : Request.call? b ⟨"POST", "/api/kanban/tasks", .value (.object fields), tag⟩ =
    creationCall? b fields
  move : Request.call? b ⟨"PUT", "/api/kanban/tasks/" ++ toString task, .value (.object fields), tag⟩ =
    moveCall? b task fields
  batch : Request.call? b ⟨"POST", "/api/kanban/reorder", .value (.object fields), tag⟩ =
    some (.batch (fields.get "columnId") (fields.get "taskPositions"))
  delete : Request.call? b ⟨"DELETE", "/api/kanban/tasks/" ++ toString task, .absent, tag⟩ =
    some (.delete (.int task))

/-- The ids that are read are those of any usual length. -/
theorem spellOut (b : Board) {task : Nat} (h : task < 10 ^ Numeral.maxDigits) (fields : Fields)
    (tag : Option String) : SpellOut b task fields tag where
  create := by
    rw [Request.call?, routed?_tasks]
    rfl
  move := by
    rw [Request.call?, routed?_task _ _ _ h]
    rfl
  batch := by
    rw [Request.call?, routed?_reorder]
    rfl
  delete := by
    rw [Request.call?, routed?_task _ _ _ h]
    rfl

/-! ## What is performed -/

/-- The column that is looked up for a request is the one that its fields name. -/
theorem namedColumn?_of_columnOf {fields : Fields} {c : Conditions} {b b' : Board} {column : Json}
    (h : columnOf fields c b = (.ok column, b')) : namedColumn? b fields = some column ∧ b' = b := by
  refine ⟨?_, (readOnly_columnOf fields).board_eq h⟩
  unfold columnOf at h
  split at h
  · next hnull =>
    rw [namedColumn?, if_neg (not_not.mpr hnull)]
    dsimp only at h
    split at h
    -- the name is looked up as it would be stored, and the column is named by the id that was found
    · next hgiven =>
      obtain ⟨found, b₁, hfound, hpure⟩ := bind_eq_ok.mp h
      cases hpure
      obtain ⟨-, hfound, -⟩ := query_eq_ok.mp hfound
      obtain ⟨name, hname, hfound⟩ := except_bind_eq_ok.mp hfound
      rw [if_pos hgiven, hname]
      split at hfound
      · next found' hcolumn =>
        cases hfound
        obtain ⟨name, rfl, hnamed⟩ := Option.bind_eq_some_iff.mp hcolumn
        exact congrArg (Option.map fun c : Column => Json.int c.id) hnamed
      · cases hfound
    · next hgiven =>
      cases h
      rw [if_neg hgiven]
  · next hnull =>
    cases h
    rw [namedColumn?, if_pos hnull]

section Asked

variable {config : Config} {content : Content} {c : Conditions} {b b' : Board} {spacing : Spacing}
  {q : Operation.Request}

/-- A request for a new task asks for what the call asks for that its fields spell out. -/
theorem exists_creationCall? (h : newTaskAsked config content c b = (.ok (spacing, q), b')) :
    ∃ fields, content.fields = .ok fields ∧
      ∃ call, creationCall? b fields = some call ∧ call.request = .ok q := by
  obtain ⟨fields, b₁, hfields, h₁⟩ := bind_eq_ok.mp h
  obtain ⟨hgiven, rfl⟩ := ofExcept_eq_ok.mp hfields
  refine ⟨fields, hgiven, ?_⟩
  split at h₁
  · obtain ⟨column, b₂, hcolumn, h₂⟩ := bind_eq_ok.mp h₁
    obtain ⟨hcolumn, rfl⟩ := namedColumn?_of_columnOf hcolumn
    obtain ⟨spacing', b₃, -, h₃⟩ := bind_eq_ok.mp h₂
    obtain ⟨r, b₄, hr, h₄⟩ := bind_eq_ok.mp h₃
    cases h₄
    rw [creationCall?, hcolumn]
    exact ⟨_, rfl, except_map_eq_ok.mpr ⟨r, checked_eq_ok hr, rfl⟩⟩
  · cases h₁

/-- A request to move a task asks for what the call asks for that its fields spell out. -/
theorem exists_moveCall? {task : Nat}
    (h : moveAsked config task content c b = (.ok (spacing, q), b')) :
    ∃ fields, content.fields = .ok fields ∧
      ∃ call, moveCall? b task fields = some call ∧ call.request = .ok q := by
  obtain ⟨fields, b₁, hfields, h₁⟩ := bind_eq_ok.mp h
  obtain ⟨hgiven, rfl⟩ := ofExcept_eq_ok.mp hfields
  obtain ⟨column, b₂, hcolumn, h₂⟩ := bind_eq_ok.mp h₁
  obtain ⟨hcolumn, rfl⟩ := namedColumn?_of_columnOf hcolumn
  obtain ⟨spacing', b₃, -, h₃⟩ := bind_eq_ok.mp h₂
  obtain ⟨r, b₄, hr, h₄⟩ := bind_eq_ok.mp h₃
  cases h₄
  -- the side is the one that is spelled out, null counting as none
  have hside : sideOf fields =
      if fields.get "insertAfter" = .null then .bool false else fields.get "insertAfter" := by
    unfold sideOf
    split
    · next hnull => rw [if_pos hnull]
    · next hnull => rw [if_neg hnull]
  refine ⟨fields, hgiven, ?_⟩
  rw [moveCall?, hcolumn, ← hside]
  exact ⟨_, rfl, except_map_eq_ok.mpr ⟨r, checked_eq_ok hr, rfl⟩⟩

/-- A request to place tasks asks for what the call asks for that its fields spell out. -/
theorem exists_batchCall (h : batchAsked config content c b = (.ok (spacing, q), b')) :
    ∃ fields, content.fields = .ok fields ∧
      (Call.batch (fields.get "columnId") (fields.get "taskPositions")).request = .ok q := by
  obtain ⟨fields, b₁, hfields, h₁⟩ := bind_eq_ok.mp h
  obtain ⟨spacing', b₂, -, h₂⟩ := bind_eq_ok.mp h₁
  obtain ⟨r, b₃, hr, h₃⟩ := bind_eq_ok.mp h₂
  cases h₃
  exact ⟨fields, (ofExcept_eq_ok.mp hfields).1,
    except_map_eq_ok.mpr ⟨r, checked_eq_ok hr, rfl⟩⟩

theorem Verb.eq_post {verb : Verb} (h : verb ∈ [Verb.post, .options]) (hne : verb ≠ .options) :
    verb = .post := by
  simpa [hne] using h

/-- A request that is not refused asks for what its call asks for. -/
theorem exists_call?_of_asked {r : Request} {asked : Work (Spacing × Operation.Request)}
    (h : operation? config r = some asked) (hasked : asked c b = (.ok (spacing, q), b')) :
    ∃ call, r.call? b = some call ∧ call.request = .ok q := by
  obtain ⟨⟨route, verb⟩, hrouted, hroute⟩ := Option.bind_eq_some_iff.mp h
  -- the routes answer to few methods, and one of them is left where an operation is asked for
  have hverb := (verb_of_routed? hrouted).2
  change asked? config r.content route verb = some asked at hroute
  unfold asked? at hroute
  split at hroute
  · cases hroute
  · next hoptions =>
    obtain rfl := Verb.eq_post hverb hoptions
    cases hroute
    obtain ⟨fields, hfields, hcall⟩ := exists_creationCall? hasked
    simpa only [Request.call?, hrouted, hfields] using hcall
  · cases hroute
    obtain ⟨fields, hfields, hcall⟩ := exists_moveCall? hasked
    simpa only [Request.call?, hrouted, hfields] using hcall
  · next hoptions hput =>
    obtain rfl : verb = .delete := by
      rcases List.mem_cons.mp hverb with rfl | hverb
      · exact absurd rfl hput
      · rcases List.mem_cons.mp hverb with rfl | hverb
        · rfl
        · exact absurd (List.mem_singleton.mp hverb) hoptions
    cases hroute
    obtain ⟨spacing', b₁, -, h₁⟩ := bind_eq_ok.mp hasked
    cases h₁
    simp only [Request.call?, hrouted]
    exact ⟨_, rfl, rfl⟩
  · next hoptions =>
    obtain rfl := Verb.eq_post hverb hoptions
    cases hroute
    obtain ⟨fields, hfields, hrequest⟩ := exists_batchCall hasked
    simp only [Request.call?, hrouted, hfields]
    exact ⟨_, rfl, hrequest⟩
  · cases hroute

end Asked

/-- A request that spells out a call asks for an operation. -/
theorem exists_operation?_of_call? {b : Board} {r : Request} {call : Call}
    (h : r.call? b = some call) (config : Config) : ∃ asked, operation? config r = some asked := by
  have hoperation : ∀ {route verb}, routed? r = some (route, verb) →
      operation? config r = asked? config r.content route verb := by
    intro route verb hrouted
    rw [operation?, hrouted]
    rfl
  unfold Request.call? at h
  split at h
  · next hrouted => exact ⟨_, hoperation hrouted⟩
  · next hrouted _ => exact ⟨_, hoperation hrouted⟩
  · next hrouted _ => exact ⟨_, hoperation hrouted⟩
  · next hrouted _ => exact ⟨_, hoperation hrouted⟩
  · cases h

end Http

namespace Event

/-- The call that an event asks for, if it is one for an operation. -/
def call? (e : Event) (b : Board) : Option Call :=
  match e.step with
  | .call _ _ call => some call
  | .request r => r.call? b
  | .unit .. | .action _ | .seed _ => none

/-- What an event asks for is what its call asks for, over HTTP as well. -/
theorem exists_call?_of_request? {e : Event} {b : Board} {spacing : Spacing}
    {q : Operation.Request} (h : e.request? b = some (spacing, q)) :
    ∃ call, e.call? b = some call ∧ call.request = .ok q := by
  obtain ⟨step, service, codes, conditions⟩ := e
  cases step with
  | call gap threshold call =>
    simp only [request?] at h
    split at h
    · next hrequest =>
      cases h
      exact ⟨call, rfl, hrequest⟩
    · cases h
  | request r =>
    simp only [request?] at h
    simp only [call?]
    obtain ⟨asked, hoperation, hasked⟩ := Option.bind_eq_some_iff.mp h
    exact Http.exists_call?_of_asked hoperation (Prod.ext (except_toOption_eq_some.mp hasked) rfl)
  | unit actions ending => cases h
  | action a => cases h
  | seed descriptions => cases h

/-- When nothing is performed, the client is told that the call has failed. -/
theorem failed_of_no_request {e : Event} {b : Board} {call : Call} (hcall : e.call? b = some call)
    (h : e.request? b = none) : (e.perform b).1.Failed := by
  obtain ⟨step, service, codes, conditions⟩ := e
  cases step with
  | call gap threshold call =>
    -- the distances cannot be read, or the arguments are refused
    have hrefused : ∃ f, (callWork service.config (codes 0) gap threshold call conditions b).1 =
        .error f := by
      cases hspacing : Spacing.ofConfig service.config gap threshold with
      | error cause =>
        unfold callWork
        rw [hspacing]
        exact ⟨_, rfl⟩
      | ok spacing =>
        cases hrequest : call.request with
        | error cause =>
          rw [callWork_of_spacing hspacing, Call.perform_of_refused hrequest]
          exact ⟨_, rfl⟩
        | ok q => simp [request?, hspacing, hrequest] at h
    obtain ⟨f, hf⟩ := hrefused
    simp only [perform, Step.perform, Work.reaction]
    split
    · next hw => simp [hw] at hf
    · trivial
  | request r =>
    simp only [call?] at hcall
    obtain ⟨asked, hoperation⟩ := Http.exists_operation?_of_call? hcall service.config
    cases hasked : (asked conditions b).1 with
    | error f =>
      simp only [perform, Step.perform, Http.respond_of_refused hoperation hasked]
      exact Http.status_ofFailure f
    | ok found => simp [request?, hoperation, hasked, Except.toOption] at h
  | unit actions ending => cases hcall
  | action a => cases hcall
  | seed descriptions => cases hcall

end Event

end Kanban
