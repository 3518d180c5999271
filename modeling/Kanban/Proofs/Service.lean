import Kanban.Proofs.Request

/-!
# Requests over HTTP

What a request over HTTP asks for depends on the board, where a column may be looked up by its name.
`Http.operation?` is the work of finding it out: it only looks. A request that asks for one of the four
operations is answered by what the operation does (`respond_of_operation`), and any other one leaves
the board as it is (`respond_of_no_operation`).
-/

namespace Kanban

open Work

namespace Http

/-! ## What is asked for -/

def newTaskAsked (config : Config) (content : Content) : Work (Spacing × Operation.Request) := do
  let fields ← fieldsOf content
  if isComplete fields then
    let column ← columnOf fields
    let spacing ← spacingOf config
    let r ← checked
      (Operation.NewTask.ofArguments column (fields.get "title") (fields.get "description")
        (fields.get "priority") (fields.get "assignedTo") (fields.get "tags"))
    pure (spacing, .create r)
  else .fail (.invalidInput .newTaskIncomplete)

def moveAsked (config : Config) (task : Int) (content : Content) :
    Work (Spacing × Operation.Request) := do
  let fields ← fieldsOf content
  let column ← columnOf fields
  let spacing ← spacingOf config
  let r ← checked
    (Operation.MoveRequest.ofArguments (.int task) column (fields.get "targetTaskId")
      (sideOf fields) (fields.get "position"))
  pure (spacing, .move r)

def batchAsked (config : Config) (content : Content) : Work (Spacing × Operation.Request) := do
  let fields ← fieldsOf content
  let spacing ← spacingOf config
  let r ← checked
    (Operation.BatchRequest.ofArguments (fields.get "columnId") (fields.get "taskPositions"))
  pure (spacing, .batch r)

def deletionAsked (config : Config) (task : Int) : Work (Spacing × Operation.Request) := do
  let spacing ← spacingOf config
  pure (spacing, .delete task)

/-- The answer to a request whose operation succeeds. -/
def outcomeAnswer : Outcome → Answer
  | .created t => .json 201 t.record
  | .moved m => .json 200 m.record
  | .placed p => .json 200 p.record
  | .deleted => .json 200 (.object [("success", .bool true)])

/-- What is asked for is performed, and its outcome is the answer. -/
def performAsked (code : String) (asked : Work (Spacing × Operation.Request)) : Work Answer := do
  let (spacing, q) ← asked
  outcomeAnswer <$> q.perform spacing code

theorem createTask_eq (config : Config) (code : String) (content : Content) :
    createTask config code content = performAsked code (newTaskAsked config content) := by
  unfold createTask performAsked newTaskAsked
  rw [bind_assoc]
  apply bind_congr
  intro fields
  split
  · simp only [bind_assoc, pure_bind, Operation.Request.perform_create, map_eq_pure_bind]
    rfl
  · rfl

theorem moveTask_eq (config : Config) (code : String) (task : Int) (content : Content) :
    moveTask config task content = performAsked code (moveAsked config task content) := by
  unfold moveTask performAsked moveAsked
  simp only [bind_assoc, pure_bind, Operation.Request.perform_move, map_eq_pure_bind]
  rfl

theorem placeTasks_eq (config : Config) (code : String) (content : Content) :
    placeTasks config content = performAsked code (batchAsked config content) := by
  unfold placeTasks performAsked batchAsked
  simp only [bind_assoc, pure_bind, Operation.Request.perform_batch, map_eq_pure_bind]
  rfl

theorem deleteTask_eq (config : Config) (code : String) (task : Int) :
    deleteTask config task = performAsked code (deletionAsked config task) := by
  unfold deleteTask performAsked deletionAsked
  simp only [bind_assoc, pure_bind, Operation.Request.perform_delete, map_eq_pure_bind]
  rfl

/-- Looking a column up by its name changes nothing. -/
theorem readOnly_columnOf (fields : Fields) : (columnOf fields).ReadOnly := by
  unfold columnOf
  split
  · dsimp only
    split
    · exact (Store.readOnly_columnNamed _).bind fun _ => ReadOnly.pure _
    · exact ReadOnly.pure _
  · exact ReadOnly.pure _

theorem readOnly_newTaskAsked (config : Config) (content : Content) :
    (newTaskAsked config content).ReadOnly := by
  refine (ReadOnly.ofExcept _).bind fun fields => ?_
  split
  · refine (readOnly_columnOf fields).bind fun column => ?_
    refine (ReadOnly.ofExcept _).bind fun spacing => ?_
    exact (ReadOnly.ofExcept _).bind fun r => ReadOnly.pure _
  · exact ReadOnly.fail _

theorem readOnly_moveAsked (config : Config) (task : Int) (content : Content) :
    (moveAsked config task content).ReadOnly := by
  refine (ReadOnly.ofExcept _).bind fun fields => ?_
  refine (readOnly_columnOf fields).bind fun column => ?_
  refine (ReadOnly.ofExcept _).bind fun spacing => ?_
  exact (ReadOnly.ofExcept _).bind fun r => ReadOnly.pure _

theorem readOnly_batchAsked (config : Config) (content : Content) :
    (batchAsked config content).ReadOnly := by
  refine (ReadOnly.ofExcept _).bind fun fields => ?_
  refine (ReadOnly.ofExcept _).bind fun spacing => ?_
  exact (ReadOnly.ofExcept _).bind fun r => ReadOnly.pure _

theorem readOnly_deletionAsked (config : Config) (task : Int) :
    (deletionAsked config task).ReadOnly :=
  (ReadOnly.ofExcept _).bind fun _ => ReadOnly.pure _

/-- The operation that a route performs for a method, if it is one of the four. -/
def asked? (config : Config) (content : Content) (route : Route) (verb : Verb) :
    Option (Work (Spacing × Operation.Request)) :=
  match route, verb with
  | _, .options => none
  | .tasks, _ => some (newTaskAsked config content)
  | .task id, .put => some (moveAsked config id content)
  | .task id, _ => some (deletionAsked config id)
  | .reorder, _ => some (batchAsked config content)
  | _, _ => none

/-- The route and the method of a request, if there is a route and it knows the method. -/
def routed? (r : Request) : Option (Route × Verb) :=
  match destination (segments (decodedPath r.path)) with
  | .known route => (route.verb? r.method).map fun verb => (route, verb)
  | _ => none

/-- What a request asks for, if it asks for one of the four operations. -/
def operation? (config : Config) (r : Request) : Option (Work (Spacing × Operation.Request)) :=
  (routed? r).bind fun (route, verb) => asked? config r.content route verb

/-- What a request asks for is found out without changing anything. -/
theorem readOnly_of_operation? {config : Config} {r : Request}
    {asked : Work (Spacing × Operation.Request)} (h : operation? config r = some asked) :
    asked.ReadOnly := by
  obtain ⟨⟨route, verb⟩, -, hasked⟩ := Option.bind_eq_some_iff.mp h
  change asked? config r.content route verb = some asked at hasked
  unfold asked? at hasked
  split at hasked
  · cases hasked
  · cases hasked
    exact readOnly_newTaskAsked config r.content
  · cases hasked
    exact readOnly_moveAsked config _ r.content
  · cases hasked
    exact readOnly_deletionAsked config _
  · cases hasked
    exact readOnly_batchAsked config r.content
  · cases hasked

theorem spacingOf_eq_ok {config : Config} {c : Conditions} {b b' : Board} {spacing : Spacing}
    (h : spacingOf config c b = (.ok spacing, b')) :
    Spacing.ofConfig config none none = .ok spacing := by
  obtain ⟨h, -⟩ := ofExcept_eq_ok.mp h
  cases hspacing : Spacing.ofConfig config none none with
  | error cause =>
    rw [hspacing] at h
    cases h
  | ok spacing' =>
    rw [hspacing] at h
    cases h
    rfl

theorem checked_eq_ok {α : Type} {x : Except InvalidInput α} {c : Conditions} {b b' : Board} {a : α}
    (h : checked x c b = (.ok a, b')) : x = .ok a := by
  obtain ⟨h, -⟩ := ofExcept_eq_ok.mp h
  cases x with
  | error cause => cases h
  | ok a' =>
    cases h
    rfl

/-- What is asked for can be asked for, and it is performed under the distances of the
configuration. -/
theorem asked_eq_ok {config : Config} {r : Request} {asked : Work (Spacing × Operation.Request)}
    (h : operation? config r = some asked) {c : Conditions} {b b' : Board} {spacing : Spacing}
    {q : Operation.Request} (hasked : asked c b = (.ok (spacing, q), b')) :
    Spacing.ofConfig config none none = .ok spacing ∧ q.Sound := by
  obtain ⟨⟨route, verb⟩, -, hroute⟩ := Option.bind_eq_some_iff.mp h
  change asked? config r.content route verb = some asked at hroute
  unfold asked? at hroute
  split at hroute
  · cases hroute
  · cases hroute
    obtain ⟨fields, b₁, -, h₁⟩ := bind_eq_ok.mp hasked
    split at h₁
    · obtain ⟨column, b₂, -, h₂⟩ := bind_eq_ok.mp h₁
      -- every request reads the distances before its arguments are checked
      obtain ⟨spacing', b₃, hspacing, h₃⟩ := bind_eq_ok.mp h₂
      obtain ⟨arguments, b₄, -, h₄⟩ := bind_eq_ok.mp h₃
      cases h₄
      exact ⟨spacingOf_eq_ok hspacing, trivial⟩
    · cases h₁
  · cases hroute
    obtain ⟨fields, b₁, -, h₁⟩ := bind_eq_ok.mp hasked
    obtain ⟨column, b₂, -, h₂⟩ := bind_eq_ok.mp h₁
    obtain ⟨spacing', b₃, hspacing, h₃⟩ := bind_eq_ok.mp h₂
    obtain ⟨arguments, b₄, harguments, h₄⟩ := bind_eq_ok.mp h₃
    cases h₄
    exact ⟨spacingOf_eq_ok hspacing,
      -- only a move has something to be refused for: standing next to itself
      Operation.MoveRequest.reference_ne_of_ofArguments (checked_eq_ok harguments)⟩
  · cases hroute
    obtain ⟨spacing', b₁, hspacing, h₁⟩ := bind_eq_ok.mp hasked
    cases h₁
    exact ⟨spacingOf_eq_ok hspacing, trivial⟩
  · cases hroute
    obtain ⟨fields, b₁, -, h₁⟩ := bind_eq_ok.mp hasked
    obtain ⟨spacing', b₂, hspacing, h₂⟩ := bind_eq_ok.mp h₁
    obtain ⟨arguments, b₃, -, h₃⟩ := bind_eq_ok.mp h₂
    cases h₃
    exact ⟨spacingOf_eq_ok hspacing, trivial⟩
  · cases hroute

/-! ## Answers -/

theorem answered_of_ok {w : Work Answer} {c : Conditions} {b b' : Board} {a : Answer}
    (h : w c b = (.ok a, b')) : answered w c b = (a, b') := by
  rw [answered, h]

/-- A failure takes back whatever was done before it. -/
theorem answered_of_error {w : Work Answer} {c : Conditions} {b b' : Board} {f : Failure}
    (h : w c b = (.error f, b')) : answered w c b = (.ofFailure f, b) := by
  rw [answered, h]

/-- Every kind of failure of the ordering engine has a status of failures. -/
theorem le_status_kind (kind : ErrorKind) : (400 : Int) ≤ kind.status := by
  cases kind <;> decide

/-- The answer to a request that fails tells so. -/
theorem status_ofFailure (f : Failure) : 400 ≤ (Answer.ofFailure f).status := by
  unfold Answer.ofFailure
  split
  · exact le_status_kind _
  · show (400 : Int) ≤ 500
    decide

/-- The answer to a request that succeeds does not. -/
theorem status_outcomeAnswer (o : Outcome) : (outcomeAnswer o).status < 400 := by
  cases o with
  | created =>
    show (201 : Int) < 400
    decide
  | moved | placed | deleted =>
    show (200 : Int) < 400
    decide

@[simp] theorem status_sent (method : String) (a : Answer) : (sent method a).status = a.status := by
  unfold sent
  split <;> split <;> rfl

/-- A route that performs an operation does what is asked for, and looks at no tag. -/
theorem perform_of_asked {s : Service} {code : String} {content : Content}
    {ifNoneMatch : Option String} {route : Route} {verb : Verb}
    {asked : Work (Spacing × Operation.Request)}
    (h : asked? s.config content route verb = some asked) (c : Conditions) (b : Board) :
    perform s code content ifNoneMatch route verb c b = answered (performAsked code asked) c b := by
  unfold asked? at h
  split at h
  · cases h
  · next hverb =>
    cases h
    rw [← createTask_eq]
    cases verb with
    | options => exact absurd rfl hverb
    | _ => rfl
  · cases h
    rw [← moveTask_eq]
    rfl
  · next hoptions hput =>
    cases h
    rw [← deleteTask_eq]
    cases verb with
    | options => exact absurd rfl hoptions
    | put => exact absurd rfl hput
    | _ => rfl
  · next hverb =>
    cases h
    rw [← placeTasks_eq]
    cases verb with
    | options => exact absurd rfl hverb
    | _ => rfl
  · cases h

theorem viewed_of_readOnly {w : Work Returned} (h : w.ReadOnly) (ifNoneMatch : Option String)
    (c : Conditions) (b : Board) : (viewed ifNoneMatch w c b).2 = b := by
  unfold viewed
  split
  · next hw => exact h.board_eq hw
  · rfl

theorem readOnly_readBoard : readBoard.ReadOnly := ReadOnly.query _

theorem readOnly_refused (e : Failure) : (refused e).ReadOnly := by
  unfold refused
  split
  · exact ReadOnly.pure _
  · exact ReadOnly.fail _

theorem readOnly_readColumn (id : Int) : (readColumn id).ReadOnly := by
  refine (ReadOnly.read _).attempt.bind fun found => ?_
  cases found with
  | ok column => exact ReadOnly.query _
  | error e => exact readOnly_refused e

/-- A method of a route that is none of the four operations leaves the board as it is. -/
theorem perform_of_not_asked {s : Service} {code : String} {content : Content}
    {ifNoneMatch : Option String} {route : Route} {verb : Verb} (hverb : verb ∈ route.verbs)
    (h : asked? s.config content route verb = none) (c : Conditions) (b : Board) :
    (perform s code content ifNoneMatch route verb c b).2 = b := by
  cases verb with
  | options => rfl
  | get =>
    cases route with
    | board => exact viewed_of_readOnly readOnly_readBoard ifNoneMatch c b
    | column id => exact viewed_of_readOnly (readOnly_readColumn id) ifNoneMatch c b
    | tasks | task id | reorder => cases h
    | live | ready | startup | file => rfl
  | head =>
    cases route with
    | board => exact viewed_of_readOnly readOnly_readBoard ifNoneMatch c b
    | column id => exact viewed_of_readOnly (readOnly_readColumn id) ifNoneMatch c b
    | tasks | task id | reorder => cases h
    | live | ready | startup | file => rfl
  -- these methods belong to the routes of the operations alone
  | post | put | delete =>
    cases route with
    | tasks | task id | reorder => cases h
    | board | column id | live | ready | startup | file => simp [Route.verbs] at hverb

/-- A request reaches a route under the name of one of its methods. -/
theorem verb_of_routed? {r : Request} {route : Route} {verb : Verb}
    (h : routed? r = some (route, verb)) :
    Verb.ofName? r.method = some verb ∧ verb ∈ route.verbs := by
  unfold routed? at h
  split at h
  · next route' _ =>
    obtain ⟨verb', hverb, heq⟩ := Option.map_eq_some_iff.mp h
    obtain ⟨rfl, rfl⟩ := Prod.mk.inj heq
    simpa [Route.verb?] using hverb
  · cases h

theorem respond_of_routed {s : Service} {code : String} {r : Request} {route : Route} {verb : Verb}
    (h : routed? r = some (route, verb)) (c : Conditions) (b : Board) :
    respond s code r c b =
      (sent r.method (perform s code r.content r.ifNoneMatch route verb c b).1,
        (perform s code r.content r.ifNoneMatch route verb c b).2) := by
  unfold routed? at h
  unfold respond
  dsimp only
  split at h
  · next route' hroute =>
    obtain ⟨verb', hverb, heq⟩ := Option.map_eq_some_iff.mp h
    obtain ⟨rfl, rfl⟩ := Prod.mk.inj heq
    rw [hroute]
    dsimp only [answerAt]
    rw [hverb]
  · cases h

/-- Where no route is reached, the board stays as it is. -/
theorem respond_of_not_routed {s : Service} {code : String} {r : Request} (h : routed? r = none)
    (c : Conditions) (b : Board) : (respond s code r c b).2 = b := by
  unfold routed? at h
  unfold respond
  dsimp only
  split at h
  · next route hroute =>
    rw [hroute]
    dsimp only [answerAt]
    rw [Option.map_eq_none_iff.mp h]
  · next hunknown =>
    split
    · next route hroute => exact absurd hroute (hunknown route)
    · rfl
    · split <;> rfl

/-- A request that asks for none of the four operations leaves the board as it is. -/
theorem respond_of_no_operation {s : Service} {code : String} {r : Request}
    (h : operation? s.config r = none) (c : Conditions) (b : Board) :
    (respond s code r c b).2 = b := by
  cases hrouted : routed? r with
  | none => exact respond_of_not_routed hrouted c b
  | some routed =>
    obtain ⟨route, verb⟩ := routed
    rw [respond_of_routed hrouted]
    rw [operation?, hrouted] at h
    exact perform_of_not_asked (verb_of_routed? hrouted).2 h c b

/-- What is refused before an operation begins is answered with a failure. -/
theorem answered_of_refused {code : String} {asked : Work (Spacing × Operation.Request)}
    {c : Conditions} {b : Board} {f : Failure} (h : (asked c b).1 = .error f) :
    answered (performAsked code asked) c b = (.ofFailure f, b) := by
  have hasked : asked c b = (.error f, (asked c b).2) := Prod.ext h rfl
  exact answered_of_error (bind_of_error hasked)

/-- What is not refused is answered by what the operation does. -/
theorem answered_of_asked (code : String) {asked : Work (Spacing × Operation.Request)}
    (hread : asked.ReadOnly) {c : Conditions} {b : Board} {spacing : Spacing}
    {q : Operation.Request} (h : (asked c b).1 = .ok (spacing, q)) :
    (∃ o b', q.perform spacing code c b = (.ok o, b') ∧
      answered (performAsked code asked) c b = (outcomeAnswer o, b')) ∨
    (∃ f, q.perform spacing code c b = (.error f, b) ∧
      answered (performAsked code asked) c b = (.ofFailure f, b)) := by
  -- finding out what is asked for leaves the board alone, so the operation starts on it
  have hwork : performAsked code asked c b = (outcomeAnswer <$> q.perform spacing code) c b :=
    hread.bind_of_ok h _
  rcases hq : q.perform spacing code c b with ⟨f | o, b'⟩
  · obtain rfl := transaction_of_error hq
    have hfailed := map_eq_error (f := outcomeAnswer) |>.mpr hq
    exact .inr ⟨f, rfl, answered_of_error (hwork.trans hfailed)⟩
  · refine .inl ⟨o, b', rfl, answered_of_ok ?_⟩
    rw [hwork]
    exact map_eq_ok.mpr ⟨o, hq, rfl⟩

/-- The methods that ask for an operation ask for a whole answer. -/
theorem verb_ne_head {r : Request} {config : Config} {asked : Work (Spacing × Operation.Request)}
    (h : operation? config r = some asked) : r.method ≠ headMethod := by
  obtain ⟨⟨route, verb⟩, hrouted, hasked⟩ := Option.bind_eq_some_iff.mp h
  obtain ⟨hverb, hmem⟩ := verb_of_routed? hrouted
  intro hhead
  rw [hhead] at hverb
  obtain rfl : Verb.head = verb := Option.some.inj hverb
  cases route with
  | tasks | task id | reorder => simp [Route.verbs] at hmem
  | board | column id | live | ready | startup | file => cases hasked

/-- An answer to a request that asks for an operation is sent as it is. -/
theorem sent_of_operation {r : Request} {config : Config}
    {asked : Work (Spacing × Operation.Request)} (h : operation? config r = some asked)
    {a : Answer} (hstatus : a.status ≠ 304) : sent r.method a = a := by
  simp [sent, hstatus, verb_ne_head h]

/-- The notice of a failed operation is sent with its body, as none of its methods asks for the head
alone. -/
theorem sent_ofFailure {r : Request} {config : Config} {asked : Work (Spacing × Operation.Request)}
    (h : operation? config r = some asked) (f : Failure) :
    sent r.method (.ofFailure f) = .ofFailure f := by
  have hstatus := status_ofFailure f
  exact sent_of_operation h (by omega)

theorem sent_outcomeAnswer {r : Request} {config : Config}
    {asked : Work (Spacing × Operation.Request)} (h : operation? config r = some asked)
    (o : Outcome) : sent r.method (outcomeAnswer o) = outcomeAnswer o := by
  refine sent_of_operation h ?_
  cases o with
  | created =>
    show (201 : Int) ≠ 304
    decide
  | moved | placed | deleted =>
    show (200 : Int) ≠ 304
    decide

/-- A request that asks for an operation is answered by what the operation does. -/
theorem respond_of_operation {s : Service} {code : String} {r : Request}
    {asked : Work (Spacing × Operation.Request)} (h : operation? s.config r = some asked)
    (c : Conditions) (b : Board) :
    respond s code r c b =
      (sent r.method (answered (performAsked code asked) c b).1,
        (answered (performAsked code asked) c b).2) := by
  obtain ⟨⟨route, verb⟩, hrouted, hasked⟩ := Option.bind_eq_some_iff.mp h
  rw [respond_of_routed hrouted, perform_of_asked hasked]

/-- What is refused before an operation begins is answered with a failure. -/
theorem respond_of_refused {s : Service} {code : String} {r : Request}
    {asked : Work (Spacing × Operation.Request)} (h : operation? s.config r = some asked)
    {c : Conditions} {b : Board} {f : Failure} (hasked : (asked c b).1 = .error f) :
    respond s code r c b = (.ofFailure f, b) := by
  rw [respond_of_operation h, answered_of_refused hasked, sent_ofFailure h]

/-- What is not refused is answered by what the operation does, and sent as it is. -/
theorem respond_of_asked {s : Service} (code : String) {r : Request}
    {asked : Work (Spacing × Operation.Request)} (h : operation? s.config r = some asked)
    {c : Conditions} {b : Board} {spacing : Spacing} {q : Operation.Request}
    (hasked : (asked c b).1 = .ok (spacing, q)) :
    (∃ o b', q.perform spacing code c b = (.ok o, b') ∧
      respond s code r c b = (outcomeAnswer o, b')) ∨
    (∃ f, q.perform spacing code c b = (.error f, b) ∧
      respond s code r c b = (.ofFailure f, b)) := by
  rw [respond_of_operation h]
  rcases answered_of_asked code (readOnly_of_operation? h) hasked with
    ⟨o, b', hq, ha⟩ | ⟨f, hq, ha⟩
  · rw [ha, sent_outcomeAnswer h]
    exact .inl ⟨o, b', hq, rfl⟩
  · rw [ha, sent_ofFailure h]
    exact .inr ⟨f, hq, rfl⟩

end Http

end Kanban
