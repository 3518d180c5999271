import Kanban.Proofs.Operation
import Kanban.Session

/-!
# Requests with checked arguments

Whatever asks for one of the four operations comes down to a request with checked arguments
(`Operation.Request`), performed as a unit of work under some spacing. What a call asks for is said by
its arguments (`Call.request`).
-/

namespace Kanban

open Work

namespace Operation

/-! ## Accepted arguments -/

/-- An integer argument is an integer, and no truth value or number with a point. -/
theorem integerArgument_eq_ok {field : Field} {value : Json} {n : Int} :
    integerArgument field value = .ok n ↔ value = .int n := by
  cases value with
  | int m => simp [integerArgument]
  | _ => simp [integerArgument]

/-- A position is an integer that fits the stored field. -/
theorem positionArgument_eq_ok {value : Json} {n : Int} :
    positionArgument value = .ok n ↔ value = .int n ∧ Stored.Fits n := by
  unfold positionArgument
  rw [except_bind_eq_ok]
  constructor
  · rintro ⟨m, hm, h⟩
    split at h
    · next hfits =>
      cases h
      exact ⟨integerArgument_eq_ok.mp hm, hfits⟩
    · cases h
  · rintro ⟨rfl, hfits⟩
    exact ⟨n, rfl, if_pos hfits⟩

/-! ## Requests with checked arguments -/

/-- A request for one of the four operations, with checked arguments. -/
inductive Request where
  | create (r : NewTask)
  | move (r : MoveRequest)
  | batch (r : BatchRequest)
  | delete (task : Int)
deriving DecidableEq, Repr

/-- A request that can be asked for: no task is told to stand next to itself. -/
def Request.Sound : Request → Prop
  | .move r => r.reference ≠ some r.task
  | .create _ | .batch _ | .delete _ => True

/-- The arguments of a move name two tasks. -/
theorem MoveRequest.reference_ne_of_ofArguments {task column reference after position : Json}
    {r : MoveRequest} (h : MoveRequest.ofArguments task column reference after position = .ok r) :
    r.reference ≠ some r.task := by
  obtain ⟨task', -, h₁⟩ := except_bind_eq_ok.mp h
  obtain ⟨column', -, h₂⟩ := except_bind_eq_ok.mp h₁
  obtain ⟨reference', -, h₃⟩ := except_bind_eq_ok.mp h₂
  split at h₃
  · cases h₃
  · next hne =>
    obtain ⟨position', -, h₄⟩ := except_bind_eq_ok.mp h₃
    obtain ⟨after', -, h₅⟩ := except_bind_eq_ok.mp h₄
    cases h₅
    exact hne

/-- The work of a request. The code is the one of a task that is created. -/
def Request.work (spacing : Spacing) (code : String) : Request → Work Outcome
  | .create r => Outcome.created <$> creation spacing code r
  | .move r => Outcome.moved <$> relocation spacing r
  | .batch r => Outcome.placed <$> placement spacing r
  | .delete task => (fun _ => Outcome.deleted) <$> deletion task

/-- A request is performed as a unit of work. -/
def Request.perform (spacing : Spacing) (code : String) (q : Request) : Work Outcome :=
  .transaction (q.work spacing code)

theorem Request.perform_create (spacing : Spacing) (code : String) (r : NewTask) :
    (Request.create r).perform spacing code = Outcome.created <$> Operation.create spacing code r :=
  (map_transaction _ _).symm

theorem Request.perform_move (spacing : Spacing) (code : String) (r : MoveRequest) :
    (Request.move r).perform spacing code = Outcome.moved <$> Operation.move spacing r :=
  (map_transaction _ _).symm

/-- A batch as a unit of work is the operation of that name. -/
theorem Request.perform_batch (spacing : Spacing) (code : String) (r : BatchRequest) :
    (Request.batch r).perform spacing code = Outcome.placed <$> Operation.batch spacing r :=
  (map_transaction _ _).symm

theorem Request.perform_delete (spacing : Spacing) (code : String) (task : Int) :
    (Request.delete task).perform spacing code =
      (fun _ => Outcome.deleted) <$> Operation.delete task :=
  (map_transaction _ _).symm

end Operation

/-! ## Calls -/

/-- What a call asks for, unless its arguments are refused. -/
def Call.request : Call → Except InvalidInput Operation.Request
  | .create column title description priority assignee tags =>
    (Operation.NewTask.ofArguments column title description priority assignee tags).map .create
  | .move task column reference after position =>
    (Operation.MoveRequest.ofArguments task column reference after position).map .move
  | .batch column positions => (Operation.BatchRequest.ofArguments column positions).map .batch
  | .delete task => (Operation.integerArgument .taskId task).map .delete

/-- What a call asks for can be asked for: a move next to its own task is refused with the
arguments. -/
theorem Call.sound_of_request {call : Call} {q : Operation.Request} (h : call.request = .ok q) :
    q.Sound := by
  cases call with
  | create | batch | delete =>
    obtain ⟨r, -, rfl⟩ := except_map_eq_ok.mp h
    trivial
  | move =>
    obtain ⟨r, hr, rfl⟩ := except_map_eq_ok.mp h
    exact Operation.MoveRequest.reference_ne_of_ofArguments hr

/-- A call is accepted and performed just when it asks for something. -/
theorem Call.accept_eq (spacing : Spacing) (code : String) (call : Call) :
    call.accept spacing code = call.request.map (Operation.Request.perform spacing code) := by
  -- for each operation, what is performed is the unit of work around its work
  cases call with
  | create column title description priority assignee tags =>
    simp only [Call.accept, Call.request]
    cases Operation.NewTask.ofArguments column title description priority assignee tags with
    | error cause => rfl
    | ok r => exact congrArg Except.ok (Operation.Request.perform_create spacing code r).symm
  | move task column reference after position =>
    simp only [Call.accept, Call.request]
    cases Operation.MoveRequest.ofArguments task column reference after position with
    | error cause => rfl
    | ok r => exact congrArg Except.ok (Operation.Request.perform_move spacing code r).symm
  | batch column positions =>
    simp only [Call.accept, Call.request]
    cases Operation.BatchRequest.ofArguments column positions with
    | error cause => rfl
    | ok r => exact congrArg Except.ok (Operation.Request.perform_batch spacing code r).symm
  | delete task =>
    simp only [Call.accept, Call.request]
    cases Operation.integerArgument .taskId task with
    | error cause => rfl
    | ok id => exact congrArg Except.ok (Operation.Request.perform_delete spacing code id).symm

/-- A call whose arguments are accepted does what it asks for. -/
theorem Call.perform_of_request {spacing : Spacing} {code : String} {call : Call}
    {q : Operation.Request} (h : call.request = .ok q) :
    call.perform spacing code = q.perform spacing code := by
  rw [Call.perform, Call.accept_eq, h]
  rfl

/-- A call that is refused does nothing but fail. -/
theorem Call.perform_of_refused {spacing : Spacing} {code : String} {call : Call}
    {cause : InvalidInput} (h : call.request = .error cause) :
    call.perform spacing code = .fail (.invalidInput cause) := by
  rw [Call.perform, Call.accept_eq, h]
  rfl

/-- The arguments of such a call are accepted unless it names one task twice or its position does not
fit. -/
theorem Call.request_moveTo {task : Int} {column reference : Option Int} (after : Bool)
    {position : Option Int} (hreference : reference ≠ some task)
    (hposition : ∀ p ∈ position, Stored.Fits p) :
    (Call.moveTo task column reference after position).request =
      .ok (.move ⟨task, column, reference, after, position⟩) := by
  -- an argument that is left out is null, and a given one is an integer
  have hgiven : ∀ (field : Field) (n : Option Int),
      Operation.integerArgument? field (n.elim .null .int) = .ok n := by
    intro field n
    cases n with
    | none => rfl
    | some n => rfl
  have hfits : Operation.positionArgument? (position.elim .null .int) = .ok position := by
    cases position with
    | none => rfl
    | some p =>
      show (Operation.positionArgument (.int p)).map some = _
      rw [Operation.positionArgument_eq_ok.mpr ⟨rfl, hposition p rfl⟩]
      rfl
  show Except.map Operation.Request.move (do
    let task ← Operation.integerArgument .taskId (.int task)
    let column ← Operation.integerArgument? .columnId (column.elim .null .int)
    let reference ← Operation.integerArgument? .targetTaskId (reference.elim .null .int)
    if reference = some task then .error .selfReference
    else
      let position ← Operation.positionArgument? (position.elim .null .int)
      let after ← Operation.sideArgument (.bool after)
      .ok ⟨task, column, reference, after, position⟩) = _
  -- the reader asks for the arguments one by one, and each of them is there
  rw [hgiven, hgiven, hfits]
  show Except.map Operation.Request.move (if reference = some task then _ else _) = _
  rw [if_neg hreference]
  rfl

/-- A call of a move with fitting arguments asks for what they say. -/
theorem Call.perform_moveTo {task : Int} {column reference : Option Int} (after : Bool)
    {position : Option Int} (hreference : reference ≠ some task)
    (hposition : ∀ p ∈ position, Stored.Fits p) (spacing : Spacing) (code : String) :
    (Call.moveTo task column reference after position).perform spacing code =
      .transaction (Outcome.moved <$>
        Operation.relocation spacing ⟨task, column, reference, after, position⟩) :=
  Call.perform_of_request (Call.request_moveTo after hreference hposition)

/-- A call is performed under the distances that are given or configured. -/
theorem callWork_of_spacing {config : Config} {gap threshold : Option Int} {spacing : Spacing}
    (h : Spacing.ofConfig config gap threshold = .ok spacing) (code : String) (call : Call) :
    callWork config code gap threshold call = call.perform spacing code := by
  rw [callWork, h]
  exact pure_bind spacing fun s => call.perform s code

end Kanban
