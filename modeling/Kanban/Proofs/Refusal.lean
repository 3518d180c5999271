import Kanban.Proofs.Causes
import Kanban.Proofs.Placement

/-!
# Refused arguments

The arguments of a call are refused for what they are (`Call.request`) and for nothing else: once they
are accepted, no board and no database can make the operation fail in that way
(`Request.blameless_work`). So a call that is refused once is refused in the same way on every board
and under all conditions, and it is nothing but that failure (`Call.refused_by_arguments`).

Which arguments of a batch are accepted is said without the order in which they are checked: each
entry gives a task and a position (`Operation.Gives`), and no two of them give the same task
(`Operation.Lists`).
-/

namespace Kanban

open Work

/-! ## Accepted arguments are not blamed -/

/-- A failure that blames the arguments of a call. -/
def Failure.BlamesInput : Failure → Prop
  | .invalidInput _ => True
  | _ => False

abbrev Failure.Blameless (f : Failure) : Prop := ¬ f.BlamesInput

theorem Failure.blameless_of_ofMove {gap : Int} (f : Failure) (h : f.OfMove gap) : f.Blameless := by
  cases f with
  | invalidInput => cases h
  | _ => exact id

theorem Failure.blameless_of_ofStore (f : Failure) (h : f.OfStore) : f.Blameless :=
  @Failure.blameless_of_ofMove 0 f (Failure.ofMove_of_ofStore f h)

theorem Stored.blameless_text? {value : Json} {f : Failure} (h : Stored.text? value = .error f) :
    f.Blameless := by
  have hbound : Stored.bound? value = .error f := except_map_eq_error.mp h
  cases value with
  | int n =>
    exact Failure.blameless_of_ofStore f (Stored.ofStore_integer (except_map_eq_error.mp hbound))
  | float x => cases x <;> cases hbound
  | null | bool | text => cases hbound
  | illFormed | list | object =>
    cases hbound
    exact id

namespace Operation

variable {c : Conditions} {b : Board} {spacing : Spacing}

theorem NewTask.blameless_descriptionText {r : NewTask} {f : Failure}
    (h : r.descriptionText = .error f) : f.Blameless := by
  unfold NewTask.descriptionText at h
  split at h
  · cases h
  · cases h
  · split at h
    · cases h
      exact id
    · cases h

theorem NewTask.blameless_tagList {r : NewTask} {f : Failure} (h : r.tagList = .error f) :
    f.Blameless := by
  unfold NewTask.tagList at h
  split at h
  · cases h
  · cases h
  · cases h
  · cases h
  · split at h
    · cases h
      exact id
    · cases h

/-- A title is checked with the arguments. What else is written on a task is found unfit only when
it is stored, and that is told as a failure of another kind. -/
theorem blameless_creation (code : String) (r : NewTask) :
    (creation spacing code r).FailsOnly Failure.Blameless c b := by
  refine .bind ((Store.ofStore_lockColumn r.column).mono Failure.blameless_of_ofStore)
    fun _ _ _ => ?_
  refine .bind ((Store.ofStore_order r.column).mono Failure.blameless_of_ofStore) fun _ _ _ => ?_
  refine .bind (.ofExcept fun _ => NewTask.blameless_descriptionText) fun _ _ _ => ?_
  refine .bind (.ofExcept fun _ => NewTask.blameless_tagList) fun _ _ _ => ?_
  refine Store.failsOnly_addTask (fun _ => id) ?_ fun _ _ _ => Stored.blameless_text?
  exact fun n _ f hf => Failure.blameless_of_ofStore f (Stored.ofStore_integer hf)

/-- No board and no conditions make an operation blame arguments that were accepted. -/
theorem Request.blameless_work (q : Request) (code : String) :
    (q.work spacing code).FailsOnly Failure.Blameless c b := by
  cases q with
  | create r => exact (blameless_creation code r).map
  | move r => exact ((ofMove_relocation r).mono Failure.blameless_of_ofMove).map
  | batch r => exact ((ofStore_placement r).mono Failure.blameless_of_ofStore).map
  | delete task => exact ((ofStore_deletion task).mono Failure.blameless_of_ofStore).map

/-- What is asked for with checked arguments is not blamed on them, on whatever board and under
whatever conditions. -/
theorem Request.perform_ne_invalidInput (q : Request) (code : String) (cause : InvalidInput) :
    (q.perform spacing code c b).1 ≠ .error (.invalidInput cause) := by
  intro h
  obtain ⟨⟨e, hfails, he⟩, -⟩ := transaction_eq_error.mp (Prod.ext h rfl)
  rcases hfails with ⟨b₁, hwork⟩ | ⟨o, b₁, refusal, -, -, rfl⟩
  · have hblameless := q.blameless_work code e (congrArg Prod.fst hwork)
    cases e with
    | invalidInput => exact hblameless trivial
    | _ => cases he
  · cases he

end Operation

/-- A call blames its arguments exactly when they are refused before anything is done. -/
theorem Call.refused_iff {call : Call} {cause : InvalidInput} {spacing : Spacing} {code : String}
    {c : Conditions} {b : Board} :
    (call.perform spacing code c b).1 = .error (.invalidInput cause) ↔
      call.request = .error cause := by
  cases hrequest : call.request with
  | error cause' =>
    rw [Call.perform_of_refused hrequest]
    simp
  | ok q =>
    rw [Call.perform_of_request hrequest]
    simpa using q.perform_ne_invalidInput code cause

/-- What a batch asks for are the targets that its list gives, in the order in which they stand
there. -/
theorem Call.request_batch_eq_ok {column : Int} {positions : Json} {q : Operation.Request} :
    (Call.batch (.int column) positions).request = .ok q ↔
      ∃ targets, q = .batch ⟨column, targets⟩ ∧ Operation.Lists positions targets := by
  rw [Call.request, except_map_eq_ok]
  constructor
  · rintro ⟨⟨column', targets⟩, hr, rfl⟩
    obtain ⟨rfl, hlists⟩ := Operation.BatchRequest.ofArguments_int_eq_ok.mp hr
    exact ⟨targets, rfl, hlists⟩
  · rintro ⟨targets, rfl, hlists⟩
    exact ⟨⟨column, targets⟩, Operation.BatchRequest.ofArguments_int_eq_ok.mpr ⟨rfl, hlists⟩, rfl⟩

/-! ## Calls -/

/-- Whether a call blames its arguments, and for what, is decided by the arguments alone. It does so
on one board under some conditions exactly when it does so for the same cause on any other board under
any other conditions, and then it is that failure and nothing else, so that no board is looked at and
no database is asked. A batch whose column is an integer is accepted exactly when its list lists
targets, and these targets are requested in the order in which they are listed. -/
theorem Call.refused_by_arguments :
    (∀ (call : Call) (cause : InvalidInput) (spacing spacing' : Spacing) (code code' : String)
        (c c' : Conditions) (b b' : Board),
      (call.perform spacing code c b).1 = .error (.invalidInput cause) ↔
        (call.perform spacing' code' c' b').1 = .error (.invalidInput cause)) ∧
    (∀ (call : Call) (cause : InvalidInput) (spacing : Spacing) (code : String) (c : Conditions)
        (b : Board),
      (call.perform spacing code c b).1 = .error (.invalidInput cause) ↔
        call.perform spacing code = .fail (.invalidInput cause)) ∧
    (∀ (column : Int) (positions : Json) (spacing : Spacing) (code : String) (c : Conditions)
        (b : Board),
      (∃ cause, ((Call.batch (.int column) positions).perform spacing code c b).1 =
          .error (.invalidInput cause)) ↔
        ¬ ∃ targets, Operation.Lists positions targets) ∧
    ∀ (column : Int) (positions : Json) (targets : List (Int × Int)),
      (Call.batch (.int column) positions).request = .ok (.batch ⟨column, targets⟩) ↔
        Operation.Lists positions targets := by
  refine ⟨?_, ?_, ?_, ?_⟩
  -- neither side mentions board or faults once the refusal is read off the arguments
  · intro call cause spacing spacing' code code' c c' b b'
    rw [Call.refused_iff, Call.refused_iff]
  · intro call cause spacing code c b
    constructor
    · intro h
      exact Call.perform_of_refused (Call.refused_iff.mp h)
    · intro h
      rw [h]
      rfl
  -- a list is refused exactly when it does not list any targets
  · intro column positions spacing code c b
    simp only [Call.refused_iff]
    constructor
    · rintro ⟨cause, hrefused⟩ ⟨targets, hlists⟩
      rw [Call.request_batch_eq_ok.mpr ⟨targets, rfl, hlists⟩] at hrefused
      cases hrefused
    · intro hnone
      cases hrequest : (Call.batch (.int column) positions).request with
      | error cause => exact ⟨cause, rfl⟩
      | ok q =>
        obtain ⟨targets, -, hlists⟩ := Call.request_batch_eq_ok.mp hrequest
        exact absurd ⟨targets, hlists⟩ hnone
  · intro column positions targets
    simp [Call.request_batch_eq_ok]

end Kanban
