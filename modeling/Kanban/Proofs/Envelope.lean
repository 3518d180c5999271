import Kanban.Proofs.Causes
import Kanban.Proofs.Distance
import Kanban.Proofs.Routing

/-!
# Answers to requests that fail

A request that changes the board and fails is answered in an envelope with a message, unless it
fails in a way of which the ordering engine has no notice (`Failure.Unnoticed`): then the answer is
a page. `Http.answer_cases` says so, and which ways of failing lead to a page. Within a unit of work
the database is not among them, because there it is hidden behind a failure that has a notice. The
name of a column is looked up before the unit of work begins, and there it is not hidden
(`envelope_missed`).
-/

namespace Kanban

open Work

/-! ## Notices -/

/-- A failure of which the ordering engine has no notice. -/
def Failure.Unnoticed : Failure → Prop
  | .database _ | .integerOverflow | .mismatch _ | .tooDeep | .raised _ => True
  | .invalidInput _ | .columnNotFound _ | .taskNotFound _ | .referenceNotFound _
  | .transactionFailed | .gapExhausted .. => False

namespace Http

/-- An answer that tells of a failure: that there was no success, and a message. -/
def envelope (status : Int) (message : String) : Answer :=
  .json status (.object [("success", .bool false), ("message", .text message)])

/-- An answer is an envelope with one of the three statuses of failures. One about a unit of work
that was rolled back gives no reason away. -/
def Answer.IsEnvelope (a : Answer) : Prop :=
  ∃ status message, a = envelope status message ∧
    (status = 400 ∨ status = 404 ∨ status = 500) ∧
    (status = 500 → message = "Failed to reorder tasks")

/-- A failure without a notice is answered with a page. -/
theorem ofFailure_of_unnoticed {f : Failure} (h : f.Unnoticed) :
    Answer.ofFailure f = .page 500 := by
  cases f <;> first | rfl | cases h

/-- A failure with a notice is answered with an envelope. -/
theorem isEnvelope_ofFailure {f : Failure} (h : ¬f.Unnoticed) :
    (Answer.ofFailure f).IsEnvelope := by
  cases f with
  | invalidInput cause => exact ⟨400, cause.message, rfl, by decide, fun h => absurd h (by decide)⟩
  | columnNotFound reference => exact ⟨404, "Column not found", rfl, by decide, by decide⟩
  | taskNotFound task => exact ⟨404, "Task not found", rfl, by decide, by decide⟩
  | referenceNotFound task => exact ⟨404, "Reference task not found", rfl, by decide, by decide⟩
  | transactionFailed | gapExhausted => exact ⟨500, _, rfl, by decide, fun _ => rfl⟩
  | database | integerOverflow | mismatch | tooDeep | raised => exact absurd trivial h

/-- A page is no envelope, whatever its status. -/
theorem not_isEnvelope_page (status : Int) : ¬(Answer.page status).IsEnvelope := by
  rintro ⟨_, message, h, -⟩
  cases h

theorem outcomeAnswer_ne_page (o : Outcome) (status : Int) : outcomeAnswer o ≠ .page status := by
  intro h
  cases o <;> cases h

end Http

/-! ## Within a unit of work -/

/-- A failure that arises in the handling of stored rows, and not from a value of the wrong shape.
-/
def Failure.Orderly : Failure → Prop
  | .mismatch _ | .tooDeep | .raised _ => False
  | _ => True

theorem Failure.orderly_of_ofMove {gap : Int} (f : Failure) (h : f.OfMove gap) : f.Orderly := by
  cases f with
  | mismatch | tooDeep | raised => cases h
  | _ => trivial

theorem Failure.orderly_of_ofStore (f : Failure) (h : f.OfStore) : f.Orderly := by
  cases f with
  | mismatch | tooDeep | raised => cases h
  | _ => trivial

namespace Operation

variable {c : Conditions} {b : Board} {spacing : Spacing}

/-- What a request wants to have written can be stored. -/
def Request.Writable : Request → Prop
  | .create r => r.Writable
  | .move _ | .batch _ | .delete _ => True

/-- If what is to be written can be stored, an operation fails only in the handling of rows. -/
theorem Request.orderly_work {q : Request} (hq : q.Writable) (code : String) :
    (q.work spacing code).FailsOnly Failure.Orderly c b := by
  cases q with
  | create r => exact ((ofStore_creation hq).mono Failure.orderly_of_ofStore).map
  | move r => exact ((ofMove_relocation r).mono Failure.orderly_of_ofMove).map
  | batch r => exact ((ofStore_placement r).mono Failure.orderly_of_ofStore).map
  | delete task => exact ((ofStore_deletion task).mono Failure.orderly_of_ofStore).map

/-- An operation fails without a notice only when an integer does not fit, or when what is to be
written cannot be stored. -/
theorem Request.failure_of_perform {q : Request} {code : String} {f : Failure}
    (h : (q.perform spacing code c b).1 = .error f) (hf : f.Unnoticed) :
    f = .integerOverflow ∨ ¬q.Writable := by
  refine or_iff_not_imp_right.mpr fun hq => ?_
  rw [not_not] at hq
  obtain ⟨⟨e, hfails, rfl⟩, -⟩ := transaction_eq_error.mp (Prod.ext h rfl)
  rcases hfails with ⟨b₁, hwork⟩ | ⟨o, b₁, refusal, -, -, rfl⟩
  · have horderly := Request.orderly_work hq code e (congrArg Prod.fst hwork)
    cases e with
    | integerOverflow => rfl
    | mismatch | tooDeep | raised => cases horderly
    | _ => cases hf
  · cases hf

end Operation

namespace Http

/-! ## Before a unit of work -/

/-- Why a request can fail without a notice before its operation begins: its content is nested too
deeply, the distances cannot be read, or it names a column by its name, and the database refuses the
lookup or cannot hold the name. -/
inductive Unprepared (config : Config) (content : Content) (c : Conditions) : Prop where
  | tooDeep (h : content.json? = .error .tooDeep)
  | settings {cause : Mismatch} (h : Spacing.ofConfig config none none = .error cause)
  | lookup {fields : Fields} (hfields : content.fields = .ok fields)
      (hid : fields.get "columnId" = .null) (hname : (fields.get "columnName").isGiven)
      (h : (∃ refusal, c.refusal? .query = some refusal) ∨
        ∃ f, Stored.text? (fields.get "columnName") = .error f)

section Preparation

variable {config : Config} {content : Content} {c : Conditions} {b : Board}

/-- A piece of work fails with a notice, or because the request is unprepared. -/
abbrev Prepares (config : Config) (content : Content) {α : Type} (w : Work α) (c : Conditions)
    (b : Board) : Prop :=
  w.FailsOnly (fun f => f.Unnoticed → Unprepared config content c) c b

/-- Content that cannot be read counts as none, unless it is nested too deeply. -/
theorem json?_eq_error {f : Failure} (h : content.json? = .error f) : f = .tooDeep := by
  cases content with
  | absent => cases h
  | value j => cases h
  | text mediaType s =>
    simp only [Content.json?] at h
    split at h
    · cases h
    · split at h
      · cases h
      · cases h
      · cases h
        rfl

theorem prepares_fieldsOf : Prepares config content (fieldsOf content) c b := by
  intro f hf hunnoticed
  simp only [fieldsOf, ofExcept_apply, Content.fields] at hf
  -- only a body that is nested too deeply is left without a notice
  cases hjson : content.json? with
  | error e =>
    rw [hjson] at hf
    obtain rfl := json?_eq_error hjson
    exact .tooDeep hjson
  | ok found =>
    rw [hjson] at hf
    simp only [bind, Except.bind] at hf
    split at hf
    · cases hf
    · cases hf
    · cases hf
    · cases hf
      cases hunnoticed

theorem prepares_spacingOf : Prepares config content (spacingOf config) c b := by
  intro f hf _
  cases hspacing : Spacing.ofConfig config none none with
  | error cause => exact .settings hspacing
  | ok spacing =>
    rw [spacingOf, ofExcept_apply, hspacing] at hf
    cases hf

theorem prepares_checked {α : Type} (x : Except InvalidInput α) :
    Prepares config content (checked x) c b := by
  intro f hf hunnoticed
  cases x with
  | error cause =>
    cases hf
    cases hunnoticed
  | ok a => cases hf

/-- When looking for the column of a request fails without a notice, the request is unprepared. -/
theorem prepares_columnOf {fields : Fields} (hfields : content.fields = .ok fields) :
    Prepares config content (columnOf fields) c b := by
  unfold columnOf
  split
  · next hid =>
    dsimp only
    split
    -- only here the database is asked, by a name that has to be a text to be looked for
    · next hname =>
      refine FailsOnly.bind (.query (fun e he _ => .lookup hfields hid hname (.inl ⟨e, he⟩)) ?_)
        fun _ _ _ => .pure _
      intro f hf hunnoticed
      cases htext : Stored.text? (fields.get "columnName") with
      | error e => exact .lookup hfields hid hname (.inr ⟨e, htext⟩)
      | ok name =>
        rw [htext] at hf
        simp only [bind, Except.bind] at hf
        split at hf
        · cases hf
        · cases hf
          cases hunnoticed
    · exact .pure _
  · exact .pure _

/-- The distances and the arguments are the last that is looked at. -/
theorem prepares_arguments {α β : Type} (x : Except InvalidInput α) (f : Spacing → α → β) :
    Prepares config content (do
      let spacing ← spacingOf config
      let a ← checked x
      pure (f spacing a)) c b :=
  .bind_readOnly (.ofExcept _) prepares_spacingOf fun _ _ =>
    .bind_readOnly (.ofExcept _) (prepares_checked x) fun _ _ => .pure _

theorem prepares_newTaskAsked : Prepares config content (newTaskAsked config content) c b := by
  refine .bind_readOnly (.ofExcept _) prepares_fieldsOf fun fields hfields => ?_
  split
  · exact .bind_readOnly (readOnly_columnOf fields)
      (prepares_columnOf (ofExcept_eq_ok.mp hfields).1) fun _ _ => prepares_arguments _ _
  · exact .fail fun h => by cases h

theorem prepares_moveAsked (task : Int) :
    Prepares config content (moveAsked config task content) c b :=
  .bind_readOnly (.ofExcept _) prepares_fieldsOf fun fields hfields =>
    .bind_readOnly (readOnly_columnOf fields) (prepares_columnOf (ofExcept_eq_ok.mp hfields).1)
      fun _ _ => prepares_arguments _ _

theorem prepares_batchAsked : Prepares config content (batchAsked config content) c b :=
  .bind_readOnly (.ofExcept _) prepares_fieldsOf fun _ _ => prepares_arguments _ _

theorem prepares_deletionAsked (task : Int) :
    Prepares config content (deletionAsked config task) c b :=
  .bind_readOnly (.ofExcept _) prepares_spacingOf fun _ _ => .pure _

end Preparation

/-- Finding out what a request asks for fails with a notice, or for one of the reasons that make a
request unprepared. -/
theorem prepares_of_operation? {config : Config} {r : Request}
    {asked : Work (Spacing × Operation.Request)} (h : operation? config r = some asked)
    (c : Conditions) (b : Board) : Prepares config r.content asked c b := by
  obtain ⟨⟨route, verb⟩, -, hasked⟩ := Option.bind_eq_some_iff.mp h
  change asked? config r.content route verb = some asked at hasked
  unfold asked? at hasked
  split at hasked
  · cases hasked
  · cases hasked
    exact prepares_newTaskAsked
  · cases hasked
    exact prepares_moveAsked _
  · cases hasked
    exact prepares_deletionAsked _
  · cases hasked
    exact prepares_batchAsked
  · cases hasked

/-! ## Answers -/

/-- A request fails without a notice: before its operation begins, or in it. -/
def FailsUnnoticed (code : String) (asked : Work (Spacing × Operation.Request)) (c : Conditions)
    (b : Board) : Prop :=
  (∃ f, (asked c b).1 = .error f ∧ f.Unnoticed) ∨
    ∃ spacing q f, (asked c b).1 = .ok (spacing, q) ∧
      (q.perform spacing code c b).1 = .error f ∧ f.Unnoticed

/-- A failure is answered with a page or with an envelope, and a page means that there was no
notice. -/
theorem failed_cases (f : Failure) :
    f.Unnoticed ∧ Answer.ofFailure f = .page 500 ∨
      ¬f.Unnoticed ∧ (Answer.ofFailure f).IsEnvelope := by
  by_cases hf : f.Unnoticed
  · exact .inl ⟨hf, ofFailure_of_unnoticed hf⟩
  · exact .inr ⟨hf, isEnvelope_ofFailure hf⟩

/-- A request for one of the four operations is answered by the outcome, or by a failure that has no
notice exactly when the request fails without one. -/
theorem outcome_or_failure {s : Service} {r : Request}
    {asked : Work (Spacing × Operation.Request)} (h : operation? s.config r = some asked)
    (code : String) (c : Conditions) (b : Board) :
    (∃ o, (respond s code r c b).1 = outcomeAnswer o ∧ ¬FailsUnnoticed code asked c b) ∨
    ∃ f, (respond s code r c b).1 = .ofFailure f ∧
      (FailsUnnoticed code asked c b ↔ f.Unnoticed) := by
  rcases hasked : (asked c b).1 with f | ⟨spacing, q⟩
  · exact .inr ⟨f, by rw [respond_of_refused h hasked], by simp [FailsUnnoticed, hasked]⟩
  · rcases respond_of_asked code h hasked with ⟨o, b', hq, ha⟩ | ⟨f, hq, ha⟩
    · exact .inl ⟨o, by rw [ha], by simp [FailsUnnoticed, hasked, hq]⟩
    · exact .inr ⟨f, by rw [ha], by simp [FailsUnnoticed, hasked, hq]⟩

/-- A request for one of the four operations is answered by the outcome, by an envelope, or by a
page. It is a page exactly when the request fails without a notice, which happens only when the
request is unprepared, an integer of its operation does not fit, or what it wants to have written
cannot be stored. The requests to the addresses of the operations are such requests. -/
theorem answer_cases {s : Service} {r : Request} {asked : Work (Spacing × Operation.Request)}
    (h : operation? s.config r = some asked) (code : String) (c : Conditions) (b : Board) :
    ((∃ o, (respond s code r c b).1 = outcomeAnswer o) ∨ (respond s code r c b).1.IsEnvelope ∨
      (respond s code r c b).1 = .page 500) ∧
    ((respond s code r c b).1 = .page 500 ↔ FailsUnnoticed code asked c b) ∧
    (FailsUnnoticed code asked c b → Unprepared s.config r.content c ∨
      ∃ spacing q, (asked c b).1 = .ok (spacing, q) ∧
        ((q.perform spacing code c b).1 = .error .integerOverflow ∨ ¬q.Writable)) ∧
    ∀ (task : Nat) (content : Content) (tag : Option String), task < 10 ^ Numeral.maxDigits →
      Addressed s.config task content tag := by
  refine ⟨?_, ?_, ?_, fun task content tag => addressed s.config content tag⟩
  -- what is answered: the outcome, an envelope, or the bare page
  · rcases outcome_or_failure h code c b with ⟨o, ha, -⟩ | ⟨f, ha, -⟩
    · exact .inl ⟨o, ha⟩
    · rw [ha]
      exact .inr ((failed_cases f).symm.imp And.right And.right)
  -- the bare page stands for a failure without a notice, and for nothing else
  · rcases outcome_or_failure h code c b with ⟨o, ha, hnot⟩ | ⟨f, ha, hunnoticed⟩
    · rw [ha]
      exact ⟨fun hpage => absurd hpage (outcomeAnswer_ne_page o 500), fun hf => absurd hf hnot⟩
    · rw [ha, hunnoticed]
      refine ⟨fun hpage => ?_, ofFailure_of_unnoticed⟩
      rcases failed_cases f with ⟨hf, -⟩ | ⟨-, henvelope⟩
      · exact hf
      · exact absurd (hpage ▸ henvelope) (not_isEnvelope_page 500)
  -- where such a failure comes from: from the preparation, or from the unit of work
  · rintro (⟨f, hasked, hf⟩ | ⟨spacing, q, f, hasked, hq, hf⟩)
    · exact .inl (prepares_of_operation? h c b f hasked hf)
    · refine .inr ⟨spacing, q, hasked, ?_⟩
      rcases Operation.Request.failure_of_perform hq hf with rfl | hwritable
      · exact .inl hq
      · exact .inr hwritable

/-- A request for a new task in a column that is named by one of its fields. -/
def newTaskRequest (field : String) (column : Json) : Request :=
  ⟨"POST", "/api/kanban/tasks", .value (.object [(field, column), ("title", .text "a")]), none⟩

/-- The database refuses every query. -/
def refusing : Conditions := ⟨⟨0⟩, some ⟨.query, "disk I/O error"⟩⟩

/-- A request that names its column by the id is answered in an envelope then, and the same request
with the name of the column by a page. -/
theorem envelope_missed :
    (bareBoard.columnNamed? "todo").map Column.id = some 1 ∧
      (respond ⟨[], none⟩ "" (newTaskRequest "columnId" (.int 1)) refusing bareBoard).1 =
        envelope 500 "Failed to reorder tasks" ∧
      (respond ⟨[], none⟩ "" (newTaskRequest "columnName" (.text "todo")) refusing bareBoard).1 =
        .page 500 := by
  exact ⟨by decide, by cbv, by cbv⟩

/-- The lookup of the name fails without a notice. -/
theorem answer_cases_named :
    (respond ⟨[], none⟩ "" (newTaskRequest "columnName" (.text "todo")) refusing bareBoard).1 =
        .page 500 ∧
      ∃ asked, operation? [] (newTaskRequest "columnName" (.text "todo")) = some asked ∧
        (asked refusing bareBoard).1 =
          .error (.database (.unavailable "disk I/O error")) := by
  have hoperation : operation? [] (newTaskRequest "columnName" (.text "todo")) =
      some (newTaskAsked [] (newTaskRequest "columnName" (.text "todo")).content) := rfl
  have hasked : (newTaskAsked [] (newTaskRequest "columnName" (.text "todo")).content refusing
      bareBoard).1 = .error (.database (.unavailable "disk I/O error")) := by cbv
  obtain ⟨-, hpage, -⟩ := answer_cases (s := ⟨[], none⟩) hoperation "" refusing bareBoard
  exact ⟨hpage.mpr (.inl ⟨_, hasked, trivial⟩), _, hoperation, hasked⟩

end Http

end Kanban
