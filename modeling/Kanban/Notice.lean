import Kanban.Failure

/-!
# Notices

What a client is told about a failure of the ordering engine: its kind, a message, and the value
that caused it. The kinds form a tree with `ErrorKind.ordering` at the root, and each has the status
of its answer.
-/

namespace Kanban

inductive ErrorKind where
  | ordering
  | invalidInput
  | notFound
  | columnNotFound
  | taskNotFound
  | referenceNotFound
  | transactionFailed
  | gapExhausted
deriving DecidableEq, Repr

namespace ErrorKind

/-- The kinds that a kind belongs to, from itself up to the root. -/
def lineage : ErrorKind → List ErrorKind
  | .ordering => [.ordering]
  | .invalidInput => [.invalidInput, .ordering]
  | .notFound => [.notFound, .ordering]
  | .columnNotFound => [.columnNotFound, .notFound, .ordering]
  | .taskNotFound => [.taskNotFound, .notFound, .ordering]
  | .referenceNotFound => [.referenceNotFound, .notFound, .ordering]
  | .transactionFailed => [.transactionFailed, .ordering]
  | .gapExhausted => [.gapExhausted, .transactionFailed, .ordering]

def status : ErrorKind → Nat
  | .invalidInput => 400
  | .notFound | .columnNotFound | .taskNotFound | .referenceNotFound => 404
  | .ordering | .transactionFailed | .gapExhausted => 500

end ErrorKind

structure Notice where
  kind : ErrorKind
  message : Json
  context : Json
deriving DecidableEq, Repr

namespace Notice

/-- The message about a rejected unit of work, which gives no reason away. -/
def rollbackMessage : String := "Failed to reorder tasks"

def columnNotFound (reference : Json) : Notice :=
  ⟨.columnNotFound, .text "Column not found", .object [("column", reference)]⟩

def taskNotFound (task : Json) : Notice :=
  ⟨.taskNotFound, .text "Task not found", .object [("task_id", task)]⟩

def referenceNotFound (task : Json) : Notice :=
  ⟨.referenceNotFound, .text "Reference task not found",
    .object [("reference_task_id", task)]⟩

def gapExhausted (lower upper : Json) : Notice :=
  ⟨.gapExhausted, .text rollbackMessage,
    .object
      [("error", .text ("No room between positions " ++ lower.plain ++ " and " ++ upper.plain)),
        ("lower", lower), ("upper", upper)]⟩

/-- A notice with a message and a context of one's own. A context that is not given is empty. -/
def free (kind : ErrorKind) (message context : Json) : Notice :=
  ⟨kind, message, if context.isGiven then context else .object []⟩

/-- A notice from a message and perhaps a context. -/
def freeOfValues? (kind : ErrorKind) : List Json → Option Notice
  | [message] => some (free kind message .null)
  | [message, context] => some (free kind message context)
  | _ => none

/-- The notice of a kind that is made from a list of values, and nothing when their number does not
fit the kind. -/
def ofValues? (kind : ErrorKind) (values : List Json) : Option Notice :=
  match kind, values with
  | .columnNotFound, [reference] => some (columnNotFound reference)
  | .taskNotFound, [task] => some (taskNotFound task)
  | .referenceNotFound, [task] => some (referenceNotFound task)
  | .gapExhausted, [lower, upper] => some (gapExhausted lower upper)
  | .transactionFailed, [] => some (free .transactionFailed (.text rollbackMessage) .null)
  | .ordering, _ | .invalidInput, _ | .notFound, _ | .transactionFailed, _ =>
    freeOfValues? kind values
  | .columnNotFound, _ | .taskNotFound, _ | .referenceNotFound, _ | .gapExhausted, _ => none

/-- The notice about a failure, and nothing when it is not one of the ordering engine. -/
def ofFailure? : Failure → Option Notice
  | .invalidInput cause =>
    some (free .invalidInput (.text cause.message) (.object cause.context))
  | .columnNotFound reference => some (columnNotFound reference)
  | .taskNotFound task => some (taskNotFound (.int task))
  | .referenceNotFound task => some (referenceNotFound (.int task))
  | .transactionFailed => some (free .transactionFailed (.text rollbackMessage) .null)
  | .gapExhausted lower upper => some (gapExhausted (.int lower) (.int upper))
  | .database _ | .integerOverflow | .mismatch _ | .tooDeep | .raised _ => none

def toJson (notice : Notice) : Json :=
  .object [("success", .bool false), ("message", notice.message)]

end Notice

end Kanban
