import Kanban.Http.Service
import Kanban.Seed
import Kanban.Store.Action

/-!
# Sessions

A session is a run of steps on one board. A step is a call of one of the four operations, a request
over HTTP, a unit of work on the store, a single action on the store that nobody commits, or a
seeding of columns.
-/

namespace Kanban

/-! ## Calls of the operations -/

/-- A call of one of the four operations, with arguments that have not been checked. -/
inductive Call where
  | create (column title description priority assignee tags : Json)
  | move (task column reference after position : Json)
  | batch (column positions : Json)
  | delete (task : Json)
deriving DecidableEq, Repr

/-- The call that moves a task, where each of the destination, the reference and the explicit position
may be left out. -/
def Call.moveTo (task : Int) (column reference : Option Int) (after : Bool) (position : Option Int) :
    Call :=
  .move (.int task) (column.elim .null .int) (reference.elim .null .int) (.bool after)
    (position.elim .null .int)

inductive Outcome where
  | created (t : Task)
  | moved (m : Operation.Moved)
  | placed (p : Operation.Placed)
  | deleted
deriving DecidableEq, Repr

def Outcome.toJson : Outcome → Json
  | .created t => t.record
  | .moved m => m.record
  | .placed p => p.record
  | .deleted => .null

/-- What a call does once its arguments are accepted. The code is the one of a task that is
created. -/
def Call.accept (spacing : Spacing) (code : String) :
    Call → Except InvalidInput (Work Outcome)
  | .create column title description priority assignee tags => do
    let r ← Operation.NewTask.ofArguments column title description priority assignee tags
    .ok (Outcome.created <$> Operation.create spacing code r)
  | .move task column reference after position => do
    let r ← Operation.MoveRequest.ofArguments task column reference after position
    .ok (Outcome.moved <$> Operation.move spacing r)
  | .batch column positions => do
    let r ← Operation.BatchRequest.ofArguments column positions
    .ok (Outcome.placed <$> Operation.batch spacing r)
  | .delete task => do
    let id ← Operation.integerArgument .taskId task
    .ok ((fun _ => Outcome.deleted) <$> Operation.delete id)

/-- A call is performed, unless its arguments are refused. -/
def Call.perform (spacing : Spacing) (code : String) (call : Call) : Work Outcome :=
  match call.accept spacing code with
  | .ok work => work
  | .error cause => .fail (.invalidInput cause)

/-! ## Steps -/

inductive Step where
  /-- A call, with the distances that it is given. What is not given is read from the
  configuration. -/
  | call (gap threshold : Option Int) (call : Call)
  | request (r : Http.Request)
  /-- A unit of work, which may end in a failure of its own. -/
  | unit (actions : List Store.Action) (ending : Option Failure)
  /-- A single action that is not committed. -/
  | action (a : Store.Action)
  | seed (descriptions : List Fields)
deriving DecidableEq, Repr

inductive Reaction where
  | outcome (o : Outcome)
  | answer (a : Http.Answer)
  | replies (rs : List Store.Reply)
  | reply (r : Store.Reply)
  | names (names : List Json)
  | failure (e : Failure)
deriving DecidableEq, Repr

/-- A piece of work as a step: its result in one of the forms of a reaction. -/
def Work.reaction {α : Type} (form : α → Reaction) (w : Work α) (c : Conditions) (b : Board) :
    Reaction × Board :=
  match w c b with
  | (.ok a, b') => (form a, b')
  | (.error e, b') => (.failure e, b')

/-- A call with distances that may be given. -/
def callWork (config : Config) (code : String) (gap threshold : Option Int) (call : Call) :
    Work Outcome := do
  let spacing ← .ofExcept ((Spacing.ofConfig config gap threshold).mapError .mismatch)
  call.perform spacing code

/-- What a unit of work on the store does: its actions, and then perhaps a failure of its own. -/
def unitBody (codes : Nat → String) (actions : List Store.Action) (ending : Option Failure) :
    Work (List Store.Reply) := do
  let replies ← Store.performAll codes 0 actions
  match ending with
  | some e => .fail e
  | none => pure replies

def unitWork (codes : Nat → String) (actions : List Store.Action) (ending : Option Failure) :
    Work (List Store.Reply) :=
  .transaction (unitBody codes actions ending)

/-- A step is performed. The codes are a supply for the tasks that it creates. -/
def Step.perform (s : Http.Service) (codes : Nat → String) (step : Step) (c : Conditions)
    (b : Board) : Reaction × Board :=
  match step with
  | .call gap threshold operation =>
    (callWork s.config (codes 0) gap threshold operation).reaction .outcome c b
  | .request r =>
    let (a, b') := Http.respond s (codes 0) r c b
    (.answer a, b')
  | .unit actions ending => (unitWork codes actions ending).reaction .replies c b
  | .action a => (a.perform (codes 0)).discarded.reaction .reply c b
  | .seed descriptions => (Seed.seed descriptions).reaction .names c b

/-! ## Runs -/

/-- A step with its surroundings. -/
structure Event where
  step : Step
  service : Http.Service
  codes : Nat → String
  conditions : Conditions

def Event.perform (e : Event) (b : Board) : Reaction × Board :=
  e.step.perform e.service e.codes e.conditions b

/-- The board after a run of events. -/
def run (b : Board) (events : List Event) : Board :=
  events.foldl (fun b e => (e.perform b).2) b

end Kanban
