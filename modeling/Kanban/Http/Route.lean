import Kanban.Numeral
import Kanban.Text.Capital

/-!
# Routes

What a path leads to. Ids are decimal digits of any script. A path with several slashes in a row leads
to the route with a single one, if there is such a route.
-/

namespace Kanban.Http

inductive Route where
  | board
  | column (id : Nat)
  | tasks
  | task (id : Nat)
  | reorder
  | live
  | ready
  | startup
  /-- A file that is served as it is. There are none. -/
  | file
deriving DecidableEq, Repr

inductive Verb where
  | get
  | head
  | post
  | put
  | delete
  | options
deriving DecidableEq, Repr

def Verb.ofName? (name : String) : Option Verb :=
  [("GET", Verb.get), ("HEAD", .head), ("POST", .post), ("PUT", .put), ("DELETE", .delete),
    ("OPTIONS", .options)].lookup (Text.capitals name)

def Route.verbs : Route → List Verb
  | .board | .column _ | .live | .ready | .startup | .file => [.get, .head, .options]
  | .tasks | .reorder => [.post, .options]
  | .task _ => [.put, .delete, .options]

def Route.verb? (route : Route) (method : String) : Option Verb :=
  (Verb.ofName? method).filter fun verb => verb ∈ route.verbs

/-! ## Paths -/

def segments (path : List Char) : List (List Char) := path.splitOn '/'

/-- A path in which a single slash stands for each row of slashes. -/
def merged : List Char → List Char
  | '/' :: '/' :: rest => merged ('/' :: rest)
  | c :: rest => c :: merged rest
  | [] => []

/-- The id that a segment writes: the values of its digits. -/
def idDigits? (segment : List Char) : Option (List Nat) :=
  if segment.isEmpty then none else segment.mapM Text.digitValue?

inductive Destination where
  | known (route : Route)
  /-- An id has too many digits. The route is of the kind of the given one. -/
  | tooLong (route : Route)
  | unknown
deriving DecidableEq, Repr

/-- The route that a path leads to, or one of its kind. -/
def Destination.route? : Destination → Option Route
  | .known route | .tooLong route => some route
  | .unknown => none

def withId (route : Nat → Route) (segment : List Char) : Destination :=
  match idDigits? segment with
  | none => .unknown
  | some digits =>
    if Numeral.maxDigits < digits.length then .tooLong (route 0)
    else .known (route (Numeral.ofDigits digits))

/-- The route of a file with the given segments. Its name does not begin with a slash, and has no line
break after its first character. -/
def fileRoute (path : List (List Char)) : Destination :=
  match List.intercalate ['/'] path with
  | c :: rest => if c = '/' || rest.contains '\n' then .unknown else .known .file
  | [] => .unknown

/-- Where a list of segments leads. -/
def destination (path : List (List Char)) : Destination :=
  match path.map String.ofList with
  | ["api", "kanban"] => .known .board
  | ["api", "kanban", "columns", id] => withId .column id.toList
  | ["api", "kanban", "tasks"] => .known .tasks
  | ["api", "kanban", "tasks", id] => withId .task id.toList
  | ["api", "kanban", "reorder"] => .known .reorder
  | ["health", "live"] => .known .live
  | ["health", "ready"] => .known .ready
  | ["health", "startup"] => .known .startup
  | "static" :: _ => fileRoute (path.drop 1)
  | _ => .unknown

/-- The methods for which a route refuses an id because it has too many digits. The deletion of a task
is not among them: the route passes it over with the id. -/
def Route.strictVerbs : Route → List Verb
  | .task _ => [.put, .options]
  | route => route.verbs

/-- A route looks at the digits of an id when the method has the given name. -/
def Route.isStrict (route : Route) (method : String) : Bool :=
  (Verb.ofName? method).any fun verb => verb ∈ route.strictVerbs

end Kanban.Http
