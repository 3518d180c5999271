import Kanban.Http.Address
import Kanban.Http.Api
import Kanban.Http.Health
import Kanban.Http.Route

/-!
# The service

A request is answered by the route that its path leads to. A route that does not know the method
answers with status 405, and a path that leads nowhere with status 404. A request that fails changes
nothing.
-/

namespace Kanban.Http

/-- What the service knows besides the board. -/
structure Service where
  config : Config
  /-- The report of its start. -/
  report : Option Startup.Report
deriving DecidableEq, Repr

/-- The answer of a piece of work. When it fails the board stays as it was. -/
def answered (w : Work Answer) (c : Conditions) (b : Board) : Answer × Board :=
  match w c b with
  | (.ok a, b') => (a, b')
  | (.error e, _) => (.ofFailure e, b)

/-- The answer of a view that reads. What fails within the view itself is answered with a page. -/
def viewed (ifNoneMatch : Option String) (w : Work Returned) (c : Conditions) (b : Board) :
    Answer × Board :=
  match w c b with
  | (.ok returned, b') => ((returned.answer? ifNoneMatch).getD (.page 500), b')
  | (.error _, _) => (.page 500, b)

/-- What a route does for a method that it knows. The code is the one of a task that is created,
and the tag is the one that the client has already. -/
def perform (s : Service) (code : String) (content : Content) (ifNoneMatch : Option String)
    (route : Route) (verb : Verb) (c : Conditions) (b : Board) : Answer × Board :=
  match route, verb with
  | _, .options => (.page 200, b)
  | .board, _ => viewed ifNoneMatch readBoard c b
  | .column id, _ => viewed ifNoneMatch (readColumn id) c b
  | .tasks, _ => answered (createTask s.config code content) c b
  | .task id, .put => answered (moveTask s.config id content) c b
  | .task id, _ => answered (deleteTask s.config id) c b
  | .reorder, _ => answered (placeTasks s.config content) c b
  | .live, _ => (liveAnswer, b)
  | .ready, _ => (readyAnswer c, b)
  | .startup, _ => (startupAnswer s.report, b)
  | .file, _ => (.page 404, b)

/-- The method of requests for the head of an answer alone. It must be written so. -/
def headMethod : String := "HEAD"

/-- An answer as it is sent: without a media type when nothing has changed for the client, and
without a body when only the head was asked for. -/
def sent (method : String) (a : Answer) : Answer :=
  let a := if a.status = 304 then { a with mediaType := none } else a
  if method = headMethod then a.withoutBody else a

def answerAt (s : Service) (code : String) (r : Request) (route : Route) (c : Conditions)
    (b : Board) : Answer × Board :=
  match route.verb? r.method with
  | none => (.page 405, b)
  | some verb =>
    let (a, b') := perform s code r.content r.ifNoneMatch route verb c b
    (sent r.method a, b')

/-- The answer to a request, and the board after it. -/
def respond (s : Service) (code : String) (r : Request) (c : Conditions) (b : Board) :
    Answer × Board :=
  let path := decodedPath r.path
  match destination (segments path) with
  | .known route => answerAt s code r route c b
  | .tooLong route => (.page (if route.isStrict r.method then 404 else 405), b)
  | .unknown =>
    -- rows of slashes are written as single ones, and the client is sent there
    match (destination (segments (merged path))).route? with
    | none => (.page 404, b)
    | some route => (.page (if (route.verb? r.method).isSome then 308 else 405), b)

end Kanban.Http
