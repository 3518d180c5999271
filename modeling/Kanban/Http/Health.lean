import Kanban.Http.Message
import Kanban.Startup.Report
import Kanban.Work

/-!
# Health probes

The service tells whether it is alive, whether its database answers, and how the checks at its start
went.
-/

namespace Kanban.Http

def liveAnswer : Answer := .json 200 (.object [("status", .text "alive")])

/-- How many characters of a message of the database are shown. -/
def shownDetail : Nat := 100

def databaseHealth : Option DatabaseError → Json
  | none => .object [("healthy", .bool true), ("type", .text "sqlite")]
  | some e =>
    let detail :=
      match e with
      | .unavailable detail => detail
      | _ => ""
    .object
      [("healthy", .bool false), ("error", .text (String.ofList (detail.toList.take shownDetail)))]

def readyAnswer (c : Conditions) : Answer :=
  let refusal := c.refusal? .query
  .json (if refusal.isNone then 200 else 503)
    (.object
      [("status", .text (if refusal.isNone then "ready" else "not_ready")),
        ("checks", .object [("database", databaseHealth refusal)])])

def startupAnswer : Option Startup.Report → Answer
  | none => .json 503 (.object [("status", .text "starting")])
  | some report =>
    .json 200 (.object [("status", .text "started"), ("validation", report.toJson)])

end Kanban.Http
