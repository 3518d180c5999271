import Kanban.Main
import Kanban.Migration.Command
import Kanban.Session
import Kanban.Startup.Application
import Kanban.Proofs.Edit
import Kanban.Proofs.Work
import Kanban.Proofs.Crowding
import Kanban.Proofs.Closeness
import Kanban.Proofs.Landing
import Kanban.Proofs.Renumbering
import Kanban.Proofs.Store
import Kanban.Proofs.Operation
import Kanban.Proofs.Request
import Kanban.Proofs.Event
import Kanban.Proofs.Lineup
import Kanban.Proofs.Refinement
import Kanban.Proofs.Distance
import Kanban.Proofs.Recovery
import Kanban.Proofs.Atomicity
import Kanban.Proofs.Confinement
import Kanban.Proofs.Fitting
import Kanban.Proofs.Retry
import Kanban.Proofs.Headroom
import Kanban.Proofs.Overflow
import Kanban.Proofs.Drift
import Kanban.Proofs.Escape
import Kanban.Proofs.Canonical
import Kanban.Proofs.Tag
import Kanban.Proofs.Reading
import Kanban.Proofs.Routing
import Kanban.Proofs.Asking
import Kanban.Proofs.History
import Kanban.Proofs.Causes
import Kanban.Proofs.Envelope
import Kanban.Proofs.Agreement
import Kanban.Proofs.Commutation
import Kanban.Proofs.Placement
import Kanban.Proofs.Sides
import Kanban.Proofs.Gate
import Kanban.Proofs.WellFormed
import Kanban.Proofs.Lasting
import Kanban.Proofs.Bodies
import Kanban.Proofs.Revalidation
import Kanban.Proofs.Rebalancing
import Kanban.Proofs.Capacity
import Kanban.Proofs.Precedence
import Kanban.Proofs.Seeding
import Kanban.Proofs.Refusal
import Kanban.Proofs.Spelling
