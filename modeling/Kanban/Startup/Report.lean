import Kanban.Setting

/-!
# The start-up report

Before the service answers requests its configuration is checked: there is a database URL, the
session secret is long enough, the two distances of the ordering engine are positive integers, and
the gap is at least twice the threshold, so that a renumbered column has room for an insertion.
-/

namespace Kanban.Startup

inductive Severity where
  | error
  | warning
  | info
deriving DecidableEq, Repr

def Severity.name : Severity → String
  | .error => "error"
  | .warning => "warning"
  | .info => "info"

structure Check where
  name : String
  passed : Bool
  message : String
  severity : Severity
  remediation : Option String
deriving DecidableEq, Repr

/-- A check that stands in the way of production. -/
def Check.isCritical (c : Check) : Bool := c.severity = .error && !c.passed

structure Report where
  environment : Json
  checks : List Check
deriving DecidableEq, Repr

def isProduction (environment : Json) : Bool := environment = .text "production"

/-- No failed check stands in the way of production. -/
def Report.isReady (r : Report) : Bool := !r.checks.any Check.isCritical

/-! ## The checks -/

def databaseCheck (config : Config) : Check :=
  if (config.setting .databaseUrl).isGiven then
    ⟨"db:url", true, "Database URL is configured", .error, none⟩
  else
    ⟨"db:url", false, "Missing required: DATABASE_URL", .error,
      some "Set DATABASE_URL to a PostgreSQL (or SQLite) connection string"⟩

def minSecretLength : Nat := 32

def secretCheckName : String := "security:session_secret"

/-- A weak session secret stops nothing but production. -/
def weakSecret (production : Bool) (message remediation : String) : Check :=
  ⟨secretCheckName, !production, message, if production then .error else .warning,
    some remediation⟩

def length : Json → Except Mismatch Nat
  | .text s => .ok s.length
  | .illFormed points => .ok points.length
  | .list items => .ok items.length
  | .object fields => .ok fields.length
  | value => .error (.noLength value)

def secretCheck (config : Config) (production : Bool) : Except Mismatch Check :=
  let secret := config.setting .secretKey
  if secret.isGiven then do
    let n ← length secret
    if n < minSecretLength then
      .ok
        (weakSecret production
          ("SESSION_SECRET too short (" ++ toString n ++ " chars, need " ++
            toString minSecretLength ++ "+)")
          ("Use at least " ++ toString minSecretLength ++ " characters for SESSION_SECRET"))
    else
      .ok ⟨secretCheckName, true, "SESSION_SECRET meets length requirements", .error, none⟩
  else
    .ok
      (weakSecret production "SESSION_SECRET not set"
        "Generate a strong random key: python -c 'import secrets; print(secrets.token_hex(32))'")

def positive? : Json → Option Int
  | .int n => if 0 < n then some n else none
  | _ => none

def positiveCheck (config : Config) (s : Setting) : Check :=
  let name := "ordering:" ++ s.key.toLower
  let value := config.setting s
  match positive? value with
  | some n => ⟨name, true, s.key ++ " = " ++ toString n, .error, none⟩
  | none =>
    ⟨name, false, s.key ++ " must be a positive integer (got " ++ value.shown ++ ")", .error,
      some ("Set " ++ s.key ++ " to a positive integer or unset it to use the default")⟩

/-- How many tasks can be inserted one after another into the gap between two tasks of a renumbered
column before it is crowded: the number of times that the gap can be halved. -/
def insertCapacity (gap threshold : Int) : Nat := (gap / threshold).toNat.log2

/-- The gap leaves room for an insertion. -/
def spacingCheck (gap threshold : Int) : Check :=
  if gap < 2 * threshold then
    ⟨"ordering:spacing", false,
      Setting.positionGap.key ++ " (" ++ toString gap ++ ") must be at least twice " ++
        Setting.rebalanceThreshold.key ++ " (" ++ toString threshold ++ ")",
      .error, some "Increase the gap or lower the threshold"⟩
  else
    ⟨"ordering:spacing", true,
      "~" ++ toString (insertCapacity gap threshold) ++
        " midpoint inserts between neighbours before rebalance",
      .info, none⟩

/-- The checks of the distances: each one for itself, and the two together when both are positive
integers. -/
def orderingChecks (config : Config) : List Check :=
  let each := [positiveCheck config .positionGap, positiveCheck config .rebalanceThreshold]
  match positive? (config.setting .positionGap),
    positive? (config.setting .rebalanceThreshold) with
  | some gap, some threshold => each ++ [spacingCheck gap threshold]
  | _, _ => each

def report (config : Config) (environment : Json) : Except Mismatch Report := do
  let secret ← secretCheck config (isProduction environment)
  .ok ⟨environment, databaseCheck config :: secret :: orderingChecks config⟩

/-- Whether the service stops instead of starting: in production, when it is not ready for it. -/
def Report.stops (r : Report) : Bool := isProduction r.environment && !r.isReady

/-! ## The report in an answer -/

def Check.toJson (c : Check) : Json :=
  .object
    [("name", .text c.name), ("passed", .bool c.passed), ("message", .text c.message),
      ("severity", .text c.severity.name), ("remediation", c.remediation.elim .null .text)]

def Report.summary (r : Report) : Json :=
  .object
    [("total_validations", .int r.checks.length),
      ("passed", .int (r.checks.countP Check.passed)),
      ("failed", .int (r.checks.countP fun c => !c.passed))]

def Report.toJson (r : Report) : Json :=
  .object
    [("environment", r.environment), ("ready_for_production", .bool r.isReady),
      ("validations", .list (r.checks.map Check.toJson)), ("summary", r.summary)]

end Kanban.Startup
