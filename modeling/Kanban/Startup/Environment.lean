import Kanban.Setting
import Kanban.Spacing

/-!
# The environment

The variables that the service is started with, and the configuration that they make up. An integer
variable that is blank or does not write an integer falls back to its default.
-/

namespace Kanban

structure Environment where
  databaseUrl : Option String
  sessionSecret : Option String
  logLevel : Option String
  positionGap : Option String
  rebalanceThreshold : Option String
  name : Option String
deriving DecidableEq, Repr, Inhabited

namespace Environment

def defaultDatabaseUrl : String := "sqlite:///kanban.db"

/-- The name of an environment that has none. -/
def defaultName : String := "development"

/-- An integer variable. Underscores in it are ignored. -/
def integer (raw : Option String) (default : Int) : Int :=
  match raw with
  | none => default
  | some s =>
    if Text.isBlankText s then default
    else
      match Numeral.read (String.ofList (s.toList.filter (· ≠ '_'))) with
      | .ok n => n
      | .error _ => default

def config (env : Environment) : Config :=
  [(Setting.databaseUrl.key, .text (env.databaseUrl.getD defaultDatabaseUrl)),
    (Setting.trackModifications.key, .bool false),
    (Setting.secretKey.key, env.sessionSecret.elim .null .text),
    (Setting.positionGap.key, .int (integer env.positionGap defaultGap)),
    (Setting.rebalanceThreshold.key, .int (integer env.rebalanceThreshold defaultThreshold)),
    (Setting.sortKeys.key, .bool false)]

/-- The name under which the service runs: the one of its configuration, else the one of its
environment. -/
def effectiveName (env : Environment) (given : Json) : Json :=
  if given.isGiven then given else .text (env.name.getD defaultName)

end Environment

end Kanban
