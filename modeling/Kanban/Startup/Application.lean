import Kanban.Startup.DatabaseSystem
import Kanban.Startup.Environment
import Kanban.Startup.LogLevel
import Kanban.Startup.Report

/-!
# Starting the service

The service is started with an environment and with settings that override it. It does not start
when a setting cannot be used, and in production it stops when its report says that it is not ready.
-/

namespace Kanban.Startup

inductive Refusal where
  /-- The service is not ready for production. -/
  | notReady
  | logLevel (defect : LogLevel.Defect)
  | mismatch (cause : Mismatch)
  | database (defect : UrlDefect)
deriving DecidableEq, Repr

structure Application where
  config : Config
  report : Report
deriving DecidableEq, Repr

/-- The value of a setting after the old spelling of a database URL is replaced. -/
def renewedSetting (value : Json) : Except Mismatch Json :=
  match value with
  | .text url => .ok (.text (renewed url))
  | .illFormed points => .ok (.illFormed (renewedPoints points))
  | value => if value.isGiven then .error (.notText value "startswith") else .ok value

/-- The configuration of a service that is started with overriding settings. -/
def configure (env : Environment) (overrides : Config) : Except Mismatch Config := do
  let config : Config := Fields.update env.config overrides
  let url ← renewedSetting (config.setting .databaseUrl)
  .ok (Fields.put config Setting.databaseUrl.key url)

def start (env : Environment) (overrides : Config) : Except Refusal Application := do
  let _ ← (LogLevel.ofName env.logLevel).mapError .logLevel
  let config ← (configure env overrides).mapError .mismatch
  let name := env.effectiveName (config.setting .environmentName)
  let report ← (report config name).mapError .mismatch
  if report.stops then .error .notReady
  else
    (checkDatabase (config.setting .databaseUrl)).mapError .database
    .ok ⟨config, report⟩

def parts : List String := ["api_kanban", "health_production"]

end Kanban.Startup
