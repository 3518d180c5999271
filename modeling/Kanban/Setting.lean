import Kanban.Failure
import Kanban.Spacing

/-!
# Settings

A configuration is an open list of named values. The service reads seven of them. The two integers
that the ordering engine needs are read leniently: a text may write an integer, a truth value counts
as one or zero, and a fractional part is dropped.
-/

namespace Kanban

inductive Setting where
  | databaseUrl
  | trackModifications
  | secretKey
  | positionGap
  | rebalanceThreshold
  | sortKeys
  | environmentName
deriving DecidableEq, Repr

/-- The name of a setting in a configuration. -/
def Setting.key : Setting → String
  | .databaseUrl => "SQLALCHEMY_DATABASE_URI"
  | .trackModifications => "SQLALCHEMY_TRACK_MODIFICATIONS"
  | .secretKey => "SECRET_KEY"
  | .positionGap => "KANBAN_POSITION_GAP"
  | .rebalanceThreshold => "KANBAN_REBALANCE_THRESHOLD"
  | .sortKeys => "JSON_SORT_KEYS"
  | .environmentName => "ENV_NAME"

abbrev Config := Fields

namespace Config

def setting? (config : Config) (s : Setting) : Option Json := Fields.get? config s.key

/-- The value of a setting, or null. -/
def setting (config : Config) (s : Setting) : Json := Fields.get config s.key

end Config

/-! ## The settings of the ordering engine -/

/-- The integer that a value stands for. -/
def Json.integer : Json → Except Mismatch Int
  | .int n => .ok n
  | .bool b => .ok (if b then 1 else 0)
  | .float x =>
    match x with
    | .infinite _ => .error .infinite
    | .notANumber => .error .notANumber
    | .finite .. => .ok (x.truncate?.getD 0)
  | value@(.text s) => (Numeral.read s).mapError (.badNumeral value)
  | value@(.illFormed points) => (Numeral.read (Text.ofPoints points)).mapError (.badNumeral value)
  | value => .error (.notNumeric value)

namespace Spacing

/-- A distance that is not given is read from the configuration, and has a default. -/
def distance (config : Config) (s : Setting) (default : Int) :
    Option Int → Except Mismatch Int
  | some given => .ok given
  | none => ((config.setting? s).map Json.integer).getD (.ok default)

/-- The distances that the ordering engine works with. -/
def ofConfig (config : Config) (gap threshold : Option Int) : Except Mismatch Spacing := do
  let gap ← distance config .positionGap defaultGap gap
  let threshold ← distance config .rebalanceThreshold defaultThreshold threshold
  .ok ⟨gap, threshold⟩

end Spacing

end Kanban
