import Kanban.Double.StoredText
import Kanban.Failure
import Kanban.Stored.Numeric

/-!
# What a stored field holds

An integer field holds a signed integer of 64 bits, unless a number with a fractional part or a text
that writes no number is put into it. A text field holds a text: a number that is put into it becomes
its decimal text, and a truth value becomes one or zero. What has parts cannot be put into a field at
all, and neither can a string in which half of a surrogate pair stands alone.
-/

namespace Kanban.Stored

/-! ## Integers -/

/-- An integer that is handed to the database: it is looked for or written. -/
def integer (n : Int) : Except Failure Int :=
  if Fits n then .ok n else .error .integerOverflow

/-! ## Values that are handed to the database -/

/-- A value as it is handed to the database, where null and a number that is none leave a field
empty. -/
def bound? : Json → Except Failure (Option Scalar)
  | .null | .float .notANumber => .ok none
  | .text s => .ok (some (.text s))
  | .illFormed points => .error (.mismatch (.illFormed points))
  | .bool b => .ok (some (.integer (if b then 1 else 0)))
  | .int n => (integer n).map fun m => some (.integer m)
  | .float x => .ok (some (.real x))
  | .list _ | .object _ => .error (.database .unsupportedValue)

/-- What a text field keeps of a value. -/
def textual : Scalar → String
  | .integer n => toString n
  | .real x => String.ofList (x.storedText?.getD [])
  | .text s => s

@[simp] theorem textual_text (s : String) : textual (.text s) = s := rfl

def text? (value : Json) : Except Failure (Option String) :=
  (bound? value).map fun s => s.map textual

def number? (value : Json) : Except Failure (Option Scalar) :=
  (bound? value).map fun s => s.map numeric

@[simp] theorem text?_text (s : String) : text? (.text s) = .ok (some s) := rfl

@[simp] theorem text?_null : text? .null = .ok none := rfl

@[simp] theorem number?_null : number? .null = .ok none := rfl

end Kanban.Stored
