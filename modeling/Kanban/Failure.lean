import Kanban.Json.Shown
import Kanban.Numeral

/-!
# Why an operation fails

A failure is a cause with its data. The wording is kept apart: `InvalidInput.message`,
`Mismatch.message` and the notices of `Kanban.Notice` say how a cause reads.
-/

namespace Kanban

/-! ## Refused arguments -/

inductive Field where
  | columnId
  | taskId
  | targetTaskId
  | position
deriving DecidableEq, Repr

def Field.name : Field → String
  | .columnId => "columnId"
  | .taskId => "taskId"
  | .targetTaskId => "targetTaskId"
  | .position => "position"

inductive InvalidInput where
  /-- An argument is not an integer. A truth value is none, and neither is a number with a
  fractional part, even if that part is zero. -/
  | notInteger (field : Field) (value : Json)
  | positionOutOfRange (value : Int)
  /-- The side of the reference task is not a truth value. -/
  | sideNotBoolean (value : Json)
  /-- The title is not a text, or it is blank. -/
  | titleMissing
  /-- A task is to be placed next to itself. -/
  | selfReference
  /-- A batch names no column, or has no list of positions. -/
  | positionsMissing
  | entryNotObject
  /-- A task is listed twice in a batch. -/
  | repeatedTask (task : Int)
  /-- A request for a new task names no column or gives no title. -/
  | newTaskIncomplete
  /-- The body of a request is a JSON value other than an object. -/
  | bodyNotObject
  /-- The caller of a unit of work refuses its own input. -/
  | declared (message : String)
deriving DecidableEq, Repr

namespace InvalidInput

def message : InvalidInput → String
  | .notInteger field _ => field.name ++ " must be an integer"
  | .positionOutOfRange _ => "position is out of range"
  | .sideNotBoolean _ => "insertAfter must be a boolean"
  | .titleMissing => "Title is required"
  | .selfReference => "A task cannot be positioned relative to itself"
  | .positionsMissing => "columnId and taskPositions array required"
  | .entryNotObject => "Each taskPositions entry must be an object"
  | .repeatedTask task => "Task " ++ toString task ++ " appears more than once"
  | .newTaskIncomplete => "Column name and title required"
  | .bodyNotObject => "Request body must be a JSON object"
  | .declared text => text

def context : InvalidInput → Fields
  | .notInteger field value => [(field.name, value)]
  | .positionOutOfRange value => [(Field.position.name, .int value)]
  | .sideNotBoolean value => [("insertAfter", value)]
  | .repeatedTask task => [(Field.taskId.name, .int task)]
  | _ => []

end InvalidInput

/-! ## Values of the wrong shape -/

inductive Mismatch where
  | notText (value : Json) (operation : String)
  | notIterable (value : Json)
  | noLength (value : Json)
  /-- A value of this type is not read as a number. -/
  | notNumeric (value : Json)
  /-- A string does not write an integer. -/
  | badNumeral (value : Json) (defect : Numeral.Defect)
  /-- A number has no integer part because it is not a number. -/
  | notANumber
  | infinite
  /-- A list or an object cannot be looked up among names. -/
  | notAName (value : Json)
  | nameMissing
  | unknownField (name : String)
  /-- A column is described with tasks that are no list. -/
  | notAList (value : Json)
  /-- A column is described with a task that is none. -/
  | notATask (value : Json)
  /-- A string in which half of a surrogate pair stands alone cannot be written in bytes. -/
  | illFormed (points : List Nat)
  /-- A text is none of the words for the truth values. -/
  | notATruthValue (text : String)
  /-- A text writes no number. -/
  | notAReal (text : String)
  /-- A number is given several times. -/
  | severalReals
  | severalIntegers
  /-- A name has more than two parts. -/
  | tooManyParts
  /-- There is no path to add a text to. -/
  | noPath
deriving DecidableEq, Repr

/-- How much of a string that writes no integer is shown. -/
def shownNumeral : Nat := 200

/-- The wording for a string in which halves of surrogate pairs stand alone: the first run of them is
named by its place. -/
def illFormedMessage (points : List Nat) : String :=
  let start := (points.takeWhile fun p => !Text.isSurrogate p).length
  let run := (points.drop start).takeWhile Text.isSurrogate
  let place :=
    match run with
    | [half] =>
      " '\\u" ++ String.ofList (Text.hexDigits 4 half) ++ "' in position " ++ toString start
    | _ => "s in position " ++ toString start ++ "-" ++ toString (start + run.length - 1)
  "'utf-8' codec can't encode character" ++ place ++ ": surrogates not allowed"

def Mismatch.message : Mismatch → String
  | .notText value operation =>
    "'" ++ value.typeName ++ "' object has no attribute '" ++ operation ++ "'"
  | .notIterable value => "'" ++ value.typeName ++ "' object is not iterable"
  | .noLength value => "object of type '" ++ value.typeName ++ "' has no len()"
  | .notNumeric value =>
    "int() argument must be a string, a bytes-like object or a real number, not '" ++
      value.typeName ++ "'"
  | .badNumeral value .malformed =>
    "invalid literal for int() with base 10: " ++
      String.ofList (value.shown.toList.take shownNumeral)
  | .badNumeral _ (.tooLong digits) =>
    "Exceeds the limit (" ++ toString Numeral.maxDigits ++
      " digits) for integer string conversion: value has " ++ toString digits ++
      " digits; use sys.set_int_max_str_digits() to increase the limit"
  | .notANumber => "cannot convert float NaN to integer"
  | .infinite => "cannot convert float infinity to integer"
  | .notAName value => "unhashable type: '" ++ value.typeName ++ "'"
  | .nameMissing => "'name'"
  | .unknownField name => Text.quoted name ++ " is an invalid keyword argument for KanbanColumn"
  | .notAList value =>
    "Incompatible collection type: " ++ (if value = .null then "None" else value.typeName) ++
      " is not list-like"
  | .notATask value => "'" ++ value.typeName ++ "' object has no attribute '_sa_instance_state'"
  | .illFormed points => illFormedMessage points
  | .notATruthValue text => "String is not true/false: " ++ Text.quoted text
  | .notAReal text => "could not convert string to float: " ++ Text.quoted text
  | .severalReals => "float() argument must be a string or a real number, not 'tuple'"
  | .severalIntegers =>
    "int() argument must be a string, a bytes-like object or a real number, not 'tuple'"
  | .tooManyParts => "too many values to unpack (expected 2)"
  | .noPath => "unsupported operand type(s) for +=: 'NoneType' and 'str'"

/-! ## Failures -/

inductive DatabaseError where
  /-- The database does not work. -/
  | unavailable (detail : String)
  | constraint
  /-- A value has a type that no field can hold. -/
  | unsupportedValue
  /-- A statement names a table or a field that does not exist. -/
  | missing
  /-- A moment is given as something else. -/
  | notAMoment
deriving DecidableEq, Repr

inductive Failure where
  | invalidInput (cause : InvalidInput)
  | columnNotFound (reference : Json)
  | taskNotFound (task : Int)
  /-- The task to stand next to is not in the destination column. -/
  | referenceNotFound (task : Int)
  /-- The database refused the unit of work, and everything was rolled back. -/
  | transactionFailed
  /-- There is no position between two neighbours, even after a renumbering. -/
  | gapExhausted (lower upper : Int)
  | database (cause : DatabaseError)
  | integerOverflow
  | mismatch (cause : Mismatch)
  /-- Lists and objects of a request are nested too deeply. -/
  | tooDeep
  /-- The caller of a unit of work gives up. -/
  | raised (message : String)
deriving DecidableEq, Repr

/-- A failure as the caller of a unit of work sees it. What the database had to say is hidden behind
`transactionFailed`, and every other failure stays as it is. -/
def Failure.surfaced : Failure → Failure
  | .database _ => .transactionFailed
  | failure => failure

end Kanban
