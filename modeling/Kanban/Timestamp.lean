/-!
# Timestamps

A moment is a number of seconds since 1970-01-01 00:00:00, and its text is the civil date and time
of the Gregorian calendar. Dates are counted in years that begin with March, so that the day that is
added in a leap year is the last one of its year.
-/

namespace Kanban

/-- A moment, in seconds since 1970-01-01 00:00:00. -/
structure Timestamp where
  seconds : Nat
deriving DecidableEq, Repr, Inhabited

namespace Timestamp

/-- The year, month and day of a day that is counted from 1970-01-01. -/
def civilDate (daysSince1970 : Nat) : Nat × Nat × Nat :=
  let days := daysSince1970 + 719468
  let era := days / 146097
  let dayOfEra := days % 146097
  let yearOfEra := (dayOfEra - dayOfEra / 1460 + dayOfEra / 36524 - dayOfEra / 146096) / 365
  let dayOfYear := dayOfEra - (365 * yearOfEra + yearOfEra / 4 - yearOfEra / 100)
  let shiftedMonth := (5 * dayOfYear + 2) / 153
  let day := dayOfYear - (153 * shiftedMonth + 2) / 5 + 1
  let month := if shiftedMonth < 10 then shiftedMonth + 3 else shiftedMonth - 9
  let year := yearOfEra + 400 * era
  (if month ≤ 2 then year + 1 else year, month, day)

def padded (width n : Nat) : List Char :=
  let digits := Nat.toDigits 10 n
  List.replicate (width - digits.length) '0' ++ digits

/-- The date and the time of day, with a separator between them. -/
def text (separator : Char) (t : Timestamp) : String :=
  let (year, month, day) := civilDate (t.seconds / 86400)
  let rest := t.seconds % 86400
  String.ofList
    (padded 4 year ++ '-' :: padded 2 month ++ '-' :: padded 2 day ++ separator ::
      padded 2 (rest / 3600) ++ ':' :: padded 2 (rest / 60 % 60) ++ ':' :: padded 2 (rest % 60))

/-- The text of a moment in an answer. -/
def iso (t : Timestamp) : String := t.text 'T'

/-- The text of a moment in a table. -/
def stored (t : Timestamp) : String := t.text ' '

end Timestamp

end Kanban
