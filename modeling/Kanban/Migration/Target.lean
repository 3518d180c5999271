import Kanban.Migration.Revision
import Kanban.Numeral
import Kanban.Text.Word

/-!
# Targets

Where a command leads to: a revision that is named, or a number of steps from one. A revision is named
in full or by the beginning of its name; `head` and `heads` name the last revision, and `base` stands
before the first one. A label before an at sign names the way that a revision lies on; there is one way
only, so a label has no effect as long as it names something.
-/

namespace Kanban.Migration

inductive CommandError where
  /-- A range of revisions is given in place of a target. -/
  | range
  /-- No revision has a name that begins so, or several have. -/
  | unknown (name : String)
  /-- There are not as many revisions in that direction. -/
  | notAsMany (steps : String) (count : Nat)
  | tooFar
  /-- A revision to go down to is not below the database. -/
  | notBelow (target : String)
  /-- Steps up are asked for from several revisions. -/
  | severalStarts
  /-- The database is said to be at a revision and at others below it. -/
  | overlapping (name : String) (below : List String)
  /-- A target that must be a revision is none. -/
  | noRevision
  | database (cause : DatabaseError)
deriving DecidableEq, Repr

def CommandError.message : CommandError → String
  | .range => "Range revision not allowed"
  | .unknown name => "Can't locate revision identified by '" ++ name ++ "'"
  | .notAsMany steps count =>
    "Relative revision " ++ steps ++ " didn't produce " ++ toString count ++ " migrations"
  | .tooFar => "Walked too far"
  | .notBelow target =>
    "Destination " ++ target ++ " is not a valid downgrade target from current head(s)"
  | .severalStarts => "Ambiguous upgrade from multiple current revisions"
  | .overlapping name below =>
    "Requested revision " ++ name ++ " overlaps with other requested revisions " ++
      String.intercalate ", " below
  | .noRevision | .database _ => ""

/-! ## How targets are written -/

inductive Target where
  /-- A number of steps from a named revision, or from where the database is. -/
  | relative (label symbol : Option String) (steps : Int) (written : String)
  | absolute (name : String)
deriving DecidableEq, Repr

/-- The number of steps that a text begins with: a sign and digits of any script. -/
def stepsAhead? : List Char → Option (List Char)
  | sign :: rest =>
    let digits := rest.takeWhile Text.isDecimalDigit
    if (sign = '+' || sign = '-') && !digits.isEmpty then some (sign :: digits) else none
  | [] => none

/-- The word that a text begins with, and the number of steps right after it. -/
def wordAndSteps? (cs : List Char) : Option (List Char × List Char) :=
  (stepsAhead? (cs.dropWhile Text.isWordChar)).map fun steps =>
    (cs.takeWhile Text.isWordChar, steps)

/-- The label that a text begins with, and the word and the steps after it. The label is the shortest
one that steps follow; it is not empty and on one line. The first argument is what has been read, from
back to front. -/
def labelled? (before : List Char) : List Char → Option (List Char × List Char × List Char)
  | [] => none
  | c :: rest =>
    let here := if c = '@' && !before.isEmpty then wordAndSteps? rest else none
    match here with
    | some (word, steps) => some (before.reverse, word, steps)
    | none => if c = '\n' then none else labelled? (c :: before) rest

def stepsValue (steps : List Char) : Int :=
  let n : Nat := Numeral.ofDigits ((steps.drop 1).filterMap Text.digitValue?)
  if steps.head? = some '-' then -(n : Int) else n

/-- A target that is a number of steps. -/
def Target.ofParts (label : Option (List Char)) (word steps : List Char) : Target :=
  .relative (label.map String.ofList) (if word.isEmpty then none else some (String.ofList word))
    (stepsValue steps) (String.ofList steps)

def Target.ofText (s : String) : Target :=
  match labelled? [] s.toList with
  | some (label, word, steps) => .ofParts (some label) word steps
  | none =>
    match wordAndSteps? s.toList with
    | some (word, steps) => .ofParts none word steps
    | none => .absolute s

/-! ## Places -/

/-- A place on the way through the revisions. -/
inductive Place where
  /-- No place has been taken yet: the way up begins with the first revision, and the way down with
  the last one. -/
  | outside
  | at (r : Revision)
  /-- Below the first revision, after it has been left. -/
  | bottom
deriving DecidableEq, Repr

def Place.up? : Place → Option Place
  | .outside => (atHeight? 1).map .at
  | .at r => (atHeight? (r.height + 1)).map .at
  | .bottom => none

def Place.down? : Place → Option Place
  | .outside => (atHeight? revisions.length).map .at
  | .at r => some (((atHeight? (r.height - 1)).map .at).getD .bottom)
  | .bottom => none

def walk? (step : Place → Option Place) : Nat → Place → Option Place
  | 0, p => some p
  | n + 1, p => (step p).bind (walk? step n)

/-! ## Names -/

/-- The revision whose name is given, or the only one whose name begins so. -/
def Revision.named (name : String) : Except CommandError Revision :=
  match revisions.find? fun r => r.id = name with
  | some r => .ok r
  | none =>
    if name.isEmpty then .error .noRevision
    else
      match revisions.filter fun r => name.toList.isPrefixOf r.id.toList with
      | [r] => .ok r
      | _ => .error (.unknown name)

/-- A name stands for the last revision. -/
def isHead (name : String) : Bool := name = "head" || name = "heads"

def Place.named (name : String) : Except CommandError Place :=
  if name = "base" then .ok .outside
  else if isHead name then .ok ((Place.outside.down?).getD .outside)
  else (Revision.named name).map .at

/-- A label names a revision. -/
def checkLabel : Option String → Except CommandError Unit
  | none => .ok ()
  | some label => (Revision.named label).map fun _ => ()

/-- A label of a way up names a place. -/
def checkWay : Option String → Except CommandError Unit
  | none => .ok ()
  | some label => (Place.named label).map fun _ => ()

def Place.labelled (label : Option String) (name : String) : Except CommandError Place := do
  checkLabel label
  Place.named name

/-- The revision at a place that must be one. -/
def Place.revision : Option Place → Except CommandError Revision
  | some (.at r) => .ok r
  | _ => .error .noRevision

/-- The label and the name of a target that is no number of steps. An empty label is none. -/
def splitLabel (name : String) : Option String × String :=
  match name.toList.dropWhile (· ≠ '@') with
  | _ :: rest =>
    let label := name.toList.takeWhile (· ≠ '@')
    (if label.isEmpty then none else some (String.ofList label), String.ofList rest)
  | [] => (none, name)

/-- The revision that a target names which is no number of steps, and nothing for `base`. A negative
number counts from the last revision down. -/
def named? (target : String) : Except CommandError (Option Revision) := do
  let (label, name) := splitLabel target
  if name = "base" then .ok none
  else
    match Numeral.read name with
    | .ok (.negSucc n) =>
      if label.isSome then .ok none
      else
        let head ← Place.named "head"
        (Place.revision (walk? Place.down? (n + 1) head)).map some
    | _ =>
      let place ← Place.labelled label name
      (Place.revision (some place)).map some

/-! ## Where commands lead to -/

/-- The revision that a way up leads to, from the revisions that the database is said to be at. -/
def Target.above (at' : List String) : Target → Except CommandError (Option Revision)
  | .absolute name => named? name
  | .relative label symbol steps written =>
    match symbol with
    | none =>
      if steps ≤ 0 then .error (.notAsMany (toString steps) steps.natAbs)
      else do
        if label.isSome then
          at'.forM fun name => (named? name).map fun _ => ()
          checkWay label
        let start ←
          match at' with
          | [] => .ok Place.outside
          | [name] => Place.named name
          | _ => .error .severalStarts
        match walk? Place.up? steps.natAbs start with
        | some place => (Place.revision (some place)).map some
        | none => .error (.notAsMany written steps.natAbs)
    | some symbol =>
      if 0 < steps then do
        let start ← Place.named symbol
        if start.up?.isSome then checkWay label
        (Place.revision (walk? Place.up? steps.natAbs start)).map some
      else do
        let start ← Place.labelled label symbol
        (Place.revision (walk? Place.down? steps.natAbs start)).map some

def afterLabels (name : String) : String :=
  String.ofList (name.toList.reverse.takeWhile (· ≠ '@')).reverse

/-- The revision that a way down leads to, and nothing when it leads below all revisions. -/
def Target.below (at' : List String) : Target → Except CommandError (Option Revision)
  | .absolute name =>
    match Place.named (afterLabels name) with
    | .ok (.at r) => .ok (some r)
    | .ok _ => .ok none
    | .error e => .error e
  | .relative label symbol steps written =>
    match symbol with
    | none =>
      match at' with
      | name :: _ =>
        if steps < 0 then do
          let start ← Place.labelled (some name) name
          checkWay label
          match walk? Place.down? steps.natAbs start with
          | some (.at r) => .ok (some r)
          | some .bottom => .ok none
          | _ => .error (.notAsMany written steps.natAbs)
        else .error (.notAsMany written steps.natAbs)
      | [] => .error (.notAsMany written steps.natAbs)
    | some symbol => do
      let start ←
        if 0 ≤ steps then Place.named symbol else Place.labelled label symbol
      if 0 < steps ∧ start.up?.isSome then checkWay label
      match walk? (if 0 ≤ steps then Place.up? else Place.down?) steps.natAbs start with
      | some (.at r) => .ok (some r)
      | some .bottom => .ok none
      | _ => .error .tooFar

end Kanban.Migration
