import Kanban.Failure
import Kanban.Text.Escaped
import Kanban.Text.Word

/-!
# Database URLs

A database URL begins with the name of a database system, perhaps a driver after a plus sign, and
`://`. A user with a password, a host with a port, the name of a database and a query may follow in
this order. What is left over in the end says nothing.
-/

namespace Kanban.Startup

/-! ## Old spellings -/

def oldScheme : List Char := "postgres://".toList

def newScheme : List Char := "postgresql://".toList

def withBeginning {α : Type} [BEq α] (before after row : List α) : List α :=
  if before.isPrefixOf row then after ++ row.drop before.length else row

/-- A row with the first beginning gets the second one, and keeps the rest. -/
@[simp] theorem withBeginning_append {α : Type} [BEq α] [LawfulBEq α]
    (before after rest : List α) :
    withBeginning before after (before ++ rest) = after ++ rest := by
  simp [withBeginning, List.isPrefixOf_iff_prefix]

def renewed (url : String) : String :=
  String.ofList (withBeginning oldScheme newScheme url.toList)

def renewedPoints (points : List Nat) : List Nat :=
  withBeginning (oldScheme.map Char.toNat) (newScheme.map Char.toNat) points

/-! ## The parts of a URL -/

/-- A database URL. A part that is missing is empty. -/
structure DatabaseUrl where
  system : String
  user : List Char
  password : List Char
  host : List Char
  port : Option Int
  database : Option (List Char)
  /-- The names and values of the query, in order. -/
  query : List (String × String)
deriving DecidableEq, Repr

def DatabaseUrl.values (url : DatabaseUrl) (name : String) : List String :=
  (url.query.filter fun (key, _) => key = name).map Prod.snd

def isSystemChar (c : Char) : Bool := Text.isWordChar c || c = '+'

/-- The name of the database system and the text after it, when the text is a URL. -/
def systemOf? (cs : List Char) : Option (List Char × List Char) :=
  let name := cs.takeWhile isSystemChar
  let mark := "://".toList
  let rest := cs.drop name.length
  if !name.isEmpty && mark.isPrefixOf rest then some (name, rest.drop mark.length) else none

/-- What comes before the last one of a character. -/
def beforeLast? (c : Char) (cs : List Char) : Option (List Char) :=
  if cs.contains c then some ((cs.reverse.dropWhile (· ≠ c)).drop 1).reverse else none

/-- There is a last one of a character exactly when there is one at all. -/
@[simp] theorem beforeLast?_eq_none_iff {c : Char} {cs : List Char} :
    beforeLast? c cs = none ↔ c ∉ cs := by
  simp [beforeLast?]

/-- The user, the password, and the text after the at sign that follows them. A colon before any slash
begins a password, which ends before the first at sign. Without a password the last at sign counts
that stands before any colon or slash. -/
def accountOf (cs : List Char) : List Char × List Char × List Char :=
  let run := cs.takeWhile fun c => c ≠ ':' && c ≠ '/'
  match cs.drop run.length, beforeLast? '@' run with
  | ':' :: rest, found =>
    if rest.contains '@' then
      (run, rest.takeWhile (· ≠ '@'), (rest.dropWhile (· ≠ '@')).drop 1)
    else (found.getD [], [], found.elim cs fun user => cs.drop (user.length + 1))
  | _, found => (found.getD [], [], found.elim cs fun user => cs.drop (user.length + 1))

/-- The host between square brackets, if there are any, and the text after it. -/
def bracketedHost? : List Char → Option (List Char × List Char)
  | '[' :: rest =>
    match beforeLast? ']' (rest.takeWhile fun c => c ≠ '/' && c ≠ '?') with
    | some (c :: host) => some (c :: host, rest.drop (host.length + 2))
    | _ => none
  | _ => none

def hostOf (cs : List Char) : List Char × List Char :=
  (bracketedHost? cs).getD (cs.span fun c => c ≠ '/' && c ≠ ':' && c ≠ '?')

/-- The text of the port, if there is one, and the text after it. -/
def portOf : List Char → Option (List Char) × List Char
  | ':' :: rest =>
    let (port, rest) := rest.span fun c => c ≠ '/' && c ≠ '?'
    (some port, rest)
  | cs => (none, cs)

/-- The name of the database, if there is one, and the text after it. -/
def databaseOf : List Char → Option (List Char) × List Char
  | '/' :: rest =>
    let (database, rest) := rest.span (· ≠ '?')
    (some database, rest)
  | cs => (none, cs)

/-! ## Queries -/

def queryText (cs : List Char) : String :=
  String.ofList (Text.unescape (cs.map fun c => if c = '+' then ' ' else c))

/-- The name and the value of a field of a query. A field without a value says nothing. -/
def queryField? (cs : List Char) : Option (String × String) :=
  match cs.span (· ≠ '=') with
  | (name, _ :: c :: value) => some (queryText name, queryText (c :: value))
  | _ => none

/-- The names and values of a query, which ends with its line. -/
def queryOf : List Char → List (String × String)
  | '?' :: rest => ((rest.takeWhile (· ≠ '\n')).splitOn '&').filterMap queryField?
  | _ => []

/-! ## Reading -/

inductive UrlDefect where
  | malformed
  /-- The URL says something that its database system has no use for. -/
  | unusable
  | unknownSystem
  /-- The driver of the database system is not installed. -/
  | driverMissing (driver : String)
  | absent
  /-- A part of the URL has the wrong shape. -/
  | mismatch (cause : Mismatch)
deriving DecidableEq, Repr

def portNumber (port : List Char) : Except UrlDefect Int :=
  let text := String.ofList port
  (Numeral.read text).mapError fun defect => .mismatch (.badNumeral (.text text) defect)

def DatabaseUrl.read (text : String) : Except UrlDefect DatabaseUrl :=
  match systemOf? text.toList with
  | none => .error .malformed
  | some (system, rest) => do
    let (user, password, rest) := accountOf rest
    let (host, rest) := hostOf rest
    let (portText, rest) := portOf rest
    let (database, rest) := databaseOf rest
    let port ← portText.mapM portNumber
    .ok
      { system := String.ofList system, user, password, host, port, database
        query := queryOf rest }

end Kanban.Startup
