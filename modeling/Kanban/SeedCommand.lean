import Kanban.Seed

/-!
# The seeding command

The command adds the columns of a new board to a database that has tables, or makes the tables first
when it is told so. An option may be cut short as long as it is the only one that begins so.
-/

namespace Kanban.SeedCommand

/-! ## Arguments -/

def schemaOption : List Char := "--create-schema".toList

def helpOption : List Char := "--help".toList

/-- The letter that the option for help is cut down to. -/
def helpLetter : Char := 'h'

inductive Argument where
  | createSchema
  | help
  /-- An option with a value that it does not take. -/
  | unwanted
  /-- An option that may be short for several ones. -/
  | ambiguous
  | unknown
  /-- What follows is no option. -/
  | separator
deriving DecidableEq, Repr

def abbreviates (option full : List Char) : Bool :=
  "--".toList.length < option.length && option.isPrefixOf full

/-- What follows the letter for help: nothing, or the same letter again. -/
def Argument.afterLetter : List Char → Argument
  | [] => .help
  | '=' :: rest | rest => if !rest.isEmpty && rest.all (· = helpLetter) then .help else .unwanted

/-- An option with two dashes, perhaps with a value. -/
def Argument.ofOption (cs : List Char) : Argument :=
  let option := cs.takeWhile (· ≠ '=')
  let known := if abbreviates option schemaOption then some Argument.createSchema
    else if abbreviates option helpOption then some .help
    else none
  match known with
  | none => .unknown
  | some argument => if cs.contains '=' then .unwanted else argument

def Argument.ofText (s : String) : Argument :=
  match s.toList with
  | ['-', '-'] => .separator
  | '-' :: '-' :: '=' :: _ => .ambiguous
  | '-' :: c :: rest => if c = helpLetter then .afterLetter rest else .ofOption ('-' :: c :: rest)
  | cs => .ofOption cs

inductive Intent where
  | seed (createSchema : Bool)
  | showHelp
  | refuse
deriving DecidableEq, Repr

/-- What a list of arguments asks for, after options that have been read. The first argument that
asks for help or cannot be read decides, and an unknown one counts only in the end. -/
def intentAfter (createSchema refused : Bool) : List Argument → Intent
  | [] => if refused then .refuse else .seed createSchema
  | .createSchema :: rest => intentAfter true refused rest
  | .help :: _ => .showHelp
  | .unwanted :: _ | .ambiguous :: _ => .refuse
  | .unknown :: rest => intentAfter createSchema true rest
  | .separator :: _ => .refuse

/-- What a list of arguments asks for. An ambiguous option is noticed before anything else. -/
def intentOf (arguments : List String) : Intent :=
  let read := arguments.map Argument.ofText
  if (read.takeWhile (· ≠ .separator)).contains .ambiguous then .refuse
  else intentAfter false false read

/-! ## Running -/

structure Ending where
  exitCode : Nat
  output : String
deriving DecidableEq, Repr

def usage : String := "usage: seed [-h] [--create-schema]\n"

def summary (created : List Json) : String :=
  if created.isEmpty then "✅ All default columns already exist\n"
  else "✅ Created columns: " ++ String.intercalate ", " (created.map Json.plain) ++ "\n"

/-- A run of the command on a database that has tables or not. -/
def run (arguments : List String) (c : Conditions) (board : Option Board) :
    Except Failure Ending × Option Board :=
  match intentOf arguments with
  | .refuse => (.ok ⟨2, ""⟩, board)
  | .showHelp => (.ok ⟨0, usage⟩, board)
  | .seed createSchema =>
    match board.or (if createSchema then some .empty else none) with
    | none => (.error (.database .missing), none)
    | some b =>
      match Seed.seedDefaults c b with
      | (.ok created, b') => (.ok ⟨0, summary created⟩, some b')
      | (.error e, b') => (.error e, some b')

end Kanban.SeedCommand
