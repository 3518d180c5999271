import Kanban.Json
import Kanban.Numeral
import Kanban.Text.HexDigit

/-!
# Reading JSON text

The grammar is that of JSON, with the three additional numbers `NaN`, `Infinity` and `-Infinity`. A
number with a fraction or an exponent is floating-point, any other is an integer, and an integer has
at most `Numeral.maxDigits` digits. Control characters in strings must be escaped. Where a field is
written twice, the later value stands in the place of the earlier one. In the name of a field the
replacement character stands for half of a surrogate pair that stands alone.

Lists and objects are nested up to a given depth. That a text goes deeper is noticed where it does,
whatever follows.
-/

namespace Kanban.Json

inductive Defect where
  | malformed
  | tooDeep
deriving DecidableEq, Repr

/-- What has to be there, or else the text is malformed. -/
def expected {α : Type} : Option α → Except Defect α
  | some a => .ok a
  | none => .error .malformed

def isSpace (c : Char) : Bool := c = ' ' || c = '\t' || c = '\n' || c = '\r'

def skipSpace (cs : List Char) : List Char := cs.dropWhile isSpace

/-! ## Strings -/

def hexUnit? (a b c d : Char) : Option Nat := do
  let a ← Text.hexValue? a
  let b ← Text.hexValue? b
  let c ← Text.hexValue? c
  let d ← Text.hexValue? d
  some (((a * 16 + b) * 16 + c) * 16 + d)

def escapedChar? : Char → Option Char
  | '"' => some '"'
  | '\\' => some '\\'
  | '/' => some '/'
  | 'b' => some '\x08'
  | 'f' => some '\x0C'
  | 'n' => some '\n'
  | 'r' => some '\r'
  | 't' => some '\t'
  | _ => none

/-- The code points of a string up to its closing mark, and the text after that mark. Two escapes of
the halves of a surrogate pair stand for one code point. -/
def stringBody : List Char → Option (List Nat × List Char)
  | '"' :: rest => some ([], rest)
  | '\\' :: 'u' :: a :: b :: c :: d :: '\\' :: 'u' :: e :: f :: g :: h :: rest => do
    let unit ← hexUnit? a b c d
    match (hexUnit? e f g h).bind (Text.paired? unit) with
    | some point =>
      let (points, after) ← stringBody rest
      some (point :: points, after)
    | none =>
      let (points, after) ← stringBody ('\\' :: 'u' :: e :: f :: g :: h :: rest)
      some (unit :: points, after)
  | '\\' :: 'u' :: a :: b :: c :: d :: rest => do
    let unit ← hexUnit? a b c d
    let (points, after) ← stringBody rest
    some (unit :: points, after)
  | '\\' :: e :: rest => do
    let c ← escapedChar? e
    let (points, after) ← stringBody rest
    some (c.toNat :: points, after)
  | c :: rest =>
    if c.toNat < 0x20 ∨ c = '\\' then none
    else do
      let (points, after) ← stringBody rest
      some (c.toNat :: points, after)
  | [] => none

/-! ## Numbers -/

def digitsValue (cs : List Char) : Nat := Numeral.ofDigits (cs.map fun c => c.toNat - '0'.toNat)

/-- The digits before the point: a lone zero, or a row of digits that starts with none. -/
def wholeDigits : List Char → Option (List Char × List Char)
  | '0' :: rest => some (['0'], rest)
  | c :: rest =>
    if c.isDigit then some ((c :: rest).takeWhile Char.isDigit, (c :: rest).dropWhile Char.isDigit)
    else none
  | [] => none

/-- The digits after the point, when a point and a digit follow. -/
def fraction : List Char → Option (List Char) × List Char
  | '.' :: c :: rest =>
    if c.isDigit then
      (some ((c :: rest).takeWhile Char.isDigit), (c :: rest).dropWhile Char.isDigit)
    else (none, '.' :: c :: rest)
  | cs => (none, cs)

def exponentSign : List Char → Bool × List Char
  | '-' :: cs => (true, cs)
  | '+' :: cs => (false, cs)
  | cs => (false, cs)

/-- The exponent, when a mark and a digit follow. -/
def exponent : List Char → Option Int × List Char
  | mark :: cs =>
    let (negative, rest) := exponentSign cs
    if (mark = 'e' || mark = 'E') && rest.head?.any Char.isDigit then
      let value := digitsValue (rest.takeWhile Char.isDigit)
      (some (if negative then -(value : Int) else value), rest.dropWhile Char.isDigit)
    else (none, mark :: cs)
  | [] => (none, [])

def number (negative : Bool) (cs : List Char) : Option (Json × List Char) := do
  let (whole, afterWhole) ← wholeDigits cs
  let (places, afterPlaces) := fraction afterWhole
  let (power, rest) := exponent afterPlaces
  match places, power with
  | none, none =>
    if Numeral.maxDigits < whole.length then none
    else
      let n : Nat := digitsValue whole
      some (.int (if negative then -(n : Int) else n), rest)
  | _, _ =>
    let fractionDigits := places.getD []
    let e := power.getD 0 - fractionDigits.length
    some (.float (Double.ofDecimal negative (digitsValue (whole ++ fractionDigits)) e), rest)

/-! ## Values -/

mutual

/-- The value at the start of a text, and the text after it. The first argument bounds the number
of steps, and the second one is the number of lists and objects that may still be entered. -/
def value : Nat → Nat → List Char → Except Defect (Json × List Char)
  | 0, _, _ => .error .malformed
  | _ + 1, _, 'n' :: 'u' :: 'l' :: 'l' :: rest => .ok (.null, rest)
  | _ + 1, _, 't' :: 'r' :: 'u' :: 'e' :: rest => .ok (.bool true, rest)
  | _ + 1, _, 'f' :: 'a' :: 'l' :: 's' :: 'e' :: rest => .ok (.bool false, rest)
  | _ + 1, _, 'N' :: 'a' :: 'N' :: rest => .ok (.float .notANumber, rest)
  | _ + 1, _, 'I' :: 'n' :: 'f' :: 'i' :: 'n' :: 'i' :: 't' :: 'y' :: rest =>
    .ok (.float (.infinite false), rest)
  | _ + 1, _, '-' :: 'I' :: 'n' :: 'f' :: 'i' :: 'n' :: 'i' :: 't' :: 'y' :: rest =>
    .ok (.float (.infinite true), rest)
  | _ + 1, _, '"' :: rest =>
    (expected (stringBody rest)).map fun (points, after) => (.ofPoints points, after)
  | _ + 1, 0, '[' :: _ | _ + 1, 0, '\x7b' :: _ => .error .tooDeep
  | fuel + 1, room + 1, '[' :: rest =>
    match skipSpace rest with
    | ']' :: after => .ok (.list [], after)
    | cs => (items fuel room cs).map fun (js, after) => (.list js, after)
  | fuel + 1, room + 1, '\x7b' :: rest =>
    match skipSpace rest with
    | '\x7d' :: after => .ok (.object [], after)
    | cs => (members fuel room [] cs).map fun (fs, after) => (.object fs, after)
  | _ + 1, _, '-' :: rest => expected (number true rest)
  | _ + 1, _, cs => expected (number false cs)

/-- The items of a list from its first one on, up to the closing bracket. -/
def items : Nat → Nat → List Char → Except Defect (List Json × List Char)
  | 0, _, _ => .error .malformed
  | fuel + 1, room, cs => do
    let (j, rest) ← value fuel room (skipSpace cs)
    match skipSpace rest with
    | ']' :: after => .ok ([j], after)
    | ',' :: after =>
      let (js, last) ← items fuel room (skipSpace after)
      .ok (j :: js, last)
    | _ => .error .malformed

/-- The fields of an object from the next one on, up to the closing brace, added to those read
before. -/
def members : Nat → Nat → Fields → List Char → Except Defect (Fields × List Char)
  | 0, _, _, _ => .error .malformed
  | fuel + 1, room, fields, cs =>
    match skipSpace cs with
    | '"' :: nameText => do
      let (name, afterName) ← expected (stringBody nameText)
      match skipSpace afterName with
      | ':' :: valueText =>
        let (j, rest) ← value fuel room (skipSpace valueText)
        let fields := Fields.put fields (Text.ofPoints name) j
        match skipSpace rest with
        | '\x7d' :: after => .ok (fields, after)
        | ',' :: after => members fuel room fields after
        | _ => .error .malformed
      | _ => .error .malformed
    | _ => .error .malformed

end

/-- The value that a text writes, if the text is one value and nothing else. Lists and objects are
nested up to a depth. -/
def readChars (depth : Nat) (cs : List Char) : Except Defect Json := do
  let (j, rest) ← value (2 * cs.length + 2) depth (skipSpace cs)
  if (skipSpace rest).isEmpty then .ok j else .error .malformed

/-- The value that a text writes, however deep it is. -/
def read? (s : String) : Option Json := (readChars s.length s.toList).toOption

end Kanban.Json
