import Kanban.Text.Escaped

/-!
# Addresses

The path that a request names by its address. A scheme and a host at the beginning are left out, and
so are the query and the fragment at the end; this is done twice. In what remains the percent escapes
are resolved. Blanks and controls at the beginning, tabs and line breaks anywhere are not part of an
address.
-/

namespace Kanban.Http

/-- A text without the blanks and controls at its beginning. -/
def unindented (cs : List Char) : List Char := cs.dropWhile fun c => c.toNat ≤ 0x20

/-- A text without tabs and line breaks. -/
def unbroken (cs : List Char) : List Char :=
  cs.filter fun c => c ≠ '\t' && c ≠ '\r' && c ≠ '\n'

def isSchemeChar (c : Char) : Bool := c.isAlphanum || c = '+' || c = '-' || c = '.'

/-- An address without its scheme. The name of a scheme begins with a letter. -/
def withoutScheme (address : List Char) : List Char :=
  match address.dropWhile isSchemeChar with
  | ':' :: rest => if address.head?.any Char.isAlpha then rest else address
  | _ => address

def endsHost (c : Char) : Bool := c = '/' || c = '?' || c = '#'

def withoutHost : List Char → List Char
  | '/' :: '/' :: rest => rest.dropWhile fun c => !endsHost c
  | address => address

/-- The path of an address: what lies between the host and the query or the fragment. -/
def pathPart (address : List Char) : List Char :=
  (withoutHost (withoutScheme (unbroken (unindented address)))).takeWhile fun c =>
    c ≠ '?' && c ≠ '#'

/-- The path that an address leads to, without the slashes at its beginning. -/
def decodedPath (address : String) : List Char :=
  (Text.unescape (unindented (pathPart (pathPart address.toList)))).dropWhile (· = '/')

end Kanban.Http
