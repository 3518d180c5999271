import Kanban.Json.Canonical
import Kanban.Json.Reader
import Kanban.Notice
import Kanban.Text.Blank
import Kanban.Text.Encoding
import Kanban.Text.Utf8

/-!
# Requests and answers

A request has a method, an address, and perhaps a content. Its content counts as a JSON value only
when its media type says so and the text is one, in any of the encodings of JSON text; whatever else
is sent counts as nothing. A content that is nested too deeply is a failure.
-/

namespace Kanban.Http

/-! ## Requests -/

inductive Content where
  | absent
  | value (j : Json)
  /-- A text of a media type. -/
  | text (mediaType s : String)
deriving DecidableEq, Repr

structure Request where
  method : String
  /-- The address: a path, perhaps with a host before it and a query after it. -/
  path : String
  content : Content
  /-- The tag of the answer that the client has already. -/
  ifNoneMatch : Option String
deriving DecidableEq, Repr

/-- A character that may stand around the name of a media type. -/
def isPadding (c : Char) : Bool := c = ' ' || c = '\t'

/-- The essence of a media type: without its parameters, in lower case. -/
def essence (mediaType : String) : List Char :=
  (Text.strip isPadding (mediaType.toList.takeWhile (· ≠ ';'))).map Char.toLower

def isJsonType (mediaType : String) : Bool :=
  let name := essence mediaType
  name = "application/json".toList ||
    ("application/".toList.isPrefixOf name && "+json".toList.isSuffixOf name)

def byteOrderMark : Char := '\uFEFF'

def unmarked : List Char → List Char
  | c :: rest => if c = byteOrderMark then rest else c :: rest
  | [] => []

/-- How a code point stands in JSON text: half of a surrogate pair as its escape. -/
def pointChars (point : Nat) : List Char :=
  if Text.isSurrogate point then Json.unitEscape point else [Char.ofNat point]

/-- The JSON text that the bytes of a text make up. There is none when they do not fit their
encoding. -/
def jsonText? (s : String) : Option (List Char) :=
  let bytes := Text.Utf8.encode s
  match Text.Encoding.ofBytes bytes with
  | .utf8 => some (unmarked s.toList)
  | .utf16 bigEndian => (Text.pointsOfUtf16? bigEndian bytes).map (·.flatMap pointChars)
  | .utf32 bigEndian => (Text.pointsOfUtf32? bigEndian bytes).map (·.flatMap pointChars)

def maxDepth : Nat := 977

/-- The JSON value that is sent along with a request, if there is one. -/
def Content.json? : Content → Except Failure (Option Json)
  | .absent => .ok none
  | .value j => .ok (some j)
  | .text mediaType s =>
    match if isJsonType mediaType then jsonText? s else none with
    | none => .ok none
    | some cs =>
      match Json.readChars maxDepth cs with
      | .ok j => .ok (some j)
      | .error .malformed => .ok none
      | .error .tooDeep => .error .tooDeep

/-- The fields that are sent along with a request. Null counts as nothing, and any other value must
be an object. -/
def Content.fields (content : Content) : Except Failure Fields := do
  match ← content.json? with
  | none | some .null => .ok []
  | some (.object fields) => .ok fields
  | some _ => .error (.invalidInput .bodyNotObject)

/-! ## Answers -/

inductive MediaType where
  | json
  | html
  | plainText
deriving DecidableEq, Repr

def MediaType.name : MediaType → String
  | .json => "application/json"
  | .html => "text/html"
  | .plainText => "text/plain"

/-- An answer. The body of a page is not shown. -/
structure Answer where
  status : Int
  mediaType : Option MediaType
  body : Json
  /-- The tag of the body. -/
  tag : Option String
  cacheControl : Option String
deriving DecidableEq, Repr

namespace Answer

def json (status : Int) (body : Json) : Answer := ⟨status, some .json, body, none, none⟩

def page (status : Int) : Answer := ⟨status, some .html, .null, none, none⟩

/-- The answer to a request that fails: a notice when the ordering engine refuses, and a page when
anything else goes wrong. -/
def ofFailure (e : Failure) : Answer :=
  match Notice.ofFailure? e with
  | some notice => json notice.kind.status notice.toJson
  | none => page 500

def withoutBody (a : Answer) : Answer := { a with body := .null }

end Answer

end Kanban.Http
