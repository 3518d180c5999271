import Kanban.Double
import Kanban.Text.Surrogate

/-!
# JSON values

A value of a JSON document. An integer and a floating-point number are different values even when
they are equal as numbers, and an object keeps the order in which its fields were written. A string in
which half of a surrogate pair stands alone is no text, and is kept apart as a row of code points.
-/

namespace Kanban

inductive Json where
  | null
  | bool (b : Bool)
  | int (n : Int)
  | float (x : Double)
  | text (s : String)
  /-- A string in which half of a surrogate pair stands alone, as its code points. -/
  | illFormed (points : List Nat)
  | list (items : List Json)
  | object (fields : List (String × Json))
deriving Repr, Inhabited

abbrev Fields := List (String × Json)

namespace Json

/-! ## Equality -/

mutual

def decEq : (a b : Json) → Decidable (a = b)
  | .null, .null => .isTrue rfl
  | .bool a, .bool b => decidable_of_iff (a = b) (by simp)
  | .int a, .int b => decidable_of_iff (a = b) (by simp)
  | .float a, .float b => decidable_of_iff (a = b) (by simp)
  | .text a, .text b => decidable_of_iff (a = b) (by simp)
  | .illFormed a, .illFormed b => decidable_of_iff (a = b) (by simp)
  | .list a, .list b =>
    match decEqItems a b with
    | .isTrue h => .isTrue (by rw [h])
    | .isFalse h => .isFalse (by simpa using h)
  | .object a, .object b =>
    match decEqFields a b with
    | .isTrue h => .isTrue (by rw [h])
    | .isFalse h => .isFalse (by simpa using h)
  | .null, .bool _ | .null, .int _ | .null, .float _ | .null, .text _ | .null, .illFormed _
  | .null, .list _ | .null, .object _ | .bool _, .null | .bool _, .int _ | .bool _, .float _
  | .bool _, .text _ | .bool _, .illFormed _ | .bool _, .list _ | .bool _, .object _
  | .int _, .null | .int _, .bool _ | .int _, .float _ | .int _, .text _ | .int _, .illFormed _
  | .int _, .list _ | .int _, .object _ | .float _, .null | .float _, .bool _ | .float _, .int _
  | .float _, .text _ | .float _, .illFormed _ | .float _, .list _ | .float _, .object _
  | .text _, .null | .text _, .bool _ | .text _, .int _ | .text _, .float _
  | .text _, .illFormed _ | .text _, .list _ | .text _, .object _ | .illFormed _, .null
  | .illFormed _, .bool _ | .illFormed _, .int _ | .illFormed _, .float _ | .illFormed _, .text _
  | .illFormed _, .list _ | .illFormed _, .object _ | .list _, .null | .list _, .bool _
  | .list _, .int _ | .list _, .float _ | .list _, .text _ | .list _, .illFormed _
  | .list _, .object _ | .object _, .null | .object _, .bool _ | .object _, .int _
  | .object _, .float _ | .object _, .text _ | .object _, .illFormed _ | .object _, .list _ =>
    .isFalse (by simp)

def decEqItems : (a b : List Json) → Decidable (a = b)
  | [], [] => .isTrue rfl
  | [], _ :: _ | _ :: _, [] => .isFalse (by simp)
  | x :: xs, y :: ys =>
    match decEq x y, decEqItems xs ys with
    | .isTrue h, .isTrue h' => .isTrue (by rw [h, h'])
    | .isFalse h, _ => .isFalse (by simp [h])
    | _, .isFalse h => .isFalse (by simp [h])

def decEqFields : (a b : List (String × Json)) → Decidable (a = b)
  | [], [] => .isTrue rfl
  | [], _ :: _ | _ :: _, [] => .isFalse (by simp)
  | (k, x) :: xs, (l, y) :: ys =>
    match decEq x y, decEqFields xs ys with
    | .isTrue h, .isTrue h' =>
      if hk : k = l then .isTrue (by rw [h, h', hk]) else .isFalse (by simp [hk])
    | .isFalse h, _ => .isFalse (by simp [h])
    | _, .isFalse h => .isFalse (by simp [h])

end

instance : DecidableEq Json := decEq

/-! ## Reading values -/

/-- Whether a value counts as given: not null, not false, no zero, and not empty. -/
def isGiven : Json → Bool
  | .null => false
  | .bool b => b
  | .int n => n != 0
  | .float x => !x.isZero
  | .text s => s != ""
  | .illFormed points => !points.isEmpty
  | .list items => !items.isEmpty
  | .object fields => !fields.isEmpty

/-- The name of the type of a value, as messages show it. -/
def typeName : Json → String
  | .null => "NoneType"
  | .bool _ => "bool"
  | .int _ => "int"
  | .float _ => "float"
  | .text _ | .illFormed _ => "str"
  | .list _ => "list"
  | .object _ => "dict"

def ofPoints (points : List Nat) : Json :=
  match Text.ofPoints? points with
  | some s => .text s
  | none => .illFormed points

end Json

namespace Fields

def get? (fields : Fields) (name : String) : Option Json := fields.lookup name

/-- The value of the field with the given name, or null. -/
def get (fields : Fields) (name : String) : Json := (fields.get? name).getD .null

/-- A field is set: in its place when it exists already, and else at the end. -/
def put : Fields → String → Json → Fields
  | [], name, value => [(name, value)]
  | (k, v) :: rest, name, value =>
    if k = name then (k, value) :: rest else (k, v) :: put rest name value

def update (fields changes : Fields) : Fields :=
  changes.foldl (fun fs (name, value) => put fs name value) fields

end Fields

end Kanban
