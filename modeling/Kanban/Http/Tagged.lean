import Kanban.EntityTag
import Kanban.Http.Message

/-!
# Tagged answers

An answer of status 200 with a JSON body carries the tag of its body. A client that sends that very
tag gets an answer of status 304 without a body instead. Every other answer stays as it is.
-/

namespace Kanban.Http

/-- What a client may do with an answer that it has kept: use it after asking again. -/
def revalidate : String := "no-cache"

namespace Answer

/-- The answer to a client that has the current body already. -/
def notModified (tag : String) : Answer :=
  { page 304 with tag := some tag, cacheControl := some revalidate }

def isTaggable (a : Answer) : Bool := a.status = 200 && a.mediaType = some .json

/-- An answer with its tag, for a client that has perhaps a tag already. -/
def tagged (ifNoneMatch : Option String) (a : Answer) : Answer :=
  if a.isTaggable then
    let tag := EntityTag.ofJson a.body
    if ifNoneMatch = some tag then notModified tag
    else { a with tag := some tag, cacheControl := some revalidate }
  else a

end Answer

/-! ## Views -/

/-- What a view gives: a value, or an answer that is made already. -/
inductive View where
  | value (j : Json)
  | answer (a : Answer)
deriving DecidableEq, Repr

/-- The answer of a view, perhaps under a status of its own. A value other than an object makes no
answer. -/
def View.answer? (view : View) (status : Option Int) : Option Answer :=
  match view with
  | .value (.object fields) => some (.json (status.getD 200) (.object fields))
  | .value _ => none
  | .answer a =>
    match status with
    | none | some 200 => some a
    | some other => some { a with status := other }

/-- What a view returns: what it gives, perhaps under a status of its own. -/
structure Returned where
  view : View
  status : Option Int
deriving DecidableEq, Repr

/-- What is answered for what a view returns, to a client that has perhaps a tag already. -/
def Returned.answer? (ifNoneMatch : Option String) (returned : Returned) : Option Answer :=
  (returned.view.answer? returned.status).map (Answer.tagged ifNoneMatch)

end Kanban.Http
