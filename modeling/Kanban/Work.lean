import Kanban.Board
import Kanban.Failure

/-!
# Work on a board

A piece of work reads and edits a board and may fail. A failure leaves the edits made so far behind;
it is for the unit of work around it to undo them, and `Work.transaction` does: it keeps all edits of
a piece of work or none.

The surroundings of a piece of work are the time, and the access at which the database stops working,
if it does. So a piece of work also lists the accesses that it has made: how many changes were sent
already decides whether the next one is the one that is refused.
-/

namespace Kanban

/-! ## Surroundings -/

/-- What can be refused: that rows are asked for, that changed rows are sent, that a unit of work
ends, and that a column is renumbered. -/
inductive Access where
  | query
  | flush
  | commit
  | rebalance
deriving DecidableEq, Repr

/-- Where a database stops working: at the first question, at the end of a unit of work, or when
changed rows are sent or a column is renumbered after that went well a number of times. -/
inductive FaultPoint where
  | query
  | flush (earlier : Nat := 0)
  | commit
  | rebalance (earlier : Nat := 0)
deriving DecidableEq, Repr

namespace FaultPoint

def strikes : FaultPoint → Access → Bool
  | .query, .query | .flush 0, .flush | .commit, .commit | .rebalance 0, .rebalance => true
  | _, _ => false

/-- What is left of the way to a point when one more access went well. -/
def after : FaultPoint → Access → FaultPoint
  | .flush (earlier + 1), .flush => .flush earlier
  | .rebalance (earlier + 1), .rebalance => .rebalance earlier
  | point, _ => point

@[simp] theorem after_query (point : FaultPoint) : point.after .query = point := by
  rcases point with _ | ⟨_ | _⟩ | _ | ⟨_ | _⟩ <;> rfl

/-- Only the points that are counted come nearer. -/
theorem after_strikes (point : FaultPoint) (made : Access) {access : Access}
    (h : access = .query ∨ access = .commit) :
    (point.after made).strikes access = point.strikes access := by
  rcases h with rfl | rfl <;>
    rcases point with _ | ⟨_ | _ | _⟩ | _ | ⟨_ | _ | _⟩ <;> cases made <;> rfl

/-- Whether rows can be asked for and whether a unit of work can end does not depend on what was
sent before. -/
theorem foldl_after_strikes (point : FaultPoint) (made : List Access) {access : Access}
    (h : access = .query ∨ access = .commit) :
    (made.foldl after point).strikes access = point.strikes access := by
  induction made generalizing point with
  | nil => rfl
  | cons first rest ih => rw [List.foldl_cons, ih, after_strikes _ _ h]

end FaultPoint

/-- A database that stops working, and what it says then. -/
structure Fault where
  point : FaultPoint
  detail : String
deriving DecidableEq, Repr

structure Conditions where
  now : Timestamp
  fault : Option Fault
deriving DecidableEq, Repr

namespace Conditions

def refusal? (c : Conditions) (access : Access) : Option DatabaseError :=
  match c.fault with
  | some fault => if fault.point.strikes access then some (.unavailable fault.detail) else none
  | none => none

/-- The surroundings once some accesses went well. -/
def after (c : Conditions) (accesses : List Access) : Conditions :=
  { c with
    fault := c.fault.map fun fault =>
      { fault with point := accesses.foldl FaultPoint.after fault.point } }

@[simp] theorem now_after (c : Conditions) (accesses : List Access) :
    (c.after accesses).now = c.now := rfl

@[simp] theorem after_nil (c : Conditions) : c.after [] = c := by
  rcases c with ⟨now, _ | fault⟩ <;> rfl

/-- Accesses are counted one after another. -/
@[simp] theorem after_append (c : Conditions) (first later : List Access) :
    c.after (first ++ later) = (c.after first).after later := by
  rcases c with ⟨now, _ | fault⟩ <;> simp [after]

@[simp] theorem after_query (c : Conditions) : c.after [.query] = c := by
  rcases c with ⟨now, _ | fault⟩ <;> simp [after]

/-- Whether questions are answered does not depend on what went well before. -/
@[simp] theorem refusal?_query_after (c : Conditions) (accesses : List Access) :
    (c.after accesses).refusal? .query = c.refusal? .query := by
  rcases c with ⟨now, _ | fault⟩
  · rfl
  · simp [after, refusal?, FaultPoint.foldl_after_strikes]

/-- Whether a unit of work can be committed does not depend on what went well before. -/
@[simp] theorem refusal?_commit_after (c : Conditions) (accesses : List Access) :
    (c.after accesses).refusal? .commit = c.refusal? .commit := by
  rcases c with ⟨now, _ | fault⟩
  · rfl
  · simp [after, refusal?, FaultPoint.foldl_after_strikes]

/-- A database that works goes on working. -/
@[simp] theorem after_of_working (now : Timestamp) (accesses : List Access) :
    (⟨now, none⟩ : Conditions).after accesses = ⟨now, none⟩ := rfl

end Conditions

/-! ## Pieces of work -/

/-- A piece of work on a board: its result or its failure, the board as it leaves it, and the accesses
that went well. -/
@[ext] structure Work (α : Type) where
  trace : Conditions → Board → (Except Failure α × Board) × List Access

namespace Work

variable {α β : Type}

/-- How a piece of work ends: its result or its failure, and the board as it leaves it. -/
protected def apply (w : Work α) (c : Conditions) (b : Board) : Except Failure α × Board :=
  (w.trace c b).1

instance : CoeFun (Work α) fun _ => Conditions → Board → Except Failure α × Board := ⟨Work.apply⟩

/-- The surroundings that a piece of work leaves to what comes after it. -/
def after (w : Work α) (c : Conditions) (b : Board) : Conditions := c.after (w.trace c b).2

@[simp] theorem now_after (w : Work α) (c : Conditions) (b : Board) :
    (w.after c b).now = c.now := rfl

@[simp] theorem refusal?_query_after (w : Work α) (c : Conditions) (b : Board) :
    (w.after c b).refusal? .query = c.refusal? .query := c.refusal?_query_after _

@[simp] theorem refusal?_commit_after (w : Work α) (c : Conditions) (b : Board) :
    (w.after c b).refusal? .commit = c.refusal? .commit := c.refusal?_commit_after _

/-- Work does not stop a database that works. -/
@[simp] theorem after_of_working (w : Work α) (now : Timestamp) (b : Board) :
    w.after ⟨now, none⟩ b = ⟨now, none⟩ := rfl

protected def pure (a : α) : Work α := ⟨fun _ b => ((.ok a, b), [])⟩

protected def bind (w : Work α) (f : α → Work β) : Work β where
  trace c b :=
    match w.trace c b with
    | ((.ok a, b'), accesses) =>
      let rest := (f a).trace (c.after accesses) b'
      (rest.1, accesses ++ rest.2)
    | ((.error e, b'), accesses) => ((.error e, b'), accesses)

instance : Monad Work where
  pure := Work.pure
  bind := Work.bind

@[simp] theorem pure_apply (a : α) (c : Conditions) (b : Board) :
    (pure a : Work α) c b = (.ok a, b) := rfl

@[simp] theorem after_pure (a : α) (c : Conditions) (b : Board) :
    (pure a : Work α).after c b = c := c.after_nil

/-- The accesses of two pieces of work in a row are those of the first one, and then those of the
second one if it comes to that. -/
theorem trace_bind (w : Work α) (f : α → Work β) (c : Conditions) (b : Board) :
    (w >>= f).trace c b =
      match w.trace c b with
      | ((.ok a, b'), accesses) =>
        let rest := (f a).trace (c.after accesses) b'
        (rest.1, accesses ++ rest.2)
      | ((.error e, b'), accesses) => ((.error e, b'), accesses) := rfl

/-- What follows is done under the surroundings that the first part leaves. -/
theorem bind_apply (w : Work α) (f : α → Work β) (c : Conditions) (b : Board) :
    (w >>= f) c b =
      match w c b with
      | (.ok a, b') => f a (w.after c b) b'
      | (.error e, b') => (.error e, b') := by
  simp only [Work.apply, after, trace_bind]
  rcases w.trace c b with ⟨⟨e | a, b'⟩, accesses⟩ <;> rfl

/-- A piece of work that succeeds is followed by the next one, in the surroundings that it leaves. -/
theorem bind_apply_of_ok {w : Work α} {f : α → Work β} {c : Conditions} {b b' : Board} {a : α}
    (h : w c b = (.ok a, b')) : (w >>= f) c b = f a (w.after c b) b' := by
  rw [bind_apply, h]

/-- While the database works, a piece of work that succeeds is followed by the next one. -/
theorem bind_of_ok {w : Work α} {f : α → Work β} {now : Timestamp} {b b' : Board} {a : α}
    (h : w ⟨now, none⟩ b = (.ok a, b')) : (w >>= f) ⟨now, none⟩ b = f a ⟨now, none⟩ b' :=
  bind_apply_of_ok h

/-- A piece of work that fails is not followed by anything. -/
theorem bind_of_error {w : Work α} {f : α → Work β} {c : Conditions} {b b' : Board}
    {e : Failure} (h : w c b = (.error e, b')) : (w >>= f) c b = (.error e, b') := by
  rw [bind_apply, h]

/-- The surroundings that are left are those of the part that was done last. -/
theorem after_bind (w : Work α) (f : α → Work β) (c : Conditions) (b : Board) :
    (w >>= f).after c b =
      match w c b with
      | (.ok a, b') => (f a).after (w.after c b) b'
      | (.error _, _) => w.after c b := by
  simp only [Work.apply, after, trace_bind]
  rcases w.trace c b with ⟨⟨e | a, b'⟩, accesses⟩
  · rfl
  · exact c.after_append accesses _

protected theorem id_map (w : Work α) : id <$> w = w := by
  apply Work.ext
  funext c b
  show (Work.bind w fun a => Work.pure a).trace c b = w.trace c b
  simp only [Work.bind, Work.pure]
  rcases w.trace c b with ⟨⟨e | a, b'⟩, accesses⟩ <;> simp

protected theorem pure_bind (a : α) (f : α → Work β) : pure a >>= f = f a := by
  apply Work.ext
  funext c b
  show (Work.bind (Work.pure a) f).trace c b = (f a).trace c b
  simp [Work.bind, Work.pure]

protected theorem bind_assoc {γ : Type} (w : Work α) (f : α → Work β) (g : β → Work γ) :
    w >>= f >>= g = w >>= fun a => f a >>= g := by
  apply Work.ext
  funext c b
  show (Work.bind (Work.bind w f) g).trace c b = (Work.bind w fun a => Work.bind (f a) g).trace c b
  simp only [Work.bind]
  rcases w.trace c b with ⟨⟨e | a, b₁⟩, first⟩
  · rfl
  · dsimp only
    rcases (f a).trace (c.after first) b₁ with ⟨⟨e | x, b₂⟩, later⟩
    · rfl
    · simp

instance : LawfulMonad Work :=
  LawfulMonad.mk' Work Work.id_map Work.pure_bind Work.bind_assoc

def fail (e : Failure) : Work α := ⟨fun _ b => ((.error e, b), [])⟩

@[simp] theorem fail_apply (e : Failure) (c : Conditions) (b : Board) :
    (fail e : Work α) c b = (.error e, b) := rfl

def ofExcept (r : Except Failure α) : Work α := ⟨fun _ b => ((r, b), [])⟩

@[simp] theorem ofExcept_apply (r : Except Failure α) (c : Conditions) (b : Board) :
    ofExcept r c b = (r, b) := rfl

/-- A piece of work whose failure is a result like any other. -/
def attempt (w : Work α) : Work (Except Failure α) where
  trace c b :=
    match w.trace c b with
    | ((r, b'), accesses) => ((.ok r, b'), accesses)

@[simp] theorem attempt_apply (w : Work α) (c : Conditions) (b : Board) :
    attempt w c b = (.ok (w c b).1, (w c b).2) := rfl

def read (f : Board → Except Failure α) : Work α := ⟨fun _ b => ((f b, b), [])⟩

@[simp] theorem read_apply (f : Board → Except Failure α) (c : Conditions) (b : Board) :
    read f c b = (f b, b) := rfl

/-- The board is edited, unless the edit is refused. -/
def write (f : Timestamp → Board → Except Failure (α × Board)) : Work α where
  trace c b :=
    match f c.now b with
    | .ok (a, b') => ((.ok a, b'), [])
    | .error e => ((.error e, b), [])

/-- The work fails when the database refuses an access, and else the access is made. -/
def guard (access : Access) : Work Unit where
  trace c b :=
    match c.refusal? access with
    | some e => ((.error (.database e), b), [])
    | none => ((.ok (), b), [access])

/-- A working database stops nothing. -/
@[simp] theorem guard_of_working (access : Access) (now : Timestamp) (b : Board) :
    guard access ⟨now, none⟩ b = (.ok (), b) := rfl

def query (f : Board → Except Failure α) : Work α := do
  guard .query
  read f

/-- A working database answers every query. -/
@[simp] theorem query_of_working (f : Board → Except Failure α) (now : Timestamp) (b : Board) :
    query f ⟨now, none⟩ b = (f b, b) := rfl

def flush (f : Timestamp → Board → Except Failure (α × Board)) : Work α := do
  guard .flush
  write f

/-- A working database takes every change that is not refused. -/
theorem flush_of_working (f : Timestamp → Board → Except Failure (α × Board)) (now : Timestamp)
    (b : Board) : flush f ⟨now, none⟩ b = write f ⟨now, none⟩ b :=
  bind_of_ok (guard_of_working .flush now b)

/-! ## Units of work -/

/-- All edits of a piece of work are kept when it succeeds and can be committed, and none of them
otherwise. -/
def committed (w : Work α) : Work α where
  trace c b :=
    match (do let a ← w; guard .commit; pure a : Work α).trace c b with
    | ((.ok a, b'), accesses) => ((.ok a, b'), accesses)
    | ((.error e, _), accesses) => ((.error e, b), accesses)

/-- A unit of work whose caller does not learn what the database had to say. -/
def transaction (w : Work α) : Work α where
  trace c b :=
    match (committed w).trace c b with
    | ((.ok a, b'), accesses) => ((.ok a, b'), accesses)
    | ((.error e, b'), accesses) => ((.error e.surfaced, b'), accesses)

/-- No edit of a piece of work is kept. -/
def discarded (w : Work α) : Work α where
  trace c b :=
    match w.trace c b with
    | ((r, _), accesses) => ((r, b), accesses)

/-- The board before the work is kept wherever the work or its end fails. -/
theorem committed_apply (w : Work α) (c : Conditions) (b : Board) :
    committed w c b =
      match (do let a ← w; guard .commit; pure a : Work α) c b with
      | (.ok a, b') => (.ok a, b')
      | (.error e, _) => (.error e, b) := by
  simp only [Work.apply, committed]
  split <;> simp_all

/-- A unit of work ends as its edits do when they are kept or not, with its failure as its caller
sees it. -/
theorem transaction_apply (w : Work α) (c : Conditions) (b : Board) :
    transaction w c b =
      match committed w c b with
      | (.ok a, b') => (.ok a, b')
      | (.error e, b') => (.error e.surfaced, b') := by
  simp only [Work.apply, transaction]
  split <;> simp_all

@[simp] theorem discarded_apply (w : Work α) (c : Conditions) (b : Board) :
    discarded w c b = ((w c b).1, b) := rfl

/-- A piece of work that is not committed leaves the board as it was. -/
theorem committed_of_error {w : Work α} {c : Conditions} {b b' : Board} {e : Failure}
    (h : committed w c b = (.error e, b')) : b' = b := by
  rw [committed_apply] at h
  split at h
  · simp at h
  · simp only [Prod.mk.injEq] at h
    exact h.2.symm

/-- A unit of work that fails leaves the board as it was. -/
theorem transaction_of_error {w : Work α} {c : Conditions} {b b' : Board} {e : Failure}
    (h : transaction w c b = (.error e, b')) : b' = b := by
  rw [transaction_apply] at h
  split at h
  · simp at h
  · next hw =>
    simp only [Prod.mk.injEq] at h
    exact h.2 ▸ committed_of_error hw

end Work

end Kanban
