import Kanban.Work

/-!
# What work has done

A piece of work that succeeds went through each of its parts with success, and one that fails stopped
at one of them. These lemmas take a finished piece of work apart, so that nothing else has to open the
definitions of `Kanban.Work`.

A unit of work is different: `transaction_eq_ok` and `transaction_eq_error` say that it ends exactly
as its work ends, up to the commit, and that only its success leaves a trace.
-/

namespace Kanban

variable {α β : Type}

/-! ## Computations that succeed -/

/-- A computation in two parts succeeds when both parts do. -/
theorem except_bind_eq_ok {ε : Type} {r : Except ε α} {f : α → Except ε β} {x : β} :
    r >>= f = .ok x ↔ ∃ a, r = .ok a ∧ f a = .ok x := by
  cases r with
  | error e => simp [bind, Except.bind]
  | ok a => simp [bind, Except.bind]

/-- A computation in two parts fails where its first failing part does. -/
theorem except_bind_eq_error {ε : Type} {r : Except ε α} {f : α → Except ε β} {e : ε} :
    r >>= f = .error e ↔ r = .error e ∨ ∃ a, r = .ok a ∧ f a = .error e := by
  cases r with
  | error e => simp [bind, Except.bind]
  | ok a => simp [bind, Except.bind]

theorem except_map_eq_ok {ε : Type} {r : Except ε α} {f : α → β} {x : β} :
    r.map f = .ok x ↔ ∃ a, r = .ok a ∧ f a = x := by
  cases r with
  | error e => simp [Except.map]
  | ok a => simp [Except.map]

theorem except_map_eq_error {ε : Type} {r : Except ε α} {f : α → β} {e : ε} :
    r.map f = .error e ↔ r = .error e := by
  cases r with
  | error e => simp [Except.map]
  | ok a => simp [Except.map]

theorem except_toOption_eq_some {ε : Type} {r : Except ε α} {x : α} :
    r.toOption = some x ↔ r = .ok x := by
  cases r with
  | error e => simp [Except.toOption]
  | ok a => simp [Except.toOption]

namespace Work

variable {c : Conditions} {b b' : Board} {e : Failure}

/-! ## Work that succeeds -/

theorem pure_eq_ok {a x : α} : (pure a : Work α) c b = (.ok x, b') ↔ a = x ∧ b' = b := by
  simp [eq_comm]

/-- The parts of work that succeeds succeed one after another. The second one is done in the
surroundings that the first one leaves. -/
theorem bind_eq_ok {w : Work α} {f : α → Work β} {x : β} :
    (w >>= f) c b = (.ok x, b') ↔
      ∃ a b₁, w c b = (.ok a, b₁) ∧ f a (w.after c b) b₁ = (.ok x, b') := by
  rw [bind_apply]
  rcases w c b with ⟨e | a, b₁⟩
  · simp
  · constructor
    · intro h
      exact ⟨a, b₁, rfl, h⟩
    · rintro ⟨a', b', h, hf⟩
      cases h
      exact hf

theorem map_eq_ok {w : Work α} {f : α → β} {x : β} :
    (f <$> w) c b = (.ok x, b') ↔ ∃ a, w c b = (.ok a, b') ∧ f a = x := by
  rw [map_eq_pure_bind, bind_eq_ok]
  constructor
  · rintro ⟨a, b₁, hw, hf⟩
    obtain ⟨rfl, rfl⟩ := pure_eq_ok.mp hf
    exact ⟨a, hw, rfl⟩
  · rintro ⟨a, hw, rfl⟩
    exact ⟨a, b', hw, rfl⟩

theorem ofExcept_eq_ok {r : Except Failure α} {x : α} :
    ofExcept r c b = (.ok x, b') ↔ r = .ok x ∧ b' = b := by
  simp [eq_comm]

theorem guard_apply (access : Access) (c : Conditions) (b : Board) :
    guard access c b =
      match c.refusal? access with
      | some e => (.error (.database e), b)
      | none => (.ok (), b) := by
  simp only [Work.apply, guard]
  rcases c.refusal? access with _ | refusal <;> rfl

/-- An access goes well when the database does not refuse it. -/
theorem guard_eq_ok {access : Access} {x : Unit} :
    guard access c b = (.ok x, b') ↔ c.refusal? access = none ∧ b' = b := by
  rw [guard_apply]
  rcases c.refusal? access with _ | refusal
  · simp [eq_comm]
  · simp

theorem query_apply (f : Board → Except Failure α) (c : Conditions) (b : Board) :
    query f c b =
      match c.refusal? .query with
      | some e => (.error (.database e), b)
      | none => (f b, b) := by
  rw [query, bind_apply, guard_apply]
  rcases c.refusal? .query with _ | refusal <;> rfl

theorem query_of_refused {f : Board → Except Failure α} {e : DatabaseError}
    (h : c.refusal? .query = some e) : query f c b = (.error (.database e), b) := by
  rw [query_apply, h]

/-- An answer to a question comes from the board, which stays as it is. -/
theorem query_eq_ok {f : Board → Except Failure α} {x : α} :
    query f c b = (.ok x, b') ↔ c.refusal? .query = none ∧ f b = .ok x ∧ b' = b := by
  rw [query_apply]
  rcases c.refusal? .query with _ | refusal
  · simp [eq_comm]
  · simp

theorem write_apply (f : Timestamp → Board → Except Failure (α × Board)) (c : Conditions)
    (b : Board) :
    write f c b =
      match f c.now b with
      | .ok (a, b') => (.ok a, b')
      | .error e => (.error e, b) := by
  simp only [Work.apply, write]
  rcases f c.now b with refusal | ⟨a, b'⟩ <;> rfl

theorem write_eq_ok {f : Timestamp → Board → Except Failure (α × Board)} {x : α} :
    write f c b = (.ok x, b') ↔ f c.now b = .ok (x, b') := by
  rw [write_apply]
  split <;> simp_all

/-- A change is made when the database takes it and the change itself is possible. -/
theorem flush_eq_ok {f : Timestamp → Board → Except Failure (α × Board)} {x : α} :
    flush f c b = (.ok x, b') ↔ c.refusal? .flush = none ∧ f c.now b = .ok (x, b') := by
  unfold flush
  rw [bind_eq_ok]
  constructor
  · rintro ⟨_, b₁, hg, hw⟩
    obtain ⟨hc, rfl⟩ := guard_eq_ok.mp hg
    exact ⟨hc, write_eq_ok.mp hw⟩
  · rintro ⟨hc, hf⟩
    exact ⟨(), b, guard_eq_ok.mpr ⟨hc, rfl⟩, write_eq_ok.mpr hf⟩

/-! ## Work that fails -/

/-- Work in two parts fails in the first part, or in the second part after the first one went well.
In the second case the board is the one that the first part has left. -/
theorem bind_eq_error {w : Work α} {f : α → Work β} :
    (w >>= f) c b = (.error e, b') ↔
      w c b = (.error e, b') ∨
        ∃ a b₁, w c b = (.ok a, b₁) ∧ f a (w.after c b) b₁ = (.error e, b') := by
  rw [bind_apply]
  rcases w c b with ⟨e₁ | a, b₁⟩
  · simp
  · constructor
    · intro h
      exact .inr ⟨a, b₁, rfl, h⟩
    · rintro (h | ⟨a', b', h, hf⟩)
      · cases h
      · cases h
        exact hf

theorem map_eq_error {w : Work α} {f : α → β} :
    (f <$> w) c b = (.error e, b') ↔ w c b = (.error e, b') := by
  rw [map_eq_pure_bind, bind_eq_error]
  simp

/-- The result of work takes its form whether it succeeds or fails. -/
theorem map_apply (f : α → β) (w : Work α) : (f <$> w) c b = ((w c b).1.map f, (w c b).2) := by
  rw [map_eq_pure_bind, bind_apply]
  rcases w c b with ⟨e | a, b₁⟩
  · rfl
  · rfl

theorem fst_map (f : α → β) (w : Work α) : ((f <$> w) c b).1 = (w c b).1.map f :=
  congrArg Prod.fst (map_apply f w)

/-! ## Units of work -/

/-- How a unit of work fails: its work fails, or it succeeds and the database refuses to commit
it. What the work leaves behind in either case does not matter. -/
def FailsWith (w : Work α) (c : Conditions) (b : Board) (e : Failure) : Prop :=
  (∃ b₁, w c b = (.error e, b₁)) ∨
    ∃ a b₁ refusal, w c b = (.ok a, b₁) ∧ c.refusal? .commit = some refusal ∧ e = .database refusal

/-- The commit comes after the work. -/
theorem guarded_eq_ok {w : Work α} {x : α} :
    (do let a ← w; guard .commit; pure a : Work α) c b = (.ok x, b') ↔
      w c b = (.ok x, b') ∧ c.refusal? .commit = none := by
  rw [bind_eq_ok]
  constructor
  · rintro ⟨a, b₁, hw, hg⟩
    obtain ⟨_, b₂, hg, hp⟩ := bind_eq_ok.mp hg
    obtain ⟨hc, rfl⟩ := guard_eq_ok.mp hg
    obtain ⟨rfl, rfl⟩ := pure_eq_ok.mp hp
    exact ⟨hw, by simpa using hc⟩
  · rintro ⟨hw, hc⟩
    have hc : (w.after c b).refusal? .commit = none := by simpa using hc
    exact ⟨x, b', hw, bind_eq_ok.mpr ⟨(), b', guard_eq_ok.mpr ⟨hc, rfl⟩, rfl⟩⟩

/-- Edits are kept when their work succeeds and the database does not refuse to keep them. -/
theorem committed_eq_ok {w : Work α} {x : α} :
    committed w c b = (.ok x, b') ↔ w c b = (.ok x, b') ∧ c.refusal? .commit = none := by
  rw [← guarded_eq_ok, committed_apply]
  split <;> simp_all

/-- Where edits are not kept, the board is the one before the work. -/
theorem committed_eq_error {w : Work α} :
    committed w c b = (.error e, b') ↔ FailsWith w c b e ∧ b' = b := by
  rw [committed_apply]
  unfold FailsWith
  simp only [bind_apply, guard_apply, refusal?_commit_after]
  rcases w c b with ⟨e₁ | a, b₁⟩
  · simp [eq_comm]
  · rcases c.refusal? .commit with _ | refusal
    · simp
    · simp [eq_comm]

/-- A unit of work succeeds just when its edits are kept. -/
theorem transaction_eq_ok {w : Work α} {x : α} :
    transaction w c b = (.ok x, b') ↔ w c b = (.ok x, b') ∧ c.refusal? .commit = none := by
  rw [← committed_eq_ok, transaction_apply]
  split <;> simp_all

/-- A unit of work that fails has left the board alone, and its caller sees the failure of the work
itself, but for what the database had to say. -/
theorem transaction_eq_error {w : Work α} :
    transaction w c b = (.error e, b') ↔ (∃ e₁, FailsWith w c b e₁ ∧ e = e₁.surfaced) ∧ b' = b := by
  rw [transaction_apply]
  split
  · next hw =>
    have hnone : ∀ e₁, ¬ FailsWith w c b e₁ := fun e₁ hf => by
      rw [committed_eq_error.mpr ⟨hf, rfl⟩] at hw
      cases hw
    simp [hnone]
  · next e₂ b₂ hw =>
    -- work is a function, so it fails with one failure only
    obtain ⟨hf, rfl⟩ := committed_eq_error.mp hw
    constructor
    · intro h
      obtain ⟨rfl, rfl⟩ : e₂.surfaced = e ∧ b₂ = b' := by simpa using h
      exact ⟨⟨e₂, hf, rfl⟩, rfl⟩
    · rintro ⟨⟨e₁, hf₁, rfl⟩, rfl⟩
      have : (Except.error e₁, b') = (Except.error (ε := Failure) (α := α) e₂, b') := by
        rw [← hw, committed_eq_error.mpr ⟨hf₁, rfl⟩]
      obtain rfl : e₁ = e₂ := by simpa using this
      rfl

/-- The result of a unit of work may be given its form inside or outside. -/
theorem map_transaction (f : α → β) (w : Work α) :
    f <$> transaction w = transaction (f <$> w) := by
  apply Work.ext
  funext c b
  simp only [map_eq_pure_bind, transaction, committed, trace_bind]
  rcases w.trace c b with ⟨⟨e | a, b₁⟩, accesses⟩
  · rfl
  · simp only [guard, Conditions.refusal?_commit_after]
    rcases c.refusal? .commit with _ | refusal
    · simp [Pure.pure, Work.pure]
    · simp [Pure.pure, Work.pure]

/-! ## Work that does the same on a board -/

/-- Two pieces of work end in the same way on a board, and leave the same to what comes next. -/
structure SameOn (v w : Work α) (c : Conditions) (b : Board) : Prop where
  apply_eq : v c b = w c b
  after_eq : v.after c b = w.after c b

namespace SameOn

theorem refl (w : Work α) : w.SameOn w c b := ⟨rfl, rfl⟩

theorem trans {u v w : Work α} (h : u.SameOn v c b) (h' : v.SameOn w c b) : u.SameOn w c b :=
  ⟨h.apply_eq.trans h'.apply_eq, h.after_eq.trans h'.after_eq⟩

/-- What comes next matters only on the board and for the result that the first part leads to. -/
theorem bind {v w : Work α} {f g : α → Work β} (hfirst : v.SameOn w c b)
    (hnext : ∀ a b₁, v c b = (.ok a, b₁) → (f a).SameOn (g a) (v.after c b) b₁) :
    (v >>= f).SameOn (w >>= g) c b := by
  constructor
  · rw [bind_apply, bind_apply, ← hfirst.apply_eq, ← hfirst.after_eq]
    rcases hresult : v c b with ⟨e | a, b₁⟩
    · rfl
    · exact (hnext a b₁ hresult).apply_eq
  · rw [after_bind, after_bind, ← hfirst.apply_eq, ← hfirst.after_eq]
    rcases hresult : v c b with ⟨e | a, b₁⟩
    · rfl
    · exact (hnext a b₁ hresult).after_eq

/-- A view of the results does not matter to how work ends. -/
theorem map {v w : Work α} (h : v.SameOn w c b) (f : α → β) :
    (f <$> v).SameOn (f <$> w) c b := by
  rw [map_eq_pure_bind, map_eq_pure_bind]
  exact h.bind fun _ _ _ => refl _

/-- Units of work are told apart by how their work ends, and by nothing else. -/
theorem transaction {v w : Work α} (h : v.SameOn w c b) :
    Work.transaction v c b = Work.transaction w c b := by
  rw [transaction_apply, transaction_apply, committed_apply, committed_apply,
    (h.bind fun _ _ _ => refl _).apply_eq]

end SameOn

/-! ## Work that only looks -/

/-- A piece of work that leaves every board and its surroundings as they are. -/
def ReadOnly (w : Work α) : Prop := ∀ c b, (w c b).2 = b ∧ w.after c b = c

theorem ReadOnly.board_eq {w : Work α} (h : w.ReadOnly) {r : Except Failure α}
    (hw : w c b = (r, b')) : b' = b := by
  rw [← (h c b).1, hw]

/-- Work that only looks leaves the same surroundings to what comes next, so it counts towards no
fault. -/
theorem ReadOnly.after_eq {w : Work α} (h : w.ReadOnly) : w.after c b = c := (h c b).2

theorem ReadOnly.pure (a : α) : (pure a : Work α).ReadOnly := fun c _ => ⟨rfl, c.after_nil⟩

theorem ReadOnly.fail (e : Failure) : (fail e : Work α).ReadOnly := fun c _ => ⟨rfl, c.after_nil⟩

theorem ReadOnly.ofExcept (r : Except Failure α) : (ofExcept r).ReadOnly :=
  fun c _ => ⟨rfl, c.after_nil⟩

theorem ReadOnly.read (f : Board → Except Failure α) : (read f).ReadOnly :=
  fun c _ => ⟨rfl, c.after_nil⟩

/-- Work that only looks, and then only looks again, only looks. -/
theorem ReadOnly.bind {w : Work α} {f : α → Work β} (hw : w.ReadOnly)
    (hf : ∀ a, (f a).ReadOnly) : (w >>= f).ReadOnly := by
  intro c b
  rw [bind_apply, after_bind, hw.after_eq]
  rcases h : w c b with ⟨e | a, b₁⟩
  · exact ⟨hw.board_eq h, rfl⟩
  · obtain rfl := hw.board_eq h
    exact hf a c b₁

theorem ReadOnly.attempt {w : Work α} (h : w.ReadOnly) : w.attempt.ReadOnly := h

/-- Questions do not wear a database out. -/
theorem ReadOnly.query (f : Board → Except Failure α) : (query f).ReadOnly := by
  intro c b
  rw [query_apply]
  constructor
  · split <;> rfl
  · simp only [Work.after, Work.query, trace_bind, guard]
    rcases c.refusal? .query with _ | refusal
    · exact c.after_query
    · exact c.after_nil

/-- After work that only looks, what comes next is done on the same board and in the same
surroundings. -/
theorem ReadOnly.bind_sameOn {w : Work α} (hw : w.ReadOnly) {a : α} (h : (w c b).1 = .ok a)
    (f : α → Work β) : (w >>= f).SameOn (f a) c b := by
  have hresult : w c b = (.ok a, b) := Prod.ext h (hw c b).1
  constructor
  · rw [bind_apply_of_ok hresult, hw.after_eq]
  · rw [after_bind, hresult, hw.after_eq]

/-- After work that only looks and succeeds, the rest is done on the same board under the same
surroundings. -/
theorem ReadOnly.bind_of_ok {w : Work α} (hw : w.ReadOnly) {a : α} (h : (w c b).1 = .ok a)
    (f : α → Work β) : (w >>= f) c b = f a c b := (hw.bind_sameOn h f).apply_eq

/-! ## How work can fail -/

section Failures

variable {P : Failure → Prop}

/-- Under the given conditions, all failures of a piece of work on a board have a property. -/
def FailsOnly (P : Failure → Prop) (w : Work α) (c : Conditions) (b : Board) : Prop :=
  ∀ f, (w c b).1 = .error f → P f

namespace FailsOnly

/-- A wider property is one of all failures as well. -/
theorem mono {Q : Failure → Prop} {w : Work α} (hw : w.FailsOnly P c b) (h : ∀ f, P f → Q f) :
    w.FailsOnly Q c b := fun f hf => h f (hw f hf)

theorem pure (a : α) : (pure a : Work α).FailsOnly P c b := fun f h => by cases h

theorem fail {e : Failure} (he : P e) : (fail e : Work α).FailsOnly P c b := fun f h => by
  cases h
  exact he

theorem ofExcept {r : Except Failure α} (hr : ∀ f, r = .error f → P f) :
    (ofExcept r).FailsOnly P c b := hr

/-- Work in two parts fails only in ways in which one of the parts does. The second part is looked
at only on a board that the first one can leave. -/
theorem bind {w : Work α} {f : α → Work β} (hw : w.FailsOnly P c b)
    (hf : ∀ a b₁, w c b = (.ok a, b₁) → (f a).FailsOnly P (w.after c b) b₁) :
    (w >>= f).FailsOnly P c b := by
  intro e he
  rcases bind_eq_error.mp (Prod.ext he rfl) with hfirst | ⟨a, b₁, hfirst, hrest⟩
  · exact hw e (congrArg Prod.fst hfirst)
  · exact hf a b₁ hfirst e (congrArg Prod.fst hrest)

/-- After a piece of work that only reads, everything is as it was before. -/
theorem bind_readOnly {w : Work α} (hread : w.ReadOnly) {f : α → Work β} (hw : w.FailsOnly P c b)
    (hf : ∀ a, w c b = (.ok a, b) → (f a).FailsOnly P c b) : (w >>= f).FailsOnly P c b := by
  refine hw.bind fun a b₁ h => ?_
  obtain rfl := hread.board_eq h
  rw [hread.after_eq]
  exact hf a h

theorem map {w : Work α} {f : α → β} (hw : w.FailsOnly P c b) : (f <$> w).FailsOnly P c b := by
  intro e he
  rw [fst_map, except_map_eq_error] at he
  exact hw e he

theorem guard (access : Access) (hP : ∀ e ∈ c.refusal? access, P (.database e)) :
    (guard access).FailsOnly P c b := by
  intro f hf
  rw [guard_apply] at hf
  split at hf
  · next e he =>
    cases hf
    exact hP e he
  · cases hf

/-- A question fails because the database refuses it, or because of what the board says. -/
theorem query {f : Board → Except Failure α} (hP : ∀ e ∈ c.refusal? .query, P (.database e))
    (hf : ∀ e, f b = .error e → P e) : (query f).FailsOnly P c b := by
  intro e he
  rw [query_apply] at he
  split at he
  · next refusal hrefusal =>
    cases he
    exact hP refusal hrefusal
  · exact hf e he

/-- A change fails because the database refuses it, or because it cannot be made. -/
theorem flush {f : Timestamp → Board → Except Failure (α × Board)}
    (hP : ∀ e ∈ c.refusal? .flush, P (.database e)) (hf : ∀ e, f c.now b = .error e → P e) :
    (flush f).FailsOnly P c b := by
  refine (guard .flush hP).bind fun _ b₁ h => ?_
  obtain ⟨-, rfl⟩ := guard_eq_ok.mp h
  intro e he
  rw [write_apply, now_after] at he
  cases hresult : f c.now b₁ with
  | error e' =>
    rw [hresult] at he
    cases he
    exact hf e hresult
  | ok result =>
    rw [hresult] at he
    cases he

end FailsOnly

end Failures

/-! ## Work that keeps a property of the board -/

/-- A piece of work after whose success a property of the board holds that held before. -/
def Preserves (P : Board → Prop) (w : Work α) : Prop :=
  ∀ c b a b', w c b = (.ok a, b') → P b → P b'

variable {P : Board → Prop}

/-- Work that only looks preserves everything. -/
theorem ReadOnly.preserves {w : Work α} (h : w.ReadOnly) : w.Preserves P := by
  intro c b a b' hw hb
  obtain rfl := h.board_eq hw
  exact hb

/-- What both parts preserve is preserved by one after the other. -/
theorem Preserves.bind {w : Work α} {f : α → Work β} (hw : w.Preserves P)
    (hf : ∀ a, (f a).Preserves P) : (w >>= f).Preserves P := by
  intro c b x b' h hb
  obtain ⟨a, b₁, hfirst, hrest⟩ := bind_eq_ok.mp h
  exact hf a _ b₁ x b' hrest (hw c b a b₁ hfirst hb)

theorem Preserves.guard (access : Access) : (guard access).Preserves P := by
  intro c b a b' hw hb
  obtain ⟨-, rfl⟩ := guard_eq_ok.mp hw
  exact hb

end Work

end Kanban
