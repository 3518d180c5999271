import Kanban.Proofs.Service
import Mathlib

/-!
# Where addresses lead

An address whose parts are written in plain characters leads where its parts say, and an id that is
written in decimal is read as the number that it writes. So the reads of the board and of its columns
lead to their routes, and the four operations to theirs.
-/

namespace Kanban

/-- Among the digits of all scripts are those of ASCII, with their own values. -/
theorem Text.digitValue?_of_isDigit {c : Char} (h : c.isDigit) :
    digitValue? c = some (c.toNat - '0'.toNat) := by
  have hrange : 48 ≤ c.toNat ∧ c.toNat ≤ 57 := Char.isDigit_iff_toNat.mp h
  have hfirst : digitZeros.find? (fun z => z ≤ c.toNat && c.toNat < z + 10) = some 0x30 := by
    refine List.find?_cons_of_pos ?_
    simp only [Bool.and_eq_true, decide_eq_true_eq]
    omega
  rw [digitValue?, hfirst]
  rfl

namespace Http

/-! ## Decimal ids -/

/-- The decimal text of a number is read as its digits. -/
theorem idDigits?_toString (n : Nat) :
    idDigits? (toString n).toList =
      some ((Nat.toDigits 10 n).map fun c => c.toNat - '0'.toNat) := by
  have hdigits : ∀ cs : List Char, (∀ c ∈ cs, c.isDigit) →
      cs.mapM Text.digitValue? = some (cs.map fun c => c.toNat - '0'.toNat) := by
    intro cs h
    induction cs with
    | nil => rfl
    | cons c rest ih =>
      rw [List.forall_mem_cons] at h
      rw [List.mapM_cons, Text.digitValue?_of_isDigit h.1, ih h.2]
      rfl
  have hne : (Nat.toDigits 10 n).isEmpty = false := by simp [Nat.toDigits_ne_nil]
  rw [idDigits?, Nat.toString_eq_repr, Nat.toList_repr, hne]
  exact hdigits _ fun c hc => Nat.isDigit_of_mem_toDigits (by decide) (by decide) hc

/-- An id that is written in decimal is read as it is, unless it is too long. -/
theorem withId_toString (route : Nat → Route) {n : Nat} (h : n < 10 ^ Numeral.maxDigits) :
    withId route (toString n).toList = .known (route n) := by
  have hlength : ¬ Numeral.maxDigits < (Nat.toDigits 10 n).length :=
    Nat.not_lt.mpr ((Nat.length_toDigits_le_iff (by decide) (by decide)).mpr h)
  have hvalue : Numeral.ofDigits ((Nat.toDigits 10 n).map fun c => c.toNat - '0'.toNat) = n := by
    rw [Numeral.ofDigits, List.foldl_map]
    exact Nat.ofDigitChars_toDigits (by decide) (by decide)
  simp only [withId, idDigits?_toString, List.length_map, if_neg hlength, hvalue]

/-! ## Plain addresses -/

/-- A character that stands for itself in a part of an address. -/
def IsPlain (c : Char) : Prop := 0x20 < c.toNat ∧ c ∉ ['/', '?', '#', '%']

instance (c : Char) : Decidable (IsPlain c) := inferInstanceAs (Decidable (_ ∧ _))

/-- A path of plain parts is its own address. The slash at its beginning is not doubled. -/
theorem pathPart_of_plain {cs : List Char} (hplain : ∀ c ∈ cs, IsPlain c ∨ c = '/')
    (hhead : cs.head? ≠ some '/') : pathPart ('/' :: cs) = '/' :: cs := by
  -- a plain path has no blanks, no marks and no escapes
  have hall : ∀ c ∈ '/' :: cs, 0x20 < c.toNat ∧ c ∉ ['?', '#', '%'] := by
    intro c hc
    rcases List.mem_cons.mp hc with rfl | hc
    · decide
    · rcases hplain c hc with h | rfl
      · exact ⟨h.1, fun hmem => h.2 (List.mem_cons_of_mem _ hmem)⟩
      · decide
  have hunbroken : unbroken ('/' :: cs) = '/' :: cs := by
    refine List.filter_eq_self.mpr fun c hc => ?_
    have hpoint := (hall c hc).1
    simp only [Bool.and_eq_true, decide_eq_true_eq]
    refine ⟨⟨?_, ?_⟩, ?_⟩ <;> rintro rfl <;> exact absurd hpoint (by decide)
  -- a scheme cannot begin with a slash
  have hscheme : withoutScheme ('/' :: cs) = '/' :: cs := by
    have hstart : ('/' :: cs).dropWhile isSchemeChar = '/' :: cs :=
      List.dropWhile_cons_of_neg (by decide)
    unfold withoutScheme
    rw [hstart]
    rfl
  -- a host would need a second slash
  have hhost : withoutHost ('/' :: cs) = '/' :: cs := by
    unfold withoutHost
    split
    · next rest heq =>
      obtain rfl : cs = '/' :: rest := (List.cons.inj heq).2
      exact absurd rfl hhead
    · rfl
  rw [pathPart, unindented, List.dropWhile_cons_of_neg (by decide), hunbroken, hscheme, hhost]
  refine List.takeWhile_eq_self_iff.mpr fun c hc => ?_
  have hmarks := (hall c hc).2
  simp only [List.mem_cons, List.not_mem_nil, or_false, not_or] at hmarks
  simp [hmarks.1, hmarks.2.1]

/-- A path has no characters but those of its parts, and slashes. -/
theorem mem_intercalate_slash {parts : List (List Char)} {P : Char → Prop}
    (h : ∀ part ∈ parts, ∀ c ∈ part, P c) :
    ∀ c ∈ List.intercalate ['/'] parts, P c ∨ c = '/' := by
  induction parts with
  | nil => simp [List.intercalate]
  | cons part rest ih =>
    rw [List.forall_mem_cons] at h
    intro c hc
    rcases eq_or_ne rest [] with rfl | hne
    · rw [List.intercalate_singleton] at hc
      exact .inl (h.1 c hc)
    · rw [List.intercalate_cons_of_ne_nil hne, List.mem_append, List.mem_append,
        List.mem_singleton] at hc
      rcases hc with (hc | hc) | hc
      · exact .inl (h.1 c hc)
      · exact .inr hc
      · exact ih h.2 c hc

/-- An address that puts plain parts behind slashes leads where the parts lead. -/
theorem segments_of_plain {address : String} (first : List Char) (parts : List (List Char))
    (haddress : address.toList = '/' :: List.intercalate ['/'] (first :: parts))
    (hfirst : first ≠ []) (hplain : ∀ part ∈ first :: parts, ∀ c ∈ part, IsPlain c) :
    segments (decodedPath address) = first :: parts := by
  have hslash : ∀ part ∈ first :: parts, '/' ∉ part := fun part hpart hmem =>
    (hplain part hpart '/' hmem).2 (by decide)
  have hpath : ∀ c ∈ List.intercalate ['/'] (first :: parts), IsPlain c ∨ c = '/' :=
    mem_intercalate_slash hplain
  -- the first part is not empty, so what follows the first slash is no slash
  have hhead : ∃ c ∈ first, (List.intercalate ['/'] (first :: parts)).head? = some c := by
    obtain ⟨c, rest, rfl⟩ := List.exists_cons_of_ne_nil hfirst
    refine ⟨c, List.mem_cons_self .., ?_⟩
    rcases eq_or_ne parts [] with rfl | hne
    · rfl
    · rw [List.intercalate_cons_of_ne_nil hne]
      rfl
  obtain ⟨c, hc, hhead⟩ := hhead
  have hne : c ≠ '/' := fun heq => hslash first (List.mem_cons_self ..) (heq ▸ hc)
  have hnot : (List.intercalate ['/'] (first :: parts)).head? ≠ some '/' := by simp [hhead, hne]
  have hstart : (List.intercalate ['/'] (first :: parts)).dropWhile (· = '/') =
      List.intercalate ['/'] (first :: parts) := by
    obtain ⟨rest, hcons⟩ := List.head?_eq_some_iff.mp hhead
    rw [hcons, List.dropWhile_cons_of_neg (by simp [hne])]
  have hpercent : '%' ∉ '/' :: List.intercalate ['/'] (first :: parts) := by
    intro hmem
    rcases hpath '%' (List.mem_of_ne_of_mem (by decide) hmem) with h | h
    · exact h.2 (by decide)
    · exact absurd h (by decide)
  rw [decodedPath, haddress, pathPart_of_plain hpath hnot, pathPart_of_plain hpath hnot,
    unindented, List.dropWhile_cons_of_neg (by decide), Text.unescape_of_not_mem hpercent,
    List.dropWhile_cons_of_pos (by decide), hstart]
  exact List.splitOn_intercalate '/' hslash (by simp)

/-! ## The routes of the board -/

/-- A path that leads to a route is routed there for each method of the route. -/
theorem routed?_of_known {r : Request} {route : Route}
    (h : destination (segments (decodedPath r.path)) = .known route) :
    routed? r = (route.verb? r.method).map fun verb => (route, verb) := by
  rw [routed?, h]

section Addresses

variable (method : String) (content : Content) (tag : Option String)

theorem routed?_board : routed? ⟨method, "/api/kanban", content, tag⟩ =
    (Route.board.verb? method).map fun verb => (.board, verb) := by
  refine routed?_of_known ?_
  rw [segments_of_plain "api".toList ["kanban".toList]
    (by simp [List.intercalate]) (by simp) (by simp [IsPlain])]
  rfl

theorem routed?_tasks : routed? ⟨method, "/api/kanban/tasks", content, tag⟩ =
    (Route.tasks.verb? method).map fun verb => (.tasks, verb) := by
  refine routed?_of_known ?_
  rw [segments_of_plain "api".toList ["kanban".toList, "tasks".toList]
    (by simp [List.intercalate]) (by simp) (by simp [IsPlain])]
  rfl

theorem routed?_reorder : routed? ⟨method, "/api/kanban/reorder", content, tag⟩ =
    (Route.reorder.verb? method).map fun verb => (.reorder, verb) := by
  refine routed?_of_known ?_
  rw [segments_of_plain "api".toList ["kanban".toList, "reorder".toList]
    (by simp [List.intercalate]) (by simp) (by simp [IsPlain])]
  rfl

variable {n : Nat}

/-- Decimal text stands for itself in an address. -/
theorem isPlain_of_mem_toString : ∀ c ∈ (toString n).toList, IsPlain c := by
  intro c hc
  rw [Nat.toString_eq_repr, Nat.toList_repr] at hc
  have hdigit := Nat.isDigit_of_mem_toDigits (by decide) (by decide) hc
  have hrange : 48 ≤ c.toNat ∧ c.toNat ≤ 57 := Char.isDigit_iff_toNat.mp hdigit
  refine ⟨by omega, fun hmem => ?_⟩
  simp only [List.mem_cons, List.not_mem_nil, or_false] at hmem
  obtain rfl | rfl | rfl | rfl := hmem <;> exact absurd hrange (by decide)

/-- The path of a column with an id in decimal leads to that column, as long as the id has not too
many digits to be read. -/
theorem routed?_column (h : n < 10 ^ Numeral.maxDigits) :
    routed? ⟨method, "/api/kanban/columns/" ++ toString n, content, tag⟩ =
      ((Route.column n).verb? method).map fun verb => (.column n, verb) := by
  refine routed?_of_known ?_
  rw [segments_of_plain "api".toList ["kanban".toList, "columns".toList, (toString n).toList]
    (by simp [List.intercalate]) (by simp) ?_]
  · simp only [destination, List.map_cons, List.map_nil, String.ofList_toList]
    exact withId_toString .column h
  · rw [List.forall_mem_cons, List.forall_mem_cons, List.forall_mem_cons, List.forall_mem_singleton]
    exact ⟨by simp [IsPlain], by simp [IsPlain], by simp [IsPlain], isPlain_of_mem_toString⟩

/-- The path of a task with an id in decimal leads to that task. -/
theorem routed?_task (h : n < 10 ^ Numeral.maxDigits) :
    routed? ⟨method, "/api/kanban/tasks/" ++ toString n, content, tag⟩ =
      ((Route.task n).verb? method).map fun verb => (.task n, verb) := by
  refine routed?_of_known ?_
  rw [segments_of_plain "api".toList ["kanban".toList, "tasks".toList, (toString n).toList]
    (by simp [List.intercalate]) (by simp) ?_]
  · simp only [destination, List.map_cons, List.map_nil, String.ofList_toList]
    exact withId_toString .task h
  · rw [List.forall_mem_cons, List.forall_mem_cons, List.forall_mem_cons, List.forall_mem_singleton]
    exact ⟨by simp [IsPlain], by simp [IsPlain], by simp [IsPlain], isPlain_of_mem_toString⟩

end Addresses

/-! ## The addresses of the operations -/

/-- The requests to the addresses of the four operations ask for them. -/
structure Addressed (config : Config) (task : Nat) (content : Content) (tag : Option String) :
    Prop where
  create : operation? config ⟨"POST", "/api/kanban/tasks", content, tag⟩ =
    some (newTaskAsked config content)
  move : operation? config ⟨"PUT", "/api/kanban/tasks/" ++ toString task, content, tag⟩ =
    some (moveAsked config task content)
  batch : operation? config ⟨"POST", "/api/kanban/reorder", content, tag⟩ =
    some (batchAsked config content)
  delete : operation? config ⟨"DELETE", "/api/kanban/tasks/" ++ toString task, content, tag⟩ =
    some (deletionAsked config task)

/-- Each of the four addresses asks for its operation, with the id that stands in it. -/
theorem addressed (config : Config) (content : Content) (tag : Option String) {task : Nat}
    (h : task < 10 ^ Numeral.maxDigits) : Addressed config task content tag where
  create := by
    rw [operation?, routed?_tasks]
    rfl
  move := by
    rw [operation?, routed?_task _ _ _ h]
    rfl
  batch := by
    rw [operation?, routed?_reorder]
    rfl
  delete := by
    rw [operation?, routed?_task _ _ _ h]
    rfl

/-- An id that can be stored is short enough to be read. -/
theorem lt_of_fits {n : Nat} (h : Stored.Fits n) : n < 10 ^ Numeral.maxDigits := by
  have hn : n < 2 ^ 63 := by
    have hmax := h.2
    unfold Stored.maxInteger at hmax
    omega
  calc n < 2 ^ 63 := hn
    _ ≤ 10 ^ 63 := Nat.pow_le_pow_left (by decide) 63
    _ ≤ 10 ^ Numeral.maxDigits := Nat.pow_le_pow_right (by decide) (by decide)

end Http

end Kanban
