import Kanban.Proofs.Agreement

/-!
# Calls that work on different columns

The footprint of a request on a board is the columns of the task that it moves or deletes and the
column that it moves tasks to or places them in. Nothing outside of it is changed
(`Board.ChangedIn`), and nothing outside of it is looked at that another request could change:
whatever a request learns of a task outside of its footprint is that the task is not in it. So two
calls whose footprints share no column can be performed in either order (`Call.commute`).
-/

namespace Kanban

open Work

namespace Board

/-! ## Changes within some columns -/

/-- A board after a change within the listed columns: the rows there stay there or are gone, and
every other row is as it was. -/
structure ChangedIn (columns : List Int) (b b' : Board) : Prop where
  columns_eq : b'.columns = b.columns
  inside : ∀ id, b.Holds columns id → ∀ t, b'.task? id = some t → t.column ∈ columns
  outside : ∀ id, ¬ b.Holds columns id → b'.task? id = b.task? id

variable {columns others ids : List Int} {b b₁ b₂ b₃ b₄ b' : Board}

theorem ChangedIn.refl (columns : List Int) (b : Board) : ChangedIn columns b b where
  columns_eq := rfl
  inside := by
    rintro id ⟨s, hs, hc⟩ t ht
    rw [hs, Option.some.injEq] at ht
    exact ht ▸ hc
  outside _ _ := rfl

/-- Row by row: a row in one of the columns stays in them, and any other stays as it was. -/
theorem ChangedIn.of_rows {R : Task → Task → Prop} (hcolumns : b'.columns = b.columns)
    (h : Rows R b b') (hin : ∀ s t, R s t → s.column ∈ columns → t.column ∈ columns)
    (hout : ∀ s ∈ b.tasks, ∀ t, R s t → s.column ∉ columns → t = s) : ChangedIn columns b b' where
  columns_eq := hcolumns
  inside := by
    rintro id ⟨s, hs, hc⟩ t ht
    have hrow := h id
    rw [hs, ht] at hrow
    cases hrow with
    | some hst => exact hin s t hst hc
  outside := by
    intro id hnot
    have hrow := h id
    generalize hs : b.task? id = x at hrow
    generalize b'.task? id = y at hrow
    cases hrow with
    | none => rfl
    | @some s t hst =>
      -- a task that is not inside stands in another column, so its row stays
      have hc : s.column ∉ columns := fun hc => hnot ⟨s, hs, hc⟩
      rw [hout s (task?_eq_some_iff.mp hs).1 t hst hc]

/-- No row is new. -/
theorem ChangedIn.task?_eq_none (h : ChangedIn columns b b') {id : Int} (ht : b.task? id = none) :
    b'.task? id = none := by
  rw [h.outside id ?_, ht]
  rintro ⟨s, hs, -⟩
  rw [ht] at hs
  cases hs

/-- A row is in one of the columns after a change in them only if it was there before. -/
theorem ChangedIn.holds_of_holds (h : ChangedIn columns b b') {id : Int}
    (hheld : b'.Holds others id) (hdisjoint : columns.Disjoint others) : b.Holds others id := by
  obtain ⟨t, ht, hc⟩ := hheld
  by_cases hin : b.Holds columns id
  · exact absurd hc (hdisjoint (h.inside id hin t ht))
  · exact ⟨t, (h.outside id hin).symm.trans ht, hc⟩

/-- What is in other columns is as it was. -/
theorem ChangedIn.task?_eq (h : ChangedIn columns b b') {id : Int} (hheld : b.Holds others id)
    (hdisjoint : columns.Disjoint others) : b'.task? id = b.task? id := by
  apply h.outside
  rintro ⟨s, hs, hc⟩
  obtain ⟨t, ht, hct⟩ := hheld
  rw [hs, Option.some.injEq] at ht
  exact hdisjoint hc (ht ▸ hct)

/-- After a change in some columns, a board agrees with the one before it on all others. -/
theorem ChangedIn.agree (h : ChangedIn columns b b') (hdisjoint : columns.Disjoint others)
    (hnamed : ∀ id ∈ ids, ∀ t, b.task? id = some t → t.column ∈ others) :
    Agree others ids b b' where
  columns_eq := h.columns_eq.symm
  row_eq := by
    rintro id (hid | hheld | hheld)
    · cases ht : b.task? id with
      | none => rw [row, row, ht, h.task?_eq_none ht]
      | some t => rw [row, row, h.task?_eq ⟨t, ht, hnamed id hid t ht⟩ hdisjoint]
    · rw [row, row, h.task?_eq hheld hdisjoint]
    · rw [row, row, h.task?_eq (h.holds_of_holds hheld hdisjoint) hdisjoint]
  named := hnamed

/-- A row in one of the columns, when these are changed first or last. -/
theorem row_eq_of_holds {id : Int} (hdisjoint : columns.Disjoint others)
    (h₁ : ChangedIn columns b b₁) (h₂ : ChangedIn others b₁ b₂) (h₃ : ChangedIn others b b₃)
    (h₄ : ChangedIn columns b₃ b₄) (hagree : Agree columns ids b₁ b₄) (hheld : b.Holds columns id) :
    b₂.row id = b₄.row id := by
  have hdisjoint' := hdisjoint.symm
  have hheld₃ : b₃.Holds columns id := by
    obtain ⟨t, ht, hc⟩ := hheld
    exact ⟨t, (h₃.task?_eq ⟨t, ht, hc⟩ hdisjoint').trans ht, hc⟩
  -- what is left of the row, if anything, is in the columns, and there the two boards agree
  have hrow : b₁.row id = b₄.row id := by
    cases ht : b₁.task? id with
    | some t => exact hagree.row_eq id (.inr (.inl ⟨t, ht, h₁.inside id hheld t ht⟩))
    | none =>
      cases ht' : b₄.task? id with
      | none => rw [row, row, ht, ht']
      | some t' => exact hagree.row_eq id (.inr (.inr ⟨t', ht', h₄.inside id hheld₃ t' ht'⟩))
  rw [← hrow]
  cases ht : b₁.task? id with
  | none => rw [row, row, ht, h₂.task?_eq_none ht]
  | some t => rw [row, row, h₂.task?_eq ⟨t, ht, h₁.inside id hheld t ht⟩ hdisjoint']

/-- Changes in different columns leave the same rows in either order. -/
theorem row_eq_of_changes {ids' : List Int} (hdisjoint : columns.Disjoint others)
    (h₁ : ChangedIn columns b b₁) (h₂ : ChangedIn others b₁ b₂) (h₃ : ChangedIn others b b₃)
    (h₄ : ChangedIn columns b₃ b₄) (hagree : Agree columns ids b₁ b₄)
    (hagree' : Agree others ids' b₃ b₂) (id : Int) : b₂.row id = b₄.row id := by
  by_cases hheld : b.Holds columns id
  · exact row_eq_of_holds hdisjoint h₁ h₂ h₃ h₄ hagree hheld
  by_cases hheld' : b.Holds others id
  · exact (row_eq_of_holds hdisjoint.symm h₃ h₄ h₁ h₂ hagree' hheld').symm
  -- a row in none of the columns is never changed
  have hheld₁ : ¬ b₁.Holds others id := fun h => hheld' (h₁.holds_of_holds h hdisjoint)
  have hheld₃ : ¬ b₃.Holds columns id := fun h => hheld (h₃.holds_of_holds h hdisjoint.symm)
  rw [row, row, h₂.outside id hheld₁, h₁.outside id hheld, h₄.outside id hheld₃,
    h₃.outside id hheld']

end Board

/-! ## Footprints -/

namespace Operation

variable {b b' : Board} {spacing : Spacing} {code : String}

/-- The column that a move goes to on a board: the named one, else the one of the reference if there
is such a task, else the one of the moved task. -/
def MoveRequest.destination? (r : MoveRequest) (b : Board) : Option Int :=
  match r.column with
  | some column => some column
  | none => ((r.reference.bind b.task?).or (b.task? r.task)).map Task.column

/-- The columns of the task that a request moves or deletes, and the column that it moves a task to,
creates one in or places tasks in. The listed tasks of a batch do not matter: those that are not in
its column are not moved. -/
def Request.footprint (b : Board) : Request → List Int
  | .create r => [r.column]
  | .move r => ((b.task? r.task).map Task.column).toList ++ (r.destination? b).toList
  | .batch r => [r.column]
  | .delete task => ((b.task? task).map Task.column).toList

/-- The tasks that a request names while it looks for its columns. -/
def Request.named : Request → List Int
  | .create _ | .batch _ => []
  | .move r => r.task :: if r.column = none then r.reference.toList else []
  | .delete task => [task]

def Request.Rearranges : Request → Prop
  | .create _ => False
  | .move _ | .batch _ | .delete _ => True

/-- A move of a task that is there goes where its request says. -/
theorem MoveRequest.destination?_eq {r : MoveRequest} {t : Task} (ht : b.task? r.task = some t) :
    r.destination? b = some (b.destination t r) := by
  obtain ⟨task, column, reference, after, position⟩ := r
  rcases column with _ | column
  · rcases reference with _ | reference
    · simp_all [MoveRequest.destination?, Board.destination]
    · cases hu : b.task? reference <;> simp_all [MoveRequest.destination?, Board.destination]
  · rfl

/-- A task that a request names is in its footprint. -/
theorem Request.column_mem_footprint {q : Request} {id : Int} (hid : id ∈ q.named) {t : Task}
    (ht : b.task? id = some t) : t.column ∈ q.footprint b := by
  cases q with
  | create | batch => cases hid
  | delete task =>
    obtain rfl := List.mem_singleton.mp hid
    simp [Request.footprint, ht]
  | move r =>
    rcases List.mem_cons.mp hid with rfl | hid
    · simp [Request.footprint, ht]
    · split at hid
      · next hcolumn =>
        have href : r.reference = some id := Option.mem_toList.mp hid
        simp [Request.footprint, MoveRequest.destination?, hcolumn, href, ht]
      · cases hid

/-- The footprint of a request and the tasks that it names are all that it looks at. -/
theorem Request.covered {q : Request} (h : q.Rearranges) (b : Board) :
    q.Covered (q.footprint b) q.named := by
  cases q with
  | create => exact h.elim
  | batch r => exact List.mem_singleton_self r.column
  | delete task => exact List.mem_singleton_self task
  | move r =>
    refine ⟨List.mem_cons_self, fun column hcolumn => ?_, fun hnone reference href => ?_⟩
    · have hcolumn : r.column = some column := hcolumn
      simp [Request.footprint, MoveRequest.destination?, hcolumn]
    · have href : r.reference = some reference := href
      simp [Request.named, hnone, href]

/-- Boards that agree on what is named give a request the same footprint. -/
theorem Request.footprint_eq {q : Request} {columns : List Int}
    (h : Board.Agree columns q.named b b') : q.footprint b' = q.footprint b := by
  -- the footprint is read off the columns of the named tasks alone
  have hcolumn : ∀ id ∈ q.named,
      (b'.task? id).map Task.column = (b.task? id).map Task.column := by
    intro id hid
    have hrow := congrArg (Option.map Task.column) (h.row_eq id (.inl hid)).symm
    simpa [Board.row, Option.map_map, Function.comp_def] using hrow
  cases q with
  | create | batch => rfl
  | delete task => simp only [Request.footprint, hcolumn task (List.mem_singleton_self task)]
  | move r =>
    have htask := hcolumn r.task List.mem_cons_self
    simp only [Request.footprint, htask, MoveRequest.destination?]
    cases hcol : r.column with
    | some column => rfl
    | none =>
      cases href : r.reference with
      | none => simp [htask]
      | some reference =>
        have hreference := hcolumn reference (by simp [Request.named, hcol, href])
        simp [Option.map_or, htask, hreference]

/-- A move changes the board within its footprint: the column that the task leaves and the one that
it goes to. -/
theorem changedIn_of_relocation {c : Conditions} {r : MoveRequest} {m : Moved}
    (h : relocation spacing r c b = (.ok m, b')) :
    Board.ChangedIn ((Request.move r).footprint b) b b' := by
  obtain ⟨hcolumns, t, ht, -, hrows⟩ := confined_of_relocation h
  have hown : t.column ∈ (Request.move r).footprint b := by
    simp [Request.footprint, ht]
  have hdestination : b.destination t r ∈ (Request.move r).footprint b := by
    simp [Request.footprint, MoveRequest.destination?_eq ht]
  -- a row that is written stays inside, and a row outside is not written
  refine .of_rows hcolumns hrows (fun s u hsu hs => ?_) (fun s hmem u hsu hs => ?_)
  · split at hsu
    · exact (Task.movedTo_iff.mp hsu).2.2.1 ▸ hdestination
    · split at hsu
      · exact (Task.shifted_iff.mp hsu).2.2.1 ▸ hs
      · exact hsu ▸ hs
  · -- a row that is written is the one of the task, or one of its destination
    have hid : s.id ≠ r.task := by
      intro heq
      obtain rfl : s = t := Option.some.inj
        ((Board.task?_eq_some_iff.mpr ⟨hmem, heq⟩).symm.trans ht)
      exact hs hown
    have hcolumn : s.column ≠ b.destination t r := fun heq => hs (heq ▸ hdestination)
    simpa [hid, hcolumn] using hsu

/-- A batch changes the board within its column. -/
theorem changedIn_of_placement {c : Conditions} {r : BatchRequest} {p : Placed}
    (h : placement spacing r c b = (.ok p, b')) :
    Board.ChangedIn ((Request.batch r).footprint b) b b' := by
  obtain ⟨hcolumns, hrows⟩ := confined_of_placement h
  obtain ⟨-, hlisted, -, -⟩ := placement_eq_ok h
  refine .of_rows hcolumns hrows (fun s u hsu hs => ?_) (fun s hmem u hsu hs => ?_)
  · split at hsu
    · exact (Task.shifted_iff.mp hsu).2.2.1 ▸ hs
    · exact hsu ▸ hs
  · have hcolumn : s.column ≠ r.column := fun heq => hs (List.mem_singleton.mpr heq)
    have hid : s.id ∉ r.targets.map Prod.fst := by
      intro hid
      obtain ⟨t, ht, heq⟩ := hlisted s.id hid
      obtain ⟨ht, hc⟩ := Board.mem_order.mp ht
      obtain rfl := Board.eq_of_id_eq ht hmem heq
      exact hcolumn hc
    rwa [if_neg (by tauto)] at hsu

/-- A deletion changes the board within the column of its task. -/
theorem changedIn_of_deletion {c : Conditions} {task : Int} {x : Unit}
    (h : deletion task c b = (.ok x, b')) :
    Board.ChangedIn ((Request.delete task).footprint b) b b' := by
  obtain ⟨⟨t, ht⟩, rfl⟩ := deletion_eq_ok h
  refine ⟨rfl, fun id hheld s hs => ?_, fun id hnot => ?_⟩
  · obtain ⟨u, hu, hc⟩ := hheld
    rw [Board.task?_removeTask] at hs
    split at hs
    · cases hs
    · rw [hu, Option.some.injEq] at hs
      exact hs ▸ hc
  · have hne : id ≠ task := by
      rintro rfl
      exact hnot ⟨t, ht, by simp [Request.footprint, ht]⟩
    rw [Board.task?_removeTask, if_neg hne]

/-- A request changes nothing outside of its footprint. -/
theorem Request.changedIn {q : Request} (h : q.Rearranges) (spacing : Spacing) (code : String)
    (b : Board) (c : Conditions) :
    Board.ChangedIn (q.footprint b) b (q.perform spacing code c b).2 := by
  -- a failed request leaves the board as it was
  rcases hperform : q.perform spacing code c b with ⟨f | o, b'⟩
  · rw [transaction_of_error hperform]
    exact .refl _ b
  obtain ⟨hwork, -⟩ := transaction_eq_ok.mp hperform
  cases q with
  | create r => exact h.elim
  | move r =>
    obtain ⟨m, hrelocation, -⟩ := map_eq_ok.mp hwork
    exact changedIn_of_relocation hrelocation
  | batch r =>
    obtain ⟨p, hplacement, -⟩ := map_eq_ok.mp hwork
    exact changedIn_of_placement hplacement
  | delete task =>
    obtain ⟨x, hdeletion, -⟩ := map_eq_ok.mp hwork
    exact changedIn_of_deletion hdeletion

/-- A request does the same after a change in columns outside of its footprint. -/
theorem Request.perform_of_changedIn {q : Request} (h : q.Rearranges) {columns : List Int}
    (hchanged : Board.ChangedIn columns b b') (hdisjoint : columns.Disjoint (q.footprint b))
    (spacing : Spacing) (code : String) (now now' : Timestamp) :
    q.footprint b' = q.footprint b ∧
      (q.perform spacing code ⟨now, none⟩ b).1.map Outcome.untimed =
        (q.perform spacing code ⟨now', none⟩ b').1.map Outcome.untimed ∧
      Board.Agree (q.footprint b) q.named (q.perform spacing code ⟨now, none⟩ b).2
        (q.perform spacing code ⟨now', none⟩ b').2 := by
  have hagree : Board.Agree (q.footprint b) q.named b b' :=
    hchanged.agree hdisjoint fun id hid t ht => Request.column_mem_footprint hid ht
  have hends := Request.alike_perform (Request.covered h b) spacing code now now' b b' hagree
  exact ⟨Request.footprint_eq hagree, hends.map_eq, hends.rel_of_transaction hagree⟩

end Operation

/-! ## Two calls -/

namespace Call

variable {b b' : Board}

def Rearranges : Call → Prop
  | .create .. => False
  | .move .. | .batch .. | .delete _ => True

/-- The footprint of a call on a board is the one of what it asks for. A call whose arguments are
refused has none. -/
def footprint (call : Call) (b : Board) : List Int :=
  match call.request with
  | .ok q => q.footprint b
  | .error _ => []

theorem rearranges_of_request {call : Call} {q : Operation.Request} (h : call.Rearranges)
    (hrequest : call.request = .ok q) : q.Rearranges := by
  cases call with
  | create => exact h.elim
  | move | batch | delete =>
    obtain ⟨r, -, rfl⟩ := except_map_eq_ok.mp hrequest
    trivial

/-- A call changes nothing outside of its footprint. -/
theorem changedIn {call : Call} (h : call.Rearranges) (spacing : Spacing) (code : String)
    (b : Board) (c : Conditions) :
    Board.ChangedIn (call.footprint b) b (call.perform spacing code c b).2 := by
  unfold footprint
  cases hrequest : call.request with
  | ok q =>
    rw [perform_of_request hrequest]
    exact Operation.Request.changedIn (rearranges_of_request h hrequest) spacing code b c
  | error cause =>
    rw [perform_of_refused hrequest]
    exact .refl [] b

/-- A call does the same after a change in columns outside of its footprint. -/
theorem perform_of_changedIn {call : Call} (h : call.Rearranges) {columns : List Int}
    (hchanged : Board.ChangedIn columns b b') (hdisjoint : columns.Disjoint (call.footprint b))
    (spacing : Spacing) (code : String) (now now' : Timestamp) :
    call.footprint b' = call.footprint b ∧
      (call.perform spacing code ⟨now, none⟩ b).1.map Outcome.untimed =
        (call.perform spacing code ⟨now', none⟩ b').1.map Outcome.untimed ∧
      ∃ ids, Board.Agree (call.footprint b) ids (call.perform spacing code ⟨now, none⟩ b).2
        (call.perform spacing code ⟨now', none⟩ b').2 := by
  unfold footprint at hdisjoint ⊢
  cases hrequest : call.request with
  | ok q =>
    rw [hrequest] at hdisjoint
    rw [perform_of_request hrequest]
    obtain ⟨hfootprint, hresult, hagree⟩ := Operation.Request.perform_of_changedIn
      (rearranges_of_request h hrequest) hchanged hdisjoint spacing code now now'
    exact ⟨hfootprint, hresult, _, hagree⟩
  | error cause =>
    rw [hrequest] at hdisjoint
    rw [perform_of_refused hrequest]
    exact ⟨rfl, rfl, [], hchanged.agree hdisjoint (by simp)⟩

/-- Two calls that rearrange different columns have the same outcomes in either order, and leave the
same rows, but for the times of updates. -/
theorem commute {x y : Call} (hx : x.Rearranges) (hy : y.Rearranges)
    (hdisjoint : (x.footprint b).Disjoint (y.footprint b)) (spacing spacing' : Spacing)
    (code code' : String) (now₁ now₂ now₃ now₄ : Timestamp) :
    let xFirst := x.perform spacing code ⟨now₁, none⟩ b
    let ySecond := y.perform spacing' code' ⟨now₂, none⟩ xFirst.2
    let yFirst := y.perform spacing' code' ⟨now₃, none⟩ b
    let xSecond := x.perform spacing code ⟨now₄, none⟩ yFirst.2
    xFirst.1.map Outcome.untimed = xSecond.1.map Outcome.untimed ∧
      yFirst.1.map Outcome.untimed = ySecond.1.map Outcome.untimed ∧
      ySecond.2.columns = xSecond.2.columns ∧ ∀ id, ySecond.2.row id = xSecond.2.row id := by
  intro xFirst ySecond yFirst xSecond
  have hxFirst : Board.ChangedIn (x.footprint b) b xFirst.2 := changedIn hx spacing code b _
  have hyFirst : Board.ChangedIn (y.footprint b) b yFirst.2 := changedIn hy spacing' code' b _
  -- each call sees the board after the other one as it would have seen the first board
  obtain ⟨hyFootprint, hyResult, ids, hyAgree⟩ := perform_of_changedIn hy hxFirst hdisjoint
    spacing' code' now₃ now₂
  obtain ⟨hxFootprint, hxResult, ids', hxAgree⟩ := perform_of_changedIn hx hyFirst
    hdisjoint.symm spacing code now₁ now₄
  have hySecond : Board.ChangedIn (y.footprint b) xFirst.2 ySecond.2 :=
    hyFootprint ▸ changedIn hy spacing' code' xFirst.2 _
  have hxSecond : Board.ChangedIn (x.footprint b) yFirst.2 xSecond.2 :=
    hxFootprint ▸ changedIn hx spacing code yFirst.2 _
  refine ⟨hxResult, hyResult, ?_, fun id => ?_⟩
  · rw [hySecond.columns_eq, hxFirst.columns_eq, hxSecond.columns_eq, hyFirst.columns_eq]
  · exact Board.row_eq_of_changes hdisjoint hxFirst hySecond hyFirst hxSecond hxAgree hyAgree id

/-- A task is to stand next to one in another column, and takes the explicit position instead. -/
def ofStranger : Call := .move (.int 1) (.int 1) (.int 4) (.bool true) (.int 7)

/-- The other task is deleted before or after. -/
theorem commute_with_stranger :
    let xFirst := ofStranger.perform ⟨4, 2⟩ "" ⟨⟨1⟩, none⟩ splitBoard
    let ySecond := (delete (.int 4)).perform ⟨4, 2⟩ "" ⟨⟨2⟩, none⟩ xFirst.2
    let yFirst := (delete (.int 4)).perform ⟨4, 2⟩ "" ⟨⟨3⟩, none⟩ splitBoard
    let xSecond := ofStranger.perform ⟨4, 2⟩ "" ⟨⟨4⟩, none⟩ yFirst.2
    (ofStranger.footprint splitBoard).Disjoint ((delete (.int 4)).footprint splitBoard) ∧
      xFirst.1 = .ok (.moved ⟨⟨1, ⟨"a", "", "", "", none, []⟩, 1, 8, ⟨0⟩, ⟨1⟩⟩, true⟩) ∧
      xFirst.1.map Outcome.untimed = xSecond.1.map Outcome.untimed ∧
      yFirst.1 = .ok .deleted ∧
      yFirst.1.map Outcome.untimed = ySecond.1.map Outcome.untimed ∧
      ySecond.2.columns = xSecond.2.columns ∧ ∀ id, ySecond.2.row id = xSecond.2.row id := by
  have hdisjoint : (ofStranger.footprint splitBoard).Disjoint
      ((delete (.int 4)).footprint splitBoard) := by
    rw [show ofStranger.footprint splitBoard = [1, 1] by decide,
      show (delete (.int 4)).footprint splitBoard = [2] by decide]
    simp
  have hmoved : (ofStranger.perform ⟨4, 2⟩ "" ⟨⟨1⟩, none⟩ splitBoard).1 =
      .ok (.moved ⟨⟨1, ⟨"a", "", "", "", none, []⟩, 1, 8, ⟨0⟩, ⟨1⟩⟩, true⟩) := by cbv
  have hdeleted : ((delete (.int 4)).perform ⟨4, 2⟩ "" ⟨⟨3⟩, none⟩ splitBoard).1 =
      .ok .deleted := by cbv
  obtain ⟨hx, hy, hcolumns, hrows⟩ := commute (x := ofStranger) (y := .delete (.int 4)) trivial
    trivial hdisjoint ⟨4, 2⟩ ⟨4, 2⟩ "" "" ⟨1⟩ ⟨2⟩ ⟨3⟩ ⟨4⟩
  exact ⟨hdisjoint, hmoved, hx, hdeleted, hy, hcolumns, hrows⟩

end Call

end Kanban
