import Kanban.Proofs.Retry

/-!
# What a batch leads to

A batch names some tasks of a column and leaves the others out, and the positions that it gives may
swap tasks, repeat each other or fall between those of the tasks that are left out. What it leads to is
nevertheless said without any of that. There is one list of the tasks of the column, ordered by where
each of them is intended to stand (`BatchRequest.lineup`), and either the tasks end there, or the
column is too tight for it and they end at the multiples of the gap in that order
(`BatchRequest.ending`).

Where a task is intended to stand does not depend on the order in which the targets are listed, so
neither does the board that a batch leaves (`Call.batch_verdict`).
-/

namespace Kanban

open Work

/-! ## Accepted targets -/

namespace Operation

/-- An entry of a batch gives a task and a position. The task stands under the first spelling of its
field that is there, whatever is written under it, and the position fits its stored field. -/
def Gives (entry : Json) (target : Int × Int) : Prop :=
  ∃ fields : Fields, entry = .object fields ∧
    (fields.get? "taskId" = some (.int target.1) ∨
      fields.get? "taskId" = none ∧ fields.get? "task_id" = some (.int target.1)) ∧
    fields.get? "position" = some (.int target.2) ∧ -2 ^ 63 ≤ target.2 ∧ target.2 ≤ 2 ^ 63 - 1

theorem Gives.fits {entry : Json} {target : Int × Int} (h : Gives entry target) :
    Stored.Fits target.2 := by
  obtain ⟨_, -, -, -, hfits⟩ := h
  exact hfits

/-- What is under a name in an object is an integer only when it is there. -/
theorem get_eq_int_iff {fields : Fields} {name : String} {n : Int} :
    fields.get name = .int n ↔ fields.get? name = some (.int n) := by
  unfold Fields.get
  cases fields.get? name with
  | none => simp
  | some value => simp

/-- An entry is accepted just when it gives a target, and it is the target that it gives. -/
theorem targetArgument_eq_ok {entry : Json} {target : Int × Int} :
    targetArgument entry = .ok target ↔ Gives entry target := by
  cases entry with
  | object fields =>
    -- the second spelling counts only where the first one is not there, even if null is written
    -- under it
    have htask : (Fields.get? fields "taskId").getD (Fields.get fields "task_id") = .int target.1 ↔
        Fields.get? fields "taskId" = some (.int target.1) ∨
          Fields.get? fields "taskId" = none ∧
            Fields.get? fields "task_id" = some (.int target.1) := by
      cases Fields.get? fields "taskId" with
      | none => simp [get_eq_int_iff]
      | some value => simp
    constructor
    · intro h
      obtain ⟨task, hid, h⟩ := except_bind_eq_ok.mp h
      obtain ⟨position, hposition, h⟩ := except_bind_eq_ok.mp h
      cases h
      have hid := htask.mp (integerArgument_eq_ok.mp hid)
      obtain ⟨hposition, hfits⟩ := positionArgument_eq_ok.mp hposition
      exact ⟨fields, rfl, hid, get_eq_int_iff.mp hposition, hfits⟩
    · rintro ⟨_, ⟨⟩, hid, hposition, hfits⟩
      apply except_bind_eq_ok.mpr
      refine ⟨target.1, integerArgument_eq_ok.mpr (htask.mpr hid), ?_⟩
      apply except_bind_eq_ok.mpr
      exact ⟨target.2, positionArgument_eq_ok.mpr ⟨get_eq_int_iff.mpr hposition, hfits⟩, rfl⟩
  | null | bool | int | float | text | illFormed | list =>
    constructor
    · intro h
      cases h
    · rintro ⟨fields, h, -⟩
      cases h

/-- Targets are accepted when each of them is, and when no task is named twice or was listed
before. -/
theorem targetArguments_eq_ok {listed : List Int} {entries : List Json}
    {targets : List (Int × Int)} :
    targetArguments listed entries = .ok targets ↔
      List.Forall₂ (fun entry target => targetArgument entry = .ok target) entries targets ∧
        (targets.map Prod.fst).Nodup ∧ ∀ id ∈ targets.map Prod.fst, id ∉ listed := by
  induction entries generalizing listed targets with
  | nil =>
    rw [List.forall₂_nil_left_iff]
    constructor
    · intro h
      cases h
      exact ⟨rfl, List.nodup_nil, by simp⟩
    · rintro ⟨rfl, -, -⟩
      rfl
  | cons entry rest ih =>
    constructor
    · intro h
      obtain ⟨target, htarget, h⟩ := except_bind_eq_ok.mp h
      split at h
      · cases h
      · next hnew =>
        obtain ⟨others, hothers, h⟩ := except_bind_eq_ok.mp h
        cases h
        obtain ⟨hrest, hnodup, hfree⟩ := ih.mp hothers
        -- what is named later is neither this task nor one that was listed before
        refine ⟨.cons htarget hrest, List.nodup_cons.mpr ⟨fun hmem => ?_, hnodup⟩, ?_⟩
        · exact hfree target.1 hmem List.mem_cons_self
        · rw [List.map_cons, List.forall_mem_cons]
          exact ⟨hnew, fun id hid hlisted => hfree id hid (List.mem_cons_of_mem _ hlisted)⟩
    · rintro ⟨hall, hnodup, hfree⟩
      cases hall with
      | cons htarget hrest =>
        next target others =>
        rw [List.map_cons, List.nodup_cons] at hnodup
        rw [List.map_cons, List.forall_mem_cons] at hfree
        have hothers : targetArguments (target.1 :: listed) rest = .ok others := by
          refine ih.mpr ⟨hrest, hnodup.2, fun id hid hmem => ?_⟩
          rcases List.mem_cons.mp hmem with rfl | hmem
          · exact hnodup.1 hid
          · exact hfree.2 id hid hmem
        apply except_bind_eq_ok.mpr
        refine ⟨target, htarget, ?_⟩
        rw [if_neg hfree.1]
        exact except_bind_eq_ok.mpr ⟨others, hothers, rfl⟩

/-- A batch is accepted when its column is an integer and when its targets are accepted, of which
there must be some. -/
theorem BatchRequest.ofArguments_eq_ok {column : Json} {entries : List Json} {r : BatchRequest} :
    BatchRequest.ofArguments column (.list entries) = .ok r ↔
      integerArgument .columnId column = .ok r.column ∧ entries ≠ [] ∧
        targetArguments [] entries = .ok r.targets := by
  cases column with
  | int n =>
    cases entries with
    | nil =>
      constructor
      · intro h
        cases h
      · rintro ⟨-, hne, -⟩
        -- an empty list is refused before any of its entries is looked at
        exact absurd rfl hne
    | cons entry rest =>
      constructor
      · intro h
        obtain ⟨id, hid, h⟩ := except_bind_eq_ok.mp h
        obtain ⟨targets, htargets, h⟩ := except_bind_eq_ok.mp h
        cases h
        exact ⟨hid, List.cons_ne_nil _ _, htargets⟩
      · rintro ⟨hcolumn, -, htargets⟩
        apply except_bind_eq_ok.mpr
        exact ⟨r.column, hcolumn, except_bind_eq_ok.mpr ⟨r.targets, htargets, rfl⟩⟩
  | null | bool | float | text | illFormed | list | object =>
    constructor
    · intro h
      cases h
    · rintro ⟨h, -⟩
      cases h

/-- A value lists targets: it is a list of entries, of which there are some, each of them gives the
target at its place, and no two of them give the same task. -/
def Lists (positions : Json) (targets : List (Int × Int)) : Prop :=
  ∃ entries, positions = .list entries ∧ entries ≠ [] ∧ List.Forall₂ Gives entries targets ∧
    (targets.map Prod.fst).Nodup

theorem Lists.nodup {positions : Json} {targets : List (Int × Int)} (h : Lists positions targets) :
    (targets.map Prod.fst).Nodup := by
  obtain ⟨_, -, -, -, hnodup⟩ := h
  exact hnodup

/-- The positions that are given can be stored. -/
theorem Lists.fits {positions : Json} {targets : List (Int × Int)} (h : Lists positions targets) :
    ∀ target ∈ targets, Stored.Fits target.2 := by
  obtain ⟨_, -, -, hall, -⟩ := h
  have hboth : List.Forall₂ (fun target entry => Stored.Fits target.2 ∧ Gives entry target) targets _ :=
    hall.flip.imp fun _ _ hgives => ⟨Gives.fits hgives, hgives⟩
  exact ((List.forall₂_and_left _ _).mp hboth).1

/-- The arguments of a batch whose column is an integer are accepted exactly when they list targets,
and then the request has these targets in the order in which they are listed. -/
theorem BatchRequest.ofArguments_int_eq_ok {column : Int} {positions : Json} {r : BatchRequest} :
    BatchRequest.ofArguments (.int column) positions = .ok r ↔
      column = r.column ∧ Lists positions r.targets := by
  cases positions with
  | list entries =>
    rw [BatchRequest.ofArguments_eq_ok, targetArguments_eq_ok]
    simp only [integerArgument_eq_ok, targetArgument_eq_ok, Lists, Json.int.injEq, Json.list.injEq,
      exists_eq_left', List.not_mem_nil, not_false_eq_true, implies_true, and_true]
  | null | bool | int | float | text | illFormed | object =>
    constructor
    · intro h
      cases h
    · rintro ⟨-, entries, h, -⟩
      cases h

/-- A batch that is accepted names its column by an integer and lists its targets. -/
theorem BatchRequest.lists_of_ofArguments {column positions : Json} {r : BatchRequest}
    (h : BatchRequest.ofArguments column positions = .ok r) :
    column = .int r.column ∧ Lists positions r.targets := by
  cases column with
  | int n =>
    obtain ⟨rfl, hlists⟩ := BatchRequest.ofArguments_int_eq_ok.mp h
    exact ⟨rfl, hlists⟩
  | null | bool | float | text | illFormed | list | object => cases h

/-- The same entries in another order are accepted as well, and they name the same targets. -/
theorem BatchRequest.ofArguments_perm {column : Json} {entries entries' : List Json}
    {r : BatchRequest} (hperm : entries'.Perm entries)
    (h : BatchRequest.ofArguments column (.list entries) = .ok r) :
    ∃ targets, targets.Perm r.targets ∧
      BatchRequest.ofArguments column (.list entries') = .ok ⟨r.column, targets⟩ := by
  obtain ⟨hcolumn, hne, htargets⟩ := BatchRequest.ofArguments_eq_ok.mp h
  obtain ⟨hall, hnodup, -⟩ := targetArguments_eq_ok.mp htargets
  obtain ⟨targets, hall', hperm'⟩ := List.perm_comp_forall₂ hperm hall
  refine ⟨targets, hperm', BatchRequest.ofArguments_eq_ok.mpr ⟨hcolumn, ?_, ?_⟩⟩
  · rintro rfl
    exact hne hperm.nil_eq.symm
  · refine targetArguments_eq_ok.mpr ⟨hall', ?_, by simp⟩
    exact (hperm'.map Prod.fst).nodup_iff.mpr hnodup

/-! ## Where tasks are intended to stand -/

namespace BatchRequest

/-- Where a task is intended to stand: at its target, and else where it stands already. -/
def intended (r : BatchRequest) (t : Task) : Int := (r.targets.lookup t.id).getD t.position

/-- A task does not come after another one where they are intended to stand. -/
def precedes (r : BatchRequest) (s t : Task) : Bool :=
  r.intended s < r.intended t || (r.intended s == r.intended t && s.id ≤ t.id)

/-- The tasks of the column by the positions where they are intended to stand, and by their ids where
two of these are the same. -/
def lineup (r : BatchRequest) (b : Board) : List Task := (b.order r.column).mergeSort r.precedes

/-- Any two tasks of the column are intended to stand a distance apart. -/
def Spacious (r : BatchRequest) (b : Board) (distance : Int) : Prop :=
  (b.order r.column).Pairwise fun s t => Spacing.Apart distance (r.intended s) (r.intended t)

instance (distance p q : Int) : Decidable (Spacing.Apart distance p q) :=
  inferInstanceAs (Decidable (_ ∨ _))

instance (r : BatchRequest) (b : Board) (distance : Int) : Decidable (r.Spacious b distance) :=
  inferInstanceAs (Decidable (List.Pairwise _ _))

/-- The first listed id that is not the id of a task of the column. -/
def stray? (r : BatchRequest) (b : Board) : Option Int :=
  (r.targets.map Prod.fst).find? fun id => decide (∀ t ∈ b.order r.column, t.id ≠ id)

/-- What a batch leads to. The multiples of the gap have to fit only when the column is too tight for
where its tasks are intended to stand. -/
def ending (r : BatchRequest) (spacing : Spacing) (now : Timestamp) (b : Board) :
    Except Failure Placed × Board :=
  if b.column? r.column = none then (.error (.columnNotFound (.int r.column)), b)
  else
    match r.stray? b with
    | some id => (.error (.taskNotFound id), b)
    | none =>
      let placed := b.reposition r.targets now
      if r.Spacious b spacing.threshold then (.ok ⟨r.targets.map Prod.fst, false⟩, placed)
      else if ∀ i < (b.order r.column).length, Stored.Fits (multiple spacing.gap i) then
        (.ok ⟨r.targets.map Prod.fst, true⟩, placed.renumbered r.column spacing.gap now)
      else (.error .integerOverflow, b)

variable {r : BatchRequest} {b : Board} {now : Timestamp}

/-- No task is astray when each that is listed stands in the column. -/
theorem stray?_eq_none_iff :
    r.stray? b = none ↔ ∀ id ∈ r.targets.map Prod.fst, ∃ t ∈ b.order r.column, t.id = id := by
  simp [stray?, List.find?_eq_none, and_assoc]

/-- The task of a target is put where it is intended to stand, and any other task is there already. -/
theorem retarget_eq_put (r : BatchRequest) (now : Timestamp) (t : Task) :
    Board.retarget r.targets now t = t.put t.column (r.intended t) now := by
  unfold Board.retarget intended
  cases r.targets.lookup t.id with
  | none => simp [Task.put]
  | some position => rfl

/-- Once a batch is placed, the tasks of its column stand in line where they are intended to. -/
theorem order_reposition (r : BatchRequest) (b : Board) (now : Timestamp) :
    (b.reposition r.targets now).order r.column =
      (r.lineup b).map fun t => t.put r.column (r.intended t) now := by
  have hput : ∀ t ∈ r.lineup b, Board.retarget r.targets now t =
      t.put r.column (r.intended t) now := by
    intro t ht
    have hcolumn := (Board.mem_order.mp (List.mem_mergeSort.mp ht)).2
    rw [retarget_eq_put, hcolumn]
  rw [Board.order_reposition, ← List.map_congr_left hput]
  symm
  apply List.map_mergeSort
  intro s _ t _
  simp only [Task.precedes, retarget_position, Board.retarget_id]
  rfl

/-- Placing a batch leaves every other column alone. -/
theorem order_reposition_of_ne (hstray : r.stray? b = none) {c : Int} (hc : c ≠ r.column) :
    (b.reposition r.targets now).order c = b.order c := by
  exact Board.order_reposition_of_ne hc (stray?_eq_none_iff.mp hstray)

theorem length_order_reposition (r : BatchRequest) (b : Board) (now : Timestamp) :
    ((b.reposition r.targets now).order r.column).length = (b.order r.column).length := by
  rw [order_reposition, List.length_map, lineup, List.length_mergeSort]

/-- A column is crowded once the batch is placed when its tasks are intended to stand too close. -/
theorem isCrowded_reposition (r : BatchRequest) (b : Board) (now : Timestamp) (threshold : Int) :
    Spacing.isCrowded ((b.reposition r.targets now).positions r.column) threshold = false ↔
      r.Spacious b threshold := by
  have hpositions : (b.reposition r.targets now).positions r.column =
      (r.lineup b).map r.intended := by
    rw [Board.positions, order_reposition, List.map_map]
    apply List.map_congr_left
    intro t _
    exact Task.put_position ..
  rw [hpositions, Spacing.isCrowded_eq_false_iff, List.pairwise_map, Spacious]
  exact (List.mergeSort_perm _ _).pairwise_iff Spacing.Apart.symm

/-- A renumbered column keeps the line in which its tasks were intended to stand. -/
theorem order_renumbered (r : BatchRequest) (b : Board) (now : Timestamp) {gap : Int}
    (hgap : 1 ≤ gap) :
    ((b.reposition r.targets now).renumbered r.column gap now).order r.column =
      (r.lineup b).mapIdx fun i t =>
        (t.put r.column (r.intended t) now).put r.column (multiple gap i) now := by
  rw [Board.order_renumbered _ _ hgap, order_reposition]
  apply List.ext_getElem?
  intro i
  rw [List.getElem?_mapIdx, List.getElem?_mapIdx, List.getElem?_map, Option.map_map]
  simp [Function.comp_def]

/-! ### Endings -/

variable {spacing : Spacing}

theorem ending_of_column_none (hd : b.column? r.column = none) :
    r.ending spacing now b = (.error (.columnNotFound (.int r.column)), b) := by
  unfold ending
  rw [if_pos hd]

/-- A task that is not in the column takes back the whole batch. -/
theorem ending_of_stray (hd : b.column? r.column ≠ none) {id : Int} (hstray : r.stray? b = some id) :
    r.ending spacing now b = (.error (.taskNotFound id), b) := by
  unfold ending
  rw [if_neg hd, hstray]

/-- A column that stays spacious keeps the positions that are given. -/
theorem ending_of_spacious (hd : b.column? r.column ≠ none) (hstray : r.stray? b = none)
    (hspacious : r.Spacious b spacing.threshold) :
    r.ending spacing now b =
      (.ok ⟨r.targets.map Prod.fst, false⟩, b.reposition r.targets now) := by
  unfold ending
  rw [if_neg hd, hstray]
  exact if_pos hspacious

/-- A column that becomes tight is renumbered, in the order in which its tasks were to stand. -/
theorem ending_of_tight (hd : b.column? r.column ≠ none) (hstray : r.stray? b = none)
    (hspacious : ¬ r.Spacious b spacing.threshold) :
    r.ending spacing now b =
      if ∀ i < (b.order r.column).length, Stored.Fits (multiple spacing.gap i) then
        (.ok ⟨r.targets.map Prod.fst, true⟩,
          (b.reposition r.targets now).renumbered r.column spacing.gap now)
      else (.error .integerOverflow, b) := by
  unfold ending
  rw [if_neg hd, hstray]
  exact if_neg hspacious

/-- The ways in which a batch can end. -/
theorem ending_cases (r : BatchRequest) (spacing : Spacing) (now : Timestamp) (b : Board) :
    (b.column? r.column = none ∧
      r.ending spacing now b = (.error (.columnNotFound (.int r.column)), b)) ∨
    (b.column? r.column ≠ none ∧ ∃ id, r.stray? b = some id ∧
      r.ending spacing now b = (.error (.taskNotFound id), b)) ∨
    (b.column? r.column ≠ none ∧ r.stray? b = none ∧
      (r.ending spacing now b = (.error .integerOverflow, b) ∨
        ∃ rebalanced, r.ending spacing now b = (.ok ⟨r.targets.map Prod.fst, rebalanced⟩,
          if rebalanced then (b.reposition r.targets now).renumbered r.column spacing.gap now
          else b.reposition r.targets now))) := by
  by_cases hd : b.column? r.column = none
  · exact .inl ⟨hd, ending_of_column_none hd⟩
  · cases hstray : r.stray? b with
    | some id => exact .inr (.inl ⟨hd, id, rfl, ending_of_stray hd hstray⟩)
    | none =>
      refine .inr (.inr ⟨hd, rfl, ?_⟩)
      by_cases hspacious : r.Spacious b spacing.threshold
      · exact .inr ⟨false, ending_of_spacious hd hstray hspacious⟩
      · rw [ending_of_tight hd hstray hspacious]
        split
        · exact .inr ⟨true, rfl⟩
        · exact .inl rfl

/-- A batch ends with a missing column exactly when its column is missing. -/
theorem ending_eq_columnNotFound_iff (r : BatchRequest) (spacing : Spacing) (now : Timestamp)
    (b : Board) :
    (∃ key, (r.ending spacing now b).1 = .error (.columnNotFound key)) ↔
      b.column? r.column = none := by
  rcases r.ending_cases spacing now b with ⟨hd, h⟩ | ⟨hd, id, -, h⟩ |
    ⟨hd, -, h | ⟨rebalanced, h⟩⟩
  · simp [h, hd]
  · simp [h, hd]
  · simp [h, hd]
  · simp [h, hd]

/-- A batch ends with a missing task exactly when its column is there and the task is the first one
listed that is not in it. -/
theorem ending_eq_taskNotFound_iff (r : BatchRequest) (spacing : Spacing) (now : Timestamp)
    (b : Board) (id : Int) :
    (r.ending spacing now b).1 = .error (.taskNotFound id) ↔
      b.column? r.column ≠ none ∧ r.stray? b = some id := by
  rcases r.ending_cases spacing now b with ⟨hd, h⟩ | ⟨hd, id', hstray, h⟩ |
    ⟨hd, hstray, h | ⟨rebalanced, h⟩⟩
  · simp [h, hd]
  · simp [h, hd, hstray]
  · simp [h, hstray]
  · simp [h, hstray]

/-- A batch that ends with an error leaves the board alone. -/
theorem ending_of_error {f : Failure} (hf : (r.ending spacing now b).1 = .error f) :
    (r.ending spacing now b).2 = b := by
  rcases r.ending_cases spacing now b with ⟨-, h⟩ | ⟨-, id, -, h⟩ | ⟨-, -, h | ⟨rebalanced, h⟩⟩
  · rw [h]
  · rw [h]
  · rw [h]
  · rw [h] at hf
    cases hf

/-- Whatever a batch leads to, the columns and the order of every other column stay. -/
theorem frame_ending (r : BatchRequest) (spacing : Spacing) (now : Timestamp) (b : Board) :
    (∀ c ≠ r.column, (r.ending spacing now b).2.order c = b.order c) ∧
      (r.ending spacing now b).2.columns = b.columns := by
  rcases r.ending_cases spacing now b with ⟨-, h⟩ | ⟨-, id, -, h⟩ | ⟨-, hstray, h | ⟨rebalanced, h⟩⟩
  · simp [h]
  · simp [h]
  · simp [h]
  · rw [h]
    cases rebalanced with
    | false => exact ⟨fun c hc => order_reposition_of_ne hstray hc, rfl⟩
    | true =>
      refine ⟨fun c hc => ?_, rfl⟩
      exact (Board.order_renumbered_of_ne hc now).trans (order_reposition_of_ne hstray hc)

/-! ### Targets in another order -/

variable {r' : BatchRequest}

/-- The target of a task does not depend on the order of the targets. -/
theorem lookup_perm (hperm : r'.targets.Perm r.targets) (hnodup : (r.targets.map Prod.fst).Nodup)
    (id : Int) : r'.targets.lookup id = r.targets.lookup id := by
  apply Option.ext
  intro position
  have hnodup' : (r'.targets.map Prod.fst).Nodup := (hperm.map Prod.fst).nodup_iff.mpr hnodup
  rw [lookup_eq_some_iff_mem hnodup', lookup_eq_some_iff_mem hnodup]
  exact hperm.mem_iff

/-- Targets that name each task once can be written in any order. -/
theorem reposition_perm (hperm : r'.targets.Perm r.targets)
    (hnodup : (r.targets.map Prod.fst).Nodup) (b : Board) (now : Timestamp) :
    b.reposition r'.targets now = b.reposition r.targets now := by
  apply Board.ext
  · rfl
  · apply List.map_congr_left
    intro t _
    unfold Board.retarget
    rw [lookup_perm hperm hnodup]

/-- Whether a batch leaves the column spacious does not depend on the order of its targets. -/
theorem spacious_perm (hcolumn : r'.column = r.column) (hperm : r'.targets.Perm r.targets)
    (hnodup : (r.targets.map Prod.fst).Nodup) (b : Board) (distance : Int) :
    r'.Spacious b distance ↔ r.Spacious b distance := by
  unfold Spacious intended
  simp only [hcolumn, lookup_perm hperm hnodup]

theorem stray?_perm (hcolumn : r'.column = r.column) (hperm : r'.targets.Perm r.targets)
    (b : Board) : r'.stray? b = none ↔ r.stray? b = none := by
  have hmem := fun id => (hperm.map Prod.fst).mem_iff (a := id)
  rw [stray?_eq_none_iff, stray?_eq_none_iff]
  simp only [hcolumn, hmem]

/-- Targets in another order lead to the same board, and to the same answer but for the order of the
tasks in it. -/
theorem ending_perm (hcolumn : r'.column = r.column) (hperm : r'.targets.Perm r.targets)
    (hnodup : (r.targets.map Prod.fst).Nodup) (spacing : Spacing) (now : Timestamp) (b : Board) :
    (r'.ending spacing now b).2 = (r.ending spacing now b).2 ∧
      ∀ rebalanced,
        (r'.ending spacing now b).1 = .ok ⟨r'.targets.map Prod.fst, rebalanced⟩ ↔
          (r.ending spacing now b).1 = .ok ⟨r.targets.map Prod.fst, rebalanced⟩ := by
  by_cases hd : b.column? r.column = none
  · rw [ending_of_column_none hd, ending_of_column_none (hcolumn ▸ hd)]
    simp
  · have hd' : b.column? r'.column ≠ none := hcolumn ▸ hd
    cases hstray : r.stray? b with
    | some id =>
      -- the tasks that are told may be different ones, but neither list succeeds
      cases hstray' : r'.stray? b with
      | some id' =>
        rw [ending_of_stray hd hstray, ending_of_stray hd' hstray']
        simp
      | none => simp [(stray?_perm hcolumn hperm b).mp hstray'] at hstray
    | none =>
      -- the same targets are written, and the same column is watched
      have hstray' := (stray?_perm hcolumn hperm b).mpr hstray
      have hspacious := spacious_perm hcolumn hperm hnodup b spacing.threshold
      by_cases htight : r.Spacious b spacing.threshold
      · rw [ending_of_spacious hd hstray htight,
          ending_of_spacious hd' hstray' (hspacious.mpr htight), reposition_perm hperm hnodup]
        simp
      · rw [ending_of_tight hd hstray htight, ending_of_tight hd' hstray' (mt hspacious.mp htight),
          reposition_perm hperm hnodup, hcolumn]
        split
        · simp
        · simp

end BatchRequest

/-! ## Batches on a working database -/

variable {b : Board} {spacing : Spacing} {now : Timestamp}

/-- A column can be renumbered just when its multiples fit. A multiple at which a task stands already
is not written, but then it fits. -/
theorem allStorable_misplaced_iff (hb : b.IntegersFit) {column gap : Int} :
    Store.AllStorable b (Store.misplaced (b.order column) gap) ↔
      ∀ i < (b.order column).length, Stored.Fits (multiple gap i) := by
  have hids := b.nodup_ids_order column
  constructor
  · intro hstorable i hi
    have ht := (Board.mem_order.mp (List.getElem_mem hi)).1
    by_cases hposition : (b.order column)[i].position = multiple gap i
    -- a task that stands there already shows that the multiple fits
    · rw [← hposition]
      exact hb.positions _ ht
    -- any other task is one of the misplaced, with this multiple as its target
    · have hlookup : (Store.misplaced (b.order column) gap).lookup (b.order column)[i].id = _ :=
        lookup_misplaced hids (List.getElem?_eq_getElem hi)
      rw [if_neg hposition] at hlookup
      exact (hstorable _ ht _ hlookup).2.resolve_left hposition
  · intro hfits t ht position hposition
    have hnodup := hids.sublist (misplaced_ids_sublist _ gap)
    obtain ⟨i, s, hi, -, rfl, -⟩ := mem_misplaced.mp ((lookup_eq_some_iff_mem hnodup).mp hposition)
    exact ⟨.inl rfl, .inr (hfits i (List.getElem?_eq_some_iff.mp hi).1)⟩

/-- A crowded column is renumbered when its multiples fit. -/
theorem renumberIfCrowded_of_crowded (now : Timestamp) (hb : b.IntegersFit) {column : Int}
    (hcolumn : Stored.Fits column)
    (hcrowded : Spacing.isCrowded (b.positions column) spacing.threshold = true) :
    renumberIfCrowded spacing column ⟨now, none⟩ b =
      if ∀ i < (b.order column).length, Stored.Fits (multiple spacing.gap i) then
        (.ok true, b.renumbered column spacing.gap now)
      else (.error .integerOverflow, b) := by
  have hrebalance := Store.rebalance_of_fits now spacing.gap hcolumn fun t ht =>
    (hb.keys t (Board.mem_order.mp ht).1).1
  -- the column is read once to see whether it is crowded, and once more to be renumbered
  rw [renumberIfCrowded, bind_of_ok (Store.order_of_fits hcolumn), ← Board.positions, if_pos hcrowded]
  by_cases hfits : ∀ i < (b.order column).length, Stored.Fits (multiple spacing.gap i)
  · rw [if_pos ((allStorable_misplaced_iff hb).mpr hfits)] at hrebalance
    have hrenumber : renumber column spacing.gap ⟨now, none⟩ b =
        (.ok (), b.renumbered column spacing.gap now) := by
      show (do let _ ← Store.rebalance column spacing.gap; pure () : Work Unit) ⟨now, none⟩ b = _
      rw [bind_of_ok hrebalance]
      rfl
    rw [if_pos hfits, bind_of_ok hrenumber]
    rfl
  · rw [if_neg fun h => hfits ((allStorable_misplaced_iff hb).mp h)] at hrebalance
    have hrenumber : renumber column spacing.gap ⟨now, none⟩ b = (.error .integerOverflow, b) := by
      show (do let _ ← Store.rebalance column spacing.gap; pure () : Work Unit) ⟨now, none⟩ b = _
      rw [bind_of_error hrebalance]
    rw [if_neg hfits, bind_of_error hrenumber]

variable {r : BatchRequest}

/-- The first task that is missing from the column is the one that is told. -/
theorem writePositions_of_stray (hcolumn : Stored.Fits r.column)
    (hids : ∀ id ∈ r.targets.map Prod.fst, Stored.Fits id) {id : Int} (hstray : r.stray? b = some id) :
    Store.writePositions r.column r.targets ⟨now, none⟩ b = (.error (.taskNotFound id), b) := by
  have hmissing : Store.firstMissing? b r.column r.targets = some id := by
    rw [← hstray, Store.firstMissing?, BatchRequest.stray?]
    congr 1
    funext i
    rw [Bool.eq_iff_iff]
    simp
  unfold Store.writePositions
  split
  · next hempty =>
    rw [BatchRequest.stray?, show r.targets = [] by simpa using hempty] at hstray
    cases hstray
  · apply bind_of_error
    rw [query_of_working, Stored.integer_of_fits hcolumn, Store.mapM_integer_of_fits hids]
    simp only [bind, Except.bind, hmissing]

/-- A board that can be stored can be stored after targets that fit are written. -/
theorem integersFit_reposition (hb : b.IntegersFit) {targets : List (Int × Int)}
    (hfits : ∀ target ∈ targets, Stored.Fits target.2) (hnodup : (targets.map Prod.fst).Nodup) :
    (b.reposition targets now).IntegersFit := by
  constructor
  · intro u hu
    obtain ⟨t, ht, rfl⟩ := List.mem_map.mp hu
    rw [Board.retarget_id, retarget_column]
    exact hb.keys t ht
  · intro u hu
    obtain ⟨t, ht, rfl⟩ := List.mem_map.mp hu
    rw [retarget_position]
    cases hlookup : targets.lookup t.id with
    | none => exact hb.positions t ht
    | some position => exact hfits _ ((lookup_eq_some_iff_mem hnodup).mp hlookup)

/-- On a working database a batch leads to what its intended positions say. -/
theorem batch_of_fits (hb : b.IntegersFit) (hcolumn : Stored.Fits r.column)
    (hids : ∀ id ∈ r.targets.map Prod.fst, Stored.Fits id)
    (hfits : ∀ target ∈ r.targets, Stored.Fits target.2)
    (hnodup : (r.targets.map Prod.fst).Nodup) (spacing : Spacing) (now : Timestamp) :
    batch spacing r ⟨now, none⟩ b = r.ending spacing now b := by
  have hfailed : ∀ {f : Failure} {b'}, placement spacing r ⟨now, none⟩ b = (.error f, b') →
      batch spacing r ⟨now, none⟩ b = (.error f.surfaced, b) := by
    intro f b' h
    exact transaction_eq_error.mpr ⟨⟨f, .inl ⟨b', h⟩, rfl⟩, rfl⟩
  -- in the order in which the specification asks: the column, a stray task, the room that is left,
  -- and then what fits
  unfold BatchRequest.ending
  cases hd : b.column? r.column with
  | none =>
    rw [if_pos rfl]
    apply hfailed (bind_of_error (Store.lockColumn_of_none hcolumn hd))
  | some d =>
    rw [if_neg (Option.some_ne_none d)]
    have hlock : placement spacing r ⟨now, none⟩ b = _ :=
      bind_of_ok (Store.lockColumn_of_some hcolumn hd)
    cases hstray : r.stray? b with
    | some id =>
      exact hfailed (hlock.trans (bind_of_error (writePositions_of_stray hcolumn hids hstray)))
    | none =>
      have hstorable : Store.AllStorable b r.targets := by
        intro t ht position hposition
        exact ⟨.inl rfl, .inr (hfits _ ((lookup_eq_some_iff_mem hnodup).mp hposition))⟩
      have hwrite := Store.writePositions_of_fits now hcolumn hids
        (BatchRequest.stray?_eq_none_iff.mp hstray)
      rw [if_pos hstorable] at hwrite
      -- from here on the targets are written, and only the watch over the column can go wrong
      have hplaced := hlock.trans (bind_of_ok hwrite)
      simp only
      by_cases hspacious : r.Spacious b spacing.threshold
      · have hcalm := (r.isCrowded_reposition b now spacing.threshold).mpr hspacious
        rw [if_pos hspacious]
        apply transaction_eq_ok.mpr ⟨hplaced.trans ?_, rfl⟩
        rw [bind_of_ok (renumberIfCrowded_of_calm hcolumn hcalm)]
        rfl
      · have hcrowded : Spacing.isCrowded ((b.reposition r.targets now).positions r.column)
            spacing.threshold = true := by
          apply Bool.eq_true_of_not_eq_false
          intro hcalm
          exact hspacious ((r.isCrowded_reposition b now spacing.threshold).mp hcalm)
        have hrenumber := renumberIfCrowded_of_crowded now
          (integersFit_reposition hb hfits hnodup) hcolumn hcrowded
        -- no task has left the column or come to it
        rw [r.length_order_reposition] at hrenumber
        rw [if_neg hspacious]
        by_cases hmultiples : ∀ i < (b.order r.column).length, Stored.Fits (multiple spacing.gap i)
        · rw [if_pos hmultiples] at hrenumber ⊢
          apply transaction_eq_ok.mpr ⟨hplaced.trans ?_, rfl⟩
          rw [bind_of_ok hrenumber]
          rfl
        · rw [if_neg hmultiples] at hrenumber ⊢
          exact hfailed (hplaced.trans (bind_of_error hrenumber))

end Operation

/-! ## Calls -/

namespace Call

open Operation Operation.BatchRequest

/-- An accepted call for a batch does what the batch leads to. -/
theorem perform_batch_of_fits {column : Json} {entries : List Json} {r : BatchRequest}
    (hr : BatchRequest.ofArguments column (.list entries) = .ok r) (hcolumn : Stored.Fits r.column)
    (hids : ∀ id ∈ r.targets.map Prod.fst, Stored.Fits id) {b : Board} (hb : b.IntegersFit)
    (spacing : Spacing) (code : String) (now : Timestamp) :
    (Call.batch column (.list entries)).perform spacing code ⟨now, none⟩ b =
      ((r.ending spacing now b).1.map Outcome.placed, (r.ending spacing now b).2) := by
  have hrequest : (Call.batch column (.list entries)).request = .ok (.batch r) := by
    rw [Call.request, hr]
    rfl
  obtain ⟨-, hlists⟩ := BatchRequest.lists_of_ofArguments hr
  rw [Call.perform_of_request hrequest, Request.perform_batch, map_apply,
    batch_of_fits hb hcolumn hids hlists.fits hlists.nodup]

/-- What an accepted batch does, on a working database and a board that can be stored. It works in the
column that it names, with the targets that it lists. A missing column is told before a listed task
that is not in it, and of several such tasks the first one is told. Otherwise the tasks of the column
end where they are intended to stand, if any two of them are a threshold apart there; and at the
multiples of the gap in that line if not, unless one of these does not fit. The answer lists the tasks
as they were listed. Listing them in another order changes that order in the answer, and nothing
else. -/
theorem batch_verdict {column : Json} {entries : List Json} {r : BatchRequest}
    (hr : BatchRequest.ofArguments column (.list entries) = .ok r) (hcolumn : Stored.Fits r.column)
    (hids : ∀ id ∈ r.targets.map Prod.fst, Stored.Fits id) {b : Board} (hb : b.IntegersFit)
    {spacing : Spacing} (hgap : 1 ≤ spacing.gap) (code : String) (now : Timestamp) :
    let ended := (Call.batch column (.list entries)).perform spacing code ⟨now, none⟩ b
    column = .int r.column ∧
    Lists (.list entries) r.targets ∧
    ((∃ key, ended.1 = .error (.columnNotFound key)) ↔ b.column? r.column = none) ∧
    (∀ id, ended.1 = .error (.taskNotFound id) ↔
      b.column? r.column ≠ none ∧ r.stray? b = some id) ∧
    (b.column? r.column ≠ none → r.stray? b = none →
      (r.Spacious b spacing.threshold →
        ended.1 = .ok (.placed ⟨r.targets.map Prod.fst, false⟩) ∧
        ended.2.order r.column = (r.lineup b).map fun t => t.put r.column (r.intended t) now) ∧
      (¬ r.Spacious b spacing.threshold →
        (∀ i < (b.order r.column).length, Stored.Fits (multiple spacing.gap i)) →
        ended.1 = .ok (.placed ⟨r.targets.map Prod.fst, true⟩) ∧
        ended.2.order r.column = (r.lineup b).mapIdx fun i t =>
          (t.put r.column (r.intended t) now).put r.column (multiple spacing.gap i) now) ∧
      (¬ r.Spacious b spacing.threshold →
        (∃ i < (b.order r.column).length, ¬ Stored.Fits (multiple spacing.gap i)) →
        ended.1 = .error .integerOverflow)) ∧
    (∀ f, ended.1 = .error f → ended.2 = b) ∧
    (∀ c ≠ r.column, ended.2.order c = b.order c) ∧ ended.2.columns = b.columns ∧
    ∀ entries' : List Json, entries'.Perm entries →
      ∃ r', BatchRequest.ofArguments column (.list entries') = .ok r' ∧
        r'.column = r.column ∧ r'.targets.Perm r.targets ∧
        let ended' := (Call.batch column (.list entries')).perform spacing code ⟨now, none⟩ b
        ended'.2 = ended.2 ∧
          ∀ rebalanced, ended'.1 = .ok (.placed ⟨r'.targets.map Prod.fst, rebalanced⟩) ↔
            ended.1 = .ok (.placed ⟨r.targets.map Prod.fst, rebalanced⟩) := by
  intro ended
  have hended : ended = ((r.ending spacing now b).1.map Outcome.placed, (r.ending spacing now b).2) :=
    perform_batch_of_fits hr hcolumn hids hb spacing code now
  obtain ⟨rfl, hlists⟩ := BatchRequest.lists_of_ofArguments hr
  have hnodup := hlists.nodup
  -- what remains is about the specification alone
  rw [hended]
  simp only [except_map_eq_error, except_map_eq_ok, Outcome.placed.injEq, exists_eq_right]
  obtain ⟨hothers, hcolumns⟩ := r.frame_ending spacing now b
  refine ⟨trivial, hlists, r.ending_eq_columnNotFound_iff spacing now b,
    r.ending_eq_taskNotFound_iff spacing now b, ?_, fun f => ending_of_error, hothers, hcolumns, ?_⟩
  · intro hd hstray
    refine ⟨fun hspacious => ?_, fun htight hfits => ?_, fun htight ⟨i, hi, hnot⟩ => ?_⟩
    · rw [ending_of_spacious hd hstray hspacious]
      exact ⟨rfl, r.order_reposition b now⟩
    · rw [ending_of_tight hd hstray htight, if_pos hfits]
      exact ⟨rfl, r.order_renumbered b now hgap⟩
    · rw [ending_of_tight hd hstray htight, if_neg fun hfits => hnot (hfits i hi)]
  · intro entries' hperm
    -- the other list is accepted with the same targets in its own order
    obtain ⟨targets, htargets', hr'⟩ := BatchRequest.ofArguments_perm hperm hr
    have hids' : ∀ id ∈ targets.map Prod.fst, Stored.Fits id := by
      intro id hid
      exact hids id ((htargets'.map Prod.fst).subset hid)
    refine ⟨_, hr', rfl, htargets', ?_⟩
    rw [perform_batch_of_fits hr' hcolumn hids' hb spacing code now]
    have hsame : (BatchRequest.mk r.column targets).column = r.column := rfl
    obtain ⟨hboard, hanswer⟩ := ending_perm hsame htargets' hnodup spacing now b
    refine ⟨hboard, ?_⟩
    intro rebalanced
    simp only [except_map_eq_ok, Outcome.placed.injEq, exists_eq_right]
    exact hanswer rebalanced

/-- A board whose second column has no room between any two tasks, while one task of the first column
stands apart. -/
def crampedBoard : Board :=
  { splitBoard with
    tasks := [(1, "a", 1, 7), (2, "b", 2, -1), (3, "c", 2, 0), (4, "d", 2, 0)].map
      fun (id, code, column, position) =>
        ⟨id, ⟨code, "", "", "", none, []⟩, column, position, ⟨0⟩, ⟨0⟩⟩
    taskIds_nodup := by decide
    taskCodes_nodup := by decide }

/-- The first and the last task of a tight column change places, which puts the first one where the
second one stands. -/
def tightSwap : List Json :=
  [(4, -1), (2, 0)].map fun (task, position) =>
    .object [("taskId", .int task), ("position", .int position)]

/-- The task of the first column is listed after one of the second column, and before one that there
is not. -/
def strayBatch : List Json :=
  [(3, 5), (1, 6), (9, 7)].map fun (task, position) =>
    .object [("taskId", .int task), ("position", .int position)]

theorem batch_verdict_tight :
    let perform (positions : List Json) :=
      (Call.batch (.int 2) (.list positions)).perform ⟨4, 2⟩ "" ⟨⟨0⟩, none⟩ crampedBoard
    ((perform tightSwap).1 = .ok (.placed ⟨[4, 2], true⟩) ∧
      (perform tightSwap).2.entries 2 = [(4, 0), (2, 4), (3, 8)] ∧
      (perform tightSwap).2.entries 1 = [(1, 7)]) ∧
    perform strayBatch = (.error (.taskNotFound 1), crampedBoard) := by
  intro perform
  -- the first task of the table is the only one of the other column
  have htasks : crampedBoard.order 2 = crampedBoard.tasks.tail := by cbv
  constructor
  · have hr : BatchRequest.ofArguments (.int 2) (.list tightSwap) = .ok ⟨2, [(4, -1), (2, 0)]⟩ := by
      decide
    obtain ⟨-, -, -, -, hplaced, -, hothers, -⟩ := batch_verdict hr (by decide) (by decide)
      (by decide : crampedBoard.IntegersFit) (by decide : 1 ≤ (⟨4, 2⟩ : Spacing).gap) "" ⟨0⟩
    have htight : ¬ (BatchRequest.mk 2 [(4, -1), (2, 0)]).Spacious crampedBoard 2 := by
      rw [BatchRequest.Spacious, htasks]
      decide
    have hfits : ∀ i < (crampedBoard.order 2).length, Stored.Fits (multiple 4 i) := by
      rw [htasks]
      decide
    have hstray : (BatchRequest.mk 2 [(4, -1), (2, 0)]).stray? crampedBoard = none := by
      rw [BatchRequest.stray?, htasks]
      decide
    obtain ⟨-, hrenumbered, -⟩ := hplaced (by decide) hstray
    obtain ⟨hanswer, horder⟩ := hrenumbered htight hfits
    refine ⟨hanswer, ?_, ?_⟩
    · rw [Board.entries, horder]
      cbv
    · rw [Board.entries, hothers 1 (by decide)]
      cbv
  · have hr : BatchRequest.ofArguments (.int 2) (.list strayBatch) =
        .ok ⟨2, [(3, 5), (1, 6), (9, 7)]⟩ := by decide
    obtain ⟨-, -, -, hstray, -, hunchanged, -⟩ := batch_verdict hr (by decide) (by decide)
      (by decide : crampedBoard.IntegersFit) (by decide : 1 ≤ (⟨4, 2⟩ : Spacing).gap) "" ⟨0⟩
    have hfirst : (BatchRequest.mk 2 [(3, 5), (1, 6), (9, 7)]).stray? crampedBoard = some 1 := by
      rw [BatchRequest.stray?, htasks]
      decide
    have hfailed := (hstray 1).mpr ⟨by decide, hfirst⟩
    exact Prod.ext hfailed (hunchanged _ hfailed)

end Call

end Kanban
