import Kanban.Proofs.Fitting

/-!
# Work that does not overflow

Work overflows when an integer is handed to the database that does not fit its field
(`Failure.integerOverflow`). For each operation that reckons positions, this module says which integers
must fit so that it does not, whatever else goes wrong with it: the ids that it looks for, the position
at which its task lands, and the multiples to which its column may be renumbered (`Board.Roomy`).
-/

namespace Kanban

namespace Work

variable {α β : Type} {c : Conditions} {b : Board}

/-- Under the given conditions, a piece of work on a board does not overflow. It may fail in any other
way. -/
def NoOverflow (w : Work α) (c : Conditions) (b : Board) : Prop :=
  (w c b).1 ≠ .error .integerOverflow

theorem failsOnly_ne_overflow_iff {w : Work α} :
    w.FailsOnly (fun f => f ≠ .integerOverflow) c b ↔ w.NoOverflow c b := by
  simp only [FailsOnly, NoOverflow]
  constructor
  · intro h hoverflow
    exact h _ hoverflow rfl
  · rintro h f hf rfl
    exact h hf

namespace NoOverflow

theorem pure (a : α) : (pure a : Work α).NoOverflow c b :=
  failsOnly_ne_overflow_iff.mp (.pure a)

theorem fail {e : Failure} (he : e ≠ .integerOverflow) : (fail e : Work α).NoOverflow c b :=
  failsOnly_ne_overflow_iff.mp (.fail he)

theorem ofExcept {r : Except Failure α} (hr : r ≠ .error .integerOverflow) :
    (ofExcept r).NoOverflow c b := hr

/-- Work in two parts does not overflow if neither part does, where the second one is looked at only
on a board that the first one leaves. -/
theorem bind {w : Work α} {f : α → Work β} (hw : w.NoOverflow c b)
    (hf : ∀ a b₁, w c b = (.ok a, b₁) → (f a).NoOverflow (w.after c b) b₁) : (w >>= f).NoOverflow c b :=
  failsOnly_ne_overflow_iff.mp <| (failsOnly_ne_overflow_iff.mpr hw).bind fun a b₁ h =>
    failsOnly_ne_overflow_iff.mpr (hf a b₁ h)

theorem map {w : Work α} {f : α → β} (hw : w.NoOverflow c b) : (f <$> w).NoOverflow c b :=
  failsOnly_ne_overflow_iff.mp (failsOnly_ne_overflow_iff.mpr hw).map

theorem guard (access : Access) : (guard access).NoOverflow c b :=
  failsOnly_ne_overflow_iff.mp (.guard access fun _ _ => by simp)

/-- Asking for rows does not overflow unless what is asked for does not fit. -/
theorem query {f : Board → Except Failure α} (hf : f b ≠ .error .integerOverflow) :
    (query f).NoOverflow c b := by
  refine failsOnly_ne_overflow_iff.mp (.query (fun _ _ => by simp) ?_)
  rintro e he rfl
  exact hf he

/-- Changing rows does not overflow unless what is changed does not fit. -/
theorem flush {f : Timestamp → Board → Except Failure (α × Board)}
    (hf : f c.now b ≠ .error .integerOverflow) : (flush f).NoOverflow c b := by
  refine failsOnly_ne_overflow_iff.mp (.flush (fun _ _ => by simp) ?_)
  rintro e he rfl
  exact hf he

/-- A unit of work does not overflow when its work does not. -/
theorem transaction {w : Work α} (hw : w.NoOverflow c b) : (transaction w).NoOverflow c b := by
  intro h
  obtain ⟨⟨e, hfails, he⟩, -⟩ := transaction_eq_error.mp (Prod.ext h rfl)
  -- what the database says is hidden behind another failure, and it is never an overflow
  rcases hfails with ⟨b₁, hwork⟩ | ⟨a, b₁, refusal, -, -, rfl⟩
  · cases e with
    | integerOverflow => exact hw (congrArg Prod.fst hwork)
    | _ => cases he
  · cases he

end NoOverflow

end Work

open Work

/-! ## The store -/

namespace Store

variable {c : Conditions} {b : Board}

theorem noOverflow_lockColumn {id : Int} (h : Stored.Fits id) : (lockColumn id).NoOverflow c b := by
  apply NoOverflow.query
  rw [columnIn, Stored.integer_of_fits h]
  simp only [bind, Except.bind]
  split <;> simp

/-- Looking a task up does not overflow if its id fits. -/
theorem noOverflow_task? {id : Int} (h : Stored.Fits id) : (task? id).NoOverflow c b := by
  apply NoOverflow.query
  rw [Stored.integer_of_fits h]
  simp [Except.map]

theorem noOverflow_task {id : Int} (h : Stored.Fits id) : (task id).NoOverflow c b := by
  refine (noOverflow_task? h).bind fun found b₁ _ => ?_
  cases found with
  | none => exact NoOverflow.fail (by simp)
  | some t => exact NoOverflow.pure t

theorem noOverflow_order {column : Int} (h : Stored.Fits column) :
    (order column).NoOverflow c b := by
  apply NoOverflow.query
  rw [Stored.integer_of_fits h]
  simp [Except.map]

theorem noOverflow_orderWithout {column id : Int} (h : Stored.Fits column) (hid : Stored.Fits id) :
    (orderWithout column id).NoOverflow c b := by
  apply NoOverflow.query
  rw [Stored.integer_of_fits h, Stored.integer_of_fits hid]
  simp [bind, Except.bind]

/-- A draft whose fields do not overflow is put into a column. -/
theorem noOverflow_addTask {d : Draft} {column position : Int} (hcolumn : Stored.Fits column)
    (hposition : Stored.Fits position)
    (htexts : ∀ value ∈ [d.title, d.description, d.priority, d.assignee],
      Stored.text? value ≠ .error .integerOverflow) :
    (addTask d column position).NoOverflow c b := by
  refine failsOnly_ne_overflow_iff.mp (failsOnly_addTask (fun _ => by simp) ?_ ?_)
  · have hfits : ∀ n ∈ [column, position], Stored.Fits n := by simp [hcolumn, hposition]
    intro n hn f hf
    rw [Stored.integer_of_fits (hfits n hn)] at hf
    cases hf
  · rintro value hvalue f hf rfl
    exact htexts value hvalue hf

theorem noOverflow_removeTask (id : Int) : (removeTask id).NoOverflow c b :=
  NoOverflow.flush (by simp)

theorem noOverflow_writePosition {id column position : Int} (hcolumn : Stored.Fits column)
    (hposition : Stored.Fits position) : (writePosition id column position).NoOverflow c b := by
  apply NoOverflow.flush
  split
  · simp
  · next t _ =>
    have hstorable : Storable t column position := ⟨.inr hcolumn, .inr hposition⟩
    simp [hstorable]

/-- Writing targets does not overflow if all of them fit, whichever of them there are. -/
theorem noOverflow_writePositions {column : Int} {targets : List (Int × Int)}
    (hcolumn : Stored.Fits column)
    (htargets : ∀ target ∈ targets, Stored.Fits target.1 ∧ Stored.Fits target.2) :
    (writePositions column targets).NoOverflow c b := by
  have hids : ∀ id ∈ targets.map Prod.fst, Stored.Fits id := by
    intro id hid
    obtain ⟨target, htarget, rfl⟩ := List.mem_map.mp hid
    exact (htargets target htarget).1
  unfold writePositions
  split
  · exact NoOverflow.pure _
  -- the query binds the column and the ids, the flush binds the positions
  · refine NoOverflow.bind (NoOverflow.query ?_) fun _ b₁ _ => NoOverflow.flush ?_
    · rw [Stored.integer_of_fits hcolumn, mapM_integer_of_fits hids]
      simp only [bind, Except.bind]
      split <;> simp
    · have hstorable : AllStorable b₁ targets := by
        intro t _ position hposition
        obtain ⟨l₁, l₂, rfl, -⟩ := List.lookup_eq_some_iff.mp hposition
        exact ⟨.inl rfl, .inr (htargets (t.id, position) (by simp)).2⟩
      simp [hstorable]

end Store

/-! ## Roomy boards -/

theorem Board.length_order_le (b : Board) (column : Int) :
    (b.order column).length ≤ b.tasks.length := by
  rw [order, List.length_mergeSort]
  exact List.length_filter_le ..

/-- The ids on a board fit, and so do the multiples to which its columns may be renumbered. -/
structure Board.Roomy (gap : Int) (b : Board) : Prop where
  keys : b.KeysFit
  multiples : ∀ i < b.tasks.length, Stored.Fits (multiple gap i)

namespace Board.Roomy

variable {gap : Int} {b : Board} {column : Int} {now : Timestamp}

/-- There is room after a renumbering: it moves no task to another column and adds none. -/
theorem renumbered (h : b.Roomy gap) : (b.renumbered column gap now).Roomy gap :=
  ⟨h.keys.renumbered gap, by simpa [Board.renumbered] using h.multiples⟩

/-- There is room after a task is put into a column that fits. -/
theorem putTask (h : b.Roomy gap) (hcolumn : Stored.Fits column) {id position : Int} :
    (b.putTask id column position now).Roomy gap :=
  ⟨h.keys.putTask hcolumn, by simpa using h.multiples⟩

/-- A column of a roomy board is renumbered to multiples that fit. -/
theorem fits_misplaced (h : b.Roomy gap) (column : Int) :
    ∀ target ∈ Store.misplaced (b.order column) gap,
      Stored.Fits target.1 ∧ Stored.Fits target.2 := by
  intro target htarget
  obtain ⟨i, t, hi, hid, hposition, -⟩ := mem_misplaced.mp htarget
  obtain ⟨hlt, rfl⟩ := List.getElem?_eq_some_iff.mp hi
  have hlength := b.length_order_le column
  rw [← hid, hposition]
  exact ⟨(h.keys _ (mem_order.mp (List.getElem_mem hlt)).1).1, h.multiples i (by omega)⟩

end Board.Roomy

/-! ## The operations -/

namespace Operation

variable {spacing : Spacing} {c : Conditions} {b : Board}

/-- Renumbering a column does not overflow on a board with room. -/
theorem noOverflow_renumber {column gap : Int} (hb : b.Roomy gap) (hcolumn : Stored.Fits column) :
    (renumber column gap).NoOverflow c b := by
  refine (NoOverflow.guard .rebalance).bind fun _ b₁ h => ?_
  obtain ⟨-, rfl⟩ := guard_eq_ok.mp h
  refine NoOverflow.bind ?_ fun _ _ _ => NoOverflow.pure ()
  refine (Store.noOverflow_order hcolumn).bind fun ordered b₂ h => ?_
  obtain ⟨rfl, rfl⟩ := Store.order_eq_ok h
  exact (Store.noOverflow_writePositions hcolumn (hb.fits_misplaced column)).bind fun _ _ _ =>
    NoOverflow.pure _

theorem noOverflow_renumberIfCrowded {column : Int} (hb : b.Roomy spacing.gap)
    (hcolumn : Stored.Fits column) : (renumberIfCrowded spacing column).NoOverflow c b := by
  refine (Store.noOverflow_order hcolumn).bind fun ordered b₁ h => ?_
  obtain ⟨-, rfl⟩ := Store.order_eq_ok h
  split
  · exact (noOverflow_renumber hb hcolumn).bind fun _ _ _ => NoOverflow.pure true
  · exact NoOverflow.pure false

theorem noOverflow_besideIn {column task : Int} (hcolumn : Stored.Fits column)
    (htask : Stored.Fits task) (reference : Int) (after : Bool) (gap : Int) :
    (besideIn column task reference after gap).NoOverflow c b :=
  (Store.noOverflow_orderWithout hcolumn htask).bind fun _ _ _ => NoOverflow.pure _

/-- Making room next to a reference does not overflow on a board with room. The position that is
found there is not yet written. -/
theorem noOverflow_beside {column task gap : Int} (hb : b.Roomy gap) (hcolumn : Stored.Fits column)
    (htask : Stored.Fits task) (reference : Int) (after : Bool) :
    (beside column task reference after gap).NoOverflow c b := by
  refine (noOverflow_besideIn hcolumn htask reference after gap).bind fun place b₁ h => ?_
  obtain ⟨-, rfl⟩ := besideIn_eq_ok h
  split
  · exact NoOverflow.pure _
  · exact NoOverflow.pure _
  · refine (noOverflow_renumber hb hcolumn).bind fun _ b₂ _ => ?_
    refine (noOverflow_besideIn hcolumn htask reference after gap).bind fun place b₃ _ => ?_
    split
    · exact NoOverflow.pure _
    · exact NoOverflow.pure _
    · exact NoOverflow.fail (by simp)

/-- Finding the place of a task does not overflow on a board with room, even where the place itself
does not fit. -/
theorem noOverflow_landing {column : Int} {r : MoveRequest} (hb : b.Roomy spacing.gap)
    (hcolumn : Stored.Fits column) (htask : Stored.Fits r.task) :
    (landing spacing column r).NoOverflow c b := by
  unfold landing
  split
  · exact NoOverflow.pure _
  · refine NoOverflow.bind ?_ fun _ _ _ => NoOverflow.pure _
    exact (Store.noOverflow_orderWithout hcolumn htask).bind fun _ _ _ => NoOverflow.pure _
  · refine (noOverflow_beside hb hcolumn htask _ r.after).bind fun place b₁ _ => ?_
    split
    · exact NoOverflow.pure _
    · exact NoOverflow.pure _
    · exact NoOverflow.fail (by simp)

theorem noOverflow_destination {t : Task} {r : MoveRequest}
    (href : ∀ reference ∈ r.reference, Stored.Fits reference) :
    (destination t r).NoOverflow c b := by
  unfold destination
  split
  · exact NoOverflow.pure _
  · exact NoOverflow.pure _
  · next reference _ hreference =>
    refine (Store.noOverflow_task? (href reference hreference)).bind fun found b₁ _ => ?_
    cases found with
    | none => exact NoOverflow.pure _
    | some u => exact NoOverflow.pure _

/-- Wherever a task lands, the board stays roomy. -/
theorem Lands.roomy {now : Timestamp} {column p : Int} {r : MoveRequest} {cleared : Bool}
    {b₁ : Board} (h : Lands spacing now b column r p cleared b₁) (hb : b.Roomy spacing.gap) :
    b₁.Roomy spacing.gap := by
  rcases h.board_eq with rfl | rfl
  · exact hb
  · exact hb.renumbered

/-- A move on a roomy board does not overflow when the ids that it looks for fit, and its task lands at
a position that fits. -/
theorem noOverflow_relocation {r : MoveRequest} (hb : b.Roomy spacing.gap)
    (htask : Stored.Fits r.task) (hcolumn : ∀ column ∈ r.column, Stored.Fits column)
    (href : ∀ reference ∈ r.reference, Stored.Fits reference)
    (hlands : ∀ {column p : Int} {cleared : Bool} {b₁ : Board},
      Lands spacing c.now b column r p cleared b₁ → Stored.Fits p) :
    (relocation spacing r).NoOverflow c b := by
  refine (Store.noOverflow_task htask).bind fun t b₁ h => ?_
  obtain ⟨ht, rfl⟩ := Store.task_eq_ok h
  have hfits := fits_destination hb.keys (Board.task?_eq_some_iff.mp ht).1 hcolumn
  refine (noOverflow_destination href).bind fun d b₂ h => ?_
  obtain ⟨rfl, rfl⟩ := destination_eq_ok h
  refine (Store.noOverflow_lockColumn hfits).bind fun column b₃ h => ?_
  obtain ⟨-, rfl⟩ := Store.lockColumn_eq_ok h
  refine (noOverflow_landing hb hfits htask).bind fun place b₄ h => ?_
  have hlanded := landing_eq_ok h
  refine (Store.noOverflow_writePosition hfits (hlands hlanded)).bind fun _ b₅ h => ?_
  obtain rfl := Store.writePosition_eq_ok h
  refine (noOverflow_renumberIfCrowded ((hlanded.roomy hb).putTask hfits) hfits).bind
    fun crowded b₆ _ => ?_
  exact (Store.noOverflow_task htask).bind fun _ _ _ => NoOverflow.pure _

/-- A value overflows a text field only when it is an integer that does not fit. -/
theorem text?_ne_overflow {value : Json} (h : ∀ n, value = .int n → Stored.Fits n) :
    Stored.text? value ≠ .error .integerOverflow := by
  rw [Stored.text?, ne_eq, except_map_eq_error]
  cases value with
  | int n => simp [Stored.bound?, Stored.integer_of_fits (h n rfl), Except.map]
  | float x => cases x <;> simp [Stored.bound?]
  | null | bool | text | illFormed | list | object => simp [Stored.bound?]

theorem descriptionText_ne_overflow (r : NewTask) :
    r.descriptionText ≠ .error .integerOverflow := by
  unfold NewTask.descriptionText
  split
  · simp
  · simp
  · split <;> simp

/-- A description is a string before it is stored. -/
theorem ne_int_of_descriptionText {r : NewTask} {description : Json}
    (h : r.descriptionText = .ok description) (n : Int) : description ≠ .int n := by
  unfold NewTask.descriptionText at h
  split at h
  · cases h
    simp
  · cases h
    simp
  · split at h
    · cases h
    · cases h
      simp

theorem tagList_ne_overflow (r : NewTask) : r.tagList ≠ .error .integerOverflow := by
  unfold NewTask.tagList
  split
  · simp
  · simp
  · simp
  · simp
  · split <;> simp

/-- A new task does not overflow when its column, the end of the column and what is written on it
fit. -/
theorem noOverflow_creation {code : String} {r : NewTask} (hcolumn : Stored.Fits r.column)
    (hposition : Stored.Fits (Position.atEnd (b.entries r.column) spacing.gap))
    (htitle : ∀ n, r.title ≠ .int n) (hpriority : ∀ n, r.priority = .int n → Stored.Fits n)
    (hassignee : ∀ n, r.assignee = .int n → Stored.Fits n) :
    (creation spacing code r).NoOverflow c b := by
  -- what is read binds the column alone; the rest is bound when the row is sent
  refine (Store.noOverflow_lockColumn hcolumn).bind fun column b₁ h => ?_
  obtain ⟨-, rfl⟩ := Store.lockColumn_eq_ok h
  refine (Store.noOverflow_order hcolumn).bind fun ordered b₂ h => ?_
  obtain ⟨rfl, rfl⟩ := Store.order_eq_ok h
  refine (NoOverflow.ofExcept (descriptionText_ne_overflow r)).bind fun description b₃ h => ?_
  obtain ⟨hdescription, rfl⟩ := ofExcept_eq_ok.mp h
  refine (NoOverflow.ofExcept (tagList_ne_overflow r)).bind fun tags b₄ h => ?_
  obtain ⟨-, rfl⟩ := ofExcept_eq_ok.mp h
  refine Store.noOverflow_addTask hcolumn hposition ?_
  simp only [List.forall_mem_cons, List.not_mem_nil, false_imp_iff, implies_true, and_true]
  refine ⟨text?_ne_overflow fun n hn => absurd hn (htitle n),
    text?_ne_overflow fun n hn => absurd hn (ne_int_of_descriptionText hdescription n),
    text?_ne_overflow fun n hn => ?_, text?_ne_overflow hassignee⟩
  split at hn
  · exact hpriority n hn
  · cases hn

theorem noOverflow_deletion {task : Int} (h : Stored.Fits task) :
    (deletion task).NoOverflow c b :=
  (Store.noOverflow_task h).bind fun t _ _ => Store.noOverflow_removeTask t.id

end Operation

end Kanban
