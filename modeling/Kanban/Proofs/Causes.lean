import Kanban.Proofs.Headroom

/-!
# How operations can fail

Whatever the conditions are, an operation with checked arguments fails for a few reasons only. The
store refuses something (`Failure.OfStore`), and a move may besides be without its reference or without
room, the latter only when the gap is less than two (`Failure.OfMove`).
-/

namespace Kanban

open Work

/-! ## Reasons -/

/-- A failure of the store: the database refuses something, an integer does not fit, or a row is
missing. -/
def Failure.OfStore : Failure → Prop
  | .database _ | .integerOverflow | .columnNotFound _ | .taskNotFound _ => True
  | _ => False

/-- A failure of a move under a gap. -/
def Failure.OfMove (gap : Int) : Failure → Prop
  | .referenceNotFound _ => True
  | .gapExhausted .. => gap < 2
  | f => f.OfStore

/-- A move fails in the ways of the store, and in ways of its own. -/
theorem Failure.ofMove_of_ofStore {gap : Int} (f : Failure) (h : f.OfStore) : f.OfMove gap := by
  cases f with
  | database | integerOverflow | columnNotFound | taskNotFound => trivial
  | _ => cases h

/-! ## The store -/

theorem Stored.ofStore_integer {n : Int} {f : Failure} (h : Stored.integer n = .error f) :
    f.OfStore := by
  unfold Stored.integer at h
  split at h
  · cases h
  · cases h
    trivial

/-- A computation in two parts fails as the store does if both parts do. -/
theorem ofStore_bind {α β : Type} {x : Except Failure α} {g : α → Except Failure β} {f : Failure}
    (h : x >>= g = .error f) (hx : ∀ f, x = .error f → f.OfStore)
    (hg : ∀ a f, x = .ok a → g a = .error f → f.OfStore) : f.OfStore := by
  rcases except_bind_eq_error.mp h with hfirst | ⟨a, hfirst, hrest⟩
  · exact hx f hfirst
  · exact hg a f hfirst hrest

namespace Store

variable {c : Conditions} {b : Board}

theorem ofStore_lockColumn (id : Int) : (lockColumn id).FailsOnly Failure.OfStore c b := by
  refine .query (fun _ _ => trivial) fun f hf => ?_
  refine ofStore_bind hf (fun f => Stored.ofStore_integer) fun n f _ hf => ?_
  split at hf
  · cases hf
  · cases hf
    trivial

theorem ofStore_task? (id : Int) : (task? id).FailsOnly Failure.OfStore c b := by
  refine .query (fun _ _ => trivial) fun f hf => ?_
  exact Stored.ofStore_integer (except_map_eq_error.mp hf)

/-- A missing task, an id that does not fit and a refused question are failures of the store. -/
theorem ofStore_task (id : Int) : (task id).FailsOnly Failure.OfStore c b := by
  refine (ofStore_task? id).bind fun found b₁ _ => ?_
  cases found with
  | none => exact .fail trivial
  | some t => exact .pure t

theorem ofStore_order (column : Int) : (order column).FailsOnly Failure.OfStore c b := by
  refine .query (fun _ _ => trivial) fun f hf => ?_
  exact Stored.ofStore_integer (except_map_eq_error.mp hf)

theorem ofStore_orderWithout (column task : Int) :
    (orderWithout column task).FailsOnly Failure.OfStore c b := by
  refine .query (fun _ _ => trivial) fun f hf => ?_
  refine ofStore_bind hf (fun f => Stored.ofStore_integer) fun n f _ hf => ?_
  refine ofStore_bind hf (fun f => Stored.ofStore_integer) fun m f _ hf => ?_
  cases hf

theorem ofStore_removeTask (id : Int) : (removeTask id).FailsOnly Failure.OfStore c b :=
  .flush (fun _ _ => trivial) fun f hf => by cases hf

theorem ofStore_writePosition (id column position : Int) :
    (writePosition id column position).FailsOnly Failure.OfStore c b := by
  refine .flush (fun _ _ => trivial) fun f hf => ?_
  split at hf
  · cases hf
    trivial
  · split at hf
    · cases hf
    · cases hf
      trivial

theorem ofStore_mapM_integer {ids : List Int} {f : Failure}
    (h : ids.mapM Stored.integer = .error f) : f.OfStore := by
  induction ids generalizing f with
  | nil => cases h
  | cons id rest ih =>
    rw [List.mapM_cons] at h
    refine ofStore_bind h (fun f => Stored.ofStore_integer) fun n f _ h => ?_
    refine ofStore_bind h (fun f => ih) fun m f _ h => ?_
    cases h

/-- A batch of targets fails at a missing task, at an integer that does not fit, or because the
database refuses it. -/
theorem ofStore_writePositions (column : Int) (targets : List (Int × Int)) :
    (writePositions column targets).FailsOnly Failure.OfStore c b := by
  unfold writePositions
  split
  · exact .pure _
  -- both accesses fail for causes of the store: the query on an id it lacks, the flush on a number
  · refine .bind (.query (fun _ _ => trivial) fun f hf => ?_) fun _ b₁ _ =>
      .flush (fun _ _ => trivial) fun f hf => ?_
    · refine ofStore_bind hf (fun f => Stored.ofStore_integer) fun n f _ hf => ?_
      refine ofStore_bind hf (fun f => ofStore_mapM_integer) fun ids f _ hf => ?_
      split at hf
      · cases hf
        trivial
      · cases hf
    · split at hf
      · cases hf
      · cases hf
        trivial

/-- A draft that can be stored is stored, or an integer does not fit. -/
theorem ofStore_addTask {d : Draft} (hd : d.Writable) (column position : Int) :
    (addTask d column position).FailsOnly Failure.OfStore c b := by
  obtain ⟨⟨title, htitle⟩, ⟨description, hdescription⟩, ⟨priority, hpriority⟩, assignee,
    hassignee⟩ := hd
  refine failsOnly_addTask (fun _ => trivial) (fun n _ f => Stored.ofStore_integer) ?_
  simp [htitle, hdescription, hpriority, hassignee]

theorem ofStore_rebalance (column gap : Int) :
    (rebalance column gap).FailsOnly Failure.OfStore c b :=
  (ofStore_order column).bind fun _ _ _ =>
    (ofStore_writePositions column _).bind fun _ _ _ => .pure _

end Store

/-! ## The operations -/

namespace Operation

variable {c : Conditions} {b : Board} {spacing : Spacing}

theorem ofStore_renumber (column gap : Int) :
    (renumber column gap).FailsOnly Failure.OfStore c b :=
  (FailsOnly.guard .rebalance fun _ _ => trivial).bind fun _ _ _ =>
    (Store.ofStore_rebalance column gap).bind fun _ _ _ => .pure _

/-- Watching a column fails as the store does: being crowded is no failure. -/
theorem ofStore_renumberIfCrowded (column : Int) :
    (renumberIfCrowded spacing column).FailsOnly Failure.OfStore c b := by
  refine (Store.ofStore_order column).bind fun ordered b₁ _ => ?_
  split
  · exact (ofStore_renumber column spacing.gap).bind fun _ _ _ => .pure _
  · exact .pure _

/-- A place that is full is a result and no failure, so that room can be made. -/
theorem ofStore_besideIn (column task reference : Int) (after : Bool) (gap : Int) :
    (besideIn column task reference after gap).FailsOnly Failure.OfStore c b :=
  (Store.ofStore_orderWithout column task).bind fun _ _ _ => .pure _

/-- The room next to a task is exhausted for good only when the gap is too small to make any. -/
theorem ofMove_beside (column task reference : Int) (after : Bool) (gap : Int) :
    (beside column task reference after gap).FailsOnly (Failure.OfMove gap) c b := by
  have hbesideIn : ∀ c b, (besideIn column task reference after gap).FailsOnly
      (Failure.OfMove gap) c b := fun c b =>
    (ofStore_besideIn column task reference after gap).mono Failure.ofMove_of_ofStore
  refine (hbesideIn c b).bind fun place b₁ _ => ?_
  split
  · exact .pure _
  · exact .pure _
  · refine .bind ((ofStore_renumber column gap).mono Failure.ofMove_of_ofStore)
      fun _ b₂ hrenumber => ?_
    refine (hbesideIn _ b₂).bind fun place b₃ hsecond => ?_
    obtain rfl := renumber_eq_ok hrenumber
    obtain ⟨hplace, -⟩ := besideIn_eq_ok hsecond
    split
    · exact .pure _
    · exact .pure _
    · refine .fail ?_
      -- a gap of two or more would have made room everywhere in the renumbered column
      show gap < 2
      by_contra hgap
      exact absurd hplace.symm (place_renumbered_ne_exhausted (by omega))

/-- A place next to a reference fails in the ways of a move; the place at the end and the explicit
one as the store does. -/
theorem ofMove_landing (column : Int) (r : MoveRequest) :
    (landing spacing column r).FailsOnly (Failure.OfMove spacing.gap) c b := by
  unfold landing
  split
  · exact .pure _
  · refine .bind ?_ fun _ _ _ => .pure _
    refine .mono ?_ Failure.ofMove_of_ofStore
    exact (Store.ofStore_orderWithout column r.task).bind fun _ _ _ => .pure _
  · refine (ofMove_beside column r.task _ r.after spacing.gap).bind fun place b₁ _ => ?_
    split
    · exact .pure _
    · exact .pure _
    · exact .fail trivial

theorem ofStore_destination (t : Task) (r : MoveRequest) :
    (destination t r).FailsOnly Failure.OfStore c b := by
  unfold destination
  split
  · exact .pure _
  · exact .pure _
  · refine (Store.ofStore_task? _).bind fun found b₁ _ => ?_
    cases found with
    | none => exact .pure _
    | some u => exact .pure _

theorem ofMove_relocation (r : MoveRequest) :
    (relocation spacing r).FailsOnly (Failure.OfMove spacing.gap) c b :=
  .bind ((Store.ofStore_task r.task).mono Failure.ofMove_of_ofStore) fun t _ _ =>
    .bind ((ofStore_destination t r).mono Failure.ofMove_of_ofStore) fun column _ _ =>
    .bind ((Store.ofStore_lockColumn column).mono Failure.ofMove_of_ofStore) fun _ _ _ =>
    (ofMove_landing column r).bind fun place _ _ =>
    .bind ((Store.ofStore_writePosition r.task column place.1).mono Failure.ofMove_of_ofStore)
      fun _ _ _ =>
    .bind ((ofStore_renumberIfCrowded column).mono Failure.ofMove_of_ofStore) fun _ _ _ =>
    .bind ((Store.ofStore_task r.task).mono Failure.ofMove_of_ofStore) fun _ _ _ => .pure _

theorem ofStore_placement (r : BatchRequest) :
    (placement spacing r).FailsOnly Failure.OfStore c b :=
  (Store.ofStore_lockColumn r.column).bind fun _ _ _ =>
    (Store.ofStore_writePositions r.column r.targets).bind fun _ _ _ =>
    (ofStore_renumberIfCrowded r.column).bind fun _ _ _ => .pure _

theorem ofStore_deletion (task : Int) : (deletion task).FailsOnly Failure.OfStore c b :=
  (Store.ofStore_task task).bind fun t _ _ => Store.ofStore_removeTask t.id

/-- A task that can be written is refused by the store alone. -/
theorem ofStore_creation {code : String} {r : NewTask} (hr : r.Writable) :
    (creation spacing code r).FailsOnly Failure.OfStore c b := by
  obtain ⟨description, tags, hdescription, htags, hdraft⟩ := hr
  refine (Store.ofStore_lockColumn r.column).bind fun _ _ _ =>
    (Store.ofStore_order r.column).bind fun ordered _ _ => ?_
  refine (FailsOnly.ofExcept fun f hf => ?_).bind fun description' b₁ hd => ?_
  · rw [hdescription] at hf
    cases hf
  refine (FailsOnly.ofExcept fun f hf => ?_).bind fun tags' b₂ ht => ?_
  · rw [htags] at hf
    cases hf
  obtain ⟨hd, -⟩ := ofExcept_eq_ok.mp hd
  obtain rfl : description = description' := Except.ok.inj (hdescription.symm.trans hd)
  exact Store.ofStore_addTask (d := ⟨code, _, _, _, _, _⟩) hdraft r.column _

end Operation

end Kanban
