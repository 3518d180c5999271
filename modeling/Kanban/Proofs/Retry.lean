import Kanban.Proofs.Confinement
import Kanban.Proofs.Fitting
import Kanban.Proofs.Refinement

/-!
# Calls that are made again

A client that has not seen the answer to its call makes the call again. Where the first call was
not told of a renumbering, the second one finds everything in place: it gives the same answer and
writes nothing (`relocation_again`, `placement_again`). Where a column was renumbered after the move,
the task may be moved a second time, to another position on the same side of its reference, and then
the second call succeeds as well and no lineup changes (`relocation_again_lineup`).
-/

namespace Kanban

open Work

/-! ## Edits that change nothing -/

namespace Board

theorem mapTasks_of_fixed {b : Board} {f : Task → Task} {hid : ∀ t, (f t).id = t.id}
    {hcode : ∀ t, (f t).code = t.code} (hf : ∀ t ∈ b.tasks, f t = t) :
    b.mapTasks f hid hcode = b := by
  ext1
  · rfl
  · exact (List.map_congr_left hf).trans (List.map_id b.tasks)

/-- A task that is put where it stands changes nothing. -/
theorem putTask_of_settled {b : Board} {id : Int} {t : Task} (ht : b.task? id = some t)
    (now : Timestamp) : b.putTask id t.column t.position now = b := by
  obtain ⟨hmem, rfl⟩ := task?_eq_some_iff.mp ht
  apply mapTasks_of_fixed
  intro s hs
  split
  · next hid =>
    obtain rfl := eq_of_id_eq hs hmem hid
    exact if_pos ⟨rfl, rfl⟩
  · rfl

/-- Tasks that are put at targets at which they stand change nothing. -/
theorem reposition_of_settled {b : Board} {targets : List (Int × Int)}
    (h : ∀ t ∈ b.tasks, ∀ position ∈ targets.lookup t.id, t.position = position)
    (now : Timestamp) : b.reposition targets now = b := by
  apply mapTasks_of_fixed
  intro t ht
  unfold retarget
  split
  · next position hlookup => exact if_pos ⟨rfl, h t ht position hlookup⟩
  · rfl

/-- Where a task was put does not show among the entries without it. -/
theorem entriesWithout_putTask (b : Board) (id column position : Int) (now : Timestamp) (c : Int) :
    (b.putTask id column position now).entriesWithout c id = b.entriesWithout c id := by
  unfold entriesWithout
  congr 1
  apply eq_of_pairwise_before (pairwise_before_orderWithout _ c id)
    (pairwise_before_orderWithout b c id)
  intro t
  rw [mem_orderWithout, mem_orderWithout, mem_tasks_putTask]
  constructor
  · rintro ⟨⟨ht, -⟩ | ⟨s, -, hid, rfl⟩, hc, hne⟩
    · exact ⟨ht, hc, hne⟩
    · exact absurd ((Task.put_id ..).trans hid) hne
  · rintro ⟨ht, hc, hne⟩
    exact ⟨.inl ⟨ht, hne⟩, hc, hne⟩

end Board

/-! ## Moves whose task stands where it lands -/

namespace Operation

variable {spacing : Spacing} {now : Timestamp} {c : Conditions} {b b₁ b' : Board} {r : MoveRequest}

theorem Lands.of_atEnd {column p : Int} (href : r.reference = none) (hpos : r.position = none)
    (hp : p = Position.atEnd (b.entriesWithout column r.task) spacing.gap) :
    Lands spacing now b column r p false b :=
  hp ▸ .last href hpos

/-- A task that has landed lands in the same place again, and needs no room there. -/
theorem Lands.again {column p : Int} {cleared : Bool}
    (h : Lands spacing now b column r p cleared b₁) (later : Timestamp) :
    Lands spacing later (b₁.putTask r.task column p now) column r p false
      (b₁.putTask r.task column p now) := by
  have hsame := b₁.entriesWithout_putTask r.task column p now column
  cases h with
  | explicit href hpos => exact .explicit href hpos
  | last href hpos => exact .of_atEnd href hpos (by rw [hsame])
  | beside href hplace => exact .beside href (hsame ▸ hplace)
  | fallback href hmissing hpos => exact .fallback href (hsame ▸ hmissing) hpos
  | cleared href hfull hplace => exact .beside href (hsame ▸ hplace)

/-- A working database finds where a task lands when there is room. -/
theorem landing_of_lands {column p : Int} (hcolumn : Stored.Fits column)
    (htask : Stored.Fits r.task) (h : Lands spacing now b column r p false b₁) :
    landing spacing column r ⟨now, none⟩ b = (.ok (p, false), b₁) := by
  obtain ⟨task, column', reference, after, position⟩ := r
  have hbeside (key : Int) : besideIn column task key after spacing.gap ⟨now, none⟩ b =
      (.ok (Position.place (b.entriesWithout column task) (some key) after spacing.gap), b) :=
    besideIn_of_fits hcolumn htask key after
  -- room was not made, so the task lands in one of the four other ways
  cases h with
  | explicit href hpos =>
    obtain ⟨rfl, rfl⟩ := And.intro href hpos
    rfl
  | last href hpos =>
    obtain ⟨rfl, rfl⟩ := And.intro href hpos
    exact bind_of_ok (bind_of_ok (Store.orderWithout_of_fits hcolumn htask))
  | @beside key _ href hplace =>
    obtain rfl := href
    have hfound : beside column task key after spacing.gap ⟨now, none⟩ b =
        (.ok (some (p, false)), b) := by
      refine (bind_of_ok (hbeside _)).trans ?_
      rw [hplace]
      rfl
    exact bind_of_ok hfound
  | @fallback key _ href hmissing hpos =>
    obtain ⟨rfl, rfl⟩ := And.intro href hpos
    have hfound : beside column task key after spacing.gap ⟨now, none⟩ b = (.ok none, b) := by
      refine (bind_of_ok (hbeside _)).trans ?_
      rw [Position.place_eq_missing_iff.mpr ⟨rfl, hmissing⟩]
      rfl
    exact bind_of_ok hfound

theorem destination_of_sought_fits {t : Task}
    (href : r.column = none → ∀ reference ∈ r.reference, Stored.Fits reference) :
    destination t r ⟨now, none⟩ b = (.ok (b.destination t r), b) := by
  cases hcolumn : r.column with
  | some column =>
    unfold destination Board.destination
    rw [hcolumn]
    rfl
  | none => exact destination_of_fits (href hcolumn)

/-- A column that is not crowded is left alone. -/
theorem renumberIfCrowded_of_calm {column : Int} (hcolumn : Stored.Fits column)
    (hcalm : Spacing.isCrowded (b.positions column) spacing.threshold = false) :
    renumberIfCrowded spacing column ⟨now, none⟩ b = (.ok false, b) := by
  refine (bind_of_ok (Store.order_of_fits hcolumn)).trans ?_
  rw [← Board.positions, if_neg (Bool.eq_false_iff.mp hcalm)]
  rfl

/-- A move whose task stands where it lands, in a column that is not crowded, succeeds without
writing. -/
theorem relocation_of_settled {t : Task} {d : Column} (htask : Stored.Fits r.task)
    (hfits : Stored.Fits t.column)
    (href : r.column = none → ∀ reference ∈ r.reference, Stored.Fits reference)
    (ht : b.task? r.task = some t) (hcolumn : b.destination t r = t.column)
    (hd : b.column? t.column = some d)
    (hlands : Lands spacing now b t.column r t.position false b)
    (hcalm : Spacing.isCrowded (b.positions t.column) spacing.threshold = false) :
    relocation spacing r ⟨now, none⟩ b = (.ok ⟨t, false⟩, b) := by
  have hwrite : Store.writePosition r.task t.column t.position ⟨now, none⟩ b =
      (.ok (t.put t.column t.position now), b) := by
    rw [Store.writePosition_of_some ht, if_pos ⟨.inl rfl, .inl rfl⟩, Board.putTask_of_settled ht]
  unfold relocation
  rw [bind_of_ok (Store.task_of_some htask ht), bind_of_ok (destination_of_sought_fits href),
    hcolumn, bind_of_ok (Store.lockColumn_of_some hfits hd),
    bind_of_ok (landing_of_lands hfits htask hlands)]
  simp only
  rw [bind_of_ok hwrite, bind_of_ok (renumberIfCrowded_of_calm hfits hcalm),
    bind_of_ok (Store.task_of_some htask ht)]
  rfl

/-! ## The same move again -/

/-- A move puts no task but its own into another column. -/
theorem column_of_confined {m : Moved} (h : (Request.move r).Confined b b' (.moved m)) {id : Int}
    (hid : id ≠ r.task) : (b'.task? id).map Task.column = (b.task? id).map Task.column := by
  obtain ⟨t, -, -, hrows⟩ := h
  have hrow := hrows id
  cases hs : b.task? id with
  | none =>
    rw [hs] at hrow
    -- there was no such task, so there is none
    generalize b'.task? id = found at hrow
    cases hrow
    rfl
  | some s =>
    rw [hs] at hrow
    -- the row may have been written by a renumbering, which leaves its column
    generalize b'.task? id = found at hrow
    cases hrow with
    | some hrow =>
      rw [if_neg (fun heq => hid ((Board.task?_eq_some_iff.mp hs).2.symm.trans heq))] at hrow
      split at hrow
      · exact congrArg some (Task.shifted_iff.mp hrow).2.2.1
      · rw [hrow]

/-- A moved task stands in its destination, and the same request would leave it there. -/
theorem destination_again {m : Moved} {t : Task} (hsound : r.reference ≠ some r.task)
    (h : (Request.move r).Confined b b' (.moved m)) (ht : b.task? r.task = some t) :
    b'.task? r.task = some m.task ∧ m.task.column = b.destination t r ∧
      b'.destination m.task r = m.task.column := by
  obtain ⟨t', ht', hm, hrows⟩ := h
  obtain rfl : t = t' := Option.some.inj (ht.symm.trans ht')
  -- the row of the moved task tells its column
  have hcolumn : m.task.column = b.destination t r := by
    have hrow := hrows r.task
    rw [ht, hm, Option.rel_some_some, if_pos (Board.task?_eq_some_iff.mp ht).2] at hrow
    exact (Task.movedTo_iff.mp hrow).2.2.1
  refine ⟨hm, hcolumn, ?_⟩
  obtain ⟨task, column, reference, after, position⟩ := r
  cases column with
  | some column => exact hcolumn.symm
  | none =>
    cases reference with
    | none => rfl
    | some reference =>
      have hne : reference ≠ task := fun heq => hsound (congrArg some heq)
      -- the reference stands where it stood, so it leads to the same column
      have hsame := column_of_confined ⟨t, ht, hm, hrows⟩ hne
      simp only [Board.destination] at hcolumn ⊢
      rw [hsame]
      cases hu : b.task? reference with
      | none => rfl
      | some u => rw [hcolumn, hu]; rfl

/-- The same move again gives the same answer and writes nothing, unless the column was renumbered
after the first one. -/
theorem relocation_again {m : Moved} (hsound : r.reference ≠ some r.task)
    (h : relocation spacing r c b = (.ok m, b')) (later : Timestamp) :
    relocation spacing r ⟨later, none⟩ b' = (.ok ⟨m.task, false⟩, b') ∨
      (m.rebalanced = true ∧
        ∃ b₁ : Board, b' = b₁.renumbered m.task.column spacing.gap c.now) := by
  obtain ⟨hcolumns, hconfined⟩ := confined_of_relocation h
  obtain ⟨t, p, cleared, b₁, ht, ⟨d, hd⟩, hlands, hb', -, hrebalanced⟩ := relocation_eq_ok h
  obtain ⟨hm, hcolumn, hdestination⟩ := destination_again hsound hconfined ht
  obtain ⟨htask, hfits, href⟩ := fits_of_relocation h ht
  rw [← hcolumn] at hd hlands hb' hrebalanced hfits
  -- after a renumbering by the watch there is nothing to show here; without one, the board is the
  -- one on which the task landed
  cases hcrowded : Spacing.isCrowded
      ((b₁.putTask r.task m.task.column p c.now).positions m.task.column) spacing.threshold with
  | true =>
    right
    rw [hb', Board.eased, if_pos hcrowded]
    exact ⟨by simp [hrebalanced, hcrowded], _, rfl⟩
  | false =>
    left
    obtain rfl : b' = b₁.putTask r.task m.task.column p c.now := by
      rw [hb', Board.eased, if_neg (Bool.eq_false_iff.mp hcrowded)]
    -- the place where the task landed is the one that it tells
    have hposition : p = m.task.position := by
      rw [Board.putTask, Board.task?_mapTasks] at hm
      obtain ⟨s, hs, hput⟩ := Option.map_eq_some_iff.mp hm
      rw [if_pos (Board.task?_eq_some_iff.mp hs).2] at hput
      rw [← hput, Task.put_position]
    -- where the task stands does not matter to where it lands
    have hagain := hlands.again later
    have hd' : (b₁.putTask r.task m.task.column p c.now).column? m.task.column = some d := by
      rw [Board.column?, hcolumns]
      exact hd
    exact relocation_of_settled htask hfits href hm hdestination hd' (hposition ▸ hagain) hcrowded

/-- The same batch again gives the same answer and writes nothing, unless its column was renumbered
after the first one. -/
theorem placement_again {r : BatchRequest} {placed : Placed}
    (h : placement spacing r c b = (.ok placed, b')) (hquiet : placed.rebalanced = false)
    (later : Timestamp) : placement spacing r ⟨later, none⟩ b' = (.ok placed, b') := by
  obtain ⟨⟨d, hd⟩, hnamed, hb', rfl⟩ := placement_eq_ok h
  obtain ⟨hfits, hids⟩ := fits_of_placement h
  simp only at hquiet
  obtain rfl : b' = b.reposition r.targets c.now := by
    rw [hb', Board.eased, if_neg (Bool.eq_false_iff.mp hquiet)]
  -- every listed task stands at its target now
  have hsettled : ∀ t ∈ (b.reposition r.targets c.now).tasks,
      ∀ position ∈ r.targets.lookup t.id, t.position = position := by
    intro t ht position hposition
    obtain ⟨s, -, rfl⟩ := List.mem_map.mp ht
    rw [Board.retarget_id] at hposition
    rw [retarget_position, Option.mem_def.mp hposition, Option.getD_some]
  have hstorable : Store.AllStorable (b.reposition r.targets c.now) r.targets :=
    fun t ht position hposition => ⟨.inl rfl, .inl (hsettled t ht position hposition)⟩
  have hnamed' : ∀ id ∈ r.targets.map Prod.fst,
      ∃ t ∈ (b.reposition r.targets c.now).order r.column, t.id = id := by
    intro id hid
    obtain ⟨t, ht, rfl⟩ := hnamed id hid
    obtain ⟨ht, hcolumn⟩ := Board.mem_order.mp ht
    exact ⟨_, Board.mem_order.mpr ⟨List.mem_map_of_mem ht, by rw [retarget_column, hcolumn]⟩,
      Board.retarget_id ..⟩
  have hwrite := Store.writePositions_of_fits later hfits hids hnamed'
  rw [if_pos hstorable, Board.reposition_of_settled hsettled] at hwrite
  have hd' : (b.reposition r.targets c.now).column? r.column = some d := hd
  unfold placement
  rw [bind_of_ok (Store.lockColumn_of_some hfits hd'), bind_of_ok hwrite,
    bind_of_ok (renumberIfCrowded_of_calm hfits hquiet)]
  simp [hquiet]

end Operation

/-! ## The same change again -/

namespace Lineup

theorem without_set {l : Lineup} {task column : Int} {ids : List Int}
    (h : (ids.filter fun id => id ≠ task) = l.without task column) :
    ((l.without task).set column ids).without task = l.without task := by
  funext c
  by_cases hc : c = column
  · subst hc
    simpa [without, set] using h
  · simp [without, set, Function.update_of_ne hc]

end Lineup

/-- An id that is put next to another one and taken out again leaves the list as it was. -/
theorem filter_insertBeside {id reference : Int} {after : Bool} {l : List Int} (h : id ∉ l) :
    ((insertBeside id reference after l).filter fun n => n ≠ id) = l := by
  induction l with
  | nil => rfl
  | cons n rest ih =>
    rw [List.mem_cons, not_or] at h
    have hn : n ≠ id := Ne.symm h.1
    unfold insertBeside
    split
    · have hrest : ∀ m ∈ rest, m ≠ id := fun m hm heq => h.2 (heq ▸ hm)
      cases after <;> simpa [hn] using hrest
    · rw [List.filter_cons, ih h.2, if_pos (decide_eq_true hn)]

/-- Moving a task next to a reference, or to the end, takes nothing else out of its place. -/
theorem Change.without_apply {task column : Int} {x : Change}
    (hx : x = .last task column ∨ ∃ reference after, x = .beside task column reference after)
    (l : Lineup) : (x.apply l).without task = l.without task := by
  have hmem : task ∉ l.without task column := by simp [Lineup.without]
  rcases hx with rfl | ⟨reference, after, rfl⟩
  · exact Lineup.without_set (by simp [Lineup.without])
  · exact Lineup.without_set (filter_insertBeside hmem)

/-- A task that is moved next to a reference, or to the end, is there already when it is moved
again. -/
theorem Change.apply_apply {task column : Int} {x : Change}
    (hx : x = .last task column ∨ ∃ reference after, x = .beside task column reference after)
    (l : Lineup) : x.apply (x.apply l) = x.apply l := by
  have hsame := Change.without_apply hx l
  rcases hx with rfl | ⟨reference, after, rfl⟩
  · rw [apply, hsame, apply]
  · rw [apply, hsame, apply]

/-! ## Where a task stands that was moved -/

namespace Board

variable {b : Board} {column gap : Int} {t : Task}

/-- Tasks of a column stand in the order in which the lineup lists them. -/
theorem before_of_lineup {s : Task} (hs : s ∈ b.order column) (ht : t ∈ b.order column)
    {l₁ l₂ : List Int} (h : b.lineup column = l₁ ++ s.id :: l₂) (hmem : t.id ∈ l₂) :
    s.Before t := by
  obtain ⟨m₁, m, hm, -, hrest⟩ := List.map_eq_append_iff.mp h
  obtain ⟨s', m₂, rfl, hs', rfl⟩ := List.map_eq_cons_iff.mp hrest
  obtain ⟨t', ht', htid⟩ := List.mem_map.mp hmem
  have hsorted := b.pairwise_before_order column
  have hmem' : ∀ u ∈ s' :: m₂, u ∈ b.tasks := fun u hu =>
    (mem_order.mp (hm ▸ List.mem_append_right m₁ hu)).1
  rw [hm] at hsorted
  obtain rfl := eq_of_id_eq (hmem' s' List.mem_cons_self) (mem_order.mp hs).1 hs'
  obtain rfl := eq_of_id_eq (hmem' t' (List.mem_cons_of_mem _ ht')) (mem_order.mp ht).1 htid
  exact (List.pairwise_cons.mp (List.pairwise_append.mp hsorted).2.1).1 t' ht'

/-- The last task of a line stands behind all others. -/
theorem before_of_lineup_last (ht : t ∈ b.order column) {ids : List Int}
    (h : b.lineup column = ids ++ [t.id]) : ∀ s ∈ b.orderWithout column t.id, s.Before t := by
  intro s hs
  obtain ⟨hs, hc, hne⟩ := mem_orderWithout.mp hs
  have hmem : s.id ∈ ids := by
    have hlineup : s.id ∈ b.lineup column := mem_lineup.mpr ⟨s, hs, rfl, hc⟩
    simpa [h, hne] using hlineup
  obtain ⟨l₁, l₂, rfl⟩ := List.append_of_mem hmem
  have hcut : b.lineup column = l₁ ++ s.id :: (l₂ ++ [t.id]) := by simp [h]
  exact before_of_lineup (mem_order.mpr ⟨hs, hc⟩) ht hcut (by simp)

/-- A task that a line shows next to another one stands on that side of it. -/
theorem before_of_lineup_beside {u : Task} (ht : t ∈ b.order column) (hu : u ∈ b.order column)
    {after : Bool} {ids : List Int} (hmem : u.id ∈ ids)
    (h : b.lineup column = insertBeside t.id u.id after ids) :
    if after then u.Before t else t.Before u := by
  obtain ⟨l₁, l₂, rfl, hl₁⟩ := List.eq_append_cons_of_mem hmem
  rw [insertBeside_append hl₁] at h
  cases after with
  | true => exact before_of_lineup hu ht h (by simp)
  | false => exact before_of_lineup ht hu h (by simp)

/-- The lineup tells how many tasks a column has. -/
theorem length_order_of_lineup {b' : Board} (h : b'.lineup = b.lineup) (c : Int) :
    (b'.order c).length = (b.order c).length := by
  simpa [lineup] using congrArg List.length (congrFun h c)

/-- Where positions are a gap apart, a task is a gap beyond those before it. -/
theorem add_gap_le_of_before {s : Task}
    (hapart : (b.positions column).Pairwise (Spacing.Apart gap)) (hgap : 1 ≤ gap)
    (hs : s ∈ b.order column) (ht : t ∈ b.order column) (h : s.Before t) :
    s.position + gap ≤ t.position := by
  have hne : s.id ≠ t.id := fun heq =>
    h.ne (eq_of_id_eq (mem_order.mp hs).1 (mem_order.mp ht).1 heq)
  have hdistance := pairwise_positions_iff.mp hapart s hs t ht hne
  have := h.position_le
  unfold Spacing.Apart at hdistance
  omega

/-- The end of a column fits when its last task stands at least that far out. -/
theorem fits_atEnd_of_beyond (hb : b.IntegersFit) (ht : t ∈ b.tasks) (hgap : 1 ≤ gap)
    (h : ∀ s ∈ b.orderWithout column t.id, s.position + gap ≤ t.position) :
    Stored.Fits (Position.atEnd (b.entriesWithout column t.id) gap) := by
  refine Position.fits_atEnd fun e he => ?_
  obtain ⟨s, hs, rfl⟩ := List.mem_map.mp he
  refine Stored.fits_of_le_of_le (hb.positions s (mem_orderWithout.mp hs).1) (hb.positions t ht) ?_
    (h s hs)
  simp only [Task.entry]
  omega

/-- The place next to a reference fits when the task stands on that side of it, at least a gap
away. -/
theorem fits_place_of_beyond {u : Task} (hb : b.IntegersFit) (ht : t ∈ b.tasks) (hu : u ∈ b.tasks)
    (hgap : 1 ≤ gap) {after : Bool}
    (h : if after then u.position + gap ≤ t.position else t.position + gap ≤ u.position) {p : Int}
    (hplace : Position.place (b.entriesWithout column t.id) (some u.id) after gap = .ok p) :
    Stored.Fits p := by
  have hentry : ∀ e ∈ b.entriesWithout column t.id, ∃ s ∈ b.tasks, s.entry = e := by
    intro e he
    obtain ⟨s, hs, -, hentry⟩ := exists_of_mem_entriesWithout he
    exact ⟨s, (mem_order.mp hs).1, hentry⟩
  have hfits := hb.positions
  -- between two entries, or as far out as the task stood already
  rcases Position.place_reach (b.entriesWithout_ascending column t.id) hplace with
    ⟨e, he, f, hf, hep, hpf⟩ | ⟨q, hq, hside⟩
  · obtain ⟨s, hs, rfl⟩ := hentry e he
    obtain ⟨v, hv, rfl⟩ := hentry f hf
    exact Stored.fits_of_le_of_le (hfits s hs) (hfits v hv) hep hpf
  · obtain ⟨s, hs, hsq⟩ := hentry (u.id, q) hq
    obtain ⟨hid, rfl⟩ := Prod.mk.inj hsq
    obtain rfl := eq_of_id_eq hs hu hid
    rcases hside with ⟨hzero, hp⟩ | ⟨rfl, rfl⟩ | ⟨rfl, rfl⟩
    · exact Stored.fits_of_le_of_le (by decide) (hfits s hs) hzero hp
    · exact Stored.fits_of_le_of_le (hfits s hs) (hfits t ht) (by omega) h
    · simp only [Bool.false_eq_true, if_false] at h
      exact Stored.fits_of_le_of_le (hfits t ht) (hfits s hs) (by omega) (by omega)

end Board

namespace Operation

variable {spacing : Spacing} {now later : Timestamp} {c : Conditions} {b b₁ b' : Board}
  {r : MoveRequest}

/-! ## Moves next to a task of the column, or to its end -/

/-- The request names its place by a reference in the column, or by nothing, which is the end. -/
def MoveRequest.Guided (b : Board) (column : Int) (r : MoveRequest) : Prop :=
  match r.reference with
  | some reference => reference ∈ b.lineup column
  | none => r.position = none

theorem MoveRequest.Guided.change_eq {column : Int} (h : r.Guided b column) :
    r.change b column = .last r.task column ∨
      ∃ reference after, r.change b column = .beside r.task column reference after := by
  obtain ⟨task, column', reference, after, position⟩ := r
  cases reference with
  | none =>
    obtain rfl := h
    exact .inl rfl
  | some reference => exact .inr ⟨reference, after, if_pos h⟩

/-- A move that succeeds makes its change of the lineup. -/
theorem relocation_lineup {m : Moved} {t : Task} (hsound : r.reference ≠ some r.task)
    (hgap : 1 ≤ spacing.gap) (ht : b.task? r.task = some t)
    (h : relocation spacing r c b = (.ok m, b')) :
    b'.lineup = (r.change b (b.destination t r)).apply b.lineup := by
  have hwork : (Request.move r).work spacing "" c b = (.ok (.moved m), b') :=
    map_eq_ok.mpr ⟨m, h, rfl⟩
  rw [Request.lineup_eq (q := .move r) hsound hgap hwork, Request.change, ht]

/-- After a move the same request asks for the same change. -/
theorem MoveRequest.Guided.change_again {column : Int} (h : r.Guided b column)
    (hsound : r.reference ≠ some r.task)
    (hlineup : b'.lineup = (r.change b column).apply b.lineup) :
    r.Guided b' column ∧ r.change b' column = r.change b column := by
  have hsame := Change.without_apply h.change_eq b.lineup
  rw [← hlineup] at hsame
  obtain ⟨task, column', reference, after, position⟩ := r
  cases reference with
  | none =>
    obtain rfl : position = none := h
    exact ⟨rfl, rfl⟩
  | some reference =>
    -- the change moved only the task, so the reference is still in the column
    have hmem : reference ∈ b'.lineup column := by
      have hwithout : reference ∈ b.lineup.without task column :=
        List.mem_filter.mpr ⟨h, decide_eq_true fun heq => hsound (congrArg some heq)⟩
      rw [← hsame] at hwithout
      exact (List.mem_filter.mp hwithout).1
    refine ⟨hmem, ?_⟩
    unfold change
    simp only [if_pos hmem, if_pos (show reference ∈ b.lineup column from h)]

/-- Where a guided move has put a task into a renumbered column, the same move lands at a position
that fits. -/
theorem Lands.fits_again {column p : Int} {cleared : Bool} {t : Task} {l : Lineup}
    (h : Lands spacing later b column r p cleared b₁) (hb : b.IntegersFit) (hgap : 2 ≤ spacing.gap)
    (hapart : (b.positions column).Pairwise (Spacing.Apart spacing.gap))
    (ht : t ∈ b.order column) (hid : t.id = r.task) (hsound : r.reference ≠ some r.task)
    (hguided : r.Guided b column) (hlineup : b.lineup = (r.change b column).apply l) :
    Stored.Fits p := by
  have hmem := (Board.mem_order.mp ht).1
  have hcolumn := congrFun hlineup column
  unfold MoveRequest.Guided at hguided
  unfold MoveRequest.change at hcolumn
  cases h with
  | explicit href hpos => simp [href, hpos] at hguided
  | last href hpos =>
    rw [href, hpos, ← hid] at hcolumn
    simp only [Change.apply, Lineup.set, Function.update_self] at hcolumn
    -- the task stands last, with a gap before it, so the end of the others lies no farther out
    have hlast := Board.before_of_lineup_last ht hcolumn
    rw [← hid]
    refine Board.fits_atEnd_of_beyond hb hmem (by omega) fun s hs => ?_
    obtain ⟨hs', hc, -⟩ := Board.mem_orderWithout.mp hs
    exact Board.add_gap_le_of_before hapart (by omega) (Board.mem_order.mpr ⟨hs', hc⟩) ht (hlast s hs)
  | @beside reference _ href hplace =>
    simp only [href] at hguided hcolumn
    obtain ⟨u, hu, rfl, huc⟩ := Board.mem_lineup.mp hguided
    have hne : u.id ≠ t.id := fun heq => hsound (href.trans (congrArg some (heq.trans hid)))
    rw [if_pos hguided, ← hid] at hcolumn
    simp only [Change.apply, Lineup.set, Function.update_self] at hcolumn
    -- without the task, the line is the one into which it was put
    have hfilter : ((b.lineup column).filter fun n => n ≠ t.id) = l.without t.id column := by
      rw [hcolumn]
      exact filter_insertBeside (by simp [Lineup.without])
    -- so the task stands beyond its reference, with a gap between them
    have hbefore := Board.before_of_lineup_beside ht (Board.mem_order.mpr ⟨hu, huc⟩)
      (hfilter ▸ List.mem_filter.mpr ⟨hguided, decide_eq_true hne⟩) hcolumn
    rw [← hid] at hplace
    refine Board.fits_place_of_beyond hb hmem hu (by omega) ?_ hplace
    cases hside : r.after with
    | true =>
      rw [hside] at hbefore
      exact Board.add_gap_le_of_before hapart (by omega) (Board.mem_order.mpr ⟨hu, huc⟩) ht hbefore
    | false =>
      rw [hside] at hbefore
      exact Board.add_gap_le_of_before hapart (by omega) ht (Board.mem_order.mpr ⟨hu, huc⟩) hbefore
  | @fallback reference _ href hmissing =>
    simp only [href] at hguided
    have hne : reference ≠ r.task := fun heq => hsound (href.trans (congrArg some heq))
    exact absurd (Board.mem_ids_entriesWithout.mpr ⟨hne, Board.mem_lineup.mp hguided⟩) hmissing
  -- tasks a gap apart leave room
  | cleared href hfull =>
    exact absurd hfull (Board.place_ne_exhausted (hapart.imp fun h => h.mono hgap))

/-- The multiples to which a column was renumbered fit. -/
theorem fits_multiple {column gap : Int} (hb : (b.renumbered column gap now).IntegersFit)
    (hgap : 1 ≤ gap) {i : Nat} (hi : i < ((b.renumbered column gap now).order column).length) :
    Stored.Fits (multiple gap i) := by
  have hfits := hb.positions _ (Board.mem_order.mp (List.getElem_mem hi)).1
  simp only [Board.order_renumbered b column hgap] at hfits
  simpa using hfits

/-- A guided request is not stranded. -/
theorem MoveRequest.Guided.not_stranded {column : Int} (h : r.Guided b column) :
    ¬ r.Stranded b column := by
  rintro ⟨-, reference, href, hmissing⟩
  unfold Guided at h
  rw [href] at h
  obtain ⟨t, ht, hid, hc⟩ := Board.mem_lineup.mp h
  exact hmissing t ht hid hc

/-- The reference of a guided request is a task of the board. -/
theorem MoveRequest.Guided.fits_reference {column : Int} (h : r.Guided b column) (hb : b.KeysFit) :
    ∀ reference ∈ r.reference, Stored.Fits reference := by
  intro reference href
  unfold Guided at h
  rw [Option.mem_def.mp href] at h
  obtain ⟨t, ht, rfl, -⟩ := Board.mem_lineup.mp h
  exact (hb t ht).1

theorem destination_of_column {t : Task} {column : Int} (h : r.column = some column) :
    b.destination t r = column := by
  unfold Board.destination
  rw [h]

/-- In a renumbered column a guided move succeeds when its task stands already where the move puts
it. -/
theorem relocation_of_guided {t : Task} {d : Column} {l : Lineup} (hgap : 2 ≤ spacing.gap)
    (hrenumbered : b = b₁.renumbered t.column spacing.gap now) (hb : b.IntegersFit)
    (hsound : r.reference ≠ some r.task) (ht : b.task? r.task = some t)
    (hcolumn : b.destination t r = t.column) (hd : b.column? t.column = some d)
    (hguided : r.Guided b t.column) (hlineup : b.lineup = (r.change b t.column).apply l)
    (later : Timestamp) : ∃ m b', relocation spacing r ⟨later, none⟩ b = (.ok m, b') := by
  obtain ⟨hmem, hid⟩ := Board.task?_eq_some_iff.mp ht
  have hfits := hb.keys t hmem
  have hnamed : ∀ column ∈ r.column, Stored.Fits column := by
    intro column hcolumn'
    rw [← destination_of_column hcolumn', hcolumn]
    exact hfits.2
  have hapart : (b.positions t.column).Pairwise (Spacing.Apart spacing.gap) :=
    hrenumbered ▸ b₁.pairwise_positions_renumbered t.column (by omega) now
  have hroom : ∀ {reference lower upper : Int},
      Position.place (b.entriesWithout t.column r.task) (some reference) r.after spacing.gap ≠
        .error (.exhausted lower upper) :=
    Board.place_ne_exhausted (hapart.imp fun h => h.mono hgap)
  rcases relocation_of_fits later hgap hb.keys (hid ▸ hfits.1) hnamed
    (hguided.fits_reference hb.keys) hsound ht (hcolumn ▸ hd) with
    hok | ⟨hstranded, -⟩ | ⟨-, -, q, hq, hoverflow⟩
  · exact hok
  · exact absurd (hcolumn ▸ hstranded) hguided.not_stranded
  · -- everything that the move would have to write fits
    exfalso
    apply hoverflow
    rw [hcolumn] at hq
    cases hq with
    | clearing _ hfull => exact absurd hfull hroom
    | landing hlands =>
      exact hlands.fits_again hb hgap hapart (Board.mem_order.mpr ⟨hmem, rfl⟩) hid hsound hguided
        hlineup
    | easing hlands _ hq =>
      -- the column keeps its length, so it is renumbered to multiples that it has already
      have hagain : (r.change b t.column).apply b.lineup = b.lineup := by
        rw [hlineup, Change.apply_apply hguided.change_eq]
      have hlength := Board.length_order_of_lineup ((hlands.lineup_eq hmem hid (by omega) hsound).trans
        hagain) t.column
      obtain ⟨target, htarget, rfl⟩ := List.mem_map.mp hq
      obtain ⟨i, s, hi, -, hmultiple, -⟩ := mem_misplaced.mp htarget
      have hi' : i < (b.order t.column).length := hlength ▸ (List.getElem?_eq_some_iff.mp hi).1
      rw [hmultiple]
      subst hrenumbered
      exact fits_multiple hb (by omega) hi'

/-- A guided move that succeeds can be made again, and leaves every lineup as it was, whether its
column was renumbered or not. -/
theorem relocation_again_lineup {m : Moved} {t : Task} (hgap : 2 ≤ spacing.gap)
    (hb : b.IntegersFit) (hsound : r.reference ≠ some r.task) (ht : b.task? r.task = some t)
    (hguided : r.Guided b (b.destination t r)) (h : relocation spacing r c b = (.ok m, b'))
    (later : Timestamp) :
    ∃ m' b'', relocation spacing r ⟨later, none⟩ b' = (.ok m', b'') ∧ b''.lineup = b'.lineup := by
  obtain ⟨hcolumns, hconfined⟩ := confined_of_relocation h
  obtain ⟨t', -, -, -, ht', ⟨d, hd⟩, -⟩ := relocation_eq_ok h
  obtain rfl : t = t' := Option.some.inj (ht.symm.trans ht')
  obtain ⟨hm, hcolumn, hdestination⟩ := destination_again hsound hconfined ht
  have hlineup := relocation_lineup hsound (by omega) ht h
  obtain ⟨hguided', hchange⟩ := hguided.change_again hsound hlineup
  rw [← hcolumn] at hguided hguided' hlineup hchange
  have hd' : b'.column? m.task.column = some d := by
    rw [Board.column?, hcolumns, hcolumn]
    exact hd
  -- without a renumbering the board is settled; after one, the task may find another place, but in
  -- the same line
  rcases relocation_again hsound h later with hsame | ⟨-, B, hB⟩
  · exact ⟨_, _, hsame, rfl⟩
  · have hfit := preserves_relocation spacing r c b m b' h hb
    obtain ⟨m', b'', h'⟩ := relocation_of_guided hgap hB hfit hsound hm hdestination hd' hguided'
      (hchange ▸ hlineup) later
    refine ⟨m', b'', h', ?_⟩
    rw [relocation_lineup hsound (by omega) hm h', hdestination, hchange, hlineup,
      Change.apply_apply hguided.change_eq]

end Operation

/-! ## Calls -/

/-- What an outcome tells about renumbering, if its operation can renumber. -/
def Outcome.rebalanced? : Outcome → Option Bool
  | .moved m => some m.rebalanced
  | .placed p => some p.rebalanced
  | .created _ | .deleted => none

/-- An operation that succeeded without a renumbering can be repeated at any later time, with the
same answer and the same board. -/
theorem Operation.Request.perform_again {spacing : Spacing} {code : String} {q : Request}
    {c : Conditions} {b b' : Board} {o : Outcome} (hsound : q.Sound)
    (h : q.perform spacing code c b = (.ok o, b')) (hquiet : o.rebalanced? = some false)
    (later : Timestamp) : q.perform spacing code ⟨later, none⟩ b' = (.ok o, b') := by
  refine transaction_eq_ok.mpr ⟨?_, rfl⟩
  obtain ⟨hwork, -⟩ := transaction_eq_ok.mp h
  cases q with
  | create r =>
    obtain ⟨t, -, rfl⟩ := map_eq_ok.mp hwork
    -- a creation tells nothing about renumbering, and neither does a deletion
    cases hquiet
  | move r =>
    obtain ⟨⟨t, rebalanced⟩, hrelocation, rfl⟩ := map_eq_ok.mp hwork
    obtain rfl : rebalanced = false := Option.some.inj hquiet
    rcases relocation_again hsound hrelocation later with hagain | ⟨hloud, -⟩
    · exact map_eq_ok.mpr ⟨_, hagain, rfl⟩
    · cases hloud
  | batch r =>
    obtain ⟨placed, hplacement, rfl⟩ := map_eq_ok.mp hwork
    exact map_eq_ok.mpr ⟨placed, placement_again hplacement (Option.some.inj hquiet) later, rfl⟩
  | delete task =>
    obtain ⟨x, -, rfl⟩ := map_eq_ok.mp hwork
    cases hquiet

/-- A call that has succeeded can be made again at any later time. When the first call was not told
of a renumbering, the second one gives the same answer and leaves the whole board as it is. A move that
went next to a reference in its destination, or to the end, succeeds again in any case, and every lineup
is left as it is. -/
theorem retry_safe {spacing : Spacing} {code : String} {call : Call} {c : Conditions} {b b' : Board}
    {o : Outcome} (h : call.perform spacing code c b = (.ok o, b')) (later : Timestamp) :
    (o.rebalanced? = some false → call.perform spacing code ⟨later, none⟩ b' = (.ok o, b')) ∧
      (2 ≤ spacing.gap → b.IntegersFit → ∀ r t, call.request = .ok (.move r) →
        b.task? r.task = some t → r.Guided b (b.destination t r) →
        ∃ o' b'', call.perform spacing code ⟨later, none⟩ b' = (.ok o', b'') ∧
          b''.lineup = b'.lineup) := by
  cases hrequest : call.request with
  | error cause =>
    rw [Call.perform_of_refused hrequest] at h
    cases h
  | ok q =>
    have hsound := Call.sound_of_request hrequest
    rw [Call.perform_of_request hrequest] at h ⊢
    refine ⟨fun hquiet => q.perform_again hsound h hquiet later, ?_⟩
    rintro hgap hb r t ⟨⟩ ht hguided
    obtain ⟨m, hrelocation, -⟩ := map_eq_ok.mp (transaction_eq_ok.mp h).1
    obtain ⟨m', b'', hagain, hlineup⟩ :=
      Operation.relocation_again_lineup hgap hb hsound ht hguided hrelocation later
    exact ⟨.moved m', b'', transaction_eq_ok.mpr ⟨map_eq_ok.mpr ⟨m', hagain, rfl⟩, rfl⟩, hlineup⟩

/-- The last task of a tight column goes right before its first one. -/
def headMove : Call := .move (.int 3) .null (.int 1) (.bool false) .null

/-- The board after a number of such moves, one in each minute. -/
def afterHeadMoves : Nat → Board
  | 0 => tightBoard
  | n + 1 => (headMove.perform ⟨4, 2⟩ "" ⟨⟨60 * n⟩, none⟩ (afterHeadMoves n)).2

/-- The first move renumbers the column, and the second one moves the task once more, within the gap
before its reference. The third one changes nothing. -/
theorem retry_safe_head :
    (afterHeadMoves 1).entries 1 = [(3, 0), (1, 4), (2, 8)] ∧
      (afterHeadMoves 2).entries 1 = [(3, 2), (1, 4), (2, 8)] ∧
      (afterHeadMoves 2).lineup = (afterHeadMoves 1).lineup ∧
      afterHeadMoves 3 = afterHeadMoves 2 := by
  have hfirst : (headMove.perform ⟨4, 2⟩ "" ⟨⟨0⟩, none⟩ tightBoard).1 =
      .ok (.moved ⟨⟨3, ⟨"c", "", "", "", none, []⟩, 1, 0, ⟨0⟩, ⟨0⟩⟩, true⟩) := by cbv
  have hsecond : (headMove.perform ⟨4, 2⟩ "" ⟨⟨60⟩, none⟩ (afterHeadMoves 1)).1 =
      .ok (.moved ⟨⟨3, ⟨"c", "", "", "", none, []⟩, 1, 2, ⟨0⟩, ⟨60⟩⟩, false⟩) := by cbv
  have htask : tightBoard.task? 3 =
      some ⟨3, ⟨"c", "", "", "", none, []⟩, 1, 0, ⟨0⟩, ⟨0⟩⟩ := by decide
  have hguided : Operation.MoveRequest.Guided tightBoard 1 ⟨3, none, some 1, false, none⟩ :=
    Board.mem_lineup.mpr ⟨_, List.mem_cons_self, rfl, rfl⟩
  refine ⟨by cbv, by cbv, ?_, ?_⟩
  · obtain ⟨o', b'', hagain, hlineup⟩ := (retry_safe (Prod.ext hfirst rfl) ⟨60⟩).2 (by decide)
      (by decide) ⟨3, none, some 1, false, none⟩ _ (by decide) htask hguided
    exact (congrArg (fun ended => ended.2.lineup) hagain).trans hlineup
  · have hagain := congrArg Prod.snd ((retry_safe (Prod.ext hsecond rfl) ⟨120⟩).1 rfl)
    exact hagain

end Kanban
