import Kanban.Operation.Batch
import Kanban.Operation.Create
import Kanban.Operation.Delete
import Kanban.Operation.Move
import Kanban.Proofs.Landing
import Kanban.Proofs.Store

/-!
# What the operations have done

Each operation that succeeds is described by the board that it leaves, in terms of the edits of a
board alone (`creation_eq_ok`, `relocation_eq_ok`, `placement_eq_ok`, `deletion_eq_ok`). Where a moved
task lands is said by the rules of `Lands`.
-/

namespace Kanban

open Work

/-! ## Entries of a column -/

namespace Board

/-- The ids of the tasks of a column with their positions, in order. -/
def entries (b : Board) (column : Int) : List (Int × Int) := (b.order column).map Task.entry

def entriesWithout (b : Board) (column task : Int) : List (Int × Int) :=
  (b.orderWithout column task).map Task.entry

/-- The entries without a task are those of the column, less the one of that task. -/
theorem entriesWithout_eq (b : Board) (column task : Int) :
    b.entriesWithout column task = (b.entries column).filter fun e => e.1 ≠ task := by
  rw [entriesWithout, orderWithout_eq, entries, List.filter_map]
  rfl

/-- What stands in a column without a task is the entry of another task of the column. -/
theorem exists_of_mem_entriesWithout {b : Board} {column task : Int} {e : Int × Int}
    (he : e ∈ b.entriesWithout column task) : ∃ t ∈ b.order column, t.id ≠ task ∧ t.entry = e := by
  obtain ⟨t, ht, rfl⟩ := List.mem_map.mp he
  obtain ⟨ht, hc, hid⟩ := mem_orderWithout.mp ht
  exact ⟨t, mem_order.mpr ⟨ht, hc⟩, hid, rfl⟩

theorem ids_entriesWithout (b : Board) (column task : Int) :
    (b.entriesWithout column task).map Prod.fst = (b.orderWithout column task).map Task.id := by
  rw [entriesWithout, List.map_map]
  rfl

/-- The ids of a column without a task, in order. -/
theorem ids_entriesWithout_eq_filter (b : Board) (column task : Int) :
    (b.entriesWithout column task).map Prod.fst =
      ((b.order column).map Task.id).filter fun id => id ≠ task := by
  rw [ids_entriesWithout, orderWithout_eq, List.filter_map]
  rfl

theorem nodup_ids_entriesWithout (b : Board) (column task : Int) :
    ((b.entriesWithout column task).map Prod.fst).Nodup := by
  rw [ids_entriesWithout_eq_filter]
  exact (b.nodup_ids_order column).filter _

/-- Positions ascend along a column. -/
theorem entriesWithout_ascending (b : Board) (column task : Int) :
    (b.entriesWithout column task).Pairwise fun e f => e.2 ≤ f.2 :=
  List.pairwise_map.mpr ((b.pairwise_before_orderWithout column task).imp Task.Before.position_le)

theorem mem_ids_entriesWithout {b : Board} {column task id : Int} :
    id ∈ (b.entriesWithout column task).map Prod.fst ↔
      id ≠ task ∧ ∃ t ∈ b.tasks, t.id = id ∧ t.column = column := by
  rw [ids_entriesWithout, List.mem_map]
  constructor
  · rintro ⟨t, ht, rfl⟩
    obtain ⟨ht, hc, hid⟩ := mem_orderWithout.mp ht
    exact ⟨hid, t, ht, rfl, hc⟩
  · rintro ⟨hid, t, ht, rfl, hc⟩
    exact ⟨t, mem_orderWithout.mpr ⟨ht, hc, hid⟩, rfl⟩

/-- Renumbering a column leaves the ids in every column, with one task left out, as they are. -/
theorem mem_ids_entriesWithout_renumbered {b : Board} {column gap : Int} {now : Timestamp}
    {c task id : Int} :
    id ∈ ((b.renumbered column gap now).entriesWithout c task).map Prod.fst ↔
      id ∈ (b.entriesWithout c task).map Prod.fst := by
  simp [mem_ids_entriesWithout, renumbered]

/-- The end of a column is a gap beyond all its tasks. -/
theorem position_add_le_atEnd {b : Board} {column : Int} {t : Task} (h : t ∈ b.order column)
    (gap : Int) : t.position + gap ≤ Position.atEnd (b.entries column) gap :=
  Position.le_atEnd (List.mem_map_of_mem (f := Task.entry) h)

/-- The end of a column without a task is a gap beyond all others. -/
theorem position_add_le_atEnd_without {b : Board} {column task : Int} {t : Task}
    (h : t ∈ b.orderWithout column task) (gap : Int) :
    t.position + gap ≤ Position.atEnd (b.entriesWithout column task) gap :=
  Position.le_atEnd (List.mem_map_of_mem (f := Task.entry) h)

/-! ## Renumbering when it is needed -/

/-- The board after a column was renumbered, if it was crowded. -/
def eased (b : Board) (spacing : Spacing) (column : Int) (now : Timestamp) : Board :=
  if Spacing.isCrowded (b.positions column) spacing.threshold then
    b.renumbered column spacing.gap now
  else b

/-! ## Destinations -/

def destination (b : Board) (t : Task) (r : Operation.MoveRequest) : Int :=
  match r.column, r.reference with
  | some column, _ => column
  | none, none => t.column
  | none, some reference => ((b.task? reference).map Task.column).getD t.column

end Board

namespace Operation

variable {c : Conditions} {b b' : Board} {spacing : Spacing}

theorem readOnly_destination (t : Task) (r : MoveRequest) : (destination t r).ReadOnly := by
  unfold destination
  split
  · exact ReadOnly.pure _
  · exact ReadOnly.pure _
  · refine (Store.readOnly_task? _).bind fun found => ?_
    cases found with
    | none => exact ReadOnly.pure _
    | some u => exact ReadOnly.pure _

/-- The destination that is found is the one that the board gives, and finding it changes nothing.
-/
theorem destination_eq_ok {t : Task} {r : MoveRequest} {column : Int}
    (h : destination t r c b = (.ok column, b')) : column = b.destination t r ∧ b' = b := by
  obtain ⟨task, column', reference, after, position⟩ := r
  rcases column' with _ | column'
  · rcases reference with _ | reference
    · obtain ⟨rfl, rfl⟩ := pure_eq_ok.mp h
      exact ⟨rfl, rfl⟩
    · obtain ⟨found, b₁, hfound, hrest⟩ := bind_eq_ok.mp h
      obtain ⟨rfl, rfl⟩ := Store.task?_eq_ok hfound
      -- a reference that is nowhere leaves the task in its own column
      cases hu : b₁.task? reference with
      | none =>
        rw [hu] at hrest
        obtain ⟨rfl, rfl⟩ := pure_eq_ok.mp hrest
        simp [Board.destination, hu]
      | some u =>
        rw [hu] at hrest
        obtain ⟨rfl, rfl⟩ := pure_eq_ok.mp hrest
        simp [Board.destination, hu]
  · obtain ⟨rfl, rfl⟩ := pure_eq_ok.mp h
    exact ⟨rfl, rfl⟩

/-! ## Landing -/

/-- Where a moved task lands in a column: its position, whether the column was renumbered to make
room for it, and the board on which it lands. -/
inductive Lands (spacing : Spacing) (now : Timestamp) (b : Board) (column : Int)
    (r : MoveRequest) : Int → Bool → Board → Prop where
  /-- Without a reference, at the explicit position. -/
  | explicit {p : Int} (href : r.reference = none) (hpos : r.position = some p) :
      Lands spacing now b column r p false b
  /-- With neither, at the end. -/
  | last (href : r.reference = none) (hpos : r.position = none) :
      Lands spacing now b column r
        (Position.atEnd (b.entriesWithout column r.task) spacing.gap) false b
  /-- Next to the reference. -/
  | beside {reference p : Int} (href : r.reference = some reference)
      (hplace : Position.place (b.entriesWithout column r.task) (some reference) r.after
        spacing.gap = .ok p) :
      Lands spacing now b column r p false b
  /-- At the explicit position, because the reference is not in the column. -/
  | fallback {reference p : Int} (href : r.reference = some reference)
      (hmissing : reference ∉ (b.entriesWithout column r.task).map Prod.fst)
      (hpos : r.position = some p) :
      Lands spacing now b column r p false b
  /-- Next to the reference, after the column was renumbered because there was no room. -/
  | cleared {reference p lower upper : Int} (href : r.reference = some reference)
      (hfull : Position.place (b.entriesWithout column r.task) (some reference) r.after
        spacing.gap = .error (.exhausted lower upper))
      (hplace : Position.place
        ((b.renumbered column spacing.gap now).entriesWithout column r.task) (some reference)
        r.after spacing.gap = .ok p) :
      Lands spacing now b column r p true (b.renumbered column spacing.gap now)

/-- A task lands on the board as it was, or on the one with its column renumbered. -/
theorem Lands.board_eq {now : Timestamp} {column p : Int} {r : MoveRequest} {cleared : Bool}
    {b₁ : Board} (h : Lands spacing now b column r p cleared b₁) :
    b₁ = b ∨ b₁ = b.renumbered column spacing.gap now := by
  cases h with
  | explicit | last | beside | fallback => exact .inl rfl
  | cleared => exact .inr rfl

theorem renumber_eq_ok {column gap : Int} {x : Unit}
    (h : renumber column gap c b = (.ok x, b')) : b' = b.renumbered column gap c.now := by
  obtain ⟨_, b₁, hguard, hrest⟩ := bind_eq_ok.mp h
  obtain ⟨-, rfl⟩ := guard_eq_ok.mp hguard
  obtain ⟨n, b₂, hrebalance, hpure⟩ := bind_eq_ok.mp hrest
  obtain ⟨-, rfl⟩ := pure_eq_ok.mp hpure
  simpa only [now_after] using Store.rebalance_eq_ok hrebalance

/-- A column that was watched was renumbered just when it was crowded. -/
theorem renumberIfCrowded_eq_ok {column : Int} {crowded : Bool}
    (h : renumberIfCrowded spacing column c b = (.ok crowded, b')) :
    crowded = Spacing.isCrowded (b.positions column) spacing.threshold ∧
      b' = b.eased spacing column c.now := by
  obtain ⟨ordered, b₁, hordered, hrest⟩ := bind_eq_ok.mp h
  obtain ⟨rfl, rfl⟩ := Store.order_eq_ok hordered
  unfold Board.eased
  split at hrest
  · next hcrowded =>
    obtain ⟨_, b₂, hrenumber, hpure⟩ := bind_eq_ok.mp hrest
    obtain ⟨rfl, rfl⟩ := pure_eq_ok.mp hpure
    refine ⟨hcrowded.symm, ?_⟩
    rw [Board.positions, if_pos hcrowded, renumber_eq_ok hrenumber, now_after]
  · next hcrowded =>
    obtain ⟨rfl, rfl⟩ := pure_eq_ok.mp hrest
    exact ⟨(Bool.eq_false_iff.mpr hcrowded).symm, by rw [Board.positions, if_neg hcrowded]⟩

theorem readOnly_besideIn (column task reference : Int) (after : Bool) (gap : Int) :
    (besideIn column task reference after gap).ReadOnly :=
  (Store.readOnly_orderWithout column task).bind fun _ => ReadOnly.pure _

/-- The place that is tried next to a reference is computed from the other entries of the column. -/
theorem besideIn_eq_ok {column task reference : Int} {after : Bool} {gap : Int}
    {place : Except (Misplacement Int) Int}
    (h : besideIn column task reference after gap c b = (.ok place, b')) :
    place = Position.place (b.entriesWithout column task) (some reference) after gap ∧
      b' = b := by
  obtain ⟨ordered, b₁, hordered, hpure⟩ := bind_eq_ok.mp h
  obtain ⟨rfl, rfl⟩ := Store.orderWithout_eq_ok hordered
  obtain ⟨rfl, rfl⟩ := pure_eq_ok.mp hpure
  exact ⟨rfl, rfl⟩

/-- The place next to a reference is the one that is found at once, none when the reference is
missing, and else the one that is found in the renumbered column. -/
theorem beside_eq_ok {column task reference : Int} {after : Bool} {gap : Int}
    {place : Option (Int × Bool)}
    (h : beside column task reference after gap c b = (.ok place, b')) :
    (∃ p, place = some (p, false) ∧ b' = b ∧
      Position.place (b.entriesWithout column task) (some reference) after gap = .ok p) ∨
    (place = none ∧ b' = b ∧ reference ∉ (b.entriesWithout column task).map Prod.fst) ∨
    ∃ p lower upper, place = some (p, true) ∧ b' = b.renumbered column gap c.now ∧
      Position.place (b.entriesWithout column task) (some reference) after gap =
        .error (.exhausted lower upper) ∧
      Position.place ((b.renumbered column gap c.now).entriesWithout column task)
        (some reference) after gap = .ok p := by
  obtain ⟨first, b₁, hfirst, hrest⟩ := bind_eq_ok.mp h
  obtain ⟨hplace, rfl⟩ := besideIn_eq_ok hfirst
  split at hrest
  · next p =>
    obtain ⟨rfl, rfl⟩ := pure_eq_ok.mp hrest
    exact .inl ⟨p, rfl, rfl, hplace.symm⟩
  · obtain ⟨rfl, rfl⟩ := pure_eq_ok.mp hrest
    exact .inr (.inl ⟨rfl, rfl, (Position.place_eq_missing_iff.mp hplace.symm).2⟩)
  -- there was no room
  · next lower upper =>
    obtain ⟨_, b₂, hrenumber, hrest⟩ := bind_eq_ok.mp hrest
    obtain rfl := renumber_eq_ok hrenumber
    obtain ⟨second, b₃, hsecond, hrest⟩ := bind_eq_ok.mp hrest
    obtain ⟨hplace', rfl⟩ := besideIn_eq_ok hsecond
    split at hrest
    · next p =>
      obtain ⟨rfl, rfl⟩ := pure_eq_ok.mp hrest
      exact .inr (.inr ⟨p, lower, upper, rfl, rfl, hplace.symm, hplace'.symm⟩)
    · -- the reference was there before the renumbering, and it still is
      obtain ⟨-, hmissing⟩ := Position.place_eq_missing_iff.mp hplace'.symm
      rw [Board.mem_ids_entriesWithout_renumbered] at hmissing
      rw [Position.place_eq_missing_iff.mpr ⟨rfl, hmissing⟩] at hplace
      cases hplace
    · cases hrest

/-- A place that is found is one in which a task can land. -/
theorem landing_eq_ok {column : Int} {r : MoveRequest} {place : Int × Bool}
    (h : landing spacing column r c b = (.ok place, b')) :
    Lands spacing c.now b column r place.1 place.2 b' := by
  obtain ⟨task, column', reference, after, position⟩ := r
  rcases reference with _ | reference
  · rcases position with _ | p
    · obtain ⟨p, b₁, hend, hpure⟩ := bind_eq_ok.mp h
      obtain ⟨ordered, b₂, hordered, hpure'⟩ := bind_eq_ok.mp hend
      obtain ⟨rfl, rfl⟩ := Store.orderWithout_eq_ok hordered
      obtain ⟨rfl, rfl⟩ := pure_eq_ok.mp hpure'
      obtain ⟨rfl, rfl⟩ := pure_eq_ok.mp hpure
      exact .last rfl rfl
    · obtain ⟨rfl, rfl⟩ := pure_eq_ok.mp h
      exact .explicit rfl rfl
  · obtain ⟨found, b₁, hfound, hrest⟩ := bind_eq_ok.mp h
    -- found at once, missing, or found after room was made
    rcases beside_eq_ok hfound with ⟨p, rfl, rfl, hplace⟩ | ⟨rfl, rfl, hmissing⟩ |
      ⟨p, lower, upper, rfl, rfl, hfull, hplace⟩
    · obtain ⟨rfl, rfl⟩ := pure_eq_ok.mp hrest
      exact .beside rfl hplace
    · rcases position with _ | p
      · cases hrest
      · obtain ⟨rfl, rfl⟩ := pure_eq_ok.mp hrest
        exact .fallback rfl hmissing rfl
    · obtain ⟨rfl, rfl⟩ := pure_eq_ok.mp hrest
      exact .cleared rfl hfull hplace

/-! ## The four operations -/

/-- A created task is the last one of its column, which exists. -/
theorem creation_eq_ok {code : String} {r : NewTask} {t : Task}
    (h : creation spacing code r c b = (.ok t, b')) :
    (∃ column, b.column? r.column = some column) ∧
      ∃ card hcode,
        t = b.newTask card r.column (Position.atEnd (b.entries r.column) spacing.gap) c.now ∧
        b' = b.addTask card r.column (Position.atEnd (b.entries r.column) spacing.gap) c.now
          hcode := by
  obtain ⟨column, b₁, hcolumn, h₁⟩ := bind_eq_ok.mp h
  obtain ⟨hexists, rfl⟩ := Store.lockColumn_eq_ok hcolumn
  obtain ⟨ordered, b₂, hordered, h₂⟩ := bind_eq_ok.mp h₁
  obtain ⟨rfl, rfl⟩ := Store.order_eq_ok hordered
  obtain ⟨description, b₃, hdescription, h₃⟩ := bind_eq_ok.mp h₂
  obtain ⟨-, rfl⟩ := ofExcept_eq_ok.mp hdescription
  obtain ⟨tags, b₄, htags, h₄⟩ := bind_eq_ok.mp h₃
  obtain ⟨-, rfl⟩ := ofExcept_eq_ok.mp htags
  exact ⟨⟨column, hexists⟩, (Store.addTask_eq_ok h₄).2⟩

/-- A moved task exists, and so does its destination. It is put where it lands, and its new column
is renumbered if it is crowded then. -/
theorem relocation_eq_ok {r : MoveRequest} {m : Moved}
    (h : relocation spacing r c b = (.ok m, b')) :
    ∃ t p cleared b₁, b.task? r.task = some t ∧
      (∃ column, b.column? (b.destination t r) = some column) ∧
      Lands spacing c.now b (b.destination t r) r p cleared b₁ ∧
      b' = (b₁.putTask r.task (b.destination t r) p c.now).eased spacing (b.destination t r)
        c.now ∧
      b'.task? r.task = some m.task ∧
      m.rebalanced = (cleared || Spacing.isCrowded
        ((b₁.putTask r.task (b.destination t r) p c.now).positions (b.destination t r))
        spacing.threshold) := by
  -- up to the landing the work only looks, so all of it speaks of the first board
  obtain ⟨t, b₁, htask, h₁⟩ := bind_eq_ok.mp h
  obtain ⟨ht, rfl⟩ := Store.task_eq_ok htask
  obtain ⟨d, b₂, hdestination, h₂⟩ := bind_eq_ok.mp h₁
  obtain ⟨rfl, rfl⟩ := destination_eq_ok hdestination
  obtain ⟨column, b₃, hcolumn, h₃⟩ := bind_eq_ok.mp h₂
  obtain ⟨hexists, rfl⟩ := Store.lockColumn_eq_ok hcolumn
  obtain ⟨⟨p, cleared⟩, b₄, hlanding, h₄⟩ := bind_eq_ok.mp h₃
  obtain ⟨written, b₅, hwritten, h₅⟩ := bind_eq_ok.mp h₄
  obtain rfl := Store.writePosition_eq_ok hwritten
  obtain ⟨crowded, b₆, hcrowded, h₆⟩ := bind_eq_ok.mp h₅
  obtain ⟨rfl, hb₆⟩ := renumberIfCrowded_eq_ok hcrowded
  obtain ⟨t', b₇, htask', h₇⟩ := bind_eq_ok.mp h₆
  obtain ⟨ht', rfl⟩ := Store.task_eq_ok htask'
  obtain ⟨rfl, rfl⟩ := pure_eq_ok.mp h₇
  exact ⟨t, p, cleared, b₄, ht, ⟨column, hexists⟩, landing_eq_ok hlanding, hb₆, ht', rfl⟩

/-- The tasks of a batch stand in its column, which exists. They are put at their positions, and the
column is renumbered if it is crowded then. -/
theorem placement_eq_ok {r : BatchRequest} {placed : Placed}
    (h : placement spacing r c b = (.ok placed, b')) :
    (∃ column, b.column? r.column = some column) ∧
      (∀ id ∈ r.targets.map Prod.fst, ∃ t ∈ b.order r.column, t.id = id) ∧
      b' = (b.reposition r.targets c.now).eased spacing r.column c.now ∧
      placed = ⟨r.targets.map Prod.fst, Spacing.isCrowded
        ((b.reposition r.targets c.now).positions r.column) spacing.threshold⟩ := by
  obtain ⟨column, b₁, hcolumn, h₁⟩ := bind_eq_ok.mp h
  obtain ⟨hexists, rfl⟩ := Store.lockColumn_eq_ok hcolumn
  obtain ⟨ids, b₂, hwritten, h₂⟩ := bind_eq_ok.mp h₁
  obtain ⟨hnamed, rfl⟩ := Store.writePositions_eq_ok hwritten
  obtain ⟨crowded, b₃, hcrowded, h₃⟩ := bind_eq_ok.mp h₂
  obtain ⟨rfl, hb₃⟩ := renumberIfCrowded_eq_ok hcrowded
  obtain ⟨rfl, rfl⟩ := pure_eq_ok.mp h₃
  exact ⟨⟨column, hexists⟩, hnamed, hb₃, rfl⟩

/-- A deleted task has existed. -/
theorem deletion_eq_ok {task : Int} {x : Unit} (h : deletion task c b = (.ok x, b')) :
    (∃ t, b.task? task = some t) ∧ b' = b.removeTask task := by
  obtain ⟨t, b₁, htask, h₁⟩ := bind_eq_ok.mp h
  obtain ⟨ht, rfl⟩ := Store.task_eq_ok htask
  obtain rfl := Store.removeTask_eq_ok h₁
  exact ⟨⟨t, ht⟩, by rw [(Board.task?_eq_some_iff.mp ht).2]⟩

end Operation

end Kanban
