import Kanban.Proofs.Confinement
import Kanban.Proofs.Placement

/-!
# Renumbering a column

Renumbering puts the tasks of a column at the multiples of the gap, in the order in which they stand,
whatever their positions were before (`rebalance_evenly`). Only the tasks that do not stand at their
multiples yet are written, so the rows that are written and the rows that are left alone have to fall
into one ascending line. The number of the former is the result, and they are the only ones that are
marked as updated. A column that was renumbered is not written again.
-/

namespace Kanban

open Work

/-! ## Rows that are marked as updated -/

/-- A row whose position may have been written: it is marked as updated now if its position has
changed, it is the same row if not, and nothing else differs. -/
def Task.Rewritten (now : Timestamp) (s t : Task) : Prop :=
  t = if t.position = s.position then s else { s with position := t.position, updatedAt := now }

theorem Task.rewritten_self (now : Timestamp) (t : Task) : t.Rewritten now t := by
  simp [Rewritten]

theorem Task.rewritten_put (t : Task) (position : Int) (now : Timestamp) :
    t.Rewritten now (t.put t.column position now) := by
  by_cases hposition : t.position = position
  · rw [put, if_pos ⟨rfl, hposition⟩]
    exact t.rewritten_self now
  · rw [put, if_neg fun h => hposition h.2, Rewritten, if_neg (Ne.symm hposition)]

namespace Board

theorem rewritten_retarget (targets : List (Int × Int)) (now : Timestamp) (t : Task) :
    t.Rewritten now (retarget targets now t) := by
  unfold retarget
  split
  · exact t.rewritten_put _ now
  · exact t.rewritten_self now

/-- Renumbering a column rewrites rows of that column, and leaves all others as they are. -/
theorem rewritten_renumbered (b : Board) (column gap : Int) (now : Timestamp) :
    b.Rows (fun s t => if s.column = column then s.Rewritten now t else t = s)
      (b.renumbered column gap now) := by
  refine Rows.mapTasks (retarget_id _ now) (retarget_code _ now) fun t ht => ?_
  split
  · exact rewritten_retarget _ now t
  · next hcolumn =>
    have hrow := b.rows_renumbered column gap now t.id
    rw [renumbered, reposition, task?_mapTasks, task?_eq_some_iff.mpr ⟨ht, rfl⟩, Option.map_some,
      Option.rel_some_some, if_neg hcolumn] at hrow
    exact hrow

/-! ## How many rows are written -/

/-- The number of tasks of a board that stand at another position, or not at all, on a second one. -/
def displaced (b b' : Board) : Nat :=
  b.tasks.countP fun t => (b'.task? t.id).map Task.position ≠ some t.position

/-- There are as many tasks with a name in a list as there are names in it, if each name is listed once
and belongs to a task. -/
theorem countP_named {b : Board} {ids : List Int} (hnodup : ids.Nodup)
    (hnamed : ∀ id ∈ ids, ∃ t ∈ b.tasks, t.id = id) :
    b.tasks.countP (fun t => t.id ∈ ids) = ids.length := by
  have hperm : ((b.tasks.filter fun t => t.id ∈ ids).map Task.id).Perm ids := by
    apply (List.perm_ext_iff_of_nodup (nodup_map_filter _ b.taskIds_nodup) hnodup).mpr
    intro id
    rw [List.mem_map]
    constructor
    · rintro ⟨t, ht, rfl⟩
      exact of_decide_eq_true (List.mem_filter.mp ht).2
    · intro hid
      obtain ⟨t, ht, rfl⟩ := hnamed id hid
      exact ⟨t, List.mem_filter.mpr ⟨ht, decide_eq_true hid⟩, rfl⟩
  rw [List.countP_eq_length_filter, ← hperm.length_eq, List.length_map]

/-- The tasks that a renumbering displaces are those that it finds misplaced. -/
theorem displaced_iff {b : Board} {column gap : Int} {now : Timestamp} {t : Task}
    (ht : t ∈ b.tasks) :
    ((b.renumbered column gap now).task? t.id).map Task.position ≠ some t.position ↔
      t.id ∈ (Store.misplaced (b.order column) gap).map Prod.fst := by
  rw [renumbered, reposition, task?_mapTasks, task?_eq_some_iff.mpr ⟨ht, rfl⟩, Option.map_some,
    Option.map_some, retarget_position, ne_eq, Option.some.injEq]
  constructor
  · intro hmoved
    by_contra hid
    rw [lookup_eq_none_of_not_mem hid, Option.getD_none] at hmoved
    exact hmoved rfl
  · intro hid
    obtain ⟨⟨id, position⟩, hmem, rfl⟩ := List.mem_map.mp hid
    have hnodup := (b.nodup_ids_order column).sublist (misplaced_ids_sublist _ gap)
    rw [(lookup_eq_some_iff_mem hnodup).mpr hmem, Option.getD_some]
    obtain ⟨i, s, hi, hs, -, hposition⟩ := mem_misplaced.mp hmem
    obtain rfl := eq_of_id_eq (mem_order.mp (List.mem_of_getElem? hi)).1 ht hs
    exact Ne.symm hposition

/-- As many tasks are displaced by a renumbering as stood at another place than their multiple. -/
theorem displaced_renumbered (b : Board) (column gap : Int) (now : Timestamp) :
    b.displaced (b.renumbered column gap now) = (Store.misplaced (b.order column) gap).length := by
  have hsublist := misplaced_ids_sublist (b.order column) gap
  have hnamed : ∀ id ∈ (Store.misplaced (b.order column) gap).map Prod.fst,
      ∃ t ∈ b.tasks, t.id = id := by
    intro id hid
    obtain ⟨t, ht, rfl⟩ := List.mem_map.mp (hsublist.subset hid)
    exact ⟨t, (mem_order.mp ht).1, rfl⟩
  rw [← List.length_map Prod.fst, ← countP_named ((b.nodup_ids_order column).sublist hsublist) hnamed]
  apply List.countP_congr
  intro t ht
  rw [decide_eq_true_iff, decide_eq_true_iff]
  exact displaced_iff ht

/-! ## Columns that were renumbered -/

/-- The positions of a renumbered column are the multiples of the gap. -/
theorem positions_renumbered (b : Board) (column : Int) {gap : Int} (hgap : 1 ≤ gap)
    (now : Timestamp) :
    (b.renumbered column gap now).positions column =
      (List.range (b.order column).length).map (multiple gap) := by
  rw [positions, order_renumbered b column hgap]
  apply List.ext_getElem
  · simp
  · intro i hi hi'
    simp

/-- Nothing in a renumbered column is misplaced. -/
theorem misplaced_renumbered (b : Board) (column : Int) {gap : Int} (hgap : 1 ≤ gap)
    (now : Timestamp) :
    Store.misplaced ((b.renumbered column gap now).order column) gap = [] := by
  rw [List.eq_nil_iff_forall_not_mem]
  rintro ⟨id, position⟩ hmem
  obtain ⟨i, t, hi, -, rfl, hposition⟩ := mem_misplaced.mp hmem
  rw [order_renumbered b column hgap, List.getElem?_mapIdx, Option.map_eq_some_iff] at hi
  obtain ⟨s, -, rfl⟩ := hi
  exact hposition (Task.put_position ..)

end Board

namespace Store

variable {b : Board} {column gap : Int} {now : Timestamp}

/-- A column is renumbered when the multiples at which its tasks are to stand fit. -/
theorem rebalance_of_multiples (hb : b.IntegersFit) (hcolumn : Stored.Fits column)
    (hfits : ∀ i < (b.order column).length, Stored.Fits (multiple gap i)) (now : Timestamp) :
    rebalance column gap ⟨now, none⟩ b =
      (.ok (misplaced (b.order column) gap).length, b.renumbered column gap now) := by
  have hids : ∀ t ∈ b.order column, Stored.Fits t.id := fun t ht =>
    (hb.keys t (Board.mem_order.mp ht).1).1
  rw [rebalance_of_fits now gap hcolumn hids,
    if_pos ((Operation.allStorable_misplaced_iff hb).mpr hfits)]

/-- A column that was renumbered is not written again. -/
theorem rebalance_again (hb : b.IntegersFit) (hcolumn : Stored.Fits column) (hgap : 1 ≤ gap)
    (later : Timestamp) :
    rebalance column gap ⟨later, none⟩ (b.renumbered column gap now) =
      (.ok 0, b.renumbered column gap now) := by
  have hids : ∀ t ∈ (b.renumbered column gap now).order column, Stored.Fits t.id := fun t ht =>
    (hb.keys.renumbered gap t (Board.mem_order.mp ht).1).1
  have hsettled := b.misplaced_renumbered column hgap now
  have hstorable : AllStorable (b.renumbered column gap now) [] := by simp [AllStorable]
  rw [rebalance_of_fits later gap hcolumn hids, hsettled, if_pos hstorable]
  conv_lhs => rw [Board.renumbered, hsettled, Board.reposition_nil]
  rfl

/-- What renumbering does to a column whose multiples fit. The order of every column stays, and the
tasks of the column stand at the multiples. No other row differs, a row of the column differs in its
position and the time of its update alone, and in the latter just when it differs in the former; the
result is the number of the rows that differ. Doing it again changes nothing, and the column is not
crowded then for any threshold up to the gap. -/
theorem rebalance_evenly (hb : b.IntegersFit) (hcolumn : Stored.Fits column) (hgap : 1 ≤ gap)
    (hfits : ∀ i < (b.order column).length, Stored.Fits (multiple gap i)) (now : Timestamp) :
    ∃ n b', rebalance column gap ⟨now, none⟩ b = (.ok n, b') ∧
      (∀ c, (b'.order c).map Task.id = (b.order c).map Task.id) ∧
      b'.positions column = (List.range (b.order column).length).map (multiple gap) ∧
      b.Rows (fun s t => if s.column = column then s.Rewritten now t else t = s) b' ∧
      b'.columns = b.columns ∧ n = b.displaced b' ∧
      (∀ later, rebalance column gap ⟨later, none⟩ b' = (.ok 0, b')) ∧
      ∀ threshold ≤ gap, Spacing.isCrowded (b'.positions column) threshold = false := by
  refine ⟨_, _, rebalance_of_multiples hb hcolumn hfits now, ?_, ?_, ?_, ?_, ?_, ?_, ?_⟩
  · exact b.ids_order_renumbered column hgap now
  · exact b.positions_renumbered column hgap now
  · exact b.rewritten_renumbered column gap now
  · rfl
  · exact (b.displaced_renumbered column gap now).symm
  · exact rebalance_again hb hcolumn hgap
  · intro threshold hthreshold
    rw [Spacing.isCrowded_eq_false_iff]
    exact (b.pairwise_positions_renumbered column hgap now).imp fun h => h.mono hthreshold

end Store

/-- A board with a column in which two tasks share a position, one stands below zero, and one stands
already where it is to stand when the column is renumbered by four. -/
def unevenBoard : Board :=
  { splitBoard with
    tasks :=
      [(1, "a", 1, 12), (2, "b", 1, 0), (3, "c", 1, 0), (4, "d", 1, -3), (5, "e", 2, 7)].map
        fun (id, code, column, position) =>
          ⟨id, ⟨code, "", "", "", none, []⟩, column, position, ⟨0⟩, ⟨0⟩⟩
    taskIds_nodup := by decide
    taskCodes_nodup := by decide }

/-- Three tasks are written, and the one that stands right is not marked as updated. -/
theorem Store.rebalance_evenly_uneven :
    let ended := Store.rebalance 1 4 ⟨⟨9⟩, none⟩ unevenBoard
    ended.1 = .ok 3 ∧ ended.2.entries 1 = [(4, 0), (2, 4), (3, 8), (1, 12)] ∧
      ended.2.positions 1 = [0, 4, 8, 12] ∧ ended.2.task? 1 = unevenBoard.task? 1 ∧
      Store.rebalance 1 4 ⟨⟨60⟩, none⟩ ended.2 = (.ok 0, ended.2) := by
  have hlength : (unevenBoard.order 1).length = 4 := by cbv
  have hfits : ∀ i < (unevenBoard.order 1).length, Stored.Fits (multiple 4 i) := by
    rw [hlength]
    decide
  obtain ⟨n, b', h, -, hpositions, -, -, -, hagain, -⟩ := Store.rebalance_evenly
    (by decide : unevenBoard.IntegersFit) (by decide : Stored.Fits 1) (by decide) hfits ⟨9⟩
  obtain rfl := congrArg Prod.snd h
  refine ⟨by cbv, by cbv, ?_, by cbv, hagain ⟨60⟩⟩
  rw [hpositions, hlength]
  rfl

end Kanban
