import Kanban.Proofs.Drift
import Kanban.Proofs.Headroom
import Kanban.Startup.Report

/-!
# Insert capacity

How many tasks the gap between two neighbours takes before their column is renumbered, as it is
reported at start-up, is exact. Each arrival next to a task of a column leaves at least half of the
smallest room that there was (`Filled.arrive`), so no column that stands at the multiples of the gap
is renumbered for as many arrivals, wherever they go. And it may leave no more than half: tasks that
come one after another directly after the same task halve the gap behind it each time, and the one
that comes beyond the capacity finds its column crowded or its gap exhausted (`capacity_exact`).
-/

namespace Kanban

open Work

/-! ## Halving a gap -/

theorem halved_succ (gap : Int) (k : Nat) : gap / 2 ^ (k + 1) = gap / 2 ^ k / 2 := by
  rw [pow_succ, Int.ediv_ediv_of_nonneg (by positivity)]

/-- A gap can be halved as many times as the capacity says before it falls below the threshold, and
no more. -/
theorem Startup.le_halved_iff {gap threshold : Int} (hthreshold : 1 ≤ threshold)
    (h : threshold ≤ gap) {k : Nat} :
    threshold ≤ gap / 2 ^ k ↔ k ≤ Startup.insertCapacity gap threshold := by
  have hpow : (0 : Int) < 2 ^ k := by positivity
  have hquotient : 1 ≤ gap / threshold := (Int.le_ediv_iff_mul_le (by omega)).mpr (by omega)
  rw [Startup.insertCapacity, Nat.le_log2 (by omega), Int.le_ediv_iff_mul_le hpow, mul_comm,
    ← Int.le_ediv_iff_mul_le (by omega)]
  rw [← Int.ofNat_le, Int.toNat_of_nonneg (by omega)]
  push_cast
  rfl

/-- The multiples of fewer tasks fit as well. -/
theorem steps_mul_lt_of_le {gap bound : Int} (hgap : 0 ≤ gap) {m n : Nat} (h : m ≤ n)
    (hn : (n : Int) * gap < bound) : (m : Int) * gap < bound :=
  lt_of_le_of_lt (Int.mul_le_mul_of_nonneg_right (Int.ofNat_le.mpr h) hgap) hn

namespace Position

/-- The middle of a gap that begins at no negative position is half of the gap beyond its
beginning. -/
theorem midpoint_add {q distance : Int} (hq : 0 ≤ q) (hdistance : 0 ≤ distance) :
    midpoint q (q + distance) = q + distance / 2 := by
  unfold midpoint
  rw [Int.tdiv_eq_ediv_of_nonneg (by omega)]
  omega

/-- Directly after an entry whose neighbour is as near as entries are there, a place is looked for in
the gap between the two. -/
theorem place_between {κ : Type} [DecidableEq κ] {ordered : List (κ × Int)} {distance : Int}
    (hdistance : 1 ≤ distance) (hspaced : ordered.Pairwise fun e f => e.2 + distance ≤ f.2)
    (hnodup : (ordered.map Prod.fst).Nodup) {key : κ} {q : Int} (hkey : (key, q) ∈ ordered)
    (hnext : ∃ e ∈ ordered, e.2 = q + distance) (gap : Int) :
    place ordered (some key) true gap = between q (q + distance) := by
  obtain ⟨next, hmem, hnext⟩ := hnext
  obtain ⟨l₁, q', l₂, rfl, hl₁, hcases⟩ := place_cases (List.mem_map_of_mem hkey) true gap
  obtain ⟨-, hs₂, hcross⟩ := List.pairwise_append.mp hspaced
  obtain ⟨hq, hrest⟩ := List.pairwise_cons.mp hs₂
  obtain rfl : q = q' := by
    have hl₂ : key ∉ l₂.map Prod.fst := by
      rw [List.map_append, List.map_cons] at hnodup
      exact (List.nodup_cons.mp (List.nodup_append.mp hnodup).2.1).1
    rcases List.mem_append.mp hkey with hkey | hkey
    · exact absurd (List.mem_map_of_mem hkey) hl₁
    · rcases List.mem_cons.mp hkey with hkey | hkey
      · exact congrArg Prod.snd hkey
      · exact absurd (List.mem_map_of_mem hkey) hl₂
  -- the neighbour stands behind the entry, and nothing fits between the two
  have hbehind : next ∈ l₂ := by
    rcases List.mem_append.mp hmem with hmem | hmem
    · have := hcross next hmem (key, q) List.mem_cons_self
      omega
    · rcases List.mem_cons.mp hmem with rfl | hmem
      · omega
      · exact hmem
  rcases hcases with ⟨-, rfl, -⟩ | ⟨-, f, rest, rfl, hplace⟩ | ⟨h, -⟩ | ⟨h, -⟩
  · cases hbehind
  · have hf := hq f List.mem_cons_self
    obtain rfl | hbehind := List.mem_cons.mp hbehind
    · rw [hplace, hnext]
    · have := (List.pairwise_cons.mp hrest).1 next hbehind
      omega
  · cases h
  · cases h

end Position

/-! ## Arrivals -/

namespace Operation

/-- A move brings a task of another column next to a task of a column. -/
structure MoveRequest.Brings (b : Board) (column : Int) (r : MoveRequest) : Prop where
  task : ∃ t, b.task? r.task = some t ∧ t.column ≠ column
  reference : ∃ u ∈ b.order column, r.reference = some u.id
  named : ∀ c ∈ r.column, c = column

namespace MoveRequest.Brings

variable {b : Board} {column : Int} {r : MoveRequest}

/-- A task that comes from another column is not its own reference. -/
theorem sound (h : r.Brings b column) : r.reference ≠ some r.task := by
  obtain ⟨t, ht, hcolumn⟩ := h.task
  obtain ⟨u, hu, href⟩ := h.reference
  obtain ⟨hu, huc⟩ := Board.mem_order.mp hu
  obtain ⟨ht, hid⟩ := Board.task?_eq_some_iff.mp ht
  intro hself
  have hsame : u.id = t.id := by
    rw [hid]
    exact Option.some.inj (href.symm.trans hself)
  exact hcolumn (Board.eq_of_id_eq hu ht hsame ▸ huc)

/-- An arrival goes to the column, whether it names it or leaves that to its reference. -/
theorem destination_eq (h : r.Brings b column) (t : Task) : b.destination t r = column := by
  obtain ⟨u, hu, href⟩ := h.reference
  obtain ⟨hu, huc⟩ := Board.mem_order.mp hu
  cases hc : r.column with
  | some c =>
    rw [destination_of_column hc]
    exact h.named c hc
  | none =>
    unfold Board.destination
    rw [hc, href]
    simp [Board.task?_eq_some_iff.mpr ⟨hu, rfl⟩, huc]

/-- An arrival is told its place by a reference that is there. -/
theorem guided (h : r.Brings b column) : r.Guided b column := by
  obtain ⟨u, hu, href⟩ := h.reference
  unfold Guided
  rw [href]
  exact List.mem_map_of_mem hu

/-- The task that is brought is not in the column yet. -/
theorem not_mem_lineup (h : r.Brings b column) : r.task ∉ b.lineup column := by
  obtain ⟨t, ht, hcolumn⟩ := h.task
  obtain ⟨ht, hid⟩ := Board.task?_eq_some_iff.mp ht
  rw [Board.mem_lineup]
  rintro ⟨s, hs, hsid, hsc⟩
  exact hcolumn (Board.eq_of_id_eq hs ht (hsid.trans hid.symm) ▸ hsc)

theorem ne_of_mem_order (h : r.Brings b column) {s : Task} (hs : s ∈ b.order column) :
    s.id ≠ r.task := fun hid => h.not_mem_lineup (hid ▸ List.mem_map_of_mem hs)

/-- All tasks of the column are left when the task that is brought is left out. -/
theorem mem_orderWithout (h : r.Brings b column) {s : Task} :
    s ∈ b.orderWithout column r.task ↔ s ∈ b.order column := by
  rw [Board.mem_orderWithout, Board.mem_order]
  constructor
  · rintro ⟨hs, hc, -⟩
    exact ⟨hs, hc⟩
  · rintro ⟨hs, hc⟩
    exact ⟨hs, hc, h.ne_of_mem_order (Board.mem_order.mpr ⟨hs, hc⟩)⟩

end MoveRequest.Brings

/-- A task that is brought into a column stands next to its reference. -/
theorem lineup_of_brought {spacing : Spacing} {c : Conditions} {b b' : Board} {column : Int}
    {r : MoveRequest} {m : Moved} (hr : r.Brings b column) (hgap : 1 ≤ spacing.gap) {reference : Int}
    (href : r.reference = some reference) (h : relocation spacing r c b = (.ok m, b')) :
    b'.lineup column = insertBeside r.task reference r.after (b.lineup column) := by
  obtain ⟨t, ht, -⟩ := hr.task
  have hmem := hr.guided
  unfold MoveRequest.Guided at hmem
  rw [href] at hmem
  have hwithout : b.lineup.without r.task column = b.lineup column := by
    rw [Lineup.without, List.filter_eq_self]
    exact fun id hid => decide_eq_true fun heq => hr.not_mem_lineup (heq ▸ hid)
  rw [relocation_lineup hr.sound hgap ht h, hr.destination_eq, MoveRequest.change, href]
  simp only [if_pos hmem, Change.apply, Lineup.set, Function.update_self, hwithout]

/-- How a task is brought into a column with success: there is a place for it at once, and the column
is renumbered if it is crowded then, or the column was renumbered to make room. -/
theorem brought_eq_ok {spacing : Spacing} {c : Conditions} {b b' : Board} {column : Int}
    {r : MoveRequest} {m : Moved} (hr : r.Brings b column) {reference : Int}
    (href : r.reference = some reference) (h : relocation spacing r c b = (.ok m, b')) :
    (∃ p, Position.place (b.entriesWithout column r.task) (some reference) r.after spacing.gap =
        .ok p ∧
      m.rebalanced = Spacing.isCrowded ((b.putTask r.task column p c.now).positions column)
        spacing.threshold ∧
      b' = (b.putTask r.task column p c.now).eased spacing column c.now) ∨
    (m.rebalanced = true ∧ ∃ lower upper,
      Position.place (b.entriesWithout column r.task) (some reference) r.after spacing.gap =
        .error (.exhausted lower upper)) := by
  obtain ⟨t, p, cleared, b₁, -, -, hlands, hb', -, hrebalanced⟩ := relocation_eq_ok h
  rw [hr.destination_eq] at hlands hb' hrebalanced
  cases hlands with
  -- an arrival has a reference, and the reference is in the column
  | explicit hnone | last hnone => rw [href] at hnone; cases hnone
  | beside href' hplace =>
    cases href.symm.trans href'
    exact .inl ⟨p, hplace, by rw [hrebalanced, Bool.false_or], hb'⟩
  | fallback href' hmissing =>
    cases href.symm.trans href'
    have hmem := hr.guided
    unfold MoveRequest.Guided at hmem
    rw [href] at hmem
    have hne : reference ≠ r.task := fun heq => hr.sound (href.trans (congrArg some heq))
    exact absurd (Board.mem_ids_entriesWithout.mpr ⟨hne, Board.mem_lineup.mp hmem⟩) hmissing
  | cleared href' hfull =>
    cases href.symm.trans href'
    -- room was made, which is told as well
    exact .inr ⟨by rw [hrebalanced, Bool.true_or], _, _, hfull⟩

end Operation

/-! ## A column after some arrivals -/

/-- A column of a few tasks at the multiples of a gap after some arrivals. The task that stood at zero
is still there, no position is farther out than there are tasks, and the smallest room was halved once
for each arrival, or less. -/
structure Board.Filled (gap : Int) (count arrived : Nat) (b : Board) (column : Int) : Prop where
  integers : b.IntegersFit
  known : ∃ d, b.column? column = some d
  length : (b.order column).length ≤ count + arrived
  zero : ∃ t ∈ b.order column, t.position = 0
  within : ∀ t ∈ b.order column, Within ((count + arrived : Nat) * gap) t.position
  apart : (b.positions column).Pairwise (Spacing.Apart (gap / 2 ^ arrived))

namespace Board

/-- A task of a column stays as it is when another task is put into the column. -/
theorem mem_order_putTask {b : Board} {id column position : Int} {now : Timestamp} {s : Task}
    (hs : s ∈ b.order column) (hid : s.id ≠ id) :
    s ∈ (b.putTask id column position now).order column := by
  obtain ⟨hs, hc⟩ := mem_order.mp hs
  exact mem_order.mpr ⟨mem_tasks_putTask.mpr (.inl ⟨hs, hid⟩), hc⟩

/-- A task that is put into a column stands there. -/
theorem put_mem_order_putTask {b : Board} {id column position : Int} {now : Timestamp} {t : Task}
    (ht : b.task? id = some t) :
    t.put column position now ∈ (b.putTask id column position now).order column := by
  obtain ⟨ht, hid⟩ := task?_eq_some_iff.mp ht
  exact mem_order.mpr ⟨mem_tasks_putTask.mpr (.inr ⟨t, ht, hid, rfl⟩), Task.put_column ..⟩

namespace Filled

variable {spacing : Spacing} {count arrived : Nat} {b : Board} {column : Int}
  {r : Operation.MoveRequest}

theorem fits_column (h : b.Filled spacing.gap count arrived column) : Stored.Fits column := by
  obtain ⟨z, hz, -⟩ := h.zero
  obtain ⟨hz, hc⟩ := mem_order.mp hz
  exact hc ▸ (h.integers.keys z hz).2

/-- No task stands between zero and the room that is left. -/
theorem head (h : b.Filled spacing.gap count arrived column) (task : Int) :
    ∀ e ∈ b.entriesWithout column task, e.2 ≤ 0 ∨ spacing.gap / 2 ^ arrived ≤ e.2 := by
  intro e he
  obtain ⟨s, hs, -, rfl⟩ := exists_of_mem_entriesWithout he
  obtain ⟨z, hz, hzero⟩ := h.zero
  by_cases hid : s.id = z.id
  · obtain rfl := eq_of_id_eq (mem_order.mp hs).1 (mem_order.mp hz).1 hid
    exact .inl (by simp only [Task.entry, hzero, le_refl])
  · have hapart := pairwise_positions_iff.mp h.apart s hs z hz hid
    unfold Spacing.Apart at hapart
    simp only [Task.entry]
    omega

/-- A task that arrives lands at most a gap beyond those that are there. -/
theorem within_place (h : b.Filled spacing.gap count arrived column) (hgap : 1 ≤ spacing.gap)
    {task reference p : Int} {after : Bool}
    (hplace : Position.place (b.entriesWithout column task) (some reference) after spacing.gap =
      .ok p) : Within ((count + (arrived + 1) : Nat) * spacing.gap) p := by
  rw [← Nat.add_assoc, steps_succ_mul]
  refine Position.within_place hgap (b.entriesWithout_ascending column task) (fun e he => ?_) hplace
  obtain ⟨s, hs, -, rfl⟩ := exists_of_mem_entriesWithout he
  exact h.within s hs

/-- Every arrival succeeds, as long as the multiples of a few more tasks fit. -/
theorem succeeds (h : b.Filled spacing.gap count arrived column) (hgap : 2 ≤ spacing.gap)
    (hroom : ((count + arrived + 2 : Nat) : Int) * spacing.gap < 2 ^ 63) (hr : r.Brings b column)
    (now : Timestamp) :
    ∃ m b', Operation.relocation spacing r ⟨now, none⟩ b = (.ok m, b') := by
  obtain ⟨t, ht, -⟩ := hr.task
  obtain ⟨d, hd⟩ := h.known
  obtain ⟨u, hu, href⟩ := hr.reference
  have hmultiples : (((b.order column).length + 2 : Nat) : Int) * spacing.gap < 2 ^ 63 :=
    steps_mul_lt_of_le (by omega) (Nat.add_le_add_right h.length 2) hroom
  -- a guided move succeeds just when its place does not lie beyond the range
  refine (Operation.relocation_iff hgap h.integers h.fits_column hmultiples hr.sound ht
    (hr.destination_eq t) hd hr.guided).mpr ?_
  unfold Operation.MoveRequest.Overruns
  rw [href]
  rintro ⟨p, hnot, hplace⟩
  -- and the place lies at most one gap farther out than the arrivals so far
  have hwithin := h.within_place (by omega) hplace
  rw [show count + arrived + 2 = count + (arrived + 1) + 1 from rfl, steps_succ_mul] at hroom
  apply hnot
  unfold Within at hwithin
  unfold Stored.Fits Stored.minInteger Stored.maxInteger
  omega

/-- An arrival that leaves the threshold free is quiet, and leaves half of the room. -/
theorem arrive (h : b.Filled spacing.gap count arrived column) (hthreshold : 1 ≤ spacing.threshold)
    (hgap : 2 * spacing.threshold ≤ spacing.gap)
    (hhalf : spacing.threshold ≤ spacing.gap / 2 ^ (arrived + 1))
    (hroom : ((count + arrived + 2 : Nat) : Int) * spacing.gap < 2 ^ 63) (hr : r.Brings b column)
    {reference : Int} (href : r.reference = some reference) (now : Timestamp) :
    ∃ m p, Operation.relocation spacing r ⟨now, none⟩ b =
        (.ok m, b.putTask r.task column p now) ∧ m.rebalanced = false ∧
      Position.place (b.entriesWithout column r.task) (some reference) r.after spacing.gap = .ok p ∧
      (b.putTask r.task column p now).Filled spacing.gap count (arrived + 1) column := by
  obtain ⟨m, b', hmoved⟩ := h.succeeds (by omega) hroom hr now
  have hlineup := Operation.lineup_of_brought hr (by omega) href hmoved
  -- one more halving: a place leaves half of the room that there was
  have hdistance : 2 * (spacing.gap / 2 ^ (arrived + 1)) ≤ spacing.gap / 2 ^ arrived := by
    rw [halved_succ]
    omega
  have hle : spacing.gap / 2 ^ arrived ≤ spacing.gap :=
    Int.ediv_le_self _ (by omega)
  rcases Operation.brought_eq_ok hr href hmoved with ⟨p, hplace, hrebalanced, hb'⟩ |
    ⟨-, lower, upper, hfull⟩
  -- the old tasks keep their distance, and the new one stands half of it away from each of them
  · have hspaced := entriesWithout_spaced h.apart (by omega) r.task
    have hapart : ((b.putTask r.task column p now).positions column).Pairwise
        (Spacing.Apart (spacing.gap / 2 ^ (arrived + 1))) := by
      apply pairwise_positions_putTask (h.apart.imp fun hpq => hpq.mono (by omega))
      intro s hs
      exact Position.place_apart hspaced (h.head r.task) (by omega) hle hdistance hplace s.entry
        (List.mem_map_of_mem hs)
    -- half of the room is still as much as the threshold, so the watch over the column does nothing
    have hcalm : Spacing.isCrowded ((b.putTask r.task column p now).positions column)
        spacing.threshold = false :=
      Spacing.isCrowded_eq_false_iff.mpr (hapart.imp fun hpq => hpq.mono hhalf)
    rw [eased, if_neg (Bool.eq_false_iff.mp hcalm)] at hb'
    subst hb'
    obtain ⟨z, hz, hzero⟩ := h.zero
    refine ⟨m, p, hmoved, hrebalanced.trans hcalm, hplace,
      Operation.preserves_relocation spacing r _ _ _ _ hmoved h.integers, h.known, ?_,
      ⟨z, mem_order_putTask hz (hr.ne_of_mem_order hz), hzero⟩, ?_, hapart⟩
    -- there is one more task, as the lineup shows
    · have hlength := length_insertBeside_le r.task reference r.after (b.lineup column)
      rw [← hlineup] at hlength
      have := h.length
      simp only [lineup, List.length_map] at hlength
      omega
    · intro t ht
      obtain ⟨ht, hc⟩ := mem_order.mp ht
      rcases mem_tasks_putTask.mp ht with ⟨ht, -⟩ | ⟨s, -, -, rfl⟩
      · rw [← Nat.add_assoc, steps_succ_mul]
        exact (h.within t (mem_order.mpr ⟨ht, hc⟩)).mono (by omega)
      · rw [Task.put_position]
        exact h.within_place (by omega) hplace
  -- a full place would need two tasks closer than they are
  · exact absurd hfull (place_ne_exhausted (h.apart.imp fun hpq => hpq.mono (by omega)))

end Filled

/-- A task of a column, at no negative position, and another one at a distance behind it. -/
def Gap (b : Board) (column id : Int) (distance : Int) : Prop :=
  ∃ s ∈ b.order column, s.id = id ∧ 0 ≤ s.position ∧
    ∃ t ∈ b.order column, t.position = s.position + distance

namespace Filled

variable {spacing : Spacing} {count arrived : Nat} {b : Board} {column : Int}
  {r : Operation.MoveRequest} {id : Int}

/-- Directly after a task, a place is looked for in the smallest gap of the column. -/
theorem place_eq (h : b.Filled spacing.gap count arrived column)
    (hdistance : 1 ≤ spacing.gap / 2 ^ arrived) (hr : r.Brings b column) {s t : Task}
    (hs : s ∈ b.order column) (ht : t ∈ b.order column)
    (hposition : t.position = s.position + spacing.gap / 2 ^ arrived) :
    Position.place (b.entriesWithout column r.task) (some s.id) true spacing.gap =
      Position.between s.position (s.position + spacing.gap / 2 ^ arrived) := by
  have hmem : ∀ {s : Task}, s ∈ b.order column → s.entry ∈ b.entriesWithout column r.task :=
    fun hs => List.mem_map_of_mem (hr.mem_orderWithout.mpr hs)
  exact Position.place_between hdistance (entriesWithout_spaced h.apart hdistance r.task)
    (b.nodup_ids_entriesWithout column r.task) (hmem hs) ⟨t.entry, hmem ht, hposition⟩ spacing.gap

/-- An arrival directly after a task halves the gap behind it. -/
theorem gap_putTask (h : b.Filled spacing.gap count arrived column)
    (hgap : b.Gap column id (spacing.gap / 2 ^ arrived)) (hdistance : 1 ≤ spacing.gap / 2 ^ arrived)
    (hr : r.Brings b column) {p : Int} (now : Timestamp)
    (hplace : Position.place (b.entriesWithout column r.task) (some id) true spacing.gap = .ok p) :
    (b.putTask r.task column p now).Gap column id (spacing.gap / 2 ^ (arrived + 1)) := by
  obtain ⟨s, hs, rfl, hzero, t, ht, hposition⟩ := hgap
  rw [h.place_eq hdistance hr hs ht hposition, Position.between_eq_ok_iff (by omega)] at hplace
  obtain ⟨-, rfl⟩ := hplace
  obtain ⟨u, hu, -⟩ := hr.task
  refine ⟨s, mem_order_putTask hs (hr.ne_of_mem_order hs), rfl, hzero, _, put_mem_order_putTask hu, ?_⟩
  rw [Task.put_position, Position.midpoint_add hzero (by omega), halved_succ]

/-- An arrival directly after a task, when half of the gap behind that is less than the threshold, has
its column renumbered. -/
theorem overfill (h : b.Filled spacing.gap count arrived column)
    (hgap : b.Gap column id (spacing.gap / 2 ^ arrived)) (hdistance : 1 ≤ spacing.gap / 2 ^ arrived)
    (hhalf : spacing.gap / 2 ^ (arrived + 1) < spacing.threshold) (hr : r.Brings b column)
    (href : r.reference = some id) (hside : r.after = true) {now : Timestamp}
    {m : Operation.Moved} {b' : Board}
    (hmoved : Operation.relocation spacing r ⟨now, none⟩ b = (.ok m, b')) : m.rebalanced = true := by
  rcases Operation.brought_eq_ok hr href hmoved with ⟨p, hplace, hrebalanced, -⟩ | ⟨hrebalanced, -⟩
  · -- the task has found a place in half of the gap, which is too close to the reference
    rw [hside] at hplace
    obtain ⟨s, hs, rfl, hzero, t, ht, hposition⟩ := hgap
    rw [h.place_eq hdistance hr hs ht hposition, Position.between_eq_ok_iff (by omega)] at hplace
    obtain ⟨-, rfl⟩ := hplace
    rw [Position.midpoint_add hzero (by omega), ← halved_succ] at hrebalanced
    rw [hrebalanced, ← Bool.not_eq_false, Spacing.isCrowded_eq_false_iff, pairwise_positions_iff]
    -- if the column were not crowded, the new task would stand a threshold behind the reference
    intro hcalm
    obtain ⟨u, hu, -⟩ := hr.task
    have hother := hr.ne_of_mem_order hs
    have hclose := hcalm s (mem_order_putTask hs hother) _ (put_mem_order_putTask hu) (by
      rwa [Task.put_id, (task?_eq_some_iff.mp hu).2])
    rw [Task.put_position] at hclose
    have hpositive : 0 ≤ spacing.gap / 2 ^ (arrived + 1) := by
      rw [halved_succ]
      omega
    unfold Spacing.Apart at hclose
    omega
  · exact hrebalanced

end Filled

end Board

/-! ## Runs of arrivals -/

namespace Operation

/-- Moves one after another, each at its own time: their results, and the board after them. -/
def moveAll (spacing : Spacing) :
    Board → List (Timestamp × MoveRequest) → List (Except Failure Moved) × Board
  | b, [] => ([], b)
  | b, (now, r) :: rest =>
    let (result, b₁) := move spacing r ⟨now, none⟩ b
    let (results, b') := moveAll spacing b₁ rest
    (result :: results, b')

/-- Each of a list of moves brings a task of another column next to one that is in the column when its
turn comes. -/
def AllBring (spacing : Spacing) (column : Int) : Board → List (Timestamp × MoveRequest) → Prop
  | _, [] => True
  | b, (now, r) :: rest =>
    r.Brings b column ∧ AllBring spacing column (move spacing r ⟨now, none⟩ b).2 rest

/-- A move has succeeded, and was not told of a renumbering. -/
def IsQuiet (result : Except Failure Moved) : Prop :=
  ∃ m, result = .ok m ∧ m.rebalanced = false

/-- The moves after the first one start from the board that it leaves. -/
theorem moveAll_cons {spacing : Spacing} {r : MoveRequest} {now : Timestamp} {b b₁ : Board}
    {result : Except Failure Moved} (h : move spacing r ⟨now, none⟩ b = (result, b₁))
    (rest : List (Timestamp × MoveRequest)) :
    moveAll spacing b ((now, r) :: rest) =
      (result :: (moveAll spacing b₁ rest).1, (moveAll spacing b₁ rest).2) := by
  rw [moveAll, h]

theorem move_of_relocation {spacing : Spacing} {r : MoveRequest} {now : Timestamp} {b b₁ : Board}
    {m : Moved} (h : relocation spacing r ⟨now, none⟩ b = (.ok m, b₁)) :
    move spacing r ⟨now, none⟩ b = (.ok m, b₁) :=
  transaction_eq_ok.mpr ⟨h, rfl⟩

variable {spacing : Spacing} {count capacity arrived : Nat} {b : Board} {column : Int}
  {arrivals : List (Timestamp × MoveRequest)}

/-- A move that brings a task does so still after another task was brought. -/
theorem MoveRequest.Brings.after_move {r r' : MoveRequest} (h' : r'.Brings b column)
    (h : r.Brings b column) (hne : r'.task ≠ r.task) (c : Conditions) :
    r'.Brings (move spacing r c b).2 column := by
  rcases hmove : move spacing r c b with ⟨e | m, b'⟩
  · rw [transaction_of_error hmove]
    -- a move that fails changes nothing
    exact h'
  · obtain ⟨-, hconfined⟩ := confined_of_relocation (transaction_eq_ok.mp hmove).1
    obtain ⟨t, ht, htcolumn⟩ := h'.task
    obtain ⟨u, hu, href⟩ := h'.reference
    have hother := h.ne_of_mem_order hu
    obtain ⟨hu, huc⟩ := Board.mem_order.mp hu
    -- neither the next task nor its reference was moved, so both are where they were
    have htask := column_of_confined hconfined hne
    have hreference := column_of_confined hconfined hother
    rw [ht] at htask
    rw [Board.task?_eq_some_iff.mpr ⟨hu, rfl⟩] at hreference
    obtain ⟨t', ht', htc'⟩ := Option.map_eq_some_iff.mp htask
    obtain ⟨u', hu', huc'⟩ := Option.map_eq_some_iff.mp hreference
    obtain ⟨hmem, hid⟩ := Board.task?_eq_some_iff.mp hu'
    exact ⟨⟨t', ht', htc' ▸ htcolumn⟩,
      ⟨u', Board.mem_order.mpr ⟨hmem, huc'.trans huc⟩, hid.symm ▸ href⟩, h'.named⟩

/-- Different tasks of other columns can be brought one after another. -/
theorem allBring_of_distinct (h : ∀ a ∈ arrivals, a.2.Brings b column)
    (hdistinct : (arrivals.map fun a => a.2.task).Nodup) : AllBring spacing column b arrivals := by
  induction arrivals generalizing b with
  | nil => trivial
  | cons arrival rest ih =>
    rw [List.forall_mem_cons] at h
    rw [List.map_cons, List.nodup_cons] at hdistinct
    refine ⟨h.1, ih (fun a ha => (h.2 a ha).after_move h.1 (fun heq => ?_) _) hdistinct.2⟩
    exact hdistinct.1 (heq ▸ List.mem_map_of_mem ha)

/-- As long as the room can be halved without falling below the threshold, arrivals are quiet. -/
theorem quiet_of_allBring (hthreshold : 1 ≤ spacing.threshold)
    (hgap : 2 * spacing.threshold ≤ spacing.gap)
    (hhalf : ∀ k ≤ capacity, spacing.threshold ≤ spacing.gap / 2 ^ k)
    (hroom : ((count + capacity + 2 : Nat) : Int) * spacing.gap < 2 ^ 63)
    (h : b.Filled spacing.gap count arrived column) (hbring : AllBring spacing column b arrivals)
    (hlength : arrived + arrivals.length ≤ capacity) :
    ∀ result ∈ (moveAll spacing b arrivals).1, IsQuiet result := by
  -- on the arrivals, for every board that was filled before
  induction arrivals generalizing b arrived with
  | nil => simp [moveAll]
  | cons arrival rest ih =>
    obtain ⟨now, r⟩ := arrival
    obtain ⟨hr, hrest⟩ := hbring
    obtain ⟨u, -, href⟩ := hr.reference
    rw [List.length_cons] at hlength
    have hroom' : ((count + arrived + 2 : Nat) : Int) * spacing.gap < 2 ^ 63 :=
      steps_mul_lt_of_le (by omega) (by omega) hroom
    obtain ⟨m, p, hmoved, hquiet, -, hfilled⟩ :=
      h.arrive hthreshold hgap (hhalf (arrived + 1) (by omega)) hroom' hr href now
    have hmove := move_of_relocation hmoved
    rw [hmove] at hrest
    rw [moveAll_cons hmove, List.forall_mem_cons]
    exact ⟨⟨m, rfl, hquiet⟩, ih hfilled hrest (by omega)⟩

/-- Arrivals directly after one task, one more than the capacity, are quiet up to the last one, which
has its column renumbered. They end up in reverse. -/
theorem overfilled_of_allBring (hthreshold : 1 ≤ spacing.threshold)
    (hgap : 2 * spacing.threshold ≤ spacing.gap)
    (hhalf : ∀ k, spacing.threshold ≤ spacing.gap / 2 ^ k ↔ k ≤ capacity)
    (hroom : ((count + capacity + 2 : Nat) : Int) * spacing.gap < 2 ^ 63)
    (h : b.Filled spacing.gap count arrived column) (hbring : AllBring spacing column b arrivals)
    {id : Int} (hdirectly : ∀ a ∈ arrivals, a.2.reference = some id ∧ a.2.after = true)
    (hfree : b.Gap column id (spacing.gap / 2 ^ arrived)) {l₁ l₂ : List Int}
    (hlineup : b.lineup column = l₁ ++ id :: l₂)
    (hlength : arrived + arrivals.length = capacity + 1) (hne : arrivals ≠ []) :
    ∃ quiet last, (moveAll spacing b arrivals).1 = quiet ++ [.ok last] ∧
      (∀ result ∈ quiet, IsQuiet result) ∧ last.rebalanced = true ∧
      (moveAll spacing b arrivals).2.lineup column =
        l₁ ++ id :: ((arrivals.map fun a => a.2.task).reverse ++ l₂) := by
  -- on the arrivals, for every board that was filled before: the first one goes between the task and
  -- those that came before it
  induction arrivals generalizing b arrived l₂ with
  | nil => exact absurd rfl hne
  | cons arrival rest ih =>
    obtain ⟨now, r⟩ := arrival
    obtain ⟨hr, hrest⟩ := hbring
    rw [List.forall_mem_cons] at hdirectly
    obtain ⟨⟨href, hside⟩, hdirectly⟩ := hdirectly
    rw [List.length_cons] at hlength
    have hfirst : id ∉ l₁ := by
      have hnodup := b.nodup_ids_order column
      change (b.lineup column).Nodup at hnodup
      rw [hlineup, List.nodup_append] at hnodup
      exact fun hmem => hnodup.2.2 id hmem id List.mem_cons_self rfl
    have hroom' : ((count + arrived + 2 : Nat) : Int) * spacing.gap < 2 ^ 63 :=
      steps_mul_lt_of_le (by omega) (by omega) hroom
    have hdistance := (hhalf arrived).mpr (by omega)
    have hbehind : ∀ {m b'}, relocation spacing r ⟨now, none⟩ b = (.ok m, b') →
        b'.lineup column = l₁ ++ id :: r.task :: l₂ := by
      intro m b' hmoved
      rw [lineup_of_brought hr (by omega) href hmoved, hlineup, insertBeside_append hfirst, hside]
      rfl
    by_cases hlast : rest = []
    · subst hlast
      obtain ⟨m, b', hmoved⟩ := h.succeeds (by omega) hroom' hr now
      have hover : spacing.gap / 2 ^ (arrived + 1) < spacing.threshold := by
        rw [← not_le, hhalf]
        simp only [List.length_nil] at hlength
        omega
      rw [moveAll_cons (move_of_relocation hmoved)]
      exact ⟨[], m, rfl, by simp, h.overfill hfree (by omega) hover hr href hside hmoved,
        hbehind hmoved⟩
    · have hpositive := List.length_pos_iff.mpr hlast
      obtain ⟨m, p, hmoved, hquiet, hplace, hfilled⟩ :=
        h.arrive hthreshold hgap ((hhalf (arrived + 1)).mpr (by omega)) hroom' hr href now
      have hmove := move_of_relocation hmoved
      rw [hmove] at hrest
      rw [hside] at hplace
      obtain ⟨quiet, last, hresults, hall, hrebalanced, hended⟩ := ih hfilled hrest hdirectly
        (h.gap_putTask hfree (by omega) hr now hplace) (hbehind hmoved) (by omega) hlast
      rw [moveAll_cons hmove]
      refine ⟨.ok m :: quiet, last, by rw [hresults]; rfl, ?_, hrebalanced, ?_⟩
      · exact List.forall_mem_cons.mpr ⟨⟨m, rfl, hquiet⟩, hall⟩
      · simpa using hended

end Operation

/-! ## Columns at the multiples of the gap -/

namespace Board

variable {b : Board} {column gap : Int} {n : Nat}

/-- A task of a column at the multiples of the gap stands at the multiple that belongs to its place. -/
theorem getElem_position (h : b.positions column = (List.range n).map (multiple gap)) {i : Nat}
    {t : Task} (ht : (b.order column)[i]? = some t) : i < n ∧ t.position = multiple gap i := by
  have hposition : (b.positions column)[i]? = some t.position := by
    rw [positions, List.getElem?_map, ht, Option.map_some]
  rw [h, List.getElem?_map, Option.map_eq_some_iff] at hposition
  obtain ⟨j, hj, hmultiple⟩ := hposition
  obtain ⟨hi, rfl⟩ := List.getElem?_eq_some_iff.mp hj
  rw [List.getElem_range] at hmultiple
  rw [List.length_range] at hi
  exact ⟨hi, hmultiple.symm⟩

/-- No task has arrived yet in a column at the multiples of the gap. -/
theorem filled_of_multiples (hb : b.IntegersFit) {d : Column} (hd : b.column? column = some d)
    (hgap : 1 ≤ gap) (hn : 1 ≤ n)
    (h : b.positions column = (List.range n).map (multiple gap)) : b.Filled gap n 0 column := by
  have hlength : (b.order column).length = n := by
    have := congrArg List.length h
    simpa [positions] using this
  have hplace : ∀ t ∈ b.order column, ∃ i, i < n ∧ t.position = multiple gap i := by
    intro t ht
    obtain ⟨i, hi⟩ := List.mem_iff_getElem?.mp ht
    exact ⟨i, getElem_position h hi⟩
  refine ⟨hb, ⟨d, hd⟩, by omega, ?_, ?_, ?_⟩
  -- the task that stands at zero is the first one
  · have hfirst := List.getElem?_eq_getElem (show 0 < (b.order column).length by omega)
    refine ⟨_, List.getElem_mem _, (getElem_position h hfirst).2.trans ?_⟩
    simp [multiple, basePosition]
  · intro t ht
    obtain ⟨i, hi, hposition⟩ := hplace t ht
    rw [hposition]
    exact within_multiple hgap (by omega)
  · rw [h, pow_zero, Int.ediv_one, List.pairwise_map]
    exact List.pairwise_lt_range.imp fun hij => .inl (multiple_add_le hgap hij)

/-- In a column at the multiples of the gap, there is a gap behind each task but the last one. -/
theorem gap_of_multiples (hgap : 1 ≤ gap)
    (h : b.positions column = (List.range n).map (multiple gap)) {id next : Int} {l₁ l₂ : List Int}
    (hlineup : b.lineup column = l₁ ++ id :: next :: l₂) : b.Gap column id gap := by
  obtain ⟨m₁, m, horder, -, hrest⟩ := List.map_eq_append_iff.mp hlineup
  obtain ⟨s, m', rfl, hs, hrest⟩ := List.map_eq_cons_iff.mp hrest
  obtain ⟨t, m₂, rfl, -, -⟩ := List.map_eq_cons_iff.mp hrest
  obtain ⟨-, hs'⟩ := getElem_position h (i := m₁.length) (t := s) (by simp [horder])
  obtain ⟨-, ht'⟩ := getElem_position h (i := m₁.length + 1) (t := t) (by simp [horder])
  have hnonneg : 0 ≤ (m₁.length : Int) * gap := Int.mul_nonneg (by omega) (by omega)
  refine ⟨s, by simp [horder], hs, ?_, t, by simp [horder], ?_⟩
  · rw [hs', multiple, basePosition]
    omega
  · rw [hs', ht', multiple, multiple, steps_succ_mul]
    omega

end Board

/-- The insert capacity of a spacing is exact for a column at the multiples of the gap, as long as the
multiples of a few more tasks fit. As many arrivals are quiet, wherever in the column they go. One
more, when they all go directly after the same task and that is not the last one, has the column
renumbered, and the tasks that have arrived then stand directly after it in reverse. -/
theorem capacity_exact {spacing : Spacing} {b : Board} {column : Int} {d : Column} {n : Nat}
    (hthreshold : 1 ≤ spacing.threshold) (hgap : 2 * spacing.threshold ≤ spacing.gap)
    (hb : b.IntegersFit) (hd : b.column? column = some d) (hn : 1 ≤ n)
    (hpositions : b.positions column = (List.range n).map (multiple spacing.gap))
    (hroom : ((n + Startup.insertCapacity spacing.gap spacing.threshold + 2 : Nat) : Int) *
      spacing.gap < 2 ^ 63) :
    (∀ arrivals, Operation.AllBring spacing column b arrivals →
      arrivals.length ≤ Startup.insertCapacity spacing.gap spacing.threshold →
      ∀ result ∈ (Operation.moveAll spacing b arrivals).1, Operation.IsQuiet result) ∧
    ∀ arrivals id next l₁ l₂, b.lineup column = l₁ ++ id :: next :: l₂ →
      (∀ a ∈ arrivals, a.2.Brings b column ∧ a.2.reference = some id ∧ a.2.after = true) →
      (arrivals.map fun a => a.2.task).Nodup →
      arrivals.length = Startup.insertCapacity spacing.gap spacing.threshold + 1 →
      ∃ quiet last, (Operation.moveAll spacing b arrivals).1 = quiet ++ [.ok last] ∧
        (∀ result ∈ quiet, Operation.IsQuiet result) ∧ last.rebalanced = true ∧
        (Operation.moveAll spacing b arrivals).2.lineup column =
          l₁ ++ id :: ((arrivals.map fun a => a.2.task).reverse ++ next :: l₂) := by
  -- the capacity of the start-up is the number of times that the gap can be halved
  have hhalf : ∀ k, spacing.threshold ≤ spacing.gap / 2 ^ k ↔
      k ≤ Startup.insertCapacity spacing.gap spacing.threshold := fun _ =>
    Startup.le_halved_iff hthreshold (by omega)
  have hfilled := Board.filled_of_multiples hb hd (by omega) hn hpositions
  constructor
  · intro arrivals hbring hlength
    exact Operation.quiet_of_allBring hthreshold hgap (fun k => (hhalf k).mpr) hroom hfilled hbring
      (by omega)
  · intro arrivals id next l₁ l₂ hlineup harrivals hdistinct hlength
    have hfree := Board.gap_of_multiples (by omega) hpositions hlineup
    -- before the first arrival, the whole gap lies behind the task
    rw [← Int.ediv_one spacing.gap, ← pow_zero 2] at hfree
    refine Operation.overfilled_of_allBring hthreshold hgap hhalf hroom hfilled
      (Operation.allBring_of_distinct (fun a ha => (harrivals a ha).1) hdistinct)
      (fun a ha => (harrivals a ha).2) hfree hlineup (by omega) ?_
    rintro rfl
    cases hlength

/-- A board with a column at the multiples of four, and two tasks in another one. -/
def evenBoard : Board :=
  { splitBoard with
    tasks := [(1, "a", 1, 0), (2, "b", 1, 4), (3, "c", 2, 0), (4, "d", 2, 4)].map
      fun (id, code, column, position) =>
        ⟨id, ⟨code, "", "", "", none, []⟩, column, position, ⟨0⟩, ⟨0⟩⟩
    taskIds_nodup := by decide
    taskCodes_nodup := by decide }

/-- The gap of four can be halved once before it falls below two, so the second arrival directly after
the first task is told of a renumbering. -/
theorem capacity_exact_even :
    let first : Timestamp × Operation.MoveRequest := (⟨9⟩, ⟨3, none, some 1, true, none⟩)
    let second : Timestamp × Operation.MoveRequest := (⟨60⟩, ⟨4, some 1, some 1, true, some 7⟩)
    Startup.insertCapacity 4 2 = 1 ∧
      (∀ result ∈ (Operation.moveAll ⟨4, 2⟩ evenBoard [first]).1, Operation.IsQuiet result) ∧
      (∃ last, (Operation.moveAll ⟨4, 2⟩ evenBoard [first, second]).1.getLast? = some (.ok last) ∧
        last.rebalanced = true) ∧
      (Operation.moveAll ⟨4, 2⟩ evenBoard [first, second]).2.lineup 1 = [1, 4, 3, 2] := by
  intro first second
  have hcapacity : Startup.insertCapacity 4 2 = 1 := by decide
  have hpositions : evenBoard.positions 1 = (List.range 2).map (multiple 4) := by cbv
  obtain ⟨hquiet, hover⟩ := capacity_exact (by decide : 1 ≤ (⟨4, 2⟩ : Spacing).threshold)
    (by decide) (by decide : evenBoard.IntegersFit) (rfl : evenBoard.column? 1 = some _) (by decide)
    hpositions (by rw [hcapacity]; decide)
  have hreference : ⟨1, ⟨"a", "", "", "", none, []⟩, 1, 0, ⟨0⟩, ⟨0⟩⟩ ∈ evenBoard.order 1 :=
    Board.mem_order.mpr ⟨by decide, rfl⟩
  have hfirst : first.2.Brings evenBoard 1 :=
    ⟨⟨_, rfl, by decide⟩, ⟨_, hreference, rfl⟩, by simp [first]⟩
  have hsecond : second.2.Brings evenBoard 1 :=
    ⟨⟨_, rfl, by decide⟩, ⟨_, hreference, rfl⟩, by simp [second]⟩
  obtain ⟨quiet, last, hresults, -, hlast, hlineup⟩ := hover [first, second] 1 2 [] [] (by cbv)
    (by simp [first, second, hfirst, hsecond]) (by decide) (by rw [hcapacity]; rfl)
  refine ⟨hcapacity, hquiet [first] ⟨hfirst, trivial⟩ (by rw [hcapacity]; rfl),
    ⟨last, by rw [hresults, List.getLast?_concat], hlast⟩, hlineup⟩

end Kanban
