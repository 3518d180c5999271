import Kanban.Proofs.Crowding
import Mathlib

/-!
# The closest positions

Only neighbours are compared, after sorting, and yet the answers are the ones that a comparison of
every position with every other one would give: whether two of them are closer than a threshold, and
how far the closest two are apart. The reason is that the distances between neighbours and those
between any two positions have the same lower bounds (`lowerBounds_gaps`). In ascending order the
distances between neighbours add up to the distance between the two ends (`sum_differences`).
-/

namespace Kanban.Spacing

/-! ## Any two positions -/

/-- The distances between the positions at any two places of a list. -/
def distances (positions : List Int) : Set Int :=
  {d | ∃ (i j : Fin positions.length), i ≠ j ∧ d = |positions[i] - positions[j]|}

/-- Being a distance apart does not depend on which of the two stands first. -/
theorem apart_iff_le_abs {distance p q : Int} : Apart distance p q ↔ distance ≤ |p - q| := by
  unfold Apart
  rw [le_abs]
  omega

/-- Any two positions are a distance apart exactly when it is no larger than any of the distances
between them. -/
theorem pairwise_apart_iff {positions : List Int} {distance : Int} :
    positions.Pairwise (Apart distance) ↔ distance ∈ lowerBounds (distances positions) := by
  rw [List.pairwise_iff_getElem]
  constructor
  · rintro h _ ⟨i, j, hne, rfl⟩
    apply apart_iff_le_abs.mp
    -- whichever of the two places comes first
    rcases lt_or_gt_of_ne hne with hlt | hgt
    · exact h i j i.isLt j.isLt hlt
    · exact (h j i j.isLt i.isLt hgt).symm
  · intro h i j hi hj hlt
    apply apart_iff_le_abs.mpr
    apply h
    exact ⟨⟨i, hi⟩, ⟨j, hj⟩, Fin.ne_of_lt hlt, rfl⟩

/-- The distances between neighbours reach as far as those between any two positions do. -/
theorem lowerBounds_gaps (positions : List Int) :
    lowerBounds {d | d ∈ gaps positions} = lowerBounds (distances positions) := by
  ext distance
  rw [← pairwise_apart_iff, ← isCrowded_eq_false_iff, isCrowded_eq_false_iff_gaps]
  rfl

/-- The least integer of a set is known from its lower bounds: it is the last of them. -/
theorem isLeast_of_lowerBounds_eq {S T : Set Int} (h : lowerBounds S = lowerBounds T) {d : Int}
    (hd : IsLeast S d) : IsLeast T d := by
  have hbound : d ∈ lowerBounds T := h ▸ hd.2
  refine ⟨?_, hbound⟩
  by_contra hnot
  have hmore : d + 1 ∈ lowerBounds T := by
    intro e he
    have hle := hbound he
    have hne : e ≠ d := fun heq => hnot (heq ▸ he)
    omega
  rw [← h] at hmore
  have := hmore hd.1
  omega

/-- The smallest gap is the least distance between any two places, and not only between neighbours.
-/
theorem smallestGap?_eq_some_iff {positions : List Int} {gap : Int} :
    smallestGap? positions = some gap ↔ IsLeast (distances positions) gap := by
  have hgaps : smallestGap? positions = some gap ↔ IsLeast {d | d ∈ gaps positions} gap :=
    List.min?_eq_some_iff
  rw [hgaps]
  exact ⟨isLeast_of_lowerBounds_eq (lowerBounds_gaps positions),
    isLeast_of_lowerBounds_eq (lowerBounds_gaps positions).symm⟩

/-- A list is crowded just when two of its places are closer than the threshold. -/
theorem isCrowded_eq_true_iff {positions : List Int} {threshold : Int} :
    isCrowded positions threshold = true ↔ ∃ d ∈ distances positions, d < threshold := by
  rw [← Bool.not_eq_false, isCrowded_eq_false_iff, pairwise_apart_iff]
  simp [lowerBounds]

/-! ## Neighbours -/

theorem length_differences (l : List Int) : (differences l).length = l.length - 1 := by
  fun_induction differences l with
  | case1 lower upper rest ih => simp [ih]
  | case2 l hl =>
    cases l with
    | nil => rfl
    | cons p rest =>
      cases rest with
      | nil => rfl
      | cons q rest => exact absurd rfl (hl p q rest)

/-- The steps from each member of a list to the next lead from the first member to the last one. -/
theorem sum_differences (p : Int) (rest : List Int) :
    (differences (p :: rest)).sum = (p :: rest).getLast (List.cons_ne_nil p rest) - p := by
  induction rest generalizing p with
  | nil => simp [differences]
  | cons q rest ih =>
    rw [differences, List.sum_cons, ih q, List.getLast_cons_cons]
    omega

theorem length_gaps (positions : List Int) : (gaps positions).length = positions.length - 1 := by
  rw [gaps, length_differences, List.length_mergeSort]

theorem gaps_nonneg (positions : List Int) : ∀ d ∈ gaps positions, 0 ≤ d := by
  have hzero : (0 : Int) ∈ lowerBounds {d | d ∈ gaps positions} := by
    rw [lowerBounds_gaps]
    rintro _ ⟨i, j, -, rfl⟩
    exact abs_nonneg _
  exact fun d hd => hzero hd

/-- In ascending order the steps lead from the least member to the greatest one. -/
theorem sum_differences_of_ascending {l : List Int} (hl : l.Pairwise (· ≤ ·)) {low high : Int}
    (hlow : IsLeast {p | p ∈ l} low) (hhigh : IsGreatest {p | p ∈ l} high) :
    (differences l).sum = high - low := by
  cases l with
  | nil => exact absurd hlow.1 List.not_mem_nil
  | cons p rest =>
    have hfirst : p = low := by
      have hle : ∀ q ∈ rest, p ≤ q := (List.pairwise_cons.mp hl).1
      have hp : IsLeast {q | q ∈ p :: rest} p :=
        ⟨List.mem_cons_self, List.forall_mem_cons.mpr ⟨le_refl p, hle⟩⟩
      exact hp.unique hlow
    have hlast : (p :: rest).getLast (List.cons_ne_nil p rest) = high := by
      apply IsGreatest.unique _ hhigh
      exact ⟨List.getLast_mem _, fun q hq => hl.rel_getLast hq⟩
    rw [sum_differences, hlast, hfirst]

/-- The distances between neighbours add up to the one between the smallest and the largest
position. -/
theorem sum_gaps {positions : List Int} {low high : Int} (hlow : positions.min? = some low)
    (hhigh : positions.max? = some high) : (gaps positions).sum = high - low := by
  have hmem : {p | p ∈ positions.mergeSort (· ≤ ·)} = {p | p ∈ positions} := by
    ext p
    exact List.mem_mergeSort
  apply sum_differences_of_ascending (ascending_mergeSort positions)
  · rw [hmem]
    exact List.min?_eq_some_iff.mp hlow
  · rw [hmem]
    exact List.max?_eq_some_iff.mp hhigh

/-- Sorting forgets the order in which positions are listed. -/
theorem gaps_perm {positions positions' : List Int} (h : positions'.Perm positions) :
    gaps positions' = gaps positions := by
  have hsorted : (positions'.mergeSort (· ≤ ·)).Perm (positions.mergeSort (· ≤ ·)) :=
    (List.mergeSort_perm positions' _).trans (h.trans (List.mergeSort_perm positions _).symm)
  have heq : positions'.mergeSort (· ≤ ·) = positions.mergeSort (· ≤ ·) :=
    hsorted.eq_of_pairwise' (ascending_mergeSort positions') (ascending_mergeSort positions)
  rw [gaps, gaps, heq]

/-! ## All pairs -/

/-- The neighbours answer for all pairs. A list of positions is crowded exactly when two places of it
are closer than the threshold, and its smallest gap is the smallest distance between two places, of
which there are none in a list of less than two positions. Its gaps, one less than the positions and
none in an empty list, lead from the smallest position up to the largest one. The order in which the
positions are listed is of no importance. -/
theorem gaps_of_all_pairs (positions : List Int) :
    (∀ threshold, isCrowded positions threshold = true ↔
      ∃ (i j : Fin positions.length), i ≠ j ∧ |positions[i] - positions[j]| < threshold) ∧
    (∀ gap, smallestGap? positions = some gap ↔ IsLeast (distances positions) gap) ∧
    (smallestGap? positions = none ↔ positions.length < 2) ∧
    (gaps positions).length = positions.length - 1 ∧
    (∀ d ∈ gaps positions, 0 ≤ d) ∧
    (∀ low ∈ positions.min?, ∀ high ∈ positions.max?, (gaps positions).sum = high - low) ∧
    ∀ positions' : List Int, positions'.Perm positions →
      gaps positions' = gaps positions ∧ smallestGap? positions' = smallestGap? positions ∧
        ∀ threshold, isCrowded positions' threshold = isCrowded positions threshold := by
  refine ⟨?_, fun gap => smallestGap?_eq_some_iff, ?_, length_gaps positions, gaps_nonneg positions,
    fun low hlow high hhigh => sum_gaps hlow hhigh, ?_⟩
  · intro threshold
    rw [isCrowded_eq_true_iff]
    constructor
    · rintro ⟨_, ⟨i, j, hne, rfl⟩, hlt⟩
      exact ⟨i, j, hne, hlt⟩
    · rintro ⟨i, j, hne, hlt⟩
      exact ⟨_, ⟨i, j, hne, rfl⟩, hlt⟩
  · rw [smallestGap?, List.min?_eq_none_iff, ← List.length_eq_zero_iff, length_gaps]
    omega
  -- everything is computed from the gaps of the sorted list, which a permutation does not change
  · intro positions' hperm
    have hgaps := gaps_perm hperm
    have hsmallest : smallestGap? positions' = smallestGap? positions := by
      rw [smallestGap?, smallestGap?, hgaps]
    refine ⟨hgaps, hsmallest, ?_⟩
    intro threshold
    rw [isCrowded, isCrowded, hsmallest]

/-- Two tasks at one position, with others between them in the list and below them. -/
theorem gaps_of_all_pairs_repeated :
    let positions : List Int := [7, -3, 7, 2]
    IsLeast (distances positions) 0 ∧ (gaps positions).sum = 10 ∧
      gaps [-3, 2, 7, 7] = gaps positions ∧ gaps positions = [5, 5, 0] := by
  intro positions
  obtain ⟨-, hsmallest, -, -, -, hsum, hperm⟩ := gaps_of_all_pairs positions
  have hzero : smallestGap? positions = some 0 := by cbv
  have hsame : [-3, 2, 7, 7].Perm positions := by decide
  have hends : (gaps positions).sum = 7 - -3 := hsum (-3) (by decide) 7 (by decide)
  exact ⟨(hsmallest 0).mp hzero, hends, (hperm _ hsame).1, by cbv⟩

end Kanban.Spacing
