import Kanban.Spacing
import Mathlib.Data.List.Chain

/-!
# Crowded columns

`Spacing.isCrowded` compares neighbours only, after sorting. `isCrowded_eq_false_iff` says that this
is enough: a list of positions is not crowded exactly when any two of them are a threshold apart, in
whatever order they are listed.
-/

namespace Kanban.Spacing

def Apart (distance p q : Int) : Prop := p + distance ≤ q ∨ q + distance ≤ p

theorem Apart.symm {distance p q : Int} (h : Apart distance p q) : Apart distance q p := Or.symm h

theorem Apart.mono {distance distance' p q : Int} (h : Apart distance p q)
    (hle : distance' ≤ distance) : Apart distance' p q := by
  unfold Apart at *
  omega

/-! ## Neighbours -/

/-- Two positions stand in this order, a distance apart. -/
def Spaced (distance p q : Int) : Prop := p ≤ q ∧ p + distance ≤ q

/-- Distances add up along a line, so neighbours that are spaced space the whole line. -/
theorem Spaced.trans {distance p q r : Int} (h : Spaced distance p q) (h' : Spaced distance q r) :
    Spaced distance p r := by
  unfold Spaced at *
  omega

instance (distance : Int) : IsTrans Int (Spaced distance) := ⟨fun _ _ _ => Spaced.trans⟩

/-- In ascending order, being apart and being spaced are the same. -/
theorem spaced_iff_apart {distance p q : Int} (h : p ≤ q) :
    Spaced distance p q ↔ Apart distance p q := by
  unfold Spaced Apart
  omega

/-- The differences between neighbours reach a distance when the neighbours are that far apart. -/
theorem forall_differences_iff {distance : Int} {l : List Int} :
    (∀ d ∈ differences l, distance ≤ d) ↔ l.IsChain fun p q => p + distance ≤ q := by
  induction l with
  | nil => simp [differences]
  | cons p rest ih =>
    cases rest with
    | nil => simp [differences]
    | cons q rest =>
      rw [differences, List.forall_mem_cons, ih, List.isChain_cons_cons]
      constructor
      · rintro ⟨hpq, hrest⟩
        exact ⟨by omega, hrest⟩
      · rintro ⟨hpq, hrest⟩
        exact ⟨by omega, hrest⟩

/-- In an ascending list it is enough that neighbours are apart. -/
theorem isChain_iff_pairwise_apart {distance : Int} {l : List Int} (h : l.Pairwise (· ≤ ·)) :
    (l.IsChain fun p q => p + distance ≤ q) ↔ l.Pairwise (Apart distance) := by
  constructor
  · -- distances to neighbours alone are not transitive when the distance is negative; with the
    -- order they are
    intro hchain
    have hspaced : l.IsChain (Spaced distance) := by
      rw [List.isChain_iff_getElem] at hchain ⊢
      intro i hi
      exact ⟨List.pairwise_iff_getElem.mp h i (i + 1) _ _ (Nat.lt_succ_self i), hchain i hi⟩
    exact (List.isChain_iff_pairwise.mp hspaced).imp fun {p q} hpq =>
      (spaced_iff_apart hpq.1).mp hpq
  · intro hapart
    refine ((h.and hapart).imp ?_).isChain
    rintro p q ⟨hle, hpq⟩
    exact ((spaced_iff_apart hle).mpr hpq).2

/-! ## Crowded lists -/

theorem ascending_mergeSort (l : List Int) :
    (l.mergeSort (· ≤ ·)).Pairwise (· ≤ ·) := by
  have htrans : ∀ p q r : Int, decide (p ≤ q) → decide (q ≤ r) → decide (p ≤ r) := by
    simp only [decide_eq_true_eq]
    omega
  have htotal : ∀ p q : Int, (decide (p ≤ q) || decide (q ≤ p)) = true := by
    simp only [Bool.or_eq_true, decide_eq_true_eq]
    omega
  exact (List.pairwise_mergeSort htrans htotal l).imp of_decide_eq_true

/-- A list is not crowded when no gap is below the threshold. -/
theorem isCrowded_eq_false_iff_gaps {positions : List Int} {threshold : Int} :
    isCrowded positions threshold = false ↔ ∀ d ∈ gaps positions, threshold ≤ d := by
  unfold isCrowded smallestGap?
  -- a list without gaps is never crowded; else the smallest gap decides
  cases hmin : (gaps positions).min? with
  | none =>
    have : gaps positions = [] := by simpa using hmin
    simp [this]
  | some gap =>
    obtain ⟨hmem, hle⟩ := List.min?_eq_some_iff.mp hmin
    rw [decide_eq_false_iff_not]
    constructor
    · intro hgap d hd
      have := hle d hd
      omega
    · intro h
      have := h gap hmem
      omega

/-- A list of positions is not crowded exactly when any two of them are a threshold apart. -/
theorem isCrowded_eq_false_iff {positions : List Int} {threshold : Int} :
    isCrowded positions threshold = false ↔ positions.Pairwise (Apart threshold) := by
  rw [isCrowded_eq_false_iff_gaps, gaps, forall_differences_iff,
    isChain_iff_pairwise_apart (ascending_mergeSort positions)]
  exact (List.mergeSort_perm positions _).pairwise_iff Apart.symm

end Kanban.Spacing
