import Kanban.Proofs.Landing
import Mathlib.Data.List.Perm.Basic

/-!
# The two sides of a place

A place in a column has two sides: the entries that stay before a task which is put there, and those
that stay behind it (`Position.sides?`). They are all that `Position.place` depends on. It misses the
reference when there are no sides, it finds no room when the entries next to the place leave no
integer between them, and otherwise it gives a position strictly between the two sides, so that every
way of sorting the column by position puts the task there (`place_sides`).

The rules for the ends of a column and for the middle of a gap differ in how they round, and with
that in where they put a task. None of this shows in the result: the middle of two positions at
least two apart is strictly between them whatever their signs.
-/

namespace Kanban.Position

variable {κ : Type}

/-! ## Sides -/

/-- The entries before a place and those behind it. -/
structure Sides (κ : Type) where
  before : List (κ × Int)
  behind : List (κ × Int)
deriving DecidableEq, Repr

/-- The sides of the place after or before the first entry with the key `reference`, or at the end
when there is none. A reference that is not in the column has no sides. -/
def sides? [DecidableEq κ] (ordered : List (κ × Int)) (reference : Option κ) (after : Bool) :
    Option (Sides κ) :=
  match reference with
  | none => some ⟨ordered, []⟩
  | some key =>
    (ordered.findIdx? fun e => decide (e.1 = key)).map fun i =>
      let cut := if after then i + 1 else i
      ⟨ordered.take cut, ordered.drop cut⟩

namespace Sides

/-- The entries next to a place, at the positions `lower` and `upper`, have no integer between
them. -/
def IsFull (s : Sides κ) (lower upper : Int) : Prop :=
  s.before.getLast?.map Prod.snd = some lower ∧ s.behind.head?.map Prod.snd = some upper ∧
    lower ≤ upper ∧ upper - lower ≤ 1

/-- A position lies strictly between the two sides. -/
def Divides (s : Sides κ) (p : Int) : Prop :=
  (∀ e ∈ s.before, e.2 < p) ∧ ∀ e ∈ s.behind, p < e.2

theorem isFull_nil_behind {before : List (κ × Int)} {lower upper : Int} :
    ¬ (Sides.mk before []).IsFull lower upper := by
  rintro ⟨-, h, -⟩
  cases h

theorem isFull_nil_before {behind : List (κ × Int)} {lower upper : Int} :
    ¬ (Sides.mk [] behind).IsFull lower upper := by
  rintro ⟨h, -⟩
  cases h

/-- A place is full when its two neighbours are equal or next to each other. -/
theorem isFull_iff {init rest : List (κ × Int)} {e f : κ × Int} {lower upper : Int} :
    (Sides.mk (init ++ [e]) (f :: rest)).IsFull lower upper ↔
      e.2 = lower ∧ f.2 = upper ∧ e.2 ≤ f.2 ∧ f.2 - e.2 ≤ 1 := by
  unfold IsFull
  simp only [List.getLast?_append, List.getLast?_singleton, Option.some_or, Option.map_some,
    List.head?_cons, Option.some.injEq]
  constructor
  · rintro ⟨rfl, rfl, hle, hclose⟩
    exact ⟨rfl, rfl, hle, hclose⟩
  · rintro ⟨rfl, rfl, hle, hclose⟩
    exact ⟨rfl, rfl, hle, hclose⟩

/-- A position between the neighbours of a place lies between its sides, as these are listed by
ascending position. -/
theorem divides_of_neighbours {init rest : List (κ × Int)} {e f : κ × Int} {p : Int}
    (hsorted : ((init ++ [e]) ++ f :: rest).Pairwise fun e f => e.2 ≤ f.2) (he : e.2 < p)
    (hf : p < f.2) : (Sides.mk (init ++ [e]) (f :: rest)).Divides p := by
  obtain ⟨hbefore, hbehind, -⟩ := List.pairwise_append.mp hsorted
  constructor
  · intro d hd
    rcases List.mem_append.mp hd with hd | hd
    · have hle := (List.pairwise_append.mp hbefore).2.2 d hd e List.mem_cons_self
      omega
    · obtain rfl := List.mem_singleton.mp hd
      exact he
  · intro d hd
    rcases List.mem_cons.mp hd with rfl | hd
    · exact hf
    · have hle := (List.pairwise_cons.mp hbehind).1 d hd
      omega

/-- A permutation of two parts that a test tells apart permutes each of them. -/
theorem perm_parts (test : κ × Int → Bool) {l₁ l₂ m₁ m₂ : List (κ × Int)}
    (h : (l₁ ++ l₂).Perm (m₁ ++ m₂)) (hl₁ : ∀ e ∈ l₁, test e = true) (hm₁ : ∀ e ∈ m₁, test e = true)
    (hl₂ : ∀ e ∈ l₂, test e = false) (hm₂ : ∀ e ∈ m₂, test e = false) :
    l₁.Perm m₁ ∧ l₂.Perm m₂ := by
  have hparts : ∀ {a c : List (κ × Int)}, (∀ e ∈ a, test e = true) → (∀ e ∈ c, test e = false) →
      (a ++ c).filter test = a := by
    intro a c ha hc
    rw [List.filter_append, List.filter_eq_self.mpr ha, List.filter_eq_nil_iff.mpr, List.append_nil]
    intro e he
    rw [hc e he]
    exact Bool.false_ne_true
  have h₁ : l₁.Perm m₁ := by
    have := h.filter test
    rwa [hparts hl₁ hl₂, hparts hm₁ hm₂] at this
  exact ⟨h₁, (List.perm_append_left_iff l₁).mp (h.trans (h₁.symm.append_right m₂))⟩

/-- A task whose position divides the sides stands between them in every list of the column that is
sorted by position, whatever its key is. -/
theorem Divides.exists_split {s : Sides κ} {p : Int} (h : s.Divides p) {key : κ}
    {listed : List (κ × Int)} (hperm : listed.Perm ((key, p) :: (s.before ++ s.behind)))
    (hsorted : listed.Pairwise fun e f => e.2 ≤ f.2) :
    ∃ l₁ l₂, listed = l₁ ++ (key, p) :: l₂ ∧ l₁.Perm s.before ∧ l₂.Perm s.behind := by
  obtain ⟨l₁, l₂, rfl⟩ := List.append_of_mem (hperm.mem_iff.mpr List.mem_cons_self)
  have hrest : (l₁ ++ l₂).Perm (s.before ++ s.behind) := by
    apply List.Perm.cons_inv (a := (key, p))
    exact List.perm_middle.symm.trans hperm
  have hne : ∀ e ∈ l₁ ++ l₂, e.2 ≠ p := by
    intro e he heq
    rcases List.mem_append.mp (hrest.subset he) with hmem | hmem
    · have := h.1 e hmem
      omega
    · have := h.2 e hmem
      omega
  obtain ⟨-, hs₂, hcross⟩ := List.pairwise_append.mp hsorted
  refine ⟨l₁, l₂, rfl, ?_⟩
  -- what stands before the task, and what was to stay before it, are the entries at smaller positions
  apply perm_parts (fun e => decide (e.2 < p)) hrest
  · intro e he
    have hle := hcross e he (key, p) List.mem_cons_self
    have := hne e (List.mem_append_left l₂ he)
    exact decide_eq_true (by omega)
  · intro e he
    exact decide_eq_true (h.1 e he)
  · intro e he
    have hle := (List.pairwise_cons.mp hs₂).1 e he
    exact decide_eq_false (by omega)
  · intro e he
    have := h.2 e he
    exact decide_eq_false (by omega)

/-- An outcome says that a place is full just when it is, and is else a position between the sides. -/
def Settles (s : Sides κ) (outcome : Except (Misplacement κ) Int) : Prop :=
  (∀ lower upper, outcome = .error (.exhausted lower upper) ↔ s.IsFull lower upper) ∧
    ((∀ lower upper, ¬ s.IsFull lower upper) → ∃ p, outcome = .ok p ∧ s.Divides p)

/-- A position between the sides settles the place, if the place is not full. -/
theorem settles_ok {s : Sides κ} {p : Int} (hroom : ∀ lower upper, ¬ s.IsFull lower upper)
    (hp : s.Divides p) : s.Settles (.ok p) := by
  constructor
  · intro lower upper
    constructor
    · intro h
      cases h
    · intro h
      exact absurd h (hroom lower upper)
  · intro _
    exact ⟨p, rfl, hp⟩

/-- Behind all entries a larger position settles the place. -/
theorem settles_behind_all {before : List (κ × Int)} {p : Int} (h : ∀ e ∈ before, e.2 < p) :
    (Sides.mk before []).Settles (.ok p) := by
  apply settles_ok
  · intro lower upper
    exact isFull_nil_behind
  · constructor
    · exact h
    · intro e he
      cases he

/-- Before all entries a smaller position settles the place. -/
theorem settles_before_all {behind : List (κ × Int)} {p : Int} (h : ∀ e ∈ behind, p < e.2) :
    (Sides.mk [] behind).Settles (.ok p) := by
  apply settles_ok
  · intro lower upper
    exact isFull_nil_before
  · constructor
    · intro e he
      cases he
    · exact h

/-- Between two entries the middle of their positions settles the place. -/
theorem settles_between {init rest : List (κ × Int)} {e f : κ × Int}
    (hsorted : ((init ++ [e]) ++ f :: rest).Pairwise fun e f => e.2 ≤ f.2) :
    (Sides.mk (init ++ [e]) (f :: rest)).Settles (between e.2 f.2) := by
  -- neighbours are in order, though they may be equal
  have hle : e.2 ≤ f.2 := by
    apply (List.pairwise_append.mp hsorted).2.2 e _ f List.mem_cons_self
    exact List.mem_append_right init List.mem_cons_self
  by_cases hroom : e.2 + 2 ≤ f.2
  · rw [between_of_room hroom]
    -- the midpoint keeps a distance of one to both neighbours
    obtain ⟨hlower, hupper⟩ : e.2 + 1 ≤ midpoint e.2 f.2 ∧ midpoint e.2 f.2 + 1 ≤ f.2 :=
      midpoint_apart hroom
    apply settles_ok
    · intro lower upper hfull
      obtain ⟨-, -, -, hclose⟩ := isFull_iff.mp hfull
      omega
    · exact divides_of_neighbours hsorted (by omega) (by omega)
  -- there is no room, so the place is told to be full between these two
  · rw [between_of_close hle (by omega)]
    constructor
    · intro lower upper
      rw [isFull_iff]
      constructor
      · intro h
        cases h
        exact ⟨rfl, rfl, hle, by omega⟩
      · rintro ⟨rfl, rfl, -, -⟩
        rfl
    · intro hopen
      exact absurd (isFull_iff.mpr ⟨rfl, rfl, hle, by omega⟩) (hopen e.2 f.2)

end Sides

/-! ## Where a task lands -/

variable [DecidableEq κ]

/-- The reference is on the side that the task does not go to. -/
theorem sides?_append {key : κ} {q : Int} {l₁ l₂ : List (κ × Int)} (h : key ∉ l₁.map Prod.fst)
    (after : Bool) :
    sides? (l₁ ++ (key, q) :: l₂) (some key) after =
      some (if after then ⟨l₁ ++ [(key, q)], l₂⟩ else ⟨l₁, (key, q) :: l₂⟩) := by
  have hindex : (l₁ ++ (key, q) :: l₂).findIdx? (fun e => decide (e.1 = key)) = some l₁.length := by
    have hnone : l₁.findIdx? (fun e => decide (e.1 = key)) = none := by
      rw [List.findIdx?_eq_none_iff]
      intro e he
      have hne : e.1 ≠ key := fun heq => h (heq ▸ List.mem_map_of_mem he)
      exact decide_eq_false hne
    rw [List.findIdx?_append, hnone, List.findIdx?_cons]
    simp
  simp only [sides?, hindex, Option.map_some]
  cases after with
  | true => simp [List.take_append, List.drop_append, List.take_of_length_le]
  | false => simp

/-- There is no place only next to a reference that is missing. -/
theorem sides?_eq_none_iff {ordered : List (κ × Int)} {reference : Option κ} {after : Bool} :
    sides? ordered reference after = none ↔
      ∃ key, reference = some key ∧ key ∉ ordered.map Prod.fst := by
  cases reference with
  | none => simp [sides?]
  | some key =>
    unfold sides?
    simp only [Option.map_eq_none_iff, List.findIdx?_eq_none_iff, decide_eq_false_iff_not,
      Option.some.injEq, exists_eq_left', List.mem_map, not_exists, not_and]

/-- The sides make up the column. -/
theorem before_append_behind {ordered : List (κ × Int)} {reference : Option κ} {after : Bool}
    {s : Sides κ} (hs : sides? ordered reference after = some s) :
    s.before ++ s.behind = ordered := by
  cases reference with
  | none =>
    cases hs
    exact List.append_nil ordered
  | some key =>
    obtain ⟨i, -, rfl⟩ := Option.map_eq_some_iff.mp hs
    exact List.take_append_drop _ _

/-- A place that has sides is settled. -/
theorem settles_place {ordered : List (κ × Int)} (hsorted : ordered.Pairwise fun e f => e.2 ≤ f.2)
    {gap : Int} (hgap : 1 ≤ gap) {reference : Option κ} {after : Bool} {s : Sides κ}
    (hs : sides? ordered reference after = some s) :
    s.Settles (place ordered reference after gap) := by
  cases reference with
  | none =>
    -- at the end there is nothing behind
    cases hs
    apply Sides.settles_behind_all
    intro e he
    have : e.2 + gap ≤ atEnd ordered gap := le_atEnd he
    omega
  | some key =>
    -- there are sides, so the reference is in the column
    have hmem : key ∈ ordered.map Prod.fst := by
      by_contra hmissing
      rw [sides?_eq_none_iff.mpr ⟨key, rfl, hmissing⟩] at hs
      cases hs
    obtain ⟨l₁, q, l₂, rfl, hl₁, hcases⟩ := place_cases hmem after gap
    rw [sides?_append hl₁, Option.some.injEq] at hs
    -- the entries before the reference and those behind it are each in order
    obtain ⟨-, hs₂, hcross⟩ := List.pairwise_append.mp hsorted
    rcases hcases with ⟨rfl, rfl, hplace⟩ | ⟨rfl, f, rest, rfl, hplace⟩ | ⟨rfl, rfl, hplace⟩ |
      ⟨rfl, init, e, rfl, hplace⟩
    · -- after the last entry
      obtain rfl := hs
      rw [hplace]
      apply Sides.settles_behind_all
      intro e he
      rcases List.mem_append.mp he with he | he
      · have : e.2 ≤ q := hcross e he (key, q) List.mem_cons_self
        omega
      · obtain rfl := List.mem_singleton.mp he
        show q < q + gap
        omega
    · -- after another entry
      obtain rfl := hs
      rw [hplace]
      apply Sides.settles_between (e := (key, q))
      rwa [List.append_assoc]
    · -- before the first entry
      obtain rfl := hs
      rw [hplace]
      have hhead : (if 0 < q then q.tdiv 2 else q - gap) < q := head_lt hgap
      apply Sides.settles_before_all
      intro e he
      rcases List.mem_cons.mp he with rfl | he
      · exact hhead
      · have : q ≤ e.2 := (List.pairwise_cons.mp hs₂).1 e he
        omega
    · -- before another entry
      obtain rfl := hs
      rw [hplace]
      exact Sides.settles_between (f := (key, q)) hsorted

/-- Where a task lands in a column that is listed by ascending position, for every gap. The reference
is missing just when no entry has its key. Otherwise the place has two sides: there is no room when
the entries next to the place have no integer between them, and only then; and else the task gets a
position strictly between the sides, so that in every list of the column sorted by position it stands
behind exactly the entries that were to stay before it. -/
theorem place_sides {ordered : List (κ × Int)} (hsorted : ordered.Pairwise fun e f => e.2 ≤ f.2)
    {gap : Int} (hgap : 1 ≤ gap) (reference : Option κ) (after : Bool) :
    (∀ key, place ordered reference after gap = .error (.missing key) ↔
      reference = some key ∧ key ∉ ordered.map Prod.fst) ∧
    (sides? ordered reference after = none ↔
      ∃ key, reference = some key ∧ key ∉ ordered.map Prod.fst) ∧
    ∀ s, sides? ordered reference after = some s →
      (∀ lower upper, place ordered reference after gap = .error (.exhausted lower upper) ↔
        s.IsFull lower upper) ∧
      ((∀ lower upper, ¬ s.IsFull lower upper) →
        ∃ p, place ordered reference after gap = .ok p ∧
          (∀ e ∈ s.before, e.2 < p) ∧ (∀ e ∈ s.behind, p < e.2) ∧
          ∀ key listed, listed.Perm ((key, p) :: ordered) →
            listed.Pairwise (fun e f => e.2 ≤ f.2) →
            ∃ l₁ l₂, listed = l₁ ++ (key, p) :: l₂ ∧ l₁.Perm s.before ∧ l₂.Perm s.behind) := by
  refine ⟨?_, sides?_eq_none_iff, ?_⟩
  · intro key
    cases reference with
    | none => simp [place]
    | some k =>
      rw [place_eq_missing_iff, Option.some.injEq]
      constructor
      · rintro ⟨rfl, hmissing⟩
        exact ⟨rfl, hmissing⟩
      · rintro ⟨rfl, hmissing⟩
        exact ⟨rfl, hmissing⟩
  · intro s hs
    obtain ⟨hfull, hroom⟩ := settles_place hsorted hgap hs
    refine ⟨hfull, fun hopen => ?_⟩
    obtain ⟨p, hp, hdivides⟩ := hroom hopen
    refine ⟨p, hp, hdivides.1, hdivides.2, ?_⟩
    intro key listed hperm hlisted
    -- the two sides together are the whole column
    rw [← before_append_behind hs] at hperm
    exact hdivides.exists_split hperm hlisted

/-- Between two entries on both sides of zero, with a third one at the smaller position, the middle is
taken toward zero, and the task stands behind both entries at that position. -/
theorem place_sides_across_zero :
    place [((3 : Int), -5), (1, -5), (2, 2)] (some 2) false 1 = .ok (-1) ∧
    ∀ key listed, listed.Perm [(key, -1), ((3 : Int), -5), (1, -5), (2, 2)] →
      listed.Pairwise (fun e f => e.2 ≤ f.2) →
      ∃ l₁ l₂, listed = l₁ ++ (key, -1) :: l₂ ∧ l₁.Perm [(3, -5), (1, -5)] ∧ l₂.Perm [(2, 2)] := by
  have hplace : place [((3 : Int), -5), (1, -5), (2, 2)] (some 2) false 1 = .ok (-1) := by decide
  have hs : sides? [((3 : Int), -5), (1, -5), (2, 2)] (some 2) false =
      some ⟨[(3, -5), (1, -5)], [(2, 2)]⟩ := by decide
  have hsorted : [((3 : Int), (-5 : Int)), (1, -5), (2, 2)].Pairwise fun e f => e.2 ≤ f.2 := by
    decide
  obtain ⟨-, -, hsettled⟩ := place_sides hsorted (by decide : (1 : Int) ≤ 1) (some 2) false
  obtain ⟨hfull, hroom⟩ := hsettled _ hs
  -- the place is not full, as a position was found
  have hopen : ∀ lower upper,
      ¬ (Sides.mk [((3 : Int), -5), (1, -5)] [(2, 2)]).IsFull lower upper := by
    intro lower upper hcontra
    have := (hfull lower upper).mpr hcontra
    rw [hplace] at this
    cases this
  obtain ⟨p, hp, -, -, hlisted⟩ := hroom hopen
  obtain rfl : -1 = p := by
    rw [hplace] at hp
    exact Except.ok.inj hp
  exact ⟨hplace, hlisted⟩

end Kanban.Position
