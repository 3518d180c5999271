import Kanban.Position
import Mathlib.Data.List.Basic

/-!
# Where a task lands

What `Position.place` promises about a column whose entries are listed by ascending position. It
misses a reference exactly when no entry has its key (`place_eq_missing_iff`), it finds no room only
between neighbours that are less than two apart (`place_eq_exhausted`), and a position that it finds
lies strictly between the entries before the place and the entries after it (`place_eq_ok`).
-/

namespace Kanban.Position

variable {κ : Type}

/-! ## The middle of two positions -/

/-- The middle of two positions is half of their distance away from both. -/
theorem midpoint_apart {distance lower upper : Int} (h : lower + 2 * distance ≤ upper) :
    lower + distance ≤ midpoint lower upper ∧ midpoint lower upper + distance ≤ upper := by
  unfold midpoint
  rw [Int.tdiv_eq_ediv]
  split
  · omega
  · rw [show Int.sign 2 = 1 from rfl]
    omega

/-- The middle of two positions without another one between them is one of them. -/
theorem midpoint_of_close {lower upper : Int} (h : lower ≤ upper) (h' : upper < lower + 2) :
    midpoint lower upper = lower ∨ midpoint lower upper = upper := by
  unfold midpoint
  rw [Int.tdiv_eq_ediv]
  split
  · omega
  · rw [show Int.sign 2 = 1 from rfl]
    omega

/-- Two neighbours that are two apart have their midpoint between them. -/
theorem between_of_room {lower upper : Int} (h : lower + 2 ≤ upper) :
    (between lower upper : Except (Misplacement κ) Int) = .ok (midpoint lower upper) := by
  obtain ⟨hlower, hupper⟩ : lower + 1 ≤ midpoint lower upper ∧ midpoint lower upper + 1 ≤ upper :=
    midpoint_apart h
  unfold between
  exact if_neg (by omega)

/-- Two neighbours that are closer have nothing between them. -/
theorem between_of_close {lower upper : Int} (h : lower ≤ upper) (h' : upper < lower + 2) :
    (between lower upper : Except (Misplacement κ) Int) = .error (.exhausted lower upper) := by
  unfold between
  exact if_pos (midpoint_of_close h h')

/-- The position between two neighbours is their midpoint, and there is one just when they are two
apart. -/
theorem between_eq_ok_iff {lower upper p : Int} (h : lower ≤ upper) :
    (between lower upper : Except (Misplacement κ) Int) = .ok p ↔
      lower + 2 ≤ upper ∧ midpoint lower upper = p := by
  by_cases hroom : lower + 2 ≤ upper
  · simp [between_of_room hroom, hroom]
  · simp [between_of_close h (by omega), hroom]

theorem between_eq_exhausted {lower upper l u : Int}
    (hp : (between lower upper : Except (Misplacement κ) Int) = .error (.exhausted l u)) :
    upper < lower + 2 := by
  by_contra hroom
  rw [between_of_room (by omega)] at hp
  cases hp

theorem between_ne_missing {lower upper : Int} {key : κ} :
    (between lower upper : Except (Misplacement κ) Int) ≠ .error (.missing key) := by
  intro h
  simp only [between] at h
  split at h <;> cases h

theorem rightAfter_ne_missing {s : Surroundings} {gap : Int} {key : κ} :
    rightAfter s gap ≠ .error (.missing key) := by
  unfold rightAfter
  split
  · exact between_ne_missing
  · simp

theorem rightBefore_ne_missing {s : Surroundings} {gap : Int} {key : κ} :
    rightBefore s gap ≠ .error (.missing key) := by
  unfold rightBefore
  split
  · exact between_ne_missing
  · simp

/-- Half of a positive position, or the position a gap below, lies below. -/
theorem head_lt {own gap : Int} (hgap : 1 ≤ gap) :
    (if 0 < own then own.tdiv 2 else own - gap) < own := by
  split
  · rw [Int.tdiv_eq_ediv_of_nonneg (by omega)]
    omega
  · omega

/-- It lies half of some room below, unless the position is closer to zero than that room. -/
theorem head_apart {own room gap distance : Int} (hdistance : 2 * distance ≤ room)
    (hown : own ≤ 0 ∨ room ≤ own) (hroom : 1 ≤ room) (hgap : room ≤ gap) :
    (if 0 < own then own.tdiv 2 else own - gap) + distance ≤ own := by
  split
  · rw [Int.tdiv_eq_ediv_of_nonneg (by omega)]
    omega
  · omega

/-! ## The end of a column -/

/-- The end of a column lies a gap beyond each of its entries. -/
theorem le_atEnd {ordered : List (κ × Int)} {gap : Int} {e : κ × Int} (he : e ∈ ordered) :
    e.2 + gap ≤ atEnd ordered gap := by
  unfold atEnd
  split
  · next hmax =>
    obtain rfl : ordered = [] := by simpa using hmax
    cases he
  · next largest hmax =>
    have := (List.max?_eq_some_iff.mp hmax).2 e.2 (List.mem_map_of_mem he)
    omega

/-- The end of a column is the base position, or a gap beyond one of its entries. -/
theorem atEnd_cases (ordered : List (κ × Int)) (gap : Int) :
    (ordered = [] ∧ atEnd ordered gap = basePosition) ∨
      ∃ e ∈ ordered, atEnd ordered gap = e.2 + gap := by
  unfold atEnd
  split
  · next hmax => exact .inl ⟨by simpa using hmax, rfl⟩
  · next largest hmax =>
    obtain ⟨e, he, rfl⟩ := List.mem_map.mp (List.max?_eq_some_iff.mp hmax).1
    exact .inr ⟨e, he, rfl⟩

/-! ## Surroundings -/

variable [DecidableEq κ]

/-- The entry of a key is surrounded by the entries next to it. -/
theorem surroundings?_append {key : κ} {q : Int} {l₁ l₂ : List (κ × Int)}
    (h : key ∉ l₁.map Prod.fst) (before : Option Int) :
    surroundings? key before (l₁ ++ (key, q) :: l₂) =
      some ⟨(l₁.getLast?.map Prod.snd).or before, q, l₂.head?.map Prod.snd⟩ := by
  induction l₁ generalizing before with
  | nil => simp [surroundings?]
  | cons e rest ih =>
    -- the entry that is passed becomes the one before, unless a later one does
    obtain ⟨k, p⟩ := e
    have hk : ¬ k = key := fun heq => h (by simp [heq])
    have hrest : key ∉ rest.map Prod.fst := fun hmem => h (List.mem_cons_of_mem _ hmem)
    rw [List.cons_append, surroundings?, if_neg hk, ih hrest, List.getLast?_cons]
    cases rest.getLast? with
    | none => rfl
    | some last => rfl

/-- Only an entry of the column has surroundings there. -/
theorem surroundings?_eq_none_iff {key : κ} {l : List (κ × Int)} {before : Option Int} :
    surroundings? key before l = none ↔ key ∉ l.map Prod.fst := by
  induction l generalizing before with
  | nil => simp [surroundings?]
  | cons e rest ih =>
    obtain ⟨k, p⟩ := e
    by_cases hk : k = key
    · simp [surroundings?, hk]
    · rw [surroundings?, if_neg hk, ih, List.map_cons, List.mem_cons, not_or]
      exact ⟨fun hrest => ⟨Ne.symm hk, hrest⟩, fun hrest => hrest.2⟩

omit [DecidableEq κ] in
/-- A list of entries with a key in it is cut at the first entry of that key. -/
theorem exists_cut {key : κ} {l : List (κ × Int)} (h : key ∈ l.map Prod.fst) :
    ∃ l₁ q l₂, l = l₁ ++ (key, q) :: l₂ ∧ key ∉ l₁.map Prod.fst := by
  induction l with
  | nil => simp at h
  | cons e rest ih =>
    obtain ⟨k, p⟩ := e
    by_cases hk : k = key
    · subst hk
      exact ⟨[], p, rest, rfl, by simp⟩
    · have hrest : key ∈ rest.map Prod.fst := (List.mem_cons.mp h).resolve_left (Ne.symm hk)
      obtain ⟨l₁, q, l₂, rfl, hl₁⟩ := ih hrest
      refine ⟨(k, p) :: l₁, q, l₂, rfl, ?_⟩
      rw [List.map_cons, List.mem_cons, not_or]
      exact ⟨Ne.symm hk, hl₁⟩

/-! ## Places -/

/-- A place is told to be missing just when its reference is, and by that one. -/
theorem place_eq_missing_iff {ordered : List (κ × Int)} {key k : κ} {after : Bool} {gap : Int} :
    place ordered (some key) after gap = .error (.missing k) ↔
      k = key ∧ key ∉ ordered.map Prod.fst := by
  constructor
  · intro h
    simp only [place] at h
    split at h
    · next hnone =>
      cases h
      exact ⟨rfl, surroundings?_eq_none_iff.mp hnone⟩
    · split at h
      · exact absurd h rightAfter_ne_missing
      · exact absurd h rightBefore_ne_missing
  · rintro ⟨rfl, hmem⟩
    simp only [place]
    rw [surroundings?_eq_none_iff.mpr hmem]

/-- Where a task lands next to an entry: in the middle of the gap on the asked side when there is a
neighbour on that side, and else beyond the entry. -/
theorem place_cases {ordered : List (κ × Int)} {key : κ} (hmem : key ∈ ordered.map Prod.fst)
    (after : Bool) (gap : Int) :
    ∃ l₁ q l₂, ordered = l₁ ++ (key, q) :: l₂ ∧ key ∉ l₁.map Prod.fst ∧
      ((after = true ∧ l₂ = [] ∧ place ordered (some key) after gap = .ok (q + gap)) ∨
        (after = true ∧ ∃ f rest, l₂ = f :: rest ∧
          place ordered (some key) after gap = between q f.2) ∨
        (after = false ∧ l₁ = [] ∧ place ordered (some key) after gap =
          .ok (if 0 < q then q.tdiv 2 else q - gap)) ∨
        (after = false ∧ ∃ init e, l₁ = init ++ [e] ∧
          place ordered (some key) after gap = between e.2 q)) := by
  obtain ⟨l₁, q, l₂, rfl, hl₁⟩ := exists_cut hmem
  refine ⟨l₁, q, l₂, rfl, hl₁, ?_⟩
  -- the neighbours are the last entry before the cut and the first one after it
  have hplace : place (l₁ ++ (key, q) :: l₂) (some key) after gap =
      if after then rightAfter ⟨l₁.getLast?.map Prod.snd, q, l₂.head?.map Prod.snd⟩ gap
      else rightBefore ⟨l₁.getLast?.map Prod.snd, q, l₂.head?.map Prod.snd⟩ gap := by
    simp only [place]
    rw [surroundings?_append hl₁, Option.or_none]
  rw [hplace]
  cases after with
  | true =>
    cases l₂ with
    | nil => exact .inl ⟨rfl, rfl, rfl⟩
    | cons f rest => exact .inr (.inl ⟨rfl, f, rest, rfl, rfl⟩)
  | false =>
    rcases List.eq_nil_or_concat l₁ with rfl | ⟨init, e, rfl⟩
    · exact .inr (.inr (.inl ⟨rfl, rfl, rfl⟩))
    · refine .inr (.inr (.inr ⟨rfl, init, e, by simp, ?_⟩))
      simp [rightBefore]

theorem mem_of_place_eq_ok {ordered : List (κ × Int)} {key : κ} {after : Bool} {gap p : Int}
    (hp : place ordered (some key) after gap = .ok p) : key ∈ ordered.map Prod.fst := by
  by_contra hmem
  rw [place_eq_missing_iff.mpr ⟨rfl, hmem⟩] at hp
  cases hp

theorem mem_of_place_eq_exhausted {ordered : List (κ × Int)} {key : κ} {after : Bool}
    {gap l u : Int} (hp : place ordered (some key) after gap = .error (.exhausted l u)) :
    key ∈ ordered.map Prod.fst := by
  by_contra hmem
  rw [place_eq_missing_iff.mpr ⟨rfl, hmem⟩] at hp
  cases hp

/-- A position that is found lies strictly between the entries before the place and those after
it. -/
theorem place_eq_ok {ordered : List (κ × Int)} (hsorted : ordered.Pairwise fun e f => e.2 ≤ f.2)
    {key : κ} {after : Bool} {gap p : Int} (hgap : 1 ≤ gap)
    (hp : place ordered (some key) after gap = .ok p) :
    ∃ l₁ q l₂, ordered = l₁ ++ (key, q) :: l₂ ∧ key ∉ l₁.map Prod.fst ∧
      if after then q < p ∧ ∀ e ∈ l₂, p < e.2 else (∀ e ∈ l₁, e.2 < p) ∧ p < q := by
  obtain ⟨l₁, q, l₂, rfl, hl₁, hcases⟩ := place_cases (mem_of_place_eq_ok hp) after gap
  refine ⟨l₁, q, l₂, rfl, hl₁, ?_⟩
  obtain ⟨hs₁, hs₂, hcross⟩ := List.pairwise_append.mp hsorted
  rcases hcases with ⟨rfl, rfl, hplace⟩ | ⟨rfl, f, rest, rfl, hplace⟩ | ⟨rfl, rfl, hplace⟩ |
    ⟨rfl, init, e, rfl, hplace⟩
  -- after the last entry: one gap further
  · cases hplace.symm.trans hp
    simp only [if_true]
    exact ⟨by omega, by simp⟩
  -- between the reference and the entry behind it
  · obtain ⟨hq, hrest⟩ := List.pairwise_cons.mp hs₂
    obtain ⟨hroom, rfl⟩ :=
      (between_eq_ok_iff (hq f List.mem_cons_self)).mp (hplace.symm.trans hp)
    obtain ⟨hlower, hupper⟩ : q + 1 ≤ midpoint q f.2 ∧ midpoint q f.2 + 1 ≤ f.2 :=
      midpoint_apart hroom
    simp only [if_true]
    refine ⟨by omega, List.forall_mem_cons.mpr ⟨by omega, ?_⟩⟩
    intro d hd
    have := (List.pairwise_cons.mp hrest).1 d hd
    omega
  -- before the first entry: half of its position, or one gap before it
  · cases hplace.symm.trans hp
    simp only [Bool.false_eq_true, if_false]
    exact ⟨by simp, head_lt hgap⟩
  -- between the entry before the reference and the reference
  · have he : e.2 ≤ q := hcross e (by simp) (key, q) List.mem_cons_self
    obtain ⟨hroom, rfl⟩ := (between_eq_ok_iff he).mp (hplace.symm.trans hp)
    obtain ⟨hlower, hupper⟩ : e.2 + 1 ≤ midpoint e.2 q ∧ midpoint e.2 q + 1 ≤ q :=
      midpoint_apart hroom
    simp only [Bool.false_eq_true, if_false]
    refine ⟨?_, by omega⟩
    intro d hd
    rcases List.mem_append.mp hd with hd | hd
    · have := (List.pairwise_append.mp hs₁).2.2 d hd e List.mem_cons_self
      omega
    · obtain rfl := List.mem_singleton.mp hd
      omega

/-- A position that is found lies between two entries, between zero and the reference, or a gap beyond
the reference on the asked side. -/
theorem place_reach {ordered : List (κ × Int)} (hsorted : ordered.Pairwise fun e f => e.2 ≤ f.2)
    {key : κ} {after : Bool} {gap p : Int} (hp : place ordered (some key) after gap = .ok p) :
    (∃ e ∈ ordered, ∃ f ∈ ordered, e.2 ≤ p ∧ p ≤ f.2) ∨
      ∃ q, (key, q) ∈ ordered ∧
        ((0 ≤ p ∧ p ≤ q) ∨ (after = true ∧ p = q + gap) ∨ (after = false ∧ p = q - gap)) := by
  obtain ⟨l₁, q, l₂, rfl, -, hcases⟩ := place_cases (mem_of_place_eq_ok hp) after gap
  obtain ⟨-, hs₂, hcross⟩ := List.pairwise_append.mp hsorted
  -- a midpoint does not leave its neighbours behind
  have hmiddle : ∀ {lower upper : Int}, lower ≤ upper →
      (between lower upper : Except (Misplacement κ) Int) = .ok p → lower ≤ p ∧ p ≤ upper := by
    intro lower upper hle hbetween
    obtain ⟨-, rfl⟩ := (between_eq_ok_iff hle).mp hbetween
    simpa using midpoint_apart (show lower + 2 * 0 ≤ upper by omega)
  rcases hcases with ⟨rfl, rfl, hplace⟩ | ⟨rfl, f, rest, rfl, hplace⟩ | ⟨rfl, rfl, hplace⟩ |
    ⟨rfl, init, e, rfl, hplace⟩
  · cases hplace.symm.trans hp
    exact .inr ⟨q, by simp, .inr (.inl ⟨rfl, rfl⟩)⟩
  · have hle : q ≤ f.2 := (List.pairwise_cons.mp hs₂).1 f List.mem_cons_self
    exact .inl ⟨(key, q), by simp, f, by simp, hmiddle hle (hplace.symm.trans hp)⟩
  · cases hplace.symm.trans hp
    refine .inr ⟨q, by simp, ?_⟩
    split
    -- half of a positive position lies between zero and it
    · rw [Int.tdiv_eq_ediv_of_nonneg (by omega)]
      exact .inl (by omega)
    · exact .inr (.inr ⟨rfl, rfl⟩)
  · have hle : e.2 ≤ q := hcross e (by simp) (key, q) List.mem_cons_self
    exact .inl ⟨e, by simp, (key, q), by simp, hmiddle hle (hplace.symm.trans hp)⟩

/-- Room is missing only between two neighbours that are less than two apart. -/
theorem place_eq_exhausted {ordered : List (κ × Int)} {key : κ} {after : Bool} {gap l u : Int}
    (hp : place ordered (some key) after gap = .error (.exhausted l u)) :
    ∃ l₁ e f l₂, ordered = l₁ ++ e :: f :: l₂ ∧ f.2 < e.2 + 2 := by
  obtain ⟨l₁, q, l₂, rfl, -, hcases⟩ := place_cases (mem_of_place_eq_exhausted hp) after gap
  rcases hcases with ⟨rfl, rfl, hplace⟩ | ⟨rfl, f, rest, rfl, hplace⟩ | ⟨rfl, rfl, hplace⟩ |
    ⟨rfl, init, e, rfl, hplace⟩
  · cases hplace.symm.trans hp
  · exact ⟨l₁, (key, q), f, rest, rfl, between_eq_exhausted (hplace.symm.trans hp)⟩
  · cases hplace.symm.trans hp
  · exact ⟨init, e, (key, q), l₂, by simp, between_eq_exhausted (hplace.symm.trans hp)⟩

/-- Among entries that leave some room between them, up to a gap, and none of which lies between zero
and that room, a position that is found is half of the room away from all of them. -/
theorem place_apart {ordered : List (κ × Int)} {room gap : Int}
    (hspaced : ordered.Pairwise fun e f => e.2 + room ≤ f.2)
    (hhead : ∀ e ∈ ordered, e.2 ≤ 0 ∨ room ≤ e.2) (hroom : 1 ≤ room) (hgap : room ≤ gap)
    {distance : Int} (hdistance : 2 * distance ≤ room) {key : κ} {after : Bool} {p : Int}
    (hp : place ordered (some key) after gap = .ok p) :
    ∀ e ∈ ordered, e.2 + distance ≤ p ∨ p + distance ≤ e.2 := by
  obtain ⟨l₁, q, l₂, rfl, -, hcases⟩ := place_cases (mem_of_place_eq_ok hp) after gap
  obtain ⟨hs₁, hs₂, hcross⟩ := List.pairwise_append.mp hspaced
  -- every other entry keeps the whole room to the reference or to its neighbour, so only the two
  -- entries next to the place matter
  obtain ⟨hq, hrest⟩ := List.pairwise_cons.mp hs₂
  have hbelow : ∀ e ∈ l₁, e.2 + room ≤ q := fun e he => hcross e he (key, q) List.mem_cons_self
  rcases hcases with ⟨rfl, rfl, hplace⟩ | ⟨rfl, f, rest, rfl, hplace⟩ | ⟨rfl, rfl, hplace⟩ |
    ⟨rfl, init, d, rfl, hplace⟩
  · cases hplace.symm.trans hp
    refine List.forall_mem_append.mpr ⟨fun e he => .inl ?_, ?_⟩
    · have := hbelow e he
      omega
    · rw [List.forall_mem_singleton]
      exact .inl (by omega)
  · have hqf := hq f List.mem_cons_self
    obtain ⟨-, rfl⟩ := (between_eq_ok_iff (by omega)).mp (hplace.symm.trans hp)
    obtain ⟨hlower, hupper⟩ : q + distance ≤ midpoint q f.2 ∧ midpoint q f.2 + distance ≤ f.2 :=
      midpoint_apart (by omega)
    refine List.forall_mem_append.mpr ⟨fun e he => .inl ?_, List.forall_mem_cons.mpr
      ⟨.inl hlower, List.forall_mem_cons.mpr ⟨.inr hupper, fun e he => .inr ?_⟩⟩⟩
    · have := hbelow e he
      omega
    · have := (List.pairwise_cons.mp hrest).1 e he
      omega
  · cases hplace.symm.trans hp
    -- only here the first entry counts: half of its position must leave the distance to it
    have hown : q ≤ 0 ∨ room ≤ q := hhead (key, q) (by simp)
    have hhalf := head_apart hdistance hown hroom hgap
    refine List.forall_mem_cons.mpr ⟨.inr hhalf, fun e he => .inr ?_⟩
    have := hq e he
    omega
  · have hdq := hbelow d (by simp)
    obtain ⟨-, rfl⟩ := (between_eq_ok_iff (by omega)).mp (hplace.symm.trans hp)
    obtain ⟨hlower, hupper⟩ : d.2 + distance ≤ midpoint d.2 q ∧ midpoint d.2 q + distance ≤ q :=
      midpoint_apart (by omega)
    refine List.forall_mem_append.mpr ⟨List.forall_mem_append.mpr ⟨fun e he => .inl ?_, ?_⟩,
      List.forall_mem_cons.mpr ⟨.inr hupper, fun e he => .inr ?_⟩⟩
    · have := (List.pairwise_append.mp hs₁).2.2 e he d List.mem_cons_self
      omega
    · rw [List.forall_mem_singleton]
      exact .inl hlower
    · have := hq e he
      omega

/-- When there was no room next to a reference, and the entries then get positions with room between
them, the place is the middle between the reference and the neighbour on the asked side. -/
theorem place_of_exhausted {ordered respaced : List (κ × Int)}
    (hnodup : (ordered.map Prod.fst).Nodup) (hids : respaced.map Prod.fst = ordered.map Prod.fst)
    (hroom : respaced.Pairwise fun e f => e.2 + 2 ≤ f.2) {key : κ} {after : Bool} {gap l u : Int}
    (hfull : place ordered (some key) after gap = .error (.exhausted l u)) :
    ∃ l₁ e f l₂, respaced = l₁ ++ e :: f :: l₂ ∧ (if after then e.1 else f.1) = key ∧
      place respaced (some key) after gap = .ok (midpoint e.2 f.2) := by
  have hmem := mem_of_place_eq_exhausted hfull
  obtain ⟨l₁, q, l₂, rfl, hl₁, hcases⟩ := place_cases hmem after gap
  obtain ⟨k₁, p, k₂, rfl, -, hcases'⟩ := place_cases (hids ▸ hmem) after gap
  have hl₂ : key ∉ l₂.map Prod.fst := by
    rw [List.map_append, List.map_cons] at hnodup
    exact (List.nodup_cons.mp (List.nodup_append.mp hnodup).2.1).1
  -- the key stands once, so both lists are cut at the same place
  rw [List.map_append, List.map_append, List.map_cons, List.map_cons] at hids
  obtain ⟨hbefore, -, hafter⟩ := (List.append_cons_inj_of_notMem hl₁ hl₂).mp hids.symm
  obtain ⟨-, hs₂, hcross⟩ := List.pairwise_append.mp hroom
  rcases hcases' with ⟨rfl, rfl, hplace⟩ | ⟨rfl, f, rest, rfl, hplace⟩ | ⟨rfl, rfl, hplace⟩ |
    ⟨rfl, init, e, rfl, hplace⟩
  · -- the reference was the last entry already, and there is always room after that
    obtain rfl : l₂ = [] := by simpa using hafter
    rcases hcases with ⟨-, -, hplace'⟩ | ⟨-, f, rest, hl, -⟩ | ⟨h, -⟩ | ⟨h, -⟩
    · cases hplace'.symm.trans hfull
    · cases hl
    · cases h
    · cases h
  · refine ⟨k₁, (key, p), f, rest, rfl, rfl, hplace.trans ?_⟩
    exact between_of_room ((List.pairwise_cons.mp hs₂).1 f List.mem_cons_self)
  · -- the reference was the first entry already, and there is always room before that
    obtain rfl : l₁ = [] := by simpa using hbefore
    rcases hcases with ⟨h, -⟩ | ⟨h, -⟩ | ⟨-, -, hplace'⟩ | ⟨-, init, e, hl, -⟩
    · cases h
    · cases h
    · cases hplace'.symm.trans hfull
    · simp at hl
  · refine ⟨init, e, (key, p), k₂, by simp, rfl, hplace.trans ?_⟩
    exact between_of_room (hcross e (by simp) (key, p) List.mem_cons_self)

end Kanban.Position
