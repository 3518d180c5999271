import Kanban.EntityTag
import Kanban.Proofs.Canonical

/-!
# What a tag tells

A tag is the digest of a canonical text. The text tells the data, so tags of different data agree
only where the digests of two different texts do.
-/

namespace Kanban.EntityTag

/-! ## Orderings -/

def placeJson (place : Int × Int) : Json := .list [.int place.1, .int place.2]

theorem plain_placeJson (place : Int × Int) : (placeJson place).Plain := by
  refine .list fun j hj => ?_
  simp only [List.mem_cons, List.not_mem_nil, or_false] at hj
  obtain rfl | rfl := hj <;> exact .int _

/-- The order of a column is made of integers and names, so its text can be read back. -/
theorem plain_orderingJson (column : Int) (ordered : List (Int × Int)) :
    (orderingJson column ordered).Plain := by
  refine .pair (by decide) (.int column) (.list fun j hj => ?_)
  obtain ⟨place, -, rfl⟩ := List.mem_map.mp hj
  exact plain_placeJson place

/-- Values of places are the same only for the same task at the same position. -/
theorem eq_of_same_placeJson {place place' : Int × Int}
    (h : (placeJson place).Same (placeJson place')) : place = place' := by
  have hitems := h.forall₂
  simp only [List.forall₂_cons] at hitems
  exact Prod.ext hitems.1.int_eq hitems.2.1.int_eq

/-- Values of orders are the same only for the same column with the same places in the same order.
-/
theorem orderingJson_same_iff {column column' : Int} {ordered ordered' : List (Int × Int)} :
    (orderingJson column ordered).Same (orderingJson column' ordered') ↔
      column = column' ∧ ordered = ordered' := by
  constructor
  · intro h
    -- the two fields are told apart by their names, so that each can only match its own
    obtain ⟨f, hf, hname, hcolumn⟩ := h.field (List.mem_cons_self ..)
    obtain ⟨g, hg, hname', horder⟩ := h.field (List.mem_cons_of_mem _ (List.mem_cons_self ..))
    simp only [List.mem_cons, List.not_mem_nil, or_false] at hf hg
    obtain rfl | rfl := hf
    · obtain rfl | rfl := hg
      · exact absurd hname' (by simp)
      · have hplaces : List.Forall₂ Json.Same (ordered.map placeJson) (ordered'.map placeJson) :=
          horder.forall₂
        rw [List.forall₂_map_left_iff, List.forall₂_map_right_iff] at hplaces
        refine ⟨hcolumn.int_eq, ?_⟩
        rw [← List.forall₂_eq_eq_eq]
        exact hplaces.imp fun _ _ => eq_of_same_placeJson
    · exact absurd hname (by simp)
  · rintro ⟨rfl, rfl⟩
    exact .refl _

/-! ## Tags -/

/-- Equal tags are equal digests, since the marks around them are. -/
theorem md5Text_eq_of_ofJson_eq {v w : Json} (h : ofJson v = ofJson w) :
    Digest.md5Text v.canonical = Digest.md5Text w.canonical := by
  rw [ofJson, ofJson, String.ofList_inj, List.cons.injEq] at h
  exact List.append_cancel_right h.2

/-- The text from which a tag is computed tells the data, up to the order of fields; that of an
ordering tells the column and every task with its position. Tags of different data agree only if the
digests of two different texts do. -/
theorem tells_data {v w : Json} (hv : v.Plain) (hw : w.Plain) (column column' : Int)
    (ordered ordered' : List (Int × Int)) :
    (v.canonical = w.canonical ↔ v.Same w) ∧
      ((orderingJson column ordered).canonical = (orderingJson column' ordered').canonical ↔
        column = column' ∧ ordered = ordered') ∧
      (ofJson v = ofJson w → ¬v.Same w →
        v.canonical ≠ w.canonical ∧ Digest.md5Text v.canonical = Digest.md5Text w.canonical) ∧
      (ofOrdering column ordered = ofOrdering column' ordered' →
        ¬(column = column' ∧ ordered = ordered') →
        (orderingJson column ordered).canonical ≠ (orderingJson column' ordered').canonical ∧
          Digest.md5Text (orderingJson column ordered).canonical =
            Digest.md5Text (orderingJson column' ordered').canonical) := by
  have hiff := Json.canonical_eq_iff hv hw
  have hordering : (orderingJson column ordered).canonical =
      (orderingJson column' ordered').canonical ↔ column = column' ∧ ordered = ordered' := by
    rw [Json.canonical_eq_iff (plain_orderingJson _ _) (plain_orderingJson _ _),
      orderingJson_same_iff]
  refine ⟨hiff, hordering, ?_, ?_⟩
  · intro htags hdata
    exact ⟨mt hiff.mp hdata, md5Text_eq_of_ofJson_eq htags⟩
  · intro htags hdata
    exact ⟨mt hordering.mp hdata, md5Text_eq_of_ofJson_eq htags⟩

/-- An object in which one field has moved, and another one with other data. -/
theorem tells_data_of_moved_field :
    let v : Json := .object [("done", .bool true), ("title", .text "caf\u00e9 \"au\" lait")]
    let w : Json := .object [("title", .text "caf\u00e9 \"au\" lait"), ("done", .bool true)]
    let v' : Json := .object [("done", .int 1), ("title", .text "caf\u00e9 \"au\" lait")]
    v.canonical = w.canonical ∧ v.canonical ≠ v'.canonical := by
  intro v w v'
  have hv : v.Plain := .pair (by decide) (.bool true) (.text _)
  have hw : w.Plain := .pair (by decide) (.text _) (.bool true)
  have hv' : v'.Plain := .pair (by decide) (.int 1) (.text _)
  refine ⟨(tells_data hv hw 1 1 [] []).1.mpr ?_, mt (tells_data hv hv' 1 1 [] []).1.mp ?_⟩
  · exact .of_fields (.swap _ _ _) (.cons ⟨rfl, .refl _⟩ (.cons ⟨rfl, .refl _⟩ .nil))
  · intro h
    obtain ⟨g, hg, hname, hsame⟩ := h.field (List.mem_cons_self ..)
    simp only [List.mem_cons, List.not_mem_nil, or_false] at hg
    obtain rfl | rfl := hg
    · cases hsame
    · exact absurd hname (by decide)

end Kanban.EntityTag
