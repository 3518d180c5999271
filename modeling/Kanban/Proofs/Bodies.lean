import Kanban.Proofs.Lasting
import Kanban.Proofs.Tag

/-!
# The bodies of reads

What a read shows of a board (`Http.Shows`) is read off its canonical text, so two bodies have one
text exactly when they are the same (`Http.Shows.canonical_iff`), and then they list the same tasks
in the same order and at the same positions (`Http.Shows.listed_eq`). Where a column stands among the
columns may be a floating-point number, and its text is never read: a column is told by its id, which
comes before.
-/

namespace Kanban

namespace Json

/-- A value is read off its own text, whatever is in it. -/
theorem delimited_self (v : Json) : Delimited canonicalChars Same v v := by
  intro rest rest' _ _ h
  exact ⟨.refl v, List.append_cancel_left h⟩

/-- The text of an object whose fields are listed in the order of their names. -/
theorem canonicalChars_of_listed {fields listed : Fields} (hperm : fields.Perm listed)
    (hnames : (fields.map Prod.fst).Nodup)
    (hlisted : listed.Pairwise fun f g => f.1 ≤ g.1) :
    canonicalChars (.object fields) =
      '\x7b' :: (joined (listed.map memberText) ++ ['\x7d']) := by
  have hsorted : listed.sorted = listed :=
    List.mergeSort_of_pairwise (hlisted.imp fun h => decide_eq_true h)
  rw [canonicalChars_object, named_sorted_eq_of_perm hnames (hperm.map _), hsorted,
    map_fieldText_named]

end Json

open Json

/-! ## Columns -/

namespace Column

theorem wellFormed_record (c : Column) : c.record.WellFormed := by
  refine .object (by simp) fun f hf => ?_
  simp only [List.mem_cons, List.not_mem_nil, or_false] at hf
  obtain rfl | rfl | rfl | rfl | rfl := hf
  · exact .int c.id
  · exact .text c.name
  · exact .text c.displayName
  · cases c.color with
    | none => exact .null
    | some color => exact .text color
  · cases c.ordinal with
    | integer n => exact .int n
    | real x => exact .float x
    | text s => exact .text s

/-- The fields of a column in the order of their names. -/
theorem canonicalChars_record (c : Column) :
    canonicalChars c.record =
      '\x7b' :: (joined ([("color", c.color.elim .null .text), ("displayName", .text c.displayName),
        ("id", .int c.id), ("name", .text c.name), ("position", c.ordinal.toJson)].map memberText) ++
          ['\x7d']) := by
  refine canonicalChars_of_listed ?_ (by simp) ?_
  · -- the id and the name trade places with the name to show and the color
    exact List.perm_iff_count.mpr fun f => by simp only [List.count_cons, List.count_nil]; omega
  · have hnames : ["color", "displayName", "id", "name", "position"].Pairwise (· ≤ ·) := by decide
    exact (List.pairwise_map (f := Prod.fst)).mp hnames

/-- A column is told by its id, which is read before the place of the column among the columns. -/
theorem delimited_record {c c' : Column} (h : c.id = c'.id → c = c') :
    Delimited canonicalChars Same c.record c'.record := by
  intro rest rest' hrest hrest' htext
  -- the number of a column may be a floating-point number, so the texts are taken apart only as far
  -- as the id, and the id tells the column
  suffices hid : c.id = c'.id by
    obtain rfl := h hid
    exact delimited_self c.record hrest hrest' htext
  have hcolor : ∀ c : Column, (c.color.elim Json.null .text).Legible := by
    intro c
    cases c.color with
    | none => exact .null
    | some color => exact .text color
  simp only [canonicalChars_record, List.map_cons, List.map_nil, joined_cons, List.flatMap_cons,
    List.cons_append, List.append_assoc, List.cons.injEq, true_and] at htext
  have hcomma : ∀ cs, NoDigit (',' :: cs) := fun cs => noDigit_cons cs (by decide)
  -- the color and the displayed name are written before the id
  obtain ⟨-, h₁⟩ := delimited_memberText
    (fun _ => delimited_canonicalChars (hcolor c) (hcolor c')) (hcomma _) (hcomma _) htext
  simp only [List.cons.injEq, true_and] at h₁
  obtain ⟨-, h₂⟩ := delimited_memberText
    (fun _ => delimited_canonicalChars (.text _) (.text _)) (hcomma _) (hcomma _) h₁
  simp only [List.cons.injEq, true_and] at h₂
  obtain ⟨⟨-, hid⟩, -⟩ := delimited_memberText
    (fun _ => delimited_canonicalChars (.int _) (.int _)) (hcomma _) (hcomma _) h₂
  exact hid.int_eq

/-- Only the id of a column is needed to tell what column it is. -/
theorem id_eq_of_same {c c' : Column} (h : c.record.Same c'.record) : c.id = c'.id :=
  (h.of_mem (by simp) (List.mem_cons_self ..) (List.mem_cons_self ..)).int_eq

end Column

/-! ## Tasks -/

namespace Task

/-- A task can be read off its text if its tags can. -/
theorem legible_record {t : Task} (h : ∀ j ∈ t.card.tags, j.Legible) : t.record.Legible := by
  refine .object (by simp [fields]) fun f hf => ?_
  simp only [fields, List.mem_cons, List.not_mem_nil, or_false] at hf
  obtain rfl | rfl | rfl | rfl | rfl | rfl | rfl | rfl | rfl | rfl | rfl := hf
  · exact .int _
  · exact .text _
  · exact .int _
  · exact .text _
  · exact .text _
  · exact .text _
  · cases t.card.assignee with
    | none => exact .null
    | some assignee => exact .text assignee
  · exact .list h
  · exact .int _
  · exact .text _
  · exact .text _

/-- The fields of a task in the order of their names. -/
theorem canonicalChars_record (t : Task) :
    canonicalChars t.record =
      '\x7b' :: (joined ([("assignedTo", t.card.assignee.elim .null .text), ("columnId", .int t.column),
        ("createdAt", .text t.createdAt.iso), ("description", .text t.card.description),
        ("id", .int t.id), ("position", .int t.position), ("priority", .text t.card.priority),
        ("tags", .list t.card.tags), ("taskCode", .text t.card.code), ("title", .text t.card.title),
        ("updatedAt", .text t.updatedAt.iso)].map memberText) ++ ['\x7d']) := by
  refine canonicalChars_of_listed ?_ (by simp [fields]) ?_
  · refine List.perm_iff_count.mpr fun f => ?_
    simp only [fields, List.count_cons, List.count_nil]
    omega
  · have hnames : ["assignedTo", "columnId", "createdAt", "description", "id", "position",
        "priority", "tags", "taskCode", "title", "updatedAt"].Pairwise (· ≤ ·) := by decide
    exact (List.pairwise_map (f := Prod.fst)).mp hnames

/-- Records of tasks that are the same tell the same id and the same position. -/
theorem entry_eq_of_same {t t' : Task} (h : t.record.Same t'.record) : t.entry = t'.entry := by
  have hnames : (t'.fields.map Prod.fst).Nodup := by simp [fields]
  have hid : (Json.int t.id).Same (.int t'.id) :=
    h.of_mem hnames (show ("id", Json.int t.id) ∈ t.fields by simp [fields]) (by simp [fields])
  have hposition : (Json.int t.position).Same (.int t'.position) :=
    h.of_mem hnames (show ("position", Json.int t.position) ∈ t.fields by simp [fields])
      (by simp [fields])
  exact Prod.ext hid.int_eq hposition.int_eq

theorem entries_eq_of_same {ts ts' : List Task}
    (h : (Json.list (ts.map record)).Same (.list (ts'.map record))) :
    ts.map entry = ts'.map entry := by
  have hrecords := h.forall₂
  rw [List.forall₂_map_left_iff, List.forall₂_map_right_iff] at hrecords
  rw [← List.forall₂_eq_eq_eq, List.forall₂_map_left_iff, List.forall₂_map_right_iff]
  exact hrecords.imp fun _ _ => entry_eq_of_same

end Task

namespace Board

variable {b b' : Board}

theorem legible_order (hb : b.TagsLegible) (column : Int) :
    (Json.list ((b.order column).map Task.record)).Legible := by
  refine .list fun j hj => ?_
  obtain ⟨t, ht, rfl⟩ := List.mem_map.mp hj
  exact Task.legible_record (hb t (mem_order.mp ht).1)

/-! ## Boards -/

/-- The lists of tasks can be read off their text; the names of columns are distinct, so no list
hides another one. -/
theorem legible_lists (hb : b.TagsLegible) :
    (Json.object (b.orderedColumns.map fun c =>
      (c.name, .list ((b.order c.id).map Task.record)))).Legible := by
  refine .object ?_ fun f hf => ?_
  · rw [List.map_map]
    exact (b.orderedColumns_perm.map Column.name).nodup_iff.mpr b.columnNames_nodup
  · obtain ⟨c, -, rfl⟩ := List.mem_map.mp hf
    exact legible_order hb c.id

/-- The columns are written before the tasks, since their name comes first. -/
theorem canonicalChars_record (b : Board) :
    canonicalChars b.record =
      '\x7b' :: (joined ([("columns", .list (b.orderedColumns.map Column.record)),
        ("tasks", .object (b.orderedColumns.map fun c =>
          (c.name, .list ((b.order c.id).map Task.record))))].map memberText) ++ ['\x7d']) :=
  canonicalChars_of_listed (.refl _) (by simp) (by simp)

theorem wellFormed_record (hb : b.TagsLegible) : b.record.WellFormed := by
  refine .object (by simp) fun f hf => ?_
  simp only [List.mem_cons, List.not_mem_nil, or_false] at hf
  obtain rfl | rfl := hf
  · refine .list fun j hj => ?_
    obtain ⟨c, -, rfl⟩ := List.mem_map.mp hj
    exact c.wellFormed_record
  · exact (legible_lists hb).wellFormed

/-- A column of the one board and a column of the other are the same if their ids are. -/
def AgreeOnColumns (b b' : Board) : Prop :=
  ∀ c ∈ b.columns, ∀ c' ∈ b'.columns, c.id = c'.id → c = c'

/-- A board that has lasted has the same columns under their ids. -/
theorem Lasting.agreeOnColumns (h : Lasting b.columns b') : AgreeOnColumns b b' := by
  intro c hc c' hc' hid
  exact List.inj_on_of_nodup_map b'.columnIds_nodup (h.columns c hc) hc' hid

/-- The texts of columns tell the columns, although their numbers cannot be read off: columns with
equal ids are equal. -/
theorem delimited_columns (h : AgreeOnColumns b b') :
    Delimited canonicalChars Same (.list (b.orderedColumns.map Column.record))
      (.list (b'.orderedColumns.map Column.record)) := by
  have hstarts : ∀ (b : Board), ∀ j ∈ b.orderedColumns.map Column.record,
      StartsOff ']' (canonicalChars j) := by
    intro b j hj
    obtain ⟨c, -, rfl⟩ := List.mem_map.mp hj
    exact ⟨_, _, c.canonicalChars_record, by decide⟩
  refine delimited_list (hstarts b) (hstarts b') fun j hj k hk => ?_
  obtain ⟨c, hc, rfl⟩ := List.mem_map.mp hj
  obtain ⟨c', hc', rfl⟩ := List.mem_map.mp hk
  exact Column.delimited_record (h c (b.orderedColumns_perm.mem_iff.mp hc) c'
    (b'.orderedColumns_perm.mem_iff.mp hc'))

/-- The text of one board is that of another only if the two are the same value. -/
theorem delimited_record (hb : b.TagsLegible) (hb' : b'.TagsLegible) (h : AgreeOnColumns b b') :
    Delimited canonicalChars Same b.record b'.record := by
  refine delimited_object fun f hf g hg hname => ?_
  simp only [List.mem_cons, List.not_mem_nil, or_false] at hf hg
  obtain rfl | rfl := hf <;> obtain rfl | rfl := hg
  · exact delimited_columns h
  · exact absurd hname (by simp)
  · exact absurd hname (by simp)
  · exact delimited_canonicalChars (legible_lists hb) (legible_lists hb')

/-- Boards that are shown alike have the same columns in the same order. -/
theorem orderedColumns_eq_of_same (hcolumns : AgreeOnColumns b b') (h : b.record.Same b'.record) :
    b.orderedColumns = b'.orderedColumns := by
  have hrecords : List.Forall₂ Same (b.orderedColumns.map Column.record)
      (b'.orderedColumns.map Column.record) :=
    (h.of_mem (by simp) (List.mem_cons_self ..) (List.mem_cons_self ..)).forall₂
  rw [List.forall₂_map_left_iff, List.forall₂_map_right_iff, List.forall₂_iff_get] at hrecords
  obtain ⟨hlength, hsame⟩ := hrecords
  refine List.ext_getElem hlength fun i hi hi' => ?_
  exact hcolumns _ (b.orderedColumns_perm.mem_iff.mp (List.getElem_mem hi)) _
    (b'.orderedColumns_perm.mem_iff.mp (List.getElem_mem hi')) (Column.id_eq_of_same (hsame i hi hi'))

/-- Boards that are shown alike list the same tasks in each column. -/
theorem entries_eq_of_same (hcolumns : AgreeOnColumns b b') (h : b.record.Same b'.record) :
    b.orderedColumns.map (fun c => (c.id, (b.order c.id).map Task.entry)) =
      b'.orderedColumns.map (fun c => (c.id, (b'.order c.id).map Task.entry)) := by
  have heq := orderedColumns_eq_of_same hcolumns h
  have hlists := h.of_mem (by simp) (List.mem_cons_of_mem _ (List.mem_cons_self ..))
    (List.mem_cons_of_mem _ (List.mem_cons_self ..))
  rw [← heq]
  refine List.map_congr_left fun c hc => ?_
  have htasks : (Json.list ((b.order c.id).map Task.record)).Same
      (.list ((b'.order c.id).map Task.record)) := by
    refine hlists.of_mem ?_ (List.mem_map_of_mem hc) (List.mem_map_of_mem (heq ▸ hc))
    rw [List.map_map]
    exact (b'.orderedColumns_perm.map Column.name).nodup_iff.mpr b'.columnNames_nodup
  rw [Task.entries_eq_of_same htasks]

end Board

namespace Http

/-! ## What is shown -/

/-- What a read of a route shows of a board. A column is shown when its id is one that can be looked
for. -/
inductive Shows (b : Board) : Route → Json → Prop where
  | board : Shows b .board b.record
  | column {n : Nat} {c : Column} (hfits : Stored.Fits n) (hc : b.column? n = some c) :
    Shows b (.column n) (columnRecord b c)

/-- The tasks that a read of a route lists: for each column the ids and the positions, in order. -/
def listed (b : Board) : Route → List (Int × List (Int × Int))
  | .board => b.orderedColumns.map fun c => (c.id, (b.order c.id).map Task.entry)
  | .column n => [((n : Int), (b.order n).map Task.entry)]
  | _ => []

namespace Shows

variable {b b' : Board} {route : Route} {body body' : Json}

/-- What is shown can be written as text. -/
theorem wellFormed (hb : b.TagsLegible) (h : Shows b route body) : body.WellFormed := by
  cases h with
  | board => exact Board.wellFormed_record hb
  | column hfits hc =>
    refine .object (by simp) fun f hf => ?_
    simp only [List.mem_cons, List.not_mem_nil, or_false] at hf
    obtain rfl | rfl | rfl := hf
    · exact Column.wellFormed_record _
    · exact (Board.legible_order hb _).wellFormed
    · exact .text _

/-- The bodies of a route have one canonical text exactly when they are the same. -/
theorem canonical_iff (hb : b.TagsLegible) (hlast : Board.Lasting b.columns b')
    (h : Shows b route body) (h' : Shows b' route body') :
    body.canonical = body'.canonical ↔ body.Same body' := by
  refine canonical_eq_iff_of_delimited (h.wellFormed hb) ?_
  cases h with
  | board =>
    cases h'
    exact Board.delimited_record hb hlast.tags hlast.agreeOnColumns
  | @column n c hfits hc =>
    obtain ⟨hmem, hid⟩ := Board.column?_eq_some_iff.mp hc
    cases h' with
    | @column _ c' _ hc' =>
      obtain ⟨hmem', hid'⟩ := Board.column?_eq_some_iff.mp hc'
      obtain rfl := hlast.agreeOnColumns c hmem c' hmem' (hid.trans hid'.symm)
      refine delimited_object fun f hf g hg hname => ?_
      simp only [List.mem_cons, List.not_mem_nil, or_false] at hf hg
      -- fields of different names need not be told apart
      obtain rfl | rfl | rfl := hf <;> obtain rfl | rfl | rfl := hg <;> try simp at hname
      · exact delimited_self c.record
      · exact delimited_canonicalChars (Board.legible_order hb c.id)
          (Board.legible_order hlast.tags c.id)
      · exact delimited_canonicalChars (.text _) (.text _)

/-- A column that was shown once is shown from then on. -/
theorem again (hlast : Board.Lasting b.columns b') (h : Shows b route body) :
    ∃ body', Shows b' route body' := by
  cases h with
  | board => exact ⟨_, .board⟩
  | column hfits hc =>
    obtain ⟨hmem, hid⟩ := Board.column?_eq_some_iff.mp hc
    exact ⟨_, .column hfits (Board.column?_eq_some_iff.mpr ⟨hlast.columns _ hmem, hid⟩)⟩

/-- Bodies that are the same list the same tasks. -/
theorem listed_eq (hlast : Board.Lasting b.columns b') (h : Shows b route body)
    (h' : Shows b' route body') (hsame : body.Same body') : listed b route = listed b' route := by
  cases h with
  | board =>
    cases h'
    exact Board.entries_eq_of_same hlast.agreeOnColumns hsame
  | @column n c hfits hc =>
    obtain ⟨-, hid⟩ := Board.column?_eq_some_iff.mp hc
    cases h' with
    | @column _ c' _ hc' =>
      obtain ⟨-, hid'⟩ := Board.column?_eq_some_iff.mp hc'
      have htasks : (Json.list ((b.order c.id).map Task.record)).Same
          (.list ((b'.order c'.id).map Task.record)) :=
        hsame.of_mem (by simp) (List.mem_cons_of_mem _ (List.mem_cons_self ..))
          (List.mem_cons_of_mem _ (List.mem_cons_self ..))
      rw [hid, hid'] at htasks
      rw [listed, listed, Task.entries_eq_of_same htasks]

end Shows

end Http

end Kanban
