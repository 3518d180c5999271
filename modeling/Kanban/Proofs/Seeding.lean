import Kanban.Migration.Revision
import Kanban.Proofs.Event
import Mathlib.Data.List.Forall2
import Mathlib.Data.List.SplitBy

/-!
# Seeding

The names that are taken are read once, so a list of descriptions is split before anything is added:
what is described under a taken name is skipped, and the rest is added in one piece, or not at all when
it repeats a name (`Seed.seed_eq`). Whether it repeats one is not looked at by anybody. It is the board
that cannot have two columns of one name, and the unit of work that undoes what was added before the
second one.

The revision that adds the columns of a new board and the seeding of a board were written apart. Both
come down to the same rows under the same ids (`Board.addSpecs_eq_ok`,
`Migration.addInitialColumns_eq`).
-/

namespace Kanban

open Work

/-- A list of checks passes when each of them does. -/
theorem except_forM_ok {α ε : Type} {check : α → Except ε Unit} {l : List α}
    (h : ∀ x ∈ l, check x = .ok ()) : l.forM check = .ok () := by
  induction l with
  | nil => rfl
  | cons x rest ih =>
    rw [List.forall_mem_cons] at h
    show (check x >>= fun _ => rest.forM check) = .ok ()
    rw [h.1]
    exact ih h.2

/-! ## Rows under new ids -/

/-- After a row was added under the next id, the next one is one larger. -/
theorem nextId_concat (ids : List Int) : nextId (ids ++ [nextId ids]) = nextId ids + 1 := by
  have hmax : (ids ++ [nextId ids]).max? = some (nextId ids) := by
    rw [List.max?_eq_some_iff]
    refine ⟨by simp, fun n hn => ?_⟩
    rcases List.mem_append.mp hn with hn | hn
    · exact Int.le_of_lt (lt_nextId hn)
    · exact Int.le_of_eq (List.mem_singleton.mp hn)
  conv_lhs => rw [nextId, hmax]

/-- The columns that are specified, under successive ids. -/
def ColumnSpec.numbered (first : Int) : List ColumnSpec → List Column
  | [] => []
  | spec :: rest => spec.column first :: numbered (first + 1) rest

@[simp] theorem ColumnSpec.map_name_numbered (first : Int) (specs : List ColumnSpec) :
    (ColumnSpec.numbered first specs).map Column.name = specs.map ColumnSpec.name := by
  induction specs generalizing first with
  | nil => rfl
  | cons spec rest ih =>
    rw [numbered, List.map_cons, ih, List.map_cons]
    rfl

namespace Board

/-- The columns that are specified and that a board does not have, whatever it has under their names. -/
def lacking (b : Board) (specs : List ColumnSpec) : List ColumnSpec :=
  specs.filter fun spec => spec.name ∉ b.columns.map Column.name

/-- Columns are added in order under new ids, unless one of their names is taken when it comes to be
added. -/
def addSpecs (b : Board) (specs : List ColumnSpec) : Except Failure Board :=
  specs.foldlM
    (fun b spec => (b.addColumn? none spec).elim (.error (.database .constraint)) .ok) b

theorem addSpecs_cons (b : Board) (spec : ColumnSpec) (rest : List ColumnSpec) :
    b.addSpecs (spec :: rest) =
      (b.addColumn? none spec).elim (.error (.database .constraint)) (addSpecs · rest) := by
  rw [addSpecs, List.foldlM_cons]
  cases b.addColumn? none spec with
  | none => rfl
  | some b₁ => rfl

/-- Columns that are added in two rows are added in one. -/
theorem addSpecs_append (b : Board) (specs specs' : List ColumnSpec) :
    b.addSpecs (specs ++ specs') = b.addSpecs specs >>= (addSpecs · specs') :=
  List.foldlM_append

/-- A column that is added stands last, under the next id. -/
theorem addColumn?_eq_some {b b' : Board} {spec : ColumnSpec}
    (h : b.addColumn? none spec = some b') :
    b'.tasks = b.tasks ∧ b'.columns = b.columns ++ [spec.column b.nextColumnId] ∧
      b'.nextColumnId = b.nextColumnId + 1 := by
  simp only [addColumn?, Option.getD_none] at h
  split at h
  · cases h
  · cases h
    refine ⟨rfl, rfl, ?_⟩
    show nextId ((b.columns ++ [spec.column b.nextColumnId]).map Column.id) = _
    rw [List.map_append]
    exact nextId_concat _

/-- Columns that were added stand behind the others, in order and under successive ids. -/
theorem addSpecs_eq_ok {specs : List ColumnSpec} {b b' : Board} (h : b.addSpecs specs = .ok b') :
    b'.tasks = b.tasks ∧
      b'.columns = b.columns ++ ColumnSpec.numbered b.nextColumnId specs := by
  -- on the specifications, for every board: the rest is added to the board with the first one
  induction specs generalizing b with
  | nil =>
    obtain rfl : b = b' := Except.ok.inj h
    exact ⟨rfl, (List.append_nil _).symm⟩
  | cons spec rest ih =>
    rw [addSpecs_cons] at h
    cases hfirst : b.addColumn? none spec with
    | none =>
      rw [hfirst] at h
      cases h
    | some b₁ =>
      rw [hfirst] at h
      obtain ⟨htasks, hcolumns, hnext⟩ := addColumn?_eq_some hfirst
      obtain ⟨htasks', hcolumns'⟩ := ih h
      refine ⟨htasks'.trans htasks, ?_⟩
      rw [hcolumns', hcolumns, hnext, List.append_assoc]
      rfl

/-- Columns are refused only for a name that is taken. -/
theorem addSpecs_eq_error {specs : List ColumnSpec} {b : Board} {e : Failure}
    (h : b.addSpecs specs = .error e) : e = .database .constraint := by
  induction specs generalizing b with
  | nil => cases h
  | cons spec rest ih =>
    rw [addSpecs_cons] at h
    cases hfirst : b.addColumn? none spec with
    | none =>
      rw [hfirst] at h
      cases h
      rfl
    | some b₁ =>
      rw [hfirst] at h
      exact ih h

/-- Columns can be added when their names are new and distinct. -/
theorem exists_addSpecs {specs : List ColumnSpec} {b : Board}
    (h : (b.columns.map Column.name ++ specs.map ColumnSpec.name).Nodup) :
    ∃ b', b.addSpecs specs = .ok b' := by
  induction specs generalizing b with
  | nil => exact ⟨b, rfl⟩
  | cons spec rest ih =>
    have hnew : spec.name ∉ b.columns.map Column.name := fun hname =>
      (List.nodup_append.mp h).2.2 _ hname _ List.mem_cons_self rfl
    obtain ⟨b₁, hfirst⟩ := Option.isSome_iff_exists.mp
      ((b.addColumn?_none spec).trans (decide_eq_true hnew))
    obtain ⟨-, hcolumns, -⟩ := addColumn?_eq_some hfirst
    rw [addSpecs_cons, hfirst]
    apply ih
    rw [hcolumns, List.map_append, List.append_assoc]
    exact h

/-- Columns of new names are added, all of them or none: the one when their names are distinct, and the
other when they are not. -/
theorem addSpecs_cases {b : Board} {specs : List ColumnSpec}
    (hnew : ∀ spec ∈ specs, spec.name ∉ b.columns.map Column.name) :
    ((specs.map ColumnSpec.name).Nodup → ∃ b', b.addSpecs specs = .ok b') ∧
      (¬ (specs.map ColumnSpec.name).Nodup →
        b.addSpecs specs = .error (.database .constraint)) := by
  constructor
  · intro hnodup
    refine exists_addSpecs (List.nodup_append.mpr ⟨b.columnNames_nodup, hnodup, ?_⟩)
    rintro name hname _ hmem rfl
    obtain ⟨spec, hspec, rfl⟩ := List.mem_map.mp hmem
    exact hnew spec hspec hname
  · intro hnodup
    cases hadded : b.addSpecs specs with
    | error e => rw [addSpecs_eq_error hadded]
    | ok b' =>
      -- a board with all of them would have two columns of one name
      have hnames := b'.columnNames_nodup
      rw [(addSpecs_eq_ok hadded).2, List.map_append, ColumnSpec.map_name_numbered] at hnames
      exact absurd (List.nodup_append.mp hnames).2.1 hnodup

end Board

/-! ## Descriptions -/

namespace Seed

/-- An ordinal is the one that is given, or the first one when none is. -/
def Places : Json → Scalar → Prop
  | .null, ordinal => ordinal = .integer 0
  | .int n, ordinal => Stored.Fits n ∧ ordinal = .integer n
  | .bool _, _ | .float _, _ | .text _, _ | .illFormed _, _ | .list _, _ | .object _, _ => False

/-- A description says of a column what its specification does, and nothing else. The color and the
place need not be given. -/
structure Describes (fields : Fields) (spec : ColumnSpec) : Prop where
  name : fields.get? "name" = some (.text spec.name)
  displayName : fields.get "display_name" = .text spec.displayName
  color : fields.get "color" = spec.color.elim .null .text
  ordinal : Places (fields.get "position") spec.ordinal
  known : ∀ field ∈ fields, field.1 ∈ ["name", "display_name", "color", "position"]

def Row.ofSpec (spec : ColumnSpec) : Row :=
  ⟨none, some spec.name, some spec.displayName, spec.color, some spec.ordinal⟩

namespace Describes

variable {fields : Fields} {spec : ColumnSpec}

theorem get_eq_null (h : Describes fields spec) {name : String}
    (hname : name ∉ ["name", "display_name", "color", "position"]) : fields.get name = .null := by
  have hnone : fields.lookup name = none := by
    rw [List.lookup_eq_none_iff]
    intro field hfield
    rw [bne_iff_ne]
    rintro rfl
    exact hname (h.known field hfield)
  rw [Fields.get, Fields.get?, hnone, Option.getD_none]

/-- A description by its four fields has no id that could not be looked up. -/
theorem checkId (h : Describes fields spec) : checkId fields = .ok () := by
  rw [Seed.checkId, h.get_eq_null (by decide)]

theorem checkFields (h : Describes fields spec) : fields.forM checkField = .ok () := by
  refine except_forM_ok fun field hfield => ?_
  have hknown := h.known field hfield
  simp only [List.mem_cons, List.not_mem_nil, or_false] at hknown
  rcases hknown with hname | hname | hname | hname <;> simp [checkField, hname, knownFields]

/-- What a description says is stored as it is. -/
theorem row (h : Describes fields spec) : Row.ofFields fields = .ok (Row.ofSpec spec) := by
  have hname : fields.get "name" = .text spec.name := by rw [Fields.get, h.name, Option.getD_some]
  have hcolor : Stored.text? (fields.get "color") = .ok spec.color := by
    rw [h.color]
    cases spec.color with
    | none => rfl
    | some color => rfl
  have hordinal : place (fields.get "position") = .ok (some spec.ordinal) := by
    have hplaces := h.ordinal
    -- a description may leave its position out, give null, or give an integer the database takes
    generalize fields.get "position" = position at hplaces
    cases position with
    | null =>
      rw [show spec.ordinal = .integer 0 from hplaces]
      rfl
    | int n =>
      obtain ⟨hfits, hordinal⟩ := hplaces
      rw [hordinal, place, Stored.number?, Stored.bound?, Stored.integer, if_pos hfits]
      · rfl
      · nofun
    | bool | float | text | illFormed | list | object => exact hplaces.elim
  rw [Row.ofFields, h.get_eq_null (by decide), hname, h.displayName, hcolor, hordinal]
  rfl

end Describes

variable {descriptions : List Fields} {specs : List ColumnSpec} {b : Board}

/-- What holds of every description of a column holds of a list of them. -/
theorem forall_of_describes {P : Fields → Prop} (h : List.Forall₂ Describes descriptions specs)
    (hP : ∀ fields spec, Describes fields spec → P fields) : ∀ fields ∈ descriptions, P fields :=
  ((List.forall₂_and_left _ _).mp (h.imp fun fields spec hd => ⟨hP fields spec hd, hd⟩)).1

theorem mapM_ofFields (h : List.Forall₂ Describes descriptions specs) :
    descriptions.mapM Row.ofFields = .ok (specs.map Row.ofSpec) := by
  induction h with
  | nil => rfl
  | cons hhead _ ih =>
    rw [List.mapM_cons, hhead.row, ih]
    rfl

theorem mapM_spec? (specs : List ColumnSpec) :
    (specs.map Row.ofSpec).mapM Row.spec? = some (specs.map (Prod.mk none)) := by
  induction specs with
  | nil => rfl
  | cons spec rest ih =>
    rw [List.map_cons, List.mapM_cons, ih]
    rfl

/-- Columns without ids are added as rows without ids are. -/
theorem addSpecs_eq (b : Board) (specs : List ColumnSpec) :
    b.addSpecs specs =
      (b.addColumns? (specs.map (Prod.mk none))).elim (.error (.database .constraint)) .ok := by
  induction specs generalizing b with
  | nil => rfl
  | cons spec rest ih =>
    rw [Board.addSpecs_cons, List.map_cons, Board.addColumns?, List.foldlM_cons]
    show _ = ((b.addColumn? none spec).bind (Board.addColumns? · (rest.map (Prod.mk none)))).elim _ _
    cases b.addColumn? none spec with
    | none => rfl
    | some b₁ => exact ih b₁

/-- Descriptions that are sent together add the columns that they describe. -/
theorem addAlike_eq (h : List.Forall₂ Describes descriptions specs) :
    addAlike b descriptions = b.addSpecs specs := by
  have hmoment : (descriptions.any fun fields => fields.get "created_at" ≠ .null) = false := by
    rw [List.any_eq_false]
    refine forall_of_describes h fun fields spec hdescribes => ?_
    simp [hdescribes.get_eq_null]
  simp only [addAlike, hmoment, Bool.false_eq_true, if_false, mapM_ofFields h, addSpecs_eq, bind,
    Except.bind, mapM_spec?, Option.bind_some]
  cases b.addColumns? (specs.map (Prod.mk none)) with
  | none => rfl
  | some b' => rfl

/-- It does not matter which descriptions are sent together. -/
theorem foldlM_addAlike {groups : List (List Fields)}
    (h : List.Forall₂ Describes groups.flatten specs) :
    groups.foldlM addAlike b = b.addSpecs specs := by
  -- on the groups, for every board: the rest is added to the board with the first one
  induction groups generalizing b specs with
  | nil =>
    obtain rfl := List.forall₂_nil_left_iff.mp h
    rfl
  | cons group rest ih =>
    rw [List.flatten_cons] at h
    have hgroup := (List.forall₂_take_append _ _ _ h.flip).flip
    have hrest := (List.forall₂_drop_append _ _ _ h.flip).flip
    rw [List.foldlM_cons, addAlike_eq hgroup]
    conv_rhs => rw [← List.take_append_drop group.length specs, Board.addSpecs_append]
    exact bind_congr fun b₁ => ih hrest

/-- Descriptions of columns add what they describe, whatever rows they are sent in together. -/
theorem addColumns_eq (h : List.Forall₂ Describes descriptions specs) :
    addColumns b descriptions = b.addSpecs specs := by
  have hids : descriptions.forM checkId = .ok () := by
    refine except_forM_ok (forall_of_describes h fun fields spec hdescribes => ?_)
    exact hdescribes.checkId
  rw [addColumns, hids]
  apply foldlM_addAlike
  rwa [List.flatten_splitBy]

/-- What is described under a taken name is skipped, and the rest is kept in order. -/
theorem missing_eq (taken : List String) (h : List.Forall₂ Describes descriptions specs) :
    ∃ found, missing taken descriptions = .ok found ∧
      found.map Prod.fst =
        (specs.filter fun spec => spec.name ∉ taken).map (fun spec => .text spec.name) ∧
      List.Forall₂ Describes (found.map Prod.snd)
        (specs.filter fun spec => spec.name ∉ taken) := by
  -- one description after the other; a name that is taken is passed over
  induction h with
  | nil => exact ⟨[], rfl, rfl, .nil⟩
  | @cons fields spec rest specs hhead _ ih =>
    obtain ⟨found, hfound, hnames, hdescribe⟩ := ih
    simp only [missing, hhead.name]
    by_cases htaken : spec.name ∈ taken
    -- taken: the description is passed over by both sides
    · have hskipped : isTaken taken (.text spec.name) = .ok true := by simp [isTaken, htaken]
      refine ⟨found, ?_, ?_, ?_⟩
      · rw [hskipped]
        exact hfound
      · rw [List.filter_cons_of_neg (by simpa using htaken)]
        exact hnames
      · rw [List.filter_cons_of_neg (by simpa using htaken)]
        exact hdescribe
    -- lacking: the description is checked, and is added to what was found
    · have hkept : isTaken taken (.text spec.name) = .ok false := by simp [isTaken, htaken]
      refine ⟨(.text spec.name, fields) :: found, ?_, ?_, ?_⟩
      · rw [hkept, hhead.checkFields, hfound]
        rfl
      · rw [List.filter_cons_of_pos (by simpa using htaken), List.map_cons, List.map_cons, hnames]
      · rw [List.filter_cons_of_pos (by simpa using htaken), List.map_cons]
        exact .cons hhead hdescribe

/-- Seeding reads the names that are taken, and then adds all that is described under other names. -/
theorem seed_eq (now : Timestamp) (h : List.Forall₂ Describes descriptions specs) :
    seed descriptions ⟨now, none⟩ b =
      match b.addSpecs (b.lacking specs) with
      | .ok b' => (.ok ((b.lacking specs).map fun spec => .text spec.name), b')
      | .error e => (.error e, b) := by
  obtain ⟨found, hfound, hnames, hdescribe⟩ := missing_eq (b.columns.map Column.name) h
  change found.map Prod.fst = (b.lacking specs).map _ at hnames
  -- the names are read, the list is split, and only then are rows added
  have htaken : query (fun b => .ok (b.columns.map Column.name)) ⟨now, none⟩ b =
      (.ok (b.columns.map Column.name), b) := rfl
  have hsplit : ofExcept (missing (b.columns.map Column.name) descriptions) ⟨now, none⟩ b =
      (.ok found, b) := by rw [ofExcept_apply, hfound]
  have hadded : addColumns b (found.map Prod.snd) = b.addSpecs (b.lacking specs) :=
    addColumns_eq hdescribe
  rw [← hnames, ← hadded]
  cases hresult : addColumns b (found.map Prod.snd) with
  | ok b' =>
    refine committed_eq_ok.mpr ⟨?_, rfl⟩
    rw [bind_of_ok htaken, bind_of_ok hsplit, write_apply, hresult]
    rfl
  -- a row that is refused leaves the board as the unit of work found it
  | error e =>
    refine committed_eq_error.mpr ⟨.inl ⟨b, ?_⟩, rfl⟩
    rw [bind_of_ok htaken, bind_of_ok hsplit, write_apply, hresult]
    rfl

/-- A board that has all the columns lacks none of them. -/
theorem seed_again (now : Timestamp) (h : List.Forall₂ Describes descriptions specs)
    (hnames : ∀ spec ∈ specs, spec.name ∈ b.columns.map Column.name) :
    seed descriptions ⟨now, none⟩ b = (.ok [], b) := by
  have hnone : b.lacking specs = [] := by
    rw [Board.lacking, List.filter_eq_nil_iff]
    intro spec hspec
    simpa using hnames spec hspec
  rw [seed_eq now h, hnone]
  rfl

/-! ## The columns of a new board -/

theorem describes_fieldsOf {spec : ColumnSpec} {n : Int} (hordinal : spec.ordinal = .integer n)
    (hn : Stored.Fits n) : Describes (fieldsOf spec) spec where
  name := rfl
  displayName := rfl
  color := rfl
  ordinal := by
    show Places spec.ordinal.toJson spec.ordinal
    rw [hordinal]
    exact ⟨hn, rfl⟩
  known := by simp [fieldsOf]

/-- The columns of a new board are described by their fields. -/
theorem describes_defaults :
    List.Forall₂ Describes (defaultColumns.map fieldsOf) defaultColumns := by
  rw [List.forall₂_map_left_iff, List.forall₂_same]
  intro spec hspec
  simp only [defaultColumns, List.mem_cons, List.not_mem_nil, or_false] at hspec
  rcases hspec with rfl | rfl | rfl | rfl | rfl <;> exact describes_fieldsOf rfl (by decide)

end Seed

namespace Migration

/-- Columns are appended under successive ids, and the rows that are there stay as they are. -/
theorem foldl_appendColumn (now : Timestamp) (rows : List ColumnRow) (specs : List ColumnSpec) :
    specs.foldl (appendColumn now) rows =
      rows ++ (ColumnSpec.numbered (nextId (rows.map fun r => r.column.id)) specs).map
        fun column => ⟨column, some (.text now.stored)⟩ := by
  -- on the specifications, for all rows: the rest is appended to the rows with the first one
  induction specs generalizing rows with
  | nil => exact (List.append_nil rows).symm
  | cons spec rest ih =>
    have hnext : nextId ((appendColumn now rows spec).map fun r => r.column.id) =
        nextId (rows.map fun r => r.column.id) + 1 := by
      rw [appendColumn, List.map_append]
      exact nextId_concat _
    rw [List.foldl_cons, ih, hnext, appendColumn, List.append_assoc]
    rfl

/-- The revision adds what a board with the same columns lacks of those of a new board. -/
theorem addInitialColumns_eq (now : Timestamp) {rows : List ColumnRow} {b : Board}
    (h : rows.map ColumnRow.column = b.columns) :
    addInitialColumns now rows =
      rows ++ (ColumnSpec.numbered b.nextColumnId (b.lacking Seed.defaultColumns)).map
        fun column => ⟨column, some (.text now.stored)⟩ := by
  -- the rows of the migration hold the same ids and names as the columns of the board
  have hids : rows.map (fun r => r.column.id) = b.columns.map Column.id := by
    rw [← h, List.map_map]
    rfl
  have hnames : rows.map (fun r => r.column.name) = b.columns.map Column.name := by
    rw [← h, List.map_map]
    rfl
  have hlacking : initialColumns.filter (fun spec =>
      !(b.columns.map Column.name).contains spec.name) = b.lacking Seed.defaultColumns := by
    show Seed.defaultColumns.filter _ = Seed.defaultColumns.filter _
    refine List.filter_congr fun spec _ => ?_
    rw [List.contains_eq_mem, decide_not]
  show (initialColumns.filter fun spec =>
    !(rows.map fun r => r.column.name).contains spec.name).foldl (appendColumn now) rows = _
  rw [hnames, hlacking, foldl_appendColumn, hids]
  rfl

end Migration

namespace Seed

variable {descriptions : List Fields} {specs : List ColumnSpec}

theorem name_not_mem_of_lacking {b : Board} :
    ∀ spec ∈ b.lacking specs, spec.name ∉ b.columns.map Column.name :=
  fun _ hspec => of_decide_eq_true (List.mem_filter.mp hspec).2

/-- The columns that a board lacks are added when no two of them share a name, and adding them again
changes nothing. -/
theorem seed_of_distinct (h : List.Forall₂ Describes descriptions specs) (now : Timestamp) {b : Board}
    (hnodup : ((b.lacking specs).map ColumnSpec.name).Nodup) :
    ∃ b', seed descriptions ⟨now, none⟩ b =
        (.ok ((b.lacking specs).map fun spec => .text spec.name), b') ∧
      b'.columns = b.columns ++ ColumnSpec.numbered b.nextColumnId (b.lacking specs) ∧
      b'.tasks = b.tasks ∧ ∀ later, seed descriptions ⟨later, none⟩ b' = (.ok [], b') := by
  obtain ⟨b', hadded⟩ := (Board.addSpecs_cases name_not_mem_of_lacking).1 hnodup
  obtain ⟨htasks, hcolumns⟩ := Board.addSpecs_eq_ok hadded
  have hnames : ∀ spec ∈ specs, spec.name ∈ b'.columns.map Column.name := by
    intro spec hspec
    rw [hcolumns, List.map_append, ColumnSpec.map_name_numbered, List.mem_append]
    by_cases htaken : spec.name ∈ b.columns.map Column.name
    · exact .inl htaken
    · exact .inr (List.mem_map_of_mem (List.mem_filter.mpr ⟨hspec, decide_eq_true htaken⟩))
  refine ⟨b', ?_, hcolumns, htasks, fun later => seed_again later h hnames⟩
  rw [seed_eq now h, hadded]

/-- What seeding does to a board. The columns that it lacks are added behind those that are there, if
no two of them share a name, and doing it again changes nothing. If two of them do, it fails and adds
nothing. The columns of a new board are always added, and the revision that adds them adds the same
rows to a table of the same columns. -/
theorem seed_all_or_nothing (h : List.Forall₂ Describes descriptions specs) (now : Timestamp)
    (b : Board) :
    (((b.lacking specs).map ColumnSpec.name).Nodup →
      ∃ b', seed descriptions ⟨now, none⟩ b =
          (.ok ((b.lacking specs).map fun spec => .text spec.name), b') ∧
        b'.columns = b.columns ++ ColumnSpec.numbered b.nextColumnId (b.lacking specs) ∧
        b'.tasks = b.tasks ∧ ∀ later, seed descriptions ⟨later, none⟩ b' = (.ok [], b')) ∧
    (¬ ((b.lacking specs).map ColumnSpec.name).Nodup →
      seed descriptions ⟨now, none⟩ b = (.error (.database .constraint), b)) ∧
    ∃ names b', seedDefaults ⟨now, none⟩ b = (.ok names, b') ∧
      ∀ (later : Timestamp) (t : Migration.Tables),
        t.columns.map Migration.ColumnRow.column = b.columns →
        ∃ added, Migration.Revision.columns.apply later (some t) =
            .ok (some { t with columns := t.columns ++ added }) ∧
          (t.columns ++ added).map Migration.ColumnRow.column = b'.columns := by
  refine ⟨seed_of_distinct h now, ?_, ?_⟩
  · intro hnodup
    rw [seed_eq now h, (Board.addSpecs_cases name_not_mem_of_lacking).2 hnodup]
  · have hnodup : ((b.lacking defaultColumns).map ColumnSpec.name).Nodup :=
      nodup_map_filter _ (by decide : (defaultColumns.map ColumnSpec.name).Nodup)
    obtain ⟨b', hseeded, hcolumns, -⟩ := seed_of_distinct describes_defaults now hnodup
    refine ⟨_, b', hseeded, fun later t ht => ?_⟩
    have hadded := Migration.addInitialColumns_eq later ht
    refine ⟨_, by rw [Migration.Revision.apply, hadded], ?_⟩
    rw [List.map_append, ht, List.map_map, hcolumns]
    congr 1
    exact List.map_id _

/-- A board has a column of its own under one of the described names. It stays as it is, and the other
column is added with the defaults that its description leaves open. Described twice, that column is
not added at all. -/
theorem seed_all_or_nothing_later :
    let todo : Fields := [("name", .text "todo"), ("display_name", .text "Chores"), ("position", .int 7)]
    let later : Fields := [("display_name", .text "Later"), ("name", .text "later")]
    let ended := seed [todo, later] ⟨⟨9⟩, none⟩ tightBoard
    ended.1 = .ok [.text "later"] ∧
      ended.2.columns =
        [⟨1, "todo", "To do", none, .integer 0⟩, ⟨2, "later", "Later", none, .integer 0⟩] ∧
      seed [todo, later] ⟨⟨60⟩, none⟩ ended.2 = (.ok [], ended.2) ∧
      seed [todo, later, later] ⟨⟨9⟩, none⟩ tightBoard =
        (.error (.database .constraint), tightBoard) := by
  intro todo later ended
  have htodo : Describes todo ⟨"todo", "Chores", none, .integer 7⟩ :=
    ⟨rfl, rfl, rfl, ⟨by decide, rfl⟩, by decide⟩
  have hlater : Describes later ⟨"later", "Later", none, .integer 0⟩ :=
    ⟨rfl, rfl, rfl, rfl, by decide⟩
  obtain ⟨b', hseeded, hcolumns, -, hagain⟩ := (seed_all_or_nothing
    (.cons htodo (.cons hlater .nil)) ⟨9⟩ tightBoard).1 (by decide)
  have hended : ended = (.ok [.text "later"], b') := hseeded
  rw [hended]
  exact ⟨rfl, hcolumns, hagain ⟨60⟩, (seed_all_or_nothing
    (.cons htodo (.cons hlater (.cons hlater .nil))) ⟨9⟩ tightBoard).2.1 (by decide)⟩

end Seed

end Kanban
