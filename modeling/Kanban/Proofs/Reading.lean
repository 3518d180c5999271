import Kanban.Proofs.Routing
import Mathlib

/-!
# What the reads show

The board is read column by column, and each column under its name. Every column has a name and an
id of its own, so a task that stands in some column is shown once (`Board.flatMap_order_perm`). Both
reads take the tasks of a column from the same order.
-/

namespace Kanban

/-! ## The order of columns -/

/-- A column stands before another one: at a smaller ordinal, or at the same one with a smaller
id. -/
def Column.Before (c d : Column) : Prop :=
  c.ordinal.atMost d.ordinal ∧ (¬d.ordinal.atMost c.ordinal ∨ c.id < d.id)

/-- The order of the columns is strict between different ones, because no two of them share an id.
-/
theorem Column.before_of_precedes {c d : Column} (h : c.precedes d) (hne : c.id ≠ d.id) :
    c.Before d := by
  simp only [precedes, Bool.and_eq_true, Bool.or_eq_true, Bool.not_eq_true', decide_eq_true_eq,
    ← Bool.not_eq_true] at h
  exact ⟨h.1, h.2.imp_right fun hle => lt_of_le_of_ne hle hne⟩

/-- Integers stand in their own order. -/
theorem Column.before_iff_of_integer {c d : Column} {m n : Int} (hc : c.ordinal = .integer m)
    (hd : d.ordinal = .integer n) : c.Before d ↔ m < n ∨ m = n ∧ c.id < d.id := by
  simp only [Before, hc, hd, Scalar.atMost_integer, decide_eq_true_eq]
  omega

namespace Board

variable {b : Board}

theorem orderedColumns_perm (b : Board) : b.orderedColumns.Perm b.columns :=
  List.mergeSort_perm _ _

/-- Columns are shown by their ordinals, and by their ids where these are the same. -/
theorem pairwise_before_orderedColumns (b : Board) :
    b.orderedColumns.Pairwise Column.Before := by
  have hids : b.orderedColumns.Pairwise fun c d => c.id ≠ d.id :=
    List.pairwise_map.mp (((orderedColumns_perm b).map Column.id).nodup_iff.mpr b.columnIds_nodup)
  have hsorted : b.orderedColumns.Pairwise fun c d => c.precedes d :=
    List.pairwise_mergeSort Column.precedes_trans Column.precedes_total b.columns
  exact (hsorted.and hids).imp fun h => Column.before_of_precedes h.1 h.2

/-- A column is found under its id, and under no other one. -/
theorem column?_eq_some_iff {id : Int} {c : Column} :
    b.column? id = some c ↔ c ∈ b.columns ∧ c.id = id := by
  constructor
  · intro h
    exact ⟨List.mem_of_find?_eq_some h, by simpa using List.find?_some h⟩
  · rintro ⟨hc, rfl⟩
    cases hfind : b.column? c.id with
    | none => exact absurd (List.find?_eq_none.mp hfind c hc) (by simp)
    | some d =>
      have hd := List.mem_of_find?_eq_some hfind
      have hid : d.id = c.id := by simpa using List.find?_some hfind
      rw [List.inj_on_of_nodup_map b.columnIds_nodup hd hc hid]

/-- Every task stands in a column that exists. -/
def Housed (b : Board) : Prop := ∀ t ∈ b.tasks, ∃ c ∈ b.columns, c.id = t.column

/-- The tasks of all columns are all tasks, each of them once. -/
theorem flatMap_order_perm (h : b.Housed) :
    (b.orderedColumns.flatMap fun c => b.order c.id).Perm b.tasks := by
  have hids : b.orderedColumns.Pairwise fun c d => c.id ≠ d.id :=
    List.pairwise_map.mp (((orderedColumns_perm b).map Column.id).nodup_iff.mpr b.columnIds_nodup)
  refine (List.perm_ext_iff_of_nodup ?_ (.of_map _ b.taskIds_nodup)).mpr ?_
  · refine List.nodup_flatMap.mpr ⟨fun c _ => .of_map _ (b.nodup_ids_order c.id), ?_⟩
    refine hids.imp fun {c d} hne t hc hd => hne ?_
    exact (mem_order.mp hc).2.symm.trans (mem_order.mp hd).2
  · intro t
    simp only [List.mem_flatMap, mem_order, (orderedColumns_perm b).mem_iff]
    constructor
    · rintro ⟨_, -, ht, -⟩
      exact ht
    · intro ht
      obtain ⟨c, hc, hid⟩ := h t ht
      exact ⟨c, hc, ht, hid.symm⟩

end Board

namespace Http

open Work

/-! ## Answers to reads -/

/-- A request that asks for the head alone has a method of its own. -/
theorem method_ne_head {r : Request} {route : Route} (h : routed? r = some (route, .get)) :
    r.method ≠ headMethod := by
  intro hhead
  have hverb := (verb_of_routed? h).1
  rw [hhead] at hverb
  exact absurd hverb (by decide)

/-- The whole answer to a request that does not ask for the head alone. -/
theorem sent_of_get {r : Request} {route : Route} (h : routed? r = some (route, .get)) {a : Answer}
    (hstatus : a.status = 200) : sent r.method a = a := by
  simp [sent, hstatus, method_ne_head h]

/-- The answer to a client that has no current body. -/
def fresh (body : Json) : Answer :=
  { Answer.json 200 body with tag := some (EntityTag.ofJson body), cacheControl := some revalidate }

/-- A client that has no tag, or another one than that of the body, is sent the body. -/
theorem tagged_json {body : Json} {ifNoneMatch : Option String}
    (h : ifNoneMatch ≠ some (EntityTag.ofJson body)) :
    (Answer.json 200 body).tagged ifNoneMatch = fresh body := by
  have htag : ifNoneMatch ≠ some (EntityTag.ofJson (Answer.json 200 body).body) := h
  rw [Answer.tagged, if_pos (show (Answer.json 200 body).isTaggable from rfl), if_neg htag]
  rfl

variable {s : Service} {code : String} {r : Request} {c : Conditions} {b : Board}

variable {w : Work Returned} {tag : Option String}

/-- What a view returns is answered, and the board stays as it was. -/
theorem viewed_of_ok {returned : Returned} {a : Answer} {b' : Board}
    (h : w c b = (.ok returned, b')) (hanswer : returned.answer? tag = some a) :
    viewed tag w c b = (a, b') := by
  simp only [viewed, h, hanswer, Option.getD_some]

/-- A view that fails by itself is answered with a page. -/
theorem viewed_of_error {e : Failure} {b' : Board} (h : w c b = (.error e, b')) :
    viewed tag w c b = (.page 500, b) := by
  rw [viewed, h]

/-- The board is read in one question, so it is shown when that one is answered. -/
theorem viewed_readBoard (hc : c.refusal? .query = none) (tag : Option String) :
    viewed tag readBoard c b = ((Answer.json 200 b.record).tagged tag, b) :=
  viewed_of_ok (query_eq_ok.mpr ⟨hc, rfl, rfl⟩) rfl

theorem columnIn_of_some {column : Column} {n : Int} (hcolumn : b.column? n = some column)
    (hfits : Stored.Fits n) : Store.columnIn n b = .ok column := by
  rw [Store.columnIn, Stored.integer_of_fits hfits]
  simp only [bind, Except.bind, hcolumn]

/-- A column is read like any other part of the board when it is there. -/
theorem readColumn_of_ok {column : Column} {n : Int} (h : Store.columnIn n b = .ok column) :
    readColumn n c b =
      (Work.query fun b => .ok ⟨.value (columnRecord b column), none⟩ : Work Returned) c b := by
  have hfound : ((Store.column n).attempt c b).1 = .ok (.ok column) := congrArg Except.ok h
  exact (ReadOnly.read _).attempt.bind_of_ok hfound _

/-- A column that cannot be read is refused, and the refusal is what the view returns. -/
theorem readColumn_of_error {e : Failure} {n : Int} (h : Store.columnIn n b = .error e) :
    readColumn n c b = refused e c b := by
  have hfound : ((Store.column n).attempt c b).1 = .ok (.error e) := congrArg Except.ok h
  exact (ReadOnly.read _).attempt.bind_of_ok hfound _

theorem viewed_readColumn {column : Column} {n : Int} (hcolumn : b.column? n = some column)
    (hfits : Stored.Fits n) (hc : c.refusal? .query = none) (tag : Option String) :
    viewed tag (readColumn n) c b = ((Answer.json 200 (columnRecord b column)).tagged tag, b) := by
  have hread : readColumn n c b = (.ok ⟨.value (columnRecord b column), none⟩, b) := by
    rw [readColumn_of_ok (columnIn_of_some hcolumn hfits)]
    exact query_eq_ok.mpr ⟨hc, rfl, rfl⟩
  exact viewed_of_ok hread rfl

/-- A read of the board shows its record. -/
theorem respond_board (h : routed? r = some (.board, .get)) (hc : c.refusal? .query = none)
    (hfresh : r.ifNoneMatch ≠ some (EntityTag.ofJson b.record)) :
    respond s code r c b = (fresh b.record, b) := by
  rw [respond_of_routed h]
  simp only [perform, viewed_readBoard hc]
  rw [tagged_json hfresh, sent_of_get h rfl]

/-- A read of a column shows the column. -/
theorem respond_column {column : Column} {n : Nat} (h : routed? r = some (.column n, .get))
    (hcolumn : b.column? n = some column) (hfits : Stored.Fits n) (hc : c.refusal? .query = none)
    (hfresh : r.ifNoneMatch ≠ some (EntityTag.ofJson (columnRecord b column))) :
    respond s code r c b = (fresh (columnRecord b column), b) := by
  rw [respond_of_routed h]
  simp only [perform, viewed_readColumn hcolumn hfits hc]
  rw [tagged_json hfresh, sent_of_get h rfl]

/-! ## Both reads agree -/

/-- The reads show every column once and in order, and every task once: under the name of its own
column, in the order of that column, and in the same list in which the column itself is read. -/
def ShowsAll (b : Board) : Prop :=
  ∃ (listed : List Column) (lists : Column → List Task),
    (listed.Perm b.columns ∧ (listed.map Column.name).Nodup ∧ listed.Pairwise Column.Before ∧
      listed.Pairwise fun c d => ∀ m n, c.ordinal = .integer m → d.ordinal = .integer n →
        m < n ∨ m = n ∧ c.id < d.id) ∧
    ((listed.flatMap lists).Perm b.tasks ∧
      ∀ column ∈ listed, (lists column).Pairwise Task.Before ∧
        ∀ t ∈ lists column, t.column = column.id) ∧
    (∀ (s : Service) (code : String) (content : Content) (given : Option String) (c : Conditions),
      c.refusal? .query = none →
        let body := .object
          [("columns", .list (listed.map Column.record)),
            ("tasks", .object (listed.map fun column =>
              (column.name, .list ((lists column).map Task.record))))]
        given ≠ some (EntityTag.ofJson body) →
          let answer := (respond s code ⟨"GET", "/api/kanban", content, given⟩ c b).1
          answer.status = 200 ∧ answer.body = body) ∧
    ∀ column ∈ listed, ∀ (s : Service) (code : String) (content : Content) (given : Option String)
      (c : Conditions) (n : Nat), column.id = n → Stored.Fits n → c.refusal? .query = none →
        let body := .object
          [("column", column.record), ("tasks", .list ((lists column).map Task.record)),
            ("orderingEtag", .text (EntityTag.ofOrdering column.id ((lists column).map Task.entry)))]
        given ≠ some (EntityTag.ofJson body) →
          let answer :=
            (respond s code ⟨"GET", "/api/kanban/columns/" ++ toString n, content, given⟩ c b).1
          answer.status = 200 ∧ answer.body = body

/-- A board whose tasks all have a column shows all of them. -/
theorem showsAll (h : b.Housed) : ShowsAll b := by
  have hbefore := b.pairwise_before_orderedColumns
  refine ⟨b.orderedColumns, fun column => b.order column.id,
    ⟨b.orderedColumns_perm, ?_, hbefore, ?_⟩, ⟨Board.flatMap_order_perm h, ?_⟩, ?_, ?_⟩
  · exact (b.orderedColumns_perm.map Column.name).nodup_iff.mpr b.columnNames_nodup
  · exact hbefore.imp fun h m n hm hn => (Column.before_iff_of_integer hm hn).mp h
  · intro column _
    exact ⟨b.pairwise_before_order column.id, fun t ht => (Board.mem_order.mp ht).2⟩
  -- the whole board
  · intro s code content given c hc body hgiven
    rw [respond_board (routed?_board "GET" content given) hc hgiven]
    exact ⟨rfl, rfl⟩
  -- one column, found by the digits of its id
  · intro column hmem s code content given c n hid hfits hc body hgiven
    have hcolumn : b.column? n = some column := by
      rw [← hid]
      exact Board.column?_eq_some_iff.mpr ⟨b.orderedColumns_perm.mem_iff.mp hmem, rfl⟩
    rw [respond_column (routed?_column "GET" content given (lt_of_fits hfits)) hcolumn hfits hc
      hgiven]
    exact ⟨rfl, rfl⟩

end Http

end Kanban
