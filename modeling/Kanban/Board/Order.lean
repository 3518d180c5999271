import Kanban.Board

/-!
# The order of a board

The tasks of a column are listed by position, and tasks at the same position by id. The columns are
listed by their ordinal, and columns with the same ordinal by id.
-/

namespace Kanban

/-- A task does not come after another one in the same column. -/
def Task.precedes (s t : Task) : Bool :=
  s.position < t.position || (s.position == t.position && s.id ≤ t.id)

def Column.precedes (c d : Column) : Bool :=
  c.ordinal.atMost d.ordinal && (!d.ordinal.atMost c.ordinal || c.id ≤ d.id)

namespace Board

/-- The tasks of a column, in order. -/
def order (b : Board) (column : Int) : List Task :=
  (b.tasks.filter fun t => t.column = column).mergeSort Task.precedes

def orderWithout (b : Board) (column task : Int) : List Task :=
  (b.tasks.filter fun t => t.column = column && t.id ≠ task).mergeSort Task.precedes

def orderedColumns (b : Board) : List Column := b.columns.mergeSort Column.precedes

def positions (b : Board) (column : Int) : List Int := (b.order column).map Task.position

end Board

/-- The id of a task with its position. -/
def Task.entry (t : Task) : Int × Int := (t.id, t.position)

/-! ## The order is linear -/

theorem Task.precedes_trans (s t u : Task) (h : s.precedes t) (h' : t.precedes u) :
    s.precedes u := by
  simp only [Task.precedes, Bool.or_eq_true, Bool.and_eq_true, decide_eq_true_eq, beq_iff_eq] at *
  omega

/-- Any two tasks can be compared: where positions are the same, ids decide. -/
theorem Task.precedes_total (s t : Task) : (s.precedes t || t.precedes s) = true := by
  simp only [Task.precedes, Bool.or_eq_true, Bool.and_eq_true, decide_eq_true_eq, beq_iff_eq]
  omega

theorem Column.precedes_trans (c d e : Column) (h : c.precedes d) (h' : d.precedes e) :
    c.precedes e := by
  simp only [Column.precedes, Bool.and_eq_true, Bool.or_eq_true, Bool.not_eq_true',
    decide_eq_true_eq] at *
  refine ⟨Scalar.atMost_trans h.1 h'.1, ?_⟩
  by_cases hec : e.ordinal.atMost c.ordinal
  · have hdc : d.ordinal.atMost c.ordinal := Scalar.atMost_trans h'.1 hec
    have hed : e.ordinal.atMost d.ordinal := Scalar.atMost_trans hec h.1
    right
    have hcd := h.2.resolve_left (by simp [hdc])
    have hde := h'.2.resolve_left (by simp [hed])
    omega
  · exact .inl (by simpa using hec)

theorem Column.precedes_total (c d : Column) : (c.precedes d || d.precedes c) = true := by
  simp only [Column.precedes, Bool.and_eq_true, Bool.or_eq_true, Bool.not_eq_true',
    decide_eq_true_eq]
  rcases Scalar.atMost_total c.ordinal d.ordinal with h | h
  · by_cases h' : d.ordinal.atMost c.ordinal
    · rcases Int.le_total c.id d.id with hid | hid
      · exact .inl ⟨h, .inr hid⟩
      · exact .inr ⟨h', .inr hid⟩
    · exact .inl ⟨h, .inl (by simpa using h')⟩
  · by_cases h' : c.ordinal.atMost d.ordinal
    · rcases Int.le_total c.id d.id with hid | hid
      · exact .inl ⟨h', .inr hid⟩
      · exact .inr ⟨h, .inr hid⟩
    · exact .inr ⟨h, .inl (by simpa using h')⟩

namespace Board

/-- A column has the tasks that name it. That the column exists is not asked. -/
@[simp] theorem mem_order {b : Board} {column : Int} {t : Task} :
    t ∈ b.order column ↔ t ∈ b.tasks ∧ t.column = column := by
  simp [order]

theorem pairwise_order (b : Board) (column : Int) :
    (b.order column).Pairwise fun s t => s.precedes t :=
  List.pairwise_mergeSort Task.precedes_trans Task.precedes_total _

end Board

end Kanban
