import Mathlib.Data.List.Sort

/-! # The answers of an ordered query

`ORDER BY` leaves the order of rows that compare alike to the database: an answer is any
arrangement of the rows that keeps to the order.
-/

namespace OrderedRows

variable {Row : Type*} {order : Row → Row → Prop} {rows answer other : List Row}

structure Answers (order : Row → Row → Prop) (rows answer : List Row) : Prop where
  perm : answer.Perm rows
  ordered : answer.Pairwise order

/-- When no two rows compare alike there is one answer. -/
theorem Answers.unique (first : Answers order rows answer) (second : Answers order rows other)
    (apart : ∀ left ∈ rows, ∀ right ∈ rows, order left right → order right left → left = right) :
    answer = other :=
  (first.perm.trans second.perm.symm).eq_of_pairwise
    (fun left right leftMem rightMem => apart left (first.perm.subset leftMem) right (second.perm.subset rightMem))
    first.ordered second.ordered

theorem Answers.of_perm {same : List Row} (answers : Answers order rows answer) (perm : rows.Perm same) :
    Answers order same answer :=
  ⟨answers.perm.trans perm, answers.ordered⟩

/-- Sorting gives an answer. -/
theorem answers_insertionSort [DecidableRel order] [Std.Total order] [IsTrans Row order] (rows : List Row) :
    Answers order rows (rows.insertionSort order) :=
  ⟨List.perm_insertionSort order rows, List.pairwise_insertionSort order rows⟩

end OrderedRows
