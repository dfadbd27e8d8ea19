import Eiraos.Foundations.Rows
import Mathlib.Algebra.BigOperators.Group.Finset.Basic
import Mathlib.Algebra.Order.BigOperators.Group.Finset
import Mathlib.Algebra.GroupWithZero.Nat

/-! # Sums in which one summand changes -/

namespace Sums

open Finset

/-- Where only one summand changes, the sum changes by what that summand changes. -/
theorem sum_add_eq_of_off {Index : Type*} [DecidableEq Index] {indices : Finset Index} {index : Index}
    (before after : Index → Nat) (member : index ∈ indices)
    (same : ∀ other ∈ indices, other ≠ index → after other = before other) :
    ∑ other ∈ indices, after other + before index = ∑ other ∈ indices, before other + after index := by
  have rest : ∑ other ∈ indices.erase index, after other = ∑ other ∈ indices.erase index, before other :=
    Finset.sum_congr rfl fun other otherMem =>
      same other (Finset.mem_of_mem_erase otherMem) (Finset.ne_of_mem_erase otherMem)
  have beforeSplit := Finset.add_sum_erase indices before member
  have afterSplit := Finset.add_sum_erase indices after member
  omega

/-- Writing one row changes a sum over the rows by what that row changes. -/
theorem sum_replace {Row Key : Type*} [DecidableEq Key] {key : Row → Key} {rows : List Row}
    (amount : Row → Nat) {old row : Row} (unique : Rows.Unique key rows) (present : old ∈ rows)
    (same : key row = key old) :
    ((Rows.replace key row rows).map amount).sum + amount old = (rows.map amount).sum + amount row := by
  induction rows with
  | nil => cases present
  | cons head tail inductionHypothesis =>
    simp only [Rows.replace, Rows.Unique, List.map_cons, List.nodup_cons, List.sum_cons] at *
    rcases List.mem_cons.mp present with rfl | inTail
    · -- The row is the head, so no row of the tail has its key.
      have absent : ∀ other ∈ tail, key other ≠ key row := by
        intro other otherMem equal
        exact unique.1 (List.mem_map.mpr ⟨other, otherMem, equal.trans same⟩)
      have kept : Rows.replace key row tail = tail := Rows.replace_of_absent absent
      simp only [Rows.replace] at kept
      rw [kept, if_pos same.symm]
      omega
    · have differs : key head ≠ key row := by
        intro equal
        exact unique.1 (List.mem_map.mpr ⟨old, inTail, same.symm.trans equal.symm⟩)
      have := inductionHypothesis unique.2 inTail
      rw [if_neg differs]
      omega

/-- A selection that misses only rows of amount zero has at least the sum. -/
theorem sum_filter_le {Row : Type*} {rows : List Row} (amount : Row → Nat) {chosen kept : Row → Bool}
    (covers : ∀ row ∈ rows, chosen row = true → kept row = true ∨ amount row = 0) :
    ((rows.filter chosen).map amount).sum ≤ ((rows.filter kept).map amount).sum := by
  induction rows with
  | nil => exact Nat.le_refl _
  | cons head tail inductionHypothesis =>
    have tailLe := inductionHypothesis fun row member => covers row (List.mem_cons_of_mem _ member)
    have headCovered := covers head List.mem_cons_self
    cases isChosen : chosen head with
    | false =>
      cases isKept : kept head with
      | false => simpa [isChosen, isKept] using tailLe
      | true =>
        simp only [List.filter_cons, isChosen, isKept, if_true, Bool.false_eq_true, if_false,
          List.map_cons, List.sum_cons]
        omega
    | true =>
      cases isKept : kept head with
      | false =>
        have zero : amount head = 0 := by simpa [isKept] using headCovered isChosen
        simpa [isChosen, isKept, zero] using tailLe
      | true => simpa [isChosen, isKept] using tailLe

end Sums
