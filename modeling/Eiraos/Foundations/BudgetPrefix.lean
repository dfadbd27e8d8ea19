import Mathlib.Algebra.BigOperators.Group.List.Basic
import Mathlib.Algebra.GroupWithZero.Nat

/-! # The longest prefix within a budget

A list is taken from its front for as long as the next item still fits.
-/

namespace BudgetPrefix

variable {Item : Type*} (cost : Item → Nat)

def total (items : List Item) : Nat := (items.map cost).sum

def take (budget : Nat) : List Item → List Item
  | [] => []
  | item :: rest => if cost item ≤ budget then item :: take (budget - cost item) rest else []

variable {cost} {budget larger : Nat} {items : List Item}

@[simp] theorem total_nil : total cost [] = 0 := rfl

@[simp] theorem total_cons (item : Item) (rest : List Item) :
    total cost (item :: rest) = cost item + total cost rest := by
  simp [total]

@[simp] theorem total_append (first second : List Item) :
    total cost (first ++ second) = total cost first + total cost second := by
  simp [total]

@[simp] theorem total_reverse (items : List Item) : total cost items.reverse = total cost items := by
  simp [total]

theorem take_prefix : take cost budget items <+: items := by
  induction items generalizing budget with
  | nil => exact List.prefix_rfl
  | cons item rest inductionHypothesis =>
    unfold take
    split
    · exact List.prefix_cons_inj item |>.mpr inductionHypothesis
    · exact List.nil_prefix

theorem total_take_le : total cost (take cost budget items) ≤ budget := by
  induction items generalizing budget with
  | nil => simp [take]
  | cons item rest inductionHypothesis =>
    unfold take
    split
    next fits =>
      have : total cost (take cost (budget - cost item) rest) ≤ budget - cost item := inductionHypothesis
      rw [total_cons]
      omega
    next => simp

/-- The item after the prefix does not fit any more. -/
theorem budget_lt_of_next {next : Item} {rest : List Item}
    (split : items = take cost budget items ++ next :: rest) :
    budget < total cost (take cost budget items) + cost next := by
  induction items generalizing budget with
  | nil => simp [take] at split
  | cons item later inductionHypothesis =>
    unfold take at split ⊢
    by_cases fits : cost item ≤ budget
    · rw [if_pos fits, List.cons_append, List.cons.injEq] at split
      have := inductionHypothesis split.2
      rw [if_pos fits, total_cons]
      omega
    · rw [if_neg fits, List.nil_append, List.cons.injEq] at split
      rw [if_neg fits, ← split.1, total_nil]
      omega

/-- A larger budget takes more. -/
theorem take_mono (more : budget ≤ larger) : take cost budget items <+: take cost larger items := by
  induction items generalizing budget larger with
  | nil => exact List.prefix_rfl
  | cons item rest inductionHypothesis =>
    unfold take
    by_cases fits : cost item ≤ budget
    · rw [if_pos fits, if_pos (Nat.le_trans fits more)]
      apply (List.prefix_cons_inj item).mpr
      exact inductionHypothesis (by omega)
    · rw [if_neg fits]
      exact List.nil_prefix

end BudgetPrefix
