import Mathlib.Data.List.Basic

/-! # Texts built around a delimiter

A text `head ++ delimiter :: tail` whose head avoids the delimiter determines both parts.
Decimal numerals avoid every delimiter that is not a digit.
-/

namespace DelimitedText

variable {Symbol : Type*} {delimiter : Symbol} {first second firstTail secondTail : List Symbol}

theorem split_unique (firstAvoids : delimiter ∉ first) (secondAvoids : delimiter ∉ second)
    (same : first ++ delimiter :: firstTail = second ++ delimiter :: secondTail) :
    first = second ∧ firstTail = secondTail := by
  induction first generalizing second with
  | nil =>
    cases second with
    | nil => simpa using same
    | cons head tail =>
      simp only [List.nil_append, List.cons_append, List.cons.injEq] at same
      exact absurd (same.1 ▸ List.mem_cons_self) secondAvoids
  | cons symbol symbols inductionHypothesis =>
    cases second with
    | nil =>
      simp only [List.nil_append, List.cons_append, List.cons.injEq] at same
      exact absurd (same.1 ▸ List.mem_cons_self) firstAvoids
    | cons head tail =>
      simp only [List.cons_append, List.cons.injEq] at same
      obtain ⟨rfl, rest⟩ := same
      obtain ⟨rfl, tails⟩ := inductionHypothesis (List.not_mem_of_not_mem_cons firstAvoids)
        (List.not_mem_of_not_mem_cons secondAvoids) rest
      exact ⟨rfl, tails⟩

/-- The same from the end of the text, where the tail avoids the delimiter. -/
theorem split_unique_last (firstAvoids : delimiter ∉ firstTail) (secondAvoids : delimiter ∉ secondTail)
    (same : first ++ delimiter :: firstTail = second ++ delimiter :: secondTail) :
    first = second ∧ firstTail = secondTail := by
  have reversed := congrArg List.reverse same
  simp only [List.reverse_append, List.reverse_cons, List.append_assoc, List.singleton_append] at reversed
  obtain ⟨tails, heads⟩ := split_unique (by simpa using firstAvoids) (by simpa using secondAvoids) reversed
  exact ⟨List.reverse_injective heads, List.reverse_injective tails⟩

/-! Checks of a closed text, made symbol by symbol and not over the whole type of symbols. -/

theorem apart_of_all [DecidableEq Symbol] {symbols others : List Symbol}
    (checked : symbols.all (fun symbol => !others.contains symbol) = true) :
    ∀ symbol ∈ symbols, symbol ∉ others := by
  simpa using checked

theorem among_of_all [DecidableEq Symbol] {symbols others : List Symbol}
    (checked : symbols.all (fun symbol => others.contains symbol) = true) :
    ∀ symbol ∈ symbols, symbol ∈ others := by
  simpa using checked

@[irreducible] def decimal (number : Nat) : String := Nat.repr number

theorem not_mem_decimal {delimiter : Char} (undigit : delimiter.isDigit = false) (number : Nat) :
    delimiter ∉ (decimal number).toList := by
  unfold decimal
  intro member
  rw [Nat.toList_repr] at member
  rw [Nat.isDigit_of_mem_toDigits (by decide) (by decide) member] at undigit
  contradiction

theorem decimal_unique {first second : Nat} (same : (decimal first).toList = (decimal second).toList) :
    first = second := by
  unfold decimal at same
  rw [Nat.toList_repr, Nat.toList_repr] at same
  have read := congrArg (Nat.ofDigitChars 10 · 0) same
  simpa [Nat.ofDigitChars_toDigits] using read

theorem decimal_ne_nil (number : Nat) : (decimal number).toList ≠ [] := by
  unfold decimal
  rw [Nat.toList_repr]
  exact Nat.toDigits_ne_nil

end DelimitedText
