import Mathlib.Data.List.DropRight
import Mathlib.Data.List.Infix

/-! # A closing delimiter

A text that ends with a delimiter keeps what stands before it inside exactly if the delimiter
occurs nowhere else.  Symbols that are not in the delimiter cut a text into parts that can be
looked at one by one.
-/

namespace ClosingDelimiter

variable {Symbol : Type*} {delimiter first second body : List Symbol}

/-- The delimiter ends the text, and every occurrence of it is that one. -/
structure EndsOnce (delimiter text : List Symbol) : Prop where
  ends : delimiter <:+ text
  once : ∀ before after, text = before ++ delimiter ++ after → after = []

theorem infix_append_cons {symbol : Symbol} (apart : symbol ∉ delimiter) :
    delimiter <:+: first ++ symbol :: second ↔ delimiter <:+: first ∨ delimiter <:+: second := by
  constructor
  · intro occurs
    obtain ⟨before, after, same⟩ := occurs
    rcases List.append_eq_append_iff.mp same with ⟨rest, whole, _⟩ | ⟨rest, whole, tail⟩
    · left
      exact ⟨before, rest, whole.symm⟩
    · -- the occurrence reaches to the symbol or beyond it
      cases rest with
      | nil =>
        left
        rw [List.append_nil] at whole
        exact ⟨before, [], by rw [List.append_nil, whole]⟩
      | cons head rest =>
        obtain ⟨rfl, split⟩ := List.cons_eq_cons.mp tail
        rcases List.append_eq_append_iff.mp whole with ⟨middle, _, inside⟩ | ⟨middle, _, outside⟩
        · exact absurd (inside ▸ List.mem_append_right _ List.mem_cons_self) apart
        · cases middle with
          | nil =>
            have starts : symbol :: rest = delimiter := outside
            exact absurd (starts ▸ List.mem_cons_self) apart
          | cons _ middle =>
            right
            have there := (List.cons_eq_cons.mp outside).2
            exact ⟨middle, after, by rw [split, there]; rfl⟩
  · intro parts
    cases parts with
    | inl inFirst => exact inFirst.trans (List.infix_append' [] first _)
    | inr inSecond => exact inSecond.trans ⟨first ++ [symbol], [], by simp⟩

/-- The same for a separator of several symbols. -/
theorem infix_append_separator {separator : List Symbol} (some_symbol : separator ≠ [])
    (present : delimiter ≠ []) (apart : ∀ symbol ∈ separator, symbol ∉ delimiter) :
    delimiter <:+: first ++ (separator ++ second) ↔ delimiter <:+: first ∨ delimiter <:+: second := by
  induction separator generalizing first with
  | nil => exact absurd rfl some_symbol
  | cons symbol rest inductionHypothesis =>
    rw [List.cons_append, infix_append_cons (apart symbol List.mem_cons_self)]
    cases rest with
    | nil => rfl
    | cons next rest =>
      have nothing : ¬delimiter <:+: [] := fun occurs => present (List.infix_nil.mp occurs)
      have later : delimiter <:+: [] ++ ((next :: rest) ++ second) ↔
          delimiter <:+: [] ∨ delimiter <:+: second :=
        inductionHypothesis (List.cons_ne_nil _ _) fun symbol mem => apart symbol (List.mem_cons_of_mem _ mem)
      rw [List.nil_append, or_iff_right nothing] at later
      rw [later]

/-- Symbols apart from the delimiter at the end of a text do not matter. -/
theorem infix_append_apart {tail : List Symbol} (present : delimiter ≠ [])
    (apart : ∀ symbol ∈ tail, symbol ∉ delimiter) :
    delimiter <:+: first ++ tail ↔ delimiter <:+: first := by
  by_cases empty : tail = []
  · rw [empty, List.append_nil]
  · have cut : delimiter <:+: first ++ (tail ++ []) ↔ delimiter <:+: first ∨ delimiter <:+: [] :=
      infix_append_separator empty present apart
    rw [List.append_nil] at cut
    rw [cut, or_iff_left fun occurs => present (List.infix_nil.mp occurs)]

theorem infix_rdropWhile {p : Symbol → Bool} (present : delimiter ≠ [])
    (apart : ∀ symbol, p symbol = true → symbol ∉ delimiter) :
    delimiter <:+: body.rdropWhile p ↔ delimiter <:+: body := by
  have whole : body.rdropWhile p ++ body.rtakeWhile p = body := by
    simp [List.rdropWhile, List.rtakeWhile, ← List.reverse_append]
  conv_rhs => rw [← whole]
  apply (infix_append_apart present _).symm
  intro symbol mem
  exact apart symbol (List.mem_rtakeWhile_imp mem)

theorem infix_intercalate {separator : List Symbol} {parts : List (List Symbol)}
    (some_symbol : separator ≠ []) (present : delimiter ≠ [])
    (apart : ∀ symbol ∈ separator, symbol ∉ delimiter) :
    delimiter <:+: separator.intercalate parts ↔ ∃ part ∈ parts, delimiter <:+: part := by
  induction parts with
  | nil => simp [List.intercalate, present]
  | cons part parts inductionHypothesis =>
    cases parts with
    | nil => simp [List.intercalate]
    | cons next parts =>
      have joined : separator.intercalate (part :: next :: parts) =
          part ++ (separator ++ separator.intercalate (next :: parts)) := by
        simp [List.intercalate]
      rw [joined, infix_append_separator some_symbol present apart, inductionHypothesis]
      simp

/-- A delimiter whose first symbol does not come again ends the text once exactly if it is not in
what stands before. -/
theorem endsOnce_iff {head : Symbol} {tail : List Symbol} (unrepeated : head ∉ tail) :
    EndsOnce (head :: tail) (body ++ head :: tail) ↔ ¬(head :: tail) <:+: body := by
  constructor
  · intro ends occurs
    obtain ⟨before, after, same⟩ := occurs
    have nothing := ends.once before (after ++ head :: tail) (by rw [← same]; simp)
    simp at nothing
  · intro absent
    refine ⟨List.suffix_append body _, ?_⟩
    intro before after same
    by_contra more
    rcases List.append_eq_append_iff.mp same with ⟨rest, whole, split⟩ | ⟨rest, whole, _⟩
    · -- the occurrence ends inside the closing delimiter, and so begins before it
      cases rest with
      | nil =>
        rw [List.append_nil] at whole
        exact absent ⟨before, [], by rw [List.append_nil, whole]⟩
      | cons first rest =>
        obtain ⟨rfl, inTail⟩ := List.cons_eq_cons.mp split
        have inTail : tail = rest ++ after := inTail
        have lengths := congrArg List.length whole
        have tails := congrArg List.length inTail
        have positive := List.length_pos_iff.mpr more
        simp only [List.length_append, List.length_cons] at lengths tails
        rcases List.append_eq_append_iff.mp whole with ⟨between, before', again⟩ | ⟨_, longer, _⟩
        · cases between with
          | nil =>
            have same := congrArg List.length before'
            simp only [List.append_nil] at same
            omega
          | cons _ between =>
            apply unrepeated
            rw [(List.cons_eq_cons.mp again).2]
            exact List.mem_append_right _ List.mem_cons_self
        · have same := congrArg List.length longer
          rw [List.length_append] at same
          omega
    · exact absent ⟨before, rest, whole.symm⟩

end ClosingDelimiter
