import Mathlib.Data.List.Basic
import Mathlib.Data.Nat.Basic
import Mathlib.Order.Lattice
import Mathlib.Order.Monotone.Basic

/-! # Places in a ranking

A place in a list is worth less the later it is, and no place is worth nothing.  In a list
sorted by worth, what is worth more stands before what is worth less.
-/

namespace Ranking

/-- At least as good a place; to have none is worse than every place. -/
def AtLeastAsGood : Option Nat → Option Nat → Prop
  | _, none => True
  | some first, some second => first ≤ second
  | none, some _ => False

variable {Worth : Type*} [LinearOrder Worth] [Zero Worth]

def worth (weight : Nat → Worth) : Option Nat → Worth
  | none => 0
  | some place => weight place

variable {weight : Nat → Worth} {first second : Option Nat}

theorem worth_nonneg (positive : ∀ place, 0 < weight place) (place : Option Nat) :
    0 ≤ worth weight place := by
  cases place with
  | none => exact le_rfl
  | some place => exact (positive place).le

theorem worth_le (positive : ∀ place, 0 < weight place) (falling : StrictAnti weight)
    (good : AtLeastAsGood first second) : worth weight second ≤ worth weight first := by
  cases second with
  | none =>
    exact worth_nonneg positive first
  | some later =>
    cases first with
    | none => exact absurd good id
    | some place => exact falling.antitone good

/-- Two places of one list are worth differently. -/
theorem worth_lt (positive : ∀ place, 0 < weight place) (falling : StrictAnti weight)
    (good : AtLeastAsGood first second) (apart : first ≠ second) :
    worth weight second < worth weight first := by
  cases second with
  | none =>
    cases first with
    | none => exact absurd rfl apart
    | some place => exact positive place
  | some later =>
    cases first with
    | none => exact absurd good id
    | some place =>
      have earlier : place < later := lt_of_le_of_ne good (by simpa using apart)
      exact falling earlier

/-! ## Sorted lists -/

variable {Item : Type*} {score : Item → Worth} {items : List Item}

omit [Zero Worth] in
/-- What a sorted list keeps of its beginning, it keeps with all that is worth more. -/
theorem exists_before (sorted : items.Pairwise fun left right => score right ≤ score left) {limit index : Nat}
    {item better : Item} (kept : (items.take limit)[index]? = some item) (mem : better ∈ items)
    (less : score item < score better) :
    ∃ earlier < index, (items.take limit)[earlier]? = some better := by
  obtain ⟨inside, found⟩ := List.getElem?_eq_some_iff.mp kept
  rw [List.length_take] at inside
  rw [List.getElem_take] at found
  obtain ⟨place, bound, there⟩ := List.getElem_of_mem mem
  have before : place < index := by
    by_contra behind
    -- a later item is worth no more
    have ordered : score items[place] ≤ score items[index] := by
      cases Nat.lt_or_eq_of_le (not_lt.mp behind) with
      | inl after => exact List.pairwise_iff_getElem.mp sorted index place _ bound after
      | inr same => simp [same]
    rw [there, found] at ordered
    exact absurd less (not_lt.mpr ordered)
  refine ⟨place, before, ?_⟩
  rw [List.getElem?_take_of_lt (by omega), List.getElem?_eq_getElem bound, there]

end Ranking
