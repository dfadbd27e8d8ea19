import Mathlib.Data.List.Range
import Mathlib.Algebra.Order.Group.Nat

/-! # Windows of one width

Windows that start at the multiples of a step and are cut off at the end of a sequence:
which positions they contain, and when each of them contains a position of its own.
-/

namespace Tiling

/-- The window at an offset contains a position. -/
def Contains (width length offset position : Nat) : Prop :=
  offset ≤ position ∧ position < offset + width ∧ position < length

/-- The multiples of a step below a length, as `range(0, length, step)` gives them. -/
def multiples (length step : Nat) : List Nat :=
  (List.range ((length + step - 1) / step)).map (· * step)

variable {width length step : Nat}

theorem lt_count_iff (positive : 0 < step) {index : Nat} :
    index < (length + step - 1) / step ↔ index * step < length := by
  rw [Nat.lt_iff_add_one_le, Nat.le_div_iff_mul_le positive, Nat.succ_mul]
  omega

@[simp] theorem length_multiples : (multiples length step).length = (length + step - 1) / step := by
  simp [multiples]

@[simp] theorem getElem_multiples {index : Nat} (bound : index < (multiples length step).length) :
    (multiples length step)[index] = index * step := by
  simp [multiples]

theorem mem_multiples (positive : 0 < step) {offset : Nat} :
    offset ∈ multiples length step ↔ ∃ index, index * step = offset ∧ offset < length := by
  simp only [multiples, List.mem_map, List.mem_range, lt_count_iff positive]
  constructor
  · rintro ⟨index, bound, rfl⟩
    exact ⟨index, rfl, bound⟩
  · rintro ⟨index, rfl, bound⟩
    exact ⟨index, bound, rfl⟩

theorem multiples_increasing (positive : 0 < step) : (multiples length step).Pairwise (· < ·) := by
  rw [multiples, List.pairwise_map]
  exact List.pairwise_lt_range.imp fun smaller => Nat.mul_lt_mul_of_pos_right smaller positive

/-- Without a gap between the windows every position lies in one. -/
theorem exists_contains (positive : 0 < step) (overlapping : step ≤ width) {position : Nat}
    (inside : position < length) :
    ∃ offset ∈ multiples length step, Contains width length offset position := by
  have below := Nat.div_mul_le_self position step
  have above := Nat.lt_div_mul_add positive (a := position)
  exact ⟨position / step * step, (mem_multiples positive).mpr ⟨_, rfl, by omega⟩, below, by omega, inside⟩

/-! ## Positions of one's own -/

/-- The window at an index contains a position that no earlier one contains. -/
def HasOwn (width length : Nat) (offsets : List Nat) (index : Nat) : Prop :=
  ∃ position, (∃ offset ∈ offsets[index]?, Contains width length offset position) ∧
    ∀ earlier < index, ∀ offset ∈ offsets[earlier]?, ¬Contains width length offset position

/-- A window has a position of its own when its predecessor does not reach the end. -/
theorem hasOwn_iff (positive : 0 < step) (overlapping : step ≤ width) {index : Nat}
    (inside : (index + 1) * step < length) :
    HasOwn width length (multiples length step) (index + 1) ↔ index * step + width < length := by
  have found {earlier : Nat} (small : earlier ≤ index + 1) :
      (multiples length step)[earlier]? = some (earlier * step) := by
    have bound : earlier * step < length :=
      lt_of_le_of_lt (Nat.mul_le_mul_right step small) inside
    rw [List.getElem?_eq_getElem (by rw [length_multiples]; exact (lt_count_iff positive).mpr bound),
      getElem_multiples]
  have next : (index + 1) * step = index * step + step := Nat.succ_mul index step
  constructor
  · rintro ⟨position, ⟨offset, there, contains⟩, apart⟩
    rw [found le_rfl] at there
    cases there
    obtain ⟨lower, -, bound⟩ := contains
    -- the position lies behind the predecessor, which starts before it
    have missed := apart index (Nat.lt_succ_self index) _ (found (Nat.le_succ index))
    unfold Contains at missed
    omega
  · intro short
    refine ⟨index * step + width, ⟨_, found le_rfl, by omega, by omega, short⟩, ?_⟩
    intro earlier before offset there contains
    rw [found (Nat.le_of_lt before)] at there
    cases there
    have smaller := Nat.mul_le_mul_right step (Nat.le_of_lt_succ before)
    have reach := contains.2.1
    omega

/-- Every window after the first has a position of its own exactly when what is left behind
the last multiple is longer than the overlap. -/
theorem forall_hasOwn_iff (positive : 0 < step) (overlapping : step ≤ width) (long : width < length) :
    (∀ index, 1 ≤ index → index < (multiples length step).length →
        HasOwn width length (multiples length step) index) ↔
      width - step ≤ (length - 1) % step := by
  have division := Nat.div_add_mod' (length - 1) step
  have remainder := Nat.mod_lt (length - 1) positive
  generalize (length - 1) / step = last at division
  generalize (length - 1) % step = left at division remainder
  rw [length_multiples]
  constructor
  · intro all
    cases last with
    | zero => omega
    | succ last =>
      have inside : (last + 1) * step < length := by omega
      have own := (hasOwn_iff positive overlapping inside).mp
        (all (last + 1) (by omega) ((lt_count_iff positive).mpr inside))
      rw [Nat.succ_mul] at division
      omega
  · intro enough index after bound
    cases index with
    | zero => omega
    | succ index =>
      have inside := (lt_count_iff positive).mp bound
      rw [hasOwn_iff positive overlapping inside]
      have small : index + 1 ≤ last := by
        by_contra larger
        have := Nat.mul_le_mul_right step (show last + 1 ≤ index + 1 by omega)
        rw [Nat.succ_mul last] at this
        omega
      have scaled := Nat.mul_le_mul_right step small
      rw [Nat.succ_mul] at scaled
      omega

end Tiling
