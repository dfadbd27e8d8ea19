import Mathlib.Data.List.Range

/-! # A loop of numbered attempts

An attempt ends the loop with a result, or asks for the next one; without a next one the loop
gives up.  What the attempts did is kept in order.
-/

namespace AttemptLoop

variable {Event Result : Type*}

/-- What one attempt did, and the result it ends the loop with. -/
structure Attempt (Event Result : Type*) where
  events : List Event
  result : Option Result

/-- The attempts from `number` on, with as many as are left. -/
def loop (attempt : Nat → Attempt Event Result) (exhausted : Result) : Nat → Nat → List Event × Result
  | _, 0 => ([], exhausted)
  | number, left + 1 =>
    match (attempt number).result with
    | some result => ((attempt number).events, result)
    | none =>
      ((attempt number).events ++ (loop attempt exhausted (number + 1) left).1,
        (loop attempt exhausted (number + 1) left).2)

section

variable {attempt : Nat → Attempt Event Result} {exhausted : Result}

theorem loop_done {number left : Nat} {result : Result} (done : (attempt number).result = some result) :
    loop attempt exhausted number (left + 1) = ((attempt number).events, result) := by
  simp [loop, done]

theorem loop_again {number left : Nat} (again : (attempt number).result = none) :
    loop attempt exhausted number (left + 1) =
      ((attempt number).events ++ (loop attempt exhausted (number + 1) left).1,
        (loop attempt exhausted (number + 1) left).2) := by
  simp [loop, again]

/-- A loop whose last attempt ends it never gives up: some attempt is the last one made, all
before it asked for another, and the events are those of these attempts. -/
theorem loop_ends (number left : Nat) (ends : (attempt (number + left)).result ≠ none) :
    ∃ before ≤ left, (∀ earlier < before, (attempt (number + earlier)).result = none) ∧
      (attempt (number + before)).result = some (loop attempt exhausted number (left + 1)).2 ∧
      (loop attempt exhausted number (left + 1)).1 =
        (List.range' number before).flatMap (fun k => (attempt k).events) ++
          (attempt (number + before)).events := by
  induction left generalizing number with
  | zero =>
    obtain ⟨result, done⟩ := Option.ne_none_iff_exists'.mp ends
    rw [Nat.add_zero] at done
    exact ⟨0, le_rfl, by simp, by simp [loop_done done, done]⟩
  | succ left inductionHypothesis =>
    cases first : (attempt number).result with
    | some result => exact ⟨0, by omega, by simp, by simp [loop_done first, first]⟩
    | none =>
      have later : (attempt (number + 1 + left)).result ≠ none := by
        rwa [Nat.add_assoc, Nat.add_comm 1 left]
      obtain ⟨before, bound, again, done, events⟩ := inductionHypothesis (number + 1) later
      refine ⟨before + 1, by omega, ?_, ?_, ?_⟩
      · intro earlier below
        cases earlier with
        | zero => exact first
        | succ earlier =>
          have := again earlier (by omega)
          rwa [Nat.add_assoc, Nat.add_comm 1 earlier] at this
      · rw [loop_again first, ← Nat.add_comm 1 before, ← Nat.add_assoc]
        exact done
      · rw [loop_again first, events, List.range'_succ, List.flatMap_cons, ← Nat.add_comm 1 before,
          ← Nat.add_assoc, List.append_assoc]

/-- The tags that the attempts leave, in order. -/
theorem tags_of_attempts {Tag : Type*} {events : Nat → List Event} {tag : Event → Option Tag}
    {tags : Nat → List Tag} (number count : Nat)
    (tagged : ∀ k, number ≤ k → k < number + count → (events k).filterMap tag = tags k) :
    ((List.range' number count).flatMap events).filterMap tag = (List.range' number count).flatMap tags := by
  induction count generalizing number with
  | zero => rfl
  | succ count inductionHypothesis =>
    have first : (events number).filterMap tag = tags number := tagged number le_rfl (by omega)
    have rest := inductionHypothesis (number + 1) fun k above below => tagged k (by omega) (by omega)
    rw [List.range'_succ, List.flatMap_cons, List.flatMap_cons, List.filterMap_append, first, rest]

end

end AttemptLoop
