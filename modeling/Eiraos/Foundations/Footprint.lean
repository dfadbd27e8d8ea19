import Mathlib.Data.Set.Function

/-! # What a call reads and writes

A state is made of cells, and `content state cell` is what a cell holds.  A call is
confined to a set of cells when it leaves every other cell as it is, and when neither what
it returns nor what it leaves in its own cells depends on the others.
-/

namespace Footprint

variable {State Cell Content Result Value Final : Type*}

structure Confined (content : State → Cell → Content) (cells : Set Cell)
    (call : State → State × Result) : Prop where
  writes : ∀ state cell, cell ∉ cells → content (call state).1 cell = content state cell
  reads : ∀ first second, Set.EqOn (content first) (content second) cells →
    (call first).2 = (call second).2 ∧
      Set.EqOn (content (call first).1) (content (call second).1) cells

namespace Confined

variable {content : State → Cell → Content} {cells : Set Cell}

/-- A call that leaves the state alone. -/
theorem pass (result : Result) : Confined content cells fun state => (state, result) where
  writes _ _ _ := rfl
  reads _ _ agree := ⟨rfl, agree⟩

/-- A change of the state whose result does not depend on it. -/
theorem change {effect : State → State} (result : Result)
    (writes : ∀ state cell, cell ∉ cells → content (effect state) cell = content state cell)
    (reads : ∀ first second, Set.EqOn (content first) (content second) cells →
      Set.EqOn (content (effect first)) (content (effect second)) cells) :
    Confined content cells fun state => (effect state, result) where
  writes := writes
  reads first second agree := ⟨rfl, reads first second agree⟩

/-- What a confined call returns may be worked on further. -/
theorem map {call : State → State × Result} (confined : Confined content cells call)
    (finish : Result → Final) : Confined content cells fun state => ((call state).1, finish (call state).2) where
  writes := confined.writes
  reads first second agree := by
    obtain ⟨results, contents⟩ := confined.reads first second agree
    exact ⟨congrArg finish results, contents⟩

/-- The value of a query that reads the cells only may decide how a call goes on. -/
theorem branch {query : State → Value} {next : Value → State → State × Result}
    (determined : ∀ first second, Set.EqOn (content first) (content second) cells →
      query first = query second)
    (confined : ∀ value, Confined content cells (next value)) :
    Confined content cells fun state => next (query state) state where
  writes state := (confined (query state)).writes state
  reads first second agree := by
    simp only [determined first second agree]
    exact (confined (query second)).reads first second agree

end Confined

end Footprint
