import Mathlib.Data.List.Forall2

/-! # Trees of dictionaries and sequences

Two trees may differ in what stands under some of the keys only.  A function that looks at nothing
there gives the same for both, and it is enough to see this entry by entry.
-/

namespace KeyedTree

variable {κ σ : Type}

/-- A nested Python value. -/
inductive Tree (κ σ : Type) where
  | scalar (value : σ)
  | list (items : List (Tree κ σ))
  | tuple (items : List (Tree κ σ))
  | dict (entries : List (κ × Tree κ σ))

namespace Tree

/-- The items of a list or a tuple. -/
def items? : Tree κ σ → Option (List (Tree κ σ))
  | .list items => some items
  | .tuple items => some items
  | _ => none

/-- Induction with a hypothesis for everything inside. -/
@[elab_as_elim]
theorem inside {motive : Tree κ σ → Prop} (scalar : ∀ value, motive (.scalar value))
    (list : ∀ items, (∀ item ∈ items, motive item) → motive (.list items))
    (tuple : ∀ items, (∀ item ∈ items, motive item) → motive (.tuple items))
    (dict : ∀ entries, (∀ entry ∈ entries, motive entry.2) → motive (.dict entries)) :
    ∀ tree, motive tree
  | .scalar value => scalar value
  | .list items => list items fun item _ => inside scalar list tuple dict item
  | .tuple items => tuple items fun item _ => inside scalar list tuple dict item
  | .dict entries => dict entries fun entry _ => inside scalar list tuple dict entry.2
termination_by tree => sizeOf tree
decreasing_by
  · rename_i mem
    have smaller := List.sizeOf_lt_of_mem mem
    simp only [Tree.list.sizeOf_spec]
    omega
  · rename_i mem
    have smaller := List.sizeOf_lt_of_mem mem
    simp only [Tree.tuple.sizeOf_spec]
    omega
  · rename_i mem
    have smaller := List.sizeOf_lt_of_mem mem
    obtain ⟨key, value⟩ := entry
    simp only [Tree.dict.sizeOf_spec, Prod.mk.sizeOf_spec] at smaller ⊢
    omega

end Tree

/-! ## Trees that differ under hidden keys -/

mutual

/-- The trees differ in nothing but what stands, at any depth, under hidden keys. -/
inductive SameOutside (hidden : κ → Prop) : Tree κ σ → Tree κ σ → Prop where
  | scalar (value : σ) : SameOutside hidden (.scalar value) (.scalar value)
  | list {items others : List (Tree κ σ)} (same : List.Forall₂ (SameOutside hidden) items others) :
      SameOutside hidden (.list items) (.list others)
  | tuple {items others : List (Tree κ σ)} (same : List.Forall₂ (SameOutside hidden) items others) :
      SameOutside hidden (.tuple items) (.tuple others)
  | dict {entries others : List (κ × Tree κ σ)} (same : List.Forall₂ (SameEntry hidden) entries others) :
      SameOutside hidden (.dict entries) (.dict others)

inductive SameEntry (hidden : κ → Prop) : κ × Tree κ σ → κ × Tree κ σ → Prop where
  | hidden {key : κ} (hides : hidden key) (value other : Tree κ σ) :
      SameEntry hidden (key, value) (key, other)
  | shown (key : κ) {value other : Tree κ σ} (same : SameOutside hidden value other) :
      SameEntry hidden (key, value) (key, other)

end

variable {hidden : κ → Prop}

theorem SameOutside.refl (tree : Tree κ σ) : SameOutside hidden tree tree := by
  induction tree using Tree.inside with
  | scalar value => exact .scalar value
  | list items inside => exact .list (List.forall₂_same.mpr inside)
  | tuple items inside => exact .tuple (List.forall₂_same.mpr inside)
  | dict entries inside =>
    apply SameOutside.dict
    apply List.forall₂_same.mpr
    intro entry mem
    exact .shown entry.1 (inside entry mem)

/-! ## Functions that look at one item after the other -/

theorem mapM_eq_of_forall₂ {α β γ : Type} {m : Type → Type} [Monad m] {first : α → m γ} {second : β → m γ}
    {items : List α} {others : List β}
    (same : List.Forall₂ (fun item other => first item = second other) items others) :
    items.mapM first = others.mapM second := by
  have agree (collected : List γ) : List.mapM.loop first items collected =
      List.mapM.loop second others collected := by
    induction same generalizing collected with
    | nil => rfl
    | cons head rest inductionHypothesis =>
      unfold List.mapM.loop
      rw [head]
      congr 1
      funext result
      exact inductionHypothesis (result :: collected)
  exact agree []

section Results

variable {α β γ : Type} {first : α → Option γ} {second : β → Option γ} {items : List α} {others : List β}

theorem mapM_eq_none_iff : items.mapM first = none ↔ ∃ item ∈ items, first item = none := by
  induction items with
  | nil => simp
  | cons item items inductionHypothesis =>
    rw [List.mapM_cons]
    cases head : first item with
    | none => simp [head]
    | some result =>
      cases tail : items.mapM first with
      | none => simpa [head, tail] using inductionHypothesis
      | some results => simpa [head, tail] using inductionHypothesis

theorem mapM_cons_eq_some {item : α} {results : List γ} (whole : (item :: items).mapM first = some results) :
    ∃ head tail, first item = some head ∧ items.mapM first = some tail ∧ results = head :: tail := by
  rw [List.mapM_cons] at whole
  obtain ⟨head, headResult, rest⟩ := Option.bind_eq_some_iff.mp whole
  obtain ⟨tail, tailResults, same⟩ := Option.bind_eq_some_iff.mp rest
  exact ⟨head, tail, headResult, tailResults, (Option.some.inj same).symm⟩

/-- Two lists have the same results if their items are related one by one. -/
theorem results_eq_iff {Related : α → β → Prop} {results others' : List γ}
    (one : ∀ item ∈ items, ∀ other result result', first item = some result → second other = some result' →
      (result = result' ↔ Related item other))
    (left : items.mapM first = some results) (right : others.mapM second = some others') :
    results = others' ↔ List.Forall₂ Related items others := by
  induction items generalizing others results others' with
  | nil =>
    cases left
    cases others with
    | nil =>
      cases right
      simp
    | cons other others =>
      obtain ⟨head, tail, _, _, rfl⟩ := mapM_cons_eq_some right
      simp
  | cons item items inductionHypothesis =>
    obtain ⟨head, tail, itemResult, itemResults, rfl⟩ := mapM_cons_eq_some left
    cases others with
    | nil =>
      cases right
      simp
    | cons other others =>
      obtain ⟨head', tail', otherResult, otherResults, rfl⟩ := mapM_cons_eq_some right
      have heads := one item List.mem_cons_self other head head' itemResult otherResult
      have tails := inductionHypothesis (fun item mem => one item (List.mem_cons_of_mem _ mem)) itemResults
        otherResults
      rw [List.cons_eq_cons, List.forall₂_cons, heads, tails]

end Results

end KeyedTree
