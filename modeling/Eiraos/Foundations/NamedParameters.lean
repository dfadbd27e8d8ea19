import Mathlib.Data.List.Basic

/-! # Named parameters of a text

A parameter is a colon and a name.  A colon behind another one, behind a word or behind a backslash
starts none, and a name that a colon goes on is none: that is a cast.
-/

namespace NamedParameters

/-- A character of a name. -/
def isWord (character : Char) : Bool := character.isAlphanum || character = '_'

/-- A parameter may start behind this text. -/
def Opens (before : List Char) : Prop :=
  ∀ character ∈ before.getLast?, isWord character = false ∧ character ≠ ':' ∧ character ≠ '\\'

/-- A name may end before this text. -/
def Ends (after : List Char) : Prop := ∀ character ∈ after.head?, isWord character = false ∧ character ≠ ':'

-- The instance is named, since one that tries every character would do as well.
instance (before : List Char) : Decidable (Opens before) := Option.decidableForallMem before.getLast?

instance (after : List Char) : Decidable (Ends after) := Option.decidableForallMem after.head?

/-- The text has a parameter of this name. -/
def HasParameter (name text : List Char) : Prop :=
  ∃ before after, text = before ++ ':' :: (name ++ after) ∧ Opens before ∧ Ends after

/-- Every name that `binds` finds in a text is that of a parameter. -/
def Recognizes (binds : String → List String) : Prop :=
  ∀ text, ∀ name ∈ binds text, HasParameter name.toList text.toList

/-! ## A name that is no parameter -/

/-- Somewhere a colon and the name stand before a text where the name may end. -/
def occurs (name : List Char) : List Char → Bool
  | [] => false
  | character :: rest =>
    (character = ':' && name.isPrefixOf rest && decide (Ends (rest.drop name.length))) || occurs name rest

theorem occurs_of_hasParameter {name text : List Char} (has : HasParameter name text) : occurs name text = true := by
  obtain ⟨before, after, rfl, -, ended⟩ := has
  induction before with
  | nil => simp [occurs, ended]
  | cons character before inductionHypothesis => simp [occurs, inductionHypothesis]

/-- Whoever recognizes parameters alone does not bind a name that occurs only as one of a cast. -/
theorem not_mem_of_not_occurs {binds : String → List String} (recognizes : Recognizes binds) {name text : String}
    (absent : occurs name.toList text.toList = false) : name ∉ binds text := by
  intro bound
  rw [occurs_of_hasParameter (recognizes text name bound)] at absent
  cases absent

/-! ## A scan for the parameters -/

/-- The names in `rest`, which stands behind the text `before`. -/
def namesFrom (before : List Char) : List Char → List String
  | [] => []
  | character :: rest =>
    let name := rest.takeWhile isWord
    let later := namesFrom (before ++ [character]) rest
    if character = ':' ∧ name ≠ [] ∧ Opens before ∧ Ends (rest.dropWhile isWord) then
      String.ofList name :: later
    else later

def names (text : String) : List String := namesFrom [] text.toList

theorem hasParameter_of_mem_namesFrom {before text : List Char} {name : String}
    (found : name ∈ namesFrom before text) : HasParameter name.toList (before ++ text) := by
  induction text generalizing before with
  | nil => cases found
  | cons character rest inductionHypothesis =>
    have later : name ∈ namesFrom (before ++ [character]) rest →
        HasParameter name.toList (before ++ character :: rest) := by
      intro there
      simpa using inductionHypothesis there
    simp only [namesFrom] at found
    split at found
    next parameter =>
      obtain ⟨rfl, -, opens, ended⟩ := parameter
      cases List.mem_cons.mp found with
      | inl here =>
        refine ⟨before, rest.dropWhile isWord, ?_, opens, ended⟩
        rw [here, String.toList_ofList, List.takeWhile_append_dropWhile]
      | inr there => exact later there
    next => exact later found

theorem recognizes_names : Recognizes names :=
  fun _ _ found => hasParameter_of_mem_namesFrom found

end NamedParameters
