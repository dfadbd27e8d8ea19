import Eiraos.Foundations.PythonText

/-! # POSIX paths

`pathlib.PurePosixPath`: a path is an anchor and its components.  Parsing drops empty components and `.`
but keeps `..`, so that a component is never empty, never `.` and holds no slash.
-/

open PythonText

/-- What is left of the slashes that a path begins with. -/
inductive PathAnchor where
  | relative
  | root
  /-- Exactly two slashes. -/
  | doubleRoot
  deriving DecidableEq, Repr

/-- What parsing keeps of a text between two slashes. -/
def isPathName (text : String) : Bool := text ≠ "" && text ≠ "." && !text.toList.contains '/'

structure PathName where
  text : String
  proper : isPathName text = true
  deriving DecidableEq, Repr

structure PosixPath where
  anchor : PathAnchor
  parts : List PathName
  deriving DecidableEq, Repr

namespace PathName

def of? (text : String) : Option PathName :=
  if proper : isPathName text = true then some ⟨text, proper⟩ else none

theorem of?_text (name : PathName) : of? name.text = some name := dif_pos name.proper

theorem of?_eq_none {text : String} (improper : isPathName text = false) : of? text = none :=
  dif_neg (by simp [improper])

theorem text_ne_empty (name : PathName) : name.text ≠ "" := by
  have proper := name.proper
  simp only [isPathName, Bool.and_eq_true, decide_eq_true_eq] at proper
  exact proper.1.1

theorem slash_not_mem (name : PathName) : '/' ∉ name.text.toList := by
  have proper := name.proper
  simp only [isPathName, Bool.and_eq_true, Bool.not_eq_true', List.contains_eq_mem, decide_eq_false_iff_not]
    at proper
  exact proper.2

theorem toList_ne_nil (name : PathName) : name.text.toList ≠ [] := by
  simpa using name.text_ne_empty

end PathName

namespace PosixPath

/-! ## Parsing -/

def anchorOf (text : List Char) : PathAnchor :=
  match (text.takeWhile (· = '/')).length with
  | 0 => .relative
  | 2 => .doubleRoot
  | _ => .root

/-- `PurePosixPath(text)`. -/
def parse (text : String) : PosixPath :=
  ⟨anchorOf text.toList, (split '/' text).filterMap PathName.of?⟩

/-- `path / other`. -/
def join (path other : PosixPath) : PosixPath :=
  if other.anchor = .relative then ⟨path.anchor, path.parts ++ other.parts⟩ else other

/-- A path of one component. -/
def single (name : PathName) : PosixPath := ⟨.relative, [name]⟩

/-- `path.parents`: the path without its last component, without its last two, and so on. -/
def parents (path : PosixPath) : List PosixPath :=
  (List.range path.parts.length).map fun index =>
    ⟨path.anchor, path.parts.take (path.parts.length - 1 - index)⟩

/-- `path.relative_to(root)`; `none` is a `ValueError`. -/
def relativeTo? (path root : PosixPath) : Option PosixPath :=
  if root.anchor = path.anchor ∧ root.parts <+: path.parts then
    some ⟨.relative, path.parts.drop root.parts.length⟩
  else none

/-- `path.suffix`. -/
def suffix (path : PosixPath) : String :=
  match path.parts.getLast? with
  | none => ""
  | some name =>
    -- `name` up to its last dot, which is neither its first nor its last character
    let stem := name.text.toList.rdropWhile (· ≠ '.')
    if 1 < stem.length ∧ stem.length < name.text.length then
      String.ofList (name.text.toList.drop (stem.length - 1))
    else ""

def anchorText : PathAnchor → String
  | .relative => ""
  | .root => "/"
  | .doubleRoot => "//"

/-- `path.as_posix()`. -/
def asPosix (path : PosixPath) : String :=
  if path.anchor = .relative ∧ path.parts = [] then "."
  else anchorText path.anchor ++ PythonText.join "/" (path.parts.map PathName.text)

/-! ## Paths below a path -/

@[simp] theorem join_relative (path : PosixPath) (parts : List PathName) :
    path.join ⟨.relative, parts⟩ = ⟨path.anchor, path.parts ++ parts⟩ := if_pos rfl

theorem mem_parents {path other : PosixPath} :
    other ∈ path.parents ↔ ∃ below, below ≠ [] ∧ path = other.join ⟨.relative, below⟩ := by
  simp only [parents, List.mem_map, List.mem_range, join_relative]
  constructor
  · rintro ⟨index, bound, rfl⟩
    refine ⟨path.parts.drop (path.parts.length - 1 - index), ?_, ?_⟩
    · simp only [ne_eq, List.drop_eq_nil_iff]
      omega
    · rw [List.take_append_drop]
  · rintro ⟨below, proper, rfl⟩
    have positive := List.length_pos_of_ne_nil proper
    refine ⟨below.length - 1, by simp only [List.length_append]; omega, ?_⟩
    have length : (other.parts ++ below).length - 1 - (below.length - 1) = other.parts.length := by
      simp only [List.length_append]
      omega
    rw [length, List.take_left]

theorem relativeTo?_eq_some {path root rest : PosixPath} :
    path.relativeTo? root = some rest ↔ rest.anchor = .relative ∧ path = root.join rest := by
  unfold relativeTo?
  constructor
  · intro found
    split at found
    next within =>
      cases found
      obtain ⟨same, below, parts⟩ := within
      refine ⟨rfl, ?_⟩
      rw [join_relative, ← parts, List.drop_left, parts, same]
    next => cases found
  · rintro ⟨relative, rfl⟩
    obtain ⟨anchor, parts⟩ := rest
    cases relative
    simp

/-! ## Texts of paths -/

theorem splitFrom_of_not_mem {separator : Char} {text : List Char} (absent : separator ∉ text) (item : List Char) :
    splitFrom separator item text = [item ++ text] := by
  induction text generalizing item with
  | nil => simp [splitFrom]
  | cons character text inductionHypothesis =>
    simp only [List.mem_cons, not_or] at absent
    rw [splitFrom, if_neg (Ne.symm absent.1), inductionHypothesis absent.2]
    simp

/-- The components that parsing finds in a text. -/
def components (text : List Char) : List PathName :=
  ((splitFrom '/' [] text).map String.ofList).filterMap PathName.of?

theorem parse_ofList (text : List Char) : parse (String.ofList text) = ⟨anchorOf text, components text⟩ := by
  simp [parse, components, split]

theorem components_nil : components [] = [] := by
  have dropped : PathName.of? "" = none := PathName.of?_eq_none rfl
  simp [components, splitFrom, dropped]

theorem components_name (name : PathName) : components name.text.toList = [name] := by
  simp [components, splitFrom_of_not_mem name.slash_not_mem, PathName.of?_text]

theorem components_append (left right : List Char) :
    components (left ++ '/' :: right) = components left ++ components right := by
  simp [components, splitFrom_append]

/-- Slashes at the beginning make no component. -/
theorem components_slashes (count : Nat) (text : List Char) :
    components (List.replicate count '/' ++ text) = components text := by
  induction count with
  | zero => rfl
  | succ count inductionHypothesis =>
    have cut := components_append [] (List.replicate count '/' ++ text)
    rw [components_nil, List.nil_append, inductionHypothesis] at cut
    exact cut

/-- Names between slashes are read back. -/
theorem components_names (names : List PathName) :
    components (['/'].intercalate (names.map fun name => name.text.toList)) = names := by
  induction names with
  | nil => exact components_nil
  | cons name names inductionHypothesis =>
    cases names with
    | nil => simp [components_name]
    | cons next names =>
      simp only [List.map_cons, List.intercalate_cons_cons, List.append_assoc, List.singleton_append,
        components_append, components_name] at inductionHypothesis ⊢
      rw [inductionHypothesis]

theorem anchorOf_slashes {count : Nat} {text : List Char} (starts : text.head? ≠ some '/') :
    anchorOf (List.replicate count '/' ++ text) = anchorOf (List.replicate count '/') := by
  have stops : text.takeWhile (· = '/') = [] := by
    cases text with
    | nil => rfl
    | cons character text => simpa using starts
  simp [anchorOf, stops]

theorem head?_names (names : List PathName) :
    (['/'].intercalate (names.map fun name => name.text.toList)).head? ≠ some '/' := by
  cases names with
  | nil => simp
  | cons name names =>
    obtain ⟨head, tail, written⟩ := List.exists_cons_of_ne_nil name.toList_ne_nil
    have other : head ≠ '/' := fun same => name.slash_not_mem (by simp [written, same])
    cases names <;> simp [List.intercalate_cons_cons, written, other]

theorem parse_name (name : PathName) : parse name.text = single name := by
  have starts := head?_names [name]
  have anchor := @anchorOf_slashes 0 _ starts
  have read := parse_ofList name.text.toList
  simp only [List.map_cons, List.map_nil, List.intercalate_singleton, List.replicate_zero, List.nil_append]
    at anchor
  rw [String.ofList_toList, anchor, components_name] at read
  exact read

theorem anchorText_slashes (anchor : PathAnchor) :
    ∃ count, (anchorText anchor).toList = List.replicate count '/' ∧
      anchorOf (List.replicate count '/') = anchor := by
  cases anchor with
  | relative => exact ⟨0, rfl, rfl⟩
  | root => exact ⟨1, rfl, rfl⟩
  | doubleRoot => exact ⟨2, rfl, rfl⟩

/-- A path is read back from its text. -/
theorem parse_asPosix (path : PosixPath) : parse path.asPosix = path := by
  obtain ⟨anchor, names⟩ := path
  unfold asPosix
  split
  next empty =>
    obtain ⟨rfl, rfl⟩ := empty
    decide +kernel
  next =>
    obtain ⟨count, written, read⟩ := anchorText_slashes anchor
    have text : anchorText anchor ++ PythonText.join "/" (names.map PathName.text) =
        String.ofList (List.replicate count '/' ++ ['/'].intercalate (names.map fun name => name.text.toList)) := by
      rw [String.ofList_append, ← written, String.ofList_toList, PythonText.join, List.map_map]
      rfl
    rw [text, parse_ofList, anchorOf_slashes (head?_names names), read, components_slashes, components_names]

theorem slash_not_mem_suffix (path : PosixPath) : '/' ∉ path.suffix.toList := by
  unfold suffix
  cases path.parts.getLast? with
  | none => simp
  | some name =>
    dsimp only
    split
    · rw [String.toList_ofList]
      exact fun mem => name.slash_not_mem (List.mem_of_mem_drop mem)
    · simp

end PosixPath
