import Mathlib.Data.List.Nodup

/-! # Tables as lists of rows

A table is a list of rows and a primary key is a function of the row.  `replace` is an
`UPDATE` by primary key, `delete` a `DELETE` by primary key; inserting is appending.
`Unique` is the constraint that makes a query by key return at most one row.
-/

namespace Rows

variable {Row Key : Type*} [DecidableEq Key]

/-- The row with the key of `row` becomes `row`. -/
def replace (key : Row → Key) (row : Row) (rows : List Row) : List Row :=
  rows.map fun old => if key old = key row then row else old

/-- The rows with another key stay. -/
def delete (key : Row → Key) (value : Key) (rows : List Row) : List Row :=
  rows.filter fun row => key row ≠ value

def Unique {Value : Type*} (key : Row → Value) (rows : List Row) : Prop :=
  (rows.map key).Nodup

variable {key : Row → Key} {row : Row} {rows : List Row}

theorem mem_replace {member : Row} :
    member ∈ replace key row rows ↔
      (member = row ∧ ∃ old ∈ rows, key old = key row) ∨ (member ∈ rows ∧ key member ≠ key row) := by
  simp only [replace, List.mem_map]
  constructor
  · rintro ⟨old, present, rfl⟩
    split
    next same => exact .inl ⟨rfl, old, present, same⟩
    next differs => exact .inr ⟨present, differs⟩
  · rintro (⟨rfl, old, present, same⟩ | ⟨present, differs⟩)
    · exact ⟨old, present, if_pos same⟩
    · exact ⟨member, present, if_neg differs⟩

theorem mem_replace_self {old : Row} (present : old ∈ rows) (same : key old = key row) :
    row ∈ replace key row rows :=
  mem_replace.mpr (.inl ⟨rfl, old, present, same⟩)

theorem mem_replace_of_ne {member : Row} (present : member ∈ rows) (differs : key member ≠ key row) :
    member ∈ replace key row rows :=
  mem_replace.mpr (.inr ⟨present, differs⟩)

theorem forall_replace {condition : Row → Prop} (new : condition row) (others : ∀ old ∈ rows, condition old) :
    ∀ member ∈ replace key row rows, condition member := by
  intro member present
  rcases mem_replace.mp present with ⟨rfl, _⟩ | ⟨present, _⟩
  · exact new
  · exact others member present

/-- A column the new row leaves as it was keeps its values. -/
theorem map_replace {Value : Type*} (column : Row → Value)
    (agrees : ∀ old ∈ rows, key old = key row → column old = column row) :
    (replace key row rows).map column = rows.map column := by
  simp only [replace, List.map_map]
  refine List.map_congr_left fun old present => ?_
  simp only [Function.comp]
  split
  next same => exact (agrees old present same).symm
  next => rfl

/-- Replacing a row commutes with a change of the other columns. -/
theorem map_replace_of_key {change : Row → Row} (sameKey : ∀ row, key (change row) = key row) :
    (replace key row rows).map change = replace key (change row) (rows.map change) := by
  simp only [replace, List.map_map]
  apply List.map_congr_left
  intro old _
  simp only [Function.comp, sameKey, apply_ite change]

/-- A selection on columns the new row leaves as they were selects the updated rows. -/
theorem filter_replace (condition : Row → Bool)
    (agrees : ∀ old ∈ rows, key old = key row → condition old = condition row) :
    (replace key row rows).filter condition = replace key row (rows.filter condition) := by
  induction rows with
  | nil => rfl
  | cons head tail inductionHypothesis =>
    have tailEqual := inductionHypothesis fun old present => agrees old (List.mem_cons_of_mem _ present)
    simp only [replace, List.map_cons, List.filter_cons] at tailEqual ⊢
    by_cases same : key head = key row
    · have headEqual := agrees head List.mem_cons_self same
      cases selected : condition head <;>
        simp_all
    · cases selected : condition head <;>
        simp_all

theorem replace_of_absent (absent : ∀ old ∈ rows, key old ≠ key row) :
    replace key row rows = rows := by
  simp only [replace]
  conv_rhs => rw [← List.map_id rows]
  exact List.map_congr_left fun old present => if_neg (absent old present)

@[simp] theorem replace_singleton {old : Row} (same : key old = key row) :
    replace key row [old] = [row] := by
  simp [replace, same]

section Unique

variable {Value : Type*} {column : Row → Value}

theorem Unique.eq {first second : Row} (unique : Unique column rows) (firstMem : first ∈ rows)
    (secondMem : second ∈ rows) (same : column first = column second) : first = second :=
  List.inj_on_of_nodup_map unique firstMem secondMem same

theorem Unique.replace (unique : Unique column rows)
    (agrees : ∀ old ∈ rows, key old = key row → column old = column row) :
    Unique column (replace key row rows) := by
  unfold Unique
  rw [map_replace column agrees]
  exact unique

theorem Unique.append (unique : Unique column rows)
    (fresh : ∀ old ∈ rows, column old ≠ column row) : Unique column (rows ++ [row]) := by
  unfold Unique at unique ⊢
  rw [List.map_append, List.nodup_append]
  refine ⟨unique, List.nodup_singleton _, ?_⟩
  intro value present other singleton
  obtain ⟨old, oldMem, rfl⟩ := List.mem_map.mp present
  simp only [List.map_cons, List.map_nil, List.mem_singleton] at singleton
  rw [singleton]
  exact fresh old oldMem

theorem Unique.cons (unique : Unique column rows)
    (fresh : ∀ old ∈ rows, column old ≠ column row) : Unique column (row :: rows) := by
  refine List.nodup_cons.mpr ⟨fun present => ?_, unique⟩
  obtain ⟨old, oldMem, same⟩ := List.mem_map.mp present
  exact fresh old oldMem same

theorem Unique.filter (unique : Unique column rows) (condition : Row → Bool) :
    Unique column (rows.filter condition) :=
  unique.sublist (List.filter_sublist.map column)

/-- Under a unique column, looking a row up by it finds exactly that row. -/
theorem Unique.find?_eq_some [DecidableEq Value] (unique : Unique column rows) (present : row ∈ rows) :
    rows.find? (fun other => column other = column row) = some row := by
  cases found : rows.find? (fun other => column other = column row) with
  | none =>
    have absent := List.find?_eq_none.mp found row present
    simp at absent
  | some other =>
    have same : column other = column row := by simpa using List.find?_some found
    rw [unique.eq (List.mem_of_find?_eq_some found) present same]

/-- Writing a row back unchanged changes nothing. -/
theorem replace_self (unique : Unique key rows) (present : row ∈ rows) :
    Rows.replace key row rows = rows := by
  simp only [Rows.replace]
  conv_rhs => rw [← List.map_id rows]
  refine List.map_congr_left fun old oldMem => ?_
  by_cases same : key old = key row
  · rw [if_pos same, unique.eq oldMem present same]
    rfl
  · exact if_neg same

end Unique

theorem mem_delete {value : Key} {member : Row} :
    member ∈ delete key value rows ↔ member ∈ rows ∧ key member ≠ value := by
  simp [delete]

/-- The row that replaces a found one is found in its place. -/
theorem find?_replace {old : Row} {condition : Row → Bool}
    (found : rows.find? condition = some old) (sameKey : key old = key row)
    (selected : condition row = true) : (replace key row rows).find? condition = some row := by
  induction rows with
  | nil => cases found
  | cons head tail inductionHypothesis =>
    simp only [replace, List.map_cons]
    by_cases same : key head = key row
    · rw [if_pos same, List.find?_cons_of_pos selected]
    · rw [if_neg same]
      by_cases first : condition head = true
      · rw [List.find?_cons_of_pos first] at found
        cases found
        exact absurd sameKey same
      · rw [List.find?_cons_of_neg first] at found ⊢
        exact inductionHypothesis found

end Rows
