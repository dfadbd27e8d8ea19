import Eiraos.Foundations.KeyedTree
import Eiraos.Foundations.PythonText

/-! # Redaction of log events (`core/logging.py`)

A string under a matching key is masked.  Anything else under such a key is walked through as if it
stood elsewhere.
-/

namespace Eiraos.Logging

open KeyedTree PythonText

/-! ## Events -/

/-- A scalar or a key: a string, or a value of any other type. -/
inductive LogScalar (α : Type) where
  | text (value : PythonStr)
  | other (value : α)
  deriving DecidableEq, Repr

abbrev LogTree (α : Type) := Tree (LogScalar α) (LogScalar α)

abbrev LogEvent (α : Type) := List (LogScalar α × LogTree α)

variable {α : Type}

/-! ## Redaction -/

/-- `SENSITIVE_KEYS`. -/
def sensitiveKeys : List PythonStr :=
  ["authorization", "auth", "apikey", "api", "password", "pwd", "secret", "token", "jwt", "email",
    "cookie", "session", "creditcard", "ccnumber", "iban", "phonenumber"]

def redactedValue : PythonStr := "[REDACTED]"

/-- The lowercase of a key without underscores, hyphens and blanks. -/
def normalized (table : PythonStr.CaseTable) (key : PythonStr) : PythonStr :=
  ⟨(key.lower table).codePoints.filter fun codePoint => !(PythonStr.ofText "_- ").codePoints.contains codePoint⟩

/-- `_key_matches`, which raises for a key that is no string. -/
def keyMatches (table : PythonStr.CaseTable) : LogScalar α → Option Bool
  | .text key => some (sensitiveKeys.any (normalized table key).contains)
  | .other _ => none

mutual

/-- `_redact_one`; `none` when it raises. -/
def redactOne (table : PythonStr.CaseTable) (key : LogScalar α) : LogTree α → Option (LogTree α)
  -- `_walk(value)`, which does not know the key
  | .dict entries => (walkEntries table entries).map .dict
  | .list items => (redactItems table key items).map .list
  | .tuple items => (redactItems table key items).map .list
  | .scalar (.text text) => do
    if ← keyMatches table key then return .scalar (.text redactedValue)
    else return .scalar (.text text)
  | .scalar (.other value) => some (.scalar (.other value))

def redactItems (table : PythonStr.CaseTable) (key : LogScalar α) :
    List (LogTree α) → Option (List (LogTree α))
  | [] => some []
  | item :: items => do return (← redactOne table key item) :: (← redactItems table key items)

/-- The entries of `_walk`. -/
def walkEntries (table : PythonStr.CaseTable) : LogEvent α → Option (LogEvent α)
  | [] => some []
  | (key, value) :: entries => do
    return (key, ← redactOne table key value) :: (← walkEntries table entries)

end

mutual

/-- `_walk`. -/
def walk (table : PythonStr.CaseTable) : LogTree α → Option (LogTree α)
  | .dict entries => (walkEntries table entries).map .dict
  | .list items => (walkItems table items).map .list
  | .tuple items => (walkItems table items).map .list
  | .scalar value => some (.scalar value)

def walkItems (table : PythonStr.CaseTable) : List (LogTree α) → Option (List (LogTree α))
  | [] => some []
  | item :: items => do return (← walk table item) :: (← walkItems table items)

end

/-- `redact_pii`. -/
def redactPii (table : PythonStr.CaseTable) (event : LogEvent α) : Option (LogTree α) :=
  walk table (.dict event)

/-! ## What the log shows -/

/-- Strings under the key are masked. -/
def hidesText (table : PythonStr.CaseTable) (key : LogScalar α) : Bool := keyMatches table key = some true

/-- The values differ in nothing but masked strings, and in lists where the other has tuples;
`hidden` tells whether the strings that stand here, directly or through sequences, are masked. -/
inductive Alike (table : PythonStr.CaseTable) : Bool → LogTree α → LogTree α → Prop where
  | masked (text other : PythonStr) : Alike table true (.scalar (.text text)) (.scalar (.text other))
  | scalar (hidden : Bool) (value : LogScalar α) : Alike table hidden (.scalar value) (.scalar value)
  | sequence {hidden : Bool} {value other : LogTree α} {items others : List (LogTree α)}
      (left : value.items? = some items) (right : other.items? = some others)
      (length : items.length = others.length)
      (alike : ∀ pair ∈ items.zip others, Alike table hidden pair.1 pair.2) : Alike table hidden value other
  | dict (hidden : Bool) {entries others : LogEvent α} (keys : entries.map Prod.fst = others.map Prod.fst)
      (alike : ∀ pair ∈ entries.zip others, Alike table (hidesText table pair.1.1) pair.1.2 pair.2.2) :
      Alike table hidden (.dict entries) (.dict others)

/-- A string stands, directly or through sequences, under a key that is no string. -/
inductive Unmatchable : LogScalar α → LogTree α → Prop where
  -- only for a string is the key looked at
  | text (key : α) (text : PythonStr) : Unmatchable (.other key) (.scalar (.text text))
  | item {key : LogScalar α} {value item : LogTree α} {items : List (LogTree α)}
      (sequence : value.items? = some items) (mem : item ∈ items) (inside : Unmatchable key item) :
      Unmatchable key value
  | entry (key : LogScalar α) {entries : LogEvent α} {entry : LogScalar α × LogTree α} (mem : entry ∈ entries)
      (inside : Unmatchable entry.1 entry.2) : Unmatchable key (.dict entries)

section Walk

variable {table : PythonStr.CaseTable} {key : LogScalar α}

theorem redactItems_eq_mapM (items : List (LogTree α)) :
    redactItems table key items = items.mapM (redactOne table key) := by
  induction items with
  | nil => rfl
  | cons item items inductionHypothesis =>
    rw [redactItems, List.mapM_cons, inductionHypothesis]

/-- What becomes of an entry. -/
def redactEntry (table : PythonStr.CaseTable) (entry : LogScalar α × LogTree α) :
    Option (LogScalar α × LogTree α) :=
  (redactOne table entry.1 entry.2).map (entry.1, ·)

theorem walkEntries_eq_mapM (entries : LogEvent α) :
    walkEntries table entries = entries.mapM (redactEntry table) := by
  induction entries with
  | nil => rfl
  | cons entry entries inductionHypothesis =>
    obtain ⟨key, value⟩ := entry
    rw [walkEntries, List.mapM_cons, inductionHypothesis, redactEntry]
    cases redactOne table key value <;> rfl

theorem redactOne_of_items {value : LogTree α} {items : List (LogTree α)} (sequence : value.items? = some items) :
    redactOne table key value = (items.mapM (redactOne table key)).map .list := by
  cases value with
  | list => cases sequence; rw [redactOne, redactItems_eq_mapM]
  | tuple => cases sequence; rw [redactOne, redactItems_eq_mapM]
  | scalar => cases sequence
  | dict => cases sequence

theorem redactOne_dict (entries : LogEvent α) :
    redactOne table key (.dict entries) = (entries.mapM (redactEntry table)).map .dict := by
  rw [redactOne, walkEntries_eq_mapM]

/-- A dictionary is walked through in the same way wherever it stands. -/
theorem redactOne_eq_walk (entries : LogEvent α) :
    redactOne table key (.dict entries) = walk table (.dict entries) := by
  rw [redactOne, walk]

end Walk

/-! ## When redaction raises -/

section Raises

variable {table : PythonStr.CaseTable} {key : LogScalar α}

theorem unmatchable_scalar_iff {value : LogScalar α} :
    Unmatchable key (.scalar value) ↔ (∃ other, key = .other other) ∧ ∃ text, value = .text text := by
  constructor
  · intro unmatchable
    cases unmatchable with
    | text other text => exact ⟨⟨other, rfl⟩, text, rfl⟩
    | item sequence => cases sequence
  · rintro ⟨⟨other, rfl⟩, text, rfl⟩
    exact .text other text

theorem unmatchable_iff_of_items {value : LogTree α} {items : List (LogTree α)}
    (sequence : value.items? = some items) :
    Unmatchable key value ↔ ∃ item ∈ items, Unmatchable key item := by
  constructor
  · intro unmatchable
    cases unmatchable with
    | text => cases sequence
    | item own mem inside =>
      rw [own] at sequence
      cases sequence
      exact ⟨_, mem, inside⟩
    | entry => cases sequence
  · rintro ⟨item, mem, inside⟩
    exact .item sequence mem inside

theorem unmatchable_dict_iff {entries : LogEvent α} :
    Unmatchable key (.dict entries) ↔ ∃ entry ∈ entries, Unmatchable entry.1 entry.2 := by
  constructor
  · intro unmatchable
    cases unmatchable with
    | item sequence => cases sequence
    | entry _ mem inside => exact ⟨_, mem, inside⟩
  · rintro ⟨entry, mem, inside⟩
    exact .entry key mem inside

theorem redactOne_none_of_items {value : LogTree α} {items : List (LogTree α)}
    (sequence : value.items? = some items)
    (inside : ∀ item ∈ items, redactOne table key item = none ↔ Unmatchable key item) :
    redactOne table key value = none ↔ Unmatchable key value := by
  rw [redactOne_of_items sequence, Option.map_eq_none_iff, mapM_eq_none_iff, unmatchable_iff_of_items sequence]
  exact exists_congr fun item => and_congr_right fun mem => inside item mem

/-- Redaction raises for a string under a key that is no string, and for nothing else. -/
theorem redactOne_eq_none_iff {value : LogTree α} :
    redactOne table key value = none ↔ Unmatchable key value := by
  induction value using Tree.inside generalizing key with
  | scalar value =>
    rw [unmatchable_scalar_iff]
    cases value with
    | text text =>
      cases key with
      | text key =>
        simp only [redactOne, keyMatches, Option.bind_eq_bind, Option.bind_some]
        split <;> simp
      | other key => simp [redactOne, keyMatches]
    | other value => simp [redactOne]
  | list items inside => exact redactOne_none_of_items rfl fun item mem => inside item mem
  | tuple items inside => exact redactOne_none_of_items rfl fun item mem => inside item mem
  | dict entries inside =>
    rw [redactOne_dict, Option.map_eq_none_iff, mapM_eq_none_iff, unmatchable_dict_iff]
    apply exists_congr
    intro entry
    apply and_congr_right
    intro mem
    rw [redactEntry, Option.map_eq_none_iff, inside entry mem]

end Raises

/-! ## Equal outputs -/

section Outputs

variable {table : PythonStr.CaseTable} {hidden : Bool} {key : LogScalar α}

theorem alike_text_iff {text : PythonStr} {other : LogTree α} :
    Alike table hidden (.scalar (.text text)) other ↔
      ∃ text', other = .scalar (.text text') ∧ (hidden = true ∨ text = text') := by
  constructor
  · intro alike
    cases alike with
    | masked _ other => exact ⟨other, rfl, .inl rfl⟩
    | scalar => exact ⟨text, rfl, .inr rfl⟩
    | sequence left => cases left
  · rintro ⟨text', rfl, rfl | rfl⟩
    · exact .masked text text'
    · exact .scalar hidden (.text text)

theorem alike_other_iff {value : α} {other : LogTree α} :
    Alike table hidden (.scalar (.other value)) other ↔ other = .scalar (.other value) := by
  constructor
  · intro alike
    cases alike with
    | scalar => rfl
    | sequence left => cases left
  · rintro rfl
    exact .scalar hidden (.other value)

theorem alike_iff_of_items {value other : LogTree α} {items : List (LogTree α)}
    (sequence : value.items? = some items) :
    Alike table hidden value other ↔
      ∃ others, other.items? = some others ∧ List.Forall₂ (Alike table hidden) items others := by
  constructor
  · intro alike
    cases alike with
    | masked => cases sequence
    | scalar => cases sequence
    | sequence left right length alike =>
      rw [sequence] at left
      cases left
      exact ⟨_, right, List.forall₂_iff_zip.mpr ⟨length, fun mem => alike _ mem⟩⟩
    | dict => cases sequence
  · rintro ⟨others, right, alike⟩
    have pairs := List.forall₂_iff_zip.mp alike
    exact .sequence sequence right pairs.1 fun pair mem => pairs.2 mem

theorem alike_dict_iff {entries : LogEvent α} {other : LogTree α} :
    Alike table hidden (.dict entries) other ↔ ∃ others, other = .dict others ∧
      List.Forall₂ (fun entry other => entry.1 = other.1 ∧
        Alike table (hidesText table entry.1) entry.2 other.2) entries others := by
  constructor
  · intro alike
    cases alike with
    | sequence left => cases left
    | dict _ keys alike =>
      refine ⟨_, rfl, ?_⟩
      have paired := List.forall₂_map_left_iff.mp (List.forall₂_map_right_iff.mp (List.forall₂_eq_eq_eq ▸ keys))
      rw [List.forall₂_iff_zip] at paired ⊢
      exact ⟨paired.1, fun mem => ⟨paired.2 mem, alike _ mem⟩⟩
  · rintro ⟨others, rfl, alike⟩
    apply Alike.dict
    · apply List.forall₂_eq_eq_eq ▸ List.forall₂_map_left_iff.mpr (List.forall₂_map_right_iff.mpr _)
      exact alike.imp fun _ _ pair => pair.1
    · intro pair mem
      exact (List.forall₂_zip alike mem).2

/-! ### The kinds of results -/

/-- What redaction makes of a value. -/
inductive Redacted (table : PythonStr.CaseTable) (key : LogScalar α) : LogTree α → LogTree α → Prop where
  | text (text : PythonStr) : Redacted table key (.scalar (.text text))
      (.scalar (.text (if hidesText table key then redactedValue else text)))
  | other (value : α) : Redacted table key (.scalar (.other value)) (.scalar (.other value))
  | sequence {value : LogTree α} {items results : List (LogTree α)} (sequence : value.items? = some items)
      (mapped : items.mapM (redactOne table key) = some results) : Redacted table key value (.list results)
  | dict {entries results : LogEvent α} (mapped : entries.mapM (redactEntry table) = some results) :
      Redacted table key (.dict entries) (.dict results)

theorem redacted_of_items {value result : LogTree α} {items : List (LogTree α)}
    (sequence : value.items? = some items) (whole : redactOne table key value = some result) :
    Redacted table key value result := by
  rw [redactOne_of_items sequence] at whole
  obtain ⟨results, mapped, rfl⟩ := Option.map_eq_some_iff.mp whole
  exact .sequence sequence mapped

theorem redacted_of_eq_some {value result : LogTree α} (whole : redactOne table key value = some result) :
    Redacted table key value result := by
  cases value with
  | scalar value =>
    cases value with
    | text text =>
      cases matches? : keyMatches table key with
      | none => simp [redactOne, matches?] at whole
      | some matched =>
        have hides : hidesText table key = matched := by cases matched <;> simp [hidesText, matches?]
        have shown : result = .scalar (.text (if hidesText table key then redactedValue else text)) := by
          rw [hides]
          cases matched <;> simpa [redactOne, matches?, eq_comm] using whole
        rw [shown]
        exact .text text
    | other value =>
      rw [redactOne] at whole
      cases whole
      exact .other value
  | list items => exact redacted_of_items rfl whole
  | tuple items => exact redacted_of_items rfl whole
  | dict entries =>
    rw [redactOne_dict] at whole
    obtain ⟨results, mapped, rfl⟩ := Option.map_eq_some_iff.mp whole
    exact .dict mapped

theorem redactOne_alike_of_items {value other result result' : LogTree α} {items : List (LogTree α)}
    (sequence : value.items? = some items)
    (inside : ∀ item ∈ items, ∀ {other result result' : LogTree α},
      redactOne table key item = some result → redactOne table key other = some result' →
        (result = result' ↔ Alike table (hidesText table key) item other))
    (left : redactOne table key value = some result) (right : redactOne table key other = some result') :
    result = result' ↔ Alike table (hidesText table key) value other := by
  rw [alike_iff_of_items sequence]
  rw [redactOne_of_items sequence] at left
  obtain ⟨results, mapped, rfl⟩ := Option.map_eq_some_iff.mp left
  cases redacted_of_eq_some right with
  | sequence there mapped' =>
    have same := results_eq_iff (fun item mem other result result' => inside item mem) mapped mapped'
    simpa [there] using same
  -- no scalar and no dictionary comes out as a list, and none has items
  | text => simp [Tree.items?]
  | other => simp [Tree.items?]
  | dict => simp [Tree.items?]

/-- Two values under one key have the same output exactly if they are alike. -/
theorem redactOne_alike {value other result result' : LogTree α}
    (left : redactOne table key value = some result) (right : redactOne table key other = some result') :
    result = result' ↔ Alike table (hidesText table key) value other := by
  induction value using Tree.inside generalizing key other result result' with
  | scalar value =>
    cases redacted_of_eq_some left with
    | text text =>
      rw [alike_text_iff]
      cases redacted_of_eq_some right with
      | text text' => cases hidesText table key <;> simp
      | other => simp
      | dict => simp
      | sequence there =>
        refine iff_of_false (by simp) ?_
        rintro ⟨text', rfl, -⟩
        cases there
    | other value =>
      rw [alike_other_iff]
      cases redacted_of_eq_some right with
      | text => simp
      | other value' => exact eq_comm
      | dict => simp
      | sequence there =>
        refine iff_of_false (by simp) ?_
        rintro rfl
        cases there
    | sequence sequence => cases sequence
  -- both come out as a list, so a list and a tuple of the same items are alike
  | list items inside => exact redactOne_alike_of_items rfl (fun item mem => inside item mem) left right
  | tuple items inside => exact redactOne_alike_of_items rfl (fun item mem => inside item mem) left right
  | dict entries inside =>
    rw [alike_dict_iff]
    cases redacted_of_eq_some left with
    | sequence sequence => cases sequence
    | @dict _ results mapped =>
      cases redacted_of_eq_some right with
      | text => simp
      | other => simp
      | sequence there =>
        refine iff_of_false (by simp) ?_
        rintro ⟨others, rfl, -⟩
        cases there
      | @dict others results' mapped' =>
        have same : results = results' ↔ List.Forall₂ (fun entry other => entry.1 = other.1 ∧
            Alike table (hidesText table entry.1) entry.2 other.2) entries others := by
          apply results_eq_iff ?_ mapped mapped'
          intro entry mem entry' redacted redacted' first second
          obtain ⟨shown, one, rfl⟩ := Option.map_eq_some_iff.mp first
          obtain ⟨shown', two, rfl⟩ := Option.map_eq_some_iff.mp second
          rw [Prod.mk.injEq]
          apply and_congr_right
          -- only under equal keys are the values redacted by one rule
          intro keys
          rw [← keys] at two
          exact inside entry mem one two
        simpa using same

end Outputs

/-! ## The exact condition -/

/-- The two events differ under matching keys only. -/
def SameOutsideKeys (table : PythonStr.CaseTable) (event other : LogEvent α) : Prop :=
  SameOutside (fun key => keyMatches table key = some true) (.dict event) (.dict other)

/-- Redaction raises. -/
def Raises (event : LogEvent α) : Prop := ∃ entry ∈ event, Unmatchable entry.1 entry.2

/-- The two events differ in masked strings only: strings that stand directly, or through lists and
tuples, under a matching key.  Redaction raises for both or for neither. -/
structure Concealed (table : PythonStr.CaseTable) (event other : LogEvent α) : Prop where
  raises : Raises event ↔ Raises other
  alike : ¬Raises event → Alike table false (.dict event) (.dict other)

/-- The whole event is walked through as if it stood under some key. -/
theorem redactPii_eq_redactOne {table : PythonStr.CaseTable} (key : LogScalar α) (event : LogEvent α) :
    redactPii table event = redactOne table key (.dict event) := (redactOne_eq_walk event).symm

theorem redactPii_eq_none_iff {table : PythonStr.CaseTable} {event : LogEvent α} :
    redactPii table event = none ↔ Raises event := by
  rw [redactPii_eq_redactOne (.text redactedValue), redactOne_eq_none_iff, unmatchable_dict_iff]
  rfl

/-- For two events that are redacted, the outputs tell all but masked strings. -/
theorem redactPii_alike {table : PythonStr.CaseTable} {event other : LogEvent α} {result result' : LogTree α}
    (left : redactPii table event = some result) (right : redactPii table other = some result') :
    result = result' ↔ Alike table false (.dict event) (.dict other) := by
  rw [redactPii_eq_redactOne (.text redactedValue)] at left right
  rw [redactOne_alike left right, alike_dict_iff, alike_dict_iff]

theorem concealed_iff {table : PythonStr.CaseTable} {event other : LogEvent α} :
    redactPii table event = redactPii table other ↔ Concealed table event other := by
  cases left : redactPii table event with
  | none =>
    have raised := redactPii_eq_none_iff.mp left
    rw [eq_comm, redactPii_eq_none_iff]
    constructor
    · intro too
      exact ⟨iff_of_true raised too, fun calm => absurd raised calm⟩
    · intro concealed
      exact concealed.raises.mp raised
  | some result =>
    have calm : ¬Raises event := by
      intro raised
      rw [redactPii_eq_none_iff.mpr raised] at left
      cases left
    cases right : redactPii table other with
    | none =>
      have raised := redactPii_eq_none_iff.mp right
      constructor
      · intro same
        cases same
      · intro concealed
        exact absurd (concealed.raises.mpr raised) calm
    | some result' =>
      have calm' : ¬Raises other := by
        intro raised
        rw [redactPii_eq_none_iff.mpr raised] at right
        cases right
      rw [Option.some.injEq, redactPii_alike left right]
      constructor
      · intro alike
        exact ⟨iff_of_false calm calm', fun _ => alike⟩
      · intro concealed
        exact concealed.alike calm

/-- Two events that differ under matching keys only have equal outputs exactly if what differs there
is masked. -/
theorem redactPii_hides_iff (table : PythonStr.CaseTable) (event other : LogEvent α) :
    (SameOutsideKeys table event other → redactPii table event = redactPii table other) ↔
      (SameOutsideKeys table event other → Concealed table event other) :=
  imp_congr_right fun _ => concealed_iff

/-! ### A token in a dictionary -/

/-- An event whose token is an object. -/
def tokenEvent (value : PythonStr) : LogEvent Int :=
  [(.text "event", .scalar (.text "login")), (.text "token", .dict [(.text "value", .scalar (.text value))])]

def plainCases : PythonStr.CaseTable := fun _ codePoint _ => [codePoint]

theorem tokenEvent_shown (value : PythonStr) :
    redactPii plainCases (tokenEvent value) = some (.dict (tokenEvent value)) := by
  have event : keyMatches (α := Int) plainCases (.text "event") = some false := by decide +kernel
  have inner : keyMatches (α := Int) plainCases (.text "value") = some false := by decide +kernel
  simp [redactPii, tokenEvent, walk, walkEntries, redactOne, event, inner]

/-- The token is written to the log: only strings right under the key are masked. -/
theorem nested_token_shown : ¬∀ (table : PythonStr.CaseTable) (event other : LogEvent Int),
    SameOutsideKeys table event other → redactPii table event = redactPii table other := by
  intro claim
  have same := claim plainCases (tokenEvent "tok-1") (tokenEvent "tok-2") ?_
  · rw [tokenEvent_shown, tokenEvent_shown] at same
    simp only [tokenEvent, Option.some.injEq, Tree.dict.injEq, List.cons.injEq, Prod.mk.injEq,
      Tree.scalar.injEq, LogScalar.text.injEq, true_and, and_true] at same
    revert same
    decide
  · apply SameOutside.dict
    refine .cons (.shown _ (.refl _)) (.cons (.hidden ?_ _ _) .nil)
    decide +kernel

end Eiraos.Logging
