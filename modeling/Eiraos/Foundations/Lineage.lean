import Mathlib.Logic.Relation

/-! # Lineages

Things that name what they were made from: `origin key` is the source of `key`, if it has
one.  A store of such things grows by a key that nothing names yet, and the lineages that
were there before stay as they are.
-/

namespace Lineage

variable {Key : Type*}

/-- `source` is the key itself, or comes before it. -/
def Line (origin : Key → Option Key) : Key → Key → Prop :=
  Relation.ReflTransGen fun key source => origin key = some source

/-- What the key was made from, in one or more steps. -/
def Ancestor (origin : Key → Option Key) : Key → Key → Prop :=
  Relation.TransGen fun key source => origin key = some source

/-- No key of one kind descends from a key of another. -/
def Barred (origin : Key → Option Key) (kept barred : Key → Prop) : Prop :=
  ∀ key, kept key → ∀ ancestor, Ancestor origin key ancestor → ¬barred ancestor

variable {origin later : Key → Option Key} {key ancestor : Key}

theorem ancestor_iff :
    Ancestor origin key ancestor ↔ ∃ source, origin key = some source ∧ Line origin source ancestor :=
  Relation.TransGen.head'_iff

theorem line_iff : Line origin key ancestor ↔ ancestor = key ∨ Ancestor origin key ancestor :=
  Relation.reflTransGen_iff_eq_or_transGen

/-- What every key shares with its source, it shares with all its ancestors. -/
theorem Ancestor.congr {Value : Type*} {column : Key → Value}
    (inherited : ∀ key source, origin key = some source → column key = column source)
    (descends : Ancestor origin key ancestor) : column key = column ancestor := by
  induction descends with
  | single made => exact inherited _ _ made
  | tail _ made inductionHypothesis => exact inductionHypothesis.trans (inherited _ _ made)

/-! ## Growth -/

/-- The lineages after a key was added that nothing names. -/
structure Grown (origin later : Key → Option Key) (fresh : Key) : Prop where
  kept : ∀ key, key ≠ fresh → later key = origin key
  unused : ∀ key, origin key ≠ some fresh
  earlier : later fresh ≠ some fresh

namespace Grown

variable {fresh : Key}

theorem line_iff (grown : Grown origin later fresh) (old : key ≠ fresh) :
    Line later key ancestor ↔ Line origin key ancestor := by
  constructor
  · intro line
    induction line using Relation.ReflTransGen.head_induction_on with
    | refl => exact .refl
    | head made _ inductionHypothesis =>
      rw [grown.kept _ old] at made
      exact .head made (inductionHypothesis fun same => grown.unused _ (same ▸ made))
  · intro line
    induction line using Relation.ReflTransGen.head_induction_on with
    | refl => exact .refl
    | head made _ inductionHypothesis =>
      exact .head ((grown.kept _ old).trans made) (inductionHypothesis fun same => grown.unused _ (same ▸ made))

/-- Nothing old descends from the new key. -/
theorem ne_of_ancestor (grown : Grown origin later fresh) (descends : Ancestor origin key ancestor) :
    ancestor ≠ fresh := by
  obtain ⟨last, _, made⟩ := Relation.TransGen.tail'_iff.mp descends
  exact fun same => grown.unused last (same ▸ made)

theorem ne_of_line (grown : Grown origin later fresh) (old : key ≠ fresh) (line : Line origin key ancestor) :
    ancestor ≠ fresh := by
  rcases Lineage.line_iff.mp line with rfl | descends
  · exact old
  · exact grown.ne_of_ancestor descends

theorem ancestor_old (grown : Grown origin later fresh) (old : key ≠ fresh) :
    Ancestor later key ancestor ↔ Ancestor origin key ancestor := by
  rw [ancestor_iff, ancestor_iff, grown.kept key old]
  refine exists_congr fun source => and_congr_right fun made => grown.line_iff ?_
  exact fun same => grown.unused key (same ▸ made)

theorem ancestor_fresh (grown : Grown origin later fresh) : Ancestor later fresh ancestor ↔
    ∃ source, later fresh = some source ∧ Line origin source ancestor := by
  rw [ancestor_iff]
  refine exists_congr fun source => and_congr_right fun made => grown.line_iff ?_
  exact fun same => grown.earlier (same ▸ made)

/-- The new key is barred from what its source and the ancestors of its source are. -/
theorem barred_iff (grown : Grown origin later fresh) {kept barred keptLater barredLater : Key → Prop}
    (sameKept : ∀ key, key ≠ fresh → (keptLater key ↔ kept key))
    (sameBarred : ∀ key, key ≠ fresh → (barredLater key ↔ barred key)) (absent : ¬kept fresh) :
    Barred later keptLater barredLater ↔ Barred origin kept barred ∧
      (keptLater fresh → ∀ source, later fresh = some source → ∀ ancestor, Line origin source ancestor →
        ¬barred ancestor) := by
  have apart : ∀ source, later fresh = some source → source ≠ fresh :=
    fun source made same => grown.earlier (same ▸ made)
  constructor
  · intro safe
    refine ⟨fun key isKept ancestor descends => ?old, fun isKept source made ancestor line => ?new⟩
    case old =>
      have old : key ≠ fresh := fun same => absent (same ▸ isKept)
      rw [← sameBarred ancestor (grown.ne_of_ancestor descends)]
      exact safe key ((sameKept key old).mpr isKept) ancestor ((grown.ancestor_old old).mpr descends)
    case new =>
      rw [← sameBarred ancestor (grown.ne_of_line (apart source made) line)]
      exact safe fresh isKept ancestor (grown.ancestor_fresh.mpr ⟨source, made, line⟩)
  · rintro ⟨safe, safeFresh⟩ key isKept ancestor descends
    -- a lineage of the new key starts at its source, any other is an old one
    by_cases isFresh : key = fresh
    · rw [isFresh] at isKept descends
      obtain ⟨source, made, line⟩ := grown.ancestor_fresh.mp descends
      rw [sameBarred ancestor (grown.ne_of_line (apart source made) line)]
      exact safeFresh isKept source made ancestor line
    · rw [grown.ancestor_old isFresh] at descends
      rw [sameBarred ancestor (grown.ne_of_ancestor descends)]
      exact safe key ((sameKept key isFresh).mp isKept) ancestor descends

end Grown

end Lineage
