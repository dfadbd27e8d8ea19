import Mathlib.Data.List.Basic

/-! # Runs of a labelled system

A system is a partial step function: a label carries every choice the environment
makes (the caller, the clock, a fresh token, whether a commit succeeds), and `none`
says that the label is not enabled.  `run` plays a list of labels, so a concrete
run evaluates; `run_invariant` and `run_invariant_throughout` are the two inductions
every safety statement over runs is an instance of.
-/

namespace Transition

variable {State Label : Type*}

/-- Play the labels in order; `none` as soon as one of them is not enabled. -/
def run (step : State → Label → Option State) : State → List Label → Option State
  | state, [] => some state
  | state, label :: labels =>
    match step state label with
    | none => none
    | some next => run step next labels

/-- Every label of the run meets the condition in the state it is played in. -/
def Throughout (step : State → Label → Option State) (meets : State → Label → Prop) :
    State → List Label → Prop
  | _, [] => True
  | state, label :: labels =>
    meets state label ∧
      match step state label with
      | none => True
      | some next => Throughout step meets next labels

instance decidableThroughout (step : State → Label → Option State)
    (meets : State → Label → Prop) [∀ state label, Decidable (meets state label)] :
    ∀ state labels, Decidable (Throughout step meets state labels)
  | _, [] => .isTrue trivial
  | state, label :: labels =>
    have : Decidable (match step state label with
        | none => True
        | some next => Throughout step meets next labels) :=
      match step state label with
      | none => .isTrue trivial
      | some next => decidableThroughout step meets next labels
    inferInstanceAs (Decidable (_ ∧ _))

variable {step : State → Label → Option State} {meets : State → Label → Prop}

@[simp] theorem run_nil (state : State) : run step state [] = some state := rfl

theorem run_cons_eq_some {state final : State} {label : Label} {labels : List Label} :
    run step state (label :: labels) = some final ↔
      ∃ next, step state label = some next ∧ run step next labels = some final := by
  cases stepped : step state label <;> simp [run, stepped]

theorem throughout_of_mem {allowed : Label → Prop} {labels : List Label} {start : State}
    (all : ∀ label ∈ labels, allowed label) :
    Throughout step (fun _ label => allowed label) start labels := by
  induction labels generalizing start with
  | nil => trivial
  | cons label labels inductionHypothesis =>
    refine ⟨all label (by simp), ?_⟩
    cases step start label with
    | none => trivial
    | some next => exact inductionHypothesis fun later mem => all later (by simp [mem])

theorem run_append {labels later : List Label} {start : State} :
    run step start (labels ++ later) = (run step start labels).bind (run step · later) := by
  induction labels generalizing start with
  | nil => rfl
  | cons label labels inductionHypothesis =>
    simp only [List.cons_append, run]
    cases step start label with
    | none => rfl
    | some next => exact inductionHypothesis

/-- Two runs that meet in a state compose. -/
theorem run_trans {labels later : List Label} {start middle final : State}
    (first : run step start labels = some middle) (second : run step middle later = some final) :
    run step start (labels ++ later) = some final := by
  rw [run_append, first]
  exact second

/-- What every enabled step preserves, every run preserves. -/
theorem run_invariant (Inv : State → Prop)
    (preserved : ∀ state label next, Inv state → step state label = some next → Inv next)
    {labels : List Label} {start final : State} (holds : Inv start)
    (ran : run step start labels = some final) : Inv final := by
  induction labels generalizing start with
  | nil => cases ran; exact holds
  | cons label labels inductionHypothesis =>
    obtain ⟨next, stepped, rest⟩ := run_cons_eq_some.mp ran
    exact inductionHypothesis (preserved _ _ _ holds stepped) rest

/-- What every step meeting the condition preserves, every run of such steps preserves. -/
theorem run_invariant_throughout (Inv : State → Prop)
    (preserved : ∀ state label next, Inv state → meets state label →
      step state label = some next → Inv next)
    {labels : List Label} {start final : State} (holds : Inv start)
    (conditioned : Throughout step meets start labels)
    (ran : run step start labels = some final) : Inv final := by
  induction labels generalizing start with
  | nil => cases ran; exact holds
  | cons label labels inductionHypothesis =>
    obtain ⟨next, stepped, rest⟩ := run_cons_eq_some.mp ran
    obtain ⟨met, conditioned⟩ := conditioned
    rw [stepped] at conditioned
    exact inductionHypothesis (preserved _ _ _ holds met stepped) conditioned rest

/-- Along a run that meets the condition, what it and the invariant imply of each step. -/
theorem throughout_of_invariant (Inv : State → Prop) {implies : State → Label → Prop}
    (preserved : ∀ state label next, Inv state → meets state label →
      step state label = some next → Inv next)
    (established : ∀ state label, Inv state → meets state label → implies state label)
    {labels : List Label} {start : State} (holds : Inv start)
    (conditioned : Throughout step meets start labels) : Throughout step implies start labels := by
  induction labels generalizing start with
  | nil => trivial
  | cons label labels inductionHypothesis =>
    obtain ⟨met, conditioned⟩ := conditioned
    refine ⟨established start label holds met, ?_⟩
    cases stepped : step start label with
    | none => trivial
    | some next =>
      rw [stepped] at conditioned
      exact inductionHypothesis (preserved _ _ _ holds met stepped) conditioned

/-- Steps that meet the condition keep the invariant, and one that does not leads to a state
that the allowed steps never mend. -/
theorem throughout_or_doomed {allowed : State → Label → Prop} (Inv Doomed : State → Prop)
    (preserved : ∀ state label next, Inv state → allowed state label → meets state label →
      step state label = some next → Inv next)
    (broken : ∀ state label next, Inv state → allowed state label → ¬meets state label →
      step state label = some next → Doomed next)
    (stuck : ∀ state label next, Doomed state → allowed state label →
      step state label = some next → Doomed next)
    {labels : List Label} {start final : State} (holds : Inv start)
    (conditioned : Throughout step allowed start labels)
    (ran : run step start labels = some final) :
    Throughout step meets start labels ∨ Doomed final := by
  induction labels generalizing start with
  | nil => exact .inl trivial
  | cons label labels inductionHypothesis =>
    obtain ⟨next, stepped, rest⟩ := run_cons_eq_some.mp ran
    obtain ⟨here, conditioned⟩ := conditioned
    rw [stepped] at conditioned
    by_cases met : meets start label
    · rw [Throughout, stepped]
      rcases inductionHypothesis (preserved _ _ _ holds here met stepped) conditioned rest with kept | doomed
      · exact .inl ⟨met, kept⟩
      · exact .inr doomed
    · exact .inr (run_invariant_throughout Doomed stuck (broken _ _ _ holds here met stepped) conditioned rest)

/-- A measure that every counted label uses up bounds how many of them a run plays. -/
theorem countP_add_measure_le (Inv : State → Prop) (measure : State → Nat) (counted : Label → Bool)
    (preserved : ∀ state label next, Inv state → step state label = some next → Inv next)
    (spent : ∀ state label next, Inv state → step state label = some next →
      measure next + (if counted label then 1 else 0) ≤ measure state)
    {labels : List Label} {start final : State} (holds : Inv start)
    (ran : run step start labels = some final) :
    labels.countP counted + measure final ≤ measure start := by
  induction labels generalizing start with
  | nil =>
    cases ran
    simp
  | cons label labels inductionHypothesis =>
    obtain ⟨next, stepped, rest⟩ := run_cons_eq_some.mp ran
    have later := inductionHypothesis (preserved _ _ _ holds stepped) rest
    have here := spent _ _ _ holds stepped
    rw [List.countP_cons]
    omega

/-- `P` holds in every state the run passes through. -/
def Always (step : State → Label → Option State) (P : State → Prop) (start : State)
    (labels : List Label) : Prop :=
  ∀ before, before <+: labels → ∀ reached, run step start before = some reached → P reached

theorem always_cons {P : State → Prop} {start next : State} {label : Label} {labels : List Label}
    (stepped : step start label = some next) :
    Always step P start (label :: labels) ↔ P start ∧ Always step P next labels := by
  constructor
  · intro always
    refine ⟨always [] List.nil_prefix start rfl, fun before later reached ran => ?_⟩
    exact always (label :: before) (List.prefix_cons_inj label |>.mpr later) reached
      (run_cons_eq_some.mpr ⟨next, stepped, ran⟩)
  · rintro ⟨here, always⟩ before later reached ran
    cases before with
    | nil =>
      cases ran
      exact here
    | cons head rest =>
      obtain ⟨rfl, restLater⟩ := List.cons_prefix_cons.mp later
      obtain ⟨other, otherStepped, ran⟩ := run_cons_eq_some.mp ran
      rw [stepped] at otherStepped
      cases otherStepped
      exact always rest restLater reached ran

/-- What holds everywhere along a run holds after each of its steps. -/
theorem Always.throughout {P : State → Prop} {labels : List Label} {start : State}
    (always : Always step P start labels) :
    Throughout step (fun state label => ∀ next, step state label = some next → P next) start labels := by
  induction labels generalizing start with
  | nil => trivial
  | cons label labels inductionHypothesis =>
    cases stepped : step start label with
    | none =>
      refine ⟨fun next other => ?_, ?_⟩
      · rw [stepped] at other
        cases other
      · rw [stepped]
        trivial
    | some next =>
      obtain ⟨-, rest⟩ := (always_cons stepped).mp always
      refine ⟨fun other otherStepped => ?_, ?_⟩
      · rw [stepped] at otherStepped
        cases otherStepped
        exact rest [] List.nil_prefix _ rfl
      · rw [stepped]
        exact inductionHypothesis rest

theorem Throughout.mono {weaker : State → Label → Prop} {labels : List Label} {start : State}
    (conditioned : Throughout step meets start labels)
    (implied : ∀ state label, meets state label → weaker state label) :
    Throughout step weaker start labels :=
  throughout_of_invariant (fun _ => True) (fun _ _ _ _ _ _ => trivial)
    (fun state label _ met => implied state label met) trivial conditioned

theorem Throughout.and {other : State → Label → Prop} {labels : List Label} {start : State}
    (first : Throughout step meets start labels) (second : Throughout step other start labels) :
    Throughout step (fun state label => meets state label ∧ other state label) start labels := by
  induction labels generalizing start with
  | nil => trivial
  | cons label labels inductionHypothesis =>
    refine ⟨⟨first.1, second.1⟩, ?_⟩
    have firstRest := first.2
    have secondRest := second.2
    cases stepped : step start label with
    | none => trivial
    | some next =>
      rw [stepped] at firstRest secondRest
      exact inductionHypothesis firstRest secondRest

/-- An exact condition on a run: steps that meet it keep the invariant, and a step that does
not leads to a state without `P`. -/
theorem throughout_iff_always_of_run (Inv P : State → Prop)
    (preserved : ∀ state label next, Inv state → meets state label →
      step state label = some next → Inv next)
    (safe : ∀ state, Inv state → P state)
    (broken : ∀ state label next, Inv state → ¬meets state label →
      step state label = some next → ¬P next)
    {labels : List Label} {start final : State} (holds : Inv start)
    (ran : run step start labels = some final) :
    Throughout step meets start labels ↔ Always step P start labels := by
  induction labels generalizing start with
  | nil =>
    refine ⟨fun _ before later reached ran => ?_, fun _ => trivial⟩
    rw [List.prefix_nil.mp later] at ran
    cases ran
    exact safe start holds
  | cons label labels inductionHypothesis =>
    obtain ⟨next, stepped, rest⟩ := run_cons_eq_some.mp ran
    rw [always_cons stepped, Throughout, stepped]
    constructor
    · rintro ⟨met, later⟩
      have kept := preserved start label next holds met stepped
      exact ⟨safe start holds, (inductionHypothesis kept rest).mp later⟩
    · rintro ⟨-, always⟩
      have met : meets start label := by
        by_contra unmet
        exact broken start label next holds unmet stepped (always [] List.nil_prefix next rfl)
      have kept := preserved start label next holds met stepped
      exact ⟨met, (inductionHypothesis kept rest).mpr always⟩

/-- Where every label is enabled, every list of labels is a run. -/
theorem exists_run (total : ∀ state label, ∃ next, step state label = some next)
    (labels : List Label) (start : State) : ∃ final, run step start labels = some final := by
  induction labels generalizing start with
  | nil => exact ⟨start, rfl⟩
  | cons label labels inductionHypothesis =>
    obtain ⟨next, stepped⟩ := total start label
    obtain ⟨final, ran⟩ := inductionHypothesis next
    exact ⟨final, run_cons_eq_some.mpr ⟨next, stepped, ran⟩⟩

theorem throughout_iff_always (Inv P : State → Prop)
    (total : ∀ state label, ∃ next, step state label = some next)
    (preserved : ∀ state label next, Inv state → meets state label →
      step state label = some next → Inv next)
    (safe : ∀ state, Inv state → P state)
    (broken : ∀ state label next, Inv state → ¬meets state label →
      step state label = some next → ¬P next)
    {labels : List Label} {start : State} (holds : Inv start) :
    Throughout step meets start labels ↔ Always step P start labels := by
  obtain ⟨final, ran⟩ := exists_run total labels start
  exact throughout_iff_always_of_run Inv P preserved safe broken holds ran

end Transition
