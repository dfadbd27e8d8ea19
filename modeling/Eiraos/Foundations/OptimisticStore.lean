import Mathlib.Logic.Function.Basic
import Eiraos.Foundations.Run

/-! # Optimistic concurrency

Clients load a value, work on a copy and flush it.  A flush succeeds only on a value of the version
that was loaded, so if every flush that writes raises the version, each of them starts from the value
that is stored when it is made: the flushes are serial in the order in which they were made.
-/

namespace OptimisticStore

open Transition

variable {Value Session Edit Commit Client : Type}

/-- What a client does between loading and flushing, and what a flush does to the stored value.  A
`Commit` is what the environment decides about a flush. -/
structure Rules (Value Session Edit Commit : Type) where
  version : Value → Nat
  load : Value → Session
  base : Session → Value
  edit : Session → Edit → Session
  writes : Session → Bool
  flush : Value → Session → Commit → Option Value
  Valid : Value → Prop
  Sound : Session → Prop
  base_load : ∀ value, base (load value) = value
  base_edit : ∀ session change, base (edit session change) = base session
  sound_load : ∀ value, Valid value → Sound (load value)
  sound_edit : ∀ session change, Sound session → Sound (edit session change)
  flush_idle : ∀ stored session commit next, writes session = false →
    flush stored session commit = some next → next = stored
  flush_checks : ∀ stored session commit next, writes session = true →
    flush stored session commit = some next → version stored = version (base session)
  flush_raises : ∀ session commit next, Sound session → writes session = true →
    flush (base session) session commit = some next → Valid next ∧ version (base session) < version next

/-- The stored value, the sessions, and what was committed, the latest at the end. -/
structure State (Value Session Commit Client : Type) where
  stored : Value
  sessions : Client → Option Session
  committed : List (Session × Commit)

inductive Label (Client Edit Commit : Type) where
  | read (client : Client)
  | edit (client : Client) (change : Edit)
  | commit (client : Client) (commit : Commit)

namespace Rules

variable [DecidableEq Client] (rules : Rules Value Session Edit Commit)

def start (value : Value) : State Value Session Commit Client := ⟨value, fun _ => none, []⟩

/-- A session ends with its commit, whether it succeeds or not. -/
def step (state : State Value Session Commit Client) :
    Label Client Edit Commit → Option (State Value Session Commit Client)
  | .read client =>
    some { state with sessions := Function.update state.sessions client (some (rules.load state.stored)) }
  | .edit client change =>
    (state.sessions client).map fun session =>
      { state with sessions := Function.update state.sessions client (some (rules.edit session change)) }
  | .commit client commit =>
    (state.sessions client).map fun session =>
      let sessions := Function.update state.sessions client none
      match rules.flush state.stored session commit with
      | none => { state with sessions }
      | some next =>
        { stored := next
          sessions
          committed := if rules.writes session then state.committed ++ [(session, commit)] else state.committed }

/-- Each of the sessions was loaded from the value that the one before it has left. -/
inductive Serial (start : Value) : List (Session × Commit) → Value → Prop where
  | start : Serial start [] start
  | commit {committed : List (Session × Commit)} {session : Session} {commit : Commit} {next : Value}
      (before : Serial start committed (rules.base session)) (sound : rules.Sound session)
      (writes : rules.writes session = true)
      (flushed : rules.flush (rules.base session) session commit = some next) :
      Serial start (committed ++ [(session, commit)]) next

/-! ## The invariant -/

/-- A session knows the stored value unless its version is an older one. -/
structure Known (stored : Value) (session : Session) : Prop where
  sound : rules.Sound session
  version_le : rules.version (rules.base session) ≤ rules.version stored
  current : rules.version (rules.base session) = rules.version stored → rules.base session = stored

structure Inv (start : Value) (state : State Value Session Commit Client) : Prop where
  valid : rules.Valid state.stored
  serial : rules.Serial start state.committed state.stored
  known : ∀ client session, state.sessions client = some session → rules.Known state.stored session

variable {rules} {start : Value} {state next : State Value Session Commit Client}

omit [DecidableEq Client] in
theorem inv_start (valid : rules.Valid start) :
    rules.Inv start (Rules.start start : State Value Session Commit Client) where
  valid
  serial := .start
  known client session open' := by cases open'

/-- A flush that writes is made on the value that was loaded. -/
theorem Known.flush_current {stored next : Value} {session : Session} {commit : Commit}
    (known : rules.Known stored session) (writes : rules.writes session = true)
    (flushed : rules.flush stored session commit = some next) :
    rules.base session = stored ∧ rules.Valid next ∧ rules.version stored < rules.version next := by
  have current := known.current (rules.flush_checks _ _ _ _ writes flushed).symm
  rw [← current] at flushed ⊢
  exact ⟨rfl, rules.flush_raises _ _ _ known.sound writes flushed⟩

theorem flush_version_le {stored next : Value} {session : Session} {commit : Commit}
    (known : rules.Known stored session) (flushed : rules.flush stored session commit = some next) :
    next = stored ∨ rules.version stored < rules.version next := by
  cases writes : rules.writes session with
  | false => exact .inl (rules.flush_idle _ _ _ _ writes flushed)
  | true => exact .inr (known.flush_current writes flushed).2.2

/-- Of a value with a later version every other session knows an older one. -/
theorem Known.raise {stored next : Value} {session : Session} (known : rules.Known stored session)
    (raised : rules.version stored < rules.version next) : rules.Known next session where
  sound := known.sound
  version_le := Nat.le_of_lt (Nat.lt_of_le_of_lt known.version_le raised)
  current same := absurd same (Nat.ne_of_lt (Nat.lt_of_le_of_lt known.version_le raised))

theorem known_update {sessions : Client → Option Session} {stored : Value} {client : Client}
    {changed : Option Session}
    (known : ∀ client session, sessions client = some session → rules.Known stored session)
    (own : ∀ session, changed = some session → rules.Known stored session) :
    ∀ other session, Function.update sessions client changed other = some session →
      rules.Known stored session := by
  intro other session there
  by_cases same : other = client
  · rw [same, Function.update_self] at there
    exact own session there
  · rw [Function.update_of_ne same] at there
    exact known other session there

theorem inv_step {label : Label Client Edit Commit} (inv : rules.Inv start state)
    (stepped : rules.step state label = some next) : rules.Inv start next := by
  cases label with
  | read client =>
    cases stepped
    refine ⟨inv.valid, inv.serial, known_update inv.known ?_⟩
    rintro session ⟨⟩
    exact ⟨rules.sound_load _ inv.valid, Nat.le_of_eq (congrArg rules.version (rules.base_load _)),
      fun _ => rules.base_load _⟩
  | edit client change =>
    obtain ⟨session, there, rfl⟩ := Option.map_eq_some_iff.mp stepped
    have known := inv.known client session there
    refine ⟨inv.valid, inv.serial, known_update inv.known ?_⟩
    rintro edited ⟨⟩
    constructor
    · exact rules.sound_edit _ _ known.sound
    · rw [rules.base_edit]
      exact known.version_le
    · rw [rules.base_edit]
      exact known.current
  | commit client commit =>
    obtain ⟨session, there, rfl⟩ := Option.map_eq_some_iff.mp stepped
    have known := inv.known client session there
    dsimp only
    cases flushed : rules.flush state.stored session commit with
    | none => exact ⟨inv.valid, inv.serial, known_update inv.known (by simp)⟩
    | some value =>
      cases writes : rules.writes session with
      | false =>
        -- nothing was written, so the stored value is the old one
        obtain rfl := rules.flush_idle _ _ _ _ writes flushed
        simp only [Bool.false_eq_true, if_false]
        exact ⟨inv.valid, inv.serial, known_update inv.known (by simp)⟩
      | true =>
        obtain ⟨current, valid, raised⟩ := known.flush_current writes flushed
        refine ⟨valid, ?_, known_update (fun other session there => (inv.known other session there).raise raised)
          (by simp)⟩
        have before := inv.serial
        rw [← current] at before flushed
        exact .commit before known.sound writes flushed

/-- In every reachable state the committed sessions are serial. -/
theorem inv_run {labels : List (Label Client Edit Commit)} (valid : rules.Valid start)
    (ran : run rules.step (Rules.start start) labels = some state) : rules.Inv start state :=
  run_invariant (rules.Inv start) (fun _ _ _ inv stepped => inv_step inv stepped) (inv_start valid) ran

/-- A step leaves the stored value or raises its version. -/
theorem Inv.step_version {label : Label Client Edit Commit} (inv : rules.Inv start state)
    (stepped : rules.step state label = some next) :
    next.stored = state.stored ∨ rules.version state.stored < rules.version next.stored := by
  cases label with
  | read client =>
    cases stepped
    exact .inl rfl
  | edit client change =>
    obtain ⟨session, there, rfl⟩ := Option.map_eq_some_iff.mp stepped
    exact .inl rfl
  | commit client commit =>
    obtain ⟨session, there, rfl⟩ := Option.map_eq_some_iff.mp stepped
    dsimp only
    cases flushed : rules.flush state.stored session commit with
    | none => exact .inl rfl
    | some value => exact flush_version_le (inv.known client session there) flushed

end Rules

end OptimisticStore
