import Eiraos.Conversations.State
import Eiraos.Foundations.OptimisticStore

/-! # Conversations under concurrent changes (`application/conversation_state.py`)

Clients read the row of a conversation, change the aggregate and write it back.  The version is the
aggregate's own: no transition goes without the next version, so an `UPDATE` that matches the version
that was read matches the row that was read.
-/

namespace Eiraos.Conversations

open Guarded OptimisticStore PythonText

/-! ## Transitions -/

namespace ConversationAggregate

/-- What transitions make of an aggregate: nothing, or a later version of the same conversation. -/
structure Follows (aggregate next : ConversationAggregate) : Prop where
  id : next.id = aggregate.id
  organizationId : next.organizationId = aggregate.organizationId
  ownerUserId : next.ownerUserId = aggregate.ownerUserId
  createdAt : next.createdAt = aggregate.createdAt
  version : next = aggregate ∨ aggregate.version < next.version

theorem Follows.refl (aggregate : ConversationAggregate) : Follows aggregate aggregate :=
  ⟨rfl, rfl, rfl, rfl, .inl rfl⟩

theorem Follows.trans {aggregate middle next : ConversationAggregate} (first : Follows aggregate middle)
    (second : Follows middle next) : Follows aggregate next where
  id := second.id.trans first.id
  organizationId := second.organizationId.trans first.organizationId
  ownerUserId := second.ownerUserId.trans first.ownerUserId
  createdAt := second.createdAt.trans first.createdAt
  version := by
    obtain rfl | later := second.version
    · exact first.version
    · obtain rfl | earlier := first.version
      · exact .inr later
      · exact .inr (earlier.trans later)

/-- `_transition` changes the version whatever else it changes. -/
theorem transition_follows {aggregate next : ConversationAggregate} {changed : ConversationFields}
    (done : aggregate.transition changed = .ok next) (id : changed.id = aggregate.id)
    (organizationId : changed.organizationId = aggregate.organizationId)
    (ownerUserId : changed.ownerUserId = aggregate.ownerUserId)
    (createdAt : changed.createdAt = aggregate.createdAt) : Follows aggregate next := by
  obtain ⟨-, -, same⟩ := ConversationFields.postInit_eq_ok.mp (init_eq_ok.mp done)
  constructor
  · rw [same]
    exact id
  · rw [same]
    exact organizationId
  · rw [same]
    exact ownerUserId
  · rw [same]
    exact createdAt
  · right
    rw [same]
    exact Nat.lt_succ_self _

end ConversationAggregate

open ConversationAggregate

theorem apply_follows {aggregate next : ConversationAggregate} {transition : ConversationTransition}
    (done : transition.apply aggregate = .ok next) : Follows aggregate next := by
  cases transition with
  | rename title now =>
    simp only [ConversationTransition.apply, ConversationAggregate.rename, bind_eq_ok] at done
    obtain ⟨-, -, title, -, moved⟩ := done
    exact transition_follows moved rfl rfl rfl rfl
  | archive now =>
    simp only [ConversationTransition.apply, ConversationAggregate.archive] at done
    split at done
    · cases done
      exact .refl aggregate
    · exact transition_follows done rfl rfl rfl rfl
  | reopen now =>
    simp only [ConversationTransition.apply, ConversationAggregate.reopen] at done
    split at done
    · cases done
      exact .refl aggregate
    · exact transition_follows done rfl rfl rfl rfl

/-- The same for any sequence of them. -/
theorem foldlM_follows {aggregate next : ConversationAggregate} {transitions : List ConversationTransition}
    (done : transitions.foldlM ConversationTransition.apply aggregate = .ok next) :
    Follows aggregate next := by
  induction transitions generalizing aggregate with
  | nil =>
    cases done
    exact .refl _
  | cons transition transitions inductionHypothesis =>
    rw [List.foldlM_cons, bind_eq_ok] at done
    obtain ⟨middle, first, rest⟩ := done
    exact (apply_follows first).trans (inductionHypothesis rest)

theorem archive_archived {aggregate : ConversationAggregate} (archived : aggregate.lifecycle = .archived)
    (now : Instant) : aggregate.archive now = .ok aggregate := if_pos archived

theorem reopen_active {aggregate : ConversationAggregate} (active : aggregate.lifecycle = .active)
    (now : Instant) : aggregate.reopen now = .ok aggregate := if_pos active

/-! ## Rows -/

/-- `new_conversation`, with the id that the database assigns. -/
def newConversation (aggregate : ConversationAggregate) (rowId : Nat) : Except String ConversationRow := do
  ensure (aggregate.id = none) "new conversation aggregate already has an identity"
  return {
    id := rowId
    userId := aggregate.ownerUserId
    organizationId := aggregate.organizationId
    title := aggregate.title
    lifecycle := aggregate.lifecycle
    version := aggregate.version
    archivedAt := aggregate.archivedAt
    createdAt := aggregate.createdAt
    updatedAt := aggregate.updatedAt }

namespace ConversationRow

/-- The row after the aggregate was hydrated, changed and written back; `none` when one of the three
raises. -/
def edited (row : ConversationRow) (transitions : List ConversationTransition) : Option ConversationRow := do
  let aggregate ← row.hydrate.toOption
  let changed ← (transitions.foldlM ConversationTransition.apply aggregate).toOption
  (row.apply changed).toOption

/-- An `UPDATE` of the stored row; a column `updated_at` that is not set gets the time of the
statement. -/
def update (stored read written : ConversationRow) (now : Instant) : ConversationRow :=
  { stored.set read written with
    updatedAt := if written.updatedAt = read.updatedAt then now else written.updatedAt }

variable {row written : ConversationRow} {aggregate : ConversationAggregate}

theorem hydrate_of_valid (valid : row.fields.Valid) : row.hydrate = .ok ⟨row.fields, valid⟩ :=
  init_of_valid valid

/-- A row that was written from an aggregate of its conversation holds the aggregate. -/
theorem fields_of_apply (applied : row.apply aggregate = .ok written)
    (createdAt : aggregate.createdAt = row.createdAt) :
    written.fields = aggregate.toConversationFields ∧ written.id = row.id := by
  simp only [apply, bind_eq_ok, ensure_eq_ok, pure_eq_ok] at applied
  obtain ⟨-, id, -, scope, rfl⟩ := applied
  refine ⟨?_, rfl⟩
  rw [fields, ConversationFields.mk.injEq]
  exact ⟨id, scope.1, scope.2, rfl, rfl, rfl, createdAt.symm, rfl, rfl⟩

theorem fields_injective {other : ConversationRow} (same : row.fields = other.fields) : row = other := by
  cases row
  cases other
  simp only [fields, ConversationFields.mk.injEq, Option.some.injEq] at same
  obtain ⟨rfl, rfl, rfl, rfl, rfl, rfl, rfl, rfl, rfl⟩ := same
  rfl

/-- What an edit of a valid row has done. -/
structure Edited (row : ConversationRow) (valid : row.fields.Valid)
    (transitions : List ConversationTransition) (changed : ConversationAggregate)
    (written : ConversationRow) : Prop where
  performed : transitions.foldlM ConversationTransition.apply ⟨row.fields, valid⟩ = .ok changed
  applied : row.apply changed = .ok written
  fields : written.fields = changed.toConversationFields
  id : written.id = row.id
  version : written = row ∨ row.version < written.version

/-- The part of an edit after the hydration. -/
theorem edited_of_apply (valid : row.fields.Valid) {transitions : List ConversationTransition}
    {changed : ConversationAggregate}
    (done : transitions.foldlM ConversationTransition.apply ⟨row.fields, valid⟩ = .ok changed)
    (applied : row.apply changed = .ok written) : row.Edited valid transitions changed written := by
  have follows := foldlM_follows done
  obtain ⟨fields, id⟩ := fields_of_apply applied follows.createdAt
  refine ⟨done, applied, fields, id, ?_⟩
  obtain same | later := follows.version
  · -- No transition did anything, so the row is written back as it was.
    left
    apply fields_injective
    rw [fields, same]
  · right
    have version : written.version = changed.version := congrArg ConversationFields.version fields
    rw [version]
    exact later

theorem edited_eq_some (valid : row.fields.Valid) {transitions : List ConversationTransition} :
    row.edited transitions = some written ↔ ∃ changed, row.Edited valid transitions changed written := by
  have hydrated : row.edited transitions =
      (transitions.foldlM ConversationTransition.apply ⟨row.fields, valid⟩).toOption.bind
        fun changed => (row.apply changed).toOption := by
    unfold edited
    rw [hydrate_of_valid valid]
    rfl
  rw [hydrated, Option.bind_eq_some_iff]
  apply exists_congr
  intro changed
  rw [toOption_eq_some, toOption_eq_some]
  constructor
  · rintro ⟨performed, applied⟩
    exact edited_of_apply valid performed applied
  · intro edit
    exact ⟨edit.performed, edit.applied⟩

/-- An edited row is valid and holds the changed aggregate. -/
theorem Edited.valid {valid : row.fields.Valid} {transitions : List ConversationTransition}
    {changed : ConversationAggregate} (edit : row.Edited valid transitions changed written) :
    written.fields.Valid := by
  rw [edit.fields]
  exact changed.valid

theorem Edited.hydrate {valid : row.fields.Valid} {transitions : List ConversationTransition}
    {changed : ConversationAggregate} (edit : row.Edited valid transitions changed written) :
    written.hydrate = .ok changed := by
  rw [hydrate_of_valid edit.valid]
  congr 1
  cases changed
  simp only [ConversationAggregate.mk.injEq]
  exact edit.fields

theorem edited_nil (valid : row.fields.Valid) : row.edited [] = some row := by
  have applied : row.apply ⟨row.fields, valid⟩ = .ok row := by
    simp only [apply, bind_eq_ok, ensure_eq_ok, pure_eq_ok]
    exact ⟨(), rfl, (), ⟨rfl, rfl⟩, rfl⟩
  exact (edited_eq_some valid).mpr ⟨_, edited_of_apply valid rfl applied⟩

/-- One edit after the other is the edit with all transitions. -/
theorem edited_append (valid : row.fields.Valid) {first second : List ConversationTransition}
    {middle : ConversationRow} (before : row.edited first = some middle)
    (after : middle.edited second = some written) : row.edited (first ++ second) = some written := by
  obtain ⟨changed, edit⟩ := (edited_eq_some valid).mp before
  obtain ⟨changed', edit'⟩ := (edited_eq_some edit.valid).mp after
  have performed : (first ++ second).foldlM ConversationTransition.apply ⟨row.fields, valid⟩ = .ok changed' := by
    -- the second edit hydrates just what the first one has written
    have here : (⟨middle.fields, edit.valid⟩ : ConversationAggregate) = changed :=
      Except.ok.inj ((hydrate_of_valid edit.valid).symm.trans edit.hydrate)
    rw [List.foldlM_append, bind_eq_ok]
    exact ⟨changed, edit.performed, here ▸ edit'.performed⟩
  have applied : row.apply changed' = .ok written := by
    have own := edit.applied
    have later := edit'.applied
    simp only [apply, bind_eq_ok, ensure_eq_ok, pure_eq_ok] at own later ⊢
    obtain ⟨-, id, -, scope, rfl⟩ := own
    obtain ⟨-, id', -, scope', rfl⟩ := later
    exact ⟨(), id', (), scope', rfl⟩
  exact (edited_eq_some valid).mpr ⟨changed', edited_of_apply valid performed applied⟩

/-- On the row that was read, an `UPDATE` stores what was written. -/
theorem update_of_apply (applied : row.apply aggregate = .ok written) (now : Instant) :
    row.update row written now =
      { written with updatedAt := if written.updatedAt = row.updatedAt then now else written.updatedAt } := by
  simp only [apply, bind_eq_ok, ensure_eq_ok, pure_eq_ok] at applied
  obtain ⟨-, -, -, -, rfl⟩ := applied
  simp +contextual [update, set]

end ConversationRow

/-! ## Sessions -/

/-- The row as it was loaded and as it was changed since, with the transitions that did so. -/
structure ConversationSession where
  read : ConversationRow
  row : ConversationRow
  performed : List ConversationTransition
  deriving DecidableEq, Repr

def ConversationSession.load (row : ConversationRow) : ConversationSession := ⟨row, row, []⟩

/-- Hydrating, a sequence of transitions and writing back; nothing is written when one of them raises. -/
def ConversationSession.edit (session : ConversationSession) (transitions : List ConversationTransition) :
    ConversationSession :=
  match session.row.edited transitions with
  -- `hydrate_conversation`, a transition or `apply_conversation` has raised
  | none => session
  | some row => ⟨session.read, row, session.performed ++ transitions⟩

/-- The time of a commit, and whether the database refuses it for a reason of its own. -/
structure ConversationFlush where
  now : Instant
  refused : Bool
  deriving DecidableEq, Repr

/-- The commit of a session under `version_id_col`; `none` when it fails. -/
def flushConversation (stored : ConversationRow) (session : ConversationSession) (flush : ConversationFlush) :
    Option ConversationRow :=
  if flush.refused then none
  -- without a changed column there is no `UPDATE`, so its condition is not looked at
  else if session.row = session.read then some stored
  else if stored.version = session.read.version then
    some (stored.update session.read session.row flush.now)
  else none

/-- What a session carries: a valid row, and the changes that its transitions make. -/
structure ConversationSession.Sound (session : ConversationSession) : Prop where
  valid : session.read.fields.Valid
  edited : session.read.edited session.performed = some session.row

namespace ConversationSession

variable {session : ConversationSession} {stored next : ConversationRow} {flush : ConversationFlush}

theorem sound_load {row : ConversationRow} (valid : row.fields.Valid) : (load row).Sound :=
  ⟨valid, ConversationRow.edited_nil valid⟩

theorem edit_read (transitions : List ConversationTransition) :
    (session.edit transitions).read = session.read := by
  unfold edit
  split <;> rfl

theorem Sound.edit (sound : session.Sound) (transitions : List ConversationTransition) :
    (session.edit transitions).Sound := by
  unfold ConversationSession.edit
  split
  next => exact sound
  next row edited => exact ⟨sound.valid, ConversationRow.edited_append sound.valid sound.edited edited⟩

/-- The row of a session is valid, and its version tells whether it was changed. -/
theorem Sound.row (sound : session.Sound) : session.row.fields.Valid ∧
    (session.row = session.read ∨ session.read.version < session.row.version) := by
  obtain ⟨changed, edit⟩ := (ConversationRow.edited_eq_some sound.valid).mp sound.edited
  exact ⟨edit.valid, edit.version⟩

theorem flush_idle (idle : session.row = session.read)
    (flushed : flushConversation stored session flush = some next) : next = stored := by
  unfold flushConversation at flushed
  rw [if_pos idle] at flushed
  split at flushed
  · cases flushed
  · exact (Option.some.inj flushed).symm

theorem flush_writes (writes : session.row ≠ session.read)
    (flushed : flushConversation stored session flush = some next) :
    stored.version = session.read.version ∧ next = stored.update session.read session.row flush.now := by
  unfold flushConversation at flushed
  rw [if_neg writes] at flushed
  split at flushed
  · cases flushed
  · split at flushed
    next same => exact ⟨same, (Option.some.inj flushed).symm⟩
    next => cases flushed

/-- What is stored differs from the row of the session in the time of the change at most. -/
theorem Sound.update (sound : session.Sound) (now : Instant) :
    session.read.update session.read session.row now = { session.row with
      updatedAt := if session.row.updatedAt = session.read.updatedAt then now else session.row.updatedAt } := by
  obtain ⟨changed, edit⟩ := (ConversationRow.edited_eq_some sound.valid).mp sound.edited
  exact ConversationRow.update_of_apply edit.applied now

theorem Sound.flush_raises (sound : session.Sound) (writes : session.row ≠ session.read)
    (flushed : flushConversation session.read session flush = some next) :
    next.fields.Valid ∧ session.read.version < next.version := by
  obtain ⟨-, rfl⟩ := flush_writes writes flushed
  rw [sound.update]
  obtain ⟨valid, same | later⟩ := sound.row
  · exact absurd same writes
  · exact ⟨⟨valid.identity, valid.scope, valid.version, valid.title, valid.archiveTime⟩, later⟩

end ConversationSession

/-- Conversations follow the rules of optimistic concurrency. -/
def conversationRules :
    Rules ConversationRow ConversationSession (List ConversationTransition) ConversationFlush where
  version := ConversationRow.version
  load := ConversationSession.load
  base := ConversationSession.read
  edit := ConversationSession.edit
  writes session := session.row ≠ session.read
  flush := flushConversation
  Valid row := row.fields.Valid
  Sound := ConversationSession.Sound
  base_load _ := rfl
  base_edit _ := ConversationSession.edit_read
  sound_load _ := ConversationSession.sound_load
  sound_edit _ change sound := sound.edit change
  flush_idle _ _ _ _ idle flushed := ConversationSession.flush_idle (by simpa using idle) flushed
  flush_checks _ _ _ _ writes flushed := (ConversationSession.flush_writes (by simpa using writes) flushed).1
  flush_raises _ _ _ sound writes flushed := sound.flush_raises (by simpa using writes) flushed

/-! ## What holds across any interleaving -/

abbrev ConversationState := State ConversationRow ConversationSession ConversationFlush Nat

abbrev ConversationLabel := Label Nat (List ConversationTransition) ConversationFlush

/-- One committed session on the row that is stored: its transitions, and the statement. -/
def replayCommit (stored : ConversationRow) (commit : ConversationSession × ConversationFlush) :
    Option ConversationRow :=
  (stored.edited commit.1.performed).map fun written => stored.update stored written commit.2.now

/-- The promises of the aggregate to clients that change one conversation at the same time. -/
structure OptimisticContract (created : ConversationRow) (state : ConversationState) : Prop where
  /-- The stored row is what the committed transitions make of the created one, one commit after the
  other. -/
  replayed : state.committed.foldlM replayCommit created = some state.stored
  /-- A commit that writes was computed from the row that is stored. -/
  current : ∀ client session, state.sessions client = some session → session.row ≠ session.read →
    ∀ flush next, flushConversation state.stored session flush = some next → session.read = state.stored
  version : ∀ label next, conversationRules.step state label = some next →
    next.stored = state.stored ∨ state.stored.version < next.stored.version
  lifecycle : state.stored.lifecycle = .archived ↔ state.stored.archivedAt.isSome
  sessionLifecycle : ∀ client session, state.sessions client = some session →
    (session.row.lifecycle = .archived ↔ session.row.archivedAt.isSome)
  written : ∀ client session, state.sessions client = some session →
    ∀ (aggregate changed : ConversationAggregate) (transitions : List ConversationTransition)
      (row : ConversationRow), session.row.hydrate = .ok aggregate →
      transitions.foldlM ConversationTransition.apply aggregate = .ok changed →
      session.row.apply changed = .ok row → row.hydrate = .ok changed
  archive : ∀ client session, state.sessions client = some session → session.row.lifecycle = .archived →
    ∀ now, session.row.edited [.archive now] = some session.row
  reopen : ∀ client session, state.sessions client = some session → session.row.lifecycle = .active →
    ∀ now, session.row.edited [.reopen now] = some session.row

theorem newConversation_valid {aggregate : ConversationAggregate} {rowId : Nat} {row : ConversationRow}
    (created : newConversation aggregate rowId = .ok row) (assigned : rowId ≠ 0) : row.fields.Valid := by
  simp only [newConversation, bind_eq_ok, ensure_eq_ok, pure_eq_ok] at created
  obtain ⟨-, -, rfl⟩ := created
  have valid := aggregate.valid
  refine ⟨?_, valid.scope, valid.version, valid.title, valid.archiveTime⟩
  simpa [ConversationRow.fields] using assigned

/-- A serial history is replayed by the transitions alone. -/
theorem replay_of_serial {created stored : ConversationRow}
    {committed : List (ConversationSession × ConversationFlush)}
    (serial : conversationRules.Serial created committed stored) :
    committed.foldlM replayCommit created = some stored := by
  induction serial with
  | start => rfl
  | @commit committed session flush next before sound writes flushed inductionHypothesis =>
    obtain ⟨-, rfl⟩ := ConversationSession.flush_writes (of_decide_eq_true writes) flushed
    -- the row that was read is the one that is stored at this point of the history
    have edited : session.read.edited session.performed = some session.row := sound.edited
    rw [List.foldlM_append, inductionHypothesis]
    simp [replayCommit, conversationRules, edited]

/-- A transition that changes nothing leaves the row. -/
theorem edited_of_unchanged {row : ConversationRow} (valid : row.fields.Valid)
    {transition : ConversationTransition}
    (unchanged : transition.apply ⟨row.fields, valid⟩ = .ok ⟨row.fields, valid⟩) :
    row.edited [transition] = some row := by
  obtain ⟨same, nothing⟩ := (ConversationRow.edited_eq_some valid).mp (ConversationRow.edited_nil valid)
  cases nothing.performed
  apply (ConversationRow.edited_eq_some valid).mpr
  refine ⟨_, ConversationRow.edited_of_apply valid ?_ nothing.applied⟩
  simp [unchanged]

/-- Any number of clients may read, change and commit a conversation in any order. -/
theorem conversation_optimistic {aggregate : ConversationAggregate} {rowId : Nat} {created : ConversationRow}
    {labels : List ConversationLabel} {state : ConversationState}
    (inserted : newConversation aggregate rowId = .ok created) (assigned : rowId ≠ 0)
    (ran : Transition.run conversationRules.step (Rules.start created) labels = some state) :
    OptimisticContract created state := by
  have inv : conversationRules.Inv created state := Rules.inv_run (newConversation_valid inserted assigned) ran
  have rowValid : ∀ client session, state.sessions client = some session → session.row.fields.Valid :=
    fun client session there => (inv.known client session there).sound.row.1
  constructor
  case replayed => exact replay_of_serial inv.serial
  case current =>
    intro client session there writes flush next flushed
    exact ((inv.known client session there).flush_current (decide_eq_true writes) flushed).1
  case version => exact fun label next stepped => inv.step_version stepped
  case lifecycle => exact inv.valid.archiveTime
  case sessionLifecycle => exact fun client session there => (rowValid client session there).archiveTime
  case written =>
    intro client session there aggregate changed transitions row hydrated performed applied
    have valid := rowValid client session there
    rw [ConversationRow.hydrate_of_valid valid] at hydrated
    cases hydrated
    exact (ConversationRow.edited_of_apply valid performed applied).hydrate
  case archive =>
    intro client session there archived now
    exact edited_of_unchanged (rowValid client session there) (archive_archived archived now)
  case reopen =>
    intro client session there active now
    exact edited_of_unchanged (rowValid client session there) (reopen_active active now)

/-! ### Two clients -/

def harborAggregate : ConversationAggregate where
  id := none
  organizationId := 1
  ownerUserId := 1
  title := "Harbor"
  lifecycle := .active
  version := 1
  createdAt := 0
  updatedAt := 0
  archivedAt := none
  valid := by
    constructor
    case title => rfl
    all_goals decide

def harborRow : ConversationRow := ⟨3, 1, 1, "Harbor", .active, 1, none, 0, 0⟩

theorem harbor_inserted : newConversation harborAggregate 3 = .ok harborRow := rfl

/-- The second client has read a row that the first one changes, and starts again. -/
def harborLabels : List ConversationLabel :=
  [.read 0, .read 1, .edit 0 [.rename " Tides " 5], .edit 1 [.archive 6], .commit 0 ⟨7, false⟩,
    .commit 1 ⟨8, false⟩, .read 1, .edit 1 [.archive 9, .archive 10], .commit 1 ⟨11, false⟩]

def harborRun : Option ConversationState :=
  Transition.run conversationRules.step (Rules.start harborRow) harborLabels

theorem harborRun_isSome : harborRun.isSome = true := by decide +kernel

theorem harbor_optimistic : OptimisticContract harborRow (harborRun.get harborRun_isSome) :=
  conversation_optimistic harbor_inserted (by decide) (Option.some_get harborRun_isSome).symm

end Eiraos.Conversations
