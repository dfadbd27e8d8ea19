import Eiraos.Core.Idempotency
import Eiraos.Foundations.Guarded
import Eiraos.Foundations.PythonText
import Eiraos.Foundations.Rows

/-! # The conversation aggregate (`domains/conversations/state.py`)

The constructor normalizes the title and checks the rest, so an aggregate carries what it
checked.  A transition is a new aggregate with the next version.  Below it, the row of
`conversations` and the two mappings of `application/conversation_state.py`.
-/

namespace Eiraos.Conversations

open Guarded PythonText

inductive ConversationLifecycle where
  | active
  | archived
  deriving DecidableEq, Repr

inductive ConversationStateError where
  | invalidTitle
  | invalidIdentity
  | invalidScope
  | invalidVersion
  | activeConversationHasArchiveTime
  | archivedConversationMissingArchiveTime
  | scopeMismatch
  | conversationArchived
  deriving DecidableEq, Repr

def ConversationStateError.reason : ConversationStateError → String
  | .invalidTitle => "invalid_title"
  | .invalidIdentity => "invalid_identity"
  | .invalidScope => "invalid_scope"
  | .invalidVersion => "invalid_version"
  | .activeConversationHasArchiveTime => "active_conversation_has_archive_time"
  | .archivedConversationMissingArchiveTime => "archived_conversation_missing_archive_time"
  | .scopeMismatch => "scope_mismatch"
  | .conversationArchived => "conversation_archived"

/-! ## The aggregate -/

/-- The arguments of the constructor; identities are natural numbers, zero being the one that
is refused. -/
structure ConversationFields where
  id : Option Nat
  organizationId : Nat
  ownerUserId : Nat
  title : String
  lifecycle : ConversationLifecycle
  version : Nat
  createdAt : Instant
  updatedAt : Instant
  archivedAt : Option Instant
  deriving DecidableEq, Repr

/-- `_title`. -/
def normalizedTitle (value : String) : Except ConversationStateError String := do
  let normalized := strip value
  ensure (normalized ≠ "" ∧ normalized.length ≤ 255) .invalidTitle
  return normalized

namespace ConversationFields

/-- What the constructor has checked. -/
structure Valid (fields : ConversationFields) : Prop where
  identity : fields.id ≠ some 0
  scope : fields.organizationId ≠ 0 ∧ fields.ownerUserId ≠ 0
  version : fields.version ≠ 0
  title : normalizedTitle fields.title = .ok fields.title
  archiveTime : fields.lifecycle = .archived ↔ fields.archivedAt.isSome

/-- `__post_init__`. -/
def postInit (fields : ConversationFields) : Except ConversationStateError ConversationFields := do
  ensure (fields.id ≠ some 0) .invalidIdentity
  ensure (fields.organizationId ≠ 0 ∧ fields.ownerUserId ≠ 0) .invalidScope
  ensure (fields.version ≠ 0) .invalidVersion
  let title ← normalizedTitle fields.title
  ensure (¬(fields.lifecycle = .active ∧ fields.archivedAt.isSome)) .activeConversationHasArchiveTime
  ensure (¬(fields.lifecycle = .archived ∧ fields.archivedAt.isNone))
    .archivedConversationMissingArchiveTime
  return { fields with title }

theorem normalizedTitle_eq_ok {value title : String} :
    normalizedTitle value = .ok title ↔ title = strip value ∧ title ≠ "" ∧ title.length ≤ 255 := by
  simp only [normalizedTitle, bind_eq_ok, ensure_eq_ok, pure_eq_ok]
  constructor
  · rintro ⟨-, bounds, rfl⟩
    exact ⟨rfl, bounds⟩
  · rintro ⟨rfl, bounds⟩
    exact ⟨(), bounds, rfl⟩

/-- A title that was normalized stays as it is. -/
theorem normalizedTitle_idem {value title : String} (ok : normalizedTitle value = .ok title) :
    normalizedTitle title = .ok title := by
  obtain ⟨rfl, bounds⟩ := normalizedTitle_eq_ok.mp ok
  exact normalizedTitle_eq_ok.mpr ⟨(strip_strip value).symm, bounds⟩

theorem postInit_eq_ok {fields normal : ConversationFields} :
    fields.postInit = .ok normal ↔
      normal.Valid ∧ normalizedTitle fields.title = .ok normal.title ∧
        normal = { fields with title := normal.title } := by
  simp only [postInit, bind_eq_ok, ensure_eq_ok, pure_eq_ok]
  constructor
  · rintro ⟨-, identity, -, scope, -, version, title, titled, -, active, -, archived, rfl⟩
    refine ⟨⟨identity, scope, version, normalizedTitle_idem titled, ?_⟩, titled, rfl⟩
    cases lifecycle : fields.lifecycle <;> cases archivedAt : fields.archivedAt <;>
      simp_all
  · rintro ⟨valid, titled, same⟩
    rw [same] at valid
    refine ⟨(), valid.identity, (), valid.scope, (), valid.version, normal.title, titled, (), ?_, (), ?_,
      same.symm⟩
    · rintro ⟨active, timed⟩
      exact absurd (valid.archiveTime.mpr timed) (by simp [active])
    · rintro ⟨archived, untimed⟩
      exact absurd (valid.archiveTime.mp archived) (by simpa using untimed)

end ConversationFields

/-- A conversation that passed its constructor. -/
structure ConversationAggregate extends ConversationFields where
  valid : toConversationFields.Valid
  deriving DecidableEq

namespace ConversationAggregate

/-- The constructor. -/
def init (fields : ConversationFields) : Except ConversationStateError ConversationAggregate :=
  match checked : fields.postInit with
  | .error error => .error error
  | .ok normal => .ok ⟨normal, (ConversationFields.postInit_eq_ok.mp checked).1⟩

theorem init_eq_ok {fields : ConversationFields} {aggregate : ConversationAggregate} :
    init fields = .ok aggregate ↔ fields.postInit = .ok aggregate.toConversationFields := by
  unfold init
  split
  next error failed => simp [failed]
  next normal checked =>
    constructor
    · rintro ⟨⟩
      exact checked
    · intro other
      cases checked.symm.trans other
      rfl

/-- Checked fields are taken as they are. -/
theorem init_of_valid {fields : ConversationFields} (valid : fields.Valid) :
    init fields = .ok ⟨fields, valid⟩ :=
  init_eq_ok.mpr (ConversationFields.postInit_eq_ok.mpr ⟨valid, valid.title, rfl⟩)

def create (organizationId ownerUserId : Nat) (title : String) (now : Instant) :
    Except ConversationStateError ConversationAggregate :=
  init ⟨none, organizationId, ownerUserId, title, .active, 1, now, now, none⟩

def assertScope (aggregate : ConversationAggregate) (organizationId userId : Nat) :
    Except ConversationStateError Unit :=
  ensure (organizationId = aggregate.organizationId ∧ userId = aggregate.ownerUserId) .scopeMismatch

def assertAcceptsExecution (aggregate : ConversationAggregate) : Except ConversationStateError Unit :=
  ensure (aggregate.lifecycle = .active) .conversationArchived

@[simp] theorem assertAcceptsExecution_eq_ok {aggregate : ConversationAggregate} {done : Unit} :
    aggregate.assertAcceptsExecution = .ok done ↔ aggregate.lifecycle = .active :=
  ensure_eq_ok

/-- `_transition`: the changed fields under the next version. -/
def transition (aggregate : ConversationAggregate) (changed : ConversationFields) :
    Except ConversationStateError ConversationAggregate :=
  init { changed with version := aggregate.version + 1 }

def rename (aggregate : ConversationAggregate) (title : String) (now : Instant) :
    Except ConversationStateError ConversationAggregate := do
  aggregate.assertAcceptsExecution
  let title ← normalizedTitle title
  aggregate.transition { aggregate.toConversationFields with title, updatedAt := now }

def archive (aggregate : ConversationAggregate) (now : Instant) :
    Except ConversationStateError ConversationAggregate :=
  if aggregate.lifecycle = .archived then .ok aggregate
  else
    aggregate.transition { aggregate.toConversationFields with
      lifecycle := .archived
      archivedAt := some now
      updatedAt := now }

def reopen (aggregate : ConversationAggregate) (now : Instant) :
    Except ConversationStateError ConversationAggregate :=
  if aggregate.lifecycle = .active then .ok aggregate
  else
    aggregate.transition { aggregate.toConversationFields with
      lifecycle := .active
      archivedAt := none
      updatedAt := now }

end ConversationAggregate

/-- A method of the aggregate with its arguments. -/
inductive ConversationTransition where
  | rename (title : String) (now : Instant)
  | archive (now : Instant)
  | reopen (now : Instant)
  deriving DecidableEq, Repr

def ConversationTransition.apply (aggregate : ConversationAggregate) :
    ConversationTransition → Except ConversationStateError ConversationAggregate
  | .rename title now => aggregate.rename title now
  | .archive now => aggregate.archive now
  | .reopen now => aggregate.reopen now

/-! ## The row (`application/conversation_state.py`) -/

structure ConversationRow where
  id : Nat
  userId : Nat
  organizationId : Nat
  title : String
  lifecycle : ConversationLifecycle
  version : Nat
  archivedAt : Option Instant
  createdAt : Instant
  updatedAt : Instant
  deriving DecidableEq, Repr

namespace ConversationRow

/-- The columns as arguments of the constructor. -/
def fields (row : ConversationRow) : ConversationFields :=
  ⟨some row.id, row.organizationId, row.userId, row.title, row.lifecycle, row.version, row.createdAt,
    row.updatedAt, row.archivedAt⟩

def hydrate (row : ConversationRow) : Except ConversationStateError ConversationAggregate :=
  ConversationAggregate.init row.fields

theorem hydrate_eq_ok {row : ConversationRow} {aggregate : ConversationAggregate} :
    row.hydrate = .ok aggregate ↔
      normalizedTitle row.title = .ok aggregate.title ∧
        aggregate.toConversationFields = { row.fields with title := aggregate.title } := by
  unfold hydrate
  rw [ConversationAggregate.init_eq_ok, ConversationFields.postInit_eq_ok]
  constructor
  · rintro ⟨-, titled, same⟩
    exact ⟨titled, same⟩
  · rintro ⟨titled, same⟩
    exact ⟨aggregate.valid, titled, same⟩

/-- `apply_conversation`. -/
def apply (row : ConversationRow) (aggregate : ConversationAggregate) : Except String ConversationRow := do
  ensure (some row.id = aggregate.id) "conversation identity mismatch"
  ensure (row.organizationId = aggregate.organizationId ∧ row.userId = aggregate.ownerUserId)
    "conversation scope mismatch"
  return { row with
    title := aggregate.title
    lifecycle := aggregate.lifecycle
    version := aggregate.version
    updatedAt := aggregate.updatedAt
    archivedAt := aggregate.archivedAt }

/-- The `SET` of an `UPDATE`: the columns that differ from the row that was read. -/
def set (stored read written : ConversationRow) : ConversationRow :=
  { stored with
    title := if written.title = read.title then stored.title else written.title
    lifecycle := if written.lifecycle = read.lifecycle then stored.lifecycle else written.lifecycle
    version := if written.version = read.version then stored.version else written.version
    updatedAt := if written.updatedAt = read.updatedAt then stored.updatedAt else written.updatedAt
    archivedAt := if written.archivedAt = read.archivedAt then stored.archivedAt else written.archivedAt }

end ConversationRow

/-- The flush of a changed row under `version_id_col`: no statement without a change, and
`none` is the `StaleDataError` of one that matches no row. -/
def updateConversation (rows : List ConversationRow) (read written : ConversationRow) :
    Option (List ConversationRow) :=
  if written = read then some rows
  else if rows.any fun row => row.id = read.id ∧ row.version = read.version then
    some (rows.map fun row =>
      if row.id = read.id ∧ row.version = read.version then row.set read written else row)
  else none

end Eiraos.Conversations
