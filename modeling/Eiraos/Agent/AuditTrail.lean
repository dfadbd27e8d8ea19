import Eiraos.Agent.Loop
import Eiraos.Foundations.Json
import Eiraos.Foundations.KeyedTree

/-! # The audit trail of a run (`application/agent_audit.py`)

Payloads are sanitized before they are stored, so a stored event does not depend on what stood
under a sensitive key.
-/

namespace Eiraos.Agent

open KeyedTree PythonJson PythonText

/-! ## Payloads -/

/-- A JSON scalar; it may be a key as well. -/
inductive AuditScalar where
  | none
  | bool (value : Bool)
  | int (value : Int)
  | float (truth : Bool) (repr : String)
  | text (value : PythonStr)
  deriving DecidableEq, Repr

abbrev AuditPayload := Tree AuditScalar AuditScalar

/-- What `_sanitize` returns: its keys are strings and it has no tuples. -/
abbrev SafePayload := Tree PythonStr AuditScalar

/-- `str(key)`, which refuses integers of more than 4300 digits. -/
def AuditScalar.str : AuditScalar → Except PythonError PythonStr
  | .none => .ok "None"
  | .bool value => .ok (if value then "True" else "False")
  | .int value => if value.natAbs < 10 ^ 4300 then .ok (PythonStr.ofText (toString value)) else .error .valueError
  | .float _ repr => .ok repr
  | .text value => .ok value

/-- `bool(payload)`. -/
def AuditPayload.truthy : AuditPayload → Bool
  | .scalar .none => false
  | .scalar (.bool value) => value
  | .scalar (.int value) => value ≠ 0
  | .scalar (.float truth _) => truth
  | .scalar (.text value) => value ≠ ""
  | .list items => !items.isEmpty
  | .tuple items => !items.isEmpty
  | .dict entries => !entries.isEmpty

/-- `entries[key] = value`. -/
def assign {α : Type} (entries : List (PythonStr × α)) (entry : PythonStr × α) : List (PythonStr × α) :=
  if entry.1 ∈ entries.map Prod.fst then
    entries.map fun old => if old.1 = entry.1 then entry else old
  else entries ++ [entry]

/-! ## Sanitizing -/

/-- `_SENSITIVE`. -/
def sensitiveNames : List PythonStr :=
  ["authorization", "authorization_header", "token", "secret", "password", "api_key", "credential",
    "arguments", "result", "observation"]

def sensitiveMarkers : List PythonStr := ["secret", "password", "token", "credential", "api_key"]

/-- The first condition of `_sanitize`. -/
def isSensitive (table : PythonStr.CaseTable) (key : PythonStr) : Bool :=
  key.lower table ∈ sensitiveNames || sensitiveMarkers.any (key.lower table).contains

/-- An entry of the new dictionary. -/
def sanitizeEntry (sanitizeValue : PythonStr → AuditPayload → Except PythonError SafePayload)
    (entry : AuditScalar × AuditPayload) : Except PythonError (PythonStr × SafePayload) := do
  let name ← entry.1.str
  return (name.upTo 128, ← sanitizeValue name entry.2)

/-- `_sanitize(value, key=key, depth=6 - remaining)`. -/
def sanitizeFrom (table : PythonStr.CaseTable) (remaining : Nat) (key : PythonStr) (value : AuditPayload) :
    Except PythonError SafePayload :=
  -- before the depth is looked at
  if isSensitive table key then .ok (.scalar (.text "[REDACTED]"))
  else
    match remaining with
    | 0 => .ok (.scalar (.text "[TRUNCATED]"))
    | remaining + 1 =>
      match value with
      | .dict entries => do
        let safe ← (entries.take 100).mapM (sanitizeEntry (sanitizeFrom table remaining))
        -- keys that agree after the cut are one key, and the last value stays
        return .dict (safe.foldl assign [])
      | .list items => do return .list (← (items.take 100).mapM (sanitizeFrom table remaining ""))
      | .tuple items => do return .list (← (items.take 100).mapM (sanitizeFrom table remaining ""))
      | .scalar (.text text) => .ok (.scalar (.text (text.upTo 256)))
      | .scalar scalar => .ok (.scalar scalar)

/-- `_sanitize(value)`. -/
def sanitize (table : PythonStr.CaseTable) (value : AuditPayload) : Except PythonError SafePayload :=
  sanitizeFrom table 6 "" value

/-! ## Events -/

def AgentEventType.value : AgentEventType → String
  | .runStarted => "run.started"
  | .plannerDecision => "planner.decision"
  | .authorizationDecision => "authorization.decision"
  | .budgetDecision => "budget.decision"
  | .toolSelected => "tool.selected"
  | .toolExecutionStarted => "tool.execution.started"
  | .toolExecutionCompleted => "tool.execution.completed"
  | .toolExecutionFailed => "tool.execution.failed"
  | .observationReceived => "observation.received"
  | .runTerminated => "run.terminated"

/-- A row of `agent_audit_events`. -/
structure AgentAuditEvent where
  eventId : String
  runId : String
  sequence : Nat
  organizationId : Int
  userId : Int
  actorContext : PythonStr
  eventType : String
  schemaVersion : String
  outcome : Option PythonStr
  reasonCode : Option PythonStr
  payloadJson : String
  deriving DecidableEq, Repr

inductive AuditError where
  /-- `AgentAuditUnavailable`. -/
  | unavailable (text : String)
  | python (error : PythonError)
  deriving DecidableEq, Repr

/-- `AgentAuditTrail`. -/
structure AgentAuditTrail where
  runId : String
  organizationId : Int
  userId : Int
  actorContext : PythonStr
  sequence : Nat
  deriving DecidableEq, Repr

/-- What is outside the program: the letter cases, `json.dumps` with sorted keys, and whether the
database takes another row. -/
structure AuditRuntime where
  cases : PythonStr.CaseTable
  dumps : SafePayload → Except PythonError String
  commits : List AgentAuditEvent → AgentAuditEvent → Bool

/-- A character of `_MACHINE_VALUE`. -/
def isMachineCharacter (codePoint : Nat) : Bool :=
  (Char.ofNat codePoint).isAlphanum || (PythonStr.ofText "_.:-").codePoints.contains codePoint

/-- `_machine_value`. -/
def machineValue (value : PythonStr) (fallback : String) : PythonStr :=
  if 1 ≤ value.length ∧ value.length ≤ 128 ∧ value.codePoints.all isMachineCharacter then value
  else .ofText (fallback ++ ":invalid")

/-- `_machine_value(value, fallback=fallback) if value else None`. -/
def machineValue? (value : Option PythonStr) (fallback : String) : Option PythonStr :=
  (value.filter (· ≠ PythonStr.ofText "")).map (machineValue · fallback)

/-- The arguments of `record`, and the id that it draws. -/
structure AuditCall where
  eventId : String
  eventType : AgentEventType
  outcome : Option PythonStr
  reasonCode : Option PythonStr
  payload : AuditPayload

/-- The constructor of `AgentAuditTrail`; its error is a `ValueError`. -/
def AgentAuditTrail.create (runId : String) (organizationId userId : Int) (actorContext : PythonStr) :
    Except String AgentAuditTrail :=
  if runId = "" ∨ 64 < runId.length ∨ organizationId ≤ 0 ∨ userId ≤ 0 ∨ actorContext = "" then
    .error "agent audit identity must be explicit"
  else .ok ⟨runId, organizationId, userId, machineValue actorContext "actor", 0⟩

namespace AuditRuntime

variable (runtime : AuditRuntime)

/-- The text that is stored for a payload. -/
def encode (payload : AuditPayload) : Except AuditError String := do
  let safe ← (sanitize runtime.cases (if payload.truthy then payload else .dict [])).mapError .python
  let encoded ← (runtime.dumps safe).mapError .python
  if 8192 < encoded.length then .error (.unavailable "agent audit payload exceeds limit")
  else return encoded

/-- `record`, on the events that are stored. -/
def record (trail : AgentAuditTrail) (stored : List AgentAuditEvent) (call : AuditCall) :
    Except AuditError (AgentAuditTrail × List AgentAuditEvent) := do
  let encoded ← runtime.encode call.payload
  let event : AgentAuditEvent := {
    eventId := call.eventId
    runId := trail.runId
    sequence := trail.sequence + 1
    organizationId := trail.organizationId
    userId := trail.userId
    actorContext := trail.actorContext
    eventType := call.eventType.value
    schemaVersion := "f6-07-v1"
    outcome := machineValue? call.outcome "outcome"
    reasonCode := machineValue? call.reasonCode "reason"
    payloadJson := encoded }
  if runtime.commits stored event then return ({ trail with sequence := trail.sequence + 1 }, stored ++ [event])
  else .error (.unavailable "agent audit event could not be persisted")

end AuditRuntime

/-! ## Sensitive values are not seen -/

/-- A key under which the sanitizer hides the value. -/
def HidesValue (table : PythonStr.CaseTable) (key : AuditScalar) : Prop :=
  ∃ name, key.str = .ok name ∧ isSensitive table name = true

theorem sanitizeFrom_of_sensitive {table : PythonStr.CaseTable} {remaining : Nat} {key : PythonStr}
    (sensitive : isSensitive table key = true) (value : AuditPayload) :
    sanitizeFrom table remaining key value = .ok (.scalar (.text "[REDACTED]")) := by
  unfold sanitizeFrom
  rw [if_pos sensitive]

/-- An entry is sanitized without a look at a value under a sensitive key. -/
theorem sanitizeEntry_same {table : PythonStr.CaseTable} {remaining : Nat} {entry other : AuditScalar × AuditPayload}
    (inside : ∀ {name : PythonStr} {value other : AuditPayload}, SameOutside (HidesValue table) value other →
      sanitizeFrom table remaining name value = sanitizeFrom table remaining name other)
    (same : SameEntry (HidesValue table) entry other) :
    sanitizeEntry (sanitizeFrom table remaining) entry = sanitizeEntry (sanitizeFrom table remaining) other := by
  unfold sanitizeEntry
  cases same with
  | hidden hides value other =>
    obtain ⟨name, named, sensitive⟩ := hides
    simp only [named, bind, Except.bind, sanitizeFrom_of_sensitive sensitive]
  | shown key sameValue => simp only [inside sameValue]

/-- At every depth and under every key, nothing under a sensitive key is seen. -/
theorem sanitizeFrom_same {table : PythonStr.CaseTable} {remaining : Nat} {key : PythonStr} {value other : AuditPayload}
    (same : SameOutside (HidesValue table) value other) :
    sanitizeFrom table remaining key value = sanitizeFrom table remaining key other := by
  induction remaining generalizing key value other with
  | zero =>
    unfold sanitizeFrom
    rfl
  | succ remaining inductionHypothesis =>
    -- the key of an element is empty, so what it depends on is its own tree
    have items {items others : List AuditPayload}
        (same : List.Forall₂ (SameOutside (HidesValue table)) items others) :
        (items.take 100).mapM (sanitizeFrom table remaining "") =
          (others.take 100).mapM (sanitizeFrom table remaining "") := by
      apply mapM_eq_of_forall₂
      exact (List.forall₂_take 100 same).imp fun _ _ => inductionHypothesis
    unfold sanitizeFrom
    cases same with
    | scalar => rfl
    | list same => simp only [items same]
    | tuple same => simp only [items same]
    | dict same =>
      -- The keys agree one by one, so the cut to 100 entries and the collisions of cut keys agree as well.
      have entries := mapM_eq_of_forall₂
        ((List.forall₂_take 100 same).imp fun _ _ => sanitizeEntry_same inductionHypothesis)
      simp only [entries]

/-- The top level is a payload as well; `payload or {}` tells two such payloads apart no more. -/
theorem truthy_same {table : PythonStr.CaseTable} {payload other : AuditPayload}
    (same : SameOutside (HidesValue table) payload other) :
    AuditPayload.truthy payload = AuditPayload.truthy other := by
  cases same with
  | scalar => rfl
  | list same => cases same <;> rfl
  | tuple same => cases same <;> rfl
  | dict same => cases same <;> rfl

theorem encode_same {runtime : AuditRuntime} {payload other : AuditPayload}
    (same : SameOutside (HidesValue runtime.cases) payload other) :
    runtime.encode payload = runtime.encode other := by
  unfold AuditRuntime.encode sanitize
  rw [truthy_same same]
  split
  · rw [sanitizeFrom_same same]
  · rfl

/-- The payload of an event is seen through its text only. -/
theorem record_of_encode {runtime : AuditRuntime} {trail : AgentAuditTrail} {stored : List AgentAuditEvent}
    {call : AuditCall} {other : AuditPayload} (same : runtime.encode call.payload = runtime.encode other) :
    runtime.record trail stored call = runtime.record trail stored { call with payload := other } := by
  unfold AuditRuntime.record
  rw [same]

/-- Two payloads that differ under sensitive keys only are recorded alike: the same event is stored
for both, or both are refused. -/
theorem record_same_outside (runtime : AuditRuntime) (trail : AgentAuditTrail) (stored : List AgentAuditEvent)
    (call : AuditCall) (other : AuditPayload)
    (same : SameOutside (HidesValue runtime.cases) call.payload other) :
    runtime.record trail stored call = runtime.record trail stored { call with payload := other } :=
  record_of_encode (encode_same same)

/-! ### A payload with two sensitive keys -/

def toolPayload (arguments password : AuditPayload) : AuditPayload :=
  .dict [
    (.text "tool", .scalar (.text "safe")),
    (.text "arguments", arguments),
    (.text "nested", .dict [
      (.text "password", password),
      (.text "value", .scalar (.text "visible"))])]

def toolCall : AuditCall where
  eventId := "0f6"
  eventType := .toolSelected
  outcome := none
  reasonCode := none
  payload := toolPayload (.dict [(.text "token", .scalar (.text "abc"))]) (.scalar (.text "secret"))

def toolTrail : AgentAuditTrail := ⟨"run-redact", 1, 1, "user:1", 0⟩

/-- `json.dumps` on what is left of the payload. -/
def toolRuntime : AuditRuntime where
  cases _ codePoint _ := [codePoint]
  dumps _ := .ok "\x7b\"arguments\":\"[REDACTED]\",\"nested\":\x7b\"password\":\"[REDACTED]\",\"value\":\"visible\"\x7d,\"tool\":\"safe\"\x7d"
  commits _ _ := true

theorem record_same_outside_tool :
    toolRuntime.record toolTrail [] toolCall = toolRuntime.record toolTrail []
      { toolCall with payload := toolPayload (.list [.scalar (.int 7)]) (.scalar .none) } := by
  apply record_same_outside
  apply SameOutside.dict
  refine .cons (.shown _ (.refl _)) (.cons (.hidden ?_ _ _) (.cons (.shown _ (.dict ?_)) .nil))
  · exact ⟨"arguments", rfl, by decide +kernel⟩
  · refine .cons (.hidden ?_ _ _) (.cons (.shown _ (.refl _)) .nil)
    exact ⟨"password", rfl, by decide +kernel⟩

/-! ## Runs -/

/-- A refused call leaves the trail and the events as they are. -/
def AuditRuntime.recordAll (runtime : AuditRuntime) (state : AgentAuditTrail × List AgentAuditEvent)
    (calls : List AuditCall) : AgentAuditTrail × List AgentAuditEvent :=
  calls.foldl (fun state call =>
    match runtime.record state.1 state.2 call with
    | .ok next => next
    | .error _ => state) state

/-- Two calls that differ under sensitive keys of their payloads only. -/
def SameCall (table : PythonStr.CaseTable) (call other : AuditCall) : Prop :=
  ∃ payload, SameOutside (HidesValue table) call.payload payload ∧ other = { call with payload }

/-- The events of a whole run do not depend on what stood under sensitive keys. -/
theorem recordAll_same {runtime : AuditRuntime} {state : AgentAuditTrail × List AgentAuditEvent}
    {calls others : List AuditCall} (same : List.Forall₂ (SameCall runtime.cases) calls others) :
    runtime.recordAll state calls = runtime.recordAll state others := by
  unfold AuditRuntime.recordAll
  induction same generalizing state with
  | nil => rfl
  | cons head rest inductionHypothesis =>
    obtain ⟨payload, alike, rfl⟩ := head
    rw [List.foldl_cons, List.foldl_cons, record_of_encode (encode_same alike)]
    exact inductionHypothesis

end Eiraos.Agent
