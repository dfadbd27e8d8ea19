import Eiraos.Chat.Completion
import Eiraos.Usage.Charges
import Eiraos.Usage.ExecutionBudget

/-! # Charged and recorded tokens

One execution over all its attempts: each request reserves under the execution's id, and
what the provider reports is settled on the reservation, while `finalize` records the
entries of the attempt on the ledger.  Between two scripts of the execution the others
change Redis at will; the execution's own keys stay as its last script left them.
-/

namespace Eiraos

open Expiring

/-- How one call of Redis ends, and the keys and the clock it finds. -/
structure RedisCall where
  backend : Backend
  redis : Redis
  now : Nat

/-- How a request with a reservation goes on: it fails before its exchange is persisted,
with or without reaching the release; it fails before the first call of the provider; or it
calls the provider. -/
inductive AttemptOutcome where
  | unpersisted (cleanup : Option RedisCall)
  | unprepared
  | prepared (completion : CompletionRun) (settling : RedisCall) (row : ChatExecution)

structure ChatAttempt where
  userLimit : Int
  organizationLimit : Int
  reserving : RedisCall
  outcome : AttemptOutcome

structure MeteredExecution where
  executionId : String
  userId : Nat
  organizationId : Nat
  payload : ChatPayload
  deriving DecidableEq, Repr

/-- `contribution` is what the scripts of the execution have added to each counter. -/
structure MeteringState where
  redis : Redis
  now : Nat
  contribution : CounterKey → Int
  ledger : List ProviderUsageRecord

namespace MeteringState

def found (state : MeteringState) (call : RedisCall) : MeteringState :=
  { state with redis := call.redis, now := call.now }

def wrote (state : MeteringState) (after : Redis) : MeteringState :=
  { state with
    redis := after
    contribution := fun counter =>
      state.contribution counter + (after.count state.now counter - state.redis.count state.now counter) }

end MeteringState

/-- The tokens of the rows with operation `primary` or `verification`. -/
def meteredTokens (ledger : List ProviderUsageRecord) : Int :=
  ((ledger.filter fun row => row.operation = .primary ∨ row.operation = .verification).map
    ProviderUsageRecord.totalTokens).sum

namespace MeteredExecution

variable (table : PythonText.CaseTable) (execution : MeteredExecution)

def tenant : Tenant := ⟨execution.organizationId, execution.userId⟩

def markerKey : MarkerKey := ⟨execution.organizationId, execution.executionId⟩

def reservedTokens : Nat :=
  (ExecutionBudget.default.estimator.estimate execution.payload.prompt
    execution.payload.verify).totalTokens

def identity : Identity := ⟨execution.tenant, execution.reservedTokens⟩

def budgetRequest (attempt : ChatAttempt) : BudgetRequest :=
  ⟨execution.executionId, execution.userId, execution.organizationId, execution.payload.prompt,
    execution.payload.verify, attempt.userLimit, attempt.organizationLimit⟩

/-- The call of the budget at the beginning of an attempt. -/
def reserve (state : MeteringState) (attempt : ChatAttempt) :
    MeteringState × Except BudgetError ExecutionReservation :=
  let asking := state.found attempt.reserving
  let ending := ExecutionBudget.default.reserve attempt.reserving.backend asking.redis asking.now
    (execution.budgetRequest attempt)
  (asking.wrote ending.1, ending.2)

/-- From the first call of the provider on: a reported usage is settled before anything
else happens to the answer. -/
def complete (state : MeteringState) (budget : ExecutionReservation) (completion : CompletionRun)
    (settling : RedisCall) (row : ChatExecution) : MeteringState :=
  match completion.reportedUsage? table execution.payload with
  | none =>
    { state with
      ledger := state.ledger ++
        (completion.recordedEntries table execution.payload false).map row.usageRow }
  | some usage =>
    let reporting := state.found settling
    let ending := ExecutionBudget.settle settling.backend reporting.redis reporting.now budget
      usage.totalTokens
    let settled := reporting.wrote ending.1
    { settled with
      ledger := settled.ledger ++
        (completion.recordedEntries table execution.payload ending.2.isOk).map row.usageRow }

/-- What a request with a reservation does. -/
def proceed (state : MeteringState) (budget : ExecutionReservation) : AttemptOutcome → MeteringState
  | .unpersisted none => state
  | .unpersisted (some cleanup) =>
    let failing := state.found cleanup
    failing.wrote (releaseTenant cleanup.backend failing.redis failing.now budget.tenant).1
  | .unprepared => state
  | .prepared completion settling row => execution.complete table state budget completion settling row

/-- One request of the execution. -/
def attempt (state : MeteringState) (attempt : ChatAttempt) : MeteringState :=
  match execution.reserve state attempt with
  | (reserved, .error _) => reserved
  | (reserved, .ok budget) => execution.proceed table reserved budget attempt.outcome

/-- The keys of the execution are found as its last script left them. -/
def Keeps (state : MeteringState) (call : RedisCall) : Prop :=
  find call.redis.markers call.now execution.markerKey =
      find state.redis.markers state.now execution.markerKey ∧
    find call.redis.markers call.now execution.markerKey.settlementKey =
      find state.redis.markers state.now execution.markerKey.settlementKey

/-- The keys are kept up to the script the outcome runs. -/
def OutcomeKeeps (state : MeteringState) : AttemptOutcome → Prop
  | .unpersisted (some cleanup) => execution.Keeps state cleanup
  | .prepared _ settling _ => execution.Keeps state settling
  | _ => True

/-- No key of the execution expires during the attempt. -/
def KeysKept (state : MeteringState) (attempt : ChatAttempt) : Prop :=
  execution.Keeps state attempt.reserving ∧
    execution.OutcomeKeeps (execution.reserve state attempt).1 attempt.outcome

/-! ## What the inputs of the attempts decide -/

/-- The request gets past the budget: its script answers and no limit is below the estimate. -/
def admits (attempt : ChatAttempt) : Bool :=
  attempt.reserving.backend = .answering ∧ (execution.reservedTokens : Int) ≤ attempt.userLimit ∧
    (execution.reservedTokens : Int) ≤ attempt.organizationLimit

/-- The total of a reported usage whose settlement reaches Redis. -/
def settlement? : AttemptOutcome → Option Nat
  | .prepared completion settling _ =>
    if settling.backend = .unreachable then none
    else (completion.reports? table execution.payload).map ProviderUsage.totalTokens
  | _ => none

def settles? (attempt : ChatAttempt) : Option Nat :=
  if execution.admits attempt then execution.settlement? table attempt.outcome else none

/-- A settlement returns where its script answers and no other amount was settled before. -/
def settlementReturns (settled : Option Nat) (settling : RedisCall) : Option ProviderUsage → Bool
  | none => false
  | some usage => settling.backend = .answering ∧ (settled = none ∨ settled = some usage.totalTokens)

/-- The tokens that the attempt leaves on the ledger when `settled` was settled before. -/
def tokens? (settled : Option Nat) (attempt : ChatAttempt) : Option AttemptTokens :=
  if execution.admits attempt then
    match attempt.outcome with
    | .prepared completion settling _ =>
      completion.storedTokens? table execution.payload
        (settlementReturns settled settling (completion.reports? table execution.payload))
    | _ => none
  else none

variable {table execution} in
theorem tokens?_of_prepared {settled : Option Nat} {attempt : ChatAttempt} {completion : CompletionRun}
    {settling : RedisCall} {row : ChatExecution} (admitted : execution.admits attempt = true)
    (prepared : attempt.outcome = .prepared completion settling row) :
    execution.tokens? table settled attempt = completion.storedTokens? table execution.payload
      (settlementReturns settled settling (completion.reports? table execution.payload)) := by
  rw [tokens?, if_pos admitted, prepared]

def tokens (settled : Option Nat) (attempt : ChatAttempt) : Nat :=
  (execution.tokens? table settled attempt).elim 0 AttemptTokens.total

def allTokens (settled : Option Nat) (attempts : List ChatAttempt) : Nat :=
  (attempts.map (execution.tokens table settled)).sum

/-- While no usage is settled, the exchanges of all attempts together fit the estimate of the
prompt.  Once one is, its attempt stores no verification and no other attempt stores tokens;
where the attempt that reported it stored nothing, the others stay within it. -/
def Metered (stored : Nat) : List ChatAttempt → Prop
  | [] => stored ≤ execution.reservedTokens
  | attempt :: later =>
    match execution.settles? table attempt with
    | none => Metered (stored + execution.tokens table none attempt) later
    | some total =>
      let others := stored + execution.allTokens table (some total) later
      match execution.tokens? table none attempt with
      | none => others ≤ total
      | some own => others = 0 ∧ own.verification = 0

/-! ## What the attempts record -/

/-- The entries recorded when `settled` is what was settled before. -/
def outcomeEntries (settled : Option Nat) : AttemptOutcome → List ExecutionCost
  | .prepared completion settling _ =>
    completion.recordedEntries table execution.payload
      (settlementReturns settled settling (completion.reportedUsage? table execution.payload))
  | _ => []

def entries (settled : Option Nat) (attempt : ChatAttempt) : List ExecutionCost :=
  if execution.admits attempt then execution.outcomeEntries table settled attempt.outcome else []

variable {table execution} in
/-- The entries hold the tokens that the inputs say. -/
theorem totalTokens_entries {settled : Option Nat} {attempt : ChatAttempt} :
    totalTokens (execution.entries table settled attempt) = execution.tokens table settled attempt := by
  simp only [entries, tokens, tokens?]
  split
  next =>
    cases attempt.outcome with
    | prepared completion settling row =>
      simp only [outcomeEntries, CompletionRun.reportedUsage?_eq, CompletionRun.totalTokens_recordedEntries]
    | unprepared => rfl
    | unpersisted cleanup => rfl
  next => rfl

end MeteredExecution

/-! ## One script at a time -/

/-- The keys of the execution hold its reservation, and it has contributed what they say:
the settled amount where there is one, the reserved amount otherwise. -/
structure Standing (execution : MeteredExecution) (state : MeteringState) (settled : Option Nat) :
    Prop where
  held : ∃ deadline, find state.redis.markers state.now execution.markerKey =
    some ⟨.identity execution.identity, some deadline⟩
  settlement :
    get state.redis.markers state.now execution.markerKey.settlementKey = settled.map .settled
  contributed : ∀ counter, state.contribution counter =
    if execution.tenant.uses counter then ((settled.getD execution.reservedTokens : Nat) : Int) else 0

variable {table : PythonText.CaseTable} {execution : MeteredExecution} {state : MeteringState}
  {settled : Option Nat} {call : RedisCall} {attempt : ChatAttempt}

theorem MeteredExecution.reservedTokens_pos (execution : MeteredExecution) :
    0 < execution.reservedTokens := by
  simp only [reservedTokens, CostEstimate.totalTokens, CostEstimator.estimate, ExecutionBudget.default,
    CostEstimator.default]
  omega

theorem MeteringState.wrote_same (state : MeteringState) : state.wrote state.redis = state := by
  simp [wrote]

theorem Standing.get_marker (standing : Standing execution state settled) :
    get state.redis.markers state.now execution.markerKey = some (.identity execution.identity) := by
  obtain ⟨deadline, held⟩ := standing.held
  exact get_eq_some.mpr ⟨_, held, rfl⟩

theorem Standing.lasting (standing : Standing execution state settled) :
    0 < remaining state.redis.markers state.now execution.markerKey := by
  obtain ⟨deadline, held⟩ := standing.held
  have ahead : state.now < deadline := lt_of_deadline (deadline_eq_some.mpr ⟨_, held, rfl⟩)
  simp only [remaining, held]
  omega

theorem Standing.found (standing : Standing execution state settled) (keeps : execution.Keeps state call) :
    Standing execution (state.found call) settled := by
  obtain ⟨deadline, held⟩ := standing.held
  refine ⟨⟨deadline, keeps.1.trans held⟩, ?_, standing.contributed⟩
  rw [← standing.settlement]
  show Expiring.get call.redis.markers call.now _ = _
  simp only [Expiring.get, keeps.2]

/-- The ledger has no part in what stands. -/
theorem Standing.recorded (standing : Standing execution state settled) (ledger : List ProviderUsageRecord) :
    Standing execution { state with ledger := ledger } settled :=
  ⟨standing.held, standing.settlement, standing.contributed⟩

/-- A request of an execution whose reservation stands gets a replay or nothing. -/
theorem Standing.reserve (standing : Standing execution state settled) (named : execution.executionId ≠ "")
    (keeps : execution.Keeps state attempt.reserving) :
    (execution.reserve state attempt).1 = state.found attempt.reserving ∧
      if execution.admits attempt then
        (execution.reserve state attempt).2 =
          .ok (ExecutionBudget.default.reservation (execution.budgetRequest attempt) true)
      else ∃ error, (execution.reserve state attempt).2 = .error error := by
  have replay := @ExecutionBudget.reserve_held ExecutionBudget.default attempt.reserving.backend _ _
    (execution.budgetRequest attempt) named execution.reservedTokens_pos (by decide)
    (standing.found keeps).get_marker
  refine ⟨?_, ?_⟩
  · simp only [MeteredExecution.reserve, replay.1]
    exact MeteringState.wrote_same _
  · have answered := replay.2
    by_cases admitted : execution.admits attempt = true
    · rw [if_pos admitted]
      exact (if_pos (decide_eq_true_iff.mp admitted)).mp answered
    · rw [if_neg admitted]
      exact (if_neg fun admits => admitted (decide_eq_true_iff.mpr admits)).mp answered

/-- A new reservation of an execution that has contributed nothing. -/
theorem Standing.grant {ttlSeconds : Nat} (lasting : 0 < ttlSeconds)
    (fresh : ∀ counter, state.contribution counter = 0)
    (unsettled : get state.redis.markers state.now execution.markerKey.settlementKey = none) :
    Standing execution
      (state.wrote (state.redis.granted state.now execution.markerKey execution.identity ttlSeconds))
      none := by
  refine ⟨⟨state.now + ttlSeconds * 1000, ?_⟩, ?_, fun counter => ?_⟩
  · refine find_put_self ?_
    show decide (state.now < state.now + ttlSeconds * 1000) = true
    simpa using lasting
  · exact (Redis.get_granted_of_ne execution.markerKey.settlementKey_ne).trans unsettled
  · simp only [MeteringState.wrote, Redis.count_granted lasting, fresh, Option.getD_none]
    -- The tenant and the amount of the identity are the execution's.
    show 0 + (_ + (if execution.tenant.uses counter then (execution.reservedTokens : Int) else 0) - _) = _
    omega

/-- The settlement of a reservation that is not settled yet. -/
theorem Standing.reconcile (standing : Standing execution state none) (actualTokens : Nat) :
    Standing execution
      (state.wrote (state.redis.reconciled state.now execution.markerKey execution.identity actualTokens))
      (some actualTokens) := by
  obtain ⟨deadline, held⟩ := standing.held
  refine ⟨⟨deadline, ?_⟩, ?_, fun counter => ?_⟩
  · rw [← held]
    exact find_put_of_ne execution.markerKey.settlementKey_ne.symm
  · exact Redis.get_reconciled_self standing.lasting
  · have before := standing.contributed counter
    simp only [MeteringState.wrote, Redis.count_reconciled, before, Option.getD_none, Option.getD_some]
    -- The tenant of the identity is the execution's.
    show _ + (_ + (if execution.tenant.uses counter then _ else _) - _) = _
    split
    · simp only [MeteredExecution.identity]
      omega
    · omega

theorem meteredTokens_append (ledger : List ProviderUsageRecord) (row : ChatExecution)
    (entries : List ExecutionCost) :
    meteredTokens (ledger ++ entries.map row.usageRow) = meteredTokens ledger + totalTokens entries := by
  have counted : (entries.map row.usageRow).filter
      (fun row => row.operation = .primary ∨ row.operation = .verification) = entries.map row.usageRow := by
    refine List.filter_eq_self.mpr fun recorded member => ?_
    obtain ⟨entry, _, rfl⟩ := List.mem_map.mp member
    have supported := entry.supported
    show decide (entry.operation = .primary ∨ entry.operation = .verification) = true
    cases operation : entry.operation <;> simp_all
  have tokens : (entries.map row.usageRow).map ProviderUsageRecord.totalTokens =
      entries.map ExecutionCost.totalTokens := by
    rw [List.map_map]
    rfl
  simp only [meteredTokens, List.filter_append, List.map_append, List.sum_append, counted, tokens, totalTokens]

/-- From the first call of the provider on: the first settlement that reaches Redis stands,
and the ledger grows by the entries of the attempt. -/
theorem Standing.complete (standing : Standing execution state settled) {budget : ExecutionReservation}
    {completion : CompletionRun} {settling : RedisCall} {row : ChatExecution}
    (sameKey : budget.tenant.markerKey = execution.markerKey)
    (sameIdentity : budget.tenant.identity = execution.identity)
    (keeps : execution.Keeps state settling) :
    Standing execution (execution.complete table state budget completion settling row)
        (settled.or (execution.settlement? table (.prepared completion settling row))) ∧
      meteredTokens (execution.complete table state budget completion settling row).ledger =
        meteredTokens state.ledger +
          totalTokens (execution.outcomeEntries table settled (.prepared completion settling row)) := by
  have found := standing.found keeps
  simp only [MeteredExecution.complete, MeteredExecution.settlement?, MeteredExecution.outcomeEntries,
    CompletionRun.reportedUsage?_eq]
  cases completion.reports? table execution.payload with
  | none =>
    refine ⟨?_, meteredTokens_append _ _ _⟩
    have none : settled.or (if settling.backend = .unreachable then Option.none
        else Option.map ProviderUsage.totalTokens Option.none) = settled := by
      split <;> simp
    rw [none]
    exact standing.recorded _
  | some usage =>
    dsimp only
    simp only [MeteredExecution.settlementReturns, ExecutionBudget.settle]
    cases settled with
    | some amount =>
      -- What was settled before stands, whatever is reported now.
      have held := found.get_marker
      have settlement := found.settlement
      rw [← sameKey] at held settlement
      rw [← sameIdentity] at held
      obtain ⟨unwritten, returned⟩ :=
        @settleTenant_settled settling.backend _ _ _ usage.totalTokens _ held settlement
      rw [unwritten, returned, MeteringState.wrote_same]
      refine ⟨found.recorded _, ?_⟩
      rw [meteredTokens_append]
      simp [MeteringState.found, eq_comm]
    | none =>
      by_cases reached : settling.backend = .unreachable
      · have unwritten : settleTenant settling.backend (state.found settling).redis
            (state.found settling).now budget.tenant usage.totalTokens =
              ((state.found settling).redis,
                .error (.backendUnavailable "budget backend unavailable")) :=
          settleTenant_unreachable reached
        rw [unwritten, MeteringState.wrote_same, if_pos reached, meteredTokens_append]
        exact ⟨found.recorded _, by simp [reached, Except.isOk, Except.toBool, MeteringState.found]⟩
      · have held := found.get_marker
        have settlement := found.settlement
        have lasting := found.lasting
        rw [← sameKey] at held settlement lasting
        rw [← sameIdentity] at held
        rw [settleTenant_settleable reached ⟨held, settlement, lasting⟩, if_neg reached,
          meteredTokens_append, sameKey, sameIdentity]
        refine ⟨(found.reconcile usage.totalTokens).recorded _, ?_⟩
        cases answers : settling.backend with
        | unreachable => exact absurd answers reached
        | unanswered => simp [Backend.answer, Except.isOk, Except.toBool, MeteringState.wrote, MeteringState.found]
        | answering => simp [Backend.answer, Except.isOk, Except.toBool, MeteringState.wrote, MeteringState.found]

/-- A reservation that is replayed is not given back. -/
theorem Standing.proceed (standing : Standing execution state settled) {replayed : Bool}
    {outcome : AttemptOutcome} (keeps : execution.OutcomeKeeps state outcome)
    (stands : replayed = true ∨ ∀ cleanup, outcome ≠ .unpersisted (some cleanup)) :
    Standing execution
        (execution.proceed table state
          (ExecutionBudget.default.reservation (execution.budgetRequest attempt) replayed) outcome)
        (settled.or (execution.settlement? table outcome)) ∧
      meteredTokens
          (execution.proceed table state
            (ExecutionBudget.default.reservation (execution.budgetRequest attempt) replayed) outcome).ledger =
        meteredTokens state.ledger + totalTokens (execution.outcomeEntries table settled outcome) := by
  -- Without a call of the provider nothing is settled and nothing recorded.
  have unchanged : ∀ after : MeteringState, Standing execution after settled →
      Standing execution after (settled.or none) := fun after stands => by rwa [Option.or_none]
  cases outcome with
  | prepared completion settling row => exact standing.complete rfl rfl keeps
  | unprepared => exact ⟨unchanged _ standing, (Int.add_zero _).symm⟩
  | unpersisted cleanup =>
    cases cleanup with
    | none => exact ⟨unchanged _ standing, (Int.add_zero _).symm⟩
    | some cleanup =>
      obtain rfl : replayed = true := stands.resolve_right fun never => never cleanup rfl
      have unwritten : execution.proceed table state
          (ExecutionBudget.default.reservation (execution.budgetRequest attempt) true)
          (.unpersisted (some cleanup)) = state.found cleanup :=
        MeteringState.wrote_same (state.found cleanup)
      rw [unwritten]
      exact ⟨unchanged _ (standing.found keeps), (Int.add_zero _).symm⟩

/-- What an attempt comes to once its reservation stands. -/
theorem Standing.attempt_of_reserved (table : PythonText.CaseTable) {replayed : Bool}
    (standing : Standing execution (execution.reserve state attempt).1 settled)
    (answered : if execution.admits attempt then
        (execution.reserve state attempt).2 =
          .ok (ExecutionBudget.default.reservation (execution.budgetRequest attempt) replayed)
      else ∃ error, (execution.reserve state attempt).2 = .error error)
    (keeps : execution.OutcomeKeeps (execution.reserve state attempt).1 attempt.outcome)
    (stands : replayed = true ∨ ∀ cleanup, attempt.outcome ≠ .unpersisted (some cleanup)) :
    Standing execution (execution.attempt table state attempt)
        (settled.or (execution.settles? table attempt)) ∧
      meteredTokens (execution.attempt table state attempt).ledger =
        meteredTokens state.ledger + totalTokens (execution.entries table settled attempt) := by
  have sameLedger : (execution.reserve state attempt).1.ledger = state.ledger := rfl
  rw [← sameLedger]
  simp only [MeteredExecution.attempt, MeteredExecution.settles?, MeteredExecution.entries]
  generalize execution.reserve state attempt = reserved at *
  obtain ⟨after, result⟩ := reserved
  by_cases admitted : execution.admits attempt = true
  · obtain rfl := (if_pos admitted).mp answered
    rw [if_pos admitted, if_pos admitted]
    exact standing.proceed keeps stands
  · obtain ⟨error, rfl⟩ := (if_neg admitted).mp answered
    rw [if_neg admitted, if_neg admitted]
    exact ⟨by simpa using standing, (Int.add_zero _).symm⟩

/-- A request of an execution whose reservation stands. -/
theorem Standing.next (table : PythonText.CaseTable) (standing : Standing execution state settled)
    (named : execution.executionId ≠ "") (kept : execution.KeysKept state attempt) :
    Standing execution (execution.attempt table state attempt)
        (settled.or (execution.settles? table attempt)) ∧
      meteredTokens (execution.attempt table state attempt).ledger =
        meteredTokens state.ledger + totalTokens (execution.entries table settled attempt) := by
  obtain ⟨found, answered⟩ := standing.reserve named kept.1
  have reserved : Standing execution (execution.reserve state attempt).1 settled := by
    rw [found]
    exact standing.found kept.1
  exact reserved.attempt_of_reserved table answered kept.2 (.inl rfl)

/-! ## All attempts -/

/-- An attempt that settles a usage stores nothing, or that usage and the verification. -/
theorem MeteredExecution.tokens_of_settles {total : Nat}
    (settles : execution.settles? table attempt = some total) :
    execution.tokens table settled attempt =
      (execution.tokens? table settled attempt).elim 0 fun own => total + own.verification := by
  unfold settles? at settles
  split at settles
  next admitted =>
    unfold settlement? at settles
    split at settles
    next completion settling row outcome =>
      split at settles
      · contradiction
      · obtain ⟨usage, reported, rfl⟩ := Option.map_eq_some_iff.mp settles
        simp only [tokens, tokens?, if_pos admitted, outcome]
        cases stored : completion.storedTokens? table execution.payload
            (settlementReturns settled settling (completion.reports? table execution.payload)) with
        | none => rfl
        | some own =>
          have primary := CompletionRun.primary_of_reports reported stored
          simp only [Option.elim_some, AttemptTokens.total, primary]
    · contradiction
  · contradiction

/-- Once a usage is settled the later attempts only add to the ledger. -/
theorem Standing.settled_attempts {total : Nat} {attempts : List ChatAttempt}
    (standing : Standing execution state (some total)) (named : execution.executionId ≠ "")
    (kept : Transition.Throughout (fun state attempt => some (execution.attempt table state attempt))
      execution.KeysKept state attempts) :
    Standing execution (attempts.foldl (execution.attempt table) state) (some total) ∧
      meteredTokens (attempts.foldl (execution.attempt table) state).ledger =
        meteredTokens state.ledger + execution.allTokens table (some total) attempts := by
  induction attempts generalizing state with
  | nil => exact ⟨standing, (Int.add_zero _).symm⟩
  | cons attempt later inductionHypothesis =>
    obtain ⟨stands, grows⟩ := standing.next table named kept.1
    obtain ⟨final, ledger⟩ := inductionHypothesis stands kept.2
    refine ⟨final, ?_⟩
    rw [List.foldl_cons, ledger, grows, MeteredExecution.totalTokens_entries]
    simp only [MeteredExecution.allTokens, List.map_cons, List.sum_cons]
    push_cast
    omega

section Attempts

variable {after : MeteringState} {stored : Nat} {later : List ChatAttempt}

/-- After the attempt that settles a usage. -/
theorem Standing.attempts_of_settles {total : Nat} (standing : Standing execution after (some total))
    (settles : execution.settles? table attempt = some total) (named : execution.executionId ≠ "")
    (grows : meteredTokens after.ledger = stored + execution.tokens table none attempt)
    (kept : Transition.Throughout (fun state attempt => some (execution.attempt table state attempt))
      execution.KeysKept after later) :
    ∃ settled, Standing execution (later.foldl (execution.attempt table) after) settled ∧
      (meteredTokens (later.foldl (execution.attempt table) after).ledger ≤
          settled.getD execution.reservedTokens ↔
        execution.Metered table stored (attempt :: later)) := by
  obtain ⟨final, ledger⟩ := standing.settled_attempts named kept
  refine ⟨some total, final, ?_⟩
  rw [ledger, grows, MeteredExecution.tokens_of_settles settles]
  simp only [MeteredExecution.Metered, settles, Option.getD_some]
  cases execution.tokens? table none attempt with
  | none =>
    simp only [Option.elim_none]
    omega
  | some own =>
    simp only [Option.elim_some]
    omega

/-- The first attempt that settles a usage decides what the others may store. -/
theorem Standing.attempts (standing : Standing execution after (execution.settles? table attempt))
    (named : execution.executionId ≠ "")
    (grows : meteredTokens after.ledger = stored + execution.tokens table none attempt)
    (kept : Transition.Throughout (fun state attempt => some (execution.attempt table state attempt))
      execution.KeysKept after later) :
    ∃ settled, Standing execution (later.foldl (execution.attempt table) after) settled ∧
      (meteredTokens (later.foldl (execution.attempt table) after).ledger ≤
          settled.getD execution.reservedTokens ↔
        execution.Metered table stored (attempt :: later)) := by
  induction later generalizing attempt after stored with
  | nil =>
    cases settles : execution.settles? table attempt with
    | some total =>
      rw [settles] at standing
      exact standing.attempts_of_settles settles named grows kept
    | none =>
      rw [settles] at standing
      refine ⟨none, standing, ?_⟩
      simp only [MeteredExecution.Metered, settles, List.foldl_nil, Option.getD_none, grows]
      omega
  | cons following later inductionHypothesis =>
    cases settles : execution.settles? table attempt with
    | some total =>
      rw [settles] at standing
      exact standing.attempts_of_settles settles named grows kept
    | none =>
      rw [settles] at standing
      obtain ⟨stands, growsAgain⟩ := standing.next table named kept.1
      rw [grows, MeteredExecution.totalTokens_entries, ← Nat.cast_add] at growsAgain
      obtain ⟨settled, final, covered⟩ := inductionHypothesis stands growsAgain kept.2
      refine ⟨settled, final, covered.trans ?_⟩
      rw [MeteredExecution.Metered, MeteredExecution.Metered, MeteredExecution.Metered, settles]

end Attempts

/-- An execution from the request that was granted its reservation on. -/
structure MeteredRun where
  execution : MeteredExecution
  first : ChatAttempt
  later : List ChatAttempt
  affordable : Affordable ExecutionBudget.default first.reserving.redis first.reserving.now
    (execution.budgetRequest first)
  reached : first.reserving.backend ≠ .unreachable
  unsettled : get first.reserving.redis.markers first.reserving.now execution.markerKey.settlementKey = none
  stands : ∀ cleanup, first.outcome ≠ .unpersisted (some cleanup)

namespace MeteredRun

variable (table : PythonText.CaseTable) (run : MeteredRun)

def initial : MeteringState := ⟨run.first.reserving.redis, run.first.reserving.now, fun _ => 0, []⟩

def final : MeteringState := (run.first :: run.later).foldl (run.execution.attempt table) run.initial

theorem final_of_single (single : run.later = []) :
    run.final table = run.execution.attempt table run.initial run.first := by
  rw [final, single]
  rfl

def KeysKept : Prop :=
  Transition.Throughout (fun state attempt => some (run.execution.attempt table state attempt))
    run.execution.KeysKept run.initial (run.first :: run.later)

/-- The request that was granted the reservation leaves it standing. -/
theorem first_standing (kept : run.execution.KeysKept run.initial run.first) :
    Standing run.execution (run.execution.attempt table run.initial run.first)
        (run.execution.settles? table run.first) ∧
      meteredTokens (run.execution.attempt table run.initial run.first).ledger =
        (0 : Nat) + run.execution.tokens table none run.first := by
  have granted := ExecutionBudget.reserve_affordable run.reached run.affordable
  have standing : Standing run.execution (run.execution.reserve run.initial run.first).1 none := by
    simp only [MeteredExecution.reserve, MeteringState.found, granted]
    exact @Standing.grant _ run.initial _ run.affordable.grantable.lasting (fun _ => rfl) run.unsettled
  have answered : if run.execution.admits run.first then
        (run.execution.reserve run.initial run.first).2 =
          .ok (ExecutionBudget.default.reservation (run.execution.budgetRequest run.first) false)
      else ∃ error, (run.execution.reserve run.initial run.first).2 = .error error := by
    simp only [MeteredExecution.reserve, MeteringState.found, granted, MeteredExecution.admits, Backend.answer]
    have within : (run.execution.reservedTokens : Int) ≤ run.first.userLimit ∧
        (run.execution.reservedTokens : Int) ≤ run.first.organizationLimit :=
      ⟨run.affordable.userLimit, run.affordable.organizationLimit⟩
    by_cases answering : run.first.reserving.backend = .answering
    · simp [answering, within]
    · simp [answering]
  obtain ⟨stands, grows⟩ := standing.attempt_of_reserved table answered kept.2 (.inr run.stands)
  refine ⟨stands, ?_⟩
  rw [grows, MeteredExecution.totalTokens_entries]
  rfl

/-- Over all its attempts an execution contributes at least what its ledger holds exactly
when the attempts are metered. -/
theorem contribution_covers_ledger_iff (kept : run.KeysKept table) :
    (∀ counter, run.execution.tenant.uses counter = true →
        meteredTokens (run.final table).ledger ≤ (run.final table).contribution counter) ↔
      run.execution.Metered table 0 (run.first :: run.later) := by
  obtain ⟨stands, grows⟩ := run.first_standing table kept.1
  obtain ⟨settled, final, covered⟩ :=
    stands.attempts run.affordable.grantable.named grows kept.2
  rw [← covered]
  have usesOwn : run.execution.tenant.uses run.execution.tenant.userKey = true := by simp [Tenant.uses]
  constructor
  · intro within
    have ownCounter := within _ usesOwn
    rwa [MeteredRun.final, List.foldl_cons, final.contributed, if_pos usesOwn] at ownCounter
  · intro within counter uses
    rw [MeteredRun.final, List.foldl_cons, final.contributed, if_pos uses]
    exact within

end MeteredRun

/-! ## A reported usage with and without verification -/

def reportedExecution (verify : Bool) : MeteredExecution :=
  ⟨"execution", 7, 3, ⟨"Hej", verify, true, "openai", "gpt-4o"⟩⟩

def reportedRow : ChatExecution where
  id := 1
  executionId := "execution"
  requestId := "request"
  conversationId := 1
  organizationId := 3
  userId := 7
  botId := 1
  botOrganizationId := 3
  idempotencyRecordId := some 1
  userMessageId := some 1
  assistantMessageId := some 2
  provider := "openai"
  model := "gpt-4o"
  status := .prepared
  attemptCount := 1
  maxAttempts := 3
  lastFailureCode := none
  failureRetryable := false
  partialResponse := false
  recoveredAt := none
  governanceAuditRequired := true
  completedAt := none

/-- A streamed answer of ten reported tokens; the verifier, where it is asked, answers. -/
def reportedCompletion : CompletionRun where
  context := ⟨[⟨"user", "Hej"⟩], none⟩
  primary := .completed "Goddag" (some ⟨6, 4⟩)
  interrupted := false
  verification := some ⟨"anthropic", "claude-3-5-haiku-20241022", "PASS"⟩
  interruptedLater := false
  completes := .ok true
  fails := .ok true

/-- One attempt on an empty store, settled a second after it reserved. -/
def reportedRun (verify : Bool) : MeteredRun where
  execution := reportedExecution verify
  first :=
    { userLimit := 100000
      organizationLimit := 100000
      reserving := ⟨.answering, Redis.empty, 0⟩
      outcome := .prepared reportedCompletion
        ⟨.answering, Redis.empty.granted 0 (reportedExecution verify).markerKey
          (reportedExecution verify).identity 3600, 1000⟩ reportedRow }
  later := []
  affordable := by cases verify <;> decide +kernel
  reached := nofun
  unsettled := rfl
  stands := nofun

theorem reportedRun_keysKept (verify : Bool) :
    (reportedRun verify).KeysKept fun _ character _ => [character] := by
  cases verify <;> exact ⟨⟨⟨rfl, rfl⟩, by decide +kernel, by decide +kernel⟩, trivial⟩

theorem contribution_covers_ledger_iff_unverified :
    (reportedRun false).KeysKept (fun _ character _ => [character]) ∧
      ((∀ counter, (reportedRun false).execution.tenant.uses counter = true →
          meteredTokens ((reportedRun false).final fun _ character _ => [character]).ledger ≤
            ((reportedRun false).final fun _ character _ => [character]).contribution counter) ↔
        (reportedRun false).execution.Metered (fun _ character _ => [character]) 0
          ((reportedRun false).first :: (reportedRun false).later)) :=
  ⟨reportedRun_keysKept false, (reportedRun false).contribution_covers_ledger_iff _ (reportedRun_keysKept false)⟩

/-- The verifier runs after the settlement, so its tokens are on the ledger only. -/
theorem verification_unmetered :
    ¬∀ (table : PythonText.CaseTable) (run : MeteredRun), run.KeysKept table →
      ∀ counter, run.execution.tenant.uses counter = true →
        meteredTokens (run.final table).ledger ≤ (run.final table).contribution counter := by
  intro metered
  have claimed := metered (fun _ character _ => [character]) (reportedRun true) (reportedRun_keysKept true)
    (.organization 3) rfl
  obtain ⟨stands, grows⟩ := (reportedRun true).first_standing _ (reportedRun_keysKept true).1
  have settles : (reportedRun true).execution.settles? (fun _ character _ => [character])
      (reportedRun true).first = some 10 := by
    decide +kernel
  rw [settles] at stands
  have admitted : (reportedRun true).execution.admits (reportedRun true).first = true := by decide +kernel
  have verifier : isPriced (fun _ character _ => [character]) "anthropic" "claude-3-5-haiku-20241022" =
      true := by
    decide +kernel
  have reports : reportedCompletion.reports? (fun _ character _ => [character])
      (reportedRun true).execution.payload = some ⟨6, 4⟩ := by
    decide +kernel
  obtain ⟨verification, positive, both⟩ :=
    CompletionRun.storedTokens?_verified reports rfl rfl rfl (by decide) verifier rfl rfl rfl
  have own := @MeteredExecution.tokens?_of_prepared (fun _ character _ => [character]) _ none _ _ _ _
    admitted rfl
  rw [reports] at own
  have stored := congrArg (fun tokens => Option.elim tokens 0 AttemptTokens.total) (own.trans both)
  have contributed := stands.contributed (.organization 3)
  have uses : (reportedRun true).execution.tenant.uses (.organization 3) = true := rfl
  rw [if_pos uses, Option.getD_some] at contributed
  rw [(reportedRun true).final_of_single _ rfl, contributed, grows, MeteredExecution.tokens, stored] at claimed
  simp only [Option.elim_some, AttemptTokens.total, ProviderUsage.totalTokens] at claimed
  omega

end Eiraos
