import Eiraos.Agent.Loop

/-! # The governed tool runtime

The registry (`tool_registry.py`), the authorization (`tool_authorization.py`), the budget
(`execution_budget.py`) and `GovernedAgentRuntime` (`agent_runtime.py`), which runs the
agent loop with a policy and a dispatch that share a table of permits.
-/

namespace Eiraos.Agent

open PythonText

/-! ## Values and schemas -/

/-- Tool arguments, tool results and schemas; a frozen list is a tuple and both are arrays.
A float that is no number has no value. -/
inductive ToolValue where
  | none
  | bool (value : Bool)
  | int (value : Int)
  | float (value : Option ℚ)
  | string (value : PythonStr)
  | array (items : List ToolValue)
  | object (members : List (PythonStr × ToolValue))
  | foreign (hashable : Bool)

namespace ToolValue

def member? (members : List (PythonStr × ToolValue)) (key : PythonStr) : Option ToolValue :=
  (members.find? fun member => member.1 = key).map (·.2)

def truthy : ToolValue → Bool
  | .none => false
  | .bool value => value
  | .int value => value ≠ 0
  | .float value => value ≠ some 0
  | .string value => value.codePoints ≠ []
  | .array items => !items.isEmpty
  | .object members => !members.isEmpty
  | .foreign _ => true

def isString (value : ToolValue) (text : String) : Bool :=
  match value with
  | .string content => content = .ofText text
  | _ => false

/-- `hash(value)` does not raise. -/
def hashable : ToolValue → Bool
  | .array items => hashables items
  | .object _ => false
  | .foreign hashes => hashes
  | _ => true
where
  hashables : List ToolValue → Bool
  | [] => true
  | item :: items => hashable item && hashables items

end ToolValue

/-- `ToolSchemaError` and what else `_validate_schema` lets through. -/
inductive SchemaFailure where
  | schema (message : PythonStr)
  | attributeError
  | typeError
  deriving DecidableEq, Repr

namespace ToolValue

/-- The entry of `checks` under a name; `none` when there is none. -/
def check? (expected : ToolValue) (value : ToolValue) : Option Bool :=
  if expected.isString "object" then some (value matches .object _)
  else if expected.isString "array" then some (value matches .array _)
  else if expected.isString "string" then some (value matches .string _)
  else if expected.isString "integer" then some (value matches .int _)
  else if expected.isString "number" then some (value matches .int _ || value matches .float _)
  else if expected.isString "boolean" then some (value matches .bool _)
  else if expected.isString "null" then some (value matches .none)
  else Option.none

/-- `tuple(value)`; the members of a string are its characters. -/
def tuple : ToolValue → Except SchemaFailure (List ToolValue)
  | .array items => .ok items
  | .object members => .ok (members.map fun member => .string member.1)
  | .string text => .ok (text.codePoints.map fun codePoint => .string ⟨[codePoint]⟩)
  | _ => .error .typeError

/-- `key in members` of a mapping whose keys are strings. -/
def keyIn (members : List (PythonStr × ToolValue)) (key : ToolValue) : Except SchemaFailure Bool :=
  match key with
  | .string text => .ok (member? members text).isSome
  | key => if key.hashable then .ok false else .error .typeError

/-- `key in value` of a key that is a string. -/
def contains (value : ToolValue) (key : PythonStr) : Except SchemaFailure Bool :=
  match value with
  | .object members => .ok (member? members key).isSome
  | .array items => .ok (items.any fun item => match item with | .string text => text = key | _ => false)
  | .string text =>
    .ok (text.codePoints.tails.any fun rest => key.codePoints.isPrefixOf rest)
  | _ => .error .typeError

/-- The checks of an object before its properties: the required ones and, if no others are
allowed, the undeclared ones. -/
def checkKeys (schema members : List (PythonStr × ToolValue)) (path : PythonStr) :
    Except SchemaFailure Unit := do
  let required ← ((member? schema "required").getD (.array [])).tuple
  required.forM fun key => do
    unless ← keyIn members key do
      throw (.schema (path.append " is missing required property"))
  let properties := (member? schema "properties").getD (.object [])
  if (member? schema "additionalProperties").any (· matches .bool false) then
    members.forM fun member => do
      unless ← properties.contains member.1 do
        throw (.schema (path.append " contains an undeclared property"))

mutual

/-- `_validate_schema`, by recursion over the schema. -/
def validateSchema (value : ToolValue) (path : PythonStr) : ToolValue → Except SchemaFailure Unit
  | .object schema =>
    if schema.isEmpty then .ok ()
    else do
      let expected := (member? schema "type").getD .none
      unless expected.hashable do throw .typeError
      if expected.check? value = some false then
        throw (.schema (path.append " does not match declared type"))
      match value with
      | .object members =>
        if expected.isString "object" then
          checkKeys schema members path
          validateProperties members path schema
      | .array items =>
        if expected.isString "array" then
          validateItems items path schema
      | _ => pure ()
  | schema => if schema.truthy then .error .attributeError else .ok ()

/-- The loop over `schema.get("properties", {}).items()`. -/
def validateProperties (members : List (PythonStr × ToolValue)) (path : PythonStr) :
    List (PythonStr × ToolValue) → Except SchemaFailure Unit
  | [] => .ok ()
  | (keyword, .object properties) :: schema =>
    if keyword = .ofText "properties" then validateMembers members path properties
    else validateProperties members path schema
  | (keyword, _) :: schema =>
    if keyword = .ofText "properties" then .error .attributeError
    else validateProperties members path schema

def validateMembers (members : List (PythonStr × ToolValue)) (path : PythonStr) :
    List (PythonStr × ToolValue) → Except SchemaFailure Unit
  | [] => .ok ()
  | (key, childSchema) :: properties => do
    match member? members key with
    | some item => validateSchema item ((path.append ".").append key) childSchema
    | Option.none => pure ()
    validateMembers members path properties

/-- The loop over the items under `schema["items"]`. -/
def validateItems (items : List ToolValue) (path : PythonStr) :
    List (PythonStr × ToolValue) → Except SchemaFailure Unit
  | [] => .ok ()
  | (keyword, childSchema) :: schema =>
    if keyword = .ofText "items" then
      items.zipIdx.forM fun (item, index) =>
        validateSchema item (((path.append "[").append (toString index)).append "]") childSchema
    else validateItems items path schema

end

end ToolValue

/-! ## Registry, authority and authorization -/

/-- The fields of a `Tool` that the runtime reads. -/
structure Tool where
  name : PythonStr
  inputSchema : ToolValue
  outputSchema : ToolValue
  capabilities : List PythonStr

/-- `ToolRegistry`; the dictionary has one tool for each name. -/
structure ToolRegistry where
  tools : List Tool
  unique : (tools.map Tool.name).Nodup

/-- `registry.get`; the error is `ToolNotFoundError`. -/
def ToolRegistry.get (registry : ToolRegistry) (name : PythonStr) : Option Tool :=
  registry.tools.find? fun tool => tool.name = name

structure AgentAuthority where
  actor : PythonStr
  organizationId : Int
  resourceOrganizationId : Int
  allowedCapabilities : List PythonStr
  actor_explicit : actor.codePoints ≠ []
  organization_explicit : 0 < organizationId
  resource_explicit : 0 < resourceOrganizationId
  capabilities_explicit : ∀ capability ∈ allowedCapabilities, capability.codePoints ≠ []

structure AuthorizationRequest where
  actor : PythonStr
  tool : Tool
  capability : PythonStr
  allowedCapabilities : List PythonStr

structure AuthorizationDecision where
  allowed : Bool
  reasonCode : String
  deriving DecidableEq, Repr

def authorize (request : AuthorizationRequest) : AuthorizationDecision :=
  if request.actor.codePoints = [] ∨ request.capability.codePoints = [] then
    ⟨false, "INVALID_REQUEST"⟩
  else if request.capability ∉ request.tool.capabilities then ⟨false, "CAPABILITY_NOT_DECLARED"⟩
  else if request.capability ∉ request.allowedCapabilities then
    ⟨false, "CAPABILITY_NOT_AUTHORIZED"⟩
  else ⟨true, "AUTHORIZED"⟩

/-! ## The execution budget -/

structure BudgetDecision where
  allowed : Bool
  reasonCode : String
  remainingExecutions : Nat
  deriving DecidableEq, Repr

structure ExecutionBudget where
  remaining : Nat
  deadline : ℚ
  deriving DecidableEq

def ExecutionBudget.consume (budget : ExecutionBudget) (now : ℚ) :
    ExecutionBudget × BudgetDecision :=
  if budget.deadline ≤ now then (budget, ⟨false, "TIME_BUDGET_EXHAUSTED", budget.remaining⟩)
  else if budget.remaining = 0 then (budget, ⟨false, "EXECUTION_BUDGET_EXHAUSTED", 0⟩)
  else ({ budget with remaining := budget.remaining - 1 },
    ⟨true, "BUDGET_GRANTED", budget.remaining - 1⟩)

/-! ## The runtime -/

/-- A callable; `identity` tells the executors apart. -/
structure Executor where
  identity : Nat
  isCallable : Bool
  isAsyncCallable : Bool
  deriving DecidableEq, Repr

inductive ToolBindingError where
  | unregistered (name : PythonStr)
  | notAsync (name : PythonStr)
  | identityMismatch
  | unbound
  deriving DecidableEq, Repr

def ToolBindingError.message : ToolBindingError → PythonStr
  | .unregistered name => PythonStr.append "executor has no registered tool: " name
  | .notAsync name => PythonStr.append "tool executor must be async: " name
  | .identityMismatch => "tool binding identity mismatch"
  | .unbound => "every registered tool requires exactly one executor"

/-- The two dictionaries are taken over when the runtime is built; a tool registered later
is not among them. -/
structure GovernedAgentRuntime where
  tools : List Tool
  executors : List (PythonStr × Executor)

def GovernedAgentRuntime.bind (registry : ToolRegistry) (binding : PythonStr × Executor) :
    Except ToolBindingError Unit :=
  match registry.get binding.1 with
  | none => .error (.unregistered binding.1)
  | some tool =>
    if !(binding.2.isCallable && binding.2.isAsyncCallable) then .error (.notAsync binding.1)
    else if tool.name ≠ binding.1 then .error .identityMismatch
    else .ok ()

/-- `GovernedAgentRuntime.__init__`. -/
def GovernedAgentRuntime.build (registry : ToolRegistry) (executors : List (PythonStr × Executor)) :
    Except ToolBindingError GovernedAgentRuntime := do
  executors.forM (bind registry)
  let registered := registry.tools.map Tool.name
  let bound := executors.map (·.1)
  -- equal as sets
  if registered ⊆ bound ∧ bound ⊆ registered then return ⟨registry.tools, executors⟩
  throw .unbound

structure LoopStep where
  tool : PythonStr
  capability : PythonStr
  arguments : List (PythonStr × ToolValue)

/-- A step the planner returned; `identity` is what `id` gives for the object. -/
structure StepObject where
  identity : Nat
  step : LoopStep

/-- What `dispatch` needs: the tool and the capability that were authorized. -/
structure Permit where
  identity : Nat
  tool : Tool
  capability : PythonStr

/-- One call of a bound executor. -/
structure ExecutorCall where
  step : StepObject
  tool : Tool
  executor : Executor
  arguments : List (PythonStr × ToolValue)
  actor : PythonStr
  organizationId : Int
  capability : PythonStr

namespace GovernedAgentRuntime

variable (runtime : GovernedAgentRuntime) (authority : AgentAuthority)

/-- `policy`, with the permit that it leaves. -/
def policy (step : StepObject) : AuthorizationDecision × Option Permit :=
  if authority.organizationId ≠ authority.resourceOrganizationId then
    (⟨false, "TENANT_MISMATCH"⟩, none)
  else
    match runtime.tools.find? fun tool => tool.name = step.step.tool with
    | none => (⟨false, "UNKNOWN_TOOL"⟩, none)
    | some tool =>
      let decision := authorize {
        actor := authority.actor
        tool
        capability := step.step.capability
        allowedCapabilities := authority.allowedCapabilities }
      (decision, if decision.allowed then some ⟨step.identity, tool, step.step.capability⟩ else none)

/-- `permits[id(step)] = ...`. -/
def addPermit (permits : List Permit) : Option Permit → List Permit
  | none => permits
  | some permit => permits.filter (fun other => other.identity ≠ permit.identity) ++ [permit]

/-- `dispatch` up to the call of the executor, with the permits it leaves; no call when it
raises. -/
def dispatch (permits : List Permit) (step : StepObject) : List Permit × Option ExecutorCall :=
  match permits.find? fun permit => permit.identity = step.identity with
  -- `PermissionError`
  | none => (permits, none)
  | some permit =>
    -- the permit is used up before the arguments are looked at
    let left := permits.filter fun other => other.identity ≠ step.identity
    match ToolValue.validateSchema (.object step.step.arguments) "arguments" permit.tool.inputSchema,
      runtime.executors.find? fun binding => binding.1 = permit.tool.name with
    | .ok (), some binding => (left, some {
        step
        tool := permit.tool
        executor := binding.2
        arguments := step.step.arguments
        actor := authority.actor
        organizationId := authority.organizationId
        capability := permit.capability })
    | _, _ => (left, none)

end GovernedAgentRuntime

/-! ## A governed run

`policy` is a plain function, so it runs in a thread of its own: the thread may answer after
the loop has given up waiting, and still add its permit.  Others may use the same budget. -/

/-- One call of `GovernedAgentRuntime.run`, and what the library says of strings and values. -/
structure GovernedRun where
  runtime : GovernedAgentRuntime
  authority : AgentAuthority
  limits : AgentRunLimits
  isAlnum : Nat → Bool
  isUpper : Nat → Bool
  isDigit : Nat → Bool
  sha256 : String → String
  typeName : ToolValue → PythonStr
  dumps : ToolValue → Option String

/-- The loop under `run`: `dispatch` is a coroutine function, and a `LoopStep` is truthy. -/
def GovernedRun.agentRun (run : GovernedRun) : AgentRun StepObject ToolValue where
  limits := run.limits
  asyncExecute := true
  isAlnum := run.isAlnum
  isUpper := run.isUpper
  isDigit := run.isDigit
  sha256 := run.sha256
  truthy _ := true
  tool object := some object.step.tool
  capability object := some object.step.capability
  typeName := run.typeName
  dumps := run.dumps

/-- What happened, in order: an event was stored, the policy allowed a step, the budget
granted an execution, an executor was called. -/
inductive Entry where
  | recorded (event : AgentEvent)
  | authorized (step : StepObject)
  | granted
  | called (call : ExecutorCall)

/-- `pending` is the step a policy thread was started for and has not decided yet, `answer`
its decision while the loop waits for it, `calling` the tool whose executor is running. -/
structure GovernedState where
  loop : AgentLoop StepObject ToolValue
  permits : List Permit
  pending : Option StepObject
  answer : Option AuthorizationDecision
  calling : Option Tool
  budget : ExecutionBudget
  trace : List Entry

inductive GovernedSignal where
  | loop (signal : Signal StepObject ToolValue)
  | policyRuns
  | policyReturns
  | consume (now : ℚ)
  | consumeElsewhere (now : ℚ)
  | dispatch
  | executorReturns (result : ToolValue)

def AuthorizationDecision.decision (decision : AuthorizationDecision) : Decision :=
  ⟨.value (some decision.reasonCode), .value decision.allowed⟩

def BudgetDecision.answer (decision : BudgetDecision) : BudgetAnswer :=
  ⟨.value (some decision.reasonCode), .value decision.allowed, .value decision.remainingExecutions⟩

namespace GovernedState

variable (state : GovernedState)

/-- The loop moves on. -/
def follow (loop : AgentLoop StepObject ToolValue) : GovernedState :=
  { state with
    loop
    pending :=
      match state.loop.point, loop.point with
      | .invoking .., .awaiting (.policy step) _ => some step
      | _, _ => state.pending
    answer :=
      match state.loop.point, loop.point with
      | .awaiting .., .awaiting .. => state.answer
      | _, _ => none
    calling :=
      match state.loop.point, loop.point with
      | .executing .., .executing .. => state.calling
      | _, _ => none
    trace := state.trace ++ (loop.events.drop state.loop.events.length).map .recorded }

end GovernedState

namespace GovernedRun

variable (run : GovernedRun)

def begin (budget : ExecutionBudget) (started : ℚ) : GovernedState where
  loop := run.agentRun.begin started
  permits := []
  pending := none
  answer := none
  calling := none
  budget
  trace := []

/-- The loop takes a step of its own. -/
def advance (state : GovernedState) (signal : Signal StepObject ToolValue) : Option GovernedState :=
  (run.agentRun.step state.loop signal).map state.follow

/-- The answers of the policy, the budget and the dispatch come from the runtime. -/
def fromOutside (state : GovernedState) : Signal StepObject ToolValue → Bool
  | .decided _ | .consumed _ | .executed _ => false
  -- the policy returns no awaitable, the planner may
  | .deferred =>
    match state.loop.point with
    | .awaiting (.policy _) _ => false
    | _ => true
  | _ => true

def step (state : GovernedState) : GovernedSignal → Option GovernedState
  | .loop signal => if fromOutside state signal then run.advance state signal else none
  | .policyRuns =>
    match state.pending with
    | none => none
    | some step =>
      let (decision, permit) := run.runtime.policy run.authority step
      some { state with
        pending := none
        -- the thread writes its permit even if nobody waits for its answer any more
        permits := GovernedAgentRuntime.addPermit state.permits permit
        answer :=
          match state.loop.point with
          | .awaiting (.policy _) _ => some decision
          | _ => none
        trace := state.trace ++ if decision.allowed then [.authorized step] else [] }
  | .policyReturns =>
    match state.answer with
    | none => none
    | some decision => run.advance state (.decided decision.decision)
  | .consume now =>
    let (budget, decision) := state.budget.consume now
    (run.advance state (.consumed decision.answer)).map fun next => { next with
      budget
      trace := next.trace ++ if decision.allowed then [.granted] else [] }
  | .consumeElsewhere now => some { state with budget := (state.budget.consume now).1 }
  | .dispatch =>
    match state.loop.point, state.calling with
    | .executing step _, none =>
      match run.runtime.dispatch run.authority state.permits step with
      | (permits, none) =>
        (run.advance state (.raised .exception)).map fun next => { next with permits }
      | (permits, some call) =>
        some { state with permits, calling := some call.tool, trace := state.trace ++ [.called call] }
    | _, _ => none
  | .executorReturns result =>
    match state.calling with
    | none => none
    | some tool =>
      -- the executor has run by now, whatever becomes of its result
      match tool.outputSchema |> ToolValue.validateSchema result "result" with
      | .ok () => run.advance state (.executed result)
      | .error _ => run.advance state (.raised .exception)

end GovernedRun

end Eiraos.Agent
