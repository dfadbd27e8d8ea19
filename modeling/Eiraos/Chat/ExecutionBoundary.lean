import Mathlib.Logic.Basic

/-! # The preflight stages (`application/chat_execution.py`)

`ChatExecutionBoundary.prepare` runs the stages in their order; the first one that raises
ends the preflight, and a replay ends it before the budget.  A stage keeps what it wrote
before it raised.
-/

namespace Eiraos

abbrev Stage (State Error Value : Type) := State → State × Except Error Value

structure IdempotencyReservation where
  key : Option String
  leaseToken : Option String
  cachedResponse : Option String
  recordId : Option Nat
  isRecovery : Bool
  deriving DecidableEq, Repr

def IdempotencyReservation.isReplay (reservation : IdempotencyReservation) : Bool :=
  reservation.cachedResponse.isSome

structure PreparedChatExecution (Authorized Provider : Type) where
  authorized : Option Authorized
  providerContext : Option Provider
  idempotency : IdempotencyReservation
  cachedResponse : Option String

structure ChatExecutionBoundary (State Error Authorized Provider : Type) where
  authorize : Stage State Error Authorized
  reserveIdempotency : Stage State Error IdempotencyReservation
  reserveBudget : Authorized → Stage State Error Unit
  persistRequest : Authorized → Stage State Error Unit
  prepareProvider : Authorized → Stage State Error Provider

section Stages

variable {State Error Value Result Authorized Provider : Type}

def Stage.done (value : Value) : Stage State Error Value := fun state => (state, .ok value)

def Stage.andThen (first : Stage State Error Value) (next : Value → Stage State Error Result) :
    Stage State Error Result := fun state =>
  match first state with
  | (after, .error error) => (after, .error error)
  | (after, .ok value) => next value after

def ChatExecutionBoundary.prepare (boundary : ChatExecutionBoundary State Error Authorized Provider) :
    Stage State Error (PreparedChatExecution Authorized Provider) :=
  boundary.authorize.andThen fun authorized =>
  boundary.reserveIdempotency.andThen fun idempotency =>
  if idempotency.isReplay then .done ⟨none, none, idempotency, idempotency.cachedResponse⟩
  else
    (boundary.reserveBudget authorized).andThen fun _ =>
    (boundary.persistRequest authorized).andThen fun _ =>
    (boundary.prepareProvider authorized).andThen fun providerContext =>
    .done ⟨some authorized, some providerContext, idempotency, none⟩

theorem Stage.andThen_of_ok {first : Stage State Error Value} {next : Value → Stage State Error Result}
    {state after : State} {value : Value} (succeeds : first state = (after, .ok value)) :
    first.andThen next state = next value after := by
  simp only [andThen, succeeds]

theorem Stage.andThen_of_error {first : Stage State Error Value}
    {next : Value → Stage State Error Result} {state after : State} {error : Error}
    (raises : first state = (after, .error error)) :
    first.andThen next state = (after, .error error) := by
  simp only [andThen, raises]

end Stages

end Eiraos
