import Mathlib.Logic.Basic

/-! # Guarded computations

The guards of a body that raises on the first violated condition, and what its success
says: a successful chain of guards gives back every condition it checked.
-/

namespace Guarded

universe u
variable {Error : Type*} {Value Result : Type u}

/-- Raise `error` unless the condition holds. -/
def ensure (condition : Prop) [Decidable condition] (error : Error) : Except Error Unit :=
  if condition then .ok () else .error error

/-- Raise `error` when there is no value. -/
def required (error : Error) : Option Value → Except Error Value
  | none => .error error
  | some value => .ok value

@[simp] theorem ensure_eq_ok {condition : Prop} [Decidable condition] {error : Error} {done : Unit} :
    ensure condition error = .ok done ↔ condition := by
  unfold ensure
  split <;> simp_all

@[simp] theorem required_eq_ok {error : Error} {value : Value} {found : Option Value} :
    required error found = .ok value ↔ found = some value := by
  cases found <;> simp [required]

theorem bind_eq_ok {first : Except Error Value} {rest : Value → Except Error Result} {result : Result} :
    first >>= rest = .ok result ↔ ∃ value, first = .ok value ∧ rest value = .ok result := by
  cases first <;> simp [bind, Except.bind]

/-- A guard before the rest. -/
theorem guard_bind_eq_ok {guard : Except Error PUnit} {rest : Except Error Result} {result : Result} :
    (guard >>= fun _ => rest) = .ok result ↔ guard = .ok ⟨⟩ ∧ rest = .ok result := by
  cases guard <;> simp [bind, Except.bind]

/-- A test that may itself raise. -/
theorem unless_eq_ok {test : Except Error Bool} {error : Error} :
    (do unless ← test do throw error) = (.ok ⟨⟩ : Except Error PUnit) ↔ test = .ok true := by
  cases test with
  | error error => simp [bind, Except.bind]
  | ok holds => cases holds <;> simp [bind, Except.bind, pure, Except.pure, throw, throwThe, MonadExceptOf.throw]

theorem pure_eq_ok {value result : Value} :
    (pure value : Except Error Value) = .ok result ↔ value = result := by
  simp [pure, Except.pure]

/-- A loop of guards succeeds when every round does. -/
theorem forM_eq_ok {Item : Type*} {items : List Item} {round : Item → Except Error PUnit} :
    items.forM round = .ok ⟨⟩ ↔ ∀ item ∈ items, round item = .ok ⟨⟩ := by
  induction items with
  | nil => simp [List.forM, pure, Except.pure]
  | cons item items inductionHypothesis =>
    show (round item >>= fun _ => items.forM round) = .ok ⟨⟩ ↔ _
    rw [bind_eq_ok, List.forall_mem_cons, inductionHypothesis]
    exact ⟨fun ⟨⟨⟩, first, rest⟩ => ⟨first, rest⟩, fun ⟨first, rest⟩ => ⟨⟨⟩, first, rest⟩⟩

@[simp] theorem mapError_eq_ok {Other : Type*} {result : Except Error Value} {rename : Error → Other}
    {value : Value} : result.mapError rename = .ok value ↔ result = .ok value := by
  cases result with
  | error error => exact ⟨nofun, nofun⟩
  | ok read =>
    constructor <;> intro same <;> cases same <;> rfl

theorem map_eq_ok {result : Except Error Value} {change : Value → Result} {changed : Result} :
    change <$> result = .ok changed ↔ ∃ value, result = .ok value ∧ change value = changed := by
  cases result <;> simp [Functor.map, Except.map]

theorem toOption_eq_some {ending : Except Error Value} {value : Value} :
    ending.toOption = some value ↔ ending = .ok value := by
  cases ending <;> simp [Except.toOption]

end Guarded
