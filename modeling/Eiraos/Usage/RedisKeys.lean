import Eiraos.Foundations.DelimitedText

/-! # Keys and values of the budget store (`domains/usage`)

`ExecutionBudget` keeps a token counter for each user and one for each organization;
`RedisUsageReservation` keeps a marker for each reservation and, once it is settled, the
settled amount under the marker's name with `:settled` appended.  `render` is the text the
code sends.  Different keys have different texts, and so have different marker values,
so the scripts' comparisons of texts are comparisons of these.
-/

namespace Eiraos

inductive CounterKey where
  | user (organizationId userId : Nat)
  | organization (organizationId : Nat)
  deriving DecidableEq, Repr

/-- `{organization_key}:reservation:{name}`. -/
structure MarkerKey where
  organizationId : Nat
  name : String
  deriving DecidableEq, Repr

/-- Whose tokens a reservation holds: a user within an organization. -/
structure Tenant where
  organizationId : Nat
  userId : Nat
  deriving DecidableEq, Repr

/-- `{user_key}|{organization_key}|{amount}`. -/
structure Identity where
  tenant : Tenant
  amount : Nat
  deriving DecidableEq, Repr

inductive MarkerValue where
  | identity (identity : Identity)
  | settled (amount : Nat)
  deriving DecidableEq, Repr

def Tenant.userKey (tenant : Tenant) : CounterKey := .user tenant.organizationId tenant.userId

def Tenant.organizationKey (tenant : Tenant) : CounterKey := .organization tenant.organizationId

/-- The reservation is counted in this counter. -/
def Tenant.uses (tenant : Tenant) (counter : CounterKey) : Bool :=
  counter = tenant.userKey ∨ counter = tenant.organizationKey

theorem Tenant.userKey_ne_organizationKey (tenant : Tenant) : tenant.userKey ≠ tenant.organizationKey :=
  (nomatch ·)

/-- `{marker_key}:settled`. -/
def MarkerKey.settlementKey (marker : MarkerKey) : MarkerKey :=
  { marker with name := marker.name ++ ":settled" }

theorem MarkerKey.settlementKey_ne (marker : MarkerKey) : marker.settlementKey ≠ marker := by
  intro same
  have lengths := congrArg (fun key => key.name.length) same
  simp [settlementKey] at lengths

theorem MarkerKey.settlementKey_injective {first second : MarkerKey}
    (same : first.settlementKey = second.settlementKey) : first = second := by
  obtain ⟨organizationId, name⟩ := first
  obtain ⟨otherId, otherName⟩ := second
  simpa [settlementKey] using same

/-! ## The texts -/

open DelimitedText

def CounterKey.render : CounterKey → String
  | .user organizationId userId =>
    "budget:\x7b" ++ decimal organizationId ++ "\x7d:user:" ++ decimal userId ++ ":tokens"
  | .organization organizationId =>
    "budget:\x7b" ++ decimal organizationId ++ "\x7d:organization:tokens"

def MarkerKey.render (marker : MarkerKey) : String :=
  (CounterKey.organization marker.organizationId).render ++ ":reservation:" ++ marker.name

def MarkerValue.render : MarkerValue → String
  | .identity held =>
    held.tenant.userKey.render ++ "|" ++ held.tenant.organizationKey.render ++ "|" ++ decimal held.amount
  | .settled amount => decimal amount

/-- What every key text starts with, and what follows the organization's tag. -/
def keyText (organizationId : Nat) (rest : List Char) : List Char :=
  "budget:\x7b".toList ++ ((decimal organizationId).toList ++ '\x7d' :: rest)

def CounterKey.suffix : CounterKey → List Char
  | .user _ userId => ":user:".toList ++ ((decimal userId).toList ++ ':' :: "tokens".toList)
  | .organization _ => ":organization:tokens".toList

theorem CounterKey.render_toList (counter : CounterKey) :
    counter.render.toList =
      keyText (match counter with | .user id _ => id | .organization id => id) counter.suffix := by
  cases counter <;> unfold render suffix keyText <;> simp

theorem MarkerKey.render_toList (marker : MarkerKey) :
    marker.render.toList =
      keyText marker.organizationId (":organization:tokens:reservation:".toList ++ marker.name.toList) := by
  unfold render CounterKey.render keyText
  simp

theorem keyText_unique {first second : Nat} {firstRest secondRest : List Char}
    (same : keyText first firstRest = keyText second secondRest) :
    first = second ∧ firstRest = secondRest := by
  obtain ⟨ids, rests⟩ := split_unique (not_mem_decimal rfl first) (not_mem_decimal rfl second)
    (List.append_cancel_left same)
  exact ⟨decimal_unique ids, rests⟩

theorem CounterKey.render_injective {first second : CounterKey} (same : first.render = second.render) :
    first = second := by
  have texts := congrArg String.toList same
  rw [render_toList, render_toList] at texts
  obtain ⟨ids, suffixes⟩ := keyText_unique texts
  cases first with
  | user firstId firstUser =>
    cases second with
    | user secondId secondUser =>
      obtain ⟨users, _⟩ := split_unique (not_mem_decimal rfl firstUser) (not_mem_decimal rfl secondUser)
        (List.append_cancel_left suffixes)
      rw [decimal_unique users]
      exact congrArg (CounterKey.user · secondUser) ids
    | organization =>
      unfold suffix at suffixes
      simp at suffixes
  | organization =>
    cases second with
    | user =>
      unfold suffix at suffixes
      simp at suffixes
    | organization => exact congrArg CounterKey.organization ids

theorem MarkerKey.render_injective {first second : MarkerKey} (same : first.render = second.render) :
    first = second := by
  have texts := congrArg String.toList same
  rw [render_toList, render_toList] at texts
  obtain ⟨ids, names⟩ := keyText_unique texts
  obtain ⟨firstId, firstName⟩ := first
  obtain ⟨secondId, secondName⟩ := second
  obtain rfl : firstId = secondId := ids
  have sameName : firstName = secondName := String.toList_injective (List.append_cancel_left names)
  rw [sameName]

/-- No counter shares its name with a marker. -/
theorem CounterKey.render_ne_marker (counter : CounterKey) (marker : MarkerKey) :
    counter.render ≠ marker.render := by
  intro same
  have texts := congrArg String.toList same
  rw [render_toList, MarkerKey.render_toList] at texts
  have suffixes := (keyText_unique texts).2
  cases counter with
  | user =>
    unfold suffix at suffixes
    simp at suffixes
  | organization =>
    unfold suffix at suffixes
    simp at suffixes

theorem CounterKey.bar_not_mem (counter : CounterKey) : '|' ∉ counter.render.toList := by
  rw [render_toList]
  cases counter with
  | user organizationId userId =>
    have : '|' ∉ (decimal organizationId).toList := not_mem_decimal rfl organizationId
    have : '|' ∉ (decimal userId).toList := not_mem_decimal rfl userId
    unfold keyText suffix
    simp_all
  | organization organizationId =>
    have : '|' ∉ (decimal organizationId).toList := not_mem_decimal rfl organizationId
    unfold keyText suffix
    simp_all

theorem MarkerValue.identity_toList (held : Identity) :
    (MarkerValue.identity held).render.toList =
      held.tenant.userKey.render.toList ++ '|' ::
        (held.tenant.organizationKey.render.toList ++ '|' :: (decimal held.amount).toList) := by
  simp [render]

theorem MarkerValue.render_injective {first second : MarkerValue} (same : first.render = second.render) :
    first = second := by
  have texts := congrArg String.toList same
  -- An identity has bars in its text, a numeral has none.
  have separate : ∀ held amount,
      (MarkerValue.identity held).render.toList ≠ (MarkerValue.settled amount).render.toList := by
    intro held amount equal
    have barred : '|' ∈ (MarkerValue.identity held).render.toList := by
      rw [identity_toList]
      simp
    rw [equal] at barred
    exact not_mem_decimal rfl amount barred
  cases first with
  | settled firstAmount =>
    cases second with
    | settled secondAmount => exact congrArg MarkerValue.settled (decimal_unique texts)
    | identity held => exact absurd texts.symm (separate held firstAmount)
  | identity firstHeld =>
    cases second with
    | settled secondAmount => exact absurd texts (separate firstHeld secondAmount)
    | identity secondHeld =>
      rw [identity_toList, identity_toList] at texts
      obtain ⟨users, rest⟩ := split_unique firstHeld.tenant.userKey.bar_not_mem
        secondHeld.tenant.userKey.bar_not_mem texts
      obtain ⟨_, amounts⟩ := split_unique firstHeld.tenant.organizationKey.bar_not_mem
        secondHeld.tenant.organizationKey.bar_not_mem rest
      have sameUser := CounterKey.render_injective (String.toList_injective users)
      obtain ⟨⟨firstOrganization, firstUser⟩, firstAmount⟩ := firstHeld
      obtain ⟨⟨secondOrganization, secondUser⟩, secondAmount⟩ := secondHeld
      simp only [Tenant.userKey, CounterKey.user.injEq] at sameUser
      obtain ⟨rfl, rfl⟩ := sameUser
      have sameAmount : firstAmount = secondAmount := decimal_unique amounts
      rw [sameAmount]

end Eiraos
