import Eiraos.Foundations.DelimitedText
import Mathlib.Data.Set.Function

/-! # The id of an execution (`chat_persistence.py`)

`execution_identity` digests a text made of the organization, the user, the key and the
record.  The texts of two records differ, so a digest without collisions tells them apart.
-/

namespace Eiraos

open DelimitedText

/-- `idempotency_record_id or ''`. -/
def recordText (recordId : Nat) : String := if recordId = 0 then "" else decimal recordId

/-- The text for a request with a key; `identity` is its organization, user and key. -/
def identityMaterial (identity : Nat × Nat × String) (recordId : Nat) : String :=
  decimal identity.1 ++ ":" ++ decimal identity.2.1 ++ ":" ++ identity.2.2 ++ ":" ++ recordText recordId

def executionIdentity (digest : String → String) (identity : Nat × Nat × String) (recordId : Nat) :
    String :=
  digest (identityMaterial identity recordId)

theorem colon_not_mem_recordText (recordId : Nat) : ':' ∉ (recordText recordId).toList := by
  unfold recordText
  split
  · simp
  · exact not_mem_decimal rfl recordId

theorem recordText_unique {first second : Nat}
    (same : (recordText first).toList = (recordText second).toList) : first = second := by
  unfold recordText at same
  split at same
  next isFirst =>
    split at same
    next isSecond => omega
    next =>
      have empty : (decimal second).toList = [] := by simpa using same.symm
      exact absurd empty (decimal_ne_nil second)
  next =>
    split at same
    next =>
      have empty : (decimal first).toList = [] := by simpa using same
      exact absurd empty (decimal_ne_nil first)
    next => exact decimal_unique same

theorem identityMaterial_toList (identity : Nat × Nat × String) (recordId : Nat) :
    (identityMaterial identity recordId).toList =
      (decimal identity.1).toList ++ ':' :: ((decimal identity.2.1).toList ++
        ':' :: (identity.2.2.toList ++ ':' :: (recordText recordId).toList)) := by
  unfold identityMaterial
  simp

/-- A key may hold colons, so the text is read from both ends. -/
theorem identityMaterial_injective : Function.Injective2 identityMaterial := by
  rintro ⟨firstOrganization, firstUser, firstKey⟩ ⟨secondOrganization, secondUser, secondKey⟩
    firstRecord secondRecord same
  have texts := congrArg String.toList same
  rw [identityMaterial_toList, identityMaterial_toList] at texts
  obtain ⟨organizations, rest⟩ := split_unique (not_mem_decimal rfl firstOrganization)
    (not_mem_decimal rfl secondOrganization) texts
  obtain ⟨users, rest⟩ := split_unique (not_mem_decimal rfl firstUser) (not_mem_decimal rfl secondUser) rest
  obtain ⟨keys, records⟩ := split_unique_last (colon_not_mem_recordText firstRecord)
    (colon_not_mem_recordText secondRecord) rest
  have sameKey : firstKey = secondKey := String.toList_injective keys
  rw [decimal_unique organizations, decimal_unique users, sameKey]
  exact ⟨rfl, recordText_unique records⟩

theorem executionIdentity_injective {digest : String → String} (collisionFree : Function.Injective digest) :
    Function.Injective2 (executionIdentity digest) :=
  fun _ _ _ _ same => identityMaterial_injective (collisionFree same)

end Eiraos
