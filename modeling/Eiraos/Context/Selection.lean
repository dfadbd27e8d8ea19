import Eiraos.Context.Construction
import Eiraos.Foundations.BudgetPrefix

/-! # The selected history

The selection is the longest prefix of the eligible messages, newest first, within a budget
and a number; the trimming drops what an assistant says before the first user turn.
-/

namespace Eiraos.Context

open Guarded PythonText BudgetPrefix

/-! ## Loops -/

theorem selectFrom_eq {budget used : Nat} (within : used ≤ budget) (entries : List EligibleMessage) :
    selectFrom budget used entries =
      (take EligibleMessage.tokens (budget - used) entries,
        used + total EligibleMessage.tokens (take EligibleMessage.tokens (budget - used) entries)) := by
  induction entries generalizing used with
  | nil => simp [selectFrom, take]
  | cons entry rest inductionHypothesis =>
    unfold selectFrom take
    by_cases fits : used + entry.tokens ≤ budget
    · rw [if_neg (Nat.not_lt.mpr fits), inductionHypothesis fits, if_pos (by omega)]
      simp only [total_cons, Nat.sub_add_eq, Nat.add_assoc]
    · rw [if_pos (by omega), if_neg (by omega)]
      rfl

def isAssistant (entry : EligibleMessage) : Bool := entry.role = .assistant

theorem trimLeading_eq (entries : List EligibleMessage) (extra : Nat) :
    trimLeading entries (total EligibleMessage.tokens entries + extra) =
      (entries.dropWhile isAssistant,
        total EligibleMessage.tokens (entries.dropWhile isAssistant) + extra) := by
  induction entries with
  | nil => simp [trimLeading]
  | cons entry rest inductionHypothesis =>
    unfold trimLeading
    by_cases assistant : entry.role = .assistant
    · have rest' : total EligibleMessage.tokens (entry :: rest) + extra - entry.tokens =
          total EligibleMessage.tokens rest + extra := by
        rw [total_cons]
        omega
      rw [if_pos assistant, rest', inductionHypothesis]
      simp [isAssistant, assistant]
    · simp [isAssistant, assistant]

namespace ContextPolicy

variable (policy : ContextPolicy)

/-- The longest run that `_select` finds, newest first. -/
def run (eligible : List EligibleMessage) (budget : Nat) : List EligibleMessage :=
  take EligibleMessage.tokens budget (eligible.take policy.historyMessages)

variable {policy} {eligible : List EligibleMessage} {budget : Nat}

theorem select_eq : policy.select eligible budget =
    (policy.run eligible budget, total EligibleMessage.tokens (policy.run eligible budget)) := by
  unfold select run
  rw [selectFrom_eq (Nat.zero_le budget)]
  simp

theorem run_prefix : policy.run eligible budget <+: eligible :=
  take_prefix.trans (List.take_prefix _ _)

theorem run_length_le : (policy.run eligible budget).length ≤ policy.historyMessages :=
  take_prefix.length_le.trans (List.length_take_le _ _)

theorem total_run_le : total EligibleMessage.tokens (policy.run eligible budget) ≤ budget :=
  total_take_le

/-- The message before the run is one too many, or does not fit. -/
theorem run_maximal {next : EligibleMessage} {rest : List EligibleMessage}
    (split : eligible = policy.run eligible budget ++ next :: rest) :
    (policy.run eligible budget).length = policy.historyMessages ∨
      budget < total EligibleMessage.tokens (policy.run eligible budget) + next.tokens := by
  have bound : (policy.run eligible budget).length ≤ policy.historyMessages := run_length_le
  generalize found : policy.run eligible budget = run at split bound ⊢
  by_cases full : run.length = policy.historyMessages
  · exact .inl full
  · right
    -- the next message is still among the first `max_history_messages`
    obtain ⟨more, enough⟩ : ∃ more, policy.historyMessages = run.length + (more + 1) :=
      ⟨policy.historyMessages - run.length - 1, by omega⟩
    have window : eligible.take policy.historyMessages = run ++ next :: rest.take more := by
      rw [split, enough, List.take_length_add_append]
      rfl
    have taken : take EligibleMessage.tokens budget (eligible.take policy.historyMessages) = run := found
    have short := budget_lt_of_next (taken.symm ▸ window)
    rwa [taken] at short

end ContextPolicy

/-! ## The artifact -/

theorem fittedPayload_length_le {payload kept : String} {payloadCapacity : Nat}
    (fitted : fittedPayload payload payloadCapacity = some kept) : kept.length ≤ payloadCapacity := by
  unfold fittedPayload at fitted
  split at fitted
  next fits =>
    cases fitted
    exact fits
  next =>
    split at fitted
    next => cases fitted
    next room =>
      rw [← Option.some.inj fitted, String.length_append]
      have shorter : (rstrip (String.ofList (payload.toList.take
          (payloadCapacity - truncationMarker.length)))).length ≤
            payloadCapacity - truncationMarker.length := by
        unfold rstrip
        rw [String.length_ofList, String.toList_ofList]
        exact (List.rdropWhile_prefix _ _).length_le.trans (List.length_take_le _ _)
      omega

theorem roundedUp_le {characters ratio bound : Nat} (positive : ratio ≠ 0)
    (fits : characters ≤ bound * ratio) : (characters + ratio - 1) / ratio ≤ bound := by
  apply Nat.le_of_lt_succ
  apply Nat.div_lt_of_lt_mul
  rw [Nat.mul_succ, Nat.mul_comm ratio bound]
  omega

/-- The text of an extract in so much room: the digest of the payload, and the payload or as much of it
as fits between the header and the closing line. -/
def ExtractText (sha256 : String → String) (payload : String) (room : Nat) (text : String) : Prop :=
  let header := compactionPrefix ++ "source_sha256=" ++ sha256 payload ++ "\n"
  ∃ kept, fittedPayload payload (room - header.length - compactionSuffix.length) = some kept ∧
    text = header ++ kept ++ compactionSuffix

/-- What a successful compaction has done. -/
structure Compacted (sha256 : String → String) (history : List HistoryItem)
    (tokenBudget charsPerToken : Nat) (artifact : CompactionArtifact) : Prop where
  present : history ≠ []
  content : ExtractText sha256 (join "\n" ((history.filterMap compactionSource).map (·.2)))
    (tokenBudget * charsPerToken) artifact.content
  sources : artifact.sourceIds = (history.filterMap compactionSource).filterMap (·.1)
  tokens : artifact.estimatedTokens = (artifact.content.length + charsPerToken - 1) / charsPerToken
  bounded : artifact.estimatedTokens ≤ tokenBudget

theorem compact_eq_some {sha256 : String → String} {history : List HistoryItem}
    {tokenBudget charsPerToken : Nat} {artifact : CompactionArtifact}
    (compacted : compact sha256 history tokenBudget charsPerToken = some artifact) :
    Compacted sha256 history tokenBudget charsPerToken artifact := by
  unfold compact at compacted
  split at compacted
  next => cases compacted
  next nonempty =>
    dsimp only at compacted
    split at compacted
    next => cases compacted
    next =>
      split at compacted
      next => cases compacted
      next room =>
        obtain ⟨kept, fitted, rfl⟩ := Option.map_eq_some_iff.mp compacted
        refine ⟨fun empty => nonempty (.inl (by rw [empty]; rfl)), ⟨kept, fitted, rfl⟩, rfl, rfl, ?_⟩
        have fits := fittedPayload_length_le fitted
        have positive : charsPerToken ≠ 0 := fun zero => nonempty (.inr (.inr zero))
        apply roundedUp_le positive
        simp only [String.length_append] at fits room ⊢
        omega

/-! ## The chosen history -/

/-- Either nothing is compacted and the whole budget goes to raw messages, or the artifact has
its share. -/
inductive Chosen (sha256 : String → String) (policy : ContextPolicy) (eligible : List EligibleMessage)
    (historyBudget : Nat) : (List EligibleMessage × Nat) × Option CompactionArtifact → Prop
  | whole : Chosen sha256 policy eligible historyBudget (policy.select eligible historyBudget, none)
  | compacted (artifact : CompactionArtifact)
      (omitted : policy.run eligible historyBudget ≠ eligible)
      (artifactOf : compact sha256
        ((eligible.drop (policy.run eligible (historyBudget - policy.compactionTokens)).length).reverse.map
          EligibleMessage.item)
        (min policy.compactionTokens (historyBudget - total EligibleMessage.tokens
          (policy.run eligible (historyBudget - policy.compactionTokens)))) policy.tokenRatio = some artifact) :
      Chosen sha256 policy eligible historyBudget
        (policy.select eligible (historyBudget - policy.compactionTokens), some artifact)

theorem chooseHistory_chosen (sha256 : String → String) (policy : ContextPolicy)
    (eligible : List EligibleMessage) (historyBudget : Nat) :
    Chosen sha256 policy eligible historyBudget
      (policy.chooseHistory sha256 eligible historyBudget) := by
  unfold ContextPolicy.chooseHistory
  dsimp only
  split
  next => exact .whole
  next left =>
    split
    next => exact .whole
    next artifact compacted =>
      rw [ContextPolicy.select_eq] at compacted
      apply Chosen.compacted artifact _ compacted
      intro all
      apply left
      left
      rw [ContextPolicy.select_eq, all]
      simp

/-- The budget that the raw messages had. -/
def ContextPolicy.rawBudget (policy : ContextPolicy) (historyBudget : Nat)
    (compacted : Bool) : Nat :=
  if compacted then historyBudget - policy.compactionTokens else historyBudget

/-- The selection of the builder: a run for the budget in force, trimmed from its old end. -/
structure Selected (sha256 : String → String) (policy : ContextPolicy) (eligible : List EligibleMessage)
    (historyBudget : Nat) (history : HistorySelection) : Prop where
  raw : history.raw = (policy.run eligible
    (policy.rawBudget historyBudget history.artifact.isSome)).reverse.dropWhile isAssistant
  used : history.used = total EligibleMessage.tokens history.raw
  artifact : history.artifact = (policy.chooseHistory sha256 eligible historyBudget).2

theorem selectHistory_selected (sha256 : String → String) (policy : ContextPolicy)
    (eligible : List EligibleMessage) (historyBudget : Nat) :
    Selected sha256 policy eligible historyBudget
      (policy.selectHistory sha256 eligible historyBudget) := by
  have trimmed : ∀ budget, trimLeading (policy.run eligible budget).reverse
      (total EligibleMessage.tokens (policy.run eligible budget)) =
        ((policy.run eligible budget).reverse.dropWhile isAssistant,
          total EligibleMessage.tokens ((policy.run eligible budget).reverse.dropWhile isAssistant)) := by
    intro budget
    have := trimLeading_eq (policy.run eligible budget).reverse 0
    rwa [total_reverse] at this
  have chosen := chooseHistory_chosen sha256 policy eligible historyBudget
  unfold ContextPolicy.selectHistory
  dsimp only
  generalize same : policy.chooseHistory sha256 eligible historyBudget = choice at chosen
  cases chosen with
  | whole =>
    rw [ContextPolicy.select_eq, trimmed]
    exact ⟨rfl, rfl, by rw [same]⟩
  | compacted artifact =>
    rw [ContextPolicy.select_eq, trimmed]
    exact ⟨rfl, rfl, by rw [same]⟩

end Eiraos.Context
