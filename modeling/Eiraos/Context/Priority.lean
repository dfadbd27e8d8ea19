import Eiraos.Context.Compaction

/-! # Raw turns with and without compaction

An emitted artifact has been paid for with raw messages: the run under the reduced budget is
only a beginning of the run that the whole budget allows.
-/

namespace Eiraos.Context

open Guarded PythonText BudgetPrefix

variable {sha256 : String → String} {policy : ContextPolicy} {historyNewestFirst : List HistoryItem}
  {currentPrompt : String} {systemPrompt : Option String} {plain compacted : ConstructedContext}

/-! ## When an artifact is emitted -/

theorem fittedPayload_isSome {payload : String} {payloadCapacity : Nat} :
    (fittedPayload payload payloadCapacity).isSome ↔
      min payload.length (truncationMarker.length + 1) ≤ payloadCapacity := by
  unfold fittedPayload
  split
  next fits =>
    simp only [Option.isSome_some, true_iff]
    omega
  next =>
    split
    next =>
      simp only [Option.isSome_none, Bool.false_eq_true, false_iff]
      omega
    next =>
      simp only [Option.isSome_some, true_iff]
      omega

/-- The characters of an artifact without its payload. -/
def envelopeLength (digest : String) : Nat :=
  (compactionPrefix ++ "source_sha256=" ++ digest ++ "\n").length + compactionSuffix.length

theorem envelopeLength_pos {digest : String} : 0 < envelopeLength digest := by
  simp only [envelopeLength, String.length_append]
  have : "source_sha256=".length = 14 := rfl
  omega

/-- The least artifact for the omitted messages has room in its share of the budget. -/
def ArtifactFits (sha256 : String → String) (policy : ContextPolicy) (eligible : List EligibleMessage)
    (historyBudget : Nat) : Prop :=
  let payload := join "\n" ((policy.omitted eligible historyBudget).map EligibleMessage.line)
  let newest := policy.run eligible (historyBudget - policy.compactionTokens)
  envelopeLength (sha256 payload) + min payload.length (truncationMarker.length + 1) ≤
    min policy.compactionTokens (historyBudget - total EligibleMessage.tokens newest) * policy.tokenRatio

theorem length_join_pos {separator first : String} {rest : List String} (positive : 0 < first.length) :
    0 < (join separator (first :: rest)).length := by
  rw [join, String.length_ofList, List.map_cons]
  rw [← String.length_toList] at positive
  cases rest with
  | nil => simpa [List.intercalate] using positive
  | cons second later =>
    simp [List.intercalate]
    omega

theorem line_pos {entry : EligibleMessage} : 0 < entry.line.length := by
  simp only [EligibleMessage.line, canonicalLine, String.length_append]
  have : "[".length = 1 := rfl
  omega

/-- The artifact is emitted for messages whose least payload has room. -/
theorem compact_isSome {history : List HistoryItem} {entries : List EligibleMessage}
    {tokenBudget charsPerToken : Nat} (present : entries ≠ [])
    (sources : history.filterMap compactionSource = entries.map fun entry => (entry.item.id, entry.line)) :
    (compact sha256 history tokenBudget charsPerToken).isSome ↔
      envelopeLength (sha256 (join "\n" (entries.map EligibleMessage.line))) +
        min (join "\n" (entries.map EligibleMessage.line)).length (truncationMarker.length + 1) ≤
          tokenBudget * charsPerToken := by
  have lines : (history.filterMap compactionSource).map (·.2) = entries.map EligibleMessage.line := by
    rw [sources, List.map_map]
    rfl
  have some_payload : 0 < (join "\n" (entries.map EligibleMessage.line)).length := by
    obtain ⟨first, rest, rfl⟩ := List.exists_cons_of_ne_nil present
    exact length_join_pos line_pos
  unfold compact
  dsimp only
  rw [lines]
  generalize join "\n" (entries.map EligibleMessage.line) = payload at some_payload ⊢
  have envelope : 0 < envelopeLength (sha256 payload) := envelopeLength_pos
  split
  next nothing =>
    have none : tokenBudget * charsPerToken = 0 := by
      rcases nothing with empty | zero | zero
      · rw [List.isEmpty_iff.mp empty] at sources
        exact absurd (List.map_eq_nil_iff.mp sources.symm) present
      · rw [zero, Nat.zero_mul]
      · rw [zero, Nat.mul_zero]
    simp only [Option.isSome_none, Bool.false_eq_true, false_iff]
    omega
  next =>
    have nonempty : (history.filterMap compactionSource).isEmpty = false := by
      rw [sources]
      simpa using present
    simp only [nonempty, Bool.false_eq_true, if_false]
    unfold envelopeLength at envelope ⊢
    split
    next full =>
      simp only [Option.isSome_none, Bool.false_eq_true, false_iff]
      omega
    next room =>
      rw [Option.isSome_map, fittedPayload_isSome]
      omega

theorem ContextPolicy.run_mono {eligible : List EligibleMessage} {smaller larger : Nat}
    (more : smaller ≤ larger) : policy.run eligible smaller <+: policy.run eligible larger :=
  take_mono more

theorem ContextPolicy.run_eq_iff {eligible : List EligibleMessage} {budget : Nat} :
    policy.run eligible budget = eligible ↔ eligible.length ≤ (policy.run eligible budget).length := by
  constructor
  · intro all
    rw [all]
  · intro long
    exact run_prefix.eq_of_length_le long

theorem not_artifactFits {eligible : List EligibleMessage} {historyBudget : Nat}
    (off : policy.compactionTokens = 0) : ¬ArtifactFits sha256 policy eligible historyBudget := by
  intro fits
  have envelope : 0 < envelopeLength (sha256 (join "\n"
      ((policy.omitted eligible historyBudget).map EligibleMessage.line))) := envelopeLength_pos
  simp only [ArtifactFits, off, Nat.zero_min, Nat.zero_mul] at fits
  omega

/-- An artifact is emitted exactly if the whole budget leaves something out and the artifact
fits. -/
theorem chooseHistory_isSome {historyBudget : Nat} :
    (policy.chooseHistory sha256 (policy.eligible historyNewestFirst) historyBudget).2.isSome ↔
      policy.run (policy.eligible historyNewestFirst) historyBudget ≠ policy.eligible historyNewestFirst ∧
        ArtifactFits sha256 policy (policy.eligible historyNewestFirst) historyBudget := by
  unfold ContextPolicy.chooseHistory
  simp only [ContextPolicy.select_eq, List.isEmpty_iff, List.drop_eq_nil_iff]
  split
  next off =>
    simp only [Option.isSome_none, Bool.false_eq_true, false_iff, not_and]
    intro left
    rw [← ContextPolicy.run_eq_iff] at off
    exact not_artifactFits (off.resolve_left left)
  next on =>
    have left : policy.run (policy.eligible historyNewestFirst) historyBudget ≠
        policy.eligible historyNewestFirst := fun all => on (.inl (ContextPolicy.run_eq_iff.mp all))
    -- what the whole budget leaves out, the reduced one does too
    have omitted : policy.omitted (policy.eligible historyNewestFirst) historyBudget ≠ [] := by
      intro nothing
      apply left
      rw [ContextPolicy.run_eq_iff]
      have reached := List.drop_eq_nil_iff.mp (List.reverse_eq_nil_iff.mp nothing)
      have shorter := show _ ≤ (policy.run (policy.eligible historyNewestFirst) historyBudget).length from
        (ContextPolicy.run_mono (Nat.sub_le historyBudget policy.compactionTokens)).length_le
      exact reached.trans shorter
    have emitted : (compact sha256 ((policy.omitted (policy.eligible historyNewestFirst)
        historyBudget).map EligibleMessage.item) _ policy.tokenRatio).isSome ↔
          ArtifactFits sha256 policy (policy.eligible historyNewestFirst) historyBudget :=
      compact_isSome omitted (sources_of_eligible fun entry mem => ContextPolicy.mem_of_mem_omitted mem)
    rw [← emitted]
    unfold ContextPolicy.omitted
    split
    next nothing =>
      rw [nothing]
      simp
    next artifact made =>
      rw [made]
      simp [left]

/-! ## Two policies -/

theorem postInit_withoutCompaction {arguments : PolicyArguments} (accepted : arguments.postInit = .ok ()) :
    PolicyArguments.postInit { arguments with maxCompactionTokens := 0 } = .ok () := by
  obtain ⟨_, positive, rest⟩ := bind_eq_ok.mp accepted
  obtain ⟨_, limits, rest⟩ := bind_eq_ok.mp rest
  have natural := ensure_eq_ok.mp limits
  have still : ¬min (min arguments.reservedOutputTokens arguments.maxHistoryTokens)
      (min arguments.maxHistoryMessages 0) < 0 := by
    omega
  apply bind_eq_ok.mpr
  refine ⟨(), positive, ?_⟩
  apply bind_eq_ok.mpr
  exact ⟨(), ensure_eq_ok.mpr still, rest⟩

/-- The same limits without compaction. -/
def ContextPolicy.withoutCompaction (policy : ContextPolicy) : ContextPolicy where
  toPolicyArguments := { policy.toPolicyArguments with maxCompactionTokens := 0 }
  accepted := postInit_withoutCompaction policy.accepted

/-- The raw history messages: what stands between the artifact, if any, and the prompt. -/
def ConstructedContext.rawMessages (context : ConstructedContext) : List ContextMessage :=
  (context.messages.drop (if context.compactionDigest.isSome then 1 else 0)).dropLast

theorem rawMessages_of_build {context : ConstructedContext}
    (built : policy.build sha256 historyNewestFirst currentPrompt systemPrompt = .ok context) :
    context.rawMessages = (policy.selectHistory sha256 (policy.eligible historyNewestFirst)
      (policy.historyBudget (strip currentPrompt) (normalizedContent systemPrompt))).raw.map
        EligibleMessage.message := by
  obtain ⟨_, result⟩ := build_eq_ok built
  subst result
  unfold ConstructedContext.rawMessages
  cases (policy.selectHistory sha256 (policy.eligible historyNewestFirst)
    (policy.historyBudget (strip currentPrompt) (normalizedContent systemPrompt))).artifact with
  | none => simp
  | some artifact => simp

/-- Compaction takes no raw message: it does not happen, or what the reduced budget leaves out of
the run are assistant turns that are trimmed in any case. -/
def KeepsRecentTurns (sha256 : String → String) (policy : ContextPolicy)
    (eligible : List EligibleMessage) (historyBudget : Nat) : Prop :=
  policy.run eligible historyBudget = eligible ∨ ¬ArtifactFits sha256 policy eligible historyBudget ∨
    ∀ entry ∈ (policy.run eligible historyBudget).drop
      (policy.run eligible (historyBudget - policy.compactionTokens)).length, entry.role = .assistant

/-- Without compaction the whole budget goes to the raw messages. -/
theorem raw_withoutCompaction {eligible : List EligibleMessage} {historyBudget : Nat} :
    (policy.withoutCompaction.selectHistory sha256 eligible historyBudget).raw =
      (policy.run eligible historyBudget).reverse.dropWhile isAssistant := by
  have selected := selectHistory_selected sha256 policy.withoutCompaction eligible historyBudget
  have off : (policy.withoutCompaction.selectHistory sha256 eligible historyBudget).artifact = none := by
    rw [selected.artifact]
    simp [ContextPolicy.chooseHistory, ContextPolicy.withoutCompaction, ContextPolicy.compactionTokens]
  have raw := selected.raw
  rw [off] at raw
  exact raw

theorem suffix_dropWhile_iff {newest older : List EligibleMessage} :
    (((newest ++ older).reverse.dropWhile isAssistant).map EligibleMessage.message).IsSuffix
        ((newest.reverse.dropWhile isAssistant).map EligibleMessage.message) ↔
      ∀ entry ∈ older, entry.role = .assistant := by
  rw [List.reverse_append, List.dropWhile_append]
  constructor
  · intro suffix
    by_contra user
    have kept : (older.reverse.dropWhile isAssistant).isEmpty = false := by
      rw [Bool.eq_false_iff]
      intro empty
      apply user
      intro entry mem
      have all := List.dropWhile_eq_nil_iff.mp (List.isEmpty_iff.mp empty) entry (List.mem_reverse.mpr mem)
      simpa [isAssistant] using all
    rw [if_neg (by simp [kept])] at suffix
    have shorter := suffix.length_le
    have bound := show (newest.reverse.dropWhile isAssistant).length ≤ newest.reverse.length from
      (List.dropWhile_sublist isAssistant).length_le
    have nonempty : 0 < (older.reverse.dropWhile isAssistant).length :=
      List.length_pos_iff.mpr fun nil => by simp [nil] at kept
    simp only [List.length_map, List.length_append, List.length_reverse] at shorter bound
    omega
  · intro assistants
    have gone : older.reverse.dropWhile isAssistant = [] := by
      apply List.dropWhile_eq_nil_iff.mpr
      intro entry mem
      simp [isAssistant, assistants entry (List.mem_reverse.mp mem)]
    rw [gone]
    exact List.suffix_refl _

theorem compaction_keeps_recent_turns_iff
    (builtPlain : policy.withoutCompaction.build sha256 historyNewestFirst currentPrompt systemPrompt =
      .ok plain)
    (built : policy.build sha256 historyNewestFirst currentPrompt systemPrompt = .ok compacted) :
    plain.rawMessages.IsSuffix compacted.rawMessages ↔
      KeepsRecentTurns sha256 policy (policy.eligible historyNewestFirst)
        (policy.historyBudget (strip currentPrompt) (normalizedContent systemPrompt)) := by
  rw [rawMessages_of_build builtPlain, rawMessages_of_build built]
  show ((policy.withoutCompaction.selectHistory sha256 (policy.eligible historyNewestFirst)
    (policy.historyBudget (strip currentPrompt) (normalizedContent systemPrompt))).raw.map _).IsSuffix _ ↔ _
  rw [raw_withoutCompaction]
  generalize policy.historyBudget (strip currentPrompt) (normalizedContent systemPrompt) = budget
  have selected := selectHistory_selected sha256 policy (policy.eligible historyNewestFirst) budget
  have emitted : (policy.chooseHistory sha256 (policy.eligible historyNewestFirst) budget).2.isSome ↔
      policy.run (policy.eligible historyNewestFirst) budget ≠ policy.eligible historyNewestFirst ∧
        ArtifactFits sha256 policy (policy.eligible historyNewestFirst) budget := chooseHistory_isSome
  rw [← selected.artifact] at emitted
  rw [selected.raw]
  cases made : (policy.selectHistory sha256 (policy.eligible historyNewestFirst) budget).artifact with
  | none =>
    rw [made, Option.isSome_none] at emitted
    constructor
    · intro _
      by_cases all : policy.run (policy.eligible historyNewestFirst) budget =
          policy.eligible historyNewestFirst
      · exact .inl all
      · exact .inr (.inl fun fits => Bool.false_ne_true (emitted.mpr ⟨all, fits⟩))
    · intro _
      exact List.suffix_refl _
  | some artifact =>
    rw [made, Option.isSome_some] at emitted
    obtain ⟨left, fits⟩ := emitted.mp rfl
    -- Beside an artifact the run is taken under a smaller budget and ends earlier.
    have more : policy.run (policy.eligible historyNewestFirst) (budget - policy.compactionTokens) <+:
        policy.run (policy.eligible historyNewestFirst) budget := ContextPolicy.run_mono (Nat.sub_le _ _)
    have split := List.prefix_iff_eq_append.mp more
    have raw : policy.rawBudget budget (some artifact).isSome = budget - policy.compactionTokens := rfl
    rw [raw]
    have turns := @suffix_dropWhile_iff
      (policy.run (policy.eligible historyNewestFirst) (budget - policy.compactionTokens))
      ((policy.run (policy.eligible historyNewestFirst) budget).drop
        (policy.run (policy.eligible historyNewestFirst) (budget - policy.compactionTokens)).length)
    rw [split] at turns
    rw [turns]
    constructor
    · intro assistants
      exact .inr (.inr assistants)
    · intro keeps
      rcases keeps with all | none | assistants
      · exact absurd all left
      · exact absurd fits none
      · exact assistants

theorem tide_keeps_recent_turns_iff : ∃ plain compacted,
    tidePolicy.withoutCompaction.build tideDigest tideHistory "And in May?" none = .ok plain ∧
    tidePolicy.build tideDigest tideHistory "And in May?" none = .ok compacted ∧
    (plain.rawMessages.IsSuffix compacted.rawMessages ↔
      KeepsRecentTurns tideDigest tidePolicy (tidePolicy.eligible tideHistory)
        (tidePolicy.historyBudget (strip "And in May?") (normalizedContent none))) := by
  have withoutIt : (tidePolicy.withoutCompaction.build tideDigest tideHistory
      "And in May?" none).toOption.map ConstructedContext.selectedHistoryIds = some [3] := by
    decide +kernel
  have withIt : (tidePolicy.build tideDigest tideHistory "And in May?" none).toOption.map
      ConstructedContext.selectedHistoryIds = some [3] := by
    decide +kernel
  obtain ⟨plain, builtPlain, _⟩ := Option.map_eq_some_iff.mp withoutIt
  obtain ⟨compacted, built, _⟩ := Option.map_eq_some_iff.mp withIt
  have plain' := toOption_eq_some.mp builtPlain
  have compacted' := toOption_eq_some.mp built
  exact ⟨plain, compacted, plain', compacted', compaction_keeps_recent_turns_iff plain' compacted'⟩

/-- Of a history budget of 84 tokens four are left for raw messages. -/
def tightPolicy : ContextPolicy := { tidePolicy with
  maxHistoryTokens := 84
  maxHistoryMessages := 2
  accepted := by decide }

def eveningHistory : List HistoryItem := [
  ⟨some 3, some "user", some "And tomorrow?", some "completed"⟩,
  ⟨some 2, some "user", some "And tonight, at low tide?", some "completed"⟩,
  ⟨some 1, some "user", some "When is low tide?", some "completed"⟩]

def eveningDigest (payload : String) : String :=
  if payload = "[user] When is low tide?\n[user] And tonight, at low tide?" then
    "a150091054184faa5f63ff2d4e1e9a8cbe94be4b498c5f032e264c386024a123"
  else ""

theorem compaction_takes_recent_turn : ∃ (policy : ContextPolicy) (sha256 : String → String)
    (historyNewestFirst : List HistoryItem) (plain compacted : ConstructedContext),
    policy.withoutCompaction.build sha256 historyNewestFirst "And in May?" none = .ok plain ∧
    policy.build sha256 historyNewestFirst "And in May?" none = .ok compacted ∧
    ¬plain.rawMessages.IsSuffix compacted.rawMessages := by
  have two : (tightPolicy.withoutCompaction.build eveningDigest eveningHistory
      "And in May?" none).toOption.map (fun context => context.rawMessages.length) = some 2 := by
    decide +kernel
  have one : (tightPolicy.build eveningDigest eveningHistory "And in May?" none).toOption.map
      (fun context => context.rawMessages.length) = some 1 := by
    decide +kernel
  obtain ⟨plain, builtPlain, longer⟩ := Option.map_eq_some_iff.mp two
  obtain ⟨compacted, built, shorter⟩ := Option.map_eq_some_iff.mp one
  refine ⟨tightPolicy, eveningDigest, eveningHistory, plain, compacted, toOption_eq_some.mp builtPlain,
    toOption_eq_some.mp built, ?_⟩
  intro suffix
  have := suffix.length_le
  omega

end Eiraos.Context
