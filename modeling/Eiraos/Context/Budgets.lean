import Eiraos.Context.Selection

/-! # The budgets of a constructed context

What `build` returns is put together from the artifact, the raw messages and the prompt, and
each part keeps to its budget.
-/

namespace Eiraos.Context

open Guarded PythonText BudgetPrefix

/-- The pieces of the history, in chronological order: the text of the artifact, the raw
messages, the assistant turns trimmed before them, and the eligible messages before those. -/
structure ContextParts where
  artifact : Option String
  raw : List EligibleMessage
  trimmed : List EligibleMessage
  older : List EligibleMessage
  deriving DecidableEq, Repr

structure RespectsBudgets (policy : ContextPolicy) (historyNewestFirst : List HistoryItem)
    (currentPrompt : String) (systemPrompt : Option String) (context : ConstructedContext)
    (parts : ContextParts) : Prop where
  /-- The artifact comes first and the prompt last. -/
  messages : context.messages =
    (parts.artifact.toList.map fun content => ⟨.user, content⟩) ++
      parts.raw.map EligibleMessage.message ++ [⟨.user, strip currentPrompt⟩]
  system : context.systemPrompt = normalizedContent systemPrompt
  inputBudget : context.inputBudgetTokens = policy.inputBudget
  estimated : context.estimatedInputTokens =
    (context.messages.map fun message => policy.tokens message.content.length).sum +
      policy.tokens (context.systemPrompt.getD "").length
  withinInput : context.estimatedInputTokens ≤ context.inputBudgetTokens
  withinHistory : context.historyTokens ≤ min policy.historyTokens
    (policy.inputBudget - policy.mandatoryTokens (strip currentPrompt) context.systemPrompt)
  /-- The raw messages are whole contents. -/
  contents : ∀ entry ∈ parts.raw, entry.item ∈ historyNewestFirst ∧
    entry.item.content.map strip = some entry.content
  /-- They run up to the newest eligible message. -/
  run : (policy.eligible historyNewestFirst).reverse = parts.older ++ parts.trimmed ++ parts.raw
  number : (parts.trimmed ++ parts.raw).length ≤ policy.historyMessages
  /-- With the trimmed turns the run fits the raw budget in force: an artifact takes its share
  of the history budget first. -/
  fits : total EligibleMessage.tokens (parts.trimmed ++ parts.raw) ≤
    policy.rawBudget (policy.historyBudget (strip currentPrompt) context.systemPrompt)
      parts.artifact.isSome
  starts : ∀ first ∈ parts.raw.head?, first.role = .user
  orphans : ∀ entry ∈ parts.trimmed, entry.role = .assistant
  /-- And it was as long as that budget allows. -/
  maximal : ∀ next ∈ parts.older.getLast?,
    (parts.trimmed ++ parts.raw).length = policy.historyMessages ∨
      policy.rawBudget (policy.historyBudget (strip currentPrompt) context.systemPrompt)
          parts.artifact.isSome <
        total EligibleMessage.tokens (parts.trimmed ++ parts.raw) + next.tokens
  artifact : ∀ content ∈ parts.artifact, policy.tokens content.length ≤ policy.compactionTokens

structure ReadFrom (policy : ContextPolicy) (item : HistoryItem) (entry : EligibleMessage) : Prop where
  source : entry.item = item
  role : item.role.bind MessageRole.parse? = some entry.role
  content : normalizedContent item.content = some entry.content
  tokens : entry.tokens = policy.tokens entry.content.length

theorem ContextPolicy.entryOf_eq_some {policy : ContextPolicy} {item : HistoryItem}
    {entry : EligibleMessage} (taken : policy.entryOf item = some entry) : ReadFrom policy item entry := by
  unfold entryOf at taken
  split at taken
  next =>
    obtain ⟨role, parsed, rest⟩ := Option.bind_eq_some_iff.mp taken
    obtain ⟨content, normalized, made⟩ := Option.bind_eq_some_iff.mp rest
    cases made
    exact ⟨rfl, parsed, normalized, rfl⟩
  next => cases taken

theorem ContextPolicy.mem_eligible {policy : ContextPolicy} {historyNewestFirst : List HistoryItem}
    {entry : EligibleMessage} (mem : entry ∈ policy.eligible historyNewestFirst) :
    entry.item ∈ historyNewestFirst ∧ ReadFrom policy entry.item entry := by
  obtain ⟨item, present, taken⟩ := List.mem_filterMap.mp mem
  have read := entryOf_eq_some taken
  rw [read.source]
  exact ⟨List.mem_of_mem_take present, read⟩

/-- The content of an entry is the stripped content of its item. -/
theorem ReadFrom.stripped {policy : ContextPolicy} {item : HistoryItem} {entry : EligibleMessage}
    (read : ReadFrom policy item entry) : item.content.map strip = some entry.content := by
  obtain ⟨text, written, kept⟩ := Option.bind_eq_some_iff.mp read.content
  rw [written, Option.map_some]
  split at kept
  next => cases kept
  next => exact kept

theorem normalizedContent_some {text content : String}
    (normalized : normalizedContent (some text) = some content) : content = strip text := by
  rw [normalizedContent, Option.bind_some] at normalized
  split at normalized
  next => cases normalized
  next => exact (Option.some.inj normalized).symm

variable {sha256 : String → String} {policy : ContextPolicy} {historyNewestFirst : List HistoryItem}
  {currentPrompt : String} {systemPrompt : Option String} {context : ConstructedContext}

/-- A context of a build is put together from its selection. -/
theorem build_eq_ok (built : policy.build sha256 historyNewestFirst currentPrompt systemPrompt = .ok context) :
    let system := normalizedContent systemPrompt
    let history := policy.selectHistory sha256 (policy.eligible historyNewestFirst)
      (policy.historyBudget (strip currentPrompt) system)
    let compactionTokens := (history.artifact.map CompactionArtifact.estimatedTokens).getD 0
    policy.mandatoryTokens (strip currentPrompt) system ≤ policy.inputBudget ∧
    context = {
      messages := (history.artifact.toList.map fun artifact => ⟨.user, artifact.content⟩) ++
        history.raw.map EligibleMessage.message ++ [⟨.user, strip currentPrompt⟩]
      systemPrompt := system
      estimatedInputTokens :=
        policy.mandatoryTokens (strip currentPrompt) system + history.used + compactionTokens
      historyTokens := history.used + compactionTokens
      inputBudgetTokens := policy.inputBudget
      selectedHistoryIds := history.raw.filterMap fun entry => entry.item.id
      truncatedHistoryCount := (policy.eligible historyNewestFirst).length - history.raw.length
      compactionSourceIds := (history.artifact.map CompactionArtifact.sourceIds).getD []
      compactionDigest := history.artifact.map CompactionArtifact.sourceDigest } := by
  obtain ⟨prompt, normalized, rest⟩ := bind_eq_ok.mp built
  have same := normalizedContent_some (required_eq_ok.mp normalized)
  subst same
  obtain ⟨_, fits, rest⟩ := bind_eq_ok.mp rest
  exact ⟨ensure_eq_ok.mp fits, (pure_eq_ok.mp rest).symm⟩

/-! ## The selection in its pieces -/

/-- The run of the budget in force. -/
def ContextPolicy.chosenRun (policy : ContextPolicy) (eligible : List EligibleMessage)
    (historyBudget : Nat) (history : HistorySelection) : List EligibleMessage :=
  policy.run eligible (policy.rawBudget historyBudget history.artifact.isSome)

def ContextPolicy.parts (policy : ContextPolicy) (eligible : List EligibleMessage) (historyBudget : Nat)
    (history : HistorySelection) : ContextParts where
  artifact := history.artifact.map CompactionArtifact.content
  raw := history.raw
  trimmed := (policy.chosenRun eligible historyBudget history).reverse.takeWhile isAssistant
  older := (eligible.drop (policy.chosenRun eligible historyBudget history).length).reverse

namespace Selected

variable {eligible : List EligibleMessage} {historyBudget : Nat} {history : HistorySelection}

theorem window (selected : Selected sha256 policy eligible historyBudget history) :
    (policy.parts eligible historyBudget history).trimmed ++ history.raw =
      (policy.chosenRun eligible historyBudget history).reverse := by
  rw [selected.raw]
  exact List.takeWhile_append_dropWhile

theorem run (selected : Selected sha256 policy eligible historyBudget history) :
    eligible.reverse = (policy.parts eligible historyBudget history).older ++
      (policy.parts eligible historyBudget history).trimmed ++ history.raw := by
  rw [List.append_assoc, selected.window]
  have split : policy.chosenRun eligible historyBudget history ++
      eligible.drop (policy.chosenRun eligible historyBudget history).length = eligible :=
    List.prefix_iff_eq_append.mp ContextPolicy.run_prefix
  calc eligible.reverse
      = (policy.chosenRun eligible historyBudget history ++
          eligible.drop (policy.chosenRun eligible historyBudget history).length).reverse := by rw [split]
    _ = _ := List.reverse_append

/-- The artifact is made of the messages before the run. -/
theorem compacted (selected : Selected sha256 policy eligible historyBudget history)
    {artifact : CompactionArtifact} (emitted : history.artifact = some artifact) :
    Compacted sha256 ((policy.parts eligible historyBudget history).older.map EligibleMessage.item)
      (min policy.compactionTokens (historyBudget -
        total EligibleMessage.tokens (policy.chosenRun eligible historyBudget history)))
      policy.tokenRatio artifact := by
  have chosen := chooseHistory_chosen sha256 policy eligible historyBudget
  generalize same : policy.chooseHistory sha256 eligible historyBudget = choice at chosen
  have there : choice.2 = some artifact := by rw [← same, ← selected.artifact, emitted]
  cases chosen with
  | whole => cases there
  | compacted other omitted artifactOf =>
    cases there
    simp only [ContextPolicy.parts, ContextPolicy.chosenRun, ContextPolicy.rawBudget, emitted,
      Option.isSome_some, if_true]
    exact compact_eq_some artifactOf

/-- The raw messages leave the artifact all the room there is for it. -/
theorem artifact_budget (selected : Selected sha256 policy eligible historyBudget history)
    {artifact : CompactionArtifact} (emitted : history.artifact = some artifact) :
    Compacted sha256 ((policy.parts eligible historyBudget history).older.map EligibleMessage.item)
      (min policy.compactionTokens historyBudget) policy.tokenRatio artifact := by
  have compacted := selected.compacted emitted
  have share : total EligibleMessage.tokens (policy.chosenRun eligible historyBudget history) ≤
      historyBudget - policy.compactionTokens := by
    rw [ContextPolicy.chosenRun, ContextPolicy.rawBudget, emitted]
    exact ContextPolicy.total_run_le
  have whole : min policy.compactionTokens (historyBudget -
      total EligibleMessage.tokens (policy.chosenRun eligible historyBudget history)) =
        min policy.compactionTokens historyBudget := by omega
  rwa [whole] at compacted

/-- The artifact has its own tokens, and room for them beside the raw messages. -/
theorem artifact_tokens (selected : Selected sha256 policy eligible historyBudget history)
    {artifact : CompactionArtifact} (emitted : history.artifact = some artifact) :
    artifact.estimatedTokens = policy.tokens artifact.content.length ∧
      artifact.estimatedTokens ≤ policy.compactionTokens ∧
      artifact.estimatedTokens + total EligibleMessage.tokens
        (policy.chosenRun eligible historyBudget history) ≤ historyBudget := by
  have compacted := selected.compacted emitted
  have within : total EligibleMessage.tokens (policy.chosenRun eligible historyBudget history) ≤ historyBudget := by
    rw [ContextPolicy.chosenRun, ContextPolicy.rawBudget, emitted]
    exact Nat.le_trans ContextPolicy.total_run_le (Nat.sub_le _ _)
  have bounded := compacted.bounded
  refine ⟨compacted.tokens, Nat.le_trans bounded (Nat.min_le_left _ _), ?_⟩
  omega

theorem used_le (selected : Selected sha256 policy eligible historyBudget history) :
    history.used ≤ total EligibleMessage.tokens (policy.chosenRun eligible historyBudget history) := by
  have sum := congrArg (total EligibleMessage.tokens) selected.window
  rw [total_append, total_reverse, ← selected.used] at sum
  omega

/-- All of the history together. -/
theorem within (selected : Selected sha256 policy eligible historyBudget history) :
    history.used + (history.artifact.map CompactionArtifact.estimatedTokens).getD 0 ≤ historyBudget := by
  have used := selected.used_le
  cases emitted : history.artifact with
  | none =>
    have fits : total EligibleMessage.tokens (policy.chosenRun eligible historyBudget history) ≤
        historyBudget := by
      rw [ContextPolicy.chosenRun, emitted]
      exact ContextPolicy.total_run_le
    simpa using Nat.le_trans used fits
  | some artifact =>
    have := (selected.artifact_tokens emitted).2.2
    simp only [Option.map_some, Option.getD_some]
    omega

theorem fits (selected : Selected sha256 policy eligible historyBudget history) :
    total EligibleMessage.tokens
        ((policy.parts eligible historyBudget history).trimmed ++ history.raw) ≤
      policy.rawBudget historyBudget history.artifact.isSome := by
  rw [selected.window, total_reverse]
  exact ContextPolicy.total_run_le

theorem maximal (selected : Selected sha256 policy eligible historyBudget history)
    {next : EligibleMessage}
    (before : next ∈ (policy.parts eligible historyBudget history).older.getLast?) :
    ((policy.parts eligible historyBudget history).trimmed ++ history.raw).length =
        policy.historyMessages ∨
      policy.rawBudget historyBudget history.artifact.isSome <
        total EligibleMessage.tokens
          ((policy.parts eligible historyBudget history).trimmed ++ history.raw) + next.tokens := by
  rw [selected.window, List.length_reverse, total_reverse]
  obtain ⟨rest, left⟩ : ∃ rest,
      eligible.drop (policy.chosenRun eligible historyBudget history).length = next :: rest := by
    apply List.head?_eq_some_iff.mp
    simpa [ContextPolicy.parts] using before
  apply ContextPolicy.run_maximal
  rw [← left]
  exact (List.prefix_iff_eq_append.mp ContextPolicy.run_prefix).symm

/-- A raw message is one of the eligible ones. -/
theorem mem_eligible (selected : Selected sha256 policy eligible historyBudget history)
    {entry : EligibleMessage} (mem : entry ∈ history.raw) : entry ∈ eligible := by
  rw [selected.raw] at mem
  have inRun := List.mem_reverse.mp ((List.dropWhile_sublist isAssistant).subset mem)
  exact ContextPolicy.run_prefix.subset inRun

theorem starts (selected : Selected sha256 policy eligible historyBudget history)
    {first : EligibleMessage} (head : first ∈ history.raw.head?) : first.role = .user := by
  rw [selected.raw] at head
  have kept := List.head?_dropWhile_not isAssistant
    (policy.run eligible (policy.rawBudget historyBudget history.artifact.isSome)).reverse
  rw [Option.mem_def.mp head] at kept
  cases role : first.role with
  | user => rfl
  | assistant => simp [isAssistant, role] at kept

end Selected

/-! ## The whole context -/

/-- The tokens of the messages are those of the parts. -/
theorem total_messages {entries : List EligibleMessage}
    (counted : ∀ entry ∈ entries, entry.tokens = policy.tokens entry.content.length) :
    ((entries.map EligibleMessage.message).map fun message =>
      policy.tokens message.content.length).sum = total EligibleMessage.tokens entries := by
  rw [total, List.map_map]
  apply congrArg List.sum
  apply List.map_congr_left
  intro entry mem
  exact (counted entry mem).symm

theorem build_respects_budgets
    (built : policy.build sha256 historyNewestFirst currentPrompt systemPrompt = .ok context) :
    ∃ parts, RespectsBudgets policy historyNewestFirst currentPrompt systemPrompt context parts := by
  obtain ⟨fits, result⟩ := build_eq_ok built
  have selected := selectHistory_selected sha256 policy (policy.eligible historyNewestFirst)
    (policy.historyBudget (strip currentPrompt) (normalizedContent systemPrompt))
  generalize policy.selectHistory sha256 (policy.eligible historyNewestFirst)
    (policy.historyBudget (strip currentPrompt) (normalizedContent systemPrompt)) = history at result selected
  have counted : ∀ entry ∈ history.raw, entry.tokens = policy.tokens entry.content.length :=
    fun entry mem => (ContextPolicy.mem_eligible (selected.mem_eligible mem)).2.tokens
  have within := selected.within
  refine ⟨policy.parts (policy.eligible historyNewestFirst)
    (policy.historyBudget (strip currentPrompt) (normalizedContent systemPrompt)) history, ?_⟩
  subst result
  constructor
  case messages => simp [ContextPolicy.parts, Option.toList_map]
  case system => rfl
  case inputBudget => rfl
  case estimated =>
    have raw := total_messages counted
    -- An artifact is one more message, and its tokens are among those the history has used.
    cases emitted : history.artifact with
    | none =>
      simp only [Option.toList_none, Option.map_none, Option.getD_none, List.map_nil, List.nil_append,
        List.map_append, List.sum_append, List.map_cons, List.sum_cons, List.sum_nil, raw,
        selected.used, ContextPolicy.mandatoryTokens]
      omega
    | some artifact =>
      have own := (selected.artifact_tokens emitted).1
      simp only [Option.toList_some, Option.map_some, Option.getD_some, List.map_nil, List.map_append,
        List.sum_append, List.map_cons, List.sum_cons, List.sum_nil, raw, own, selected.used,
        ContextPolicy.mandatoryTokens]
      omega
  case withinInput =>
    -- The history is given at most what the mandatory messages leave of the input.
    have share : policy.historyBudget (strip currentPrompt) (normalizedContent systemPrompt) ≤
        policy.inputBudget -
          policy.mandatoryTokens (strip currentPrompt) (normalizedContent systemPrompt) :=
      Nat.min_le_right _ _
    show _ + history.used + _ ≤ policy.inputBudget
    omega
  case withinHistory => exact within
  case contents =>
    intro entry mem
    have known := ContextPolicy.mem_eligible (selected.mem_eligible mem)
    exact ⟨known.1, known.2.stripped⟩
  case run => exact selected.run
  case number =>
    rw [show (policy.parts _ _ history).raw = history.raw from rfl, selected.window,
      List.length_reverse]
    exact ContextPolicy.run_length_le
  case fits =>
    rw [show (policy.parts _ _ history).artifact.isSome = history.artifact.isSome from
      Option.isSome_map]
    exact selected.fits
  case starts => exact fun first head => selected.starts head
  case orphans =>
    intro entry mem
    simpa [isAssistant] using List.mem_takeWhile_imp mem
  case maximal =>
    intro next before
    rw [show (policy.parts _ _ history).artifact.isSome = history.artifact.isSome from
      Option.isSome_map]
    exact selected.maximal before
  case artifact =>
    intro content emitted
    obtain ⟨artifact, there, rfl⟩ := Option.map_eq_some_iff.mp emitted
    have own := selected.artifact_tokens there
    rw [← own.1]
    exact own.2.1

/-! ## A compacted conversation -/

def tidePolicy : ContextPolicy where
  contextWindowTokens := 200
  reservedOutputTokens := 50
  maxHistoryTokens := 100
  maxHistoryMessages := 1
  maxCompactionTokens := 80
  accepted := by decide

def tideHistory : List HistoryItem := [
  ⟨some 3, some "user", some "And tomorrow?", some "completed"⟩,
  ⟨some 2, some "assistant", some "At six.", some "completed"⟩,
  ⟨some 1, some "user", some "When is low tide?", some "completed"⟩]

/-- SHA-256 on the one payload that is compacted here. -/
def tideDigest (payload : String) : String :=
  if payload = "[user] When is low tide?\n[assistant] At six." then
    "b9c7cb3fc6e451b77afccc7f9957028e05eb41d2965ce675ecfc001cd55b521a"
  else ""

theorem tide_context_respects_budgets : ∃ context parts,
    tidePolicy.build tideDigest tideHistory "And in May?" none = .ok context ∧
    context.compactionSourceIds = [1, 2] ∧
    RespectsBudgets tidePolicy tideHistory "And in May?" none context parts := by
  have sources : (tidePolicy.build tideDigest tideHistory "And in May?" none).toOption.map
      ConstructedContext.compactionSourceIds = some [1, 2] := by
    decide +kernel
  obtain ⟨context, built, ids⟩ := Option.map_eq_some_iff.mp sources
  have built' := toOption_eq_some.mp built
  obtain ⟨parts, respects⟩ := build_respects_budgets built'
  exact ⟨context, parts, built', ids, respects⟩

end Eiraos.Context
