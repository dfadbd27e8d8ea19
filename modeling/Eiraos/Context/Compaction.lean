import Eiraos.Context.Budgets
import Mathlib.Data.List.Nodup

/-! # What an artifact stands for

The omitted prefix is fixed before the leading assistant turns go, and the tokens of the
artifact are taken from the raw messages.  Both are visible in what the context contains.
-/

namespace Eiraos.Context

open Guarded PythonText BudgetPrefix

variable {sha256 : String → String} {policy : ContextPolicy} {historyNewestFirst : List HistoryItem}
  {currentPrompt : String} {systemPrompt : Option String} {context : ConstructedContext}

/-! ## The sources -/

def EligibleMessage.line (entry : EligibleMessage) : String := canonicalLine entry.role entry.content

/-- The compactor takes every eligible message. -/
theorem sources_of_eligible {entries : List EligibleMessage}
    (eligible : ∀ entry ∈ entries, entry ∈ policy.eligible historyNewestFirst) :
    (entries.map EligibleMessage.item).filterMap compactionSource =
      entries.map fun entry => (entry.item.id, entry.line) := by
  rw [List.filterMap_map, ← List.filterMap_eq_map]
  apply List.filterMap_congr
  intro entry mem
  have read := (ContextPolicy.mem_eligible (eligible entry mem)).2
  simp only [Function.comp_apply, compactionSource, read.role, read.content, Option.bind_eq_bind,
    Option.bind_some, Option.pure_def, EligibleMessage.line]

/-- The messages that the reduced budget leaves out, in chronological order. -/
def ContextPolicy.omitted (policy : ContextPolicy) (eligible : List EligibleMessage)
    (historyBudget : Nat) : List EligibleMessage :=
  (eligible.drop (policy.run eligible (historyBudget - policy.compactionTokens)).length).reverse

theorem ContextPolicy.mem_of_mem_omitted {eligible : List EligibleMessage} {historyBudget : Nat}
    {entry : EligibleMessage} (mem : entry ∈ policy.omitted eligible historyBudget) :
    entry ∈ eligible :=
  List.mem_of_mem_drop (List.mem_reverse.mp mem)

theorem Selected.sourceIds {historyBudget : Nat} {history : HistorySelection}
    (selected : Selected sha256 policy (policy.eligible historyNewestFirst) historyBudget history)
    {artifact : CompactionArtifact} (emitted : history.artifact = some artifact) :
    artifact.sourceIds =
      (policy.omitted (policy.eligible historyNewestFirst) historyBudget).filterMap
        fun entry => entry.item.id := by
  have older : (policy.parts (policy.eligible historyNewestFirst) historyBudget history).older =
      policy.omitted (policy.eligible historyNewestFirst) historyBudget := by
    simp only [ContextPolicy.parts, ContextPolicy.chosenRun, ContextPolicy.rawBudget, emitted,
      Option.isSome_some, if_true, ContextPolicy.omitted]
  have taken : ((policy.omitted (policy.eligible historyNewestFirst) historyBudget).map
      EligibleMessage.item).filterMap compactionSource = _ :=
    sources_of_eligible fun entry mem => ContextPolicy.mem_of_mem_omitted mem
  rw [(selected.compacted emitted).sources, older, taken, List.filterMap_map]
  rfl

/-- The items of the eligible messages are items of the history, in its order. -/
theorem eligible_items :
    ((policy.eligible historyNewestFirst).map EligibleMessage.item).Sublist historyNewestFirst := by
  have kept : ∀ items : List HistoryItem,
      ((items.filterMap policy.entryOf).map EligibleMessage.item).Sublist items := by
    intro items
    induction items with
    | nil => exact List.Sublist.refl _
    | cons item rest inductionHypothesis =>
      rw [List.filterMap_cons]
      split
      next => exact inductionHypothesis.cons item
      next entry taken =>
        rw [List.map_cons, (ContextPolicy.entryOf_eq_some taken).source]
        exact inductionHypothesis.cons_cons item
  exact (kept _).trans (List.take_sublist _ _)

/-! ## Every message once -/

/-- Each eligible message is either raw or a source of the artifact. -/
structure AccountedOnce (policy : ContextPolicy) (historyNewestFirst : List HistoryItem)
    (context : ConstructedContext) : Prop where
  once : ∀ entry ∈ policy.eligible historyNewestFirst, ∀ id ∈ entry.item.id,
    (context.selectedHistoryIds ++ context.compactionSourceIds).count id = 1
  number : context.truncatedHistoryCount = context.compactionSourceIds.length

theorem length_filterMap_id {entries : List EligibleMessage}
    (integers : ∀ entry ∈ entries, entry.item.id ≠ none) :
    (entries.filterMap fun entry => entry.item.id).length = entries.length := by
  rw [List.length_filterMap_eq_countP, List.countP_eq_length]
  intro entry mem
  exact Option.isSome_iff_ne_none.mpr (integers entry mem)

/-- Nothing is dropped from a list exactly if its first item stays. -/
theorem length_dropWhile_isAssistant {entries : List EligibleMessage} :
    (entries.dropWhile isAssistant).length = entries.length ↔
      ∀ first ∈ entries.head?, first.role = .user := by
  cases entries with
  | nil => simp
  | cons first rest =>
    cases role : first.role with
    | user => simp [isAssistant, role]
    | assistant =>
      have shorter : (rest.dropWhile isAssistant).length ≤ rest.length :=
        (List.dropWhile_sublist _).length_le
      have gone : (first :: rest).dropWhile isAssistant = rest.dropWhile isAssistant := by
        simp [isAssistant, role]
      rw [gone, List.length_cons]
      constructor
      · intro same
        omega
      · intro user
        simp [role] at user

/-- The ids of a history are told apart in its eligible messages too. -/
theorem nodup_eligible_ids (distinct : (historyNewestFirst.map HistoryItem.id).Nodup) :
    ((policy.eligible historyNewestFirst).filterMap fun entry => entry.item.id).Nodup := by
  have ids : ((policy.eligible historyNewestFirst).map (HistoryItem.id ∘ EligibleMessage.item)).Nodup := by
    rw [← List.map_map ]
    exact distinct.sublist (eligible_items.map HistoryItem.id)
  have inOrder : ((policy.eligible historyNewestFirst).filterMap fun entry => entry.item.id) =
      ((policy.eligible historyNewestFirst).map
        (HistoryItem.id ∘ EligibleMessage.item)).filterMap id := by
    rw [List.filterMap_map]
    rfl
  rw [inOrder]
  apply ids.filterMap
  intro first second _ inFirst inSecond
  exact (Option.mem_def.mp inFirst).trans (Option.mem_def.mp inSecond).symm

theorem artifact_accounts_once_iff
    (integers : ∀ item ∈ historyNewestFirst, item.id ≠ none)
    (distinct : (historyNewestFirst.map HistoryItem.id).Nodup)
    (built : policy.build sha256 historyNewestFirst currentPrompt systemPrompt = .ok context)
    (emitted : context.compactionDigest ≠ none) :
    AccountedOnce policy historyNewestFirst context ↔
      ∀ oldest ∈ (policy.run (policy.eligible historyNewestFirst)
        (policy.historyBudget (strip currentPrompt) (normalizedContent systemPrompt) -
          policy.compactionTokens)).getLast?, oldest.role = .user := by
  obtain ⟨_, result⟩ := build_eq_ok built
  have selected := selectHistory_selected sha256 policy (policy.eligible historyNewestFirst)
    (policy.historyBudget (strip currentPrompt) (normalizedContent systemPrompt))
  generalize policy.historyBudget (strip currentPrompt) (normalizedContent systemPrompt) = budget
    at result selected ⊢
  generalize policy.selectHistory sha256 (policy.eligible historyNewestFirst) budget = history
    at result selected
  subst result
  obtain ⟨artifact, there⟩ : ∃ artifact, history.artifact = some artifact := by
    apply Option.ne_none_iff_exists'.mp
    intro none
    exact emitted (by rw [none]; rfl)
  have raw := selected.raw
  have sources := selected.sourceIds there
  rw [there, Option.isSome_some, ContextPolicy.rawBudget, if_pos rfl] at raw
  have taken : policy.run (policy.eligible historyNewestFirst) (budget - policy.compactionTokens) <+:
      policy.eligible historyNewestFirst := ContextPolicy.run_prefix
  generalize same : policy.run (policy.eligible historyNewestFirst) (budget - policy.compactionTokens) =
    run at raw taken ⊢
  have known : ∀ entry ∈ policy.eligible historyNewestFirst, entry.item.id ≠ none :=
    fun entry mem => integers _ (ContextPolicy.mem_eligible mem).1
  -- the number of sources is that of the messages outside the run
  have number : artifact.sourceIds.length = (policy.eligible historyNewestFirst).length - run.length := by
    rw [sources, length_filterMap_id fun entry mem => known entry (ContextPolicy.mem_of_mem_omitted mem),
      ContextPolicy.omitted, same, List.length_reverse, List.length_drop]
  have shorter : run.length ≤ (policy.eligible historyNewestFirst).length := taken.length_le
  have trimmed : history.raw.length ≤ run.length := by
    have sublist := (List.dropWhile_sublist isAssistant (l := run.reverse)).length_le
    rwa [← raw, List.length_reverse] at sublist
  rw [List.getLast?_eq_head?_reverse, ← length_dropWhile_isAssistant, ← raw, List.length_reverse]
  constructor
  · intro accounted
    have counted := accounted.number
    simp only [there, Option.map_some, Option.getD_some, number] at counted
    omega
  · intro whole
    have unchanged : history.raw = run.reverse := by
      rw [raw]
      apply (List.dropWhile_sublist isAssistant).eq_of_length
      rw [← raw, whole, List.length_reverse]
    refine ⟨?_, ?_⟩
    · intro entry mem id own
      have counts : (history.raw.filterMap fun entry => entry.item.id).count id +
          artifact.sourceIds.count id =
            ((policy.eligible historyNewestFirst).filterMap fun entry => entry.item.id).count id := by
        conv_rhs => rw [List.prefix_iff_eq_append.mp taken |>.symm]
        rw [unchanged, sources, ContextPolicy.omitted, same, List.filterMap_reverse,
          List.filterMap_reverse, List.count_reverse, List.count_reverse, List.filterMap_append,
          List.count_append]
      simp only [there, Option.map_some, Option.getD_some, List.count_append]
      rw [counts]
      apply List.count_eq_one_of_mem (nodup_eligible_ids distinct)
      exact List.mem_filterMap.mpr ⟨entry, mem, own⟩
    · simp only [there, Option.map_some, Option.getD_some, number]
      omega

theorem tide_artifact_accounts_once_iff : ∃ context,
    tidePolicy.build tideDigest tideHistory "And in May?" none = .ok context ∧
    (AccountedOnce tidePolicy tideHistory context ↔
      ∀ oldest ∈ (tidePolicy.run (tidePolicy.eligible tideHistory)
        (tidePolicy.historyBudget (strip "And in May?") (normalizedContent none) -
          tidePolicy.compactionTokens)).getLast?, oldest.role = .user) := by
  have digest : (tidePolicy.build tideDigest tideHistory "And in May?" none).toOption.map
      ConstructedContext.compactionDigest =
        some (some "b9c7cb3fc6e451b77afccc7f9957028e05eb41d2965ce675ecfc001cd55b521a") := by
    decide +kernel
  obtain ⟨context, built, emitted⟩ := Option.map_eq_some_iff.mp digest
  have built' := toOption_eq_some.mp built
  refine ⟨context, built', ?_⟩
  apply artifact_accounts_once_iff (by decide) (by decide) built'
  rw [emitted]
  exact Option.some_ne_none _

/-- With room for two raw messages the answer is trimmed, and the artifact does not have it. -/
def roomierPolicy : ContextPolicy := { tidePolicy with
  maxHistoryMessages := 2
  accepted := by decide }

def questionDigest (payload : String) : String :=
  if payload = "[user] When is low tide?" then
    "aebecb3784ddbe84677627a5b8955016dcbee6513fdeb0a0443830392e865d80"
  else ""

theorem trimmed_answer_unaccounted : ∃ (policy : ContextPolicy) (sha256 : String → String)
    (historyNewestFirst : List HistoryItem) (context : ConstructedContext),
    (∀ item ∈ historyNewestFirst, item.id ≠ none) ∧ (historyNewestFirst.map HistoryItem.id).Nodup ∧
    policy.build sha256 historyNewestFirst "And in May?" none = .ok context ∧
    context.compactionDigest ≠ none ∧ ¬AccountedOnce policy historyNewestFirst context := by
  have trimmed : (roomierPolicy.build questionDigest tideHistory "And in May?" none).toOption.map
      (fun context => (context.compactionDigest.isSome, context.truncatedHistoryCount,
        context.compactionSourceIds.length)) = some (true, 2, 1) := by
    decide +kernel
  obtain ⟨context, built, counts⟩ := Option.map_eq_some_iff.mp trimmed
  simp only [Prod.mk.injEq] at counts
  obtain ⟨emitted, truncated, sources⟩ := counts
  refine ⟨roomierPolicy, questionDigest, tideHistory, context, by decide, by decide,
    toOption_eq_some.mp built, Option.isSome_iff_ne_none.mp emitted, ?_⟩
  intro accounted
  have number := accounted.number
  omega

end Eiraos.Context
