import Eiraos.Foundations.JsonMembers
import Eiraos.Providers.Completions

/-! # Usage that is no usage

What the upstream reports as usage is data of its own.  Here a chunk is compared with the one
whose ill-formed usage was left out: an adapter treats it as absent when both are read alike.
-/

namespace Eiraos

open PythonJson LineLoop

/-! ## Ill-formed usage -/

namespace OpenAI

def readsUsage (usage : JsonValue) : Bool :=
  (reportedUsage usage "prompt_tokens" "completion_tokens" (some "total_tokens")).isSome

end OpenAI

namespace Anthropic

/-- The event without a usage that is no object or has no count. -/
def tidy (event : JsonValue) : JsonValue :=
  if (event.field "type").isText "message_start" then
    if (count? (((event.field "message").field "usage").field "input_tokens")).isSome then event
    else event.update "message" (JsonValue.without "usage")
  else if (event.field "type").isText "message_delta" then
    if (count? ((event.field "usage").field "output_tokens")).isSome then event
    else event.without "usage"
  else event

/-- The usage of a `message_start` or of a `message_delta` that is no object. -/
def usageFails (event : JsonValue) : Bool :=
  event.isObject &&
    ((event.field "type").isText "message_start" && (event.field "message").isObject &&
        !((event.field "message").field "usage" (.object [])).isObject ||
      (event.field "type").isText "message_delta" && malformedDelta event)

end Anthropic

namespace Gemini

/-- A prompt that is not negative, within the total. -/
def readsUsage (metadata : JsonValue) : Bool :=
  match integer? (metadata.field "promptTokenCount"), integer? (metadata.field "totalTokenCount") with
  | some prompt, some total => 0 ≤ prompt ∧ prompt ≤ total
  | _, _ => false

/-- The candidates of a chunk are read without an exception. -/
def readsCandidates (chunk : JsonValue) : Bool :=
  (firstObjectTexts (chunk.field "candidates") usageCandidateTexts).isOk

/-- A negative prompt count within the total, in a chunk that is fine otherwise. -/
def usageFails (chunk : JsonValue) : Bool :=
  chunk.isObject && negativeUsage (chunk.field "usageMetadata") && readsCandidates chunk

end Gemini

namespace Adapter

/-- The chunk of a stream without its usage, if that is ill-formed. -/
def tidy : Adapter → JsonValue → JsonValue
  | .openAI, chunk => if OpenAI.readsUsage (chunk.field "usage") then chunk else chunk.without "usage"
  | .anthropic, event => Anthropic.tidy event
  | .gemini, chunk =>
    if Gemini.readsUsage (chunk.field "usageMetadata") then chunk else chunk.without "usageMetadata"

/-- The usage of the chunk is what raises. -/
def chunkUsageFails : Adapter → JsonValue → Bool
  | .openAI, _ => false
  | .anthropic, event => Anthropic.usageFails event
  | .gemini, chunk => Gemini.usageFails chunk

end Adapter

/-- `json.loads`, with a change of what it returns. -/
def AdapterRuntime.after (runtime : AdapterRuntime) (change : JsonValue → JsonValue) : AdapterRuntime :=
  { runtime with
    json := { runtime.json with loads := fun text => (runtime.json.loads text).map change } }

theorem AdapterRuntime.loads_after (runtime : AdapterRuntime) (change : JsonValue → JsonValue) (text : String) :
    (runtime.after change).loads text = (runtime.loads text).map change := by
  cases read : runtime.json.loads text with
  | ok value => simp [loads, after, read, Except.map]
  | error error =>
    cases error with
    | valueError =>
      simp [loads, after, read, Except.map]
      rfl
    | _ => simp [loads, after, read, Except.map]

/-- If the line is read without an exception once its value is changed, it is read the same. -/
def ReadsAlike {State : Type} (line changed : State → String → StreamEffect State ProviderStreamEvent)
    (text : String) : Prop :=
  ∀ state, (∀ failure, (changed state text).ending ≠ .raises failure) → line state text = changed state text

theorem loop_of_readsAlike {State : Type}
    {line changed : State → String → StreamEffect State ProviderStreamEvent}
    {finish : State → List ProviderStreamEvent} {state : State} {lines : List String}
    (alike : ∀ text ∈ lines, ReadsAlike line changed text)
    (normal : (loop changed finish state lines).failure = none) :
    loop line finish state lines = loop changed finish state lines := by
  induction lines generalizing state with
  | nil => rfl
  | cons text lines inductionHypothesis =>
    -- The changed loop goes on past this line, so the line is read alike.
    have unraised : ∀ failure, (changed state text).ending ≠ .raises failure := by
      intro failure raised
      rw [loop_of_raises raised] at normal
      cases normal
    have same := alike text List.mem_cons_self state unraised
    cases ended : (changed state text).ending with
    | raises failure => exact absurd ended (unraised failure)
    | breaks =>
      rw [loop_of_breaks ended, ← same, loop_of_breaks (same ▸ ended)]
    | continues =>
      rw [loop_of_continues ended] at normal
      have rest := inductionHypothesis (fun other member => alike other (List.mem_cons_of_mem _ member)) normal
      rw [loop_of_continues ended, loop_of_continues (same ▸ ended), same, rest]

/-- What a loop that guards `json.loads` only does with the result of its body. -/
def bodyEffect {State : Type} (state : State) :
    Except AdapterFailure (State × List ProviderStreamEvent) → StreamEffect State ProviderStreamEvent
  | .ok (later, events) => ⟨later, events, .continues⟩
  | .error failure => raiseLine state failure

theorem guardedLine_of_ok {State : Type} {runtime : AdapterRuntime}
    {body : State → JsonValue → Except AdapterFailure (State × List ProviderStreamEvent)}
    {text data : String} {value : JsonValue} {state : State} (found : sseData? text = some data)
    (read : runtime.loads data = .ok value) :
    guardedLine runtime body state text = bodyEffect state (body state value) := by
  simp only [guardedLine, found, read]
  cases body state value <;> rfl

theorem bodyEffect_alike {State : Type} {state : State}
    {result changed : Except AdapterFailure (State × List ProviderStreamEvent)} :
    ((∀ failure, (bodyEffect state changed).ending ≠ .raises failure) →
        bodyEffect state result = bodyEffect state changed) ↔
      ∀ read, changed = .ok read → result = .ok read := by
  cases changed with
  | error failure =>
    refine iff_of_true (fun unraised => ?_) (fun read same => by cases same)
    exact absurd rfl (unraised failure)
  | ok read =>
    constructor
    · intro alike other sameRead
      cases sameRead
      have same := alike fun failure raised => by cases raised
      cases result with
      | ok other =>
        injection same with sameState sameEvents
        exact congrArg Except.ok (Prod.ext sameState sameEvents)
      | error failure =>
        injection same with _ _ sameEnding
        cases sameEnding
    · intro same _
      rw [same read rfl]

/-- For a loop that guards `json.loads` only, it is the body that decides. -/
theorem guardedLine_readsAlike {State : Type} {runtime : AdapterRuntime} {change : JsonValue → JsonValue}
    {body : State → JsonValue → Except AdapterFailure (State × List ProviderStreamEvent)} {text : String} :
    ReadsAlike (guardedLine runtime body) (guardedLine (runtime.after change) body) text ↔
      ∀ data value, sseData? text = some data → runtime.loads data = .ok value →
        ∀ state result, body state (change value) = .ok result → body state value = .ok result := by
  cases found : sseData? text with
  | none =>
    refine iff_of_true (fun state _ => ?_) (fun _ _ same => by cases same)
    simp only [guardedLine, found]
  | some data =>
    cases read : runtime.loads data with
    | error failure =>
      refine iff_of_true (fun state _ => ?_) (fun _ value same loaded => ?_)
      · simp only [guardedLine, found, AdapterRuntime.loads_after, read, Except.map]
      · cases same
        rw [read] at loaded
        cases loaded
    | ok value =>
      have changed : (runtime.after change).loads data = .ok (change value) := by
        rw [AdapterRuntime.loads_after, read]
        rfl
      unfold ReadsAlike
      simp only [guardedLine_of_ok found read, guardedLine_of_ok found changed, bodyEffect_alike]
      constructor
      · intro alike _ other same loaded
        cases same
        cases read.symm.trans loaded
        exact alike
      · exact fun alike => alike data value rfl read

/-! ## Gemini -/

namespace Gemini

theorem geminiUsage_of_unread {metadata : JsonValue} (unread : readsUsage metadata = false)
    (positive : negativeUsage metadata = false) : geminiUsage metadata = .ok none := by
  revert unread positive
  unfold readsUsage negativeUsage geminiUsage
  cases integer? (metadata.field "promptTokenCount") with
  | none => exact fun _ _ => rfl
  | some prompt =>
    cases integer? (metadata.field "totalTokenCount") with
    | none => exact fun _ _ => rfl
    | some total =>
      intro unread positive
      simp only [decide_eq_false_iff_not] at unread positive
      apply if_pos
      omega

/-- Negative counts are ill-formed. -/
theorem readsUsage_of_negative {metadata : JsonValue} (negative : negativeUsage metadata = true) :
    readsUsage metadata = false := by
  revert negative
  unfold readsUsage negativeUsage
  cases integer? (metadata.field "promptTokenCount") with
  | none => exact fun _ => rfl
  | some prompt =>
    cases integer? (metadata.field "totalTokenCount") with
    | none => exact fun _ => rfl
    | some total =>
      intro negative
      simp only [decide_eq_true_eq] at negative
      simp only [decide_eq_false_iff_not]
      omega

theorem tidy_of_unread {chunk : JsonValue} (isObject : chunk.isObject = true) (usage : Option ProviderUsage) :
    usageChunk usage (chunk.without "usageMetadata") =
      (firstObjectTexts (chunk.field "candidates") usageCandidateTexts).map fun texts => (usage, texts) := by
  rw [usageChunk_of_object usage (by simpa using isObject), JsonValue.field_without_self,
    JsonValue.field_without_other (by decide)]
  rfl

theorem usageChunk_of_harmless {chunk : JsonValue} (harmless : usageFails chunk = false)
    {usage : Option ProviderUsage} {read : Option ProviderUsage × List JsonValue}
    (tidied : usageChunk usage (Adapter.gemini.tidy chunk) = .ok read) :
    usageChunk usage chunk = .ok read := by
  simp only [Adapter.tidy] at tidied
  cases wellFormed : readsUsage (chunk.field "usageMetadata") with
  | true => simpa [wellFormed] using tidied
  | false =>
    simp only [wellFormed, Bool.false_eq_true, if_false] at tidied
    cases isObject : chunk.isObject with
    | false => rwa [JsonValue.without_of_not_object isObject] at tidied
    | true =>
      rw [tidy_of_unread isObject] at tidied
      have fine : readsCandidates chunk = true := by
        unfold readsCandidates
        cases found : firstObjectTexts (chunk.field "candidates") usageCandidateTexts with
        | ok => rfl
        | error => rw [found] at tidied; cases tidied
      have positive : negativeUsage (chunk.field "usageMetadata") = false := by
        simpa [usageFails, isObject, fine] using harmless
      rw [usageChunk_of_object usage isObject, geminiUsage_of_unread wellFormed positive]
      exact tidied

theorem usageChunk_of_fails {chunk : JsonValue} (fails : usageFails chunk = true)
    (usage : Option ProviderUsage) :
    (∃ error, usageChunk usage chunk = .error error) ∧
      ∃ read, usageChunk usage (Adapter.gemini.tidy chunk) = .ok read := by
  simp only [usageFails, Bool.and_eq_true] at fails
  obtain ⟨⟨isObject, negative⟩, fine⟩ := fails
  constructor
  · obtain ⟨error, failed⟩ := (geminiUsage_eq _).1 negative
    exact ⟨error, by rw [usageChunk_of_object usage isObject, failed]; rfl⟩
  · simp only [Adapter.tidy, readsUsage_of_negative negative, Bool.false_eq_true, if_false]
    rw [tidy_of_unread isObject]
    unfold readsCandidates at fine
    cases found : firstObjectTexts (chunk.field "candidates") usageCandidateTexts with
    | ok texts => exact ⟨_, rfl⟩
    | error => rw [found] at fine; cases fine

end Gemini

/-! ## Anthropic -/

namespace Anthropic

theorem usageEvent_start {event : JsonValue} (counts : TokenCounts) (isObject : event.isObject = true)
    (isStart : (event.field "type").isText "message_start" = true) :
    usageEvent counts event =
      let message := event.field "message"
      let usage := message.field "usage" (.object [])
      if (message.isObject || !message.truthy) && usage.isObject then
        .ok ({ counts with input := count? (usage.field "input_tokens") }, [])
      else .error .attributeError := by
  simp only [usageEvent, JsonValue.get_of_object isObject, isStart, bind, Except.bind, if_true,
    JsonValue.get_orDefault]
  cases (event.field "message").isObject || !(event.field "message").truthy with
  | false => rfl
  | true =>
    cases isUsage : ((event.field "message").field "usage" (.object [])).isObject with
    | false => simp [JsonValue.get_of_not_object isUsage]
    | true => simp [JsonValue.get_of_object isUsage, pure, Except.pure]

theorem usageEvent_delta {event : JsonValue} (counts : TokenCounts) (isObject : event.isObject = true)
    (isDelta : (event.field "type").isText "message_delta" = true) :
    usageEvent counts event =
      if malformedDelta event then .error .attributeError
      else .ok ({ counts with output := count? ((event.field "usage").field "output_tokens") }, []) := by
  have notStart := isText_unique isDelta (by decide : "message_delta" ≠ "message_start")
  simp only [usageEvent, JsonValue.get_of_object isObject, isDelta, notStart, malformedDelta, bind, Except.bind,
    if_true, Bool.false_eq_true, if_false, JsonValue.get_orDefault]
  by_cases isUsage : (event.field "usage").isObject = true <;>
    by_cases truth : (event.field "usage").truthy = true <;>
    simp [isUsage, truth, pure, Except.pure]

/-- An absent usage is read as null or as an empty object alike. -/
theorem usage_field (message : JsonValue) :
    (message.field "usage" (.object [])).field "input_tokens" =
      (message.field "usage").field "input_tokens" := by
  rw [JsonValue.field_eq_getD message "usage" (.object []), JsonValue.field_eq_getD message "usage" .null]
  cases message.member "usage" <;> rfl

/-- A start without a usage has no count. -/
theorem usageEvent_start_tidied {event : JsonValue} (counts : TokenCounts) (isObject : event.isObject = true)
    (isStart : (event.field "type").isText "message_start" = true) :
    usageEvent counts (event.update "message" (JsonValue.without "usage")) =
      if (event.field "message").isObject || !(event.field "message").truthy then
        .ok ({ counts with input := none }, [])
      else .error .attributeError := by
  have updated : (event.update "message" (JsonValue.without "usage")).field "message" =
      (event.field "message").without "usage" := JsonValue.field_update_self rfl
  rw [usageEvent_start counts (by simpa using isObject)
    (by rwa [JsonValue.field_update_other (by decide)])]
  have noUsage : (JsonValue.object []).isObject = true := rfl
  simp only [updated, JsonValue.isObject_without, JsonValue.field_without_self, noUsage, Bool.and_true]
  by_cases isMessage : (event.field "message").isObject = true
  · simp only [isMessage, Bool.true_or, if_true]
    rfl
  · simp only [JsonValue.without_of_not_object (Bool.eq_false_iff.mpr isMessage)]
    rfl

theorem usageEvent_of_harmless {event : JsonValue} (harmless : usageFails event = false)
    {counts : TokenCounts} {read : TokenCounts × List JsonValue}
    (tidied : usageEvent counts (tidy event) = .ok read) : usageEvent counts event = .ok read := by
  unfold tidy at tidied
  cases isObject : event.isObject with
  | false =>
    -- There is nothing to leave out of a value that is no object.
    have same : event.update "message" (JsonValue.without "usage") = event ∧
        event.without "usage" = event := by
      cases event with
      | object => cases isObject
      | _ => exact ⟨rfl, rfl⟩
    simpa [same.1, same.2] using tidied
  | true =>
    cases isStart : (event.field "type").isText "message_start" with
    | true =>
      simp only [isStart, if_true] at tidied
      split at tidied
      · exact tidied
      next unread =>
        rw [usageEvent_start_tidied counts isObject isStart] at tidied
        rw [usageEvent_start counts isObject isStart]
        have uncounted : count? ((event.field "message").field "usage" (.object []) |>.field "input_tokens") =
            none := by
          rw [usage_field]
          simpa using unread
        simp only [uncounted]
        -- A message that is no object has no usage, so only an object can carry a bad one.
        cases message : (event.field "message").isObject with
        | true =>
          have isUsage : ((event.field "message").field "usage" (.object [])).isObject = true := by
            simp only [usageFails, isObject, isStart, message, Bool.true_and, Bool.or_eq_false_iff,
              Bool.not_eq_false'] at harmless
            exact harmless.1
          simpa [message, isUsage] using tidied
        | false =>
          have isUsage : ((event.field "message").field "usage" (.object [])).isObject = true := by
            rw [JsonValue.field_of_not_object message]
            rfl
          simpa [message, isUsage] using tidied
    | false =>
      simp only [isStart, Bool.false_eq_true, if_false] at tidied
      cases isDelta : (event.field "type").isText "message_delta" with
      | false => simpa [isDelta] using tidied
      | true =>
        simp only [isDelta, if_true] at tidied
        split at tidied
        · exact tidied
        next unread =>
          have formed : malformedDelta event = false := by
            simpa [usageFails, isObject, isStart, isDelta] using harmless
          have uncounted : count? ((event.field "usage").field "output_tokens") = none := by
            simpa using unread
          have absent : malformedDelta (event.without "usage") = false := by
            simp [malformedDelta, JsonValue.truthy]
          rw [usageEvent_delta counts (by simpa using isObject)
            (by rwa [JsonValue.field_without_other (by decide)]), absent,
            JsonValue.field_without_self] at tidied
          rw [usageEvent_delta counts isObject isDelta, formed, uncounted]
          exact tidied

theorem usageEvent_of_fails {event : JsonValue} (fails : usageFails event = true) (counts : TokenCounts) :
    (∃ error, usageEvent counts event = .error error) ∧ ∃ read, usageEvent counts (tidy event) = .ok read := by
  simp only [usageFails, Bool.and_eq_true, Bool.or_eq_true, Bool.not_eq_true'] at fails
  obtain ⟨isObject, ⟨⟨isStart, isMessage⟩, malformed⟩ | ⟨isDelta, malformed⟩⟩ := fails
  · constructor
    · rw [usageEvent_start counts isObject isStart]
      simp [malformed]
    · have unread : count? (((event.field "message").field "usage").field "input_tokens") = none := by
        rw [← usage_field, JsonValue.field_of_not_object malformed]
        rfl
      simp only [tidy, isStart, if_true, unread, Option.isSome_none, Bool.false_eq_true, if_false]
      rw [usageEvent_start_tidied counts isObject isStart, isMessage]
      exact ⟨_, rfl⟩
  · have notStart := isText_unique isDelta (by decide : "message_delta" ≠ "message_start")
    constructor
    · rw [usageEvent_delta counts isObject isDelta, malformed]
      exact ⟨_, rfl⟩
    · have isUsage : (event.field "usage").isObject = false := by
        simpa using (Bool.and_eq_true_iff.mp malformed).2
      have unread : count? ((event.field "usage").field "output_tokens") = none := by
        rw [JsonValue.field_of_not_object isUsage]
        rfl
      have absent : malformedDelta (event.without "usage") = false := by
        simp [malformedDelta, JsonValue.truthy]
      simp only [tidy, notStart, isDelta, if_true, unread, Option.isSome_none, Bool.false_eq_true, if_false]
      rw [usageEvent_delta counts (by simpa using isObject)
        (by rwa [JsonValue.field_without_other (by decide)]), absent]
      exact ⟨_, rfl⟩

end Anthropic

/-! ## Lines -/

theorem python_eq_ok {First Second : Type} {result : Except PythonError First} {change : First → Second}
    {value : Second} :
    (result.map change).mapError AdapterFailure.python = .ok value ↔
      ∃ read, result = .ok read ∧ change read = value := by
  cases result <;> simp [Except.map, Except.mapError]

/-- A line is read alike exactly when the usage of its value does not raise. -/
theorem guardedLine_readsAlike_iff {State : Type} {runtime : AdapterRuntime} {change : JsonValue → JsonValue}
    {read : State → JsonValue → Except PythonError (State × List JsonValue)} {fails : JsonValue → Bool}
    (kept : ∀ value, fails value = false → ∀ state result,
      read state (change value) = .ok result → read state value = .ok result)
    (raised : ∀ value, fails value = true → ∀ state,
      (∃ error, read state value = .error error) ∧ ∃ result, read state (change value) = .ok result)
    (initial : State) {text : String} :
    let body := fun state value =>
      ((read state value).map fun (later, texts) =>
        (later, texts.map ProviderStreamEvent.text)).mapError .python
    ReadsAlike (guardedLine runtime body) (guardedLine (runtime.after change) body) text ↔
      ∀ data value, sseData? text = some data → runtime.loads data = .ok value → fails value = false := by
  intro body
  rw [guardedLine_readsAlike]
  apply forall_congr'; intro data
  apply forall_congr'; intro value
  apply imp_congr_right; intro _
  apply imp_congr_right; intro _
  constructor
  · intro alike
    by_contra fails
    obtain ⟨⟨error, failed⟩, result, tidied⟩ := raised value (by simpa using fails) initial
    have same := alike initial _ (python_eq_ok.mpr ⟨result, tidied, rfl⟩)
    obtain ⟨other, succeeded, _⟩ := python_eq_ok.mp same
    rw [failed] at succeeded
    cases succeeded
  · intro harmless state result tidied
    obtain ⟨other, succeeded, changed⟩ := python_eq_ok.mp tidied
    exact python_eq_ok.mpr ⟨other, kept value harmless state other succeeded, changed⟩

namespace OpenAI

/-- What is no usage is not read at all. -/
theorem usageLine_after (runtime : AdapterRuntime) (text : String) :
    usageLine (runtime.after Adapter.openAI.tidy) () text = usageLine runtime () text := by
  unfold usageLine
  cases sseData? text with
  | none => rfl
  | some data =>
    simp only [AdapterRuntime.loads_after]
    cases runtime.loads data with
    | error failure => cases failure <;> rfl
    | ok chunk =>
      simp only [Except.map, Adapter.tidy]
      cases wellFormed : readsUsage (chunk.field "usage") with
      | true => rfl
      | false =>
        cases isObject : chunk.isObject with
        | false => simp [JsonValue.without_of_not_object isObject]
        | true =>
          have absent : (chunk.without "usage").isObject = true := by simpa using isObject
          have unread : reportedUsage (chunk.field "usage") "prompt_tokens" "completion_tokens"
              (some "total_tokens") = none := by
            simpa [readsUsage] using wellFormed
          have noUsage : reportedUsage .null "prompt_tokens" "completion_tokens" (some "total_tokens") =
              none := rfl
          simp only [Bool.false_eq_true, if_false, JsonValue.get_of_object isObject,
            JsonValue.get_of_object absent, JsonValue.field_without_self, unread, noUsage, usageChunkTexts,
            JsonValue.field_without_other (by decide : "choices" ≠ "usage")]

end OpenAI

namespace Adapter

/-- Ill-formed usage in the line is treated as absent. -/
def TreatsUsageAsAbsent : Adapter → AdapterRuntime → String → Prop
  | .openAI, runtime, line =>
    ReadsAlike (OpenAI.usageLine runtime) (OpenAI.usageLine (runtime.after openAI.tidy)) line
  | .anthropic, runtime, line =>
    ReadsAlike (Anthropic.usageLine runtime) (Anthropic.usageLine (runtime.after anthropic.tidy)) line
  | .gemini, runtime, line =>
    ReadsAlike (Gemini.usageLine runtime) (Gemini.usageLine (runtime.after gemini.tidy)) line

/-- The line carries a value whose usage raises. -/
def usageFails (adapter : Adapter) (runtime : AdapterRuntime) (line : String) : Bool :=
  match (sseData? line).map runtime.loads with
  | some (.ok value) => adapter.chunkUsageFails value
  | _ => false

theorem usageFails_eq_false {adapter : Adapter} {runtime : AdapterRuntime} {line : String} :
    adapter.usageFails runtime line = false ↔ ∀ data value, sseData? line = some data →
      runtime.loads data = .ok value → adapter.chunkUsageFails value = false := by
  unfold usageFails
  cases sseData? line with
  | none => simp
  | some data =>
    simp only [Option.map_some, Option.some.injEq]
    constructor
    · rintro harmless _ value rfl read
      simpa [read] using harmless
    · intro harmless
      cases read : runtime.loads data with
      | error failure => rfl
      | ok value => exact harmless data value rfl read

theorem treatsUsageAsAbsent_iff (adapter : Adapter) (runtime : AdapterRuntime) (line : String) :
    adapter.TreatsUsageAsAbsent runtime line ↔ adapter.usageFails runtime line = false := by
  rw [usageFails_eq_false]
  cases adapter with
  | openAI =>
    refine iff_of_true (fun _ _ => ?_) (fun _ _ _ _ => rfl)
    exact (OpenAI.usageLine_after runtime line).symm
  | anthropic =>
    exact guardedLine_readsAlike_iff (fun _ harmless _ _ => Anthropic.usageEvent_of_harmless harmless)
      (fun _ fails counts => Anthropic.usageEvent_of_fails fails counts) ⟨none, none⟩
  | gemini =>
    exact guardedLine_readsAlike_iff (fun _ harmless _ _ => Gemini.usageChunk_of_harmless harmless)
      (fun _ fails usage => Gemini.usageChunk_of_fails fails usage) none

/-- The stream of the response whose ill-formed usage was left out. -/
theorem streamWithUsage_of_absent {adapter : Adapter} {runtime : AdapterRuntime} {response : SseResponse}
    (absent : ∀ line ∈ response.lines, adapter.TreatsUsageAsAbsent runtime line)
    (normal : (adapter.streamWithUsage (runtime.after adapter.tidy) response).failure = none) :
    adapter.streamWithUsage runtime response =
      adapter.streamWithUsage (runtime.after adapter.tidy) response := by
  cases success : response.isSuccess with
  | false =>
    cases adapter <;>
      simp [streamWithUsage, OpenAI.streamWithUsage, Anthropic.streamWithUsage, Gemini.streamWithUsage,
        usageResponse, success]
  | true =>
    cases adapter <;>
      simp only [streamWithUsage, OpenAI.streamWithUsage, Anthropic.streamWithUsage, Gemini.streamWithUsage,
        usageResponse, success, if_true] at normal ⊢
    · exact loop_of_readsAlike absent normal
    · exact loop_of_readsAlike absent normal
    · exact loop_of_readsAlike absent normal

end Adapter

end Eiraos
