import Eiraos.Providers.TidiedUsage

/-! # Usage beside the answer (`api/v1/chat.py`)

`provider_text_stream` passes the texts of `stream_with_usage` on and fails the answer when a
second usage comes.  Two adapters keep the usage until the last line; the one of OpenAI sends
it where it reads it, and so depends on the upstream to report it once, at the end.
-/

namespace Eiraos

open PythonJson LineLoop

/-! ## The consumer -/

/-- A second usage event, or an exception of the adapter. -/
inductive ConsumerFailure where
  | duplicateUsage
  | provider (failure : AdapterFailure)
  deriving DecidableEq, Repr

/-- `provider_text_stream`: the texts it passes on, and how it ends. -/
def providerTextStream (streamUsage : Option ProviderUsage) (failure : Option AdapterFailure) :
    List ProviderStreamEvent → List JsonValue × Option ConsumerFailure
  | [] => ([], failure.map .provider)
  | .text text :: events =>
    let (texts, ended) := providerTextStream streamUsage failure events
    (text :: texts, ended)
  | .usage usage :: events =>
    match streamUsage with
    | some _ => ([], some .duplicateUsage)
    | none => providerTextStream (some usage) failure events

/-- All texts, and then one usage at most. -/
def UsageLast (events : List ProviderStreamEvent) : Prop :=
  ∃ (texts : List JsonValue) (usage : Option ProviderUsage),
    events = texts.map ProviderStreamEvent.text ++ usage.toList.map ProviderStreamEvent.usage

theorem usageLast_nil : UsageLast [] := ⟨[], none, rfl⟩

theorem usageLast_texts {texts : List JsonValue} {events : List ProviderStreamEvent} :
    UsageLast (texts.map ProviderStreamEvent.text ++ events) ↔ UsageLast events := by
  induction texts with
  | nil => rfl
  | cons text texts inductionHypothesis =>
    rw [← inductionHypothesis, List.map_cons, List.cons_append]
    constructor
    · rintro ⟨others, usage, same⟩
      cases others with
      | nil => cases usage <;> simp at same
      | cons other others => exact ⟨others, usage, (List.cons.inj same).2⟩
    · rintro ⟨others, usage, same⟩
      exact ⟨text :: others, usage, by rw [same]; rfl⟩

theorem usageLast_usage {usage : ProviderUsage} {events : List ProviderStreamEvent} :
    UsageLast (.usage usage :: events) ↔ events = [] := by
  constructor
  · rintro ⟨texts, reported, same⟩
    cases texts with
    | nil =>
      cases reported with
      | none => cases same
      | some => exact (List.cons.inj same).2
    | cons => cases (List.cons.inj same).1
  · rintro rfl
    exact ⟨[], some usage, rfl⟩

/-- The consumer passes every text on and fails with the adapter only. -/
theorem providerTextStream_of_usageLast {events : List ProviderStreamEvent} (last : UsageLast events)
    (failure : Option AdapterFailure) :
    providerTextStream none failure events =
      (events.filterMap ProviderStreamEvent.text?, failure.map .provider) := by
  obtain ⟨texts, usage, rfl⟩ := last
  induction texts with
  | nil => cases usage <;> rfl
  | cons text texts inductionHypothesis =>
    simp only [List.map_cons, List.cons_append, providerTextStream, inductionHypothesis]
    rfl

/-! ## Usage at the end -/

section Finish

variable {State : Type} {line : State → String → StreamEffect State ProviderStreamEvent}
  {finish : State → List ProviderStreamEvent}

/-- A loop that keeps its usage to the end. -/
theorem usageLast_of_finish
    (texts : ∀ state text, ∃ texts : List JsonValue,
      (line state text).events = texts.map ProviderStreamEvent.text)
    (atMostOne : ∀ state, ∃ usage : Option ProviderUsage,
      finish state = usage.toList.map ProviderStreamEvent.usage)
    (state : State) (lines : List String) : UsageLast (loop line finish state lines).events := by
  induction lines generalizing state with
  | nil =>
    obtain ⟨usage, finished⟩ := atMostOne state
    exact ⟨[], usage, finished⟩
  | cons text lines inductionHypothesis =>
    obtain ⟨emitted, read⟩ := texts state text
    cases ended : (line state text).ending with
    | continues =>
      rw [loop_of_continues ended]
      show UsageLast (_ ++ _)
      rw [read, usageLast_texts]
      exact inductionHypothesis _
    | breaks =>
      obtain ⟨usage, finished⟩ := atMostOne (line state text).state
      rw [loop_of_breaks ended]
      exact ⟨emitted, usage, by rw [read, finished]⟩
    | raises failure =>
      rw [loop_of_raises ended]
      exact ⟨emitted, none, by simp [read]⟩

end Finish

/-- The lines of the loops that guard `json.loads` only carry no usage event. -/
theorem guardedLine_texts {State : Type} {runtime : AdapterRuntime}
    {read : State → JsonValue → Except PythonError (State × List JsonValue)} (state : State) (text : String) :
    ∃ texts : List JsonValue, (guardedLine runtime (fun state value =>
      ((read state value).map fun (later, texts) =>
        (later, texts.map ProviderStreamEvent.text)).mapError .python) state text).events =
      texts.map ProviderStreamEvent.text := by
  unfold guardedLine
  cases sseData? text with
  | none => exact ⟨[], rfl⟩
  | some data =>
    dsimp only
    cases runtime.loads data with
    | error failure => cases failure <;> exact ⟨[], rfl⟩
    | ok value =>
      dsimp only
      cases read state value with
      | error error => exact ⟨[], rfl⟩
      | ok read => exact ⟨read.2, rfl⟩

namespace OpenAI

/-- The usage of a line. -/
def lineUsage? (runtime : AdapterRuntime) (line : String) : Option ProviderUsage :=
  match sseData? line with
  | none => none
  | some data =>
    if data = "[DONE]" then none
    else
      match runtime.loads data with
      | .ok chunk =>
        reportedUsage (chunk.field "usage") "prompt_tokens" "completion_tokens" (some "total_tokens")
      | .error _ => none

/-- Neither a text nor a usage comes before the end. -/
def quiet : List (Option ProviderUsage × Reading JsonValue) → Bool
  | [] => true
  | (usage, .emits texts) :: lines => usage.isNone && texts.isEmpty && quiet lines
  | (usage, _) :: _ => usage.isNone

/-- After the first usage nothing comes. -/
def usageAtEnd : List (Option ProviderUsage × Reading JsonValue) → Bool
  | [] => true
  | (none, .emits _) :: lines => usageAtEnd lines
  | (some _, .emits texts) :: lines => texts.isEmpty && quiet lines
  | _ :: _ => true

/-- The usage of a line and what else is read in it. -/
def lineReport (runtime : AdapterRuntime) (line : String) : Option ProviderUsage × Reading JsonValue :=
  (lineUsage? runtime line, Adapter.openAI.lineReading .metered runtime line)

/-- The usage of a line is sent before its text. -/
theorem usageLine_events (runtime : AdapterRuntime) (line : String) :
    ∃ texts : List JsonValue, (usageLine runtime () line).events =
      (lineUsage? runtime line).toList.map ProviderStreamEvent.usage ++ texts.map ProviderStreamEvent.text := by
  unfold usageLine lineUsage?
  cases sseData? line with
  | none => exact ⟨[], rfl⟩
  | some data =>
    by_cases done : data = "[DONE]"
    · simp only [done, if_true]
      exact ⟨[], rfl⟩
    · simp only [done, if_false]
      cases runtime.loads data with
      | error failure => cases failure <;> exact ⟨[], rfl⟩
      | ok chunk =>
        cases isObject : chunk.isObject with
        | false =>
          simp only [JsonValue.get_of_not_object isObject, JsonValue.field_of_not_object isObject]
          exact ⟨[], rfl⟩
        | true =>
          simp only [JsonValue.get_of_object isObject]
          cases usageChunkTexts chunk with
          | ok texts => exact ⟨texts, rfl⟩
          | error error => exact ⟨[], by simp⟩

/-- The events and the ending of a line, by its report. -/
theorem usageLine_report (runtime : AdapterRuntime) (line : String) :
    ∃ texts : List JsonValue, (lineReport runtime line).2.Of texts (usageLine runtime () line).ending ∧
      (usageLine runtime () line).events =
        (lineReport runtime line).1.toList.map ProviderStreamEvent.usage ++
          texts.map ProviderStreamEvent.text := by
  obtain ⟨texts, events⟩ := usageLine_events runtime line
  have reads := usageLine_reads runtime line
  rw [events, List.filterMap_append, filterMap_usages, filterMap_texts, List.nil_append] at reads
  exact ⟨texts, reads, events⟩

theorem events_eq_nil_iff (runtime : AdapterRuntime) (lines : List String) :
    (loop (usageLine runtime) (fun _ => []) () lines).events = [] ↔
      quiet (lines.map (lineReport runtime)) = true := by
  induction lines with
  | nil => exact iff_of_true rfl rfl
  | cons line lines inductionHypothesis =>
    obtain ⟨texts, read, events⟩ := usageLine_report runtime line
    rw [List.map_cons]
    generalize lineReport runtime line = report at read events ⊢
    obtain ⟨usage, reading⟩ := report
    cases reading with
    | emits emitted =>
      obtain ⟨rfl, going⟩ := read
      rw [loop_of_continues going]
      simp only [Transcript.prepend, events, quiet, List.append_eq_nil_iff, inductionHypothesis]
      cases usage <;> simp
    | breaks =>
      obtain ⟨rfl, broke⟩ := read
      rw [loop_of_breaks broke]
      cases usage <;> simp [events, quiet]
    | fails =>
      obtain ⟨rfl, error, raised⟩ := read
      rw [loop_of_raises raised]
      cases usage <;> simp [events, quiet]

theorem usageLast_iff (runtime : AdapterRuntime) (lines : List String) :
    UsageLast (loop (usageLine runtime) (fun _ => []) () lines).events ↔
      usageAtEnd (lines.map (lineReport runtime)) = true := by
  induction lines with
  | nil => exact iff_of_true usageLast_nil rfl
  | cons line lines inductionHypothesis =>
    obtain ⟨texts, read, events⟩ := usageLine_report runtime line
    rw [List.map_cons]
    generalize lineReport runtime line = report at read events ⊢
    obtain ⟨usage, reading⟩ := report
    cases reading with
    | emits emitted =>
      obtain ⟨rfl, going⟩ := read
      rw [loop_of_continues going]
      cases usage with
      | none =>
        -- Texts in front change nothing.
        simp only [Transcript.prepend, events, Option.toList_none, List.map_nil, List.nil_append]
        rw [usageLast_texts]
        exact inductionHypothesis
      | some usage =>
        -- The first usage: whatever follows, be it in the same line, comes too late.
        simp only [Transcript.prepend, events, Option.toList_some, List.map_cons, List.map_nil,
          List.cons_append, List.nil_append]
        rw [usageLast_usage, List.append_eq_nil_iff, events_eq_nil_iff]
        simp [usageAtEnd]
    | breaks =>
      obtain ⟨rfl, broke⟩ := read
      rw [loop_of_breaks broke]
      refine iff_of_true ⟨[], usage, by simp [events]⟩ ?_
      cases usage <;> rfl
    | fails =>
      -- An exception ends the stream, so the usage of this line is the last event.
      obtain ⟨rfl, error, raised⟩ := read
      rw [loop_of_raises raised]
      refine iff_of_true ⟨[], usage, by simp [events]⟩ ?_
      cases usage <;> rfl

end OpenAI

namespace Adapter

/-- OpenAI's upstream reports its usage once, after the texts. -/
def reportsUsageLast : Adapter → AdapterRuntime → List String → Bool
  | .openAI, runtime, lines => OpenAI.usageAtEnd (lines.map (OpenAI.lineReport runtime))
  | _, _, _ => true

theorem usageLast_iff (adapter : Adapter) (runtime : AdapterRuntime) (response : SseResponse) :
    UsageLast (adapter.streamWithUsage runtime response).events ↔
      response.isSuccess = false ∨ adapter.reportsUsageLast runtime response.lines = true := by
  cases success : response.isSuccess with
  | false =>
    refine iff_of_true ?_ (.inl rfl)
    cases adapter <;>
      simp only [streamWithUsage, OpenAI.streamWithUsage, Anthropic.streamWithUsage, Gemini.streamWithUsage,
        usageResponse, success, Bool.false_eq_true, if_false] <;>
      exact usageLast_nil
  | true =>
    rw [or_iff_right (by simp)]
    cases adapter with
    | openAI =>
      simp only [streamWithUsage, OpenAI.streamWithUsage, usageResponse, success, if_true]
      exact OpenAI.usageLast_iff runtime response.lines
    | anthropic =>
      simp only [streamWithUsage, Anthropic.streamWithUsage, usageResponse, success, if_true]
      refine iff_of_true (usageLast_of_finish guardedLine_texts (fun counts => ?_) _ _) rfl
      unfold Anthropic.finish
      split
      · exact ⟨some _, rfl⟩
      · exact ⟨none, rfl⟩
    | gemini =>
      simp only [streamWithUsage, Gemini.streamWithUsage, usageResponse, success, if_true]
      exact iff_of_true (usageLast_of_finish guardedLine_texts (fun usage => ⟨usage, rfl⟩) _ _) rfl

end Adapter

/-! ## Completions -/

namespace Anthropic

/-- The payload of a completion without a usage that lacks a count. -/
def tidyPayload (data : JsonValue) : JsonValue :=
  if (reportedUsage (data.field "usage") "input_tokens" "output_tokens" none).isSome then data
  else data.without "usage"

end Anthropic

namespace Adapter

/-- The payload of a completion without its usage, if that is ill-formed. -/
def tidyPayload : Adapter → JsonValue → JsonValue
  | .anthropic => Anthropic.tidyPayload
  | adapter => adapter.tidy

/-- A completion whose ill-formed usage was left out is answered the same with it. -/
def KeepsCompletion (adapter : Adapter) (json : BodyDecoder) (response : CompletionResponse) : Prop :=
  ∀ completion,
    adapter.completeWithUsage (fun body => (json body).map adapter.tidyPayload) response = .ok completion →
      adapter.completeWithUsage json response = .ok completion

end Adapter

section Completion

variable {json : BodyDecoder} {response : CompletionResponse} {tidy : JsonValue → JsonValue}
  {unpack : JsonValue → Except EiraOSException String}
  {usage : JsonValue → Except PythonError (Option ProviderUsage)}

theorem meteredCompletion_of_ok {data : JsonValue} (parsed : json response.body = .ok data) {text : String}
    (unpacked : unpack data = .ok text) {completion : ProviderCompletion} :
    meteredCompletion json response unpack usage = .ok completion ↔
      ∃ counts, usage data = .ok counts ∧ ⟨text, counts⟩ = completion := by
  simp only [meteredCompletion, parsed, unpacked, Except.mapError, bind, Except.bind]
  cases usage data <;> simp [pure, Except.pure]

theorem meteredCompletion_of_error {data : JsonValue} (parsed : json response.body = .ok data)
    {exception : EiraOSException} (failed : unpack data = .error exception) :
    meteredCompletion json response unpack usage = .error (.eiraos exception) := by
  simp only [meteredCompletion, parsed, failed, Except.mapError, bind, Except.bind]

theorem meteredCompletion_of_unparsed {error : PythonError} (failed : json response.body = .error error) :
    meteredCompletion json response unpack usage = .error (.python error) := by
  simp only [meteredCompletion, failed, Except.mapError, bind, Except.bind]

/-- An answer is kept when the usage is read wherever a text is. -/
theorem meteredCompletion_kept_iff {data : JsonValue} (parsed : json response.body = .ok data)
    (unread : unpack (tidy data) = unpack data) :
    (∀ completion,
      meteredCompletion (fun body => (json body).map tidy) response unpack usage = .ok completion →
        meteredCompletion json response unpack usage = .ok completion) ↔
      ((unpack data).isOk = true → ∀ counts, usage (tidy data) = .ok counts → usage data = .ok counts) := by
  generalize tidyJson : (fun body => (json body).map tidy) = other
  have tidied : other response.body = .ok (tidy data) := by
    simp only [← tidyJson, parsed, Except.map]
  cases unpacked : unpack data with
  | error exception =>
    rw [meteredCompletion_of_error parsed unpacked,
      meteredCompletion_of_error tidied (unread.trans unpacked)]
    simp [Except.isOk, Except.toBool]
  | ok text =>
    simp only [meteredCompletion_of_ok parsed unpacked,
      meteredCompletion_of_ok tidied (unread.trans unpacked)]
    constructor
    · intro kept _ counts read
      obtain ⟨other, known, same⟩ := kept ⟨text, counts⟩ ⟨counts, read, rfl⟩
      rw [known, ProviderCompletion.mk.inj same |>.2]
    · rintro kept completion ⟨counts, read, same⟩
      exact ⟨counts, kept rfl counts read, same⟩

end Completion

/-- The text is not looked for in the usage. -/
theorem OpenAI.unpackMessage_without (data : JsonValue) :
    unpackMessage (data.without "usage") = unpackMessage data := by
  simp only [unpackMessage, JsonValue.isObject_without,
    JsonValue.field_without_other (by decide : "choices" ≠ "usage")]

theorem Anthropic.unpackAnthropicMessage_without (data : JsonValue) :
    unpackAnthropicMessage (data.without "usage") = unpackAnthropicMessage data := by
  simp only [unpackAnthropicMessage, JsonValue.isObject_without,
    JsonValue.field_without_other (by decide : "content" ≠ "usage")]

theorem Gemini.unpackGeminiText_without (data : JsonValue) :
    unpackGeminiText (data.without "usageMetadata") = unpackGeminiText data := by
  simp only [unpackGeminiText, JsonValue.isObject_without,
    JsonValue.field_without_other (by decide : "candidates" ≠ "usageMetadata")]

/-- Usage without a count is read as none. -/
theorem reportedUsage_tidied {data : JsonValue} {key inputKey outputKey : String} {totalKey : Option String}
    {counts : Option ProviderUsage}
    (tidied : reportedUsage
      ((if (reportedUsage (data.field key) inputKey outputKey totalKey).isSome then data
        else data.without key).field key) inputKey outputKey totalKey = counts) :
    reportedUsage (data.field key) inputKey outputKey totalKey = counts := by
  cases read : reportedUsage (data.field key) inputKey outputKey totalKey with
  | some usage => simpa [read] using tidied
  | none =>
    simp only [read, Option.isSome_none, Bool.false_eq_true, if_false, JsonValue.field_without_self] at tidied
    exact tidied

namespace Gemini

/-- Negative counts are the only ones that are not read as they should be. -/
theorem geminiUsage_kept_iff (data : JsonValue) :
    (∀ counts, geminiUsage ((Adapter.gemini.tidyPayload data).field "usageMetadata") = .ok counts →
      geminiUsage (data.field "usageMetadata") = .ok counts) ↔
      negativeUsage (data.field "usageMetadata") = false := by
  simp only [Adapter.tidyPayload, Adapter.tidy]
  cases wellFormed : readsUsage (data.field "usageMetadata") with
  | true =>
    refine iff_of_true (fun _ => id) ?_
    by_contra negative
    rw [readsUsage_of_negative (by simpa using negative)] at wellFormed
    cases wellFormed
  | false =>
    simp only [Bool.false_eq_true, if_false, JsonValue.field_without_self]
    cases negative : negativeUsage (data.field "usageMetadata") with
    | false => exact iff_of_true (fun counts same => same ▸ geminiUsage_of_unread wellFormed negative) rfl
    | true =>
      obtain ⟨error, failed⟩ := (geminiUsage_eq _).1 negative
      refine iff_of_false (fun kept => ?_) (by simp)
      have answered := kept none rfl
      rw [failed] at answered
      cases answered

end Gemini

namespace Adapter

/-- The body is a payload with a text whose usage raises. -/
def completionFails (adapter : Adapter) (json : BodyDecoder) (response : CompletionResponse) : Bool :=
  match json response.body with
  | .ok data => adapter.hasText data && adapter.usageRaises data
  | .error _ => false

theorem keepsCompletion_iff (adapter : Adapter) (json : BodyDecoder) (response : CompletionResponse) :
    adapter.KeepsCompletion json response ↔ adapter.completionFails json response = false := by
  unfold KeepsCompletion completionFails
  cases parsed : json response.body with
  | error error =>
    refine iff_of_true (fun completion answered => ?_) rfl
    generalize tidyJson : (fun body => (json body).map adapter.tidyPayload) = other at answered
    have failed : other response.body = .error error := by
      simp only [← tidyJson, parsed, Except.map]
    cases adapter <;>
      simp only [completeWithUsage, OpenAI.completeWithUsage, Anthropic.completeWithUsage,
        Gemini.completeWithUsage, meteredCompletion_of_unparsed failed] at answered <;>
      cases answered
  | ok data =>
    cases adapter with
    | openAI =>
      refine iff_of_true ?_ (by simp [usageRaises])
      refine (meteredCompletion_kept_iff parsed ?_).mpr fun _ counts tidied => ?_
      · simp only [tidyPayload, tidy]
        split
        · rfl
        · exact OpenAI.unpackMessage_without data
      · exact congrArg Except.ok (reportedUsage_tidied (Except.ok.inj tidied))
    | anthropic =>
      refine iff_of_true ?_ (by simp [usageRaises])
      refine (meteredCompletion_kept_iff parsed ?_).mpr fun _ counts tidied => ?_
      · simp only [tidyPayload, Anthropic.tidyPayload]
        split
        · rfl
        · exact Anthropic.unpackAnthropicMessage_without data
      · exact congrArg Except.ok (reportedUsage_tidied (Except.ok.inj tidied))
    | gemini =>
      -- The one adapter whose usage can raise, and only where there is a text to lose.
      have unread : Gemini.unpackGeminiText (gemini.tidyPayload data) = Gemini.unpackGeminiText data := by
        simp only [tidyPayload, tidy]
        split
        · rfl
        · exact Gemini.unpackGeminiText_without data
      simp only [completeWithUsage, Gemini.completeWithUsage]
      rw [meteredCompletion_kept_iff parsed unread, Gemini.unpackGeminiText_isOk, Gemini.geminiUsage_kept_iff]
      simp [hasText, usageRaises]

end Adapter

/-! ## The answer -/

/-- Usage comes last, what is ill-formed in it is treated as absent, and the consumer passes a
completed answer on. -/
structure KeepsAnswer (adapter : Adapter) (runtime : AdapterRuntime) (response : SseResponse) : Prop where
  last : UsageLast (adapter.streamWithUsage runtime response).events
  absent : ∀ line ∈ response.lines, adapter.TreatsUsageAsAbsent runtime line
  delivered : (adapter.streamWithUsage (runtime.after adapter.tidy) response).failure = none →
    providerTextStream none (adapter.streamWithUsage runtime response).failure
        (adapter.streamWithUsage runtime response).events =
      ((adapter.streamWithUsage (runtime.after adapter.tidy) response).events.filterMap
        ProviderStreamEvent.text?, none)

/-- Usage never breaks an answer exactly when OpenAI's upstream reports it once, after the
texts, and no line and no completion has a usage that raises. -/
theorem usage_never_breaks_answer_iff (adapter : Adapter) (runtime : AdapterRuntime) (response : SseResponse)
    (json : BodyDecoder) (completion : CompletionResponse) :
    (KeepsAnswer adapter runtime response ↔
      (response.isSuccess = false ∨ adapter.reportsUsageLast runtime response.lines = true) ∧
        ∀ line ∈ response.lines, adapter.usageFails runtime line = false) ∧
    (adapter.KeepsCompletion json completion ↔ adapter.completionFails json completion = false) := by
  refine ⟨?_, adapter.keepsCompletion_iff json completion⟩
  rw [← adapter.usageLast_iff]
  simp only [← Adapter.treatsUsageAsAbsent_iff]
  constructor
  · rintro ⟨last, absent, _⟩
    exact ⟨last, absent⟩
  · rintro ⟨last, absent⟩
    refine ⟨last, absent, fun normal => ?_⟩
    have same := Adapter.streamWithUsage_of_absent absent normal
    rw [providerTextStream_of_usageLast last, same, normal]
    rfl

def usageJson : String :=
  "\x7b\"usage\":\x7b\"prompt_tokens\":1,\"completion_tokens\":1,\"total_tokens\":2\x7d\x7d"

/-- `json.loads` reads that chunk and nothing else. -/
def usageRuntime : AdapterRuntime where
  json :=
    { loads := fun text =>
        if text = usageJson then
          .ok (.object [("usage",
            .object [("prompt_tokens", .int 1), ("completion_tokens", .int 1), ("total_tokens", .int 2)])])
        else .error .valueError
      dumps := fun _ => ""
      repr := fun _ => "" }
  decodeError := fun _ => true

/-- A stream of OpenAI that repeats its usage fails in the consumer. -/
theorem repeated_usage_fails :
    ¬∀ (adapter : Adapter) (runtime : AdapterRuntime) (response : SseResponse)
      (json : BodyDecoder) (completion : CompletionResponse),
      KeepsAnswer adapter runtime response ∧ adapter.KeepsCompletion json completion := by
  intro kept
  have delivered := (kept .openAI usageRuntime ⟨200, ["data: " ++ usageJson, "data: " ++ usageJson]⟩
    (fun _ => .error .valueError) ⟨200, []⟩).1.delivered (by decide +kernel)
  have ended : ((Adapter.openAI.streamWithUsage usageRuntime
      ⟨200, ["data: " ++ usageJson, "data: " ++ usageJson]⟩).failure,
      (providerTextStream none none (Adapter.openAI.streamWithUsage usageRuntime
        ⟨200, ["data: " ++ usageJson, "data: " ++ usageJson]⟩).events).2) =
      (none, some .duplicateUsage) := by
    decide +kernel
  obtain ⟨normal, failed⟩ := Prod.mk.inj ended
  rw [normal] at delivered
  rw [delivered] at failed
  cases failed

end Eiraos
