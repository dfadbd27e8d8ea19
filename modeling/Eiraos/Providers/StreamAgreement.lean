import Eiraos.Providers.LineReadings

/-! # When the two streaming paths agree

For each adapter the kind of a line is read off the value it carries, and it is what the
readings of the two paths have in common.  The comparison of whole responses is then
`agree_iff`.
-/

namespace Eiraos

open PythonJson PythonText LineLoop

/-! ## Kinds of lines -/

namespace OpenAI

def chunkKind (chunk : JsonValue) : LineKind JsonValue :=
  if chunk.isObject = false then .rejected
  else if (chunk.field "error").truthy then .reported
  else if rejectedWithUsage chunk then .secondRejects []
  else .texts (chunkText chunk)

def lineKind (runtime : AdapterRuntime) (line : String) : LineKind JsonValue :=
  match sseData? line with
  | none => .texts []
  | some data =>
    if data = "[DONE]" then .breaks
    else
      match runtime.loads data with
      | .ok chunk => chunkKind chunk
      | .error .jsonDecodeError => .texts []
      | .error failure => if isCorruptChunk failure then .secondRejects [] else .rejected

end OpenAI

namespace Anthropic

/-- A `delta` that is null, empty or zero fails `stream` only. -/
def deltaKind : Option JsonValue → LineKind JsonValue
  | none => .texts []
  | some delta =>
    if delta.isObject then .texts (deltaText delta)
    else if delta.truthy then .rejected
    else .firstRejects []

def eventKind (event : JsonValue) : LineKind JsonValue :=
  if event.isObject = false then .rejected
  else if (event.field "type").isText "error" then .reported
  else if (event.field "type").isText "content_block_delta" then deltaKind (event.member "delta")
  else if (event.field "type").isText "message_start" && malformedStart event then .secondRejects []
  else if (event.field "type").isText "message_delta" && malformedDelta event then .secondRejects []
  else .texts []

end Anthropic

namespace Gemini

/-- A `content` that is null, empty or zero fails `stream` only. -/
def contentKind : Option JsonValue → LineKind JsonValue
  | none => .texts []
  | some content =>
    if content.isObject then
      match (content.field "parts" (.array [])).iterate with
      | .ok parts => .texts (parts.flatMap partTexts)
      | .error _ => .rejected
    else if content.truthy then .rejected
    else .firstRejects []

def candidatesKind (candidates : JsonValue) : LineKind JsonValue :=
  if unindexable candidates then .rejected
  else
    match firstObject? candidates with
    | some candidate => contentKind (candidate.member "content")
    | none => .texts []

def chunkKind (chunk : JsonValue) : LineKind JsonValue :=
  if chunk.isObject = false then .rejected
  else if (chunk.field "error").truthy then .reported
  else if negativeUsage (chunk.field "usageMetadata") then
    match candidatesKind (chunk.field "candidates") with
    | .texts emitted => .secondRejects emitted
    | _ => .rejected
  else candidatesKind (chunk.field "candidates")

end Gemini

/-- The kind of a line whose value has a kind. -/
def valueKind (runtime : AdapterRuntime) (kind : JsonValue → LineKind JsonValue) (line : String) :
    LineKind JsonValue :=
  match sseData? line with
  | none => .texts []
  | some data =>
    match runtime.loads data with
    | .ok value => kind value
    | .error .jsonDecodeError => .texts []
    | .error _ => .rejected

namespace Adapter

def lineKind : Adapter → AdapterRuntime → String → LineKind JsonValue
  | .openAI, runtime => OpenAI.lineKind runtime
  | .anthropic, runtime => valueKind runtime Anthropic.eventKind
  | .gemini, runtime => valueKind runtime Gemini.chunkKind

/-- The provider reports an error in this event. -/
def isError : Adapter → JsonValue → Bool
  | .anthropic, event => (event.field "type").isText "error"
  | _, chunk => (chunk.field "error").truthy

/-- The line is an error event of the provider. -/
def reportsError (adapter : Adapter) (runtime : AdapterRuntime) (line : String) : Prop :=
  match sseData? line with
  | none => False
  | some data =>
    if adapter = .openAI ∧ data = "[DONE]" then False
    else
      match runtime.loads data with
      | .ok event => adapter.isError event = true
      | .error _ => False

end Adapter

/-! ## Kinds and readings -/

theorem OpenAI.chunkKind_reads (chunk : JsonValue) :
    (chunkKind chunk).FirstReads (plainReading chunk) ∧
      (chunkKind chunk).SecondReads (meteredReading chunk) := by
  unfold chunkKind plainReading meteredReading
  cases chunk.isObject with
  | false => exact ⟨rfl, rfl⟩
  | true =>
    cases (chunk.field "error").truthy with
    | true => exact ⟨trivial, trivial⟩
    | false =>
      cases rejected : rejectedWithUsage chunk with
      | true =>
        -- `stream` skips the chunk, in which there is no text.
        rw [chunkText_of_rejected rejected]
        exact ⟨rfl, rfl⟩
      | false => exact ⟨rfl, rfl⟩

namespace Anthropic

theorem deltaKind_reads (delta : Option JsonValue) :
    (deltaKind delta).FirstReads (deltaReading false delta) ∧
      (deltaKind delta).SecondReads (deltaReading true delta) := by
  cases delta with
  | none => exact ⟨rfl, rfl⟩
  | some delta =>
    simp only [deltaKind, deltaReading]
    cases delta.isObject with
    | true => exact ⟨rfl, rfl⟩
    | false => cases delta.truthy <;> exact ⟨rfl, rfl⟩

theorem eventKind_reads (event : JsonValue) :
    (eventKind event).FirstReads (plainReading event) ∧
      (eventKind event).SecondReads (meteredReading event) := by
  unfold eventKind plainReading meteredReading
  cases event.isObject with
  | false => exact ⟨rfl, rfl⟩
  | true =>
    cases (event.field "type").isText "error" with
    | true => exact ⟨trivial, trivial⟩
    | false =>
      cases (event.field "type").isText "content_block_delta" with
      | true => exact deltaKind_reads _
      | false =>
        -- `stream` reads no usage, so a malformed one fails the other path only.
        cases (event.field "type").isText "message_start" && malformedStart event with
        | true => exact ⟨rfl, rfl⟩
        | false =>
          cases (event.field "type").isText "message_delta" && malformedDelta event <;> exact ⟨rfl, rfl⟩

end Anthropic

namespace Gemini

theorem contentKind_reads (content : Option JsonValue) :
    (contentKind content).FirstReads (contentReading false content) ∧
      (contentKind content).SecondReads (contentReading true content) := by
  cases content with
  | none => exact ⟨rfl, rfl⟩
  | some content =>
    simp only [contentKind, contentReading]
    cases content.isObject with
    | true => cases (content.field "parts" (.array [])).iterate <;> exact ⟨rfl, rfl⟩
    | false => cases content.truthy <;> exact ⟨rfl, rfl⟩

theorem candidatesKind_reads (candidates : JsonValue) :
    (candidatesKind candidates).FirstReads (candidatesReading false candidates) ∧
      (candidatesKind candidates).SecondReads (candidatesReading true candidates) := by
  unfold candidatesKind candidatesReading
  cases unindexable candidates with
  | true => exact ⟨rfl, rfl⟩
  | false =>
    cases firstObject? candidates with
    | none => exact ⟨rfl, rfl⟩
    | some candidate => exact contentKind_reads _

theorem candidatesKind_cases (candidates : JsonValue) :
    (∃ emitted, candidatesKind candidates = .texts emitted) ∨ candidatesKind candidates = .rejected ∨
      candidatesKind candidates = .firstRejects [] := by
  unfold candidatesKind
  split
  · exact .inr (.inl rfl)
  · split
    next candidate _ =>
      unfold contentKind
      split
      · exact .inl ⟨_, rfl⟩
      · split
        · split
          · exact .inl ⟨_, rfl⟩
          · exact .inr (.inl rfl)
        · split
          · exact .inr (.inl rfl)
          · exact .inr (.inr rfl)
    · exact .inl ⟨_, rfl⟩

theorem chunkKind_reads (chunk : JsonValue) :
    (chunkKind chunk).FirstReads (plainReading chunk) ∧
      (chunkKind chunk).SecondReads (meteredReading chunk) := by
  have reads := candidatesKind_reads (chunk.field "candidates")
  unfold chunkKind plainReading meteredReading
  cases chunk.isObject with
  | false => exact ⟨rfl, rfl⟩
  | true =>
    cases (chunk.field "error").truthy with
    | true => exact ⟨trivial, trivial⟩
    | false =>
      cases negativeUsage (chunk.field "usageMetadata") with
      | false => exact reads
      | true =>
        -- `stream` reads the candidates of a chunk whose usage fails the other path.
        simp only [Bool.false_eq_true, if_false, if_true, Bool.true_eq_false]
        rcases candidatesKind_cases (chunk.field "candidates") with ⟨emitted, known⟩ | known | known <;>
          rw [known] at reads ⊢ <;> exact ⟨reads.1, rfl⟩

end Gemini

theorem valueKind_reads {adapter : Adapter} (guarded : adapter ≠ .openAI)
    {kind : JsonValue → LineKind JsonValue}
    (reads : ∀ value, (kind value).FirstReads (adapter.reading .plain value) ∧
      (kind value).SecondReads (adapter.reading .metered value))
    (runtime : AdapterRuntime) (line : String) :
    (valueKind runtime kind line).FirstReads (adapter.lineReading .plain runtime line) ∧
      (valueKind runtime kind line).SecondReads (adapter.lineReading .metered runtime line) := by
  unfold valueKind Adapter.lineReading
  cases sseData? line with
  | none => exact ⟨rfl, rfl⟩
  | some data =>
    have unmarked : ¬(adapter = .openAI ∧ data = "[DONE]") := fun marked => guarded marked.1
    simp only [if_neg unmarked]
    cases runtime.loads data with
    | ok value => exact reads value
    | error failure =>
      cases adapter with
      | openAI => exact absurd rfl guarded
      | anthropic => cases failure <;> exact ⟨rfl, rfl⟩
      | gemini => cases failure <;> exact ⟨rfl, rfl⟩

/-- The kind of a line is what the two paths read in it. -/
theorem Adapter.lineKind_reads (adapter : Adapter) (runtime : AdapterRuntime) (line : String) :
    (adapter.lineKind runtime line).FirstReads (adapter.lineReading .plain runtime line) ∧
      (adapter.lineKind runtime line).SecondReads (adapter.lineReading .metered runtime line) := by
  cases adapter with
  | anthropic => exact @valueKind_reads .anthropic (by decide) _ Anthropic.eventKind_reads runtime line
  | gemini => exact @valueKind_reads .gemini (by decide) _ Gemini.chunkKind_reads runtime line
  | openAI =>
    simp only [lineKind, OpenAI.lineKind, lineReading, true_and]
    cases sseData? line with
    | none => exact ⟨rfl, rfl⟩
    | some data =>
      by_cases done : data = "[DONE]"
      · simp only [if_pos done]
        exact ⟨rfl, rfl⟩
      · simp only [if_neg done]
        cases runtime.loads data with
        | ok chunk => exact OpenAI.chunkKind_reads chunk
        | error failure =>
          cases failure with
          | python error => cases error <;> exact ⟨rfl, rfl⟩
          | _ => exact ⟨rfl, rfl⟩

section Does

variable {adapter : Adapter} {runtime : AdapterRuntime} {texts : List JsonValue}
  {ending : LineEnding AdapterFailure} {line : String}

theorem Adapter.first_of_reads (reads : (adapter.lineReading .plain runtime line).Of texts ending) :
    (adapter.lineKind runtime line).First texts ending :=
  LineKind.first_of_reads reads (adapter.lineKind_reads runtime line).1

theorem Adapter.second_of_reads (reads : (adapter.lineReading .metered runtime line).Of texts ending) :
    (adapter.lineKind runtime line).Second texts ending :=
  LineKind.second_of_reads reads (adapter.lineKind_reads runtime line).2

end Does

/-! ## Failures and error events -/

theorem AdapterRuntime.loads_not_eiraos {runtime : AdapterRuntime} {data : String} {failure : AdapterFailure}
    (failed : runtime.loads data = .error failure) : ¬failure.isEiraos := by
  unfold loads at failed
  split at failed
  · cases failed
  · cases failed
    split <;> exact not_false
  · cases failed
    exact not_false

theorem guardedLine_raises {State Event : Type} {runtime : AdapterRuntime}
    {body : State → JsonValue → Except AdapterFailure (State × List Event)} {state : State} {line : String}
    {failure : AdapterFailure} (raised : (guardedLine runtime body state line).ending = .raises failure) :
    (∃ data, runtime.loads data = .error failure) ∨ ∃ value, body state value = .error failure := by
  unfold guardedLine at raised
  split at raised
  next => cases raised
  next data _ =>
    split at raised
    next => cases raised
    next failed _ =>
      cases raised
      exact .inl ⟨data, ‹_›⟩
    next value _ =>
      split at raised
      next => cases raised
      next failed =>
        cases raised
        exact .inr ⟨value, failed⟩

theorem mapError_python_not_eiraos {Value : Type} {result : Except PythonError Value}
    {failure : AdapterFailure} (failed : result.mapError AdapterFailure.python = .error failure) :
    ¬failure.isEiraos := by
  cases result with
  | ok => cases failed
  | error =>
    cases failed
    exact not_false

theorem OpenAI.usageLine_not_eiraos {runtime : AdapterRuntime} {state : Unit} {line : String}
    {failure : AdapterFailure} (raised : (usageLine runtime state line).ending = .raises failure) :
    ¬failure.isEiraos := by
  unfold usageLine at raised
  split at raised
  next => cases raised
  next data _ =>
    split at raised
    next => cases raised
    next =>
      split at raised
      next => cases raised
      next failed =>
        cases raised
        exact AdapterRuntime.loads_not_eiraos ‹runtime.loads data = .error failure›
      next =>
        split at raised
        next =>
          cases raised
          exact not_false
        next =>
          split at raised
          next => cases raised
          next =>
            cases raised
            exact not_false

namespace Adapter

theorem deltaKind_ne_reported (delta : Option JsonValue) : Anthropic.deltaKind delta ≠ .reported := by
  unfold Anthropic.deltaKind
  split
  · exact fun same => by cases same
  · split
    · exact fun same => by cases same
    · split <;> exact fun same => by cases same

/-- A value that is no dictionary reports no error. -/
theorem isError_isObject {adapter : Adapter} {event : JsonValue} (told : adapter.isError event = true) :
    event.isObject = true := by
  by_contra other
  have absent (key : String) := JsonValue.field_of_not_object (by simpa using other) key .null
  cases adapter <;> simp [isError, absent, JsonValue.truthy, JsonValue.isText] at told

theorem openAI_reported {chunk : JsonValue} :
    OpenAI.chunkKind chunk = .reported ↔ isError .openAI chunk = true := by
  constructor
  · intro reported
    unfold OpenAI.chunkKind at reported
    split at reported
    · cases reported
    · split at reported
      next told => exact told
      next => split at reported <;> cases reported
  · intro told
    have isObject := isError_isObject told
    simp only [isError] at told
    simp [OpenAI.chunkKind, isObject, told]

theorem anthropic_reported {event : JsonValue} :
    Anthropic.eventKind event = .reported ↔ isError .anthropic event = true := by
  constructor
  · intro reported
    unfold Anthropic.eventKind at reported
    split at reported
    · cases reported
    · split at reported
      next told => exact told
      next =>
        split at reported
        · exact absurd reported (deltaKind_ne_reported _)
        · split at reported
          · cases reported
          · split at reported <;> cases reported
  · intro told
    have isObject := isError_isObject told
    simp only [isError] at told
    simp [Anthropic.eventKind, isObject, told]

theorem gemini_reported {chunk : JsonValue} :
    Gemini.chunkKind chunk = .reported ↔ isError .gemini chunk = true := by
  constructor
  · intro reported
    unfold Gemini.chunkKind at reported
    split at reported
    · cases reported
    · split at reported
      next told => exact told
      next =>
        split at reported
        · split at reported <;> cases reported
        · rcases Gemini.candidatesKind_cases (chunk.field "candidates") with ⟨_, known⟩ | known | known <;>
            rw [known] at reported <;> cases reported
  · intro told
    have isObject := isError_isObject told
    simp only [isError] at told
    simp [Gemini.chunkKind, isObject, told]

theorem valueKind_reported {adapter : Adapter} {kind : JsonValue → LineKind JsonValue}
    {runtime : AdapterRuntime} {line : String} (guarded : adapter ≠ .openAI)
    (reported : ∀ event, kind event = .reported ↔ adapter.isError event = true) :
    valueKind runtime kind line = .reported ↔ adapter.reportsError runtime line := by
  unfold valueKind reportsError
  cases sseData? line with
  | none => exact ⟨fun same => (by cases same), False.elim⟩
  | some data =>
    have unmarked : ¬(adapter = .openAI ∧ data = "[DONE]") := fun marked => guarded marked.1
    simp only [if_neg unmarked]
    cases runtime.loads data with
    | ok event => exact reported event
    | error failure => cases failure <;> exact ⟨fun same => (by cases same), False.elim⟩

/-- The lines whose kind is a reported error are the provider's error events. -/
theorem lineKind_reported (adapter : Adapter) (runtime : AdapterRuntime) (line : String) :
    adapter.lineKind runtime line = .reported ↔ adapter.reportsError runtime line := by
  cases adapter with
  | anthropic => exact valueKind_reported (by decide) fun _ => anthropic_reported
  | gemini => exact valueKind_reported (by decide) fun _ => gemini_reported
  | openAI =>
    simp only [lineKind, OpenAI.lineKind, reportsError, true_and]
    cases sseData? line with
    | none => exact ⟨fun same => (by cases same), False.elim⟩
    | some data =>
      by_cases done : data = "[DONE]"
      · simp [done]
      · simp only [if_neg done]
        cases runtime.loads data with
        | ok chunk => exact openAI_reported
        | error failure =>
          cases failure with
          | python error => cases error <;> simp [OpenAI.isCorruptChunk]
          | _ => simp [OpenAI.isCorruptChunk]

end Adapter

/-! ## Whole responses -/

namespace Adapter

variable {adapter : Adapter} {runtime : AdapterRuntime} {response : SseResponse}

/-- Without a success status both paths fail before the first line. -/
theorem agree_of_failure (failed : response.isSuccess = false) :
    Agree (fun line => adapter.lineKind runtime line = .reported) AdapterFailure.isEiraos
      (adapter.stream runtime response)
      ((adapter.streamWithUsage runtime response).erase ProviderStreamEvent.text?) := by
  cases adapter with
  | openAI =>
    simp only [stream, OpenAI.stream, streamResponse, streamWithUsage, OpenAI.streamWithUsage, usageResponse,
      failed, Bool.false_eq_true, if_false]
    exact ⟨rfl, by simp, fun line read => by simp [Transcript.erase] at read⟩
  | anthropic =>
    simp only [stream, Anthropic.stream, streamResponse, streamWithUsage, Anthropic.streamWithUsage,
      usageResponse, failed, Bool.false_eq_true, if_false]
    exact ⟨rfl, by simp, fun line read => by simp [Transcript.erase] at read⟩
  | gemini =>
    simp only [stream, Gemini.stream, streamResponse, streamWithUsage, Gemini.streamWithUsage, usageResponse,
      failed, Bool.false_eq_true, if_false]
    exact ⟨rfl, by simp, fun line read => by simp [Transcript.erase] at read⟩

theorem agree_of_success (succeeded : response.isSuccess = true) :
    Agree (fun line => adapter.lineKind runtime line = .reported) AdapterFailure.isEiraos
        (adapter.stream runtime response)
        ((adapter.streamWithUsage runtime response).erase ProviderStreamEvent.text?) ↔
      LineKind.Agreeable (response.lines.map (adapter.lineKind runtime)) := by
  cases adapter with
  | openAI =>
    simp only [stream, OpenAI.stream, streamResponse, streamWithUsage, OpenAI.streamWithUsage, usageResponse,
      succeeded, if_true]
    rw [← erase_some (loop _ _ _ _)]
    exact agree_iff (fun _ line => first_of_reads (OpenAI.streamLine_reads runtime line))
      (fun _ line => second_of_reads (OpenAI.usageLine_reads runtime line))
      (fun _ => rfl) (fun _ => rfl) (fun _ _ _ => OpenAI.usageLine_not_eiraos) () () response.lines
  | anthropic =>
    simp only [stream, Anthropic.stream, streamResponse, streamWithUsage, Anthropic.streamWithUsage,
      usageResponse, succeeded, if_true]
    rw [← erase_some (loop _ _ _ _)]
    refine agree_iff (fun _ line => first_of_reads (Anthropic.streamLine_reads runtime line))
      (fun counts line => second_of_reads (Anthropic.usageLine_reads runtime counts line))
      (fun _ => rfl) (fun counts => ?_) (fun _ _ failure raised => ?_) () _ response.lines
    · unfold Anthropic.finish
      split <;> rfl
    · rcases guardedLine_raises raised with ⟨_, failed⟩ | ⟨_, failed⟩
      · exact AdapterRuntime.loads_not_eiraos failed
      · exact mapError_python_not_eiraos failed
  | gemini =>
    simp only [stream, Gemini.stream, streamResponse, streamWithUsage, Gemini.streamWithUsage, usageResponse,
      succeeded, if_true]
    rw [← erase_some (loop _ _ _ _)]
    refine agree_iff (fun _ line => first_of_reads (Gemini.streamLine_reads runtime line))
      (fun usage line => second_of_reads (Gemini.usageLine_reads runtime usage line))
      (fun _ => rfl) (fun usage => filterMap_usages _) (fun _ _ failure raised => ?_) () _ response.lines
    rcases guardedLine_raises raised with ⟨_, failed⟩ | ⟨_, failed⟩
    · exact AdapterRuntime.loads_not_eiraos failed
    · exact mapError_python_not_eiraos failed

end Adapter

/-- The two streaming paths of an adapter agree exactly on the agreeable lines. -/
theorem streams_agree_iff (adapter : Adapter) (runtime : AdapterRuntime) (response : SseResponse) :
    Agree (adapter.reportsError runtime) AdapterFailure.isEiraos (adapter.stream runtime response)
        ((adapter.streamWithUsage runtime response).erase ProviderStreamEvent.text?) ↔
      (response.isSuccess = true →
        LineKind.Agreeable (response.lines.map (adapter.lineKind runtime))) := by
  have events : adapter.reportsError runtime = fun line => adapter.lineKind runtime line = .reported :=
    funext fun line => propext (adapter.lineKind_reported runtime line).symm
  rw [events]
  cases status : response.isSuccess with
  | true =>
    rw [Adapter.agree_of_success status]
    exact ⟨fun agreeable _ => agreeable, fun agreeable => agreeable rfl⟩
  | false => exact iff_of_true (Adapter.agree_of_failure status) fun succeeded => by cases succeeded

/-- An error object of the upstream. -/
def errorJson : String := "\x7b\"error\":\x7b\"message\":\"internal\"\x7d\x7d"

/-- `json.loads` reads that object and nothing else. -/
def errorRuntime : AdapterRuntime where
  json :=
    { loads := fun text =>
        if text = errorJson then .ok (.object [("error", .object [("message", .string "internal")])])
        else .error .valueError
      dumps := fun _ => ""
      repr := fun _ => "" }
  decodeError := fun _ => true

/-- `stream_with_usage` ignores an error event of the provider and ends as if the answer
were complete. -/
theorem reported_error_unnoticed :
    ¬∀ (adapter : Adapter) (runtime : AdapterRuntime) (response : SseResponse),
      Agree (adapter.reportsError runtime) AdapterFailure.isEiraos (adapter.stream runtime response)
        ((adapter.streamWithUsage runtime response).erase ProviderStreamEvent.text?) := by
  intro agree
  have normal := (agree .openAI errorRuntime ⟨200, ["data: " ++ errorJson]⟩).normal
  have failed : ((Adapter.openAI.stream errorRuntime ⟨200, ["data: " ++ errorJson]⟩).failure = none) =
      False := by
    decide +kernel
  rw [failed] at normal
  exact normal.mpr (by decide +kernel)

end Eiraos
