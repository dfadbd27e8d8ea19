import Eiraos.Foundations.LineReading
import Eiraos.Providers.Policy
import Eiraos.Providers.Streams

/-! # What the streaming paths read in a line

For each adapter and each of its two paths the reading of a line is taken from the value it
carries, and the bodies of the six loops are shown to do what the reading says.
-/

namespace Eiraos

open PythonJson LineLoop

/-! ## Parts of a value -/

/-- The dictionary at the head of a list. -/
def firstObject? : JsonValue → Option JsonValue
  | .array (item :: _) => if item.isObject then some item else none
  | _ => none

/-- A true value that has no first item: a number, a dictionary or `True`. -/
def unindexable : JsonValue → Bool
  | .array _ | .string _ => false
  | items => items.truthy

namespace OpenAI

def chunkText (chunk : JsonValue) : List JsonValue :=
  match firstObject? (chunk.field "choices") with
  | some choice => truthyText ((choice.field "delta").field "content")
  | none => []

/-- A `delta` that is neither empty nor a dictionary. -/
def malformedChoice (choice : JsonValue) : Bool :=
  (choice.field "delta").truthy && !(choice.field "delta").isObject

def rejectedWithUsage (chunk : JsonValue) : Bool :=
  unindexable (chunk.field "choices") || (firstObject? (chunk.field "choices")).any malformedChoice

end OpenAI

namespace Anthropic

def deltaText (delta : JsonValue) : List JsonValue :=
  if (delta.field "type").isText "text_delta" then truthyText (delta.field "text") else []

/-- The `message` of a `message_start`, or its `usage`, is no dictionary. -/
def malformedStart (event : JsonValue) : Bool :=
  let message := event.field "message"
  if message.isObject then !(message.field "usage" (.object [])).isObject else message.truthy

/-- The `usage` of a `message_delta` is no dictionary. -/
def malformedDelta (event : JsonValue) : Bool :=
  (event.field "usage").truthy && !(event.field "usage").isObject

end Anthropic

namespace Gemini

/-- The prompt count is negative and not above the total. -/
def negativeUsage (metadata : JsonValue) : Bool :=
  match integer? (metadata.field "promptTokenCount"), integer? (metadata.field "totalTokenCount") with
  | some prompt, some total => prompt < 0 ∧ prompt ≤ total
  | _, _ => false

end Gemini

namespace Adapter

def stream : Adapter → AdapterRuntime → SseResponse → StreamTranscript JsonValue
  | .openAI => OpenAI.stream
  | .anthropic => Anthropic.stream
  | .gemini => Gemini.stream

def streamWithUsage : Adapter → AdapterRuntime → SseResponse → StreamTranscript ProviderStreamEvent
  | .openAI => OpenAI.streamWithUsage
  | .anthropic => Anthropic.streamWithUsage
  | .gemini => Gemini.streamWithUsage

end Adapter

/-! ## Readings -/

/-- `stream` and `stream_with_usage`. -/
inductive StreamPath where
  | plain
  | metered
  deriving DecidableEq, Repr

/-- The texts a path emits, and how it ends. -/
def StreamPath.transcript : StreamPath → Adapter → AdapterRuntime → SseResponse → StreamTranscript JsonValue
  | .plain, adapter, runtime, response => adapter.stream runtime response
  | .metered, adapter, runtime, response =>
    (adapter.streamWithUsage runtime response).erase ProviderStreamEvent.text?

namespace OpenAI

/-- `stream` skips whatever is wrong in an object without an error. -/
def plainReading (chunk : JsonValue) : Reading JsonValue :=
  if chunk.isObject && !(chunk.field "error").truthy then .emits (chunkText chunk) else .fails

/-- `stream_with_usage` ignores an error, and raises for choices or a delta it cannot index. -/
def meteredReading (chunk : JsonValue) : Reading JsonValue :=
  if chunk.isObject && !rejectedWithUsage chunk then .emits (chunkText chunk) else .fails

end OpenAI

namespace Anthropic

/-- The delta of a `content_block_delta`; `falsy` says whether a null, an empty or a zero one
is read as an empty object. -/
def deltaReading (falsy : Bool) : Option JsonValue → Reading JsonValue
  | none => .emits []
  | some delta =>
    if delta.isObject then .emits (deltaText delta)
    else if falsy && !delta.truthy then .emits []
    else .fails

def plainReading (event : JsonValue) : Reading JsonValue :=
  if event.isObject && !(event.field "type").isText "error" then
    if (event.field "type").isText "content_block_delta" then deltaReading false (event.member "delta")
    else .emits []
  else .fails

def meteredReading (event : JsonValue) : Reading JsonValue :=
  if event.isObject = false then .fails
  else if (event.field "type").isText "content_block_delta" then deltaReading true (event.member "delta")
  else if (event.field "type").isText "message_start" && malformedStart event then .fails
  else if (event.field "type").isText "message_delta" && malformedDelta event then .fails
  else .emits []

end Anthropic

namespace Gemini

/-- The content of a candidate; `falsy` is as for a delta. -/
def contentReading (falsy : Bool) : Option JsonValue → Reading JsonValue
  | none => .emits []
  | some content =>
    if content.isObject then
      match (content.field "parts" (.array [])).iterate with
      | .ok parts => .emits (parts.flatMap partTexts)
      | .error _ => .fails
    else if falsy && !content.truthy then .emits []
    else .fails

def candidatesReading (falsy : Bool) (candidates : JsonValue) : Reading JsonValue :=
  if unindexable candidates then .fails
  else
    match firstObject? candidates with
    | some candidate => contentReading falsy (candidate.member "content")
    | none => .emits []

def plainReading (chunk : JsonValue) : Reading JsonValue :=
  if chunk.isObject && !(chunk.field "error").truthy then candidatesReading false (chunk.field "candidates")
  else .fails

def meteredReading (chunk : JsonValue) : Reading JsonValue :=
  if chunk.isObject && !negativeUsage (chunk.field "usageMetadata") then
    candidatesReading true (chunk.field "candidates")
  else .fails

end Gemini

namespace Adapter

/-- What a path does with the value of a line. -/
def reading : Adapter → StreamPath → JsonValue → Reading JsonValue
  | .openAI, .plain => OpenAI.plainReading
  | .openAI, .metered => OpenAI.meteredReading
  | .anthropic, .plain => Anthropic.plainReading
  | .anthropic, .metered => Anthropic.meteredReading
  | .gemini, .plain => Gemini.plainReading
  | .gemini, .metered => Gemini.meteredReading

/-- The exceptions of `json.loads` a path skips a line for. -/
def skipsFailure : Adapter → StreamPath → AdapterFailure → Bool
  | .openAI, .plain, failure => OpenAI.isCorruptChunk failure
  | _, _, .jsonDecodeError => true
  | _, _, _ => false

def lineReading (adapter : Adapter) (path : StreamPath) (runtime : AdapterRuntime) (line : String) :
    Reading JsonValue :=
  match sseData? line with
  | none => .emits []
  | some data =>
    if adapter = .openAI ∧ data = "[DONE]" then
      match path with
      | .plain => .breaks
      | .metered => .emits []
    else
      match runtime.loads data with
      | .ok value => adapter.reading path value
      | .error failure => if adapter.skipsFailure path failure then .emits [] else .fails

end Adapter

/-! ## OpenAI -/

theorem truthyText_null : truthyText .null = [] := rfl

theorem firstObject?_isObject {items item : JsonValue} (found : firstObject? items = some item) :
    item.isObject = true := by
  unfold firstObject? at found
  split at found
  · split at found
    next isObject =>
      cases found
      exact isObject
    next => cases found
  · cases found

section FirstObject

variable {items : JsonValue} {texts : JsonValue → Except PythonError (List JsonValue)}

/-- `items or []` has the same first item. -/
theorem firstObjectTexts_orDefault :
    firstObjectTexts (items.orDefault (.array [])) texts = firstObjectTexts items texts := by
  cases truth : items.truthy with
  | true => rw [JsonValue.orDefault_of_truthy truth]
  | false =>
    rw [JsonValue.orDefault_of_falsy truth, firstObjectTexts, firstObjectTexts, truth]
    rfl

theorem firstObjectTexts_of_unindexable (fails : unindexable items = true) :
    ∃ error, firstObjectTexts items texts = .error error := by
  have truth : items.truthy = true := by
    cases items with
    | array => cases fails
    | string => cases fails
    | _ => exact fails
  rw [firstObjectTexts, if_pos truth]
  cases items with
  | array => cases fails
  | string => cases fails
  | _ => exact ⟨_, rfl⟩

theorem firstObjectTexts_of_indexable (indexes : unindexable items = false) :
    firstObjectTexts items texts =
      match firstObject? items with
      | some item => texts item
      | none => .ok [] := by
  cases items with
  | array items =>
    cases items with
    | nil => rfl
    | cons item later =>
      simp only [firstObjectTexts, JsonValue.truthy_cons, if_true, JsonValue.first, firstObject?, bind,
        Except.bind]
      cases item.isObject <;> rfl
  | string text =>
    cases truth : (JsonValue.string text).truthy with
    | false =>
      rw [firstObjectTexts, truth]
      rfl
    | true =>
      simp only [firstObjectTexts, truth, if_true, JsonValue.first]
      cases characters : text.toList with
      | nil =>
        have empty : text = "" := String.toList_eq_nil_iff.mp characters
        simp [JsonValue.truthy, empty] at truth
      | cons => rfl
  | _ =>
    simp only [unindexable] at indexes
    rw [firstObjectTexts, indexes]
    rfl

end FirstObject

namespace OpenAI

/-- A chunk is read without an exception, or it holds no text and is skipped. -/
inductive Skips (texts : List JsonValue) : Except PythonError (List JsonValue) → Prop where
  | ok : Skips texts (.ok texts)
  | corrupt {error : PythonError} (skipped : isCorruptChunk (.python error) = true) (none : texts = []) :
      Skips texts (.error error)

theorem deltaTexts_skips (delta : JsonValue) :
    Skips (truthyText (delta.field "content")) (deltaTexts delta) := by
  unfold deltaTexts
  cases delta with
  | object members =>
    cases found : JsonValue.member? members "content" with
    | none =>
      simp only [JsonValue.contains, JsonValue.field, found, Option.isSome_none, bind, Except.bind,
        Bool.false_eq_true, if_false, Option.getD_none, truthyText_null]
      exact .ok
    | some content =>
      simp only [JsonValue.contains, JsonValue.field, JsonValue.subscript, found, Option.isSome_some, bind,
        Except.bind, if_true, Option.getD_some]
      exact .ok
  | array items =>
    simp only [JsonValue.contains, JsonValue.field, JsonValue.subscript, bind, Except.bind, truthyText_null]
    split
    · exact .corrupt rfl rfl
    · exact .ok
  | string text =>
    simp only [JsonValue.contains, JsonValue.field, JsonValue.subscript, bind, Except.bind, truthyText_null]
    split
    · exact .corrupt rfl rfl
    · exact .ok
  | null => exact .corrupt rfl rfl
  | bool => exact .corrupt rfl rfl
  | int => exact .corrupt rfl rfl
  | float => exact .corrupt rfl rfl

theorem choiceTexts_skips {chunk : JsonValue} (isObject : chunk.isObject = true) :
    Skips (chunkText chunk) (choiceTexts chunk) := by
  cases chunk with
  | object members =>
    cases found : JsonValue.member? members "choices" with
    | none =>
      simp only [choiceTexts, chunkText, JsonValue.subscript, JsonValue.field, found, bind, Except.bind]
      exact .corrupt rfl rfl
    | some choices =>
      simp only [choiceTexts, chunkText, JsonValue.subscript, JsonValue.field, found, bind, Except.bind,
        Option.getD_some]
      cases choices with
      | array items =>
        cases items with
        | nil => exact .corrupt rfl rfl
        | cons choice later =>
          simp only [JsonValue.first, firstObject?]
          cases choice with
          | object inner =>
            cases named : JsonValue.member? inner "delta" with
            | none =>
              simp only [named]
              exact .corrupt rfl (by simp [JsonValue.isObject, named, truthyText_null])
            | some delta =>
              simp only [JsonValue.isObject, if_true, named, Option.getD_some]
              exact deltaTexts_skips delta
          | _ => exact .corrupt rfl rfl
      | string text =>
        -- `choices[0]` is a character, which has no `delta`.
        simp only [JsonValue.first]
        cases text.toList <;> exact .corrupt rfl rfl
      | _ => exact .corrupt rfl rfl
  | _ => cases isObject

/-- What `stream` does with a chunk that reports no error. -/
theorem chunkTexts_of_plain {chunk : JsonValue} (isObject : chunk.isObject = true)
    (plain : (chunk.field "error").truthy = false) :
    chunkTexts chunk = (choiceTexts chunk).mapError .python := by
  simp [chunkTexts, JsonValue.get_of_object isObject, plain, bind, Except.bind, Except.mapError]

/-- What `stream_with_usage` does with the first choice. -/
theorem choiceContent_eq {choice : JsonValue} (isChoice : choice.isObject = true) :
    choiceContent choice =
      if malformedChoice choice then .error .attributeError
      else .ok (truthyText ((choice.field "delta").field "content")) := by
  simp only [choiceContent, JsonValue.get_of_object isChoice, bind, Except.bind, JsonValue.get_orDefault,
    malformedChoice]
  by_cases truth : (choice.field "delta").truthy = true <;>
    by_cases isDelta : (choice.field "delta").isObject = true <;>
      simp [truth, isDelta, pure, Except.pure]

theorem usageChunkTexts_of_accepted {chunk : JsonValue} (isObject : chunk.isObject = true)
    (accepted : rejectedWithUsage chunk = false) : usageChunkTexts chunk = .ok (chunkText chunk) := by
  obtain ⟨indexes, formed⟩ := Bool.or_eq_false_iff.mp accepted
  simp only [usageChunkTexts, JsonValue.get_of_object isObject, bind, Except.bind,
    firstObjectTexts_orDefault, firstObjectTexts_of_indexable indexes, chunkText]
  cases found : firstObject? (chunk.field "choices") with
  | none => rfl
  | some choice =>
    rw [found, Option.any_some] at formed
    simp [choiceContent_eq (firstObject?_isObject found), formed]

theorem usageChunkTexts_of_rejected {chunk : JsonValue} (isObject : chunk.isObject = true)
    (rejected : rejectedWithUsage chunk = true) : ∃ error, usageChunkTexts chunk = .error error := by
  simp only [usageChunkTexts, JsonValue.get_of_object isObject, bind, Except.bind,
    firstObjectTexts_orDefault]
  cases indexes : unindexable (chunk.field "choices") with
  | true => exact firstObjectTexts_of_unindexable indexes
  | false =>
    rw [firstObjectTexts_of_indexable indexes]
    rw [rejectedWithUsage, indexes, Bool.false_or] at rejected
    cases found : firstObject? (chunk.field "choices") with
    | none => simp [found] at rejected
    | some choice =>
      rw [found, Option.any_some] at rejected
      exact ⟨.attributeError, by simp [choiceContent_eq (firstObject?_isObject found), rejected]⟩

/-- A chunk that `stream_with_usage` rejects for its choices holds no text. -/
theorem chunkText_of_rejected {chunk : JsonValue} (rejected : rejectedWithUsage chunk = true) :
    chunkText chunk = [] := by
  unfold chunkText
  cases found : firstObject? (chunk.field "choices") with
  | none => rfl
  | some choice =>
    have listed : unindexable (chunk.field "choices") = false := by
      cases items : chunk.field "choices" with
      | array => rfl
      | _ => rw [items] at found; cases found
    rw [rejectedWithUsage, listed, found, Bool.false_or, Option.any_some] at rejected
    have other := (Bool.and_eq_true_iff.mp rejected).2
    simp [JsonValue.field_of_not_object (by simpa using other), truthyText_null]

theorem streamLine_reads (runtime : AdapterRuntime) (line : String) :
    (Adapter.openAI.lineReading .plain runtime line).Of ((streamLine runtime () line).events.filterMap some)
      (streamLine runtime () line).ending := by
  rw [List.filterMap_some]
  unfold streamLine Adapter.lineReading
  cases sseData? line with
  | none => exact ⟨rfl, rfl⟩
  | some data =>
    by_cases done : data = "[DONE]"
    · simp only [done, true_and, if_true]
      exact ⟨rfl, rfl⟩
    · simp only [done, and_false, if_false]
      cases runtime.loads data with
      | error failure =>
        simp only [Except.bind, Adapter.skipsFailure]
        by_cases skipped : isCorruptChunk failure = true
        · simp only [skipped, if_true]
          exact ⟨rfl, rfl⟩
        · simp only [skipped, Bool.false_eq_true, if_false]
          exact ⟨rfl, _, rfl⟩
      | ok chunk =>
        simp only [Except.bind, Adapter.reading, plainReading]
        cases isObject : chunk.isObject with
        | false =>
          have failed : chunkTexts chunk = .error (.python .attributeError) := by
            simp [chunkTexts, JsonValue.get_of_not_object isObject, bind, Except.bind, Except.mapError]
          rw [failed]
          exact ⟨rfl, _, rfl⟩
        | true =>
          cases told : (chunk.field "error").truthy with
          | true =>
            have failed : chunkTexts chunk = .error (.eiraos (upstreamFailure "OpenAI" none)) := by
              simp [chunkTexts, JsonValue.get_of_object isObject, told, bind, Except.bind, Except.mapError,
                throw, throwThe, MonadExceptOf.throw]
            rw [failed]
            exact ⟨rfl, _, rfl⟩
          | false =>
            -- Whatever is wrong in the choices is one of the exceptions that skip the chunk.
            rw [chunkTexts_of_plain isObject told]
            have skips := choiceTexts_skips isObject
            generalize choiceTexts chunk = read at skips
            cases skips with
            | ok => exact ⟨rfl, rfl⟩
            | corrupt skipped silent =>
              simp only [Except.mapError, if_pos skipped]
              exact ⟨silent.symm, rfl⟩

theorem usageLine_reads (runtime : AdapterRuntime) (line : String) :
    (Adapter.openAI.lineReading .metered runtime line).Of
      ((usageLine runtime () line).events.filterMap ProviderStreamEvent.text?)
      (usageLine runtime () line).ending := by
  unfold usageLine Adapter.lineReading
  cases sseData? line with
  | none => exact ⟨rfl, rfl⟩
  | some data =>
    by_cases done : data = "[DONE]"
    · simp only [done, true_and, if_true]
      exact ⟨rfl, rfl⟩
    · simp only [done, and_false, if_false]
      cases runtime.loads data with
      | error failure =>
        cases failure with
        | jsonDecodeError => exact ⟨rfl, rfl⟩
        | _ => exact ⟨rfl, _, rfl⟩
      | ok chunk =>
        simp only [Adapter.reading, meteredReading]
        cases isObject : chunk.isObject with
        | false =>
          rw [JsonValue.get_of_not_object isObject]
          exact ⟨rfl, _, rfl⟩
        | true =>
          rw [JsonValue.get_of_object isObject]
          cases rejected : rejectedWithUsage chunk with
          | true =>
            -- The usage of the chunk has been sent by then, but no text.
            obtain ⟨error, failed⟩ := usageChunkTexts_of_rejected isObject rejected
            simp only [failed]
            exact ⟨filterMap_usages _, _, rfl⟩
          | false =>
            simp only [usageChunkTexts_of_accepted isObject rejected]
            refine ⟨?_, rfl⟩
            rw [List.filterMap_append, filterMap_usages, filterMap_texts, List.nil_append]

end OpenAI

/-! ## Loops that guard `json.loads` only -/

section GuardedLine

variable {State Event : Type} {body : State → JsonValue → Except AdapterFailure (State × List Event)}
  {text? : Event → Option JsonValue} {state : State} {adapter : Adapter} {path : StreamPath}

/-- The texts of a body; one that raises has emitted none. -/
def bodyTexts (text? : Event → Option JsonValue) :
    Except AdapterFailure (State × List Event) → List JsonValue
  | .ok (_, events) => events.filterMap text?
  | .error _ => []

def bodyEnding : Except AdapterFailure (State × List Event) → LineEnding AdapterFailure
  | .ok _ => .continues
  | .error failure => .raises failure

/-- A loop that guards `json.loads` only does what its body reads. -/
theorem guardedLine_reads (guarded : adapter ≠ .openAI)
    (reads : ∀ value, (adapter.reading path value).Of (bodyTexts text? (body state value))
      (bodyEnding (body state value)))
    (runtime : AdapterRuntime) (line : String) :
    (adapter.lineReading path runtime line).Of ((guardedLine runtime body state line).events.filterMap text?)
      (guardedLine runtime body state line).ending := by
  unfold guardedLine Adapter.lineReading
  cases sseData? line with
  | none => exact ⟨rfl, rfl⟩
  | some data =>
    have unmarked : ¬(adapter = .openAI ∧ data = "[DONE]") := fun marked => guarded marked.1
    simp only [if_neg unmarked]
    cases runtime.loads data with
    | error failure =>
      have skipped : adapter.skipsFailure path failure = decide (failure = .jsonDecodeError) := by
        cases adapter with
        | openAI => exact absurd rfl guarded
        | anthropic => cases path <;> cases failure <;> rfl
        | gemini => cases path <;> cases failure <;> rfl
      simp only [skipped]
      cases failure with
      | jsonDecodeError => exact ⟨rfl, rfl⟩
      | _ => exact ⟨rfl, _, rfl⟩
    | ok value =>
      have done := reads value
      dsimp only
      revert done
      cases body state value <;> exact id

end GuardedLine

/-! ## Anthropic -/

namespace Anthropic

theorem isText_unique {value : JsonValue} {first second : String} (isFirst : value.isText first = true)
    (other : first ≠ second) : value.isText second = false := by
  cases value with
  | string text =>
    have same : text = first := by simpa [JsonValue.isText] using isFirst
    simpa [JsonValue.isText, same] using other
  | _ => cases isFirst

theorem deltaTexts_eq (delta : JsonValue) :
    deltaTexts delta = if delta.isObject then .ok (deltaText delta) else .error .attributeError := by
  cases isDelta : delta.isObject with
  | false => simp [deltaTexts, JsonValue.get_of_not_object isDelta, bind, Except.bind]
  | true =>
    simp only [deltaTexts, JsonValue.get_of_object isDelta, bind, Except.bind, deltaText, if_true]
    split <;> rfl

/-- `delta or {}` is read without an exception when it is a dictionary or false. -/
theorem deltaTexts_orDefault (delta : JsonValue) :
    deltaTexts (delta.orDefault (.object [])) =
      if delta.isObject || !delta.truthy then .ok (deltaText delta) else .error .attributeError := by
  cases isDelta : delta.isObject with
  | true => rw [JsonValue.orDefault_of_object isDelta, deltaTexts_eq, isDelta, Bool.true_or]
  | false =>
    cases truth : delta.truthy with
    | true =>
      rw [JsonValue.orDefault_of_truthy truth, deltaTexts_eq, isDelta]
      rfl
    | false =>
      rw [JsonValue.orDefault_of_falsy truth, deltaText, JsonValue.field_of_not_object isDelta]
      rfl

/-- `stream` reads an absent `delta` as empty, but not a null one. -/
theorem eventTexts_of_delta {event : JsonValue} (isObject : event.isObject = true)
    (isDelta : (event.field "type").isText "content_block_delta" = true) :
    eventTexts event = (deltaTexts (event.field "delta" (.object []))).mapError .python := by
  have notError := isText_unique isDelta (by decide : "content_block_delta" ≠ "error")
  simp [eventTexts, JsonValue.get_of_object isObject, isDelta, notError, bind, Except.bind,
    Except.mapError]

theorem streamLine_reads (runtime : AdapterRuntime) (line : String) :
    (Adapter.anthropic.lineReading .plain runtime line).Of ((streamLine runtime () line).events.filterMap some)
      (streamLine runtime () line).ending := by
  refine guardedLine_reads (by decide) (fun event => ?_) runtime line
  simp only [Adapter.reading, plainReading]
  cases isObject : event.isObject with
  | false =>
    have failed : eventTexts event = .error (.python .attributeError) := by
      simp [eventTexts, JsonValue.get_of_not_object isObject, bind, Except.bind, Except.mapError]
    rw [failed]
    exact ⟨rfl, _, rfl⟩
  | true =>
    cases isError : (event.field "type").isText "error" with
    | true =>
      have failed : eventTexts event = .error (.eiraos (upstreamFailure "Anthropic" none)) := by
        simp [eventTexts, JsonValue.get_of_object isObject, isError, bind, Except.bind, Except.mapError,
          throw, throwThe, MonadExceptOf.throw]
      rw [failed]
      exact ⟨rfl, _, rfl⟩
    | false =>
      cases isDelta : (event.field "type").isText "content_block_delta" with
      | true =>
        rw [eventTexts_of_delta isObject isDelta, deltaTexts_eq, JsonValue.field_eq_getD]
        cases event.member "delta" with
        | none => exact ⟨rfl, rfl⟩
        | some delta =>
          simp only [Option.getD_some, deltaReading]
          cases delta.isObject with
          | true => exact ⟨List.filterMap_some, rfl⟩
          | false => exact ⟨rfl, _, rfl⟩
      | false =>
        have read : eventTexts event = .ok [] := by
          simp [eventTexts, JsonValue.get_of_object isObject, isError, isDelta, bind, Except.bind,
            Except.mapError, pure, Except.pure]
        rw [read]
        exact ⟨rfl, rfl⟩

/-- What `stream_with_usage` reads of a `message_start`. -/
theorem usageEvent_of_start {event : JsonValue} (counts : TokenCounts) (isObject : event.isObject = true)
    (isStart : (event.field "type").isText "message_start" = true) :
    (malformedStart event = true → ∃ error, usageEvent counts event = .error error) ∧
      (malformedStart event = false → ∃ later, usageEvent counts event = .ok (later, [])) := by
  simp only [usageEvent, JsonValue.get_of_object isObject, isStart, malformedStart, bind, Except.bind, if_true,
    JsonValue.get_orDefault]
  by_cases isMessage : (event.field "message").isObject = true
  · cases isUsage : ((event.field "message").field "usage" (.object [])).isObject with
    | false => simp [isMessage, JsonValue.get_of_not_object isUsage]
    | true => simp [isMessage, JsonValue.get_of_object isUsage, pure, Except.pure]
  · by_cases truth : (event.field "message").truthy = true
    · simp [isMessage, truth]
    · have absent := JsonValue.field_of_not_object (by simpa using isMessage) "usage" (.object [])
      simp [isMessage, truth, absent, JsonValue.get, pure, Except.pure]

/-- What `stream_with_usage` reads of a `message_delta`. -/
theorem usageEvent_of_delta {event : JsonValue} (counts : TokenCounts) (isObject : event.isObject = true)
    (isDelta : (event.field "type").isText "message_delta" = true) :
    (malformedDelta event = true → ∃ error, usageEvent counts event = .error error) ∧
      (malformedDelta event = false → ∃ later, usageEvent counts event = .ok (later, [])) := by
  have notStart := isText_unique isDelta (by decide : "message_delta" ≠ "message_start")
  simp only [usageEvent, JsonValue.get_of_object isObject, isDelta, notStart, malformedDelta, bind, Except.bind,
    if_true, Bool.false_eq_true, if_false, JsonValue.get_orDefault]
  by_cases isUsage : (event.field "usage").isObject = true <;>
    by_cases truth : (event.field "usage").truthy = true <;>
      simp [isUsage, truth, pure, Except.pure]

/-- `stream_with_usage` reads an absent or false `delta` as empty. -/
theorem usageEvent_of_content {event : JsonValue} (counts : TokenCounts) (isObject : event.isObject = true)
    (isContent : (event.field "type").isText "content_block_delta" = true) :
    usageEvent counts event =
      (deltaTexts ((event.field "delta").orDefault (.object []))).map fun texts => (counts, texts) := by
  have notStart := isText_unique isContent (by decide : "content_block_delta" ≠ "message_start")
  have notDelta := isText_unique isContent (by decide : "content_block_delta" ≠ "message_delta")
  simp only [usageEvent, JsonValue.get_of_object isObject, isContent, notStart, notDelta, bind, Except.bind,
    if_true, Bool.false_eq_true, if_false]
  cases deltaTexts ((event.field "delta").orDefault (.object [])) <;> rfl

theorem usageEvent_of_other {event : JsonValue} (counts : TokenCounts) (isObject : event.isObject = true)
    (notStart : (event.field "type").isText "message_start" = false)
    (notDelta : (event.field "type").isText "message_delta" = false)
    (notContent : (event.field "type").isText "content_block_delta" = false) :
    usageEvent counts event = .ok (counts, []) := by
  simp [usageEvent, JsonValue.get_of_object isObject, notContent, notStart, notDelta, bind, Except.bind, pure,
    Except.pure]

theorem usageLine_reads (runtime : AdapterRuntime) (counts : TokenCounts) (line : String) :
    (Adapter.anthropic.lineReading .metered runtime line).Of
      ((usageLine runtime counts line).events.filterMap ProviderStreamEvent.text?)
      (usageLine runtime counts line).ending := by
  refine guardedLine_reads (by decide) (fun event => ?_) runtime line
  simp only [Adapter.reading, meteredReading]
  cases isObject : event.isObject with
  | false =>
    have failed : usageEvent counts event = .error .attributeError := by
      simp [usageEvent, JsonValue.get_of_not_object isObject, bind, Except.bind]
    rw [failed]
    exact ⟨rfl, _, rfl⟩
  | true =>
    simp only [Bool.true_eq_false, if_false]
    cases isContent : (event.field "type").isText "content_block_delta" with
    | true =>
      rw [usageEvent_of_content counts isObject isContent, deltaTexts_orDefault, JsonValue.field_eq_getD]
      cases event.member "delta" with
      | none => exact ⟨rfl, rfl⟩
      | some delta =>
        simp only [Option.getD_some, deltaReading]
        cases isDelta : delta.isObject with
        | true => exact ⟨filterMap_texts _, rfl⟩
        | false =>
          -- `event.get("delta") or {}` raises for a true value only.
          cases delta.truthy with
          | true => exact ⟨rfl, _, rfl⟩
          | false =>
            rw [deltaText, JsonValue.field_of_not_object isDelta]
            exact ⟨rfl, rfl⟩
    | false =>
      cases isStart : (event.field "type").isText "message_start" with
      | true =>
        have notDelta := isText_unique isStart (by decide : "message_start" ≠ "message_delta")
        have read := usageEvent_of_start counts isObject isStart
        cases malformed : malformedStart event with
        | true =>
          obtain ⟨error, failed⟩ := read.1 malformed
          rw [failed]
          exact ⟨rfl, _, rfl⟩
        | false =>
          obtain ⟨later, read⟩ := read.2 malformed
          rw [read, notDelta]
          exact ⟨rfl, rfl⟩
      | false =>
        cases isDelta : (event.field "type").isText "message_delta" with
        | true =>
          have read := usageEvent_of_delta counts isObject isDelta
          cases malformed : malformedDelta event with
          | true =>
            obtain ⟨error, failed⟩ := read.1 malformed
            rw [failed]
            exact ⟨rfl, _, rfl⟩
          | false =>
            obtain ⟨later, read⟩ := read.2 malformed
            rw [read]
            exact ⟨rfl, rfl⟩
        | false =>
          rw [usageEvent_of_other counts isObject isStart isDelta isContent]
          exact ⟨rfl, rfl⟩

end Anthropic

/-! ## Gemini -/

namespace Gemini

/-- The texts of a computation, none when it raises. -/
def textsOf : Except PythonError (List JsonValue) → List JsonValue
  | .ok texts => texts
  | .error _ => []

def endingOf : Except PythonError (List JsonValue) → LineEnding AdapterFailure
  | .ok _ => .continues
  | .error error => .raises (.python error)

theorem contentTexts_of_object {content : JsonValue} (isContent : content.isObject = true) :
    contentTexts content =
      (content.field "parts" (.array [])).iterate.map fun parts => parts.flatMap partTexts := by
  simp only [contentTexts, JsonValue.get_of_object isContent, bind, Except.bind]
  cases (content.field "parts" (.array [])).iterate <;> rfl

theorem contentTexts_of_not_object {content : JsonValue} (other : content.isObject = false) :
    contentTexts content = .error .attributeError := by
  simp [contentTexts, JsonValue.get_of_not_object other, bind, Except.bind]

/-- No candidates are read as null or as an empty list alike. -/
theorem firstObjectTexts_field (chunk : JsonValue) (texts : JsonValue → Except PythonError (List JsonValue)) :
    firstObjectTexts (chunk.field "candidates" (.array [])) texts =
      firstObjectTexts (chunk.field "candidates") texts := by
  simp only [JsonValue.field_eq_getD]
  cases chunk.member "candidates" <;> rfl

/-- `_gemini_usage` raises exactly on a negative prompt count. -/
theorem geminiUsage_eq (metadata : JsonValue) :
    (negativeUsage metadata = true → ∃ error, geminiUsage metadata = .error error) ∧
      (negativeUsage metadata = false → ∃ usage, geminiUsage metadata = .ok usage) := by
  unfold negativeUsage geminiUsage
  cases integer? (metadata.field "promptTokenCount") with
  | none => simp
  | some prompt =>
    cases integer? (metadata.field "totalTokenCount") with
    | none => simp
    | some total =>
      simp only [decide_eq_true_eq, decide_eq_false_iff_not]
      constructor
      · rintro ⟨below, ordered⟩
        rw [if_neg (Int.not_lt.mpr ordered), providerUsage, if_pos (.inl below)]
        exact ⟨_, rfl⟩
      · intro fine
        by_cases less : total < prompt
        · exact ⟨none, if_pos less⟩
        · have counts : ¬(prompt < 0 ∨ total - prompt < 0) := by omega
          rw [if_neg less, providerUsage, if_neg counts]
          exact ⟨_, rfl⟩

theorem chunkTexts_of_plain {chunk : JsonValue} (isObject : chunk.isObject = true)
    (plain : (chunk.field "error").truthy = false) :
    chunkTexts chunk =
      (firstObjectTexts (chunk.field "candidates") candidateTexts).mapError .python := by
  simp [chunkTexts, JsonValue.get_of_object isObject, plain, bind, Except.bind, Except.mapError,
    firstObjectTexts_field]

/-- The body of `stream` keeps the texts and the exception. -/
theorem streamBody (result : Except PythonError (List JsonValue)) :
    bodyTexts some ((result.mapError AdapterFailure.python).map fun texts => ((), texts)) = textsOf result ∧
      bodyEnding ((result.mapError AdapterFailure.python).map fun texts => ((), texts)) =
        endingOf result := by
  cases result with
  | ok texts => exact ⟨List.filterMap_some, rfl⟩
  | error => exact ⟨rfl, rfl⟩

/-- So does the body of `stream_with_usage`, apart from the usage. -/
theorem usageBody (result : Except PythonError (List JsonValue)) (usage : Option ProviderUsage) :
    let body := (((result.map fun texts => (usage, texts)).map fun (later, texts) =>
      (later, texts.map ProviderStreamEvent.text)).mapError AdapterFailure.python)
    bodyTexts ProviderStreamEvent.text? body = textsOf result ∧ bodyEnding body = endingOf result := by
  cases result with
  | ok texts => exact ⟨filterMap_texts texts, rfl⟩
  | error => exact ⟨rfl, rfl⟩

theorem usageChunk_of_object {chunk : JsonValue} (usage : Option ProviderUsage)
    (isObject : chunk.isObject = true) :
    usageChunk usage chunk =
      (geminiUsage (chunk.field "usageMetadata")).bind fun parsed =>
        (firstObjectTexts (chunk.field "candidates") usageCandidateTexts).map fun texts =>
          (parsed.or usage, texts) := by
  simp only [usageChunk, JsonValue.get_of_object isObject, bind, Except.bind, firstObjectTexts_orDefault]
  cases geminiUsage (chunk.field "usageMetadata") with
  | error => rfl
  | ok parsed => cases firstObjectTexts (chunk.field "candidates") usageCandidateTexts <;> rfl

/-- Both paths read the candidates alike but for a content that is null, empty or zero. -/
theorem firstObjectTexts_reads (falsy : Bool)
    {texts : JsonValue → Except PythonError (List JsonValue)}
    (reads : ∀ candidate : JsonValue, candidate.isObject = true →
      (contentReading falsy (candidate.member "content")).Of (textsOf (texts candidate))
        (endingOf (texts candidate)))
    (candidates : JsonValue) :
    (candidatesReading falsy candidates).Of (textsOf (firstObjectTexts candidates texts))
      (endingOf (firstObjectTexts candidates texts)) := by
  unfold candidatesReading
  cases indexes : unindexable candidates with
  | true =>
    obtain ⟨error, failed⟩ := @firstObjectTexts_of_unindexable candidates texts indexes
    rw [failed]
    exact ⟨rfl, _, rfl⟩
  | false =>
    rw [firstObjectTexts_of_indexable indexes]
    cases found : firstObject? candidates with
    | none => exact ⟨rfl, rfl⟩
    | some candidate => exact reads candidate (firstObject?_isObject found)

theorem candidateTexts_reads {candidate : JsonValue} (isCandidate : candidate.isObject = true) :
    (contentReading false (candidate.member "content")).Of (textsOf (candidateTexts candidate))
      (endingOf (candidateTexts candidate)) := by
  simp only [candidateTexts, JsonValue.get_of_object isCandidate, JsonValue.field_eq_getD, bind, Except.bind]
  cases candidate.member "content" with
  | none => exact ⟨rfl, rfl⟩
  | some content =>
    simp only [Option.getD_some, contentReading]
    cases isContent : content.isObject with
    | true =>
      rw [contentTexts_of_object isContent]
      cases (content.field "parts" (.array [])).iterate with
      | ok parts => exact ⟨rfl, rfl⟩
      | error error => exact ⟨rfl, _, rfl⟩
    | false =>
      rw [contentTexts_of_not_object isContent]
      exact ⟨rfl, _, rfl⟩

theorem usageCandidateTexts_reads {candidate : JsonValue} (isCandidate : candidate.isObject = true) :
    (contentReading true (candidate.member "content")).Of (textsOf (usageCandidateTexts candidate))
      (endingOf (usageCandidateTexts candidate)) := by
  simp only [usageCandidateTexts, JsonValue.get_of_object isCandidate, JsonValue.field_eq_getD, bind,
    Except.bind]
  cases candidate.member "content" with
  | none => exact ⟨rfl, rfl⟩
  | some content =>
    simp only [Option.getD_some, contentReading]
    cases isContent : content.isObject with
    | true =>
      rw [JsonValue.orDefault_of_object isContent, contentTexts_of_object isContent]
      cases (content.field "parts" (.array [])).iterate with
      | ok parts => exact ⟨rfl, rfl⟩
      | error error => exact ⟨rfl, _, rfl⟩
    | false =>
      cases truth : content.truthy with
      | true =>
        rw [JsonValue.orDefault_of_truthy truth, contentTexts_of_not_object isContent]
        exact ⟨rfl, _, rfl⟩
      | false =>
        rw [JsonValue.orDefault_of_falsy truth]
        exact ⟨rfl, rfl⟩

theorem streamLine_reads (runtime : AdapterRuntime) (line : String) :
    (Adapter.gemini.lineReading .plain runtime line).Of ((streamLine runtime () line).events.filterMap some)
      (streamLine runtime () line).ending := by
  refine guardedLine_reads (by decide) (fun chunk => ?_) runtime line
  simp only [Adapter.reading, plainReading]
  cases isObject : chunk.isObject with
  | false =>
    have failed : chunkTexts chunk = .error (.python .attributeError) := by
      simp [chunkTexts, JsonValue.get_of_not_object isObject, bind, Except.bind, Except.mapError]
    rw [failed]
    exact ⟨rfl, _, rfl⟩
  | true =>
    cases told : (chunk.field "error").truthy with
    | true =>
      have failed : chunkTexts chunk = .error (.eiraos (upstreamFailure "Gemini" none)) := by
        simp [chunkTexts, JsonValue.get_of_object isObject, told, bind, Except.bind, Except.mapError,
          throw, throwThe, MonadExceptOf.throw]
      rw [failed]
      exact ⟨rfl, _, rfl⟩
    | false =>
      rw [chunkTexts_of_plain isObject told, (streamBody _).1, (streamBody _).2]
      exact firstObjectTexts_reads false (fun _ isCandidate => candidateTexts_reads isCandidate) _

theorem usageLine_reads (runtime : AdapterRuntime) (usage : Option ProviderUsage) (line : String) :
    (Adapter.gemini.lineReading .metered runtime line).Of
      ((usageLine runtime usage line).events.filterMap ProviderStreamEvent.text?)
      (usageLine runtime usage line).ending := by
  refine guardedLine_reads (by decide) (fun chunk => ?_) runtime line
  simp only [Adapter.reading, meteredReading]
  cases isObject : chunk.isObject with
  | false =>
    have failed : usageChunk usage chunk = .error .attributeError := by
      simp [usageChunk, JsonValue.get_of_not_object isObject, bind, Except.bind]
    rw [failed]
    exact ⟨rfl, _, rfl⟩
  | true =>
    rw [usageChunk_of_object usage isObject]
    cases negative : negativeUsage (chunk.field "usageMetadata") with
    | true =>
      -- `_gemini_usage` raises before the candidates are looked at.
      obtain ⟨error, failed⟩ := (geminiUsage_eq _).1 negative
      rw [failed]
      exact ⟨rfl, _, rfl⟩
    | false =>
      obtain ⟨parsed, read⟩ := (geminiUsage_eq _).2 negative
      rw [read]
      simp only [Except.bind]
      rw [(usageBody _ _).1, (usageBody _ _).2]
      exact firstObjectTexts_reads true (fun _ isCandidate => usageCandidateTexts_reads isCandidate) _

end Gemini

end Eiraos
