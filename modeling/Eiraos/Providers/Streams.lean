import Eiraos.Chat.Completion
import Eiraos.Foundations.Json
import Eiraos.Foundations.LineLoop

/-! # The streaming paths of the adapters (`application/providers/*_adapter.py`)

`stream` and `stream_with_usage` of the three adapters, over the status and the lines of the
response.  A text is whatever value the upstream sent in its place.
-/

namespace Eiraos

open PythonJson PythonText LineLoop

/-! ## Failures (`http.py`, `core/exceptions.py`) -/

structure EiraOSException where
  title : String
  detail : String
  statusCode : Nat
  deriving DecidableEq, Repr

/-- `upstream_failure`, with the status of an `HTTPStatusError`. -/
def upstreamFailure (provider : String) (status : Option Nat) : EiraOSException where
  title := "Upstream request failed"
  detail :=
    let suffix := match status with
      | some status => s!" (HTTP {status})"
      | none => ""
    provider ++ " request failed" ++ suffix ++ "."
  statusCode := 502

/-- What leaves a stream; `httpStatus` is `httpx.HTTPStatusError`. -/
inductive AdapterFailure where
  | eiraos (exception : EiraOSException)
  | httpStatus (status : Nat)
  | jsonDecodeError
  | python (error : PythonError)
  deriving DecidableEq, Repr

def AdapterFailure.isEiraos : AdapterFailure → Prop
  | .eiraos _ => True
  | _ => False

/-- `json.loads`; `decodeError` says whether a `ValueError` of it is a `JSONDecodeError`. -/
structure AdapterRuntime where
  json : JsonLibrary
  decodeError : String → Bool

def AdapterRuntime.loads (runtime : AdapterRuntime) (text : String) : Except AdapterFailure JsonValue :=
  match runtime.json.loads text with
  | .ok value => .ok value
  | .error .valueError =>
    .error (if runtime.decodeError text then .jsonDecodeError else .python .valueError)
  | .error error => .error (.python error)

/-- The status and the lines of the response. -/
structure SseResponse where
  status : Nat
  lines : List String
  deriving DecidableEq, Repr

/-- `raise_for_status` accepts it. -/
def SseResponse.isSuccess (response : SseResponse) : Bool := 200 ≤ response.status ∧ response.status < 300

/-- `line[6:].strip()` of a line that starts with `data: `. -/
def sseData? (line : String) : Option String :=
  if "data: ".toList.isPrefixOf line.toList then some (strip (String.ofList (line.toList.drop 6))) else none

/-- `ProviderStreamEvent`; it holds exactly one of the two. -/
inductive ProviderStreamEvent where
  | text (value : JsonValue)
  | usage (usage : ProviderUsage)

def ProviderStreamEvent.text? : ProviderStreamEvent → Option JsonValue
  | .text value => some value
  | .usage _ => none

theorem filterMap_texts (texts : List JsonValue) :
    (texts.map ProviderStreamEvent.text).filterMap ProviderStreamEvent.text? = texts := by
  induction texts with
  | nil => rfl
  | cons text texts inductionHypothesis =>
    have read : (ProviderStreamEvent.text text).text? = some text := rfl
    rw [List.map_cons, List.filterMap_cons_some read, inductionHypothesis]

theorem filterMap_usages (usages : List ProviderUsage) :
    (usages.map ProviderStreamEvent.usage).filterMap ProviderStreamEvent.text? = [] := by
  simp [ProviderStreamEvent.text?]

abbrev StreamEffect (State Event : Type) := LineEffect State Event AdapterFailure

abbrev StreamTranscript (Event : Type) := Transcript String Event AdapterFailure

/-- `continue`. -/
def skipLine {State Event : Type} (state : State) : StreamEffect State Event := ⟨state, [], .continues⟩

def raiseLine {State Event : Type} (state : State) (failure : AdapterFailure) : StreamEffect State Event :=
  ⟨state, [], .raises failure⟩

/-- A line of the loops that guard `json.loads` only. -/
def guardedLine {State Event : Type} (runtime : AdapterRuntime)
    (body : State → JsonValue → Except AdapterFailure (State × List Event)) (state : State) (line : String) :
    StreamEffect State Event :=
  match sseData? line with
  | none => skipLine state
  | some data =>
    match runtime.loads data with
    | .error .jsonDecodeError => skipLine state
    | .error failure => raiseLine state failure
    | .ok value =>
      match body state value with
      | .ok (later, events) => ⟨later, events, .continues⟩
      | .error failure => raiseLine state failure

/-- `if text: yield text`. -/
def truthyText (text : JsonValue) : List JsonValue := if text.truthy then [text] else []

/-- `if items and isinstance(items[0], dict)`, with the texts of `items[0]`. -/
def firstObjectTexts (items : JsonValue) (texts : JsonValue → Except PythonError (List JsonValue)) :
    Except PythonError (List JsonValue) := do
  if items.truthy then
    let item ← items.first
    if item.isObject then texts item else return []
  else return []

/-- An `HTTPError` becomes the adapter's own exception in `stream`, and in that path only. -/
def streamResponse (provider : String) (line : Unit → String → StreamEffect Unit JsonValue)
    (response : SseResponse) : StreamTranscript JsonValue :=
  if response.isSuccess then loop line (fun _ => []) () response.lines
  else ⟨[], [], some (.eiraos (upstreamFailure provider (some response.status)))⟩

def usageResponse {State : Type} (line : State → String → StreamEffect State ProviderStreamEvent)
    (finish : State → List ProviderStreamEvent) (initial : State) (response : SseResponse) :
    StreamTranscript ProviderStreamEvent :=
  if response.isSuccess then loop line finish initial response.lines
  else ⟨[], [], some (.httpStatus response.status)⟩

/-! ## Usage -/

/-- `type(value) is int`. -/
def integer? : JsonValue → Option Int
  | .int value => some value
  | _ => none

/-- `ProviderUsage(input_tokens, output_tokens)`. -/
def providerUsage (inputTokens outputTokens : Int) : Except PythonError ProviderUsage :=
  if inputTokens < 0 ∨ outputTokens < 0 then .error .valueError
  else .ok ⟨inputTokens.toNat, outputTokens.toNat⟩

/-- `_usage`. -/
def reportedUsage (data : JsonValue) (inputKey outputKey : String) (totalKey : Option String) :
    Option ProviderUsage := do
  let inputTokens ← integer? (data.field inputKey)
  let outputTokens ← integer? (data.field outputKey)
  match totalKey with
  | none => (providerUsage inputTokens outputTokens).toOption
  | some totalKey =>
    let total ← integer? (data.field totalKey)
    -- a total that does not add up is no report at all
    if total = inputTokens + outputTokens then (providerUsage inputTokens outputTokens).toOption else none

/-- `_gemini_usage`, which does not catch the `ValueError`. -/
def geminiUsage (data : JsonValue) : Except PythonError (Option ProviderUsage) :=
  match integer? (data.field "promptTokenCount"), integer? (data.field "totalTokenCount") with
  | some prompt, some total =>
    if total < prompt then .ok none else (providerUsage prompt (total - prompt)).map some
  | _, _ => .ok none

/-! ## OpenAI -/

namespace OpenAI

/-- `if "content" in delta and delta["content"]`. -/
def deltaTexts (delta : JsonValue) : Except PythonError (List JsonValue) := do
  if ← delta.contains "content" then
    let content ← delta.subscript "content"
    return truthyText content
  else return []

/-- From `chunk["choices"][0]["delta"]` on. -/
def choiceTexts (chunk : JsonValue) : Except PythonError (List JsonValue) := do
  let choices ← chunk.subscript "choices"
  let choice ← choices.first
  let delta ← choice.subscript "delta"
  deltaTexts delta

/-- The `try` block of `stream` after `json.loads`. -/
def chunkTexts (chunk : JsonValue) : Except AdapterFailure (List JsonValue) := do
  let error ← (chunk.get "error" .null).mapError .python
  if error.truthy then throw (.eiraos (upstreamFailure "OpenAI" none))
  (choiceTexts chunk).mapError .python

/-- The exceptions that `stream` skips a chunk for. -/
def isCorruptChunk : AdapterFailure → Bool
  | .jsonDecodeError | .python .keyError | .python .indexError | .python .typeError => true
  | _ => false

def streamLine (runtime : AdapterRuntime) (_ : Unit) (line : String) : StreamEffect Unit JsonValue :=
  match sseData? line with
  | none => skipLine ()
  | some data =>
    if data = "[DONE]" then ⟨(), [], .breaks⟩
    else
      match (runtime.loads data).bind chunkTexts with
      | .ok texts => ⟨(), texts, .continues⟩
      -- an `AttributeError` is not in the list, and the exception of an error chunk is raised on purpose
      | .error failure => if isCorruptChunk failure then skipLine () else raiseLine () failure

def stream (runtime : AdapterRuntime) : SseResponse → StreamTranscript JsonValue :=
  streamResponse "OpenAI" (streamLine runtime)

/-- `(choices[0].get("delta") or {}).get("content")`. -/
def choiceContent (choice : JsonValue) : Except PythonError (List JsonValue) := do
  let delta ← choice.get "delta" .null
  let text ← (delta.orDefault (.object [])).get "content" .null
  return truthyText text

/-- The text of `stream_with_usage`, after the usage of the chunk. -/
def usageChunkTexts (data : JsonValue) : Except PythonError (List JsonValue) := do
  let choices ← data.get "choices" .null
  firstObjectTexts (choices.orDefault (.array [])) choiceContent

def usageLine (runtime : AdapterRuntime) (_ : Unit) (line : String) :
    StreamEffect Unit ProviderStreamEvent :=
  match sseData? line with
  | none => skipLine ()
  | some data =>
    -- this path goes on after the marker, `stream` breaks there
    if data = "[DONE]" then skipLine ()
    else
      match runtime.loads data with
      | .error .jsonDecodeError => skipLine ()
      | .error failure => raiseLine () failure
      | .ok data =>
        match data.get "usage" .null with
        | .error error => raiseLine () (.python error)
        | .ok reported =>
          let usage :=
            (reportedUsage reported "prompt_tokens" "completion_tokens" (some "total_tokens")).toList
          match usageChunkTexts data with
          -- the usage is yielded first, so it is out when the rest of the chunk raises
          | .ok texts => ⟨(), usage.map .usage ++ texts.map .text, .continues⟩
          | .error error => ⟨(), usage.map .usage, .raises (.python error)⟩

def streamWithUsage (runtime : AdapterRuntime) : SseResponse → StreamTranscript ProviderStreamEvent :=
  usageResponse (usageLine runtime) (fun _ => []) ()

end OpenAI

/-! ## Anthropic -/

namespace Anthropic

/-- The text of a `content_block_delta`. -/
def deltaTexts (delta : JsonValue) : Except PythonError (List JsonValue) := do
  let type ← delta.get "type" .null
  if type.isText "text_delta" then
    let text ← delta.get "text" .null
    return truthyText text
  else return []

def eventTexts (event : JsonValue) : Except AdapterFailure (List JsonValue) := do
  let type ← (event.get "type" .null).mapError .python
  if type.isText "error" then throw (.eiraos (upstreamFailure "Anthropic" none))
  if type.isText "content_block_delta" then
    ((event.get "delta" (.object [])).bind deltaTexts).mapError .python
  else return []

def streamLine (runtime : AdapterRuntime) : Unit → String → StreamEffect Unit JsonValue :=
  guardedLine runtime fun _ event => (eventTexts event).map fun texts => ((), texts)

def stream (runtime : AdapterRuntime) : SseResponse → StreamTranscript JsonValue :=
  streamResponse "Anthropic" (streamLine runtime)

/-- `input_tokens` and `output_tokens`. -/
structure TokenCounts where
  input : Option Nat
  output : Option Nat
  deriving DecidableEq, Repr

/-- `value if type(value) is int and value >= 0 else None`. -/
def count? (value : JsonValue) : Option Nat :=
  match integer? value with
  | some count => if 0 ≤ count then some count.toNat else none
  | none => none

/-- The three cases of `stream_with_usage` for an event. -/
def usageEvent (counts : TokenCounts) (event : JsonValue) :
    Except PythonError (TokenCounts × List JsonValue) := do
  let type ← event.get "type" .null
  -- a count that is no number takes the place of an earlier one
  if type.isText "message_start" then
    let message := (← event.get "message" .null).orDefault (.object [])
    let usage ← message.get "usage" (.object [])
    let value ← usage.get "input_tokens" .null
    return ({ counts with input := count? value }, [])
  if type.isText "message_delta" then
    let usage := (← event.get "usage" .null).orDefault (.object [])
    let value ← usage.get "output_tokens" .null
    return ({ counts with output := count? value }, [])
  if type.isText "content_block_delta" then
    let delta := (← event.get "delta" .null).orDefault (.object [])
    let texts ← deltaTexts delta
    return (counts, texts)
  return (counts, [])

def usageLine (runtime : AdapterRuntime) :
    TokenCounts → String → StreamEffect TokenCounts ProviderStreamEvent :=
  guardedLine runtime fun counts event =>
    ((usageEvent counts event).map fun (later, texts) => (later, texts.map .text)).mapError .python

/-- The usage event after the last line. -/
def finish (counts : TokenCounts) : List ProviderStreamEvent :=
  match counts.input, counts.output with
  | some input, some output => [.usage ⟨input, output⟩]
  | _, _ => []

def streamWithUsage (runtime : AdapterRuntime) : SseResponse → StreamTranscript ProviderStreamEvent :=
  usageResponse (usageLine runtime) finish ⟨none, none⟩

end Anthropic

/-! ## Gemini -/

namespace Gemini

/-- `part.get("text") if isinstance(part, dict) else None`, if it is truthy. -/
def partTexts (part : JsonValue) : List JsonValue := truthyText (part.field "text")

/-- The texts of `content.get("parts", [])`. -/
def contentTexts (content : JsonValue) : Except PythonError (List JsonValue) := do
  let parts ← content.get "parts" (.array [])
  let items ← parts.iterate
  return items.flatMap partTexts

/-- `candidates[0].get("content", {})`. -/
def candidateTexts (candidate : JsonValue) : Except PythonError (List JsonValue) := do
  let content ← candidate.get "content" (.object [])
  contentTexts content

/-- `candidates[0].get("content") or {}`. -/
def usageCandidateTexts (candidate : JsonValue) : Except PythonError (List JsonValue) := do
  let content ← candidate.get "content" .null
  contentTexts (content.orDefault (.object []))

def chunkTexts (chunk : JsonValue) : Except AdapterFailure (List JsonValue) := do
  let error ← (chunk.get "error" .null).mapError .python
  if error.truthy then throw (.eiraos (upstreamFailure "Gemini" none))
  let candidates ← (chunk.get "candidates" (.array [])).mapError .python
  (firstObjectTexts candidates candidateTexts).mapError .python

def streamLine (runtime : AdapterRuntime) : Unit → String → StreamEffect Unit JsonValue :=
  guardedLine runtime fun _ chunk => (chunkTexts chunk).map fun texts => ((), texts)

def stream (runtime : AdapterRuntime) : SseResponse → StreamTranscript JsonValue :=
  streamResponse "Gemini" (streamLine runtime)

/-- A chunk of `stream_with_usage`: the last usage, and the texts. -/
def usageChunk (usage : Option ProviderUsage) (chunk : JsonValue) :
    Except PythonError (Option ProviderUsage × List JsonValue) := do
  let metadata ← chunk.get "usageMetadata" .null
  let parsed ← geminiUsage metadata
  let candidates ← chunk.get "candidates" .null
  let texts ← firstObjectTexts (candidates.orDefault (.array [])) usageCandidateTexts
  return (parsed.or usage, texts)

def usageLine (runtime : AdapterRuntime) :
    Option ProviderUsage → String → StreamEffect (Option ProviderUsage) ProviderStreamEvent :=
  guardedLine runtime fun usage chunk =>
    ((usageChunk usage chunk).map fun (later, texts) => (later, texts.map .text)).mapError .python

def streamWithUsage (runtime : AdapterRuntime) : SseResponse → StreamTranscript ProviderStreamEvent :=
  usageResponse (usageLine runtime) (fun usage => usage.toList.map .usage) none

end Gemini

end Eiraos
