import Eiraos.Providers.LineReadings

/-! # Malformed chunks in a stream

What a streaming path does with a line depends on the line alone, apart from the usage that
is sent at the end: it emits texts, ends at `[DONE]`, or raises.  A malformed chunk goes
unnoticed exactly when it is read as no text.
-/

namespace Eiraos

open PythonJson LineLoop

/-! ## Malformed chunks -/

/-- The member is there, with another type than the one expected. -/
def illTyped (expected : JsonValue → Bool) (value : JsonValue) (key : String) : Bool :=
  (value.member key).any fun found => !expected found

def isArray : JsonValue → Bool
  | .array _ => true
  | _ => false

def isString : JsonValue → Bool
  | .string _ => true
  | _ => false

/-- The first item of a list. -/
def firstItem? : JsonValue → Option JsonValue
  | .array (item :: _) => some item
  | _ => none

namespace Adapter

/-- A field an adapter reads has a wrong type. -/
def hasIllTyped : Adapter → JsonValue → Bool
  | .openAI, chunk =>
    illTyped isArray chunk "choices" || illTyped JsonValue.isObject chunk "usage" ||
      (firstItem? (chunk.field "choices")).any fun choice =>
        !choice.isObject || illTyped JsonValue.isObject choice "delta" ||
          illTyped isString (choice.field "delta") "content"
  | .anthropic, event =>
    illTyped JsonValue.isObject event "message" || illTyped JsonValue.isObject event "usage" ||
      illTyped JsonValue.isObject (event.field "message") "usage" ||
      illTyped JsonValue.isObject event "delta" || illTyped isString (event.field "delta") "text"
  | .gemini, chunk =>
    illTyped isArray chunk "candidates" || illTyped JsonValue.isObject chunk "usageMetadata" ||
      (firstItem? (chunk.field "candidates")).any fun candidate =>
        !candidate.isObject || illTyped JsonValue.isObject candidate "content" ||
          illTyped isArray (candidate.field "content") "parts"

/-- The texts of a value, wherever an adapter looks for them. -/
def textsIn : Adapter → JsonValue → List JsonValue
  | .openAI, chunk => OpenAI.chunkText chunk
  | .anthropic, event =>
    if (event.field "type").isText "content_block_delta" then Anthropic.deltaText (event.field "delta") else []
  | .gemini, chunk =>
    match firstItem? (chunk.field "candidates") with
    | some candidate =>
      match (candidate.field "content").field "parts" with
      | .array parts => parts.flatMap Gemini.partTexts
      | _ => []
    | none => []

/-- A data line that is no JSON, no object, or an object with an ill-typed field and without
a text that could be used. -/
inductive Malformed (adapter : Adapter) (runtime : AdapterRuntime) (line : String) : Prop where
  | unparsed {data : String} {failure : AdapterFailure} (found : sseData? line = some data)
      (unmarked : ¬(adapter = .openAI ∧ data = "[DONE]")) (failed : runtime.loads data = .error failure)
  | parsed {data : String} {value : JsonValue} (found : sseData? line = some data)
      (unmarked : ¬(adapter = .openAI ∧ data = "[DONE]")) (read : runtime.loads data = .ok value)
      (odd : value.isObject = false ∨
        (adapter.hasIllTyped value = true ∧ ∀ text ∈ adapter.textsIn value, isString text = false))

theorem Malformed.unmarked {adapter : Adapter} {runtime : AdapterRuntime} {line : String}
    (malformed : adapter.Malformed runtime line) :
    ∃ data, sseData? line = some data ∧ ¬(adapter = .openAI ∧ data = "[DONE]") := by
  cases malformed with
  | unparsed found unmarked => exact ⟨_, found, unmarked⟩
  | parsed found unmarked => exact ⟨_, found, unmarked⟩

theorem reading_ne_breaks (adapter : Adapter) (path : StreamPath) (value : JsonValue) :
    adapter.reading path value ≠ .breaks := by
  have delta (falsy : Bool) (found : Option JsonValue) : Anthropic.deltaReading falsy found ≠ .breaks := by
    unfold Anthropic.deltaReading
    grind
  have content (falsy : Bool) (found : Option JsonValue) : Gemini.contentReading falsy found ≠ .breaks := by
    unfold Gemini.contentReading
    grind
  cases adapter <;> cases path
  · unfold reading OpenAI.plainReading
    grind
  · unfold reading OpenAI.meteredReading
    grind
  · unfold reading Anthropic.plainReading
    grind
  · unfold reading Anthropic.meteredReading
    grind
  · unfold reading Gemini.plainReading Gemini.candidatesReading
    grind
  · unfold reading Gemini.meteredReading Gemini.candidatesReading
    grind

theorem Malformed.unbroken {adapter : Adapter} {runtime : AdapterRuntime} {line : String}
    (malformed : adapter.Malformed runtime line) (path : StreamPath) :
    adapter.lineReading path runtime line ≠ .breaks := by
  obtain ⟨data, found, unmarked⟩ := malformed.unmarked
  simp only [lineReading, found, if_neg unmarked]
  split
  · exact reading_ne_breaks adapter path _
  · split <;> simp

end Adapter

/-! ## Insertion -/

/-- A successful stream has a success status. -/
theorem StreamPath.isSuccess_of_normal {path : StreamPath} {adapter : Adapter} {runtime : AdapterRuntime}
    {response : SseResponse} (normal : (path.transcript adapter runtime response).failure = none) :
    response.isSuccess = true := by
  by_contra failed
  cases path <;> cases adapter <;>
    simp [transcript, Adapter.stream, Adapter.streamWithUsage, OpenAI.stream, OpenAI.streamWithUsage,
      Anthropic.stream, Anthropic.streamWithUsage, Gemini.stream, Gemini.streamWithUsage, streamResponse,
      usageResponse, failed] at normal

/-- A malformed chunk that is put into a successful stream changes neither its texts nor its
ending exactly when the stream has ended before it or reads no text in it. -/
theorem malformed_chunk_unnoticed_iff (path : StreamPath) (adapter : Adapter) (runtime : AdapterRuntime)
    (status : Nat) (before after : List String) (line : String)
    (malformed : adapter.Malformed runtime line)
    (normal : (path.transcript adapter runtime ⟨status, before ++ after⟩).failure = none) :
    ((path.transcript adapter runtime ⟨status, before ++ line :: after⟩).failure = none ∧
        (path.transcript adapter runtime ⟨status, before ++ line :: after⟩).events =
          (path.transcript adapter runtime ⟨status, before ++ after⟩).events) ↔
      (∃ earlier ∈ before, adapter.lineReading path runtime earlier = .breaks) ∨
        adapter.lineReading path runtime line = .emits [] := by
  have succeeded := StreamPath.isSuccess_of_normal normal
  have success (lines : List String) : (SseResponse.mk status lines).isSuccess = true := succeeded
  have unbroken := malformed.unbroken path
  cases path with
  | plain =>
    cases adapter with
    | openAI =>
      simp only [StreamPath.transcript, Adapter.stream, OpenAI.stream, streamResponse, success, if_true]
        at normal ⊢
      simpa only [erase_some] using insert_unnoticed_iff (fun _ => OpenAI.streamLine_reads runtime)
        (fun _ => rfl) () normal unbroken
    | anthropic =>
      simp only [StreamPath.transcript, Adapter.stream, Anthropic.stream, streamResponse, success, if_true]
        at normal ⊢
      simpa only [erase_some] using insert_unnoticed_iff (fun _ => Anthropic.streamLine_reads runtime)
        (fun _ => rfl) () normal unbroken
    | gemini =>
      simp only [StreamPath.transcript, Adapter.stream, Gemini.stream, streamResponse, success, if_true]
        at normal ⊢
      simpa only [erase_some] using insert_unnoticed_iff (fun _ => Gemini.streamLine_reads runtime)
        (fun _ => rfl) () normal unbroken
  | metered =>
    cases adapter with
    | openAI =>
      simp only [StreamPath.transcript, Adapter.streamWithUsage, OpenAI.streamWithUsage, usageResponse,
        success, if_true] at normal ⊢
      exact insert_unnoticed_iff (fun _ => OpenAI.usageLine_reads runtime) (fun _ => rfl) () normal unbroken
    | anthropic =>
      simp only [StreamPath.transcript, Adapter.streamWithUsage, Anthropic.streamWithUsage, usageResponse,
        success, if_true] at normal ⊢
      refine insert_unnoticed_iff (Anthropic.usageLine_reads runtime) (fun counts => ?_) _ normal unbroken
      -- What comes at the end is a usage or nothing, never a text.
      unfold Anthropic.finish
      split <;> rfl
    | gemini =>
      simp only [StreamPath.transcript, Adapter.streamWithUsage, Gemini.streamWithUsage, usageResponse,
        success, if_true] at normal ⊢
      exact insert_unnoticed_iff (Gemini.usageLine_reads runtime) (fun usage => filterMap_usages _) _ normal
        unbroken

/-- `json.loads` of an open brace and of a number. -/
def fragmentRuntime : AdapterRuntime where
  json :=
    { loads := fun text => if text = "1" then .ok (.int 1) else .error .valueError
      dumps := fun _ => ""
      repr := fun _ => "" }
  decodeError := fun _ => true

/-- Invalid JSON before the end marker is skipped. -/
theorem open_brace_unnoticed :
    (StreamPath.plain.transcript .openAI fragmentRuntime
        ⟨200, ["data: \x7b", "data: [DONE]"]⟩).failure = none ∧
      (StreamPath.plain.transcript .openAI fragmentRuntime ⟨200, ["data: \x7b", "data: [DONE]"]⟩).events =
        (StreamPath.plain.transcript .openAI fragmentRuntime ⟨200, ["data: [DONE]"]⟩).events := by
  have found : sseData? "data: \x7b" = some "\x7b" := by decide +kernel
  have failed : fragmentRuntime.loads "\x7b" = .error .jsonDecodeError := by
    simp [AdapterRuntime.loads, fragmentRuntime]
  have malformed : Adapter.openAI.Malformed fragmentRuntime "data: \x7b" :=
    .unparsed found (by decide) failed
  refine (malformed_chunk_unnoticed_iff .plain .openAI fragmentRuntime 200 [] ["data: [DONE]"] "data: \x7b"
    malformed (by decide +kernel)).mpr (.inr ?_)
  simp only [Adapter.lineReading, found, failed]
  rfl

/-- A number in a data line ends the stream with an `AttributeError`. -/
theorem number_chunk_raises :
    ¬∀ (path : StreamPath) (adapter : Adapter) (runtime : AdapterRuntime) (status : Nat)
      (before after : List String) (line : String), adapter.Malformed runtime line →
        (path.transcript adapter runtime ⟨status, before ++ after⟩).failure = none →
          (path.transcript adapter runtime ⟨status, before ++ line :: after⟩).failure = none ∧
            (path.transcript adapter runtime ⟨status, before ++ line :: after⟩).events =
              (path.transcript adapter runtime ⟨status, before ++ after⟩).events := by
  intro unnoticed
  have malformed : Adapter.openAI.Malformed fragmentRuntime "data: 1" :=
    .parsed (show sseData? "data: 1" = some "1" by decide +kernel) (by decide) rfl (.inl rfl)
  have silent := (unnoticed .plain .openAI fragmentRuntime 200 [] [] "data: 1" malformed rfl).1
  have raised : (StreamPath.plain.transcript .openAI fragmentRuntime ⟨200, ["data: 1"]⟩).failure =
      some (.python .attributeError) := by
    decide +kernel
  rw [List.nil_append, raised] at silent
  cases silent

end Eiraos
