import Eiraos.Providers.LineReadings

/-! # The completion paths of the adapters (`application/providers/*_adapter.py`, `http.py`)

`complete` and `complete_with_usage` send the same request, so they are functions of the
final response.  `complete` reads it through `decode_completion`; `complete_with_usage` does
its own decoding, which checks no status and catches no error of `response.json()`.
-/

namespace Eiraos

open PythonJson

/-! ## The response -/

/-- The final response of `post_with_retry`. -/
structure CompletionResponse where
  status : Nat
  body : List UInt8
  deriving DecidableEq, Repr

/-- `raise_for_status` accepts it. -/
def CompletionResponse.isSuccess (response : CompletionResponse) : Bool :=
  200 ≤ response.status ∧ response.status < 300

/-- `response.json()`: a body that is no JSON, or no text, raises a `ValueError`. -/
abbrev BodyDecoder := List UInt8 → Except PythonError JsonValue

/-- `decode_completion`. -/
def decodeCompletion {Text : Type} (json : BodyDecoder) (response : CompletionResponse)
    (provider : String) (unpack : JsonValue → Except EiraOSException Text) :
    Except AdapterFailure Text :=
  if response.isSuccess then
    match json response.body with
    | .ok payload => (unpack payload).mapError .eiraos
    | .error .valueError => .error (.eiraos (upstreamFailure provider none))
    | .error error => .error (.python error)
  else .error (.eiraos (upstreamFailure provider (some response.status)))

structure ProviderCompletion where
  text : String
  usage : Option ProviderUsage
  deriving DecidableEq, Repr

/-- The body of `complete_with_usage`. -/
def meteredCompletion (json : BodyDecoder) (response : CompletionResponse)
    (unpack : JsonValue → Except EiraOSException String)
    (usage : JsonValue → Except PythonError (Option ProviderUsage)) :
    Except AdapterFailure ProviderCompletion := do
  let data ← (json response.body).mapError .python
  let text ← (unpack data).mapError .eiraos
  let usage ← (usage data).mapError .python
  return ⟨text, usage⟩

def badPayload (detail : String) : EiraOSException where
  title := "Bad upstream payload"
  detail
  statusCode := 502

/-- `value if isinstance(value, str) else ""`. -/
def textOr : JsonValue → String
  | .string text => text
  | _ => ""

/-! ## The adapters -/

namespace OpenAI

/-- `_unpack_message`. -/
def unpackMessage (data : JsonValue) : Except EiraOSException String :=
  if data.isObject then
    match data.field "choices" with
    | .array (message :: _) =>
      if message.isObject then
        if (message.field "message").isObject then
          .ok (textOr ((message.field "message").field "content"))
        else .error (badPayload "Provider completion had no message field.")
      else .error (badPayload "Provider completion had no message field.")
    | _ => .error (badPayload "Provider response had no choices.")
  else .error (badPayload "Provider returned a non-JSON object.")

def complete (json : BodyDecoder) (response : CompletionResponse) : Except AdapterFailure String :=
  decodeCompletion json response "OpenAI" unpackMessage

/-- The usage is read before the text here, but reading it raises nothing. -/
def completeWithUsage (json : BodyDecoder) (response : CompletionResponse) :
    Except AdapterFailure ProviderCompletion :=
  meteredCompletion json response unpackMessage fun data =>
    .ok (reportedUsage (data.field "usage") "prompt_tokens" "completion_tokens" (some "total_tokens"))

/-- The first choice has a message. -/
def hasText (data : JsonValue) : Bool :=
  match data.field "choices" with
  | .array (message :: _) => (message.field "message").isObject
  | _ => false

end OpenAI

namespace Anthropic

/-- `_unpack_anthropic_message`. -/
def unpackAnthropicMessage (data : JsonValue) : Except EiraOSException String :=
  if data.isObject then
    match data.field "content" with
    | .array (block :: _) =>
      if block.isObject then .ok (textOr (block.field "text"))
      else .error (badPayload "Provider response had a malformed content block.")
    | _ => .error (badPayload "Provider response had no content blocks.")
  else .error (badPayload "Provider returned a non-JSON object.")

def complete (json : BodyDecoder) (response : CompletionResponse) : Except AdapterFailure String :=
  decodeCompletion json response "Anthropic" unpackAnthropicMessage

def completeWithUsage (json : BodyDecoder) (response : CompletionResponse) :
    Except AdapterFailure ProviderCompletion :=
  meteredCompletion json response unpackAnthropicMessage fun data =>
    .ok (reportedUsage (data.field "usage") "input_tokens" "output_tokens" none)

/-- The first content block is an object. -/
def hasText (data : JsonValue) : Bool :=
  match data.field "content" with
  | .array (block :: _) => block.isObject
  | _ => false

end Anthropic

namespace Gemini

/-- `_unpack_gemini_text`. -/
def unpackGeminiText (data : JsonValue) : Except EiraOSException String :=
  if data.isObject then
    match data.field "candidates" with
    | .array (candidate :: _) =>
      if candidate.isObject then
        match ((candidate.field "content").orDefault (.object [])).field "parts" with
        | .array (part :: _) => .ok (textOr (part.field "text"))
        | _ => .error (badPayload "Provider response had no text parts.")
      else .error (badPayload "Provider response had a malformed candidate.")
    | _ => .error (badPayload "Provider response had no candidates.")
  else .error (badPayload "Provider returned a non-JSON object.")

def complete (json : BodyDecoder) (response : CompletionResponse) : Except AdapterFailure String :=
  decodeCompletion json response "Gemini" unpackGeminiText

def completeWithUsage (json : BodyDecoder) (response : CompletionResponse) :
    Except AdapterFailure ProviderCompletion :=
  meteredCompletion json response unpackGeminiText fun data =>
    geminiUsage (data.field "usageMetadata")

/-- The first candidate has a part. -/
def hasText (data : JsonValue) : Bool :=
  match data.field "candidates" with
  | .array (candidate :: _) =>
    match (candidate.field "content").field "parts" with
    | .array (_ :: _) => true
    | _ => false
  | _ => false

end Gemini

namespace Adapter

def complete : Adapter → BodyDecoder → CompletionResponse → Except AdapterFailure String
  | .openAI => OpenAI.complete
  | .anthropic => Anthropic.complete
  | .gemini => Gemini.complete

def completeWithUsage :
    Adapter → BodyDecoder → CompletionResponse → Except AdapterFailure ProviderCompletion
  | .openAI => OpenAI.completeWithUsage
  | .anthropic => Anthropic.completeWithUsage
  | .gemini => Gemini.completeWithUsage

/-- The payload has the place the text is read from. -/
def hasText : Adapter → JsonValue → Bool
  | .openAI => OpenAI.hasText
  | .anthropic => Anthropic.hasText
  | .gemini => Gemini.hasText

/-- The reported counts are ones that only Gemini's adapter fails to check. -/
def usageRaises : Adapter → JsonValue → Bool
  | .gemini, data => Gemini.negativeUsage (data.field "usageMetadata")
  | _, _ => false

/-- The body is JSON, and a payload with a text comes with a success status and with usage
that can be read. -/
def decodesAlike (adapter : Adapter) (json : BodyDecoder) (response : CompletionResponse) : Bool :=
  match json response.body with
  | .ok data => !adapter.hasText data || (response.isSuccess && !adapter.usageRaises data)
  | .error _ => false

end Adapter

/-- Both paths answer with the same text, or both raise the adapter's own exception. -/
inductive CompletionsAgree :
    Except AdapterFailure String → Except AdapterFailure ProviderCompletion → Prop where
  | answered (text : String) (usage : Option ProviderUsage) :
      CompletionsAgree (.ok text) (.ok ⟨text, usage⟩)
  | failed (first second : EiraOSException) :
      CompletionsAgree (.error (.eiraos first)) (.error (.eiraos second))

/-! ## What is unpacked -/

theorem OpenAI.unpackMessage_isOk (data : JsonValue) :
    (unpackMessage data).isOk = hasText data := by
  unfold unpackMessage hasText
  cases isObject : data.isObject with
  | false =>
    rw [JsonValue.field_of_not_object isObject]
    rfl
  | true =>
    simp only [if_true]
    split
    next message _ _ =>
      cases isMessage : message.isObject with
      | false =>
        rw [JsonValue.field_of_not_object isMessage]
        rfl
      | true =>
        simp only [if_true]
        cases (message.field "message").isObject <;> rfl
    next => rfl

theorem Anthropic.unpackAnthropicMessage_isOk (data : JsonValue) :
    (unpackAnthropicMessage data).isOk = hasText data := by
  unfold unpackAnthropicMessage hasText
  cases isObject : data.isObject with
  | false =>
    rw [JsonValue.field_of_not_object isObject]
    rfl
  | true =>
    simp only [if_true]
    split
    next block _ _ => cases block.isObject <;> rfl
    next => rfl

/-- A false `content` is replaced by one without parts. -/
theorem Gemini.parts_orDefault (content : JsonValue) :
    (content.orDefault (.object [])).field "parts" = content.field "parts" := by
  cases truth : content.truthy with
  | true => rw [JsonValue.orDefault_of_truthy truth]
  | false =>
    rw [JsonValue.orDefault_of_falsy truth]
    cases content with
    | object members =>
      cases members with
      | nil => rfl
      | cons => cases truth
    | _ => rfl

theorem Gemini.unpackGeminiText_isOk (data : JsonValue) :
    (unpackGeminiText data).isOk = hasText data := by
  unfold unpackGeminiText hasText
  cases isObject : data.isObject with
  | false =>
    rw [JsonValue.field_of_not_object isObject]
    rfl
  | true =>
    simp only [if_true]
    split
    next candidate _ _ =>
      cases isCandidate : candidate.isObject with
      | false =>
        rw [JsonValue.field_of_not_object isCandidate]
        rfl
      | true =>
        simp only [if_true, parts_orDefault]
        split <;> rfl
    next => rfl

/-! ## When the two paths agree -/

section Agreement

variable {json : BodyDecoder} {response : CompletionResponse} {provider : String}
  {unpack : JsonValue → Except EiraOSException String}
  {usage : JsonValue → Except PythonError (Option ProviderUsage)}

/-- The one comparison all three adapters are cases of. -/
theorem completionsAgree_iff {data : JsonValue} (parsed : json response.body = .ok data) :
    CompletionsAgree (decodeCompletion json response provider unpack)
        (meteredCompletion json response unpack usage) ↔
      ((unpack data).isOk = false ∨ (response.isSuccess = true ∧ (usage data).isOk = true)) := by
  simp only [decodeCompletion, meteredCompletion, parsed, Except.mapError, bind, Except.bind]
  cases unpacked : unpack data with
  | error exception =>
    refine iff_of_true ?_ (.inl rfl)
    cases response.isSuccess with
    | true => exact .failed _ _
    | false => exact .failed _ _
  | ok text =>
    cases reported : usage data with
    | error error =>
      refine iff_of_false (fun agree => ?_) (by simp [Except.isOk, Except.toBool])
      cases status : response.isSuccess <;> rw [status] at agree <;> cases agree
    | ok counts =>
      cases status : response.isSuccess with
      | true => exact iff_of_true (.answered text counts) (.inr ⟨rfl, rfl⟩)
      | false =>
        -- An answer to an error status, which `complete` refuses.
        refine iff_of_false (fun agree => ?_) (by simp [Except.isOk, Except.toBool])
        cases agree

/-- `complete_with_usage` lets every error of `response.json()` escape. -/
theorem not_completionsAgree_of_unparsed {completed : Except AdapterFailure String} {error : PythonError}
    (failed : json response.body = .error error) :
    ¬CompletionsAgree completed (meteredCompletion json response unpack usage) := by
  simp only [meteredCompletion, failed, Except.mapError, bind, Except.bind]
  intro agree
  cases agree

/-- An error status never becomes an answer of `complete`. -/
theorem decodeCompletion_of_failure {Text : Type} {unpack : JsonValue → Except EiraOSException Text}
    (failed : response.isSuccess = false) :
    decodeCompletion json response provider unpack =
      .error (.eiraos (upstreamFailure provider (some response.status))) := by
  rw [decodeCompletion, failed]
  rfl

end Agreement

namespace Adapter

/-- Where the two paths agree, no error status becomes an answer of either. -/
theorem refuses_of_agree {adapter : Adapter} {json : BodyDecoder} {response : CompletionResponse}
    (agree : CompletionsAgree (adapter.complete json response) (adapter.completeWithUsage json response))
    (failed : response.isSuccess = false) :
    ∃ first second, adapter.complete json response = .error (.eiraos first) ∧
      adapter.completeWithUsage json response = .error (.eiraos second) := by
  have refused : ∃ exception, adapter.complete json response = .error (.eiraos exception) := by
    cases adapter <;> exact ⟨_, decodeCompletion_of_failure failed⟩
  obtain ⟨exception, refused⟩ := refused
  rw [refused] at agree
  generalize metered : adapter.completeWithUsage json response = result at agree
  cases agree with
  | failed _ second => exact ⟨exception, second, refused, rfl⟩

end Adapter

/-- `complete` and `complete_with_usage` agree, and neither answers to an error status,
exactly when the body is JSON and a payload with a text comes with a success status and with
usage that can be read. -/
theorem completions_agree_iff (adapter : Adapter) (json : BodyDecoder) (response : CompletionResponse) :
    (CompletionsAgree (adapter.complete json response) (adapter.completeWithUsage json response) ∧
      (response.isSuccess = false → ∃ first second,
        adapter.complete json response = .error (.eiraos first) ∧
          adapter.completeWithUsage json response = .error (.eiraos second))) ↔
      adapter.decodesAlike json response = true := by
  have refuses := @Adapter.refuses_of_agree adapter json response
  rw [and_iff_left_of_imp refuses]
  unfold Adapter.decodesAlike
  cases parsed : json response.body with
  | error error =>
    refine iff_of_false ?_ (by simp)
    cases adapter <;> exact not_completionsAgree_of_unparsed parsed
  | ok data =>
    simp only [Bool.or_eq_true, Bool.not_eq_true', Bool.and_eq_true]
    cases adapter with
    | openAI =>
      simp only [Adapter.complete, OpenAI.complete, Adapter.completeWithUsage, OpenAI.completeWithUsage,
        Adapter.hasText, Adapter.usageRaises]
      rw [completionsAgree_iff parsed, OpenAI.unpackMessage_isOk]
      simp [Except.isOk, Except.toBool]
    | anthropic =>
      simp only [Adapter.complete, Anthropic.complete, Adapter.completeWithUsage,
        Anthropic.completeWithUsage, Adapter.hasText, Adapter.usageRaises]
      rw [completionsAgree_iff parsed, Anthropic.unpackAnthropicMessage_isOk]
      simp [Except.isOk, Except.toBool]
    | gemini =>
      simp only [Adapter.complete, Gemini.complete, Adapter.completeWithUsage, Gemini.completeWithUsage,
        Adapter.hasText, Adapter.usageRaises]
      rw [completionsAgree_iff parsed, Gemini.unpackGeminiText_isOk]
      cases negative : Gemini.negativeUsage (data.field "usageMetadata") with
      | true =>
        obtain ⟨error, raised⟩ := (Gemini.geminiUsage_eq _).1 negative
        simp [raised, Except.isOk, Except.toBool]
      | false =>
        obtain ⟨counts, read⟩ := (Gemini.geminiUsage_eq _).2 negative
        simp [read, Except.isOk, Except.toBool]

/-- `{"choices":[{"message":{}}]}`. -/
def emptyMessageBody : List UInt8 :=
  ("\x7b\"choices\":[\x7b\"message\":\x7b\x7d\x7d]\x7d".toList.map fun character => character.toNat.toUInt8)

def emptyMessagePayload : JsonValue :=
  .object [("choices", .array [.object [("message", .object [])]])]

/-- An internal error of the server becomes an answer of `complete_with_usage`. -/
theorem error_status_answered :
    ¬∀ (adapter : Adapter) (json : BodyDecoder) (response : CompletionResponse),
      CompletionsAgree (adapter.complete json response) (adapter.completeWithUsage json response) ∧
        (response.isSuccess = false → ∃ first second,
          adapter.complete json response = .error (.eiraos first) ∧
            adapter.completeWithUsage json response = .error (.eiraos second)) := by
  intro agree
  have refused := (agree .openAI
    (fun body => if body = emptyMessageBody then .ok emptyMessagePayload else .error .valueError)
    ⟨500, emptyMessageBody⟩).2 rfl
  obtain ⟨first, second, _, failed⟩ := refused
  have answered : Adapter.openAI.completeWithUsage
      (fun body => if body = emptyMessageBody then .ok emptyMessagePayload else .error .valueError)
      ⟨500, emptyMessageBody⟩ = .ok ⟨"", none⟩ := by
    simp only [Adapter.completeWithUsage, OpenAI.completeWithUsage, meteredCompletion, if_true]
    rfl
  rw [answered] at failed
  cases failed

end Eiraos
