import Eiraos.Chat.Completion
import Eiraos.Providers.Policy
import Eiraos.Foundations.Json

/-! # What the adapters send (`application/providers/*_adapter.py`)

The requests of `complete`, `complete_with_usage`, `stream` and `stream_with_usage`, and what a
provider reads off them.
-/

namespace Eiraos

open PythonJson

inductive CallMode where
  | complete
  | completeWithUsage
  | stream
  | streamWithUsage
  deriving DecidableEq, Repr

def CallMode.streams : CallMode → Bool
  | .complete | .completeWithUsage => false
  | .stream | .streamWithUsage => true

/-- The arguments of a call; the temperature is a float. -/
structure CallArguments where
  context : ProviderContext
  model : String
  temperature : JsonValue
  maxTokens : Int

/-- `client.post(url, headers=headers, json=json)`. -/
structure ProviderRequest where
  url : String
  headers : List (String × String)
  json : JsonValue

/-- `normalized_base_url`. -/
def normalizedBaseUrl (value : String) : String :=
  String.ofList (value.toList.rdropWhile fun character => character = '/')

/-- `if system_prompt:`. -/
def givenPrompt (systemPrompt : Option String) : Option String := systemPrompt.filter fun text => text ≠ ""

def wireMessage (message : ChatMessage) : JsonValue :=
  .object [("role", .string message.role), ("content", .string message.content)]

namespace OpenAI

/-- `formatted_messages`. -/
def formattedMessages (context : ProviderContext) : List JsonValue :=
  ((givenPrompt context.systemPrompt).toList.map fun text => wireMessage ⟨"system", text⟩) ++
    context.messages.map wireMessage

def streamOptions : CallMode → List (String × JsonValue)
  | .streamWithUsage => [("stream_options", .object [("include_usage", .bool true)])]
  | _ => []

def payload (mode : CallMode) (arguments : CallArguments) : JsonValue :=
  .object (
    [("model", .string arguments.model), ("messages", .array (formattedMessages arguments.context)),
      ("temperature", arguments.temperature), ("max_tokens", .int arguments.maxTokens),
      ("stream", .bool mode.streams)] ++ streamOptions mode)

def request (apiKey : String) (mode : CallMode) (arguments : CallArguments) : ProviderRequest where
  url := normalizedBaseUrl "https://api.openai.com/v1" ++ "/chat/completions"
  headers := [("Authorization", "Bearer " ++ apiKey), ("Content-Type", "application/json")]
  json := payload mode arguments

end OpenAI

namespace Anthropic

def streamMember (mode : CallMode) : List (String × JsonValue) :=
  if mode.streams then [("stream", .bool true)] else []

def payload (mode : CallMode) (arguments : CallArguments) : JsonValue :=
  .object (
    [("model", .string arguments.model), ("messages", .array (arguments.context.messages.map wireMessage)),
      ("max_tokens", .int arguments.maxTokens), ("temperature", arguments.temperature)] ++
    streamMember mode ++
    (givenPrompt arguments.context.systemPrompt).toList.map fun text => ("system", .string text))

def request (apiKey : String) (mode : CallMode) (arguments : CallArguments) : ProviderRequest where
  url := normalizedBaseUrl "https://api.anthropic.com/v1" ++ "/messages"
  headers := [("x-api-key", apiKey), ("anthropic-version", "2023-06-01"), ("content-type", "application/json")]
  json := payload mode arguments

end Anthropic

namespace Gemini

def wireText (text : String) : JsonValue := .array [.object [("text", .string text)]]

def wireTurn (message : ChatMessage) : JsonValue :=
  .object [("role", .string (if message.role = "assistant" then "model" else "user")),
    ("parts", wireText message.content)]

/-- `_convert_messages`. -/
def convertMessages (context : ProviderContext) : List (String × JsonValue) :=
  ("contents", .array (context.messages.map wireTurn)) ::
    (givenPrompt context.systemPrompt).toList.map fun text =>
      ("systemInstruction", .object [("parts", wireText text)])

/-- `_payload`. -/
def payload (arguments : CallArguments) : JsonValue :=
  .object (convertMessages arguments.context ++
    [("generationConfig", .object [("temperature", arguments.temperature),
      ("maxOutputTokens", .int arguments.maxTokens)])])

def method (mode : CallMode) : String :=
  if mode.streams then "streamGenerateContent?alt=sse" else "generateContent"

def baseUrl : String := normalizedBaseUrl "https://generativelanguage.googleapis.com/v1beta"

def request (apiKey : String) (mode : CallMode) (arguments : CallArguments) : ProviderRequest where
  url := baseUrl ++ "/models/" ++ arguments.model ++ ":" ++ method mode
  headers := [("x-goog-api-key", apiKey)]
  json := payload arguments

end Gemini

def Adapter.request : Adapter → String → CallMode → CallArguments → ProviderRequest
  | .openAI => OpenAI.request
  | .anthropic => Anthropic.request
  | .gemini => Gemini.request

/-! ## What a provider reads -/

/-- A model and the conversation it is to continue. -/
structure ReadRequest where
  model : String
  context : ProviderContext
  deriving DecidableEq, Repr

def text? : JsonValue → Option String
  | .string text => some text
  | _ => none

def items? : JsonValue → Option (List JsonValue)
  | .array items => some items
  | _ => none

def readMessage (value : JsonValue) : Option ChatMessage := do
  let role ← text? (value.field "role")
  let content ← text? (value.field "content")
  return ⟨role, content⟩

/-- A leading system message is the system prompt. -/
def splitSystem : List ChatMessage → ProviderContext
  | [] => ⟨[], none⟩
  | message :: messages =>
    if message.role = "system" then ⟨messages, some message.content⟩ else ⟨message :: messages, none⟩

def OpenAI.read (request : ProviderRequest) : Option ReadRequest := do
  let model ← text? (request.json.field "model")
  let items ← items? (request.json.field "messages")
  let messages ← items.mapM readMessage
  return ⟨model, splitSystem messages⟩

def Anthropic.read (request : ProviderRequest) : Option ReadRequest := do
  let model ← text? (request.json.field "model")
  let items ← items? (request.json.field "messages")
  let messages ← items.mapM readMessage
  return ⟨model, ⟨messages, text? (request.json.field "system")⟩⟩

namespace Gemini

/-- The text of a single part. -/
def readText (value : JsonValue) : Option String :=
  match value.field "parts" with
  | .array [part] => text? (part.field "text")
  | _ => none

def readTurn (value : JsonValue) : Option ChatMessage := do
  let role ← text? (value.field "role")
  let content ← readText value
  return ⟨if role = "model" then "assistant" else role, content⟩

/-- The model stands before the last colon of the path. -/
def readModel (url : String) : String :=
  String.ofList (((url.toList.drop (baseUrl ++ "/models/").length).rdropWhile fun character =>
    character ≠ ':').dropLast)

def read (request : ProviderRequest) : Option ReadRequest := do
  let items ← items? (request.json.field "contents")
  let messages ← items.mapM readTurn
  return ⟨readModel request.url, ⟨messages, readText (request.json.field "systemInstruction")⟩⟩

end Gemini

def Adapter.read : Adapter → ProviderRequest → Option ReadRequest
  | .openAI => OpenAI.read
  | .anthropic => Anthropic.read
  | .gemini => Gemini.read

/-! ## Every request carries its conversation -/

/-- Reading what was written, item by item. -/
theorem mapM_read {Item : Type*} {write : Item → JsonValue} {read : JsonValue → Option Item}
    {items : List Item} (exact : ∀ item ∈ items, read (write item) = some item) :
    (items.map write).mapM read = some items := by
  induction items with
  | nil => rfl
  | cons item items inductionHypothesis =>
    rw [List.forall_mem_cons] at exact
    rw [List.map_cons, List.mapM_cons, exact.1, inductionHypothesis exact.2]
    rfl

@[simp] theorem readMessage_wireMessage (message : ChatMessage) :
    readMessage (wireMessage message) = some message := rfl

theorem mapM_readMessage (messages : List ChatMessage) :
    (messages.map wireMessage).mapM readMessage = some messages :=
  mapM_read fun message _ => readMessage_wireMessage message

/-- The turns of a conversation are the user's and the assistant's. -/
def Conversational (context : ProviderContext) : Prop :=
  ∀ message ∈ context.messages, message.role = "user" ∨ message.role = "assistant"

def CallArguments.carried (arguments : CallArguments) : ReadRequest :=
  ⟨arguments.model, arguments.context.messages, givenPrompt arguments.context.systemPrompt⟩

namespace OpenAI

theorem splitSystem_messages {context : ProviderContext} (turns : Conversational context) :
    splitSystem context.messages = ⟨context.messages, none⟩ := by
  cases listed : context.messages with
  | nil => rfl
  | cons message messages =>
    have role := turns message (by rw [listed]; exact List.mem_cons_self)
    have other : message.role ≠ "system" := by rcases role with role | role <;> simp [role]
    rw [splitSystem, if_neg other]

theorem read_request {arguments : CallArguments} (turns : Conversational arguments.context)
    (apiKey : String) (mode : CallMode) :
    OpenAI.read (request apiKey mode arguments) = some arguments.carried := by
  have messages : (formattedMessages arguments.context).mapM readMessage =
      some (((givenPrompt arguments.context.systemPrompt).toList.map fun text => ⟨"system", text⟩) ++
        arguments.context.messages) := by
    rw [formattedMessages, ← mapM_readMessage, List.map_append, List.map_map]
    rfl
  show ((formattedMessages arguments.context).mapM readMessage).bind
    (fun messages => some (⟨arguments.model, splitSystem messages⟩ : ReadRequest)) = _
  rw [messages, Option.bind_some]
  cases given : givenPrompt arguments.context.systemPrompt with
  | none => simp [CallArguments.carried, given, splitSystem_messages turns]
  | some text => simp [CallArguments.carried, given, splitSystem]

end OpenAI

theorem Anthropic.read_request (arguments : CallArguments) (apiKey : String) (mode : CallMode) :
    Anthropic.read (Anthropic.request apiKey mode arguments) = some arguments.carried := by
  have system : text? ((Anthropic.request apiKey mode arguments).json.field "system") =
      givenPrompt arguments.context.systemPrompt := by
    cases mode <;> cases given : givenPrompt arguments.context.systemPrompt <;>
      simp [Anthropic.request, Anthropic.payload, Anthropic.streamMember, CallMode.streams, given,
        JsonValue.field, JsonValue.member?, text?]
  show ((arguments.context.messages.map wireMessage).mapM readMessage).bind
    (fun messages => some (⟨arguments.model, messages, _⟩ : ReadRequest)) = _
  rw [mapM_readMessage, system]
  rfl

namespace Gemini

theorem readTurn_wireTurn {message : ChatMessage} (turn : message.role = "user" ∨ message.role = "assistant") :
    readTurn (wireTurn message) = some message := by
  obtain ⟨role, content⟩ := message
  rcases turn with rfl | rfl <;> rfl

theorem readModel_url (model : String) (mode : CallMode) :
    readModel (baseUrl ++ "/models/" ++ model ++ ":" ++ method mode) = model := by
  have unbroken : (method mode).toList.reverse.all (fun character => decide (character ≠ ':')) = true := by
    cases mode <;> decide +kernel
  have plain : ∀ character ∈ (method mode).toList.reverse, (decide (character ≠ ':')) = true :=
    List.all_eq_true.mp unbroken
  have path : (baseUrl ++ "/models/" ++ model ++ ":" ++ method mode).toList.drop
      (baseUrl ++ "/models/").length = model.toList ++ ':' :: (method mode).toList := by
    generalize baseUrl ++ "/models/" = front
    rw [← String.length_toList]
    simp only [String.toList_append, List.append_assoc, List.drop_left]
    rfl
  rw [readModel, path, List.rdropWhile, List.reverse_append, List.reverse_cons, List.append_assoc,
    List.dropWhile_append_of_pos plain]
  simp

theorem read_request {arguments : CallArguments} (turns : Conversational arguments.context)
    (apiKey : String) (mode : CallMode) :
    Gemini.read (request apiKey mode arguments) = some arguments.carried := by
  have system : readText ((request apiKey mode arguments).json.field "systemInstruction") =
      givenPrompt arguments.context.systemPrompt := by
    cases given : givenPrompt arguments.context.systemPrompt <;>
      simp [request, payload, convertMessages, given, JsonValue.field, JsonValue.member?, readText,
        wireText, text?]
  have messages : (arguments.context.messages.map wireTurn).mapM readTurn = some arguments.context.messages :=
    mapM_read fun message member => readTurn_wireTurn (turns message member)
  show ((arguments.context.messages.map wireTurn).mapM readTurn).bind
    (fun messages => some (⟨_, messages, _⟩ : ReadRequest)) = _
  rw [messages, system]
  show some (⟨readModel (baseUrl ++ "/models/" ++ arguments.model ++ ":" ++ method mode), _, _⟩ : ReadRequest) = _
  rw [readModel_url]
  rfl

end Gemini

/-- Over all four calls of all three adapters, a provider reads the model, the turns and the
system prompt that the call was given. -/
theorem Adapter.read_request {arguments : CallArguments} (turns : Conversational arguments.context)
    (adapter : Adapter) (apiKey : String) (mode : CallMode) :
    adapter.read (adapter.request apiKey mode arguments) = some arguments.carried := by
  cases adapter with
  | openAI => exact OpenAI.read_request turns apiKey mode
  | anthropic => exact Anthropic.read_request arguments apiKey mode
  | gemini => exact Gemini.read_request turns apiKey mode

end Eiraos
