import Eiraos.Providers.Completions

/-! # What the extraction of a completion keeps

A completion payload of Anthropic is a list of content blocks, one of Gemini a list of parts.
Streamed, every block and every part is a text event; unpacked, only the first one is read.
-/

namespace Eiraos

open PythonJson PythonText LineLoop

/-- The text of a block or a part: its `text`, if that is a string. -/
def itemText (item : JsonValue) : String := textOr (item.field "text")

/-- The text of all blocks or parts, in order. -/
def joinedText (items : List JsonValue) : String := String.join (items.map itemText)

/-- The text a consumer puts together from what a stream emits. -/
def emittedText (texts : List JsonValue) : String := String.join (texts.map textOr)

/-- No text behind the first item. -/
def headOnly : List JsonValue → Bool
  | [] => false
  | _ :: later => later.all fun item => itemText item = ""

/-! ## Joining -/

theorem emittedText_append (first second : List JsonValue) :
    emittedText (first ++ second) = emittedText first ++ emittedText second := by
  simp [emittedText]

theorem joinedText_append (first second : List JsonValue) :
    joinedText (first ++ second) = joinedText first ++ joinedText second := by
  simp [joinedText]

/-- Whatever `if text` lets pass, the strings are the text. -/
theorem emittedText_truthyText (value : JsonValue) : emittedText (truthyText value) = textOr value := by
  unfold truthyText
  split
  · simp [emittedText]
  next falsy =>
    cases value with
    | string text =>
      have empty : text = "" := by simpa [JsonValue.truthy] using falsy
      simp [emittedText, textOr, empty]
    | _ => rfl

theorem emittedText_flatMap {Item : Type} (texts : Item → List JsonValue) (items : List Item) :
    emittedText (items.flatMap texts) = String.join (items.map fun item => emittedText (texts item)) := by
  induction items with
  | nil => rfl
  | cons item items inductionHypothesis =>
    rw [List.flatMap_cons, emittedText_append, inductionHypothesis, List.map_cons, String.join_cons]

theorem join_eq_empty (texts : List String) : String.join texts = "" ↔ ∀ text ∈ texts, text = "" := by
  induction texts with
  | nil => simp
  | cons text texts inductionHypothesis => simp [inductionHypothesis]

/-- The first text is all of the text exactly when nothing follows. -/
theorem itemText_eq_joined (first : JsonValue) (later : List JsonValue) :
    itemText first = joinedText (first :: later) ↔ headOnly (first :: later) = true := by
  have rest : joinedText later = "" ↔ headOnly (first :: later) = true := by
    simp [joinedText, headOnly, join_eq_empty]
  rw [← rest]
  constructor
  · intro same
    have joined : itemText first ++ joinedText later = itemText first ++ "" := by
      simpa [joinedText] using same.symm
    exact (String.append_right_inj _).mp joined
  · intro none
    simp only [joinedText, List.map_cons, String.join_cons] at none ⊢
    simp [none]

/-! ## The extractors -/

/-- Only an object has a member that is a list. -/
theorem isObject_of_array {value : JsonValue} {key : String} {items : List JsonValue}
    (found : value.field key = .array items) : value.isObject = true := by
  cases value with
  | object => rfl
  | _ => cases found

theorem Anthropic.unpackAnthropicMessage_blocks {data : JsonValue} {blocks : List JsonValue}
    (content : data.field "content" = .array blocks) :
    unpackAnthropicMessage data = .ok (joinedText blocks) ↔
      (blocks.head?.any JsonValue.isObject && headOnly blocks) = true := by
  simp only [unpackAnthropicMessage, isObject_of_array content, if_true, content]
  cases blocks with
  | nil => simp [headOnly]
  | cons block later =>
    simp only [List.head?_cons, Option.any_some, Bool.and_eq_true, ← itemText_eq_joined]
    cases block.isObject with
    | true => simp [itemText]
    | false => simp

theorem Gemini.unpackGeminiText_parts {data candidate : JsonValue} {later parts : List JsonValue}
    (candidates : data.field "candidates" = .array (candidate :: later))
    (content : (candidate.field "content").field "parts" = .array parts) :
    unpackGeminiText data = .ok (joinedText parts) ↔ headOnly parts = true := by
  have isCandidate : candidate.isObject = true := by
    cases candidate with
    | object => rfl
    | _ => cases content
  simp only [unpackGeminiText, isObject_of_array candidates, if_true, candidates, isCandidate,
    parts_orDefault, content]
  cases parts with
  | nil => simp [headOnly]
  | cons part rest =>
    rw [← itemText_eq_joined]
    simp [itemText]

/-! ## The same items streamed -/

/-- The lines carry these values, one a line. -/
def Carries (runtime : AdapterRuntime) : List String → List JsonValue → Prop :=
  List.Forall₂ fun line value => ∃ data, sseData? line = some data ∧ runtime.loads data = .ok value

/-- A loop that reads every line emits the texts of all of them. -/
theorem streamed_texts {runtime : AdapterRuntime} {provider : String}
    {body : JsonValue → Except AdapterFailure (List JsonValue)} {texts : JsonValue → List JsonValue}
    {lines : List String} {values : List JsonValue} (carried : Carries runtime lines values)
    (reads : ∀ value ∈ values, body value = .ok (texts value)) :
    streamResponse provider
        (guardedLine runtime fun _ value => (body value).map fun texts => ((), texts)) ⟨200, lines⟩ =
      ⟨lines, values.flatMap texts, none⟩ := by
  have success : (SseResponse.mk 200 lines).isSuccess = true := rfl
  rw [streamResponse, if_pos success]
  induction carried with
  | nil => rfl
  | @cons line value lines values here _ inductionHypothesis =>
    obtain ⟨data, found, parsed⟩ := here
    have effect : guardedLine runtime (fun _ value => (body value).map fun texts => ((), texts)) () line =
        ⟨(), texts value, .continues⟩ := by
      simp only [guardedLine, found, parsed, reads value List.mem_cons_self, Except.map]
    rw [loop_of_continues (by rw [effect]), effect,
      inductionHypothesis fun other member => reads other (List.mem_cons_of_mem _ member)]
    · rfl
    · rfl

/-- A content block that arrives as a text delta. -/
def Anthropic.textDelta (block : JsonValue) : JsonValue :=
  .object [("type", .string "content_block_delta"),
    ("delta", .object [("type", .string "text_delta"), ("text", block.field "text")])]

theorem Anthropic.eventTexts_textDelta (block : JsonValue) :
    eventTexts (textDelta block) = .ok (truthyText (block.field "text")) := by
  simp [eventTexts, textDelta, JsonValue.get, JsonValue.member?, JsonValue.isText, deltaTexts, bind,
    Except.bind, Except.mapError, pure, Except.pure]

/-- Parts that arrive in one chunk. -/
def Gemini.partsChunk (parts : List JsonValue) : JsonValue :=
  .object [("candidates", .array [.object [("content", .object [("parts", .array parts)])]])]

theorem Gemini.chunkTexts_partsChunk (parts : List JsonValue) :
    chunkTexts (partsChunk parts) = .ok (parts.flatMap partTexts) := by
  simp [chunkTexts, partsChunk, JsonValue.get, JsonValue.member?, JsonValue.truthy, firstObjectTexts,
    JsonValue.first, JsonValue.isObject, candidateTexts, contentTexts, JsonValue.iterate, bind,
    Except.bind, Except.mapError, pure, Except.pure]

theorem Anthropic.stream_textDeltas {runtime : AdapterRuntime} {lines : List String}
    {blocks : List JsonValue} (carried : Carries runtime lines (blocks.map textDelta)) :
    (stream runtime ⟨200, lines⟩).failure = none ∧
      emittedText (stream runtime ⟨200, lines⟩).events = joinedText blocks := by
  have reads : ∀ value ∈ blocks.map textDelta,
      eventTexts value = .ok (truthyText ((value.field "delta").field "text")) := by
    intro value member
    obtain ⟨block, _, rfl⟩ := List.mem_map.mp member
    exact eventTexts_textDelta block
  have streamed := @streamed_texts runtime "Anthropic" eventTexts _ lines _ carried reads
  have transcript : stream runtime ⟨200, lines⟩ = _ := streamed
  rw [transcript]
  refine ⟨rfl, ?_⟩
  simp only [List.flatMap_map, emittedText_flatMap, emittedText_truthyText]
  rfl

/-- However the parts are distributed over the chunks. -/
theorem Gemini.stream_partsChunks {runtime : AdapterRuntime} {lines : List String}
    {chunks : List (List JsonValue)} (carried : Carries runtime lines (chunks.map partsChunk)) :
    (stream runtime ⟨200, lines⟩).failure = none ∧
      emittedText (stream runtime ⟨200, lines⟩).events = joinedText chunks.flatten := by
  have reads : ∀ value ∈ chunks.map partsChunk,
      chunkTexts value = .ok ((chunkTexts value).toOption.getD []) := by
    intro value member
    obtain ⟨parts, _, rfl⟩ := List.mem_map.mp member
    rw [chunkTexts_partsChunk]
    rfl
  have streamed := @streamed_texts runtime "Gemini" chunkTexts _ lines _ carried reads
  have transcript : stream runtime ⟨200, lines⟩ = _ := streamed
  rw [transcript]
  refine ⟨rfl, ?_⟩
  simp only [List.flatMap_map, chunkTexts_partsChunk, Except.toOption, Option.getD_some]
  clear carried reads streamed transcript
  induction chunks with
  | nil => rfl
  | cons parts chunks inductionHypothesis =>
    rw [List.flatMap_cons, emittedText_append, inductionHypothesis, List.flatten_cons, joinedText_append]
    simp only [emittedText_flatMap, partTexts, emittedText_truthyText]
    rfl

/-! ## What is lost -/

/-- The unpacked text is the text of all blocks or parts, which is what the stream emits,
exactly when the list is not empty, no text follows its first item and, for Anthropic, that
item is an object. -/
theorem extraction_keeps_text_iff (data : JsonValue) :
    (∀ blocks : List JsonValue, data.field "content" = .array blocks →
      (Anthropic.unpackAnthropicMessage data = .ok (joinedText blocks) ↔
        (blocks.head?.any JsonValue.isObject && headOnly blocks) = true) ∧
      ∀ (runtime : AdapterRuntime) (lines : List String),
        Carries runtime lines (blocks.map Anthropic.textDelta) →
          (Anthropic.stream runtime ⟨200, lines⟩).failure = none ∧
            emittedText (Anthropic.stream runtime ⟨200, lines⟩).events = joinedText blocks) ∧
    ∀ (candidate : JsonValue) (later parts : List JsonValue),
      data.field "candidates" = .array (candidate :: later) →
      (candidate.field "content").field "parts" = .array parts →
        (Gemini.unpackGeminiText data = .ok (joinedText parts) ↔ headOnly parts = true) ∧
        ∀ (runtime : AdapterRuntime) (lines : List String) (chunks : List (List JsonValue)),
          chunks.flatten = parts → Carries runtime lines (chunks.map Gemini.partsChunk) →
            (Gemini.stream runtime ⟨200, lines⟩).failure = none ∧
              emittedText (Gemini.stream runtime ⟨200, lines⟩).events = joinedText parts := by
  constructor
  · intro blocks content
    exact ⟨Anthropic.unpackAnthropicMessage_blocks content,
      fun runtime lines carried => Anthropic.stream_textDeltas carried⟩
  · intro candidate later parts candidates content
    refine ⟨Gemini.unpackGeminiText_parts candidates content, fun runtime lines chunks all carried => ?_⟩
    rw [← all]
    exact Gemini.stream_partsChunks carried

def textBlock (text : String) : JsonValue := .object [("type", .string "text"), ("text", .string text)]

def textPart (text : String) : JsonValue := .object [("text", .string text)]

/-- The JSON of the two events that carry the text `hi`. -/
def deltaJson : String :=
  "\x7b\"type\":\"content_block_delta\",\"delta\":\x7b\"type\":\"text_delta\",\"text\":\"hi\"\x7d\x7d"

def chunkJson : String :=
  "\x7b\"candidates\":[\x7b\"content\":\x7b\"parts\":[\x7b\"text\":\"hi\"\x7d]\x7d\x7d]\x7d"

/-- `json.loads` of these two texts. -/
def itemRuntime : AdapterRuntime where
  json :=
    { loads := fun text =>
        if text = deltaJson then .ok (Anthropic.textDelta (textBlock "hi"))
        else if text = chunkJson then .ok (Gemini.partsChunk [textPart "hi"])
        else .error .valueError
      dumps := fun _ => ""
      repr := fun _ => "" }
  decodeError := fun _ => true

theorem itemRuntime_carries :
    Carries itemRuntime ["data: " ++ deltaJson] [Anthropic.textDelta (textBlock "hi")] ∧
      Carries itemRuntime ["data: " ++ chunkJson] [Gemini.partsChunk [textPart "hi"]] := by
  have distinct : ¬chunkJson = deltaJson := by decide +kernel
  constructor
  · refine .cons ⟨deltaJson, by decide +kernel, ?_⟩ .nil
    simp [AdapterRuntime.loads, itemRuntime]
  · refine .cons ⟨chunkJson, by decide +kernel, ?_⟩ .nil
    simp [AdapterRuntime.loads, itemRuntime, distinct]

/-- One block, or one part, is unpacked as it is streamed. -/
theorem single_item_kept :
    Anthropic.unpackAnthropicMessage (.object [("content", .array [textBlock "hi"])]) =
        .ok (joinedText [textBlock "hi"]) ∧
      emittedText (Anthropic.stream itemRuntime ⟨200, ["data: " ++ deltaJson]⟩).events =
        joinedText [textBlock "hi"] ∧
      Gemini.unpackGeminiText (Gemini.partsChunk [textPart "hi"]) = .ok (joinedText [textPart "hi"]) ∧
      emittedText (Gemini.stream itemRuntime ⟨200, ["data: " ++ chunkJson]⟩).events =
        joinedText [textPart "hi"] := by
  have anthropic := (extraction_keeps_text_iff
    (.object [("content", .array [textBlock "hi"])])).1 [textBlock "hi"] rfl
  have gemini := (extraction_keeps_text_iff (Gemini.partsChunk [textPart "hi"])).2 _ [] [textPart "hi"] rfl rfl
  refine ⟨anthropic.1.mpr (by decide +kernel), ?_, gemini.1.mpr (by decide +kernel), ?_⟩
  · exact (anthropic.2 itemRuntime _ itemRuntime_carries.1).2
  · exact (gemini.2 itemRuntime _ [[textPart "hi"]] rfl itemRuntime_carries.2).2

/-- The second block, or the second part, is dropped. -/
theorem second_item_lost :
    ¬((∀ (data : JsonValue) (blocks : List JsonValue), data.field "content" = .array blocks →
        Anthropic.unpackAnthropicMessage data = .ok (joinedText blocks)) ∨
      ∀ (data candidate : JsonValue) (later parts : List JsonValue),
        data.field "candidates" = .array (candidate :: later) →
        (candidate.field "content").field "parts" = .array parts →
          Gemini.unpackGeminiText data = .ok (joinedText parts)) := by
  rintro (kept | kept)
  · have first := kept (.object [("content", .array [textBlock "Hello", textBlock " world"])]) _ rfl
    have unpacked : Anthropic.unpackAnthropicMessage
        (.object [("content", .array [textBlock "Hello", textBlock " world"])]) = .ok "Hello" := rfl
    rw [unpacked, Except.ok.injEq] at first
    revert first
    decide +kernel
  · have first := kept (Gemini.partsChunk [textPart "Hello", textPart " world"]) _ [] _ rfl rfl
    have unpacked : Gemini.unpackGeminiText
        (Gemini.partsChunk [textPart "Hello", textPart " world"]) = .ok "Hello" := rfl
    rw [unpacked, Except.ok.injEq] at first
    revert first
    decide +kernel

end Eiraos
