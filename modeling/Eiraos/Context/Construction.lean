import Eiraos.Foundations.Guarded
import Eiraos.Foundations.PythonText

/-! # Context construction (`application/context_construction.py`)

The newest messages of a conversation that fit a budget, an extract of the older ones, and
the current prompt.  `sha256` is the hex digest of a text; nothing is assumed of it here.
-/

namespace Eiraos.Context

open Guarded PythonText

/-! ## The policy -/

structure PolicyArguments where
  contextWindowTokens : Int
  reservedOutputTokens : Int := 1000
  maxHistoryTokens : Int := 8000
  maxHistoryMessages : Int := 40
  maxSourceMessages : Int := 200
  maxCompactionTokens : Int := 0
  charsPerToken : Int := 4
  deriving DecidableEq, Repr

/-- `__post_init__`; the error is the text of the `ValueError`. -/
def PolicyArguments.postInit (arguments : PolicyArguments) : Except String Unit := do
  ensure (¬(arguments.contextWindowTokens ≤ 0 ∨ arguments.charsPerToken ≤ 0))
    "context window and token ratio must be positive"
  ensure (¬min (min arguments.reservedOutputTokens arguments.maxHistoryTokens)
      (min arguments.maxHistoryMessages arguments.maxCompactionTokens) < 0)
    "context policy limits cannot be negative"
  ensure (¬arguments.maxSourceMessages < arguments.maxHistoryMessages)
    "source window cannot be smaller than the raw history window"
  ensure (¬arguments.maxSourceMessages ≤ 0) "source window must be positive"
  ensure (¬arguments.contextWindowTokens ≤ arguments.reservedOutputTokens)
    "output reservation must leave an input window"

/-- A policy that its constructor has accepted. -/
structure ContextPolicy extends PolicyArguments where
  accepted : toPolicyArguments.postInit = .ok ()

namespace ContextPolicy

variable (policy : ContextPolicy)

/-! The limits of an accepted policy are natural numbers. -/

def inputBudget : Nat := (policy.contextWindowTokens - policy.reservedOutputTokens).toNat

def historyTokens : Nat := policy.maxHistoryTokens.toNat

def historyMessages : Nat := policy.maxHistoryMessages.toNat

def sourceMessages : Nat := policy.maxSourceMessages.toNat

def compactionTokens : Nat := policy.maxCompactionTokens.toNat

def tokenRatio : Nat := policy.charsPerToken.toNat

/-- `_tokens`. -/
def tokens (characters : Nat) : Nat := (characters + policy.tokenRatio - 1) / policy.tokenRatio

end ContextPolicy

/-! ## Messages -/

inductive MessageRole where
  | user
  | assistant
  deriving DecidableEq, Repr

def MessageRole.text : MessageRole → String
  | .user => "user"
  | .assistant => "assistant"

def MessageRole.parse? (text : String) : Option MessageRole :=
  if text = "user" then some .user else if text = "assistant" then some .assistant else none

/-- What `_value` reads of a history item; a missing status is read as `completed`. -/
structure HistoryItem where
  id : Option Int
  role : Option String
  content : Option String
  status : Option String
  deriving DecidableEq, Repr

/-- `_content`: the stripped text, if anything is left of it. -/
def normalizedContent (value : Option String) : Option String :=
  value.bind fun text => if strip text = "" then none else some (strip text)

/-- The entries of `eligible`. -/
structure EligibleMessage where
  item : HistoryItem
  role : MessageRole
  content : String
  tokens : Nat
  deriving DecidableEq, Repr

structure ContextMessage where
  role : MessageRole
  content : String
  deriving DecidableEq, Repr

def EligibleMessage.message (entry : EligibleMessage) : ContextMessage := ⟨entry.role, entry.content⟩

/-! ## The compactor -/

structure CompactionArtifact where
  content : String
  sourceIds : List Int
  sourceDigest : String
  estimatedTokens : Nat
  deriving DecidableEq, Repr

def compactionPrefix : String := "<conversation_compaction untrusted=\"true\">\n"

def compactionSuffix : String := "\n</conversation_compaction>"

def truncationMarker : String := "\n[older context truncated]"

/-- `f"[{role}] {content}"`. -/
def canonicalLine (role : MessageRole) (content : String) : String := "[" ++ role.text ++ "] " ++ content

/-- An item that the compactor takes, with its line. -/
def compactionSource (item : HistoryItem) : Option (Option Int × String) := do
  let role ← item.role.bind MessageRole.parse?
  let content ← normalizedContent item.content
  return (item.id, canonicalLine role content)

/-- The payload if it fits, or else its beginning with the marker. -/
def fittedPayload (payload : String) (payloadCapacity : Nat) : Option String :=
  if payload.length ≤ payloadCapacity then some payload
  else if payloadCapacity ≤ truncationMarker.length then none
  else
    some (rstrip (String.ofList (payload.toList.take (payloadCapacity - truncationMarker.length))) ++
      truncationMarker)

section Builder

variable (sha256 : String → String)

/-- `DeterministicContextCompactor.compact`; a budget below zero is refused as zero is. -/
def compact (historyChronological : List HistoryItem) (tokenBudget charsPerToken : Nat) :
    Option CompactionArtifact :=
  if historyChronological.isEmpty ∨ tokenBudget = 0 ∨ charsPerToken = 0 then none
  else
    let sources := historyChronological.filterMap compactionSource
    if sources.isEmpty then none
    else
      let payload := join "\n" (sources.map (·.2))
      let digest := sha256 payload
      let header := compactionPrefix ++ "source_sha256=" ++ digest ++ "\n"
      -- natural subtraction stops at zero, where the source goes below and returns as well
      let payloadCapacity := tokenBudget * charsPerToken - header.length - compactionSuffix.length
      if payloadCapacity = 0 then none
      else
        (fittedPayload payload payloadCapacity).map fun kept =>
          let content := header ++ kept ++ compactionSuffix
          { content
            sourceIds := sources.filterMap (·.1)
            sourceDigest := digest
            estimatedTokens := (content.length + charsPerToken - 1) / charsPerToken }

/-! ## The builder -/

/-- The loop of `_select`. -/
def selectFrom (budget : Nat) : Nat → List EligibleMessage → List EligibleMessage × Nat
  | used, [] => ([], used)
  | used, entry :: rest =>
    -- the first message that does not fit ends the selection, shorter ones behind it are not tried
    if budget < used + entry.tokens then ([], used)
    else
      let later := selectFrom budget (used + entry.tokens) rest
      (entry :: later.1, later.2)

/-- `while selected and selected[0][1] == "assistant": used -= selected.pop(0)[3]`. -/
def trimLeading : List EligibleMessage → Nat → List EligibleMessage × Nat
  | [], used => ([], used)
  | entry :: rest, used =>
    if entry.role = .assistant then trimLeading rest (used - entry.tokens) else (entry :: rest, used)

/-- The history of a context: raw messages in chronological order, and the artifact. -/
structure HistorySelection where
  raw : List EligibleMessage
  used : Nat
  artifact : Option CompactionArtifact
  deriving DecidableEq, Repr

structure ConstructedContext where
  messages : List ContextMessage
  systemPrompt : Option String
  estimatedInputTokens : Nat
  historyTokens : Nat
  inputBudgetTokens : Nat
  selectedHistoryIds : List Int
  truncatedHistoryCount : Nat
  compactionSourceIds : List Int
  compactionDigest : Option String
  deriving DecidableEq, Repr

namespace ContextPolicy

variable (policy : ContextPolicy)

/-- What the loop over the source window makes of an item. -/
def entryOf (item : HistoryItem) : Option EligibleMessage :=
  if item.status = some "completed" then do
    let role ← item.role.bind MessageRole.parse?
    let content ← normalizedContent item.content
    return ⟨item, role, content, policy.tokens content.length⟩
  else none

/-- The loop over the source window. -/
def eligible (historyNewestFirst : List HistoryItem) : List EligibleMessage :=
  (historyNewestFirst.take policy.sourceMessages).filterMap policy.entryOf

def select (eligible : List EligibleMessage) (budget : Nat) : List EligibleMessage × Nat :=
  selectFrom budget 0 (eligible.take policy.historyMessages)

/-- The untrimmed selection with the artifact, and without one if nothing is omitted or it
does not fit. -/
def chooseHistory (eligible : List EligibleMessage) (historyBudget : Nat) :
    (List EligibleMessage × Nat) × Option CompactionArtifact :=
  let fallback := policy.select eligible historyBudget
  if (eligible.drop fallback.1.length).isEmpty ∨ policy.compactionTokens = 0 then (fallback, none)
  else
    let selected := policy.select eligible (historyBudget - policy.compactionTokens)
    match compact sha256 ((eligible.drop selected.1.length).reverse.map EligibleMessage.item)
      (min policy.compactionTokens (historyBudget - selected.2)) policy.tokenRatio with
    | none => (fallback, none)
    | some artifact => (selected, some artifact)

def selectHistory (eligible : List EligibleMessage) (historyBudget : Nat) : HistorySelection :=
  let chosen := policy.chooseHistory sha256 eligible historyBudget
  let trimmed := trimLeading chosen.1.1.reverse chosen.1.2
  ⟨trimmed.1, trimmed.2, chosen.2⟩

/-- The tokens of the prompt and of the system prompt. -/
def mandatoryTokens (prompt : String) (system : Option String) : Nat :=
  policy.tokens prompt.length + policy.tokens (system.getD "").length

def historyBudget (prompt : String) (system : Option String) : Nat :=
  min policy.historyTokens (policy.inputBudget - policy.mandatoryTokens prompt system)

/-- `ConversationContextBuilder.build`; the error is the text of the
`ContextBudgetExceeded`. -/
def build (historyNewestFirst : List HistoryItem) (currentPrompt : String) (systemPrompt : Option String) :
    Except String ConstructedContext := do
  let prompt ← required "current prompt cannot be empty" (normalizedContent (some currentPrompt))
  let system := normalizedContent systemPrompt
  ensure (policy.mandatoryTokens prompt system ≤ policy.inputBudget)
    "mandatory context exceeds the model input window"
  let eligible := policy.eligible historyNewestFirst
  let history := policy.selectHistory sha256 eligible (policy.historyBudget prompt system)
  let compactionTokens := (history.artifact.map CompactionArtifact.estimatedTokens).getD 0
  return {
    messages := (history.artifact.toList.map fun artifact => ⟨.user, artifact.content⟩) ++
      history.raw.map EligibleMessage.message ++ [⟨.user, prompt⟩]
    systemPrompt := system
    estimatedInputTokens := policy.mandatoryTokens prompt system + history.used + compactionTokens
    historyTokens := history.used + compactionTokens
    inputBudgetTokens := policy.inputBudget
    selectedHistoryIds := history.raw.filterMap fun entry => entry.item.id
    truncatedHistoryCount := eligible.length - history.raw.length
    compactionSourceIds := (history.artifact.map CompactionArtifact.sourceIds).getD []
    compactionDigest := history.artifact.map CompactionArtifact.sourceDigest }

end ContextPolicy

end Builder

end Eiraos.Context
