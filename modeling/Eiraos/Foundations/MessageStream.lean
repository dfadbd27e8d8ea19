import Mathlib.Data.List.Basic

/-! # Bodies in messages

A body comes in messages, the last of which says that nothing more follows.  A receiver gives one
message after the other; what it delivers is the concatenation up to the last one.
-/

namespace MessageStream

structure Message (β : Type) where
  body : List β
  moreBody : Bool
  deriving DecidableEq, Repr

variable {σ β : Type}

/-- Receiving until a message says that it is the last one. -/
inductive Delivers (receive : σ → Option (Message β × σ)) : σ → List β → Prop where
  | last {state next : σ} {body : List β} (received : receive state = some (⟨body, false⟩, next)) :
      Delivers receive state body
  | more {state next : σ} {body rest : List β} (received : receive state = some (⟨body, true⟩, next))
      (later : Delivers receive next rest) : Delivers receive state (body ++ rest)

/-- A receiver delivers one body. -/
theorem Delivers.unique {receive : σ → Option (Message β × σ)} {state : σ} {body other : List β}
    (delivers : Delivers receive state body) (delivers' : Delivers receive state other) : body = other := by
  induction delivers generalizing other with
  | last received =>
    cases delivers' with
    | last received' =>
      rw [received] at received'
      cases received'
      rfl
    | more received' =>
      rw [received] at received'
      cases received'
  | more received later inductionHypothesis =>
    cases delivers' with
    | last received' =>
      rw [received] at received'
      cases received'
    | more received' later' =>
      rw [received] at received'
      cases received'
      rw [inductionHypothesis later']

/-- A receiver that does what another does delivers the same. -/
theorem Delivers.simulate {τ : Type} {receive : σ → Option (Message β × σ)}
    {receive' : τ → Option (Message β × τ)} {state : σ} {body : List β} (embed : σ → τ)
    (simulates : ∀ state, receive' (embed state) =
      (receive state).map fun received => (received.1, embed received.2))
    (delivers : Delivers receive state body) : Delivers receive' (embed state) body := by
  induction delivers with
  | last received => exact .last (by rw [simulates, received]; rfl)
  | more received later inductionHypothesis => exact .more (by rw [simulates, received]; rfl) inductionHypothesis

/-! ## Senders -/

/-- The messages of a body that is sent in pieces. -/
def split (chunks : List (List β)) (last : List β) : List (Message β) :=
  chunks.map (⟨·, true⟩) ++ [⟨last, false⟩]

def fromList : List (Message β) → Option (Message β × List (Message β))
  | [] => none
  | message :: messages => some (message, messages)

theorem delivers_split (chunks : List (List β)) (last : List β) :
    Delivers fromList (split chunks last) (chunks.flatten ++ last) := by
  induction chunks with
  | nil => exact .last rfl
  | cons chunk chunks inductionHypothesis =>
    rw [List.flatten_cons, List.append_assoc]
    exact .more rfl inductionHypothesis

/-- A body that is sent at once; afterwards there is nothing left of it. -/
def once : Option (List β) → Option (Message β × Option (List β))
  | some body => some (⟨body, false⟩, none)
  | none => some (⟨[], false⟩, none)

theorem delivers_once (body : List β) : Delivers once (some body) body := .last rfl

/-- A body that is read in pieces of one size until nothing is read. -/
def pieces (size : Nat) (rest : List β) : Option (Message β × List β) :=
  some (⟨rest.take size, !(rest.take size).isEmpty⟩, rest.drop size)

/-- The pieces make up the body, also where its length is a multiple of their size. -/
theorem delivers_pieces {size : Nat} (positive : 0 < size) (body : List β) :
    Delivers (pieces size) body body := by
  induction length : body.length using Nat.strongRecOn generalizing body with
  | ind length' inductionHypothesis =>
    cases body with
    | nil => exact .last (by simp [pieces]; rfl)
    | cons head tail =>
      -- what is left is shorter, as something is read
      have later := inductionHypothesis ((head :: tail).drop size).length
        (by simp at length ⊢; omega) ((head :: tail).drop size) rfl
      have received : pieces size (head :: tail) =
          some (⟨(head :: tail).take size, true⟩, (head :: tail).drop size) := by
        cases size with
        | zero => cases positive
        | succ size => rfl
      have whole := Delivers.more received later
      rwa [List.take_append_drop] at whole

/-! ## Streams -/

/-- What a server yields for the messages of a client: their bodies but for empty ones, and an empty
chunk at the end.  The second component tells whether the end came. -/
def stream : List (Message β) → List (List β) × Bool
  | [] => ([], false)
  | message :: messages =>
    let own := if message.body.isEmpty then [] else [message.body]
    if message.moreBody then (own ++ (stream messages).1, (stream messages).2)
    else (own ++ [[]], true)

theorem stream_split (chunks : List (List β)) (last : List β) :
    (stream (split chunks last)).2 = true ∧ (stream (split chunks last)).1.flatten = chunks.flatten ++ last := by
  induction chunks with
  | nil =>
    cases last with
    | nil => simp [split, stream]
    | cons => simp [split, stream]
  | cons chunk chunks inductionHypothesis =>
    obtain ⟨ended, bodies⟩ := inductionHypothesis
    have here : split (chunk :: chunks) last = ⟨chunk, true⟩ :: split chunks last := rfl
    rw [here, stream, if_pos rfl]
    refine ⟨ended, ?_⟩
    cases chunk with
    | nil => simpa using bodies
    | cons head tail => simp [bodies]

/-! ## Limits -/

/-- Collecting chunks as long as they stay within a limit. -/
def gather (limit : Nat) : List β → List (List β) → Option (List β)
  | collected, [] => some collected
  | collected, chunk :: chunks =>
    if limit < (collected ++ chunk).length then none
    else gather limit (collected ++ chunk) chunks

/-- The limit holds for the whole if it holds on the way. -/
theorem gather_eq {limit : Nat} {collected : List β} (within : collected.length ≤ limit)
    (chunks : List (List β)) :
    gather limit collected chunks =
      if (collected ++ chunks.flatten).length ≤ limit then some (collected ++ chunks.flatten) else none := by
  induction chunks generalizing collected with
  | nil =>
    rw [List.flatten_nil, List.append_nil, if_pos within]
    rfl
  | cons chunk chunks inductionHypothesis =>
    rw [gather, List.flatten_cons, ← List.append_assoc]
    split
    next beyond =>
      -- what comes later makes the body no shorter
      rw [if_neg]
      simp only [List.length_append] at beyond ⊢
      omega
    next under => exact inductionHypothesis (Nat.le_of_not_lt under)

end MessageStream
