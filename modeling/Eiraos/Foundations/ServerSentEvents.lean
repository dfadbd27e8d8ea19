import Mathlib.Data.List.Basic

/-! # Frames of an event stream and the lines a client reads

A frame is one line and an empty one, `data: ` and a payload or a comment.  A client takes the text
apart at every character that ends a line, whichever these are, and skips the empty lines.
-/

namespace ServerSentEvents

inductive Frame where
  | data (payload : List Char)
  | comment (text : List Char)
  deriving DecidableEq, Repr

namespace Frame

def line : Frame → List Char
  | data payload => ['d', 'a', 't', 'a', ':', ' '] ++ payload
  | comment text => [':', ' '] ++ text

def text (frame : Frame) : List Char := frame.line ++ ['\n', '\n']

def payload? : Frame → Option (List Char)
  | data payload => some payload
  | comment _ => none

end Frame

/-- A line with characters in it; `breaks` are the ends of lines. -/
def readLines (breaks : Char → Bool) : List Char → List Char → List (List Char)
  | line, [] => if line = [] then [] else [line]
  | line, character :: text =>
    if breaks character then
      if line = [] then readLines breaks [] text else line :: readLines breaks [] text
    else readLines breaks (line ++ [character]) text

/-- The payload of a line, if it is one of data. -/
def data? : List Char → Option (List Char)
  | 'd' :: 'a' :: 't' :: 'a' :: ':' :: ' ' :: payload => some payload
  | _ => none

variable {breaks : Char → Bool}

theorem readLines_append {line piece text : List Char} (whole : ∀ character ∈ piece, breaks character = false) :
    readLines breaks line (piece ++ text) = readLines breaks (line ++ piece) text := by
  induction piece generalizing line with
  | nil => simp
  | cons character piece inductionHypothesis =>
    obtain ⟨first, others⟩ := List.forall_mem_cons.mp whole
    rw [List.cons_append, readLines, first, if_neg Bool.false_ne_true, inductionHypothesis others,
      List.append_assoc, List.singleton_append]

theorem Frame.line_ne_nil (frame : Frame) : frame.line ≠ [] := by
  cases frame <;> exact List.cons_ne_nil _ _

/-- Every frame is read as its line. -/
theorem readLines_frames (newline : breaks '\n' = true) {frames : List Frame}
    (whole : ∀ frame ∈ frames, ∀ character ∈ frame.line, breaks character = false) :
    readLines breaks [] (frames.flatMap Frame.text) = frames.map Frame.line := by
  induction frames with
  | nil => rfl
  | cons frame frames inductionHypothesis =>
    obtain ⟨first, others⟩ := List.forall_mem_cons.mp whole
    rw [List.flatMap_cons, Frame.text, List.append_assoc, readLines_append first, List.nil_append,
      List.cons_append, readLines, if_pos newline, if_neg frame.line_ne_nil, List.singleton_append, readLines,
      if_pos newline, if_pos rfl, inductionHypothesis others, List.map_cons]

theorem data?_line (frame : Frame) : data? frame.line = frame.payload? := by
  cases frame <;> rfl

/-- The payloads that a client reads are those that were sent, in order. -/
theorem payloads_frames (newline : breaks '\n' = true) {frames : List Frame}
    (whole : ∀ frame ∈ frames, ∀ character ∈ frame.line, breaks character = false) :
    (readLines breaks [] (frames.flatMap Frame.text)).filterMap data? = frames.filterMap Frame.payload? := by
  rw [readLines_frames newline whole, List.filterMap_map]
  exact List.filterMap_congr fun frame _ => data?_line frame

end ServerSentEvents
