import Eiraos.Foundations.PythonText

/-! # Intelligent chunking

`RAGService.intelligent_chunking`: the text falls into paragraphs at blank lines, short
paragraphs are collected up to the chunk size and a long one is cut into windows.
-/

namespace Eiraos.Documents

open PythonText

/-! ## Paragraphs -/

/-- How many of the characters after a newline the pattern `\n\s*\n` matches: its `\s*` is
greedy, so the match ends at the last newline of the white space. -/
def separatorLength (after : List Char) : Option Nat :=
  let space := after.takeWhile isSpace
  if '\n' ∈ space then some (space.rdropWhile (· ≠ '\n')).length else none

/-- `re.split` at the pattern; `skipped` characters still belong to the separator. -/
def splitParagraphsFrom (paragraph : List Char) (skipped : Nat) : List Char → List (List Char)
  | [] => [paragraph]
  | character :: after =>
    match skipped with
    | skipped + 1 => splitParagraphsFrom paragraph skipped after
    | 0 =>
      if character = '\n' then
        match separatorLength after with
        | some length => paragraph :: splitParagraphsFrom [] length after
        | none => splitParagraphsFrom (paragraph ++ [character]) 0 after
      else splitParagraphsFrom (paragraph ++ [character]) 0 after

/-- `re.split(r"\n\s*\n", text_content)`. -/
def splitParagraphs (textContent : String) : List String :=
  (splitParagraphsFrom [] 0 textContent.toList).map String.ofList

/-! ## Chunks -/

/-- `range(0, length, step)`. -/
def rangeStep (length step : Nat) : List Nat :=
  (List.range ((length + step - 1) / step)).map (· * step)

/-- `text[start : start + size]`. -/
def slice (text : String) (start size : Nat) : String :=
  String.ofList ((text.toList.drop start).take size)

/-- The windows of a paragraph that is longer than a chunk. -/
def windows (chunkSize overlap : Nat) (paragraph : String) : List String :=
  (rangeStep paragraph.length (max (chunkSize - overlap) 1)).map fun start =>
    slice paragraph start chunkSize

/-- The two accumulators of the loop. -/
structure Chunking where
  chunks : List String := []
  currentChunk : String := ""

namespace Chunking

/-- `if current_chunk: chunks.append(current_chunk)`. -/
def flushed (state : Chunking) : List String :=
  if state.currentChunk = "" then state.chunks else state.chunks ++ [state.currentChunk]

/-- The body of the loop. -/
def add (chunkSize overlap : Nat) (state : Chunking) (paragraph : String) : Chunking :=
  let paragraph := strip paragraph
  if paragraph = "" then state
  else if state.currentChunk.length + paragraph.length + 1 ≤ chunkSize then
    { state with
      currentChunk :=
        if state.currentChunk = "" then paragraph else state.currentChunk ++ "\n" ++ paragraph }
  else if chunkSize < paragraph.length then
    { chunks := state.flushed ++ windows chunkSize overlap paragraph, currentChunk := "" }
  else { chunks := state.flushed, currentChunk := paragraph }

end Chunking

def intelligentChunking (textContent : String) (chunkSize : Nat := 500) (overlap : Nat := 50) :
    List String :=
  ((splitParagraphs textContent).foldl (Chunking.add chunkSize overlap) {}).flushed

example : intelligentChunking "one\n \n\ntwo\nthree\n\nfourteen" 9 3 = ["one", "two\nthree", "fourteen"] := by
  decide +kernel

end Eiraos.Documents
