import Eiraos.Documents.Chunking
import Eiraos.Foundations.Tiling

/-! # What the chunks cover

The chunks hold the paragraphs of a text in order, a group of short ones or the windows of a
long one at a time.  The windows leave nothing out; the last one may lie in its predecessor.
-/

namespace Eiraos.Documents

open PythonText

/-! ## Joined paragraphs -/

theorem join_eq_intercalate (separator : String) (parts : List String) :
    join separator parts = separator.intercalate parts := by
  rw [join, ← String.toList_intercalate, String.ofList_toList]

theorem join_concat {group : List String} (nonempty : group ≠ []) (paragraph : String) :
    join "\n" (group ++ [paragraph]) = join "\n" group ++ "\n" ++ paragraph := by
  simp only [join_eq_intercalate]
  rw [String.intercalate_append_of_ne_nil nonempty (List.cons_ne_nil _ _), String.intercalate_singleton]

theorem join_eq_empty_iff {group : List String} (visible : ∀ paragraph ∈ group, paragraph ≠ "") :
    join "\n" group = "" ↔ group = [] := by
  induction group using List.reverseRecOn with
  | nil => simp [join_eq_intercalate]
  | append_singleton group paragraph _ =>
    have last : paragraph ≠ "" := visible paragraph (by simp)
    cases group with
    | nil => simpa [join_eq_intercalate] using last
    | cons first group =>
      rw [join_concat (List.cons_ne_nil _ _)]
      simp [last]

/-! ## Covering -/

/-- The non-empty paragraphs of a text, without the white space around them. -/
def paragraphs (textContent : String) : List String :=
  ((splitParagraphs textContent).map strip).filter (· ≠ "")

/-- Offsets of windows that start further and further on and leave no character out. -/
structure CutsWhole (chunkSize length : Nat) (offsets : List Nat) : Prop where
  increasing : offsets.Pairwise (· < ·)
  inside : ∀ offset ∈ offsets, offset < length
  whole : ∀ position < length, ∃ offset ∈ offsets, Tiling.Contains chunkSize length offset position

/-- The chunks are those of the paragraphs, from the first to the last: a group of short
paragraphs makes one chunk, and a long one makes a chunk of each of its windows. -/
inductive Covers (chunkSize : Nat) : List String → List String → Prop where
  | nil : Covers chunkSize [] []
  | joined {group paragraphs chunks : List String} (nonempty : group ≠ [])
      (short : ∀ paragraph ∈ group, paragraph.length ≤ chunkSize)
      (fits : (join "\n" group).length ≤ chunkSize) (rest : Covers chunkSize paragraphs chunks) :
      Covers chunkSize (group ++ paragraphs) (join "\n" group :: chunks)
  | cut {paragraph : String} {offsets : List Nat} {paragraphs chunks : List String}
      (long : chunkSize < paragraph.length) (whole : CutsWhole chunkSize paragraph.length offsets)
      (rest : Covers chunkSize paragraphs chunks) :
      Covers chunkSize (paragraph :: paragraphs)
        (offsets.map (fun offset => slice paragraph offset chunkSize) ++ chunks)

namespace Covers

variable {chunkSize : Nat} {paragraphs later chunks more : List String}

theorem append (covers : Covers chunkSize paragraphs chunks) (others : Covers chunkSize later more) :
    Covers chunkSize (paragraphs ++ later) (chunks ++ more) := by
  induction covers with
  | nil => exact others
  | joined nonempty short fits _ inductionHypothesis =>
    rw [List.append_assoc, List.cons_append]
    exact .joined nonempty short fits inductionHypothesis
  | cut long whole _ inductionHypothesis =>
    rw [List.cons_append, List.append_assoc]
    exact .cut long whole inductionHypothesis

theorem length_slice (paragraph : String) (start size : Nat) :
    (slice paragraph start size).length = min size (paragraph.length - start) := by
  simp [slice, String.length]

/-- No chunk is empty, and none is longer than allowed. -/
theorem length_chunk (positive : 1 ≤ chunkSize) (covers : Covers chunkSize paragraphs chunks)
    (visible : ∀ paragraph ∈ paragraphs, paragraph ≠ "") :
    ∀ chunk ∈ chunks, 1 ≤ chunk.length ∧ chunk.length ≤ chunkSize := by
  induction covers with
  | nil => simp
  | @joined group paragraphs chunks nonempty short fits _ inductionHypothesis =>
    rw [List.forall_mem_append] at visible
    rw [List.forall_mem_cons]
    refine ⟨⟨?_, fits⟩, inductionHypothesis visible.2⟩
    -- joined paragraphs are visible as soon as one of them is
    have some : join "\n" group ≠ "" := mt (join_eq_empty_iff visible.1).mp nonempty
    rw [Nat.one_le_iff_ne_zero]
    simpa using some
  | cut long whole _ inductionHypothesis =>
    rw [List.forall_mem_cons] at visible
    rw [List.forall_mem_append, List.forall_mem_map]
    refine ⟨fun offset mem => ?_, inductionHypothesis visible.2⟩
    have := whole.inside offset mem
    rw [length_slice]
    omega

end Covers

/-! ## The loop -/

/-- A collected group is pending, and the chunks cover the paragraphs before it. -/
structure Collected (chunkSize : Nat) (seen : List String) (state : Chunking) : Prop where
  pending : ∃ settled group, seen = settled ++ group ∧ Covers chunkSize settled state.chunks ∧
    state.currentChunk = join "\n" group ∧ ∀ paragraph ∈ group, paragraph ≠ "" ∧ paragraph.length ≤ chunkSize
  fits : state.currentChunk.length ≤ chunkSize

variable {chunkSize overlap : Nat} {seen : List String} {state : Chunking} {paragraph : String}

theorem Collected.flushed (collected : Collected chunkSize seen state) :
    Covers chunkSize seen state.flushed := by
  obtain ⟨⟨settled, group, rfl, covers, joined, small⟩, fits⟩ := collected
  have empty := join_eq_empty_iff fun paragraph mem => (small paragraph mem).1
  rw [← joined] at empty
  unfold Chunking.flushed
  split
  next none =>
    rw [empty.mp none, List.append_nil]
    exact covers
  next some =>
    rw [joined] at fits ⊢
    have last := Covers.joined (mt empty.mpr some) (fun paragraph mem => (small paragraph mem).2) fits .nil
    rw [List.append_nil] at last
    exact covers.append last

/-- The windows start further and further on and reach the end. -/
theorem cutsWhole_windows (positive : 1 ≤ chunkSize) (length : Nat) :
    CutsWhole chunkSize length (rangeStep length (max (chunkSize - overlap) 1)) where
  increasing := Tiling.multiples_increasing (by omega)
  inside offset mem := by
    obtain ⟨_, _, bound⟩ := (Tiling.mem_multiples (by omega)).mp mem
    exact bound
  -- the step is never longer than a window
  whole _ inside := Tiling.exists_contains (by omega) (by omega) inside

theorem covers_windows (positive : 1 ≤ chunkSize) (long : chunkSize < paragraph.length) :
    Covers chunkSize [paragraph] (windows chunkSize overlap paragraph) := by
  have whole : CutsWhole chunkSize paragraph.length (rangeStep paragraph.length (max (chunkSize - overlap) 1)) :=
    cutsWhole_windows positive paragraph.length
  have cut := Covers.cut long whole .nil
  rwa [List.append_nil] at cut

theorem Collected.add (positive : 1 ≤ chunkSize) (collected : Collected chunkSize seen state)
    (paragraph : String) :
    Collected chunkSize (seen ++ [strip paragraph].filter (· ≠ "")) (state.add chunkSize overlap paragraph) := by
  unfold Chunking.add
  dsimp only
  generalize strip paragraph = paragraph
  split
  next blank => simpa [blank] using collected
  next visible =>
    have kept : [paragraph].filter (· ≠ "") = [paragraph] := by simp [visible]
    rw [kept]
    split
    next room =>
      -- the paragraph joins the group
      obtain ⟨⟨settled, group, rfl, covers, joined, small⟩, fits⟩ := collected
      have empty := join_eq_empty_iff fun paragraph mem => (small paragraph mem).1
      rw [← joined] at empty
      refine ⟨⟨settled, group ++ [paragraph], by simp, covers, ?_, ?_⟩, ?_⟩
      · dsimp only
        split
        next none => simp [empty.mp none, join_eq_intercalate]
        next some => rw [join_concat (mt empty.mpr some), joined]
      · rw [List.forall_mem_append]
        exact ⟨small, by simpa using ⟨visible, by omega⟩⟩
      · dsimp only
        split
        next => omega
        next =>
          simp only [String.length_append]
          have : "\n".length = 1 := rfl
          omega
    next full =>
      split
      next long =>
        -- the group is flushed and the paragraph cut; nothing is pending
        refine ⟨⟨seen ++ [paragraph], [], by simp, ?_, by simp [join_eq_intercalate], by simp⟩, by simp⟩
        exact collected.flushed.append (covers_windows positive long)
      next short =>
        -- the group is flushed and the paragraph begins a new one
        refine ⟨⟨seen, [paragraph], rfl, collected.flushed, by simp [join_eq_intercalate], ?_⟩, by
          dsimp only; omega⟩
        simpa using ⟨visible, by omega⟩

theorem Collected.fold (positive : 1 ≤ chunkSize) (collected : Collected chunkSize seen state)
    (raw : List String) :
    Collected chunkSize (seen ++ (raw.map strip).filter (· ≠ ""))
      (raw.foldl (Chunking.add chunkSize overlap) state) := by
  induction raw generalizing seen state with
  | nil => simpa using collected
  | cons paragraph raw inductionHypothesis =>
    have step : Collected chunkSize (seen ++ [strip paragraph].filter (· ≠ ""))
        (state.add chunkSize overlap paragraph) := collected.add positive paragraph
    have next := inductionHypothesis step
    rw [List.append_assoc, ← List.filter_append] at next
    exact next

theorem covers_intelligentChunking (positive : 1 ≤ chunkSize) (textContent : String) :
    Covers chunkSize (paragraphs textContent) (intelligentChunking textContent chunkSize overlap) := by
  have start : Collected chunkSize [] {} :=
    ⟨⟨[], [], rfl, .nil, by simp [join_eq_intercalate], by simp⟩, by simp⟩
  have collected : Collected chunkSize ([] ++ ((splitParagraphs textContent).map strip).filter (· ≠ ""))
      ((splitParagraphs textContent).foldl (Chunking.add chunkSize overlap) {}) :=
    start.fold positive (splitParagraphs textContent)
  rw [List.nil_append] at collected
  exact collected.flushed

/-- The chunks cover the paragraphs of the text completely and in order, each within the size. -/
theorem chunking_covers (textContent : String) (chunkSize overlap : Nat) (positive : 1 ≤ chunkSize) :
    (∀ chunk ∈ intelligentChunking textContent chunkSize overlap,
        1 ≤ chunk.length ∧ chunk.length ≤ chunkSize) ∧
      Covers chunkSize (paragraphs textContent) (intelligentChunking textContent chunkSize overlap) := by
  have covers : Covers chunkSize (paragraphs textContent) (intelligentChunking textContent chunkSize overlap) :=
    covers_intelligentChunking positive textContent
  refine ⟨covers.length_chunk positive fun paragraph mem => ?_, covers⟩
  simpa using List.of_mem_filter mem

theorem chunking_covers_tide :
    intelligentChunking "the tide\n\nebb" 6 2 = ["the ti", "tide", "ebb"] ∧
      Covers 6 (paragraphs "the tide\n\nebb") (intelligentChunking "the tide\n\nebb" 6 2) :=
  ⟨by decide +kernel, (chunking_covers "the tide\n\nebb" 6 2 (by decide)).2⟩

/-! ## Windows that add nothing -/

theorem chunks_prefix_flushed (state : Chunking) : state.chunks <+: state.flushed := by
  unfold Chunking.flushed
  split
  · exact List.prefix_rfl
  · exact List.prefix_append _ _

theorem chunks_prefix_add (state : Chunking) (paragraph : String) :
    state.chunks <+: (state.add chunkSize overlap paragraph).chunks := by
  unfold Chunking.add
  dsimp only
  split
  · exact List.prefix_rfl
  split
  · exact List.prefix_rfl
  split
  · exact (chunks_prefix_flushed state).trans (List.prefix_append _ _)
  · exact chunks_prefix_flushed state

theorem chunks_prefix_fold (state : Chunking) (raw : List String) :
    state.chunks <+: (raw.foldl (Chunking.add chunkSize overlap) state).flushed := by
  induction raw generalizing state with
  | nil => exact chunks_prefix_flushed state
  | cons paragraph raw inductionHypothesis =>
    exact (chunks_prefix_add state paragraph).trans (inductionHypothesis _)

/-- The windows of a long paragraph stand next to each other among the chunks. -/
theorem windows_infix_fold {raw : List String} (state : Chunking) (mem : paragraph ∈ raw)
    (long : chunkSize < (strip paragraph).length) :
    windows chunkSize overlap (strip paragraph) <:+:
      (raw.foldl (Chunking.add chunkSize overlap) state).flushed := by
  induction raw generalizing state with
  | nil => cases mem
  | cons first raw inductionHypothesis =>
    cases List.mem_cons.mp mem with
    | inl here =>
      subst here
      have cut : (state.add chunkSize overlap paragraph).chunks =
          state.flushed ++ windows chunkSize overlap (strip paragraph) := by
        have visible : strip paragraph ≠ "" := by
          intro blank
          simp [blank] at long
        unfold Chunking.add
        dsimp only
        rw [if_neg visible, if_neg (by omega), if_pos long]
      have kept : (state.add chunkSize overlap paragraph).chunks <+:
          (raw.foldl (Chunking.add chunkSize overlap) (state.add chunkSize overlap paragraph)).flushed :=
        chunks_prefix_fold _ raw
      rw [cut] at kept
      exact (List.suffix_append _ _).isInfix.trans kept.isInfix
    | inr later => exact inductionHypothesis _ later

/-- Each window of a paragraph after the first has a character position that no earlier one has. -/
def EachWindowNew (chunkSize overlap : Nat) (paragraph : String) : Prop :=
  ∀ index, 1 ≤ index → index < (windows chunkSize overlap paragraph).length →
    Tiling.HasOwn chunkSize paragraph.length (rangeStep paragraph.length (max (chunkSize - overlap) 1)) index

theorem eachWindowNew_iff (smaller : overlap < chunkSize) (long : chunkSize < paragraph.length) :
    EachWindowNew chunkSize overlap paragraph ↔
      overlap ≤ (paragraph.length - 1) % (chunkSize - overlap) := by
  have step : max (chunkSize - overlap) 1 = chunkSize - overlap := by omega
  have counted : (windows chunkSize overlap paragraph).length =
      (Tiling.multiples paragraph.length (chunkSize - overlap)).length := by
    rw [windows, step, List.length_map]
    rfl
  have positive : 0 < chunkSize - overlap := by omega
  have all := Tiling.forall_hasOwn_iff positive (by omega) long
  unfold EachWindowNew
  rw [counted, step]
  exact all.trans (by rw [Nat.sub_sub_self smaller.le])

/-- The chunks of a long paragraph are its windows, and each window after the first is new
exactly when the characters behind the last multiple of the step outnumber the overlap. -/
theorem windows_new_iff (textContent : String) (chunkSize overlap : Nat) (smaller : overlap < chunkSize)
    (paragraph : String) (mem : paragraph ∈ paragraphs textContent) (long : chunkSize < paragraph.length) :
    windows chunkSize overlap paragraph <:+: intelligentChunking textContent chunkSize overlap ∧
      (EachWindowNew chunkSize overlap paragraph ↔
        overlap ≤ (paragraph.length - 1) % (chunkSize - overlap)) := by
  refine ⟨?_, eachWindowNew_iff smaller long⟩
  obtain ⟨raw, there, rfl⟩ := List.mem_map.mp (List.mem_of_mem_filter mem)
  exact windows_infix_fold {} there long

theorem windows_new_iff_tide :
    intelligentChunking "the tide" 6 2 = ["the ti", "tide"] ∧ EachWindowNew 6 2 "the tide" :=
  ⟨by decide +kernel, (windows_new_iff "the tide" 6 2 (by decide) "the tide" (by decide +kernel)
    (by decide)).2.mpr (by decide)⟩

/-- The last window of `"the tides"` is the end of the window before it. -/
theorem last_window_repeats :
    ¬∀ (textContent : String) (chunkSize overlap : Nat), overlap < chunkSize →
      ∀ paragraph ∈ paragraphs textContent, chunkSize < paragraph.length →
        EachWindowNew chunkSize overlap paragraph := by
  intro all
  have new := all "the tides" 6 2 (by decide) "the tides" (by decide +kernel) (by decide)
  rw [eachWindowNew_iff (by decide) (by decide)] at new
  revert new
  decide

end Eiraos.Documents
