import Eiraos.Documents.RagService
import Eiraos.Foundations.Ranking
import Mathlib.Data.Finset.Card

/-! # What the fusion keeps of the two rankings

The score of a fused row is the sum of what its places in the two lists are worth, so a row
that no list ranks worse than another one is returned before it.
-/

namespace Eiraos.Documents

open Ranking

/-- `1.0 / (rrf_k + rank + 1)`. -/
def reciprocal (rank : Nat) : ℚ := 1 / (60 + rank + 1)

theorem reciprocal_pos (rank : Nat) : 0 < reciprocal rank := by
  unfold reciprocal
  positivity

theorem reciprocal_strictAnti : StrictAnti reciprocal := by
  intro first second earlier
  apply one_div_lt_one_div_of_lt
  · positivity
  · have : (first : ℚ) < second := by exact_mod_cast earlier
    linarith

/-- The place of an id in a list of rows. -/
def rankOf (rows : List DocumentChunk) (id : Nat) : Option Nat :=
  rows.findIdx? fun row => row.id = id

/-- `scores[id]` for exact scores. -/
def scoreOf (results : List SearchResult) (id : Nat) : Option ℚ :=
  (results.find? fun result => result.chunk.id = id).map SearchResult.score

def ids (results : List SearchResult) : List Nat := results.map (·.chunk.id)

/-! ## The dictionaries -/

theorem rankOf_eq_none {rows : List DocumentChunk} {id : Nat} :
    rankOf rows id = none ↔ id ∉ rows.map DocumentChunk.id := by
  simp [rankOf, List.findIdx?_eq_none_iff]

theorem scoreOf_addRow (rank : Nat) (row : DocumentChunk) (results : List SearchResult) (id : Nat) :
    scoreOf (addRow rank row results) id =
      if row.id = id then some ((scoreOf results id).getD 0 + reciprocal rank) else scoreOf results id := by
  unfold addRow
  split
  next present =>
    have sameIds : (fun result : SearchResult => decide ((if result.chunk.id = row.id then
          ⟨row, result.score + 1 / (60 + rank + 1)⟩ else result : SearchResult).chunk.id = id)) =
        fun result => decide (result.chunk.id = id) := by
      funext result
      split
      next same => rw [same]
      next => rfl
    unfold scoreOf
    rw [List.find?_map, Function.comp_def, sameIds, Option.map_map]
    cases found : results.find? fun result => result.chunk.id = id with
    | none =>
      have absent := List.find?_eq_none.mp found
      rw [if_neg]
      · rfl
      · rintro rfl
        obtain ⟨result, mem, same⟩ := List.any_eq_true.mp present
        exact absent result mem same
    | some result =>
      have own : result.chunk.id = id := by simpa using List.find?_some found
      by_cases same : row.id = id
      · simp [own, same, reciprocal]
      · simp [own, same, Ne.symm same]
  next absent =>
    unfold scoreOf
    rw [List.find?_append]
    by_cases same : row.id = id
    · have none : (results.find? fun result => result.chunk.id = id) = none := by
        subst same
        simpa [List.find?_eq_none] using absent
      simp [none, same, reciprocal]
    · simp [same]

theorem ids_addRow (rank : Nat) (row : DocumentChunk) (results : List SearchResult) :
    ids (addRow rank row results) =
      if row.id ∈ ids results then ids results else ids results ++ [row.id] := by
  have present : (results.any fun result => decide (result.chunk.id = row.id)) = true ↔
      row.id ∈ ids results := by simp [ids]
  unfold addRow
  by_cases mem : row.id ∈ ids results
  · rw [if_pos (present.mpr mem), if_pos mem, ids, List.map_map]
    apply List.map_congr_left
    intro result _
    simp only [Function.comp]
    split
    next same => exact same.symm
    next => rfl
  · rw [if_neg (mt present.mp mem), if_neg mem]
    simp [ids]

/-- Distinct rows add what their places are worth. -/
theorem scoreOf_addRows {rows : List DocumentChunk} (distinct : (rows.map DocumentChunk.id).Nodup)
    (rank : Nat) (results : List SearchResult) (id : Nat) :
    scoreOf (addRows rank rows results) id =
      match rankOf rows id with
      | none => scoreOf results id
      | some place => some ((scoreOf results id).getD 0 + reciprocal (rank + place)) := by
  induction rows generalizing rank results with
  | nil => rfl
  | cons row rows inductionHypothesis =>
    rw [List.map_cons, List.nodup_cons] at distinct
    rw [addRows, inductionHypothesis distinct.2, scoreOf_addRow]
    by_cases same : row.id = id
    · -- the id does not come again behind this row
      have last : rankOf rows id = none := rankOf_eq_none.mpr (same ▸ distinct.1)
      have first : rankOf (row :: rows) id = some 0 := by simp [rankOf, List.findIdx?_cons, same]
      simp [last, first, same]
    · have later : rankOf (row :: rows) id = (rankOf rows id).map (· + 1) := by
        simp [rankOf, List.findIdx?_cons, same]
      rw [later]
      cases rankOf rows id with
      | none => simp [same]
      | some place => simp [same, Nat.add_assoc, Nat.add_comm 1 place]

/-- The keys of the dictionaries are the ids of both lists, each once. -/
theorem ids_addRows (rank : Nat) (rows : List DocumentChunk) {results : List SearchResult}
    (distinct : (ids results).Nodup) :
    (ids (addRows rank rows results)).Nodup ∧
      ∀ id, id ∈ ids (addRows rank rows results) ↔ id ∈ ids results ∨ id ∈ rows.map DocumentChunk.id := by
  induction rows generalizing rank results with
  | nil => simpa [addRows] using distinct
  | cons row rows inductionHypothesis =>
    have kept := ids_addRow rank row results
    have once : (ids (addRow rank row results)).Nodup := by
      rw [kept]
      split
      next => exact distinct
      next fresh => exact List.Nodup.append distinct (List.nodup_singleton _) (by simpa using fresh)
    obtain ⟨nodup, members⟩ := inductionHypothesis (rank + 1) once
    refine ⟨nodup, fun id => ?_⟩
    rw [addRows, members, kept, List.map_cons, List.mem_cons]
    split
    next present => grind
    next => grind

/-! ## The fused list -/

/-- What the places of an id in the two lists are worth together. -/
def fusedScore (vectorRows ftsRows : List DocumentChunk) (id : Nat) : ℚ :=
  worth reciprocal (rankOf vectorRows id) + worth reciprocal (rankOf ftsRows id)

/-- What the search returns of two lists. -/
structure FaithfulFusion (limit : Nat) (vectorRows ftsRows : List DocumentChunk)
    (results : List SearchResult) : Prop where
  length : results.length = min limit ((vectorRows ++ ftsRows).map DocumentChunk.id).toFinset.card
  distinct : (ids results).Nodup
  fromUnion : ∀ result ∈ results, result.chunk ∈ vectorRows ∨ result.chunk ∈ ftsRows
  scores : ∀ result ∈ results, result.score = fusedScore vectorRows ftsRows result.chunk.id
  falling : results.Pairwise fun earlier later => later.score ≤ earlier.score
  dominance : ∀ better worse, better ≠ worse →
    AtLeastAsGood (rankOf vectorRows better) (rankOf vectorRows worse) →
    AtLeastAsGood (rankOf ftsRows better) (rankOf ftsRows worse) →
    ∀ index : Nat, (ids results)[index]? = some worse →
      ∃ earlier < index, (ids results)[earlier]? = some better

section fusion

variable {vectorRows ftsRows : List DocumentChunk}

/-- The dictionaries before they are sorted. -/
theorem fused_ids (vectorRows ftsRows : List DocumentChunk) :
    (ids (addRows 0 ftsRows (addRows 0 vectorRows []))).Nodup ∧
      ∀ id, id ∈ ids (addRows 0 ftsRows (addRows 0 vectorRows [])) ↔
        id ∈ (vectorRows ++ ftsRows).map DocumentChunk.id := by
  have nothing : (ids []).Nodup := List.nodup_nil
  obtain ⟨first, members⟩ := ids_addRows 0 vectorRows nothing
  obtain ⟨nodup, union⟩ := ids_addRows 0 ftsRows first
  refine ⟨nodup, fun id => ?_⟩
  rw [union, members, List.map_append, List.mem_append]
  simp [ids]

theorem fused_score (distinctVector : (vectorRows.map DocumentChunk.id).Nodup)
    (distinctFts : (ftsRows.map DocumentChunk.id).Nodup) {result : SearchResult}
    (mem : result ∈ addRows 0 ftsRows (addRows 0 vectorRows [])) :
    result.score = fusedScore vectorRows ftsRows result.chunk.id := by
  have unique : Rows.Unique (fun result : SearchResult => result.chunk.id)
      (addRows 0 ftsRows (addRows 0 vectorRows [])) := (fused_ids vectorRows ftsRows).1
  have stored : scoreOf (addRows 0 ftsRows (addRows 0 vectorRows [])) result.chunk.id = some result.score := by
    rw [scoreOf, unique.find?_eq_some mem]
    rfl
  rw [scoreOf_addRows distinctFts, scoreOf_addRows distinctVector] at stored
  unfold fusedScore
  have nothing : scoreOf [] result.chunk.id = none := rfl
  cases vector : rankOf vectorRows result.chunk.id <;> cases fts : rankOf ftsRows result.chunk.id <;>
    simp_all [worth]

/-- No worse in both lists and another row than one that is in them: worth more. -/
theorem fusedScore_lt {better worse : Nat} (different : better ≠ worse)
    (listed : worse ∈ (vectorRows ++ ftsRows).map DocumentChunk.id)
    (vector : AtLeastAsGood (rankOf vectorRows better) (rankOf vectorRows worse))
    (fts : AtLeastAsGood (rankOf ftsRows better) (rankOf ftsRows worse)) :
    fusedScore vectorRows ftsRows worse < fusedScore vectorRows ftsRows better := by
  have apart {rows : List DocumentChunk} (mem : worse ∈ rows.map DocumentChunk.id) :
      rankOf rows better ≠ rankOf rows worse := by
    intro same
    cases found : rankOf rows worse with
    | none => exact rankOf_eq_none.mp found mem
    | some place =>
      -- one place holds one row
      rw [found] at same
      obtain ⟨bound, first, -⟩ := List.findIdx?_eq_some_iff_getElem.mp same
      obtain ⟨_, second, -⟩ := List.findIdx?_eq_some_iff_getElem.mp found
      exact different ((of_decide_eq_true first).symm.trans (of_decide_eq_true second))
  rw [List.map_append, List.mem_append] at listed
  unfold fusedScore
  -- the gain is strict in the list that has the worse row
  cases listed with
  | inl mem =>
    exact add_lt_add_of_lt_of_le (worth_lt reciprocal_pos reciprocal_strictAnti vector (apart mem))
      (worth_le reciprocal_pos reciprocal_strictAnti fts)
  | inr mem =>
    exact add_lt_add_of_le_of_lt (worth_le reciprocal_pos reciprocal_strictAnti vector)
      (worth_lt reciprocal_pos reciprocal_strictAnti fts (apart mem))

theorem sorted_results (results : List SearchResult) :
    (results.insertionSort fun left right => right.score ≤ left.score).Pairwise
      fun earlier later => later.score ≤ earlier.score := by
  have : Std.Total fun left right : SearchResult => right.score ≤ left.score :=
    ⟨fun left right => le_total right.score left.score⟩
  have : IsTrans SearchResult fun left right => right.score ≤ left.score :=
    ⟨fun _ _ _ first second => second.trans first⟩
  exact List.pairwise_insertionSort _ results

theorem fuse_faithful (limit : Nat) (distinctVector : (vectorRows.map DocumentChunk.id).Nodup)
    (distinctFts : (ftsRows.map DocumentChunk.id).Nodup) :
    FaithfulFusion limit vectorRows ftsRows (fuse limit vectorRows ftsRows) := by
  obtain ⟨nodup, union⟩ := fused_ids vectorRows ftsRows
  have scored {result : SearchResult} (mem : result ∈ addRows 0 ftsRows (addRows 0 vectorRows [])) :=
    fused_score distinctVector distinctFts mem
  have from_ := fun result (mem : result ∈ fuse limit vectorRows ftsRows) => mem_fuse mem
  unfold fuse ranked at from_ ⊢
  generalize addRows 0 ftsRows (addRows 0 vectorRows []) = results at nodup union scored from_ ⊢
  have perm := List.perm_insertionSort (fun left right : SearchResult => right.score ≤ left.score) results
  have sorted := sorted_results results
  generalize (results.insertionSort fun left right => right.score ≤ left.score) = ordered at perm sorted from_ ⊢
  refine {
    length := ?_
    distinct := ?_
    fromUnion := from_
    scores := fun result mem => scored (perm.subset (List.mem_of_mem_take mem))
    falling := sorted.sublist (List.take_sublist _ _)
    dominance := ?_ }
  · have all : ((vectorRows ++ ftsRows).map DocumentChunk.id).toFinset = (ids results).toFinset := by
      ext id
      rw [List.mem_toFinset, List.mem_toFinset, union]
    rw [List.length_take, perm.length_eq, all, List.toFinset_card_of_nodup nodup, ids, List.length_map]
  · exact ((perm.map _).nodup_iff.mpr nodup).sublist ((List.take_sublist _ _).map _)
  · intro better worse different vector fts index returned
    rw [ids, List.getElem?_map, Option.map_eq_some_iff] at returned
    obtain ⟨result, kept, rfl⟩ := returned
    have mem := perm.subset (List.mem_of_mem_take (List.mem_of_getElem? kept))
    have listed : result.chunk.id ∈ (vectorRows ++ ftsRows).map DocumentChunk.id :=
      (union _).mp (List.mem_map_of_mem mem)
    have more := fusedScore_lt different listed vector fts
    -- what is worth more is in the union
    have present : better ∈ ids results := by
      rw [union]
      by_contra absent
      rw [List.map_append, List.mem_append, not_or] at absent
      have nothing : fusedScore vectorRows ftsRows better = 0 := by
        simp [fusedScore, rankOf_eq_none.mpr absent.1, rankOf_eq_none.mpr absent.2, worth]
      have nonneg : 0 ≤ fusedScore vectorRows ftsRows result.chunk.id :=
        add_nonneg (worth_nonneg reciprocal_pos _) (worth_nonneg reciprocal_pos _)
      exact absurd (nothing ▸ more) (not_lt.mpr nonneg)
    obtain ⟨other, there, rfl⟩ := List.mem_map.mp present
    rw [← scored mem, ← scored there] at more
    obtain ⟨earlier, before, found⟩ := exists_before sorted kept (perm.symm.subset there) more
    exact ⟨earlier, before, by rw [ids, List.getElem?_map, found]; rfl⟩

/-- What `hybrid_search` makes of its two lists, whatever they are, is faithful to both. -/
theorem rank_fusion_faithful (limit : Nat) (distinctVector : (vectorRows.map DocumentChunk.id).Nodup)
    (distinctFts : (ftsRows.map DocumentChunk.id).Nodup) :
    FaithfulFusion limit vectorRows ftsRows (fuse limit vectorRows ftsRows) :=
  fuse_faithful limit distinctVector distinctFts

end fusion

def tideChunk (id : Nat) : DocumentChunk := ⟨⟨1, 1, "Tide", none, none⟩, id⟩

theorem rank_fusion_faithful_tides :
    FaithfulFusion 2 [tideChunk 1, tideChunk 2] [tideChunk 3, tideChunk 1]
        (fuse 2 [tideChunk 1, tideChunk 2] [tideChunk 3, tideChunk 1]) ∧
      ids (fuse 2 [tideChunk 1, tideChunk 2] [tideChunk 3, tideChunk 1]) = [1, 3] :=
  ⟨rank_fusion_faithful 2 (by decide) (by decide), by decide +kernel⟩

/-! ## The fusion of a search -/

namespace SearchQuery

variable {query : SearchQuery} {fetched : Nat} {rows : List DocumentChunk}

theorem nodup_vectorRows (distinct : (rows.map DocumentChunk.id).Nodup) :
    ((query.vectorRows fetched rows).map DocumentChunk.id).Nodup := by
  have ordered := ((query.byDistance_perm rows).map DocumentChunk.id).nodup_iff.mpr distinct
  exact ordered.sublist ((List.take_sublist _ _).map _)

theorem nodup_ftsRows (distinct : (rows.map DocumentChunk.id).Nodup) :
    ((query.ftsRows fetched rows).map DocumentChunk.id).Nodup := by
  unfold ftsRows
  split
  · exact List.nodup_nil
  · cases ranked : query.byRank rows with
    | none => simp
    | some matching =>
      obtain ⟨ordered, perm, sublist⟩ := query.byRank_subperm rows matching ranked
      have listed := distinct.sublist (sublist.map DocumentChunk.id)
      exact ((perm.map _).nodup_iff.mp listed).sublist ((List.take_sublist _ _).map _)

end SearchQuery

/-- Whatever a search returns is faithful to the two lists that the database gave it. -/
theorem hybridSearch_faithful {table : PythonText.CaseTable} {tables : Tables} {organizationId limit : Nat}
    {query : SearchQuery} {knowledgeScope : String} {callerUserId : Option Nat} {results : List SearchResult}
    (distinct : (tables.chunks.map DocumentChunk.id).Nodup)
    (found : hybridSearch table tables organizationId query limit knowledgeScope callerUserId = .ok results) :
    ∃ rows, candidates tables (scopeClause table (effectiveScope table knowledgeScope))
        (effectiveScope table knowledgeScope = "private")
        ⟨organizationId, effectiveScope table knowledgeScope, callerUserId⟩ = .ok rows ∧
      FaithfulFusion limit (query.vectorRows (max (limit * 4) 20) rows)
        (query.ftsRows (max (limit * 4) 20) rows) results := by
  obtain ⟨-, -, rows, selected, rfl⟩ := hybridSearch_eq_ok.mp found
  have rowsDistinct : (rows.map DocumentChunk.id).Nodup := by
    obtain ⟨-, -, -, rfl⟩ := candidates_eq_ok.mp selected
    exact distinct.sublist ((List.filter_sublist.trans List.filter_sublist).map _)
  exact ⟨rows, selected, fuse_faithful limit (SearchQuery.nodup_vectorRows rowsDistinct)
    (SearchQuery.nodup_ftsRows rowsDistinct)⟩

end Eiraos.Documents
