import Eiraos.Documents.ChunkCover
import Eiraos.Documents.FileUploads

/-! # Ingestion of uploaded files

The text that `extract_text` lets through is visible and free of NUL.  Its chunks are too, so that the
worker always has something to store, and the database takes it.  Texts are free of lone surrogates, which a
PDF could bring, and embeddings are as long as their column wants them.
-/

namespace Eiraos.Documents

open PythonText Guarded Transition

/-! ## Characters of the chunks -/

theorem mem_dropWhile_of_visible {text : List Char} {character : Char} (mem : character ∈ text)
    (visible : isSpace character = false) : character ∈ text.dropWhile isSpace := by
  rw [← List.takeWhile_append_dropWhile (p := isSpace) (l := text), List.mem_append] at mem
  refine mem.resolve_left fun skipped => ?_
  rw [List.mem_takeWhile_imp skipped] at visible
  cases visible

theorem mem_strip_of_visible {text : String} {character : Char} (mem : character ∈ text.toList)
    (visible : isSpace character = false) : character ∈ (strip text).toList := by
  rw [strip, String.toList_ofList, List.rdropWhile, List.mem_reverse]
  exact mem_dropWhile_of_visible (List.mem_reverse.mpr (mem_dropWhile_of_visible mem visible)) visible

theorem mem_of_mem_strip {text : String} {character : Char} (mem : character ∈ (strip text).toList) :
    character ∈ text.toList := by
  rw [strip, String.toList_ofList] at mem
  exact (List.dropWhile_suffix _).subset ((List.rdropWhile_prefix _ _).subset mem)

/-- A separator is white space. -/
theorem isSpace_of_separatorLength {after : List Char} {length : Nat} (found : separatorLength after = some length) :
    ∀ character ∈ after.take length, isSpace character = true := by
  unfold separatorLength at found
  dsimp only at found
  split at found
  next =>
    cases found
    intro character mem
    have spaces : (after.takeWhile isSpace).rdropWhile (· ≠ '\n') <+: after :=
      (List.rdropWhile_prefix _ _).trans (List.takeWhile_prefix _)
    rw [← List.prefix_iff_eq_take.mp spaces] at mem
    exact List.mem_takeWhile_imp ((List.rdropWhile_prefix _ _).subset mem)
  next => cases found

/-- No visible character is lost between the paragraphs. -/
theorem mem_splitParagraphsFrom {character : Char} (visible : isSpace character = false) {paragraph text : List Char}
    {skipped : Nat} (spaces : ∀ other ∈ text.take skipped, isSpace other = true)
    (mem : character ∈ paragraph ∨ character ∈ text) :
    ∃ part ∈ splitParagraphsFrom paragraph skipped text, character ∈ part := by
  induction text generalizing paragraph skipped with
  | nil => exact ⟨paragraph, List.mem_singleton_self _, by simpa using mem⟩
  | cons head text inductionHypothesis =>
    cases skipped with
    | succ skipped =>
      rw [List.take_succ_cons, List.forall_mem_cons] at spaces
      refine inductionHypothesis spaces.2 (mem.imp_right fun either => ?_)
      -- what is skipped is white space
      refine (List.mem_cons.mp either).resolve_left fun same => ?_
      rw [same, spaces.1] at visible
      cases visible
    | zero =>
      have kept : character ∈ paragraph ++ [head] ∨ character ∈ text := by
        simpa [or_assoc] using mem
      have first : head = '\n' → character ∈ paragraph ∨ character ∈ text := by
        rintro rfl
        refine mem.imp_right fun either => (List.mem_cons.mp either).resolve_left fun same => ?_
        rw [same] at visible
        exact absurd visible (by decide)
      rw [splitParagraphsFrom]
      split
      next newline =>
        cases separator : separatorLength text with
        | none => exact inductionHypothesis (fun other absent => by simp at absent) kept
        | some length =>
          rcases first newline with here | later
          · exact ⟨paragraph, List.mem_cons_self, here⟩
          · obtain ⟨part, present, mem⟩ :=
              @inductionHypothesis [] length (isSpace_of_separatorLength separator) (.inr later)
            exact ⟨part, List.mem_cons_of_mem _ present, mem⟩
      next => exact inductionHypothesis (fun other absent => by simp at absent) kept

/-- The paragraphs hold nothing but the text. -/
theorem mem_of_mem_splitParagraphsFrom {character : Char} {paragraph text part : List Char} {skipped : Nat}
    (present : part ∈ splitParagraphsFrom paragraph skipped text) (mem : character ∈ part) :
    character ∈ paragraph ∨ character ∈ text := by
  induction text generalizing paragraph skipped with
  | nil =>
    rw [splitParagraphsFrom, List.mem_singleton] at present
    exact .inl (present ▸ mem)
  | cons head text inductionHypothesis =>
    have kept : character ∈ paragraph ++ [head] ∨ character ∈ text →
        character ∈ paragraph ∨ character ∈ head :: text := by
      simp [or_assoc]
    cases skipped with
    | succ skipped => exact (inductionHypothesis present).imp_right (List.mem_cons_of_mem _)
    | zero =>
      rw [splitParagraphsFrom] at present
      split at present
      next =>
        cases separator : separatorLength text with
        | none =>
          rw [separator] at present
          exact kept (inductionHypothesis present)
        | some length =>
          rw [separator] at present
          rcases List.mem_cons.mp present with same | later
          · exact .inl (same ▸ mem)
          · exact .inr (List.mem_cons_of_mem _ ((inductionHypothesis later).resolve_left List.not_mem_nil))
      next => exact kept (inductionHypothesis present)

theorem exists_visible {text : String} (visible : strip text ≠ "") :
    ∃ character ∈ text.toList, isSpace character = false := by
  by_contra none
  have spaces : ∀ character ∈ text.toList, isSpace character = true := by simpa using none
  rw [strip, List.dropWhile_eq_nil_iff.mpr spaces] at visible
  exact visible rfl

theorem paragraphs_ne_nil {text : String} (visible : strip text ≠ "") : paragraphs text ≠ [] := by
  obtain ⟨character, mem, seen⟩ := exists_visible visible
  obtain ⟨part, present, held⟩ :=
    @mem_splitParagraphsFrom character seen [] text.toList 0 (fun other absent => by simp at absent) (.inr mem)
  have stripped : character ∈ (strip (String.ofList part)).toList :=
    mem_strip_of_visible (by rw [String.toList_ofList]; exact held) seen
  refine List.ne_nil_of_mem (a := strip (String.ofList part)) (List.mem_filter.mpr ⟨?_, ?_⟩)
  · exact List.mem_map_of_mem (List.mem_map_of_mem present)
  · simp only [decide_eq_true_eq]
    intro empty
    rw [empty] at stripped
    simp at stripped

theorem mem_of_mem_paragraphs {text paragraph : String} (present : paragraph ∈ paragraphs text) {character : Char}
    (mem : character ∈ paragraph.toList) : character ∈ text.toList := by
  obtain ⟨whole, split, rfl⟩ := List.mem_map.mp (List.mem_of_mem_filter present)
  obtain ⟨part, parted, rfl⟩ := List.mem_map.mp split
  have held := mem_of_mem_strip mem
  rw [String.toList_ofList] at held
  exact (mem_of_mem_splitParagraphsFrom parted held).resolve_left List.not_mem_nil

theorem mem_intercalate {separator : List Char} {parts : List (List Char)} {character : Char}
    (mem : character ∈ separator.intercalate parts) :
    character ∈ separator ∨ ∃ part ∈ parts, character ∈ part := by
  induction parts with
  | nil => cases mem
  | cons part parts inductionHypothesis =>
    cases parts with
    | nil => exact .inr ⟨part, List.mem_cons_self, by simpa using mem⟩
    | cons next parts =>
      rw [List.intercalate_cons_cons, List.append_assoc, List.mem_append, List.mem_append] at mem
      rcases mem with here | between | later
      · exact .inr ⟨part, List.mem_cons_self, here⟩
      · exact .inl between
      · exact (inductionHypothesis later).imp_right fun ⟨other, among, held⟩ =>
          ⟨other, List.mem_cons_of_mem _ among, held⟩

namespace Covers

variable {chunkSize : Nat} {paragraphs chunks : List String}

/-- Where there is a paragraph there is a chunk. -/
theorem ne_nil (covers : Covers chunkSize paragraphs chunks) (some : paragraphs ≠ []) : chunks ≠ [] := by
  cases covers with
  | nil => exact absurd rfl some
  | joined => exact List.cons_ne_nil _ _
  | cut long whole rest =>
    obtain ⟨offset, present, -⟩ := whole.whole 0 (by omega)
    exact List.append_ne_nil_of_left_ne_nil (by simpa using List.ne_nil_of_mem present) _

/-- The chunks hold nothing but the paragraphs and newlines between them. -/
theorem mem_paragraph (covers : Covers chunkSize paragraphs chunks) {chunk : String} (present : chunk ∈ chunks)
    {character : Char} (mem : character ∈ chunk.toList) :
    character = '\n' ∨ ∃ paragraph ∈ paragraphs, character ∈ paragraph.toList := by
  induction covers with
  | nil => cases present
  | @joined group paragraphs chunks nonempty short fits rest inductionHypothesis =>
    rcases List.mem_cons.mp present with rfl | later
    · rw [join, String.toList_ofList] at mem
      refine (mem_intercalate mem).imp (fun newline => by simpa using newline) ?_
      rintro ⟨_, joined, held⟩
      obtain ⟨paragraph, grouped, rfl⟩ := List.mem_map.mp joined
      exact ⟨paragraph, List.mem_append_left _ grouped, held⟩
    · refine (inductionHypothesis later).imp_right ?_
      rintro ⟨paragraph, among, held⟩
      exact ⟨paragraph, List.mem_append_right _ among, held⟩
  | @cut paragraph offsets paragraphs chunks long whole rest inductionHypothesis =>
    rcases List.mem_append.mp present with window | later
    · obtain ⟨offset, _, rfl⟩ := List.mem_map.mp window
      rw [slice, String.toList_ofList] at mem
      exact .inr ⟨paragraph, List.mem_cons_self, List.mem_of_mem_drop (List.mem_of_mem_take mem)⟩
    · refine (inductionHypothesis later).imp_right ?_
      rintro ⟨paragraph, among, held⟩
      exact ⟨paragraph, List.mem_cons_of_mem _ among, held⟩

end Covers

/-! ## Extracted texts -/

/-- An extracted text is visible, of bounded length and free of NUL. -/
theorem extractText_eq_ok {decoded text : String} (extracted : extractText decoded = .ok text) :
    strip text ≠ "" ∧ '\x00' ∉ text.toList := by
  unfold extractText at extracted
  split at extracted
  next => cases extracted
  next =>
    dsimp only at extracted
    split at extracted
    next => cases extracted
    next visible =>
      rw [Except.ok.injEq] at extracted
      subst extracted
      refine ⟨by rw [strip_strip]; exact visible, fun mem => ?_⟩
      have kept := mem_of_mem_strip mem
      rw [String.toList_ofList] at kept
      exact absurd (List.of_mem_filter kept) (by decide)

theorem extractData_eq_ok {pdf : Except FileError String} {data : Bytes} {extension text : String}
    (extracted : extractData pdf data extension = .ok text) : ∃ decoded, extractText decoded = .ok text := by
  obtain ⟨decoded, _, extracted⟩ := bind_eq_ok.mp extracted
  exact ⟨decoded, mapError_eq_ok.mp extracted⟩

/-- An extracted text falls into chunks that the database takes. -/
theorem chunks_of_extractText {decoded text : String} (extracted : extractText decoded = .ok text) :
    intelligentChunking text ≠ [] ∧ ∀ chunk ∈ intelligentChunking text, storable chunk = true ∧
      1 ≤ chunk.length ∧ chunk.length ≤ 500 := by
  obtain ⟨visible, clean⟩ := extractText_eq_ok extracted
  obtain ⟨sized, covers⟩ := chunking_covers text 500 50 (by decide)
  refine ⟨covers.ne_nil (paragraphs_ne_nil visible), fun chunk present => ⟨?_, sized chunk present⟩⟩
  have absent : '\x00' ∉ chunk.toList := fun mem => by
    rcases covers.mem_paragraph present mem with newline | ⟨paragraph, among, held⟩
    · cases newline
    · exact clean (mem_of_mem_paragraphs among held)
  simpa [storable] using absent

/-! ## Deliveries -/

theorem Tables.document?_eq_some {tables : Tables} {documentId organizationId : Nat} {document : Document}
    (found : tables.document? documentId organizationId = some document) :
    document ∈ tables.documents ∧ document.id = documentId ∧ document.organizationId = organizationId :=
  ⟨List.mem_of_find?_eq_some found, by simpa using List.find?_some found⟩

theorem Tables.exists_document? {tables : Tables} {document : Document} (mem : document ∈ tables.documents) :
    ∃ found, tables.document? document.id document.organizationId = some found :=
  Option.isSome_iff_exists.mp (List.find?_isSome.mpr ⟨document, mem, by simp⟩)

/-- The delivery of a job whose document is there and not ready. -/
theorem delivery_of_extractText (embed : String → Option Embedding) {tables : Tables} {document : Document}
    {documentId organizationId : Nat} {decoded content : String} (knowledgeScope : String)
    (extracted : extractText decoded = .ok content)
    (found : tables.document? documentId organizationId = some document) (unready : document.status ≠ .ready) :
    ∃ embedded, (processDocumentIngestion embed tables documentId organizationId content knowledgeScope).1 =
        some (.finished .ready documentId (intelligentChunking content).length embedded) ∧
      (processDocumentIngestion embed tables documentId organizationId content knowledgeScope).2.chunks =
        tables.chunks ++ Tables.numbered tables.chunkSequence
          (newChunks embed organizationId documentId document.title content knowledgeScope) ∧
      ∀ other ∈ (processDocumentIngestion embed tables documentId organizationId content
        knowledgeScope).2.documents, other.id = documentId → other.status = .ready := by
  obtain ⟨some, clean⟩ := chunks_of_extractText extracted
  have length : (newChunks embed organizationId documentId document.title content knowledgeScope).length =
      (intelligentChunking content).length := by simp [newChunks]
  have positive : 0 < (newChunks embed organizationId documentId document.title content knowledgeScope).length := by
    rw [length]
    exact List.length_pos_of_ne_nil some
  -- the database takes every chunk
  have stored : (tables.setStatus documentId .processing).insertChunks
      (newChunks embed organizationId documentId document.title content knowledgeScope) = Option.some
        { tables.setStatus documentId .processing with
          chunks := tables.chunks ++ Tables.numbered tables.chunkSequence
            (newChunks embed organizationId documentId document.title content knowledgeScope)
          chunkSequence := tables.chunkSequence +
            (newChunks embed organizationId documentId document.title content knowledgeScope).length } := by
    refine Tables.insertChunks_eq_some.mpr ⟨fun chunk mem => ?_, rfl⟩
    obtain ⟨item, among, rfl⟩ := List.mem_map.mp mem
    exact (clean item.1 (List.fst_mem_of_mem_zipIdx among)).1
  unfold processDocumentIngestion Tables.beginIngestion
  rw [found]
  dsimp only
  rw [if_neg unready]
  dsimp only [Tables.finishIngestion]
  rw [stored, if_pos positive, length]
  exact ⟨_, rfl, rfl, fun other mem same => Tables.status_of_setStatus mem same⟩

/-- Whatever else goes on, the worker can always process a job that is in the queue: it is the job of an upload,
with the text of its file in the scope of its request, and a delivery that nothing interrupts makes the
document of that upload ready, with a chunk at least and every chunk in the organization of the upload, unless
it is ready already. -/
theorem queued_upload_ingested {service : StorageService} {before : Files} {labels : List StorageLabel}
    {state : StorageState} (ran : run service.step (.initial before) labels = some state) {job : IngestionJob}
    (queued : job ∈ state.jobs) (embed : String → Option Embedding) :
    ∃ (hex : UuidHex) (upload : FileUpload) (pdf : Except FileError String) (document : Document),
      state.uploads hex = some upload ∧ upload.phase.documentId? = some job.documentId ∧
      job = upload.job job.content job.documentId ∧
      safeScope upload.form.knowledgeScope = .ok job.knowledgeScope ∧
      extractData pdf upload.form.content (safeExtension service.table upload.form.name) = .ok job.content ∧
      document ∈ state.tables.documents ∧ document.id = job.documentId ∧
      document.organizationId = upload.form.organizationId ∧
      let delivery := processDocumentIngestion embed state.tables job.documentId job.organizationId job.content
        job.knowledgeScope
      (document.status = .ready ∧ delivery = (some (.replayed job.documentId), state.tables)) ∨
        ∃ chunks embedded, delivery.1 = some (.finished .ready job.documentId chunks.length embedded) ∧
          delivery.2.chunks = state.tables.chunks ++ chunks ∧ chunks ≠ [] ∧
          (∀ chunk ∈ chunks, chunk.organizationId = upload.form.organizationId ∧
            chunk.documentId = job.documentId ∧ 1 ≤ chunk.content.length ∧ chunk.content.length ≤ 500) ∧
          ∀ other ∈ delivery.2.documents, other.id = job.documentId → other.status = .ready := by
  have invariant := (run_kept initial_invariant ran).invariant
  obtain ⟨hex, upload, size, present, identified, jobOf, complete⟩ := invariant.jobs job queued
  obtain ⟨_, placed⟩ := invariant.placed _ _ present
  obtain ⟨safe, extension, -⟩ := StorageService.place_eq_ok placed
  obtain ⟨pdf, extracted⟩ := complete.extracted
  obtain ⟨decoded, text⟩ := extractData_eq_ok extracted
  have scope : job.knowledgeScope = upload.place.scope := congrArg IngestionJob.knowledgeScope jobOf
  have organization : job.organizationId = upload.form.organizationId := congrArg IngestionJob.organizationId jobOf
  -- the worker finds the row
  have row := (invariant.filed_of_identified present identified).row
  obtain ⟨filed, filedMem, filedAs⟩ := List.mem_map.mp row
  have id : filed.id = job.documentId := congrArg DocumentIdentity.id filedAs
  have owner : filed.organizationId = job.organizationId :=
    (congrArg DocumentIdentity.organizationId filedAs).trans organization.symm
  obtain ⟨document, found⟩ := Tables.exists_document? filedMem
  rw [id, owner] at found
  obtain ⟨mem, same⟩ := Tables.document?_eq_some found
  refine ⟨hex, upload, pdf, document, present, identified, jobOf, by rw [scope]; exact safe,
    by rw [← extension]; exact extracted, mem, same.1, same.2.trans organization, ?_⟩
  dsimp only
  by_cases ready : document.status = .ready
  · left
    refine ⟨ready, ?_⟩
    unfold processDocumentIngestion Tables.beginIngestion
    rw [found]
    dsimp only
    rw [if_pos ready]
  · right
    obtain ⟨embedded, finished, chunks, status⟩ :=
      delivery_of_extractText embed job.knowledgeScope text found ready
    obtain ⟨some, sized⟩ := chunks_of_extractText text
    have added := Tables.map_numbered state.tables.chunkSequence
      (newChunks embed job.organizationId job.documentId document.title job.content job.knowledgeScope)
    have length := congrArg List.length added
    simp only [List.length_map, newChunks, List.length_zipIdx] at length
    refine ⟨_, embedded, ?_, chunks, ?_, ?_, status⟩
    · rw [finished, ← length]
      rfl
    · intro empty
      rw [empty, List.map_nil] at added
      exact some (List.eq_nil_of_length_eq_zero (by simpa [newChunks] using congrArg List.length added.symm))
    · intro chunk chunkMem
      have written : chunk.toNewChunk ∈ newChunks embed job.organizationId job.documentId document.title job.content
          job.knowledgeScope := added ▸ List.mem_map_of_mem chunkMem
      obtain ⟨item, among, writtenAs⟩ := List.mem_map.mp written
      have content : chunk.content = item.1 := congrArg NewChunk.content writtenAs.symm
      refine ⟨(congrArg NewChunk.organizationId writtenAs.symm).trans organization,
        congrArg NewChunk.documentId writtenAs.symm, ?_⟩
      rw [content]
      exact (sized item.1 (List.fst_mem_of_mem_zipIdx among)).2

theorem queued_upload_ingested_tide :
    ∃ (hex : UuidHex) (upload : FileUpload) (pdf : Except FileError String) (document : Document),
      tideState.uploads hex = some upload ∧ upload.phase.documentId? = some tideJob.documentId ∧
      tideJob = upload.job tideJob.content tideJob.documentId ∧
      safeScope upload.form.knowledgeScope = .ok tideJob.knowledgeScope ∧
      extractData pdf upload.form.content (safeExtension tideService.table upload.form.name) = .ok tideJob.content ∧
      document ∈ tideState.tables.documents ∧ document.id = tideJob.documentId ∧
      document.organizationId = upload.form.organizationId ∧
      let delivery := processDocumentIngestion (fun _ => none) tideState.tables tideJob.documentId
        tideJob.organizationId tideJob.content tideJob.knowledgeScope
      (document.status = .ready ∧ delivery = (some (.replayed tideJob.documentId), tideState.tables)) ∨
        ∃ chunks embedded, delivery.1 = some (.finished .ready tideJob.documentId chunks.length embedded) ∧
          delivery.2.chunks = tideState.tables.chunks ++ chunks ∧ chunks ≠ [] ∧
          (∀ chunk ∈ chunks, chunk.organizationId = upload.form.organizationId ∧
            chunk.documentId = tideJob.documentId ∧ 1 ≤ chunk.content.length ∧ chunk.content.length ≤ 500) ∧
          ∀ other ∈ delivery.2.documents, other.id = tideJob.documentId → other.status = .ready :=
  queued_upload_ingested tideState_reached tide_filed.2 _

end Eiraos.Documents
