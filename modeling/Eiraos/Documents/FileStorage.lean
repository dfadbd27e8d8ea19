import Eiraos.Documents.Knowledge
import Eiraos.Documents.Queueing
import Eiraos.Foundations.PosixPath

/-! # Files of uploads

`domains/documents/file_service.py` and the requests of `api/v1/document_upload.py`: where a file goes,
how it is written piece by piece, and what is read back from it.
-/

namespace Eiraos.Documents

open PythonText Guarded

abbrev Bytes := List UInt8

def maxUploadBytes : Nat := 10 * 1024 * 1024

def allowedExtensions : List String := [".txt", ".md", ".markdown", ".pdf", ".csv", ".json"]

/-! ## Where a file goes -/

/-- `uuid.uuid4().hex`. -/
structure UuidHex where
  text : String
  length : text.length = 32
  digits : text.toList.all "0123456789abcdef".toList.contains = true
  deriving DecidableEq, Repr

/-- The letter cases of Unicode and the directory that `Path(settings.STORAGE_ROOT).resolve()` is. -/
structure StorageService where
  table : CaseTable
  /-- No letter becomes a slash. -/
  slashless : ∀ before character after, '/' ∉ table before character after
  storageRoot : PosixPath

/-- The form of `upload_document`; a file without a name or a type has an empty one. -/
structure UploadForm where
  organizationId : Nat
  userId : Nat
  filename : String
  contentType : String
  content : Bytes
  knowledgeScope : String
  storageFolder : String

namespace UploadForm

variable (form : UploadForm)

/-- `file.filename or "document"`. -/
def name : String := if form.filename = "" then "document" else form.filename

/-- `filename[:500]`. -/
def title : String := slice form.name 0 500

/-- `file.content_type or "application/octet-stream"`. -/
def mimeType : String := if form.contentType = "" then "application/octet-stream" else form.contentType

end UploadForm

def safeFolder (value : String) : Except HttpException PosixPath :=
  let folder := PosixPath.parse value
  if folder.anchor ≠ .relative ∨ folder.parts.any (fun part => ["", ".", ".."].contains part.text) then
    .error ⟨422, "Invalid storage_folder"⟩
  else .ok folder

def safeExtension (table : CaseTable) (filename : String) : String :=
  lower table (PosixPath.parse filename).suffix

/-- An exception that `upload_document` turns into an answer, or one that it does not catch. -/
inductive UploadRefusal where
  | http (exception : HttpException)
  | raised
  deriving DecidableEq, Repr

/-- What a request has settled before it writes. -/
structure UploadPlace where
  scope : String
  extension : String
  tenantRoot : PosixPath
  target : PosixPath
  relative : PosixPath
  deriving DecidableEq, Repr

namespace StorageService

variable (service : StorageService)

/-- `Path(settings.STORAGE_ROOT).resolve() / str(org_id)`. -/
def organizationRoot (organizationId : Nat) : PosixPath :=
  service.storageRoot.join (PosixPath.parse (toString organizationId))

/-- `upload_document` up to `target` and `relative`.  `resolve` is `Path.resolve` with the links of the
file system then, `directory` tells whether `mkdir` succeeds. -/
def place (form : UploadForm) (resolve : PosixPath → Option PosixPath) (directory : Bool) (hex : UuidHex) :
    Except UploadRefusal UploadPlace := do
  let scope ← (safeScope form.knowledgeScope).mapError UploadRefusal.http
  let folder ← (safeFolder form.storageFolder).mapError UploadRefusal.http
  let extension := safeExtension service.table form.name
  let root ← required UploadRefusal.raised
    (resolve ((service.organizationRoot form.organizationId).join folder))
  let tenantRoot ← required UploadRefusal.raised (resolve (service.organizationRoot form.organizationId))
  ensure (tenantRoot = root ∨ tenantRoot ∈ root.parents)
    (UploadRefusal.http ⟨422, "Invalid storage_folder"⟩)
  ensure (directory = true) UploadRefusal.raised
  let target := root.join (PosixPath.parse (hex.text ++ extension))
  -- a `ValueError` here is outside the `try`
  let relative ← required UploadRefusal.raised (target.relativeTo? service.storageRoot)
  return ⟨scope, extension, tenantRoot, target, relative⟩

end StorageService

/-! ### Places -/

section Places

variable {service : StorageService} {form : UploadForm} {resolve : PosixPath → Option PosixPath}
  {directory : Bool} {hex : UuidHex} {place : UploadPlace}

theorem toLower_ne_slash {character : Char} (ascii : character.toNat < 128) (other : character ≠ '/') :
    character.toLower ≠ '/' := by
  have table : ∀ code < 128, Char.ofNat code ≠ '/' → (Char.ofNat code).toLower ≠ '/' := by decide
  have cased := table character.toNat ascii
  rw [Char.ofNat_toNat] at cased
  exact cased other

theorem slash_not_mem_lowerFrom {before text : List Char} (absent : '/' ∉ text) :
    '/' ∉ lowerFrom service.table before text := by
  induction text generalizing before with
  | nil => simp [lowerFrom]
  | cons character text inductionHypothesis =>
    simp only [List.mem_cons, not_or] at absent
    simp only [lowerFrom, List.mem_append, not_or]
    refine ⟨?_, inductionHypothesis absent.2⟩
    by_cases ascii : character.toNat < 128
    · rw [if_pos ascii, List.mem_singleton]
      exact Ne.symm (toLower_ne_slash ascii (Ne.symm absent.1))
    · rw [if_neg ascii]
      exact service.slashless before character text

theorem slash_not_mem_safeExtension (filename : String) :
    '/' ∉ (safeExtension service.table filename).toList := by
  rw [safeExtension, lower, String.toList_ofList]
  exact slash_not_mem_lowerFrom (PosixPath.slash_not_mem_suffix _)

theorem UuidHex.slash_not_mem (hex : UuidHex) : '/' ∉ hex.text.toList := fun mem => by
  have digit := List.all_eq_true.mp hex.digits '/' mem
  exact absurd digit (by decide)

/-- All identifiers are of one length. -/
theorem UuidHex.append_injective {hex other : UuidHex} {extension otherExtension : String}
    (same : hex.text ++ extension = other.text ++ otherExtension) : hex = other := by
  have lists := congrArg String.toList same
  rw [String.toList_append, String.toList_append] at lists
  have texts := (List.append_inj lists
    (by rw [String.length_toList, String.length_toList, hex.length, other.length])).1
  cases hex
  cases other
  simp only [UuidHex.mk.injEq]
  exact String.toList_injective texts

/-- The name of the file that a request writes. -/
def fileName (hex : UuidHex) (extension : String) (slashless : '/' ∉ extension.toList) : PathName where
  text := hex.text ++ extension
  proper := by
    have length : 32 ≤ (hex.text ++ extension).length := by
      rw [String.length_append, hex.length]
      omega
    have other : ∀ short : String, short.length < 32 → hex.text ++ extension ≠ short := by
      rintro short less rfl
      omega
    simp only [isPathName, Bool.and_eq_true, decide_eq_true_eq, Bool.not_eq_true', List.contains_eq_mem,
      decide_eq_false_iff_not, String.toList_append, List.mem_append, not_or]
    exact ⟨⟨other "" (by decide), other "." (by decide)⟩, hex.slash_not_mem, slashless⟩

/-- What the place of a request that passed its checks is. -/
theorem StorageService.place_eq_ok (placed : service.place form resolve directory hex = .ok place) :
    safeScope form.knowledgeScope = .ok place.scope ∧
      place.extension = safeExtension service.table form.name ∧
      resolve (service.organizationRoot form.organizationId) = some place.tenantRoot ∧
      (∃ root, place.target = root.join (.single (fileName hex (safeExtension service.table form.name)
          (slash_not_mem_safeExtension form.name))) ∧
        (place.tenantRoot = root ∨ place.tenantRoot ∈ root.parents)) ∧
      place.relative.anchor = .relative ∧ place.target = service.storageRoot.join place.relative := by
  obtain ⟨scope, safe, placed⟩ := bind_eq_ok.mp placed
  obtain ⟨folder, -, placed⟩ := bind_eq_ok.mp placed
  obtain ⟨root, -, placed⟩ := bind_eq_ok.mp placed
  obtain ⟨tenantRoot, resolved, placed⟩ := bind_eq_ok.mp placed
  obtain ⟨⟨⟩, confined, placed⟩ := bind_eq_ok.mp placed
  obtain ⟨⟨⟩, -, placed⟩ := bind_eq_ok.mp placed
  obtain ⟨relative, found, placed⟩ := bind_eq_ok.mp placed
  cases pure_eq_ok.mp placed
  have below := PosixPath.relativeTo?_eq_some.mp (required_eq_ok.mp found)
  have named := PosixPath.parse_name
    (fileName hex (safeExtension service.table form.name) (slash_not_mem_safeExtension form.name))
  exact ⟨mapError_eq_ok.mp safe, rfl, required_eq_ok.mp resolved,
    ⟨root, congrArg root.join named, ensure_eq_ok.mp confined⟩, below⟩

/-- The file lies below the directory of the organization. -/
theorem StorageService.place_confined (placed : service.place form resolve directory hex = .ok place) :
    place.tenantRoot ∈ place.target.parents := by
  obtain ⟨-, -, -, ⟨root, target, within⟩, -, -⟩ := place_eq_ok placed
  rw [target, PosixPath.single, PosixPath.join_relative, PosixPath.mem_parents]
  rcases within with same | above
  · exact ⟨_, List.cons_ne_nil _ _, by rw [same, PosixPath.join_relative]⟩
  · obtain ⟨below, -, rfl⟩ := PosixPath.mem_parents.mp above
    refine ⟨below ++ [fileName hex (safeExtension service.table form.name)
      (slash_not_mem_safeExtension form.name)], by simp, ?_⟩
    simp only [PosixPath.join_relative, List.append_assoc]

/-- Two requests write two files. -/
theorem StorageService.place_injective {other : UuidHex} {otherForm : UploadForm}
    {otherResolve : PosixPath → Option PosixPath} {otherDirectory : Bool} {otherPlace : UploadPlace}
    (placed : service.place form resolve directory hex = .ok place)
    (otherPlaced : service.place otherForm otherResolve otherDirectory other = .ok otherPlace)
    (same : place.target = otherPlace.target) : hex = other := by
  obtain ⟨-, -, -, ⟨root, target, -⟩, -, -⟩ := place_eq_ok placed
  obtain ⟨-, -, -, ⟨otherRoot, otherTarget, -⟩, -, -⟩ := place_eq_ok otherPlaced
  rw [target, otherTarget, PosixPath.single, PosixPath.single, PosixPath.join_relative, PosixPath.join_relative,
    PosixPath.mk.injEq] at same
  have names := (List.append_inj' same.2 rfl).2
  simp only [List.cons.injEq, and_true, PathName.mk.injEq, fileName] at names
  exact UuidHex.append_injective names

end Places

/-! ## Reading a file -/

/-- A `ValueError`, which `upload_document` catches, or another exception. -/
inductive FileError where
  | valueError (detail : String)
  | other
  deriving DecidableEq, Repr

def validateUpload (table : CaseTable) (filename : String) (size : Nat) : Except FileError String := do
  let extension := safeExtension table filename
  ensure (extension ∈ allowedExtensions) (FileError.valueError "Unsupported document type")
  ensure (0 < size ∧ size ≤ maxUploadBytes)
    (FileError.valueError "Document exceeds the permitted size")
  return extension

/-- `data.decode("utf-8-sig")`. -/
def decodeUtf8Sig (data : Bytes) : Option String :=
  let text := if [0xEF, 0xBB, 0xBF] <+: data then data.drop 3 else data
  String.fromUTF8? ⟨text.toArray⟩

/-- The text of a file; `pdf` is what `_extract_pdf_isolated` makes of it. -/
def decodedData (pdf : Except FileError String) (data : Bytes) (extension : String) : Except FileError String :=
  if extension = ".pdf" then pdf
  else required (FileError.valueError "Document must be UTF-8 text") (decodeUtf8Sig data)

/-- `extract_text`. -/
def extractData (pdf : Except FileError String) (data : Bytes) (extension : String) :
    Except FileError String := do
  let decoded ← decodedData pdf data extension
  (extractText decoded).mapError fun exception => FileError.valueError exception.detail

/-! ## Writing a file -/

abbrev Files := PosixPath → Option Bytes

/-- `stream.read(1024 * 1024)`: a piece and what is left of the stream. -/
def readPiece (rest : Bytes) : Bytes × Bytes := (rest.take (1024 * 1024), rest.drop (1024 * 1024))

/-- `with target.open("xb")`: a file that exists is not opened. -/
def Files.create? (files : Files) (target : PosixPath) : Option Files :=
  match files target with
  | some _ => none
  | none => some (Function.update files target (some []))

/-- `handle.write(chunk)`. -/
def Files.append (files : Files) (target : PosixPath) (piece : Bytes) : Files :=
  Function.update files target (some ((files target).getD [] ++ piece))

/-- `target.unlink(missing_ok=True)`. -/
def Files.unlink (files : Files) (target : PosixPath) : Files := Function.update files target none

/-- What one round of the loop of `write_upload` does with the file. -/
inductive WriteRound where
  | finished
  | tooLarge
  | wrote (piece rest : Bytes)
  deriving DecidableEq, Repr

def writeRound (total : Nat) (rest : Bytes) : WriteRound :=
  let (piece, rest) := readPiece rest
  if piece = [] then .finished
  else if maxUploadBytes < total + piece.length then .tooLarge
  else .wrote piece rest

theorem writeRound_finished {total : Nat} {rest : Bytes} (finished : writeRound total rest = .finished) :
    rest = [] := by
  unfold writeRound readPiece at finished
  dsimp only at finished
  split at finished
  next empty =>
    rcases List.take_eq_nil_iff.mp empty with zero | nil
    · cases zero
    · exact nil
  next => split at finished <;> cases finished

/-- A piece that is written is what the stream goes on with, and the file stays within the limit. -/
theorem writeRound_wrote {total : Nat} {rest piece later : Bytes}
    (wrote : writeRound total rest = .wrote piece later) :
    piece ++ later = rest ∧ total + piece.length ≤ maxUploadBytes := by
  unfold writeRound readPiece at wrote
  dsimp only at wrote
  split at wrote
  next => cases wrote
  next =>
    split at wrote
    next => cases wrote
    next fits =>
      cases wrote
      exact ⟨List.take_append_drop _ _, by omega⟩

end Eiraos.Documents
