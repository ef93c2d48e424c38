import ProductIntelligence.Products.Product

/-!
# Storing an uploaded file

`UploadService.save_upload` checks the name and the declared type of a file, streams it to disk in
chunks and describes the stored file.  Reading a chunk, writing it, opening, closing and deleting
the file may each raise, and so may the description, which does not allow an empty file.  Only the
size limit is followed by a deletion.

## Main definitions

* `UploadFile`, `DiskFaults` — an upload as it is read and written, and what else goes wrong.
* `UploadService.streamToDisk`, `UploadService.saveUpload` — the operations, on a directory.
* `CleansUp` — a failed upload leaves no file, and one that succeeds the whole of it.

## Main results

* `writeChunks_ok_iff`, `writeChunks_fileTooLarge_iff` — how the loop over the chunks ends.
* `saveUpload_other` — an upload touches no file but its own.
* `cleansUp_iff` — **exactly which uploads are cleaned up**.

## References

`backend/app/services/upload_service.py`, `backend/app/validators/file_validator.py`,
`backend/app/schemas/product.py`.
-/

namespace ProductIntelligence

/-! ### Uploads -/

/-- The content of a file. -/
abbrev Bytes := List UInt8

/-- How reading an upload ends. -/
inductive StreamEnd
  | endOfFile
  | raises
  deriving DecidableEq

/-- A chunk of an upload.  Writing it may raise, with a part of it written. -/
structure UploadChunk where
  bytes : Bytes
  /-- An empty read is the end of the file. -/
  bytes_ne_nil : bytes ≠ []
  raisesAfter : Option Bytes
  deriving DecidableEq

/-- An upload: its headers, the chunks that are read of it and how reading ends. -/
structure UploadFile where
  filename : Option Text
  contentType : Option Text
  chunks : List UploadChunk
  ending : StreamEnd

/-- The chunks, one after the other. -/
def joined (chunks : List UploadChunk) : Bytes := chunks.flatMap UploadChunk.bytes

@[simp] theorem joined_nil : joined [] = [] := rfl

@[simp] theorem joined_cons (chunk : UploadChunk) (chunks : List UploadChunk) :
    joined (chunk :: chunks) = chunk.bytes ++ joined chunks := List.flatMap_cons ..

/-- What raises of the calls on the destination other than a write. -/
structure DiskFaults where
  openRaises : Bool
  closeRaises : Bool
  unlinkRaises : Bool
  deriving DecidableEq

/-- The files of the upload directory. -/
abbrev UploadDir := Text → Option Bytes

/-- What storing an upload raises. -/
inductive UploadError
  /-- `ValidationException`. -/
  | validation (message : Text)
  /-- `UnsupportedMediaTypeException`. -/
  | unsupportedMediaType (message : Text)
  /-- `FileTooLargeException`. -/
  | fileTooLarge (message : Text)
  /-- What reading the upload raises. -/
  | read
  /-- What a call on the destination raises. -/
  | disk
  /-- `ValidationError` of `ProductImage`. -/
  | productImage
  deriving DecidableEq

/-! ### Names and types -/

/-- `validate_filename_and_extension`. -/
def validateFilenameAndExtension (allowedExtensions : List Text) (filename : Option Text) :
    Except UploadError (Text × Text) :=
  match filename with
  | none | some [] => .error (.validation "Uploaded file is missing a filename.".toList)
  | some filename =>
    let extension := lower (pathSuffix filename)
    if allowedExtensions.contains extension then .ok (filename, extension)
    else .error (.unsupportedMediaType ("Unsupported file extension '".toList ++
      (if extension = [] then "(none)".toList else extension) ++ "'. Allowed extensions: ".toList ++
      ", ".toList.intercalate allowedExtensions ++ ".".toList))

/-- `validate_mime_type`. -/
def validateMimeType (allowedMimeTypes : List Text) (contentType : Option Text) :
    Except UploadError Text :=
  match contentType with
  | some type =>
    if allowedMimeTypes.contains type then .ok type else .error (unsupported type)
  | none => .error (unsupported "None".toList)
where
  unsupported (type : Text) : UploadError :=
    .unsupportedMediaType ("Unsupported content type '".toList ++ type ++
      "'. Allowed types: ".toList ++
      ", ".toList.intercalate (allowedMimeTypes.mergeSort fun s t => s ≤ t) ++ ".".toList)

/-! ### The service -/

/-- The configuration of the service. -/
structure UploadService where
  maxUploadSizeMb : ℤ
  allowedExtensions : List Text
  allowedMimeTypes : List Text

namespace UploadService

variable (service : UploadService)

/-- `_max_upload_size_bytes`. -/
def maxUploadSizeBytes : ℤ := service.maxUploadSizeMb * 1024 * 1024

/-- The exception of an upload beyond the limit. -/
def tooLarge : UploadError :=
  .fileTooLarge ("Uploaded file exceeds the maximum allowed size of ".toList ++
    (toString (service.maxUploadSizeBytes / (1024 * 1024))).toList ++ "MB.".toList)

/-- The loop of `_stream_to_disk`: how it ends, and what the file holds then. -/
def writeChunks (ending : StreamEnd) :
    List UploadChunk → ℕ → Bytes → Except UploadError ℕ × Bytes
  | [], size, content =>
    match ending with
    | .endOfFile => (.ok size, content)
    | .raises => (.error .read, content)
  | chunk :: chunks, size, content =>
    let size := size + chunk.bytes.length
    if service.maxUploadSizeBytes < size then (.error service.tooLarge, content)
    else
      match chunk.raisesAfter with
      | some part => (.error .disk, content ++ part)
      | none => writeChunks ending chunks size (content ++ chunk.bytes)

/-- `_stream_to_disk`. -/
def streamToDisk (faults : DiskFaults) (file : UploadFile) (destination : Text) (dir : UploadDir) :
    Except UploadError ℕ × UploadDir :=
  if faults.openRaises then (.error .disk, dir)
  else
    let (result, content) := service.writeChunks file.ending file.chunks 0 []
    let dir := Function.update dir destination (some content)
    -- what closing the file raises takes the place of any other exception
    if faults.closeRaises then (.error .disk, dir)
    else
      match result with
      | .error (.fileTooLarge message) =>
        if faults.unlinkRaises then (.error .disk, dir)
        else (.error (.fileTooLarge message), Function.update dir destination none)
      | result => (result, dir)

/-- `ProductImage(...)`: the size is positive. -/
def productImage (image : ProductImage) : Except UploadError ProductImage :=
  if 0 < image.sizeBytes then .ok image else .error .productImage

/-- The end of `save_upload`: stream the file and describe it. -/
def store (faults : DiskFaults) (file : UploadFile) (destination : Text) (dir : UploadDir)
    (image : ℕ → ProductImage) : Except UploadError ProductImage × UploadDir :=
  match service.streamToDisk faults file destination dir with
  | (.error e, dir) => (.error e, dir)
  | (.ok sizeBytes, dir) => (productImage (image sizeBytes), dir)

/-- `save_upload`, where the file is stored under `hex` with its extension. -/
def saveUpload (faults : DiskFaults) (hex : Text) (now : Time) (file : UploadFile)
    (dir : UploadDir) : Except UploadError ProductImage × UploadDir :=
  match validateFilenameAndExtension service.allowedExtensions file.filename with
  | .error e => (.error e, dir)
  | .ok (filename, extension) =>
    match validateMimeType service.allowedMimeTypes file.contentType with
    | .error e => (.error e, dir)
    | .ok contentType =>
      service.store faults file (hex ++ extension) dir fun sizeBytes =>
        { originalFilename := filename
          storedFilename := hex ++ extension
          contentType := contentType
          sizeBytes := sizeBytes
          uploadedAt := now }

/-! ### The loop over the chunks -/

/-- Every chunk is written. -/
def AllWritten (chunks : List UploadChunk) : Prop := ∀ chunk ∈ chunks, chunk.raisesAfter = none

/-- Some chunk takes the size beyond the limit, and all before it are written. -/
def Oversized (size : ℕ) (chunks : List UploadChunk) : Prop :=
  ∃ before chunk after, chunks = before ++ chunk :: after ∧ AllWritten before ∧
    service.maxUploadSizeBytes < (size + (joined (before ++ [chunk])).length : ℕ)

variable {service}

theorem allWritten_cons {chunk : UploadChunk} {chunks : List UploadChunk} :
    AllWritten (chunk :: chunks) ↔ chunk.raisesAfter = none ∧ AllWritten chunks :=
  List.forall_mem_cons

theorem oversized_cons {chunk : UploadChunk} {chunks : List UploadChunk} {size : ℕ} :
    service.Oversized size (chunk :: chunks) ↔
      service.maxUploadSizeBytes < (size + chunk.bytes.length : ℕ) ∨
        chunk.raisesAfter = none ∧ service.Oversized (size + chunk.bytes.length) chunks := by
  constructor
  · rintro ⟨before, last, after, hsplit, hwritten, hlimit⟩
    cases before with
    | nil =>
      cases hsplit
      exact .inl (by simpa using hlimit)
    | cons first before =>
      cases hsplit
      obtain ⟨hfirst, hwritten⟩ := allWritten_cons.1 hwritten
      refine .inr ⟨hfirst, before, last, after, rfl, hwritten, ?_⟩
      rw [List.cons_append, joined_cons, List.length_append, ← Nat.add_assoc] at hlimit
      exact hlimit
  · rintro (hlimit | ⟨hfirst, before, last, after, rfl, hwritten, hlimit⟩)
    · refine ⟨[], chunk, chunks, rfl, ?_, by simpa using hlimit⟩
      intro c hc
      cases hc
    · refine ⟨chunk :: before, last, after, rfl, allWritten_cons.2 ⟨hfirst, hwritten⟩, ?_⟩
      rw [List.cons_append, joined_cons, List.length_append, ← Nat.add_assoc]
      exact hlimit

theorem writeChunks_cons (ending : StreamEnd) (chunk : UploadChunk) (chunks : List UploadChunk)
    (size : ℕ) (content : Bytes) :
    service.writeChunks ending (chunk :: chunks) size content =
      if service.maxUploadSizeBytes < (size + chunk.bytes.length : ℕ) then
        (.error service.tooLarge, content)
      else
        match chunk.raisesAfter with
        | some part => (.error .disk, content ++ part)
        | none =>
          service.writeChunks ending chunks (size + chunk.bytes.length) (content ++ chunk.bytes) :=
  rfl

/-- The loop succeeds when everything is read and written within the limit. -/
theorem writeChunks_ok_iff {ending : StreamEnd} {chunks : List UploadChunk} {size n : ℕ}
    {content : Bytes} :
    (service.writeChunks ending chunks size content).1 = .ok n ↔
      ending = .endOfFile ∧ AllWritten chunks ∧ n = size + (joined chunks).length ∧
        (chunks = [] ∨ (n : ℤ) ≤ service.maxUploadSizeBytes) := by
  induction chunks generalizing size content with
  | nil => cases ending <;> simp [writeChunks, AllWritten, eq_comm]
  | cons chunk chunks ih =>
    rw [writeChunks_cons, allWritten_cons, joined_cons, List.length_append]
    by_cases hlimit : service.maxUploadSizeBytes < (size + chunk.bytes.length : ℕ)
    · rw [if_pos hlimit]
      refine iff_of_false (by simp) ?_
      rintro ⟨-, -, rfl, hempty | hle⟩
      · cases hempty
      · omega
    · rw [if_neg hlimit]
      cases hwrite : chunk.raisesAfter with
      | some part => simp
      | none =>
        simp only [ih, true_and, Nat.add_assoc]
        refine and_congr_right fun _ => and_congr_right fun _ => and_congr_right fun hn => ?_
        refine ⟨?_, fun h => .inr (h.resolve_left (List.cons_ne_nil _ _))⟩
        rintro (rfl | hle)
        · rw [joined_nil, List.length_nil] at hn
          exact .inr (by omega)
        · exact .inr hle

theorem writeChunks_content {ending : StreamEnd} {chunks : List UploadChunk} {size n : ℕ}
    {content : Bytes} (h : (service.writeChunks ending chunks size content).1 = .ok n) :
    (service.writeChunks ending chunks size content).2 = content ++ joined chunks := by
  induction chunks generalizing size content with
  | nil => cases ending <;> simp [writeChunks]
  | cons chunk chunks ih =>
    rw [writeChunks_cons] at h ⊢
    split_ifs at h ⊢
    split at h
    · cases h
    · rw [ih h, joined_cons, List.append_assoc]

/-- The loop ends beyond the limit when some chunk exceeds it before anything else raises. -/
theorem writeChunks_fileTooLarge_iff (service : UploadService) (ending : StreamEnd)
    (chunks : List UploadChunk) (size : ℕ) (content : Bytes) :
    (∃ message, (service.writeChunks ending chunks size content).1 =
      .error (.fileTooLarge message)) ↔ service.Oversized size chunks := by
  induction chunks generalizing size content with
  | nil => cases ending <;> simp [writeChunks, Oversized]
  | cons chunk chunks ih =>
    rw [writeChunks_cons, oversized_cons]
    by_cases hlimit : service.maxUploadSizeBytes < (size + chunk.bytes.length : ℕ)
    · rw [if_pos hlimit]
      exact iff_of_true ⟨_, rfl⟩ (.inl hlimit)
    · rw [if_neg hlimit, or_iff_right hlimit]
      cases hwrite : chunk.raisesAfter with
      | some part => simp
      | none => simpa using ih _ _

/-! ### Other files -/

section

variable {faults : DiskFaults} {file : UploadFile} {dir : UploadDir} {name : Text}

/-- Streaming touches no file but the destination. -/
theorem streamToDisk_other {destination : Text} (h : name ≠ destination) :
    (service.streamToDisk faults file destination dir).2 name = dir name := by
  simp only [streamToDisk]
  split
  · rfl
  · split
    · exact Function.update_of_ne h ..
    · split
      · split
        · exact Function.update_of_ne h ..
        · exact (Function.update_of_ne h ..).trans (Function.update_of_ne h ..)
      · exact Function.update_of_ne h ..

/-- Describing the file touches nothing. -/
theorem store_snd (destination : Text) (image : ℕ → ProductImage) :
    (service.store faults file destination dir image).2 =
      (service.streamToDisk faults file destination dir).2 := by
  unfold store
  cases service.streamToDisk faults file destination dir with
  | mk result dir' => cases result <;> rfl

/-- An upload touches no file but its own. -/
theorem saveUpload_other {hex : Text} {now : Time} (h : ∀ extension, name ≠ hex ++ extension) :
    (service.saveUpload faults hex now file dir).2 name = dir name := by
  unfold saveUpload
  split
  · rfl
  · rename_i filename extension hnamed
    split
    · rfl
    · rw [store_snd]
      exact streamToDisk_other (h extension)

end

/-! ### The promise -/

variable (service) (faults : DiskFaults) (hex : Text) (now : Time) (file : UploadFile)
  (dir : UploadDir)

/-- If the upload fails, no file it created remains; if it succeeds, the file holds the chunks,
its size is reported and within the limit. -/
def CleanResult : Except UploadError ProductImage × UploadDir → Prop
  | (.error _, dir') => ∀ name, dir name = none → dir' name = none
  | (.ok image, dir') =>
    dir' image.storedFilename = some (joined file.chunks) ∧
      image.sizeBytes = (joined file.chunks).length ∧
      (image.sizeBytes : ℤ) ≤ service.maxUploadSizeBytes

/-- The upload ends so. -/
def CleansUp : Prop :=
  service.CleanResult file dir (service.saveUpload faults hex now file dir)

/-- Everything is read and written, and it is neither nothing nor beyond the limit. -/
def Storable : Prop :=
  file.ending = .endOfFile ∧ AllWritten file.chunks ∧ file.chunks ≠ [] ∧
    ((joined file.chunks).length : ℤ) ≤ service.maxUploadSizeBytes

/-- No file is created, or none that was not there; or the upload is stored, or exceeds the limit
before anything raises and its file can be deleted. -/
def Covered (destination : Text) : Prop :=
  faults.openRaises ∨ dir destination ≠ none ∨
    ¬ faults.closeRaises ∧
      (service.Storable file ∨ service.Oversized 0 file.chunks ∧ ¬ faults.unlinkRaises)

variable {service faults hex now file dir}

theorem storable_iff (service : UploadService) (file : UploadFile) :
    service.Storable file ↔
      ∃ n, (service.writeChunks file.ending file.chunks 0 []).1 = .ok n ∧ 0 < n := by
  simp only [writeChunks_ok_iff, Nat.zero_add, Storable]
  constructor
  · rintro ⟨hend, hwritten, hne, hle⟩
    refine ⟨_, ⟨hend, hwritten, rfl, .inr hle⟩, ?_⟩
    obtain ⟨chunk, chunks, hchunks⟩ := List.exists_cons_of_ne_nil hne
    rw [hchunks, joined_cons, List.length_append]
    exact Nat.add_pos_left (List.length_pos_iff.2 chunk.bytes_ne_nil) _
  · rintro ⟨n, ⟨hend, hwritten, rfl, hle⟩, hpos⟩
    have hne : file.chunks ≠ [] := by
      intro hnil
      rw [hnil] at hpos
      exact absurd hpos (by simp)
    exact ⟨hend, hwritten, hne, hle.resolve_left hne⟩

/-- A file that was created and is not deleted must have been there. -/
theorem cleanResult_error_iff {destination : Text} {content : Bytes} {e : UploadError} :
    service.CleanResult file dir (.error e, Function.update dir destination (some content)) ↔
      dir destination ≠ none := by
  refine ⟨fun h hnone => ?_, fun hsome name hnone => ?_⟩
  · have hname := h destination hnone
    rw [Function.update_self] at hname
    cases hname
  · have hne : name ≠ destination := fun heq => hsome (heq ▸ hnone)
    rw [Function.update_of_ne hne, hnone]

/-- A file that is deleted is gone. -/
theorem cleanResult_deleted {destination : Text} {content : Option Bytes} {e : UploadError} :
    service.CleanResult file dir (.error e,
      Function.update (Function.update dir destination content) destination none) := by
  intro name hnone
  by_cases hname : name = destination
  · rw [hname, Function.update_self]
  · rw [Function.update_of_ne hname, Function.update_of_ne hname, hnone]

/-- After the loop has written everything, the description decides. -/
theorem cleanResult_productImage_iff {destination : Text} {image : ProductImage} {n : ℕ}
    {content : Bytes} (hstored : image.storedFilename = destination) (hsize : image.sizeBytes = n)
    (hrun : service.writeChunks file.ending file.chunks 0 [] = (.ok n, content)) :
    service.CleanResult file dir
        (productImage image, Function.update dir destination (some content)) ↔
      dir destination ≠ none ∨ service.Storable file := by
  have hok : (service.writeChunks file.ending file.chunks 0 []).1 = .ok n := by rw [hrun]
  by_cases hpos : 0 < n
  · have hstore : service.Storable file := (storable_iff service file).2 ⟨n, hok, hpos⟩
    have hcontent : content = joined file.chunks := by
      simpa [hrun] using writeChunks_content hok
    obtain ⟨-, -, hn, -⟩ := writeChunks_ok_iff.1 hok
    rw [Nat.zero_add] at hn
    rw [productImage, hsize, if_pos hpos]
    refine iff_of_true ⟨?_, hsize.trans hn, ?_⟩ (.inr hstore)
    · rw [hstored, Function.update_self, hcontent]
    · rw [hsize, hn]
      exact hstore.2.2.2
  · have hnotStorable : ¬ service.Storable file := by
      rw [storable_iff]
      rintro ⟨m, hm, hmpos⟩
      cases hok.symm.trans hm
      exact hpos hmpos
    rw [productImage, hsize, if_neg hpos, or_iff_left hnotStorable]
    exact cleanResult_error_iff

/-- The upload once the headers are accepted. -/
theorem cleanResult_store_iff (destination : Text) (image : ℕ → ProductImage)
    (hstored : ∀ n, (image n).storedFilename = destination) (hsize : ∀ n, (image n).sizeBytes = n) :
    service.CleanResult file dir (service.store faults file destination dir image) ↔
      service.Covered faults file dir destination := by
  have hstorable := storable_iff service file
  have hover := writeChunks_fileTooLarge_iff service file.ending file.chunks 0 []
  unfold Covered store streamToDisk
  by_cases hopen : faults.openRaises = true
  · rw [if_pos hopen]
    exact iff_of_true (fun name hnone => hnone) (.inl hopen)
  rw [if_neg hopen, or_iff_right hopen]
  cases hrun : service.writeChunks file.ending file.chunks 0 [] with
  | mk result content =>
  rw [hrun] at hstorable hover
  dsimp only at hstorable hover ⊢
  by_cases hclose : faults.closeRaises = true
  · rw [if_pos hclose]
    simpa only [hclose, not_true, false_and, or_false] using cleanResult_error_iff
  rw [if_neg hclose, and_iff_right hclose]
  cases result with
  | ok n =>
    have hnotOver : ¬ service.Oversized 0 file.chunks := fun h => by simpa using hover.2 h
    rw [or_iff_left (b := _ ∧ _) fun h => hnotOver h.1]
    exact cleanResult_productImage_iff (hstored n) (hsize n) hrun
  | error e =>
    have hnotStorable : ¬ service.Storable file := fun h => by simpa using hstorable.1 h
    rw [or_iff_right (a := service.Storable file) hnotStorable]
    cases e with
    | fileTooLarge message =>
      dsimp only
      by_cases hunlink : faults.unlinkRaises = true
      · rw [if_pos hunlink, or_iff_left fun h => h.2 hunlink]
        exact cleanResult_error_iff
      · rw [if_neg hunlink]
        exact iff_of_true cleanResult_deleted (.inr ⟨hover.1 ⟨message, rfl⟩, hunlink⟩)
    | _ =>
      have hnotOver : ¬ service.Oversized 0 file.chunks := fun h => by simpa using hover.2 h
      rw [or_iff_left fun h => hnotOver h.1]
      exact cleanResult_error_iff

/-- **Exactly which uploads are cleaned up**: those whose headers are refused, and those that are
stored, or exceed the limit before anything else raises.  A read or a write that raises and an
empty upload leave a file behind. -/
theorem cleansUp_iff :
    service.CleansUp faults hex now file dir ↔
      ∀ filename extension contentType,
        validateFilenameAndExtension service.allowedExtensions file.filename =
          .ok (filename, extension) →
        validateMimeType service.allowedMimeTypes file.contentType = .ok contentType →
        service.Covered faults file dir (hex ++ extension) := by
  unfold CleansUp saveUpload
  cases hname : validateFilenameAndExtension service.allowedExtensions file.filename with
  | error e => simp [CleanResult]
  | ok named =>
    obtain ⟨filename, extension⟩ := named
    cases htype : validateMimeType service.allowedMimeTypes file.contentType with
    | error e => simp [CleanResult]
    | ok contentType =>
      refine (cleanResult_store_iff (hex ++ extension) _ (fun _ => rfl) fun _ => rfl).trans
        ⟨?_, fun h => h filename extension contentType rfl rfl⟩
      intro hcovered filename' extension' contentType' hnamed _
      cases hnamed
      exact hcovered

/-- An empty photo. -/
def emptyPhoto : UploadFile := ⟨some "photo.jpg".toList, some "image/jpeg".toList, [], .endOfFile⟩

/-- The service as it is configured by default. -/
def usual : UploadService :=
  ⟨10, [".jpg".toList, ".jpeg".toList, ".png".toList, ".webp".toList],
    ["image/jpeg".toList, "image/png".toList, "image/webp".toList]⟩

theorem empty_photo_remains :
    ¬ usual.CleansUp ⟨false, false, false⟩ "0a".toList 0 emptyPhoto fun _ => none := by
  have hrun : usual.saveUpload ⟨false, false, false⟩ "0a".toList 0 emptyPhoto (fun _ => none) =
      (.error .productImage,
        Function.update (fun _ => none) "0a.jpg".toList (some [])) := by
    rfl
  intro h
  rw [CleansUp, hrun] at h
  have hleft := h "0a.jpg".toList rfl
  rw [Function.update_self] at hleft
  cases hleft

end UploadService

end ProductIntelligence
