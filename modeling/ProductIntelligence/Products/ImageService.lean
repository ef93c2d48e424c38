import ProductIntelligence.Products.Lookup
import ProductIntelligence.Products.Product
import ProductIntelligence.Text.Paths

/-!
# Serving product images

The image of a product is found under the file name that its payload stores: the processed image
under a name derived from it, or else the upload itself, or a thumbnail made on demand.  Any string
may stand in the payload, so each path is checked to lead below its folder before it is read.

What the operating system and the imaging library do is a parameter.  A name that holds the null
character is refused by the operating system before any path is looked at.

## Main definitions

* `ProductImageService.resolve` — the image of a product.
* `StaysInside` — no image is found, or it lies in one of the folders.
* `IsServable` — no name that is looked at holds a null character, and no call fails.

## Main results

* `inside_processedPath` — a derived name leads below the folder, whatever it is derived from.
* `inFolders_of_resolve` — **no path outside the folders is served**.
* `staysInside_iff` — **when the lookup ends in an image or in the error for a missing one**.
* `resolve_null_name` — a file name that ends it in another error.

## References

`backend/app/services/product_image_service.py`, `backend/app/utils/image.py`.
-/

namespace ProductIntelligence

variable {ι σ ε : Type}

/-! ### File names -/

/-- `Path(path).stem`: the name without its suffix. -/
def pathStem (path : Text) : Text :=
  (pathName path).take ((pathName path).length - (pathSuffix path).length)

/-- `generate_processed_filename`. -/
def generateProcessedFilename (storedFilename : Text) : Text :=
  pathStem storedFilename ++ ".jpg".toList

example : generateProcessedFilename "/tmp/../a.tar.gz".toList = "a.tar.jpg".toList := by
  decide +kernel

/-- `_media_type_for`. -/
def mediaTypeFor (path : PosixPath) : Text :=
  match (Keyed.lookup Prod.fst (lower (pathSuffix path.name))
    [(".jpg".toList, "image/jpeg".toList), (".jpeg".toList, "image/jpeg".toList),
      (".png".toList, "image/png".toList), (".webp".toList, "image/webp".toList)]) with
  | some (_, mediaType) => mediaType
  | none => "application/octet-stream".toList

/-! ### The service -/

/-- The calls to the operating system and to the imaging library. -/
structure System (σ ε : Type) where
  isFile : σ → PosixPath → Except ε Bool
  makeFolder : σ → PosixPath → Except ε σ
  saveThumbnail : σ → PosixPath → PosixPath → Except ε σ

/-- `ProductImageNotFoundError`. -/
inductive MissingImage (ι : Type)
  /-- Product … has no stored image. -/
  | noReference (productId : ι)
  /-- Product … references image …, but no file for it exists in storage. -/
  | noFile (productId : ι) (filename : Text)
  deriving DecidableEq

/-- What a lookup of an image may raise. -/
inductive ImageError (ι ε : Type)
  | notFound (missing : MissingImage ι)
  | nullCharacter
  | system (e : ε)
  deriving DecidableEq

/-- An image on disk, ready to serve. -/
structure ResolvedImage where
  path : PosixPath
  mediaType : Text
  cacheControl : Text := "public, max-age=31536000, immutable".toList

/-- The service: the stored payloads, the folders and the calls. -/
structure ProductImageService (ι σ ε : Type) extends ProductLookupService ι where
  system : System σ ε
  cwd : PosixPath
  uploadDir : PosixPath
  processedDir : PosixPath
  thumbnailDir : PosixPath

namespace ProductImageService

variable (service : ProductImageService ι σ ε)

/-- `_image_filename`: a string that is not blank. -/
def imageFilename (productId : ι) : Option Text :=
  (service.payload productId).bind fun metadata => asStr (metadata.get "image_filename")

/-- `Path.resolve`. -/
def resolvePath (path : PosixPath) : Except (ImageError ι ε) PosixPath :=
  if path.HasNull then .error .nullCharacter else .ok (path.resolve service.cwd)

/-- `_safe_path`: the file name under the folder, unless it leads elsewhere. -/
def safePath (root : PosixPath) (filename : Text) : Except (ImageError ι ε) (Option PosixPath) := do
  let candidate ← service.resolvePath (root.join (.ofText filename))
  let resolvedRoot ← service.resolvePath root
  pure (if resolvedRoot.parts <+: candidate.parts then some candidate else none)

/-- Whether there is a path, and it is one of a file. -/
def isFile (state : σ) : Option PosixPath → Except (ImageError ι ε) Bool
  | none => .ok false
  | some path => (service.system.isFile state path).mapError .system

/-- `_thumbnail`: the thumbnail of a processed image, made if there is none. -/
def thumbnail (state : σ) (processed : PosixPath) : Except (ImageError ι ε) (PosixPath × σ) := do
  let state ← (service.system.makeFolder state service.thumbnailDir).mapError .system
  let cached := service.thumbnailDir.join (.ofText processed.name)
  if ← (service.system.isFile state cached).mapError .system then
    pure (cached, state)
  else
    let state ← (service.system.saveThumbnail state processed cached).mapError .system
    pure (cached, state)

/-- `resolve`: the image of a product. -/
def resolve (productId : ι) (thumbnail : Bool) (state : σ) :
    Except (ImageError ι ε) (ResolvedImage × σ) :=
  match service.imageFilename productId with
  | none => .error (.notFound (.noReference productId))
  | some filename => do
    let processed ← service.safePath service.processedDir (generateProcessedFilename filename)
    let present ← service.isFile state processed
    match processed, present with
    | some processed, true =>
      if thumbnail then do
        let (path, state) ← service.thumbnail state processed
        pure ({ path, mediaType := "image/jpeg".toList }, state)
      else
        pure ({ path := processed, mediaType := "image/jpeg".toList }, state)
    | _, _ =>
      let original ← service.safePath service.uploadDir filename
      let present ← service.isFile state original
      match original, present with
      | some original, true => pure ({ path := original, mediaType := mediaTypeFor original }, state)
      | _, _ => .error (.notFound (.noFile productId filename))

/-! ### Derived names -/

/-- Where the processed image of a file lies. -/
def processedPath (filename : Text) : PosixPath :=
  (service.processedDir.join (.ofText (generateProcessedFilename filename))).resolve service.cwd

/-- Where a file name leads from the upload folder. -/
def originalPath (filename : Text) : PosixPath :=
  (service.uploadDir.join (.ofText filename)).resolve service.cwd

/-- Where the thumbnail of a file lies. -/
def thumbnailPath (filename : Text) : PosixPath :=
  service.thumbnailDir.join (.ofText (generateProcessedFilename filename))

/-- A name holds no separator. -/
theorem slash_not_mem_pathName (path : Text) : '/' ∉ pathName path := by
  have hname : pathName path = (PosixPath.ofText path).name := rfl
  rw [hname, PosixPath.name]
  cases hlast : (PosixPath.ofText path).parts.getLast? with
  | none => exact List.not_mem_nil
  | some part => exact (PosixPath.of_mem_parts_ofText (List.mem_of_getLast? hlast)).2.2

/-- **A derived name is a single name**, and no reference to the parent. -/
theorem ofText_generateProcessedFilename (filename : Text) :
    PosixPath.ofText (generateProcessedFilename filename) =
        ⟨false, [generateProcessedFilename filename]⟩ ∧
      generateProcessedFilename filename ≠ PosixPath.parent := by
  have hlength : 4 ≤ (generateProcessedFilename filename).length := by
    rw [generateProcessedFilename, List.length_append]
    exact Nat.le_add_left _ _
  have hslash : '/' ∉ generateProcessedFilename filename := by
    rw [generateProcessedFilename, List.mem_append, not_or]
    exact ⟨fun h => slash_not_mem_pathName filename (List.mem_of_mem_take h), by decide⟩
  refine ⟨PosixPath.ofText_of_name ?_ ?_ hslash, ?_⟩
  · intro hempty
    rw [hempty] at hlength
    simp at hlength
  · intro hdot
    rw [hdot] at hlength
    simp at hlength
  · intro hparent
    rw [hparent] at hlength
    simp [PosixPath.parent] at hlength

/-- A derived name leads below the folder, whatever it is derived from. -/
theorem inside_processedPath (filename : Text) :
    PosixPath.Inside service.cwd service.processedDir (service.processedPath filename) := by
  obtain ⟨hsingle, hparent⟩ := ofText_generateProcessedFilename filename
  rw [processedPath, PosixPath.inside_resolve_iff, hsingle]
  exact PosixPath.inside_join_name hparent

theorem inside_thumbnailPath (filename : Text) :
    PosixPath.Inside service.cwd service.thumbnailDir (service.thumbnailPath filename) := by
  obtain ⟨hsingle, hparent⟩ := ofText_generateProcessedFilename filename
  rw [thumbnailPath, hsingle]
  exact PosixPath.inside_join_name hparent

/-- The processed image keeps its name. -/
theorem name_processedPath (filename : Text) :
    (service.processedPath filename).name = generateProcessedFilename filename := by
  obtain ⟨hsingle, hparent⟩ := ofText_generateProcessedFilename filename
  rw [processedPath, hsingle, PosixPath.resolve_join_name hparent, PosixPath.name,
    List.getLast?_concat]
  rfl

/-! ### Single steps -/

/-- A path under a folder is refused for a null character, and is none where it leads elsewhere. -/
theorem safePath_eq (root : PosixPath) (filename : Text) :
    service.safePath root filename =
      if root.HasNull ∨ (PosixPath.ofText filename).HasNull then .error .nullCharacter
      else .ok (if (root.resolve service.cwd).parts <+:
          ((root.join (.ofText filename)).resolve service.cwd).parts then
        some ((root.join (.ofText filename)).resolve service.cwd) else none) := by
  have hor := @PosixPath.hasNull_join_or root (.ofText filename)
  unfold safePath resolvePath
  by_cases hjoin : (root.join (.ofText filename)).HasNull
  · rw [if_pos (hor.1 (Or.inl hjoin)), if_pos hjoin]
    rfl
  · by_cases hroot : root.HasNull
    · rw [if_pos (hor.1 (Or.inr hroot)), if_neg hjoin, if_pos hroot]
      rfl
    · rw [if_neg fun h => (hor.2 h).elim hjoin hroot, if_neg hjoin, if_neg hroot]
      rfl

/-- A processed image is refused for a null character only. -/
theorem safePath_processed (filename : Text) :
    service.safePath service.processedDir (generateProcessedFilename filename) =
      if service.processedDir.HasNull ∨
        (PosixPath.ofText (generateProcessedFilename filename)).HasNull then .error .nullCharacter
      else .ok (some (service.processedPath filename)) := by
  have hinside : (service.processedDir.resolve service.cwd).parts <+:
      ((service.processedDir.join (.ofText (generateProcessedFilename filename))).resolve
        service.cwd).parts :=
    (PosixPath.inside_resolve_iff.1 (service.inside_processedPath filename)).1
  rw [safePath_eq, if_pos hinside]
  rfl

/-- An upload is refused for a null character, and is none where its name leads elsewhere. -/
theorem safePath_upload (filename : Text) : service.safePath service.uploadDir filename =
    if service.uploadDir.HasNull ∨ (PosixPath.ofText filename).HasNull then .error .nullCharacter
    else .ok (if (service.uploadDir.resolve service.cwd).parts <+:
        (service.originalPath filename).parts then
      some (service.originalPath filename) else none) :=
  service.safePath_eq _ _

section Thumbnail

variable {service} {state : σ} {filename : Text}

/-- Making a thumbnail: no call fails. -/
def MakesThumbnail (service : ProductImageService ι σ ε) (state : σ) (filename : Text) : Prop :=
  ∃ state', service.system.makeFolder state service.thumbnailDir = .ok state' ∧
    ∃ present, service.system.isFile state' (service.thumbnailPath filename) = .ok present ∧
      (present = false → ∃ state'', service.system.saveThumbnail state'
        (service.processedPath filename) (service.thumbnailPath filename) = .ok state'')

/-- A thumbnail is made, under its own path, exactly if no call fails. -/
theorem thumbnail_eq_ok_iff {path : PosixPath} :
    (∃ state', service.thumbnail state (service.processedPath filename) = .ok (path, state')) ↔
      service.MakesThumbnail state filename ∧ path = service.thumbnailPath filename := by
  unfold MakesThumbnail thumbnail
  simp only [Except.bind_eq_ok, Except.mapError_eq_ok, name_processedPath]
  constructor
  · rintro ⟨state'', state', hfolder, present, hpresent, h⟩
    cases present with
    | true =>
      cases h
      exact ⟨⟨_, hfolder, true, hpresent, nofun⟩, rfl⟩
    | false =>
      obtain ⟨saved, hsaved, h⟩ := Except.bind_eq_ok.1 h
      cases h
      exact ⟨⟨state', hfolder, false, hpresent, fun _ => ⟨_, Except.mapError_eq_ok.1 hsaved⟩⟩, rfl⟩
  · rintro ⟨⟨state', hfolder, present, hpresent, hsave⟩, rfl⟩
    cases present with
    | true => exact ⟨state', state', hfolder, true, hpresent, rfl⟩
    | false =>
      obtain ⟨state'', hsave⟩ := hsave rfl
      exact ⟨state'', state', hfolder, false, hpresent,
        Except.bind_eq_ok.2 ⟨_, Except.mapError_eq_ok.2 hsave, rfl⟩⟩

/-- What ends the making of a thumbnail is a call that fails. -/
theorem thumbnail_ne_notFound {processed : PosixPath} (missing : MissingImage ι) :
    service.thumbnail state processed ≠ .error (.notFound missing) := by
  have hsystem : ∀ {α : Type} (m : Except ε α),
      (m.mapError .system : Except (ImageError ι ε) α) ≠ .error (.notFound missing) := by
    intro α m h
    cases m <;> cases h
  intro h
  rcases Except.bind_eq_error.1 h with h | ⟨state', -, h⟩
  · exact hsystem _ h
  rcases Except.bind_eq_error.1 h with h | ⟨present, -, h⟩
  · exact hsystem _ h
  cases present with
  | true => cases h
  | false =>
    rcases Except.bind_eq_error.1 h with h | ⟨state'', -, h⟩
    · exact hsystem _ h
    · cases h

end Thumbnail

/-! ### The lookup -/

/-- The upload can be looked for: neither the folder nor the file name holds a null character, and
where the name leads into the folder, that can be looked at. -/
def ReadsOriginal (state : σ) (filename : Text) : Prop :=
  ¬ (service.uploadDir.HasNull ∨ (PosixPath.ofText filename).HasNull) ∧
    ((service.uploadDir.resolve service.cwd).parts <+: (service.originalPath filename).parts →
      ∃ present, service.system.isFile state (service.originalPath filename) = .ok present)

/-- The image under a file name can be looked for: no name that is looked at holds a null character,
and no call that is made fails. -/
structure IsServable (state : σ) (thumbnail : Bool) (filename : Text) : Prop where
  noNull : ¬ (service.processedDir.HasNull ∨
    (PosixPath.ofText (generateProcessedFilename filename)).HasNull)
  processed : ∃ present,
    service.system.isFile state (service.processedPath filename) = .ok present
  thumbnail : service.system.isFile state (service.processedPath filename) = .ok true →
    thumbnail = true → service.MakesThumbnail state filename
  original : service.system.isFile state (service.processedPath filename) = .ok false →
    service.ReadsOriginal state filename

/-- The path lies below the folder of processed images or that of thumbnails, or it is a file of the
upload folder.  A folder is no file, so the file lies below it. -/
def InFolders (state : σ) (path : PosixPath) : Prop :=
  PosixPath.Inside service.cwd service.processedDir path ∨
    PosixPath.Inside service.cwd service.thumbnailDir path ∨
    (service.uploadDir.resolve service.cwd).parts <+: (path.resolve service.cwd).parts ∧
      service.system.isFile state path = .ok true

/-- The lookup of an image finds none, or one in the folders. -/
def StaysInside (productId : ι) (thumbnail : Bool) (state : σ) : Prop :=
  (∃ missing, service.resolve productId thumbnail state = .error (.notFound missing)) ∨
    ∃ image state', service.resolve productId thumbnail state = .ok (image, state') ∧
      service.InFolders state image.path

variable {service} {productId : ι} {thumbnail : Bool} {state : σ} {filename : Text}

/-- Looking for the upload, after the processed image was not found. -/
def resolveOriginal (service : ProductImageService ι σ ε) (productId : ι) (state : σ)
    (filename : Text) : Except (ImageError ι ε) (ResolvedImage × σ) := do
  let original ← service.safePath service.uploadDir filename
  let present ← service.isFile state original
  match original, present with
  | some original, true => pure ({ path := original, mediaType := mediaTypeFor original }, state)
  | _, _ => .error (.notFound (.noFile productId filename))

/-- A null character in the name of the processed image ends the lookup. -/
theorem resolve_eq_of_null (h : service.imageFilename productId = some filename)
    (hnull : service.processedDir.HasNull ∨
      (PosixPath.ofText (generateProcessedFilename filename)).HasNull) :
    service.resolve productId thumbnail state = .error .nullCharacter := by
  rw [resolve, h]
  dsimp only
  rw [safePath_processed, if_pos hnull]
  rfl

/-- The lookup, after the name of the processed image. -/
theorem resolve_eq (h : service.imageFilename productId = some filename)
    (hnull : ¬ (service.processedDir.HasNull ∨
      (PosixPath.ofText (generateProcessedFilename filename)).HasNull)) :
    service.resolve productId thumbnail state =
      match service.system.isFile state (service.processedPath filename) with
      | .error e => .error (.system e)
      | .ok false => service.resolveOriginal productId state filename
      | .ok true =>
        if thumbnail then do
          let (path, state) ← service.thumbnail state (service.processedPath filename)
          pure ({ path, mediaType := "image/jpeg".toList }, state)
        else
          .ok ({ path := service.processedPath filename, mediaType := "image/jpeg".toList },
            state) := by
  unfold resolve
  rw [h]
  dsimp only
  rw [safePath_processed, if_neg hnull]
  simp only [bind, Except.bind, isFile]
  cases service.system.isFile state (service.processedPath filename) with
  | error e => rfl
  | ok present => cases present <;> rfl

/-- Looking for the upload finds it or not, exactly if it can be looked for. -/
theorem resolveOriginal_iff :
    ((∃ missing, service.resolveOriginal productId state filename = .error (.notFound missing)) ∨
      ∃ served, service.resolveOriginal productId state filename = .ok served) ↔
      service.ReadsOriginal state filename := by
  unfold resolveOriginal ReadsOriginal
  rw [safePath_upload]
  by_cases hnull : service.uploadDir.HasNull ∨ (PosixPath.ofText filename).HasNull
  · rw [if_pos hnull]
    refine iff_of_false ?_ fun h => h.1 hnull
    rintro (⟨missing, h⟩ | ⟨served, h⟩) <;> cases h
  rw [if_neg hnull]
  by_cases hprefix : (service.uploadDir.resolve service.cwd).parts <+:
      (service.originalPath filename).parts
  · rw [if_pos hprefix]
    simp only [bind, Except.bind, isFile]
    cases service.system.isFile state (service.originalPath filename) with
    | error e =>
      refine iff_of_false ?_ fun h => ?_
      · rintro (⟨missing, h⟩ | ⟨served, h⟩) <;> cases h
      · obtain ⟨present, h⟩ := h.2 hprefix
        cases h
    | ok present =>
      refine iff_of_true ?_ ⟨hnull, fun _ => ⟨present, rfl⟩⟩
      cases present with
      | false => exact .inl ⟨_, rfl⟩
      | true => exact .inr ⟨_, rfl⟩
  · rw [if_neg hprefix]
    exact iff_of_true (.inl ⟨_, rfl⟩) ⟨hnull, fun h => absurd h hprefix⟩

/-- Making a thumbnail ends in an image, exactly if no call fails. -/
theorem serveThumbnail_iff {serve : PosixPath × σ → ResolvedImage × σ} :
    ((∃ missing, (service.thumbnail state (service.processedPath filename) >>= fun made =>
        pure (serve made)) = .error (.notFound missing)) ∨
      ∃ served, (service.thumbnail state (service.processedPath filename) >>= fun made =>
        pure (serve made)) = .ok served) ↔ service.MakesThumbnail state filename := by
  constructor
  · rintro (⟨missing, h⟩ | ⟨served, h⟩)
    · rcases Except.bind_eq_error.1 h with h | ⟨made, -, h⟩
      · exact absurd h (thumbnail_ne_notFound missing)
      · cases h
    · obtain ⟨made, hmade, -⟩ := Except.bind_eq_ok.1 h
      exact (thumbnail_eq_ok_iff.1 ⟨made.2, hmade⟩).1
  · intro h
    obtain ⟨state', hmade⟩ := thumbnail_eq_ok_iff.2 ⟨h, rfl⟩
    exact .inr ⟨_, Except.bind_eq_ok.2 ⟨_, hmade, rfl⟩⟩

/-- An upload that is served is a file of the upload folder. -/
theorem inFolders_of_resolveOriginal {served : ResolvedImage × σ}
    (h : service.resolveOriginal productId state filename = .ok served) :
    service.InFolders state served.1.path := by
  obtain ⟨original, hsafe, h⟩ := Except.bind_eq_ok.1 h
  obtain ⟨present, hpresent, h⟩ := Except.bind_eq_ok.1 h
  rw [safePath_upload] at hsafe
  split_ifs at hsafe with hnull hprefix
  · cases hsafe
    cases present with
    | false => cases h
    | true =>
      cases h
      refine .inr (.inr ⟨?_, Except.mapError_eq_ok.1 hpresent⟩)
      rw [originalPath, PosixPath.resolve_resolve]
      exact hprefix
  · cases hsafe
    cases h

/-- **No path outside the folders is served**, whatever fails. -/
theorem inFolders_of_resolve {served : ResolvedImage × σ}
    (h : service.resolve productId thumbnail state = .ok served) :
    service.InFolders state served.1.path := by
  cases hname : service.imageFilename productId with
  | none =>
    rw [resolve, hname] at h
    cases h
  | some filename =>
    by_cases hnull : service.processedDir.HasNull ∨
        (PosixPath.ofText (generateProcessedFilename filename)).HasNull
    · rw [resolve_eq_of_null hname hnull] at h
      cases h
    rw [resolve_eq hname hnull] at h
    cases hpresent : service.system.isFile state (service.processedPath filename) with
    | error e =>
      rw [hpresent] at h
      cases h
    | ok present =>
      rw [hpresent] at h
      cases present with
      | false => exact inFolders_of_resolveOriginal h
      | true =>
        cases thumbnail with
        | false =>
          cases h
          exact .inl (service.inside_processedPath filename)
        | true =>
          obtain ⟨made, hmade, h⟩ := Except.bind_eq_ok.1 h
          cases h
          have hpath := (thumbnail_eq_ok_iff.1 ⟨made.2, hmade⟩).2
          exact .inr (.inl (hpath ▸ service.inside_thumbnailPath filename))

/-- **The lookup of an image ends in one of the folders or in the error for a missing image**
exactly if the image under the stored file name can be looked for. -/
theorem staysInside_iff (service : ProductImageService ι σ ε) (productId : ι) (thumbnail : Bool)
    (state : σ) : service.StaysInside productId thumbnail state ↔
      ∀ filename, service.imageFilename productId = some filename →
        service.IsServable state thumbnail filename := by
  have hsafe : service.StaysInside productId thumbnail state ↔
      (∃ missing, service.resolve productId thumbnail state = .error (.notFound missing)) ∨
        ∃ served, service.resolve productId thumbnail state = .ok served :=
    or_congr_right ⟨fun ⟨image, state', h, _⟩ => ⟨(image, state'), h⟩,
      fun ⟨served, h⟩ => ⟨served.1, served.2, h, inFolders_of_resolve h⟩⟩
  rw [hsafe]
  cases hname : service.imageFilename productId with
  | none =>
    refine iff_of_true (.inl ⟨.noReference productId, ?_⟩) nofun
    rw [resolve, hname]
  | some filename =>
    simp only [Option.some_inj, forall_eq']
    by_cases hnull : service.processedDir.HasNull ∨
        (PosixPath.ofText (generateProcessedFilename filename)).HasNull
    · rw [resolve_eq_of_null hname hnull]
      refine iff_of_false ?_ fun h => h.noNull hnull
      rintro (⟨missing, h⟩ | ⟨served, h⟩) <;> cases h
    rw [resolve_eq hname hnull]
    cases hpresent : service.system.isFile state (service.processedPath filename) with
    | error e =>
      refine iff_of_false ?_ fun h => ?_
      · rintro (⟨missing, h⟩ | ⟨served, h⟩) <;> cases h
      · obtain ⟨present, h⟩ := h.processed
        cases hpresent.symm.trans h
    | ok present =>
      cases present with
      | false =>
        rw [resolveOriginal_iff]
        refine ⟨fun h => ⟨hnull, ⟨_, hpresent⟩, fun h => ?_, fun _ => h⟩,
          fun h => h.original hpresent⟩
        cases hpresent.symm.trans h
      | true =>
        have hnot : service.system.isFile state (service.processedPath filename) ≠ .ok false := by
          rw [hpresent]
          nofun
        cases thumbnail with
        | false =>
          exact iff_of_true (.inr ⟨_, rfl⟩)
            ⟨hnull, ⟨_, hpresent⟩, fun _ => nofun, fun h => absurd h hnot⟩
        | true =>
          refine serveThumbnail_iff.trans ⟨fun h => ?_, fun h => h.thumbnail hpresent rfl⟩
          exact ⟨hnull, ⟨_, hpresent⟩, fun _ _ => h, fun h => absurd h hnot⟩

end ProductImageService

/-- A service whose folders hold no file, and whose only product is stored under a file name with a
null character. -/
def nullNameService : ProductImageService ℕ Unit Unit where
  retrieveImage _ := none
  retrieveText _ := some [("image_filename".toList, .str ['a', Char.ofNat 0])]
  system :=
    { isFile := fun _ _ => .ok false
      makeFolder := fun _ _ => .ok ()
      saveThumbnail := fun _ _ _ => .ok () }
  cwd := .ofText "/".toList
  uploadDir := .ofText "/storage/uploads".toList
  processedDir := .ofText "/storage/processed".toList
  thumbnailDir := .ofText "/storage/processed/thumbnails".toList

/-- A null character in a file name ends the lookup in an error of its own. -/
theorem resolve_null_name : ¬ nullNameService.StaysInside 1 false () := by
  have hrun : nullNameService.resolve 1 false () = .error .nullCharacter :=
    ProductImageService.resolve_eq_of_null rfl (.inr (by decide +kernel))
  rintro (⟨missing, h⟩ | ⟨image, state', h, -⟩)
  · cases hrun.symm.trans h
  · cases hrun.symm.trans h

end ProductIntelligence
