import ProductIntelligence.Duplicates.Detection

/-!
# The domain product

What `process_upload` builds of an upload: the description of the stored file and of the
processed image, the two embeddings, and the product that holds them together.  Each model
carries the checks of its fields.

## Main definitions

* `FileMetadata`, `parseFileMetadata` — the stored file.
* `ImageMetadata`, `Embedding` — the processed image, and a vector with its dimension.
* `Product` — the domain model.

## Main results

* `parseFileMetadata_isOk_iff`, `buildEmbedding_eq_ok` — when a model can be built.

## References

`backend/app/utils/metadata.py`, `backend/app/models/image_metadata.py`,
`backend/app/models/embedding.py`, `backend/app/models/text_embedding.py`,
`backend/app/models/product.py`.
-/

namespace ProductIntelligence

variable {ι V ε : Type}

/-! ### The stored file -/

/-- `Path(path).name`: the last part of a path that is neither empty nor a dot. -/
def pathName (path : Text) : Text :=
  (((path.splitOn '/').filter fun part => part ≠ [] ∧ part ≠ ['.']).getLast?).getD []

/-- `Path(path).suffix`: the name from its last dot on, unless that dot starts or ends it. -/
def pathSuffix (path : Text) : Text :=
  let name := pathName path
  let extension := (name.reverse.takeWhile fun c => c ≠ '.').reverse
  if extension ≠ [] ∧ extension.length + 1 < name.length then '.' :: extension else []

example : pathSuffix "shoes/a.tar.PNG".toList = ".PNG".toList := by decide +kernel

/-- Sixty-four lowercase hexadecimal digits. -/
def IsSha256Hex (checksum : Text) : Prop :=
  checksum.length = 64 ∧ ∀ c ∈ checksum, c ∈ "0123456789abcdef".toList

-- characters could also be enumerated, but the list is shorter
instance (checksum : Text) : Decidable (IsSha256Hex checksum) :=
  @instDecidableAnd _ _ _ (List.decidableBAll _ _)

/-- The stored file, as the pipeline describes it. -/
structure FileMetadata where
  originalFilename : Text
  extension : Text
  contentType : Text
  sizeBytes : ℕ
  checksumSha256 : Text
  uploadedAt : Time
  sizeBytes_pos : 0 < sizeBytes
  checksumSha256_hex : IsSha256Hex checksumSha256
  deriving DecidableEq

/-- The fields of `FileMetadata` that fail their checks. -/
def invalidFileFields (sizeBytes : ℕ) (checksum : Text) : List Text :=
  (if 0 < sizeBytes then [] else ["size_bytes".toList]) ++
    if IsSha256Hex checksum then [] else ["checksum_sha256".toList]

/-- `parse_file_metadata`. -/
def parseFileMetadata (image : ProductImage) (checksum : Text) :
    Except (AppException ι ε) FileMetadata :=
  if h : 0 < image.sizeBytes ∧ IsSha256Hex checksum then
    .ok
      { originalFilename := image.originalFilename
        extension := lower (pathSuffix image.originalFilename)
        contentType := image.contentType
        sizeBytes := image.sizeBytes
        checksumSha256 := checksum
        uploadedAt := image.uploadedAt
        sizeBytes_pos := h.1
        checksumSha256_hex := h.2 }
  else .error (.invalidModel (invalidFileFields image.sizeBytes checksum))

theorem parseFileMetadata_isOk_iff (image : ProductImage) (checksum : Text) :
    (∃ metadata, parseFileMetadata image checksum =
      (.ok metadata : Except (AppException ι ε) FileMetadata)) ↔
      0 < image.sizeBytes ∧ IsSha256Hex checksum := by
  unfold parseFileMetadata
  split
  · next h => simp [h]
  · next h => simp [h]

/-- A failed check names at least one field. -/
theorem invalidFileFields_ne_nil {sizeBytes : ℕ} {checksum : Text}
    (h : ¬ (0 < sizeBytes ∧ IsSha256Hex checksum)) : invalidFileFields sizeBytes checksum ≠ [] := by
  unfold invalidFileFields
  by_cases hsize : 0 < sizeBytes
  · rw [if_neg fun hhex : IsSha256Hex checksum => h ⟨hsize, hhex⟩]
    exact List.append_ne_nil_of_right_ne_nil _ (List.cons_ne_nil _ _)
  · rw [if_neg hsize]
    exact List.append_ne_nil_of_left_ne_nil (List.cons_ne_nil _ _) _

/-! ### The processed image and the embeddings -/

/-- The processed image. -/
structure ImageMetadata where
  width : ℕ
  height : ℕ
  format : Text
  colorMode : Text
  originalPath : Text
  processedPath : Text
  width_pos : 0 < width
  height_pos : 0 < height
  deriving DecidableEq

/-- The vector of one product by one model: `ImageEmbedding` and `TextEmbedding` have the same
fields and the same checks. -/
structure Embedding (ι V : Type) where
  productId : ι
  modelName : Text
  embeddingDimension : ℕ
  vector : V
  embeddingDimension_pos : 0 < embeddingDimension
  deriving DecidableEq

/-- An embedding whose dimension is the length of its vector. -/
def buildEmbedding (productId : ι) (modelName : Text) (dimension : ℕ) (vector : V) :
    Except (AppException ι ε) (Embedding ι V) :=
  if h : 0 < dimension then .ok ⟨productId, modelName, dimension, vector, h⟩
  else .error (.invalidModel ["embedding_dimension".toList])

theorem buildEmbedding_eq_ok {productId : ι} {modelName : Text} {dimension : ℕ} {vector : V}
    {embedding : Embedding ι V} :
    buildEmbedding productId modelName dimension vector =
      (.ok embedding : Except (AppException ι ε) (Embedding ι V)) ↔
      ∃ h : 0 < dimension, ⟨productId, modelName, dimension, vector, h⟩ = embedding := by
  unfold buildEmbedding
  split
  · next h => simp [h]
  · next h => simp [h]

/-! ### The product -/

/-- A processed, normalized product. -/
structure Product (ι V : Type) where
  id : ι
  name : Text
  brand : Option Text
  description : Option Text
  category : Option Text
  price : Option ℚ
  fileMetadata : FileMetadata
  imageMetadata : ImageMetadata
  embedding : Embedding ι V
  textEmbedding : Embedding ι V
  catalogIntelligence : CatalogIntelligenceResult
  duplicateDecision : DuplicateDecision ι
  deriving DecidableEq

end ProductIntelligence
