import Mathlib.Data.PNat.Defs
import ProductIntelligence.Lists.Batches
import ProductIntelligence.Lists.Keyed
import ProductIntelligence.Search.Reranker
import ProductIntelligence.Text.Paths
import ProductIntelligence.Text.Unicode

/-!
# Batched inference

The cross-encoder scores pairs of texts, and the two embedding services encode texts and images,
in batches of a configured size.  Each gets its model from a manager that loads it when it is first
asked for and keeps it.

What a model computes, how it is loaded and how an image file is decoded is a parameter, and so are
the numbers.  The size of a batch is positive, as the settings demand.  Left out are the log, the
metrics, the device that a model is placed on, and the warm-up of a cross-encoder, whose outcome is
thrown away.

## Main definitions

* `ModelManager`, `ModelManager.getModel` — the models loaded so far, and the one under a name.
* `CrossEncoderService.scorePairs` — the scores of pairs.
* `SentenceTransformerEmbeddingService.embedBatch`, `embedText` — the vectors of texts.
* `CLIPEmbeddingService.generateEmbeddings`, `generateEmbedding` — the vectors of images.

## Main results

* `getModel_fst` — what is loaded already makes no difference.
* `elementwise_inChunks` — a call on many inputs amounts to calls on each.
* `exists_crossEncoder` — what the reranker takes a cross-encoder to be.
* `batching_invisible` — **the three services handle each input as if it were alone**.

## References

`backend/app/services/cross_encoder_service.py`,
`backend/app/services/model_manager_cross_encoder.py`, and of `backend/app/services/embeddings`
`sentence_transformer_service.py`, `clip_service.py`, `model_manager.py`, `text_model_manager.py`.
-/

namespace ProductIntelligence

open Batches

variable {κ Loaded α β : Type}

/-! ### Models that are loaded once -/

/-- A model manager, with the models that its loader has yielded so far, by name. -/
structure ModelManager (load : Text → Except κ Loaded) where
  models : List (Text × Loaded)
  loaded : ∀ model ∈ models, load model.1 = .ok model.2

variable {load : Text → Except κ Loaded}

/-- A manager that has loaded nothing. -/
def ModelManager.new : ModelManager load := ⟨[], fun _ h => by cases h⟩

/-- `self._models[model_name] = …`: keep a model that was just loaded. -/
def ModelManager.keep (manager : ModelManager load) {modelName : Text} {model : Loaded}
    (h : load modelName = .ok model) : ModelManager load where
  models := manager.models ++ [(modelName, model)]
  loaded cached hcached := by
    rcases List.mem_append.1 hcached with hold | hnew
    · exact manager.loaded cached hold
    · rw [List.mem_singleton.1 hnew]
      exact h

/-- `get_model`: what the loader raises is not caught, and nothing is kept then. -/
def ModelManager.getModel (manager : ModelManager load) (modelName : Text) :
    Except κ Loaded × ModelManager load :=
  match Keyed.lookup Prod.fst modelName manager.models with
  | some cached => (.ok cached.2, manager)
  | none =>
    match h : load modelName with
    | .error e => (.error e, manager)
    | .ok model => (.ok model, manager.keep h)

/-- **What is loaded already makes no difference**: a manager hands out what its loader yields. -/
theorem getModel_fst (manager : ModelManager load) (modelName : Text) :
    (manager.getModel modelName).1 = load modelName := by
  unfold ModelManager.getModel
  cases hcached : Keyed.lookup Prod.fst modelName manager.models with
  | some cached =>
    have hname : cached.1 = modelName := by simpa using List.find?_some hcached
    have hload := manager.loaded cached (List.mem_of_find?_eq_some hcached)
    rw [hname] at hload
    exact hload.symm
  | none =>
    dsimp only
    split
    · next e h => exact h.symm
    · next model h => exact h.symm

/-! ### Calls in chunks -/

/-- What an inference call can raise. -/
inductive InferenceException (κ : Type)
  /-- `RerankException`. -/
  | rerank (message : Text)
  /-- `TextEmbeddingException`. -/
  | textEmbedding (message : Text)
  /-- `EmbeddingGenerationException`. -/
  | embeddingGeneration (message : Text)
  /-- `IndexError`. -/
  | index
  /-- What loading a model raises. -/
  | other (error : κ)
  deriving DecidableEq

/-- Get the model and use it on a batch. -/
def withModel (modelName : Text) (use : Loaded → List α → Except (InferenceException κ) (List β))
    (batch : List α) (manager : ModelManager load) :
    Except (InferenceException κ) (List β) × ModelManager load :=
  match manager.getModel modelName with
  | (.error e, manager) => (.error (.other e), manager)
  | (.ok model, manager) => (use model batch, manager)

/-- Nothing for no inputs, and otherwise their outputs, batch by batch. -/
def inChunks (batchSize : ℕ+)
    (run : List α → ModelManager load → Except (InferenceException κ) (List β) × ModelManager load)
    (inputs : List α) (manager : ModelManager load) :
    Except (InferenceException κ) (List β) × ModelManager load :=
  if inputs.isEmpty then (.ok [], manager) else inBatches run batchSize inputs manager

/-- `outputs[0]`. -/
def firstOutput : Except (InferenceException κ) (List β) × ModelManager load →
    Except (InferenceException κ) β × ModelManager load
  | (.ok (output :: _), manager) => (.ok output, manager)
  | (.ok [], manager) => (.error .index, manager)
  | (.error e, manager) => (.error e, manager)

/-! ### Scores of pairs -/

/-- A cross-encoder: `predict` of pairs and the size of a batch. -/
structure CrossEncoderModel (κ Raw : Type) where
  predict : List (Text × Text) → ℕ → Except κ (List Raw)

/-- `CrossEncoderService`: the name of its model and the size of its batches. -/
structure CrossEncoderService where
  modelName : Text
  batchSize : ℕ+

namespace CrossEncoderService

variable {Raw φ : Type} (service : CrossEncoderService)
  {loadCrossEncoder : Text → Except κ (CrossEncoderModel κ Raw)} (float : Raw → φ)

/-- `_predict_batch`, with the model. -/
def predictWith (model : CrossEncoderModel κ Raw) (pairs : List (Text × Text)) :
    Except (InferenceException κ) (List φ) := do
  let rawScores ← (model.predict pairs pairs.length).mapError fun _ =>
    .rerank "Cross-encoder inference failed while scoring pairs.".toList
  .ok (rawScores.map float)

/-- `score_pairs`. -/
def scorePairs (pairs : List (Text × Text)) (manager : ModelManager loadCrossEncoder) :
    Except (InferenceException κ) (List φ) × ModelManager loadCrossEncoder :=
  inChunks service.batchSize (withModel service.modelName (predictWith float)) pairs manager

end CrossEncoderService

/-! ### Vectors of texts -/

/-- A sentence transformer: `encode` of texts, the size of a batch, and whether the vectors are
normalized. -/
structure SentenceTransformer (κ φ : Type) where
  encode : List Text → ℕ → Bool → Except κ (List (List φ))

/-- `SentenceTransformerEmbeddingService`. -/
structure SentenceTransformerEmbeddingService where
  modelName : Text
  batchSize : ℕ+
  normalize : Bool

namespace SentenceTransformerEmbeddingService

variable {φ : Type} (service : SentenceTransformerEmbeddingService)
  {loadText : Text → Except κ (SentenceTransformer κ φ)}

/-- `_encode_batch`, with the model. -/
def encodeWith (model : SentenceTransformer κ φ) (texts : List Text) :
    Except (InferenceException κ) (List (List φ)) :=
  (model.encode texts texts.length service.normalize).mapError fun _ =>
    .textEmbedding "Model inference failed while generating text embeddings.".toList

/-- `embed_batch`. -/
def embedBatch (texts : List Text) (manager : ModelManager loadText) :
    Except (InferenceException κ) (List (List φ)) × ModelManager loadText :=
  inChunks service.batchSize (withModel service.modelName service.encodeWith) texts manager

/-- `embed_text`. -/
def embedText (text : Text) (manager : ModelManager loadText) :
    Except (InferenceException κ) (List φ) × ModelManager loadText :=
  firstOutput (service.embedBatch [text] manager)

end SentenceTransformerEmbeddingService

/-! ### Vectors of images -/

/-- A CLIP model: the pooled features of prepared images. -/
structure CLIPModel (κ Input φ : Type) where
  getImageFeatures : List Input → Except κ (List (List φ))

/-- A CLIP processor: it prepares decoded images. -/
structure CLIPProcessor (κ Image Input : Type) where
  process : List Image → Except κ (List Input)

/-- `CLIPEmbeddingService`. -/
structure CLIPEmbeddingService where
  modelName : Text
  batchSize : ℕ+

section Clip

variable {Image Input φ : Type} (loadModel : Text → Except κ (CLIPModel κ Input φ))
  (loadProcessor : Text → Except κ (CLIPProcessor κ Image Input))

/-- What the manager of CLIP loads: a model, and then its processor. -/
def loadClip (modelName : Text) : Except κ (CLIPModel κ Input φ × CLIPProcessor κ Image Input) := do
  let model ← loadModel modelName
  let processor ← loadProcessor modelName
  .ok (model, processor)

variable {loadModel loadProcessor}

theorem loadClip_eq_ok {modelName : Text}
    {loaded : CLIPModel κ Input φ × CLIPProcessor κ Image Input} :
    loadClip loadModel loadProcessor modelName = .ok loaded ↔
      loadModel modelName = .ok loaded.1 ∧ loadProcessor modelName = .ok loaded.2 := by
  unfold loadClip
  rw [Except.bind_eq_ok]
  constructor
  · rintro ⟨model, hmodel, h⟩
    obtain ⟨processor, hprocessor, h⟩ := Except.bind_eq_ok.1 h
    cases h
    exact ⟨hmodel, hprocessor⟩
  · rintro ⟨hmodel, hprocessor⟩
    exact ⟨loaded.1, hmodel, Except.bind_eq_ok.2 ⟨loaded.2, hprocessor, rfl⟩⟩

end Clip

namespace CLIPEmbeddingService

variable {Image Input φ : Type} (service : CLIPEmbeddingService)
  {loadImage : Text → Except κ (CLIPModel κ Input φ × CLIPProcessor κ Image Input)}
  (openImage : PosixPath → Except κ Image) [Div φ] (norm : List φ → φ)

/-- The normalized features of decoded images. -/
def features (model : CLIPModel κ Input φ) (processor : CLIPProcessor κ Image Input)
    (images : List Image) : Except κ (List (List φ)) := do
  let inputs ← processor.process images
  let imageFeatures ← model.getImageFeatures inputs
  .ok (imageFeatures.map fun row => row.map (· / norm row))

/-- `_encode_batch`, with the model and its processor: all images are opened first. -/
def encodeWith (loaded : CLIPModel κ Input φ × CLIPProcessor κ Image Input)
    (imagePaths : List PosixPath) : Except (InferenceException κ) (List (List φ)) := do
  let images ← (imagePaths.mapM openImage).mapError fun _ => .embeddingGeneration
    "Failed to open one or more images for embedding generation.".toList
  (features norm loaded.1 loaded.2 images).mapError fun _ => .embeddingGeneration
    "Model inference failed while generating embeddings.".toList

/-- `generate_embeddings`. -/
def generateEmbeddings (imagePaths : List PosixPath) (manager : ModelManager loadImage) :
    Except (InferenceException κ) (List (List φ)) × ModelManager loadImage :=
  inChunks service.batchSize (withModel service.modelName (encodeWith openImage norm)) imagePaths
    manager

/-- `generate_embedding`. -/
def generateEmbedding (imagePath : PosixPath) (manager : ModelManager loadImage) :
    Except (InferenceException κ) (List φ) × ModelManager loadImage :=
  firstOutput (service.generateEmbeddings openImage norm [imagePath] manager)

end CLIPEmbeddingService

/-! ### Batching is invisible -/

section Calls

variable {use : Loaded → List α → Except (InferenceException κ) (List β)}

/-- The outcome of `withModel`, which does not depend on what is loaded already. -/
theorem withModel_fst (modelName : Text) (batch : List α) (manager : ModelManager load) :
    (withModel modelName use batch manager).1 =
      (load modelName).mapError .other >>= fun model => use model batch := by
  have hmodel := getModel_fst manager modelName
  unfold withModel
  cases hget : manager.getModel modelName with
  | mk result manager' =>
    rw [hget] at hmodel
    rw [← hmodel]
    cases result with
    | error e => rfl
    | ok model => rfl

/-- Each model handles a batch element by element. -/
def UsedElementwise (load : Text → Except κ Loaded)
    (use : Loaded → List α → Except (InferenceException κ) (List β)) : Prop :=
  ∀ modelName model, load modelName = .ok model → ∀ batch, batch ≠ [] →
    Elementwise (fun a => use model [a]) batch (use model batch)

variable (huse : UsedElementwise load use) (modelName : Text)
include huse

/-- One batch. -/
theorem elementwise_withModel {batch : List α} (hbatch : batch ≠ []) (manager : ModelManager load) :
    Elementwise (fun a => (load modelName).mapError .other >>= fun model => use model [a]) batch
      (withModel modelName use batch manager).1 := by
  rw [withModel_fst]
  cases hload : load modelName with
  | error e =>
    obtain ⟨a, ha⟩ := List.exists_mem_of_ne_nil batch hbatch
    exact elementwise_error.2 ⟨a, ha, rfl⟩
  | ok model => exact huse modelName model hload batch hbatch

/-- A whole call. -/
theorem elementwise_inChunks_load (batchSize : ℕ+) (inputs : List α)
    (manager : ModelManager load) :
    Elementwise (fun a => (load modelName).mapError .other >>= fun model => use model [a]) inputs
      (inChunks batchSize (withModel modelName use) inputs manager).1 := by
  unfold inChunks
  split
  · next hempty =>
    rw [List.isEmpty_iff.1 hempty]
    exact elementwise_ok.2 .nil
  · exact elementwise_inBatches batchSize.pos
      (fun _ hbatch manager => elementwise_withModel huse modelName hbatch manager) inputs manager

/-- **A call on many inputs amounts to calls on each**, with batches of any other size and
whatever is loaded by then. -/
theorem elementwise_inChunks (batchSize batchSize' : ℕ+) (inputs : List α)
    (manager manager' : ModelManager load) :
    Elementwise (fun a => (inChunks batchSize' (withModel modelName use) [a] manager').1) inputs
      (inChunks batchSize (withModel modelName use) inputs manager).1 :=
  (elementwise_inChunks_load huse modelName batchSize inputs manager).congr
    fun a => elementwise_inChunks_load huse modelName batchSize' [a] manager'

/-- The first output of a call on one input is its only one. -/
theorem map_firstOutput (batchSize : ℕ+) (a : α) (manager : ModelManager load) :
    (firstOutput (inChunks batchSize (withModel modelName use) [a] manager)).1.map (fun b => [b]) =
      (inChunks batchSize (withModel modelName use) [a] manager).1 := by
  have hcall := elementwise_inChunks_load huse modelName batchSize [a] manager
  cases hresult : inChunks batchSize (withModel modelName use) [a] manager with
  | mk result manager' =>
    rw [hresult] at hcall
    cases result with
    | error e => rfl
    | ok outputs =>
      cases elementwise_ok.1 hcall with
      | cons _ hrest =>
        cases hrest
        rfl

/-- The same with each input handled by a call that returns the first output. -/
theorem elementwise_inChunks_firstOutput (batchSize batchSize' : ℕ+) (inputs : List α)
    (manager manager' : ModelManager load) :
    Elementwise (fun a =>
        (firstOutput (inChunks batchSize' (withModel modelName use) [a] manager')).1.map
          fun b => [b]) inputs
      (inChunks batchSize (withModel modelName use) inputs manager).1 := by
  simp only [map_firstOutput huse]
  exact elementwise_inChunks huse modelName batchSize batchSize' inputs manager manager'

/-- A call on inputs each of which the model handles returns one output for each, in order. -/
theorem inChunks_eq_ok {model : Loaded} (hload : load modelName = .ok model) {one : α → β}
    {inputs : List α} (hone : ∀ a ∈ inputs, use model [a] = .ok [one a]) (batchSize : ℕ+)
    (manager : ModelManager load) :
    (inChunks batchSize (withModel modelName use) inputs manager).1 = .ok (inputs.map one) := by
  have hcall := elementwise_inChunks_load huse modelName batchSize inputs manager
  rw [hload] at hcall
  refine (hcall.ok_iff _).2 ?_
  rw [List.forall₂_map_right_iff, List.forall₂_same]
  exact hone

end Calls

section Services

variable {Raw Image Input φ : Type}

theorem usedElementwise_predictWith {loadCrossEncoder : Text → Except κ (CrossEncoderModel κ Raw)}
    (hpredict : ∀ modelName model, loadCrossEncoder modelName = .ok model →
      Pointwise fun pairs => model.predict pairs pairs.length) (float : Raw → φ) :
    UsedElementwise loadCrossEncoder (CrossEncoderService.predictWith float) := by
  intro modelName model hload pairs hpairs
  exact ((hpredict modelName model hload).elementwise _ hpairs).map float

theorem usedElementwise_encodeWith {loadText : Text → Except κ (SentenceTransformer κ φ)}
    (hencode : ∀ modelName model, loadText modelName = .ok model →
      ∀ normalize, Pointwise fun texts => model.encode texts texts.length normalize)
    (service : SentenceTransformerEmbeddingService) :
    UsedElementwise loadText service.encodeWith := by
  intro modelName model hload texts htexts
  exact (hencode modelName model hload service.normalize).elementwise _ htexts

/-- Opening, preparing and encoding handle a batch element by element, one after the other. -/
theorem usedElementwise_clip [Div φ]
    {loadImage : Text → Except κ (CLIPModel κ Input φ × CLIPProcessor κ Image Input)}
    (hclip : ∀ modelName loaded, loadImage modelName = .ok loaded →
      Pointwise loaded.2.process ∧ Pointwise loaded.1.getImageFeatures)
    (openImage : PosixPath → Except κ Image) (norm : List φ → φ) :
    UsedElementwise loadImage (CLIPEmbeddingService.encodeWith openImage norm) := by
  intro modelName loaded hload paths hpaths
  obtain ⟨hprocess, hfeatures⟩ := hclip modelName loaded hload
  unfold CLIPEmbeddingService.encodeWith CLIPEmbeddingService.features
  simp only [Except.mapError_bind]
  refine ((pointwise_mapM openImage).elementwise _ hpaths).bind fun images himages => ?_
  refine (hprocess.elementwise _ (himages hpaths)).bind fun inputs hinputs => ?_
  exact (hfeatures.elementwise _ (hinputs (himages hpaths))).map _

/-! One input alone. -/

theorem predictWith_singleton {model : CrossEncoderModel κ Raw} {pair : Text × Text} {score : Raw}
    (float : Raw → φ) (h : model.predict [pair] 1 = .ok [score]) :
    CrossEncoderService.predictWith float model [pair] = .ok [float score] := by
  unfold CrossEncoderService.predictWith
  rw [List.length_singleton, h]
  rfl

theorem encodeWith_singleton {service : SentenceTransformerEmbeddingService}
    {model : SentenceTransformer κ φ} {text : Text} {vector : List φ}
    (h : model.encode [text] 1 service.normalize = .ok [vector]) :
    service.encodeWith model [text] = .ok [vector] := by
  unfold SentenceTransformerEmbeddingService.encodeWith
  rw [List.length_singleton, h]
  rfl

theorem clip_encodeWith_singleton [Div φ] {openImage : PosixPath → Except κ Image}
    {norm : List φ → φ} {model : CLIPModel κ Input φ} {processor : CLIPProcessor κ Image Input}
    {path : PosixPath} {image : Image} {vector : List φ} (hopen : openImage path = .ok image)
    (h : CLIPEmbeddingService.features norm model processor [image] = .ok [vector]) :
    CLIPEmbeddingService.encodeWith openImage norm (model, processor) [path] = .ok [vector] := by
  have himages : [path].mapM openImage = .ok [image] := by
    rw [List.mapM_cons, hopen]
    rfl
  unfold CLIPEmbeddingService.encodeWith
  rw [himages]
  exact congrArg (Except.mapError _) h

/-- **The reranker's cross-encoder** is such a service, for a model that succeeds on every pair. -/
theorem exists_crossEncoder {loadCrossEncoder : Text → Except κ (CrossEncoderModel κ Raw)}
    (hpredict : ∀ modelName model, loadCrossEncoder modelName = .ok model →
      Pointwise fun pairs => model.predict pairs pairs.length) (float : Raw → ℚ)
    (service : CrossEncoderService) {model : CrossEncoderModel κ Raw}
    (hload : loadCrossEncoder service.modelName = .ok model) {score : Text × Text → Raw}
    (hscore : ∀ pair, model.predict [pair] 1 = .ok [score pair]) :
    ∃ crossEncoder : CrossEncoder, ∀ pairs (manager : ModelManager loadCrossEncoder),
      (service.scorePairs float pairs manager).1 = .ok (crossEncoder.scorePairs pairs) := by
  refine ⟨⟨fun pairs => pairs.map fun pair => float (score pair), fun _ => List.length_map _⟩, ?_⟩
  intro pairs manager
  exact inChunks_eq_ok (usedElementwise_predictWith hpredict float) service.modelName hload
    (fun pair _ => predictWith_singleton float (hscore pair)) service.batchSize manager

/-- **Batching is invisible.**  If the models treat each input of a batch on its own, then scoring
pairs and encoding texts and images, in batches of one size and with some models loaded already,
comes to handling each input alone, in batches of another size and with other models loaded; and
inputs that the model succeeds on alone get one output each, in order. -/
theorem batching_invisible [Div φ] (float : Raw → φ) (norm : List φ → φ)
    (openImage : PosixPath → Except κ Image)
    {loadCrossEncoder : Text → Except κ (CrossEncoderModel κ Raw)}
    {loadText : Text → Except κ (SentenceTransformer κ φ)}
    {loadModel : Text → Except κ (CLIPModel κ Input φ)}
    {loadProcessor : Text → Except κ (CLIPProcessor κ Image Input)}
    (hpredict : ∀ modelName model, loadCrossEncoder modelName = .ok model →
      Pointwise fun pairs => model.predict pairs pairs.length)
    (hencode : ∀ modelName model, loadText modelName = .ok model →
      ∀ normalize, Pointwise fun texts => model.encode texts texts.length normalize)
    (hfeatures : ∀ modelName model, loadModel modelName = .ok model →
      Pointwise model.getImageFeatures)
    (hprocess : ∀ modelName processor, loadProcessor modelName = .ok processor →
      Pointwise processor.process) :
    (∀ (service : CrossEncoderService) (batchSize : ℕ+)
        (manager manager' : ModelManager loadCrossEncoder) (pairs : List (Text × Text)),
      Elementwise
          (fun pair => ({ service with batchSize }.scorePairs float [pair] manager').1)
          pairs (service.scorePairs float pairs manager).1 ∧
        ∀ (model : CrossEncoderModel κ Raw) (score : Text × Text → Raw),
          loadCrossEncoder service.modelName = .ok model →
          (∀ pair ∈ pairs, model.predict [pair] 1 = .ok [score pair]) →
          (service.scorePairs float pairs manager).1 =
            .ok (pairs.map fun pair => float (score pair))) ∧
    (∀ (service : SentenceTransformerEmbeddingService) (batchSize : ℕ+)
        (manager manager' : ModelManager loadText) (texts : List Text),
      Elementwise
          (fun text => ({ service with batchSize }.embedText text manager').1.map fun v => [v])
          texts (service.embedBatch texts manager).1 ∧
        ∀ (model : SentenceTransformer κ φ) (vector : Text → List φ),
          loadText service.modelName = .ok model →
          (∀ text ∈ texts, model.encode [text] 1 service.normalize = .ok [vector text]) →
          (service.embedBatch texts manager).1 = .ok (texts.map vector)) ∧
    ∀ (service : CLIPEmbeddingService) (batchSize : ℕ+)
        (manager manager' : ModelManager (loadClip loadModel loadProcessor))
        (paths : List PosixPath),
      Elementwise
          (fun path => ({ service with batchSize }.generateEmbedding openImage norm path
            manager').1.map fun v => [v])
          paths (service.generateEmbeddings openImage norm paths manager).1 ∧
        ∀ (model : CLIPModel κ Input φ) (processor : CLIPProcessor κ Image Input)
          (image : PosixPath → Image) (vector : PosixPath → List φ),
          loadModel service.modelName = .ok model →
          loadProcessor service.modelName = .ok processor →
          (∀ path ∈ paths, openImage path = .ok (image path) ∧
            CLIPEmbeddingService.features norm model processor [image path] =
              .ok [vector path]) →
          (service.generateEmbeddings openImage norm paths manager).1 =
            .ok (paths.map vector) := by
  have hclip : ∀ modelName loaded, loadClip loadModel loadProcessor modelName = .ok loaded →
      Pointwise loaded.2.process ∧ Pointwise loaded.1.getImageFeatures := by
    intro modelName loaded hload
    obtain ⟨hmodel, hprocessor⟩ := loadClip_eq_ok.1 hload
    exact ⟨hprocess modelName loaded.2 hprocessor, hfeatures modelName loaded.1 hmodel⟩
  refine ⟨?_, ?_, ?_⟩
  · intro service batchSize manager manager' pairs
    have huse := usedElementwise_predictWith hpredict float
    refine ⟨elementwise_inChunks huse service.modelName service.batchSize batchSize pairs manager
      manager', fun model score hload hscore => ?_⟩
    exact inChunks_eq_ok huse service.modelName hload
      (fun pair hpair => predictWith_singleton float (hscore pair hpair)) _ _
  · intro service batchSize manager manager' texts
    have huse := usedElementwise_encodeWith hencode service
    refine ⟨elementwise_inChunks_firstOutput huse service.modelName service.batchSize batchSize
      texts manager manager', fun model vector hload hvector => ?_⟩
    exact inChunks_eq_ok huse service.modelName hload
      (fun text htext => encodeWith_singleton (hvector text htext)) _ _
  · intro service batchSize manager manager' paths
    have huse := usedElementwise_clip hclip openImage norm
    refine ⟨elementwise_inChunks_firstOutput huse service.modelName service.batchSize batchSize
      paths manager manager', fun model processor image vector hmodel hprocessor hvector => ?_⟩
    have hload : loadClip loadModel loadProcessor service.modelName = .ok (model, processor) :=
      loadClip_eq_ok.2 ⟨hmodel, hprocessor⟩
    refine inChunks_eq_ok huse service.modelName hload (fun path hpath => ?_) _ _
    obtain ⟨hopen, hvector⟩ := hvector path hpath
    exact clip_encodeWith_singleton hopen hvector

/-- A cross-encoder that scores a pair by its length. -/
def lengthCrossEncoder : CrossEncoderModel Unit ℕ :=
  ⟨fun pairs _ => pairs.mapM fun pair => .ok (pair.1.length + pair.2.length)⟩

/-- A sentence transformer of dimension one, whose vector is the length of a text. -/
def lengthTransformer : SentenceTransformer Unit ℕ :=
  ⟨fun texts _ normalize => texts.mapM fun text => .ok [if normalize then 1 else text.length]⟩

/-- A CLIP model of dimension one, whose feature is the brightness of an image. -/
def brightnessModel : CLIPModel Unit ℕ ℕ := ⟨List.mapM fun brightness => .ok [brightness]⟩

/-- A processor that leaves images as they are. -/
def plainProcessor : CLIPProcessor Unit ℕ ℕ := ⟨List.mapM .ok⟩

theorem batching_invisible_three :
    ((CrossEncoderService.mk "reranker".toList 2).scorePairs id
        [("red".toList, "shoe".toList), ("red".toList, "hat".toList), ("red".toList, [])]
        (@ModelManager.new _ _ fun _ => .ok lengthCrossEncoder)).1 = .ok [7, 6, 3] ∧
      ((SentenceTransformerEmbeddingService.mk "text".toList 2 false).embedBatch
        ["red".toList, "shoe".toList, "hat".toList]
        (@ModelManager.new _ _ fun _ => .ok lengthTransformer)).1 = .ok [[3], [4], [3]] ∧
      ((CLIPEmbeddingService.mk "clip".toList 2).generateEmbeddings
        (fun path => .ok path.parts.length) List.sum
        [.ofText "a.jpg".toList, .ofText "b/c.jpg".toList, .ofText "d.jpg".toList]
        (@ModelManager.new _ _ (loadClip (fun _ => .ok brightnessModel)
          fun _ => .ok plainProcessor))).1 = .ok [[1], [1], [1]] := by
  obtain ⟨hscore, htext, himage⟩ := @batching_invisible Unit ℕ ℕ ℕ ℕ _ id List.sum
    (fun path => .ok path.parts.length) (fun _ => .ok lengthCrossEncoder)
    (fun _ => .ok lengthTransformer) (fun _ => .ok brightnessModel) (fun _ => .ok plainProcessor)
    (fun _ model h => Except.ok.inj h ▸ pointwise_mapM _)
    (fun _ model h _ => Except.ok.inj h ▸ pointwise_mapM _)
    (fun _ model h => Except.ok.inj h ▸ pointwise_mapM _)
    (fun _ processor h => Except.ok.inj h ▸ pointwise_mapM _)
  refine ⟨?_, ?_, ?_⟩
  · exact (hscore _ 1 .new .new _).2 lengthCrossEncoder (fun pair => pair.1.length + pair.2.length)
      rfl fun _ _ => rfl
  · exact (htext _ 1 .new .new _).2 lengthTransformer (fun text => [text.length]) rfl fun _ _ => rfl
  · refine (himage _ 1 .new .new _).2 brightnessModel plainProcessor (fun path => path.parts.length)
      (fun _ => [1]) rfl rfl fun path hpath => ⟨rfl, ?_⟩
    simp only [List.mem_cons, List.not_mem_nil, or_false] at hpath
    rcases hpath with rfl | rfl | rfl
    · rfl
    · rfl
    · rfl

end Services

end ProductIntelligence
