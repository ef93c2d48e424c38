import ProductIntelligence.Logic.Interleaving
import ProductIntelligence.Products.ProcessUpload

/-!
# Uploads side by side

The handlers of the API and the workers process uploads at the same time.  Each upload reads the two
collections, builds its product, and stores a point in one collection and then in the other; other
uploads may do anything in between, each call may fail, and an upload may be abandoned at any gap.
Nothing else writes to the collections, and nothing is ever deleted from them.

## Main definitions

* `IndexCommand`, `exec` — what uploads do to the index.
* `UploadRequest.upload` — an upload as a program.
* `Nested`, `Catalogued` — what an index promises in every state.
* `UploadProgress`, `uploading` — how far an upload has come, and what it may do next.
* `IndexConfig.Sound`, `IndexConfig.Owned` — the invariants.

## Main results

* `run_upload` — an upload that runs alone is `processUpload`.
* `index_sound` — **in every state the text collection is within the image collection**, and every
  entry was built by an upload that was started.
* `sole_upload_stored` — **an upload that has returned stays in both collections**, if no other
  upload has its id.

## References

`backend/app/services/product_service.py`, `backend/app/services/vectorstore/base.py`,
`backend/app/api/products.py`, `backend/app/workers/product_worker.py`.
-/

namespace ProductIntelligence

open Effects Program

variable {ι V ε κ : Type}

/-! ### Uploads as programs -/

/-- What an upload asks of the index: each collection as it is, or to store a point, with how that
call ends. -/
inductive IndexCommand (ι V ε : Type)
  | seeImages
  | seeTexts
  | storeImage (point : StoredPoint ι V) (outcome : UpsertOutcome ε)
  | storeText (point : StoredPoint ι V) (outcome : UpsertOutcome ε)

namespace IndexCommand

/-- What each command replies. -/
abbrev Reply : IndexCommand ι V ε → Type
  | .seeImages | .seeTexts => Collection ι V
  | .storeImage .. | .storeText .. => Except ε Unit

/-- What each command does. -/
def exec [DecidableEq ι] : Handler (@Reply ι V ε) (VectorStore ι V)
  | .seeImages, store => (store.image, store)
  | .seeTexts, store => (store.text, store)
  | .storeImage point outcome, store =>
    (outcome.reply, { store with image := outcome.apply point store.image })
  | .storeText point outcome, store =>
    (outcome.reply, { store with text := outcome.apply point store.text })

end IndexCommand

/-- Programs over the index. -/
abbrev IndexProgram (ι V ε α : Type) := Program (@IndexCommand.Reply ι V ε) α

/-- One upload: what is submitted, the id it is given if any, and the collaborators as they behave
during it. -/
structure UploadRequest (ι V ε : Type) where
  service : ProductService ι V ε
  product : ProductCreate
  image : ProductImage
  productId : Option ι

namespace UploadRequest

variable (request : UploadRequest ι V ε)

/-- The id of the product. -/
def id : ι := request.productId.getD request.service.uuid4

/-- The point for the image collection. -/
def pointOf (built : Product ι V) : StoredPoint ι V :=
  ProductService.imagePoint request.product request.image built

/-- The point for the text collection. -/
def textPointOf (built : Product ι V) : StoredPoint ι V :=
  ProductService.textPoint request.product request.image built

/-- The write to the image collection. -/
def imageWrite (built : Product ι V) : IndexCommand ι V ε :=
  .storeImage (request.pointOf built) (request.service.upsertImage (request.pointOf built))

/-- The write to the text collection. -/
def textWrite (built : Product ι V) : IndexCommand ι V ε :=
  .storeText (request.textPointOf built) (request.service.upsertText (request.textPointOf built))

/-- How an upload ends after a write. -/
def afterWrite (next : IndexProgram ι V ε (Except (AppException ι ε) (Product ι V))) :
    Except ε Unit → IndexProgram ι V ε (Except (AppException ι ε) (Product ι V))
  | .error e => .done (.error (.service e))
  | .ok () => next

/-- The writes of an upload, the second one only once the first has returned. -/
def write (built : Product ι V) :
    IndexProgram ι V ε (Except (AppException ι ε) (Product ι V)) :=
  .request (request.imageWrite built) (afterWrite
    (.request (request.textWrite built) (afterWrite (.done (.ok built)))))

variable [DecidableEq ι]

/-- The product that is built from what the upload sees of the index. -/
def build (seen : VectorStore ι V) : Except (AppException ι ε) (Product ι V) :=
  request.service.buildProduct seen request.product request.image request.productId

/-- What an upload does once it has seen the index. -/
def proceed (seen : VectorStore ι V) :
    IndexProgram ι V ε (Except (AppException ι ε) (Product ι V)) :=
  match request.build seen with
  | .error e => .done (.error e)
  | .ok built => request.write built

/-- `process_upload`, one command at a time.  Only the duplicate check reads the index, the images
before the texts. -/
def upload : IndexProgram ι V ε (Except (AppException ι ε) (Product ι V)) :=
  .request .seeImages fun images => .request .seeTexts fun texts => request.proceed ⟨images, texts⟩

/-- **An upload that runs alone** is `processUpload`. -/
theorem run_upload (store : VectorStore ι V) :
    request.upload.run IndexCommand.exec store =
      (request.service.processUpload request.product request.image request.productId).outcome
        store := by
  show (request.proceed store).run IndexCommand.exec store = _
  unfold proceed
  cases hbuild : request.build store with
  | error e =>
    exact (request.service.outcome_of_error store request.product request.image request.productId
      hbuild).symm
  | ok built =>
    rw [request.service.outcome_of_built store request.product request.image request.productId
      hbuild]
    dsimp only [write, run_request, imageWrite, IndexCommand.exec]
    cases himage : request.service.upsertImage (request.pointOf built) with
    | failed e tookEffect =>
      unfold pointOf at himage
      rw [himage]
      rfl
    | stored =>
      unfold pointOf at himage
      rw [himage]
      dsimp only [UpsertOutcome.reply, afterWrite, textWrite, run_request, IndexCommand.exec]
      cases htext : request.service.upsertText (request.textPointOf built) with
      | failed e tookEffect =>
        unfold textPointOf at htext
        rw [htext]
        rfl
      | stored =>
        unfold textPointOf at htext
        rw [htext]
        rfl

/-- A product is built under the id of its upload. -/
theorem id_of_build {seen : VectorStore ι V} {built : Product ι V}
    (h : request.build seen = .ok built) : built.id = request.id :=
  ((request.service.prepares_iff seen request.product request.image request.productId).2
    ⟨built, h, rfl, rfl⟩).productId_eq.1

end UploadRequest

/-! ### How far an upload has come -/

/-- What an upload has seen of the index, and which of its writes have returned. -/
structure UploadProgress (ι V ε : Type) where
  request : UploadRequest ι V ε
  images : Option (Collection ι V)
  texts : Option (Collection ι V)
  imageStored : Bool
  textStored : Bool

namespace UploadProgress

/-- An upload begins. -/
def start (request : UploadRequest ι V ε) : UploadProgress ι V ε := ⟨request, none, none, false, false⟩

/-- The progress that a reply makes. -/
def next (progress : UploadProgress ι V ε) :
    (command : IndexCommand ι V ε) → command.Reply → UploadProgress ι V ε
  | .seeImages, images => { progress with images := some images }
  | .seeTexts, texts => { progress with texts := some texts }
  | .storeImage .., reply => { progress with imageStored := Except.isOk reply }
  | .storeText .., reply => { progress with textStored := Except.isOk reply }

@[simp] theorem next_request (progress : UploadProgress ι V ε) (command : IndexCommand ι V ε)
    (reply : command.Reply) : (progress.next command reply).request = progress.request := by
  cases command <;> rfl

variable [DecidableEq ι]

/-- The product that is built from what was seen. -/
def Builds (progress : UploadProgress ι V ε) (built : Product ι V) : Prop :=
  ∃ images texts, progress.images = some images ∧ progress.texts = some texts ∧
    progress.request.build ⟨images, texts⟩ = .ok built

/-- No write has returned yet. -/
def Unwritten (progress : UploadProgress ι V ε) : Prop :=
  progress.imageStored = false ∧ progress.textStored = false

/-- What an upload may do next: the index is seen before it is written to, and the text is stored
only once the image is. -/
inductive MayIssue (progress : UploadProgress ι V ε) : IndexCommand ι V ε → Prop
  | seeImages (h : progress.Unwritten) : MayIssue progress .seeImages
  | seeTexts (h : progress.Unwritten) : MayIssue progress .seeTexts
  | storeImage {built : Product ι V} (hbuilds : progress.Builds built) (h : progress.Unwritten) :
      MayIssue progress (.storeImage (progress.request.pointOf built)
        (progress.request.service.upsertImage (progress.request.pointOf built)))
  | storeText {built : Product ι V} (hbuilds : progress.Builds built)
      (h : progress.imageStored = true) :
      MayIssue progress (.storeText (progress.request.textPointOf built)
        (progress.request.service.upsertText (progress.request.textPointOf built)))

/-- An upload returns a product once both of its points are stored. -/
def Returns (_ : UploadRequest ι V ε) :
    Except (AppException ι ε) (Product ι V) → UploadProgress ι V ε → Prop
  | .error _, _ => True
  | .ok built, progress =>
    progress.Builds built ∧ progress.imageStored = true ∧ progress.textStored = true

/-- What is built is determined by what was seen. -/
theorem Builds.unique {progress : UploadProgress ι V ε} {built built' : Product ι V}
    (h : progress.Builds built) (h' : progress.Builds built') : built = built' := by
  obtain ⟨images, texts, himages, htexts, hbuild⟩ := h
  obtain ⟨images', texts', himages', htexts', hbuild'⟩ := h'
  cases himages.symm.trans himages'
  cases htexts.symm.trans htexts'
  cases hbuild.symm.trans hbuild'
  rfl

end UploadProgress

variable [DecidableEq ι]

/-- **The discipline of an upload.** -/
def uploading : Discipline (@IndexCommand.Reply ι V ε) (UploadProgress ι V ε) where
  allows := UploadProgress.MayIssue
  expects _ _ _ := True
  next := UploadProgress.next

/-- After a write an upload goes on, or returns an error. -/
theorem obeys_afterWrite {request : UploadRequest ι V ε} {progress : UploadProgress ι V ε}
    {next : IndexProgram ι V ε (Except (AppException ι ε) (Product ι V))} {reply : Except ε Unit}
    (h : Except.isOk reply = true → next.Obeys uploading (UploadProgress.Returns request) progress) :
    (UploadRequest.afterWrite next reply).Obeys uploading (UploadProgress.Returns request) progress := by
  cases reply with
  | error e => exact trivial
  | ok _ => exact h rfl

/-- **Every upload keeps to it.** -/
theorem obeys_upload (request : UploadRequest ι V ε) :
    request.upload.Obeys uploading (UploadProgress.Returns request) (UploadProgress.start request) := by
  refine ⟨.seeImages ⟨rfl, rfl⟩, fun images _ => ⟨.seeTexts ⟨rfl, rfl⟩, fun texts _ => ?_⟩⟩
  show (request.proceed ⟨images, texts⟩).Obeys _ _ _
  unfold UploadRequest.proceed
  cases hbuild : request.build ⟨images, texts⟩ with
  | error e => exact trivial
  | ok built =>
    have hbuilds : ∀ imageStored textStored,
        (⟨request, some images, some texts, imageStored, textStored⟩ : UploadProgress ι V ε).Builds
          built := fun _ _ => ⟨images, texts, rfl, rfl, hbuild⟩
    refine ⟨.storeImage (hbuilds _ _) ⟨rfl, rfl⟩, fun reply _ => obeys_afterWrite fun hstored => ?_⟩
    refine ⟨.storeText (hbuilds _ _) hstored, fun reply' _ => obeys_afterWrite fun hstored' => ?_⟩
    exact ⟨hbuilds _ _, hstored, hstored'⟩

/-! ### Writes -/

/-- A write changes at most its own entry. -/
theorem retrieve_apply (outcome : UpsertOutcome ε) (point : StoredPoint ι V)
    (collection : Collection ι V) (id : ι) :
    (outcome.apply point collection).retrieve id = collection.retrieve id ∨
      (id = point.productId ∧ (outcome.apply point collection).retrieve id = some point) := by
  have hupsert : (collection.upsert point).retrieve id = collection.retrieve id ∨
      (id = point.productId ∧ (collection.upsert point).retrieve id = some point) := by
    by_cases hid : id = point.productId
    · subst hid
      exact .inr ⟨rfl, retrieve_upsert_self collection point⟩
    · exact .inl (retrieve_upsert_of_ne collection point hid)
  unfold UpsertOutcome.apply
  cases outcome with
  | stored => exact hupsert
  | failed e tookEffect =>
    cases tookEffect with
    | false => exact .inl rfl
    | true => exact hupsert

/-- A write that returns has stored its point. -/
theorem retrieve_apply_of_isOk {outcome : UpsertOutcome ε} {point : StoredPoint ι V}
    (h : Except.isOk outcome.reply = true) (collection : Collection ι V) :
    (outcome.apply point collection).retrieve point.productId = some point := by
  cases outcome with
  | stored => exact retrieve_upsert_self collection point
  | failed e tookEffect => cases h

/-! ### The system -/

/-- A state of the index and the uploads in progress. -/
abbrev IndexConfig (ι V ε κ : Type) :=
  Config (@IndexCommand.Reply ι V ε) (VectorStore ι V) κ (UploadRequest ι V ε)
    (Except (AppException ι ε) (Product ι V))

/-- The uploads of any number of clients; nothing else writes to the index. -/
def indexMachine : Machine (@IndexCommand.Reply ι V ε) (VectorStore ι V) (UploadRequest ι V ε)
    (Except (AppException ι ε) (Product ι V)) Empty where
  handler := IndexCommand.exec
  body := fun request => request.upload
  env := nofun

omit [DecidableEq ι] in
/-- Nothing is indexed, and no upload has begun. -/
def IndexConfig.init : IndexConfig ι V ε κ :=
  ⟨⟨Collection.empty, Collection.empty⟩, fun _ => none, []⟩

/-- Every product of the text collection is in the image collection. -/
def Nested (store : VectorStore ι V) : Prop :=
  ∀ id, (store.text.retrieve id).isSome → (store.image.retrieve id).isSome

/-- The client has started the upload. -/
def IndexConfig.Started (cfg : IndexConfig ι V ε κ) (client : κ)
    (request : UploadRequest ι V ε) : Prop := .started client request ∈ cfg.log

/-- The client's upload has returned the product. -/
def IndexConfig.Returned (cfg : IndexConfig ι V ε κ) (client : κ) (request : UploadRequest ι V ε)
    (built : Product ι V) : Prop := .returned client request (.ok built) ∈ cfg.log

/-- Every entry was built by an upload that was started. -/
structure Catalogued (cfg : IndexConfig ι V ε κ) : Prop where
  image : ∀ id point, cfg.store.image.retrieve id = some point →
    ∃ client request seen built, cfg.Started client request ∧ request.build seen = .ok built ∧
      point = request.pointOf built
  text : ∀ id point, cfg.store.text.retrieve id = some point →
    ∃ client request seen built, cfg.Started client request ∧ request.build seen = .ok built ∧
      point = request.textPointOf built

/-- What every state keeps to: the sessions are disciplined uploads that were started, and the image
of an upload is in its collection before the text is written. -/
structure IndexConfig.Sound (cfg : IndexConfig ι V ε κ) : Prop where
  obeying : cfg.Obeying uploading UploadProgress.start UploadProgress.Returns
  started : ∀ client s, cfg.sessions client = some s → cfg.Started client s.op
  nested : Nested cfg.store
  catalogued : Catalogued cfg
  stored : ∀ client s, cfg.sessions client = some s →
    (s.ghost uploading UploadProgress.start).imageStored = true →
      (cfg.store.image.retrieve s.op.id).isSome

/-- The progress of a session. -/
abbrev progressOf (s : Session (@IndexCommand.Reply ι V ε) (UploadRequest ι V ε)
    (Except (AppException ι ε) (Product ι V))) : UploadProgress ι V ε :=
  s.ghost uploading UploadProgress.start

/-- A session is about its own upload. -/
theorem request_progressOf (s : Session (@IndexCommand.Reply ι V ε) (UploadRequest ι V ε)
    (Except (AppException ι ε) (Product ι V))) : (progressOf s).request = s.op := by
  obtain ⟨op, rest, exchanges⟩ := s
  induction exchanges with
  | nil => rfl
  | cons x exchanges ih => exact (UploadProgress.next_request _ x.command x.reply).trans ih

/-- What a command of an upload does to the index: its own entry of either collection may become the
point it has built, the text only once the image is there. -/
structure Changes (request : UploadRequest ι V ε) (store store' : VectorStore ι V) : Prop where
  image : ∀ id, store'.image.retrieve id = store.image.retrieve id ∨
    ∃ seen built, request.build seen = .ok built ∧ id = request.id ∧
      store'.image.retrieve id = some (request.pointOf built)
  text : ∀ id, store'.text.retrieve id = store.text.retrieve id ∨
    ∃ seen built, request.build seen = .ok built ∧ id = request.id ∧
      store'.text.retrieve id = some (request.textPointOf built) ∧
      (store.image.retrieve id).isSome

namespace Changes

variable {request : UploadRequest ι V ε} {store store' : VectorStore ι V}

/-- Nothing is removed. -/
theorem isSome_image (h : Changes request store store') {id : ι}
    (hid : (store.image.retrieve id).isSome) : (store'.image.retrieve id).isSome := by
  rcases h.image id with hsame | ⟨_, _, _, _, hnew⟩
  · rwa [hsame]
  · rw [hnew]
    rfl

/-- The text collection stays within the image collection. -/
theorem nested (h : Changes request store store') (hnested : Nested store) : Nested store' := by
  intro id hid
  refine h.isSome_image ?_
  rcases h.text id with hsame | ⟨-, -, -, -, -, himage⟩
  · rw [hsame] at hid
    exact hnested id hid
  · exact himage

/-- Other entries stay. -/
theorem frame (h : Changes request store store') {id : ι} (hid : request.id ≠ id) :
    store'.image.retrieve id = store.image.retrieve id ∧
      store'.text.retrieve id = store.text.retrieve id := by
  constructor
  · rcases h.image id with hsame | ⟨_, _, _, hown, _⟩
    · exact hsame
    · exact absurd hown.symm hid
  · rcases h.text id with hsame | ⟨_, _, _, hown, _⟩
    · exact hsame
    · exact absurd hown.symm hid

end Changes

/-- **What a permitted command does.** -/
theorem changes_exec {progress : UploadProgress ι V ε} {command : IndexCommand ι V ε}
    (h : progress.MayIssue command) (store : VectorStore ι V)
    (hstored : progress.imageStored = true → (store.image.retrieve progress.request.id).isSome) :
    Changes progress.request store (IndexCommand.exec command store).2 := by
  cases h with
  | seeImages _ => exact ⟨fun _ => .inl rfl, fun _ => .inl rfl⟩
  | seeTexts _ => exact ⟨fun _ => .inl rfl, fun _ => .inl rfl⟩
  | @storeImage built hbuilds _ =>
    obtain ⟨images, texts, -, -, hbuild⟩ := hbuilds
    have hid := progress.request.id_of_build hbuild
    refine ⟨fun id => ?_, fun _ => .inl rfl⟩
    rcases retrieve_apply (progress.request.service.upsertImage (progress.request.pointOf built))
      (progress.request.pointOf built) store.image id with hsame | ⟨hown, hnew⟩
    · exact .inl hsame
    · exact .inr ⟨_, built, hbuild, hown.trans hid, hnew⟩
  | @storeText built hbuilds himage =>
    obtain ⟨images, texts, -, -, hbuild⟩ := hbuilds
    have hid := progress.request.id_of_build hbuild
    refine ⟨fun _ => .inl rfl, fun id => ?_⟩
    rcases retrieve_apply (progress.request.service.upsertText (progress.request.textPointOf built))
      (progress.request.textPointOf built) store.text id with hsame | ⟨hown, hnew⟩
    · exact .inl hsame
    · refine .inr ⟨_, built, hbuild, hown.trans hid, hnew, ?_⟩
      rw [hown.trans hid]
      exact hstored himage

/-- A write to the image collection that returns has stored the image. -/
theorem retrieve_of_imageStored {progress : UploadProgress ι V ε} {command : IndexCommand ι V ε}
    (h : progress.MayIssue command) (store : VectorStore ι V)
    (hstored : (progress.next command (IndexCommand.exec command store).1).imageStored = true) :
    progress.imageStored = true ∨ ∃ built, progress.Builds built ∧
      (IndexCommand.exec command store).2.image.retrieve progress.request.id =
        some (progress.request.pointOf built) := by
  cases h with
  | seeImages h => exact .inl hstored
  | seeTexts h => exact .inl hstored
  | @storeImage built hbuilds _ =>
    obtain ⟨images, texts, himages, htexts, hbuild⟩ := hbuilds
    refine .inr ⟨built, ⟨images, texts, himages, htexts, hbuild⟩, ?_⟩
    rw [← progress.request.id_of_build hbuild]
    exact retrieve_apply_of_isOk hstored store.image
  | storeText _ h => exact .inl h

namespace Catalogued

omit [DecidableEq ι] in
/-- The log only grows. -/
theorem mono [DecidableEq ι] {cfg cfg' : IndexConfig ι V ε κ} (h : Catalogued cfg)
    (hstore : cfg'.store = cfg.store)
    (hlog : ∀ client request, cfg.Started client request → cfg'.Started client request) :
    Catalogued cfg' where
  image id point hpoint := by
    obtain ⟨client, request, seen, built, hstarted, hbuilt⟩ := h.image id point (hstore ▸ hpoint)
    exact ⟨client, request, seen, built, hlog client request hstarted, hbuilt⟩
  text id point hpoint := by
    obtain ⟨client, request, seen, built, hstarted, hbuilt⟩ := h.text id point (hstore ▸ hpoint)
    exact ⟨client, request, seen, built, hlog client request hstarted, hbuilt⟩

end Catalogued

namespace IndexConfig.Sound

variable [DecidableEq κ] {cfg cfg' : IndexConfig ι V ε κ}

omit [DecidableEq κ] in
theorem init : (IndexConfig.init : IndexConfig ι V ε κ).Sound := by
  constructor
  · intro _ _ h
    cases h
  · intro _ _ h
    cases h
  · intro _ h
    cases h
  · constructor <;>
    · intro _ _ h
      cases h
  · intro _ _ h
    cases h

/-- An upload begins. -/
theorem start (h : cfg.Sound) (client : κ) (request : UploadRequest ι V ε) :
    IndexConfig.Sound (indexMachine.started cfg client request) where
  obeying := h.obeying.started (obeys_upload request)
  started := by
    intro k t ht
    rcases Config.of_put_sessions ht with ⟨rfl, rfl⟩ | ⟨-, hold⟩
    · exact List.mem_cons_self
    · exact List.mem_cons_of_mem _ (h.started k t hold)
  nested := h.nested
  catalogued := h.catalogued.mono rfl fun _ _ => List.mem_cons_of_mem _
  stored := by
    intro k t ht hstored
    rcases Config.of_put_sessions ht with ⟨rfl, rfl⟩ | ⟨-, hold⟩
    · cases hstored
    · exact h.stored k t hold hstored

/-- An upload gets a reply. -/
theorem answer (h : cfg.Sound) {client : κ} {request : UploadRequest ι V ε}
    {command : IndexCommand ι V ε}
    {next : command.Reply → IndexProgram ι V ε (Except (AppException ι ε) (Product ι V))}
    {exchanges : List (Exchange (@IndexCommand.Reply ι V ε))}
    (hi : cfg.sessions client = some ⟨request, .request command next, exchanges⟩) :
    IndexConfig.Sound (indexMachine.answered cfg client request command next exchanges) := by
  have hmay := (h.obeying client _ hi).1
  have hrequest := request_progressOf
    (⟨request, .request command next, exchanges⟩ : Session (@IndexCommand.Reply ι V ε) _ _)
  have hstored := h.stored client _ hi
  have hchanges := changes_exec hmay cfg.store (hrequest ▸ hstored)
  rw [hrequest] at hchanges
  have hstarted := h.started client _ hi
  constructor
  · exact h.obeying.answered hi trivial
  · intro k t ht
    rcases Config.of_put_sessions ht with ⟨rfl, rfl⟩ | ⟨-, hold⟩
    · exact List.mem_cons_of_mem _ hstarted
    · exact List.mem_cons_of_mem _ (h.started k t hold)
  · exact hchanges.nested h.nested
  · constructor
    · intro id point hpoint
      rcases hchanges.image id with hsame | ⟨seen, built, hbuild, -, hnew⟩
      · obtain ⟨k, request', seen, built, hlog, hbuilt⟩ :=
          h.catalogued.image id point (hsame ▸ hpoint)
        exact ⟨k, request', seen, built, List.mem_cons_of_mem _ hlog, hbuilt⟩
      · exact ⟨client, request, seen, built, List.mem_cons_of_mem _ hstarted, hbuild,
          Option.some.inj (hpoint.symm.trans hnew)⟩
    · intro id point hpoint
      rcases hchanges.text id with hsame | ⟨seen, built, hbuild, -, hnew, -⟩
      · obtain ⟨k, request', seen, built, hlog, hbuilt⟩ :=
          h.catalogued.text id point (hsame ▸ hpoint)
        exact ⟨k, request', seen, built, List.mem_cons_of_mem _ hlog, hbuilt⟩
      · exact ⟨client, request, seen, built, List.mem_cons_of_mem _ hstarted, hbuild,
          Option.some.inj (hpoint.symm.trans hnew)⟩
  · intro k t ht himage
    rcases Config.of_put_sessions ht with ⟨rfl, rfl⟩ | ⟨-, hold⟩
    · rcases retrieve_of_imageStored hmay cfg.store himage with hbefore | ⟨built, -, hnew⟩
      · exact hchanges.isSome_image (hstored hbefore)
      · rw [hrequest] at hnew
        exact Option.isSome_of_eq_some hnew
    · exact hchanges.isSome_image (h.stored k t hold himage)

/-- An upload returns. -/
theorem finish (h : cfg.Sound) (client : κ) (request : UploadRequest ι V ε)
    (b : Except (AppException ι ε) (Product ι V)) :
    IndexConfig.Sound (cfg.finish client request b) where
  obeying := h.obeying.finish
  started k t ht := List.mem_cons_of_mem _ (h.started k t (Config.of_ended_sessions ht).2)
  nested := h.nested
  catalogued := h.catalogued.mono rfl fun _ _ => List.mem_cons_of_mem _
  stored k t ht := h.stored k t (Config.of_ended_sessions ht).2

/-- An upload is abandoned. -/
theorem abort (h : cfg.Sound) (client : κ) :
    IndexConfig.Sound { cfg with sessions := Function.update cfg.sessions client none } where
  obeying k t ht := h.obeying k t (Config.of_ended_sessions ht).2
  started k t ht := h.started k t (Config.of_ended_sessions ht).2
  nested := h.nested
  catalogued := h.catalogued.mono rfl fun _ _ => id
  stored k t ht := h.stored k t (Config.of_ended_sessions ht).2

/-- **Every move keeps it.** -/
theorem step (h : cfg.Sound) {l : Label κ (UploadRequest ι V ε) Empty}
    (hstep : indexMachine.step cfg l = some cfg') : cfg'.Sound :=
  Machine.step_rule hstep (fun client request _ _ => h.start client request)
    (fun _ _ _ _ _ _ hi => h.answer hi) (fun _ client s b hI _ _ => hI.finish client s.op b)
    (fun client _ _ _ => h.abort client) nofun

end IndexConfig.Sound

/-! ### One upload for an id -/

/-- What has been written of an upload is stored. -/
def Written (progress : UploadProgress ι V ε) (store : VectorStore ι V) : Prop :=
  ∀ built, progress.Builds built →
    (progress.imageStored = true →
      store.image.retrieve progress.request.id = some (progress.request.pointOf built)) ∧
    (progress.textStored = true →
      store.text.retrieve progress.request.id = some (progress.request.textPointOf built))

/-- The upload has built the product from something it has seen, and both points are stored. -/
structure UploadRequest.IsStored (request : UploadRequest ι V ε) (built : Product ι V)
    (store : VectorStore ι V) : Prop where
  builds : ∃ seen, request.build seen = .ok built
  image : store.image.retrieve request.id = some (request.pointOf built)
  text : store.text.retrieve request.id = some (request.textPointOf built)

/-- Only the entries of the upload matter. -/
theorem Written.congr {progress : UploadProgress ι V ε} {store store' : VectorStore ι V}
    (h : Written progress store)
    (hsame : store'.image.retrieve progress.request.id =
        store.image.retrieve progress.request.id ∧
      store'.text.retrieve progress.request.id = store.text.retrieve progress.request.id) :
    Written progress store' := by
  unfold Written
  rw [hsame.1, hsame.2]
  exact h

/-- **A command keeps what has been written.** -/
theorem written_exec {progress : UploadProgress ι V ε} {command : IndexCommand ι V ε}
    (h : progress.MayIssue command) {store : VectorStore ι V} (hwritten : Written progress store) :
    Written (progress.next command (IndexCommand.exec command store).1)
      (IndexCommand.exec command store).2 := by
  intro built hbuilds
  cases h with
  | seeImages h => exact ⟨fun h' => absurd h' (by simp [UploadProgress.next, h.1]),
      fun h' => absurd h' (by simp [UploadProgress.next, h.2])⟩
  | seeTexts h => exact ⟨fun h' => absurd h' (by simp [UploadProgress.next, h.1]),
      fun h' => absurd h' (by simp [UploadProgress.next, h.2])⟩
  | @storeImage built' hbuilds' h =>
    have hsame : built = built' := UploadProgress.Builds.unique hbuilds hbuilds'
    subst hsame
    obtain ⟨images, texts, -, -, hbuild⟩ := hbuilds'
    refine ⟨fun hstored => ?_, fun h' => absurd h' (by simp [UploadProgress.next, h.2])⟩
    show _ = some (progress.request.pointOf built)
    rw [UploadProgress.next_request, ← progress.request.id_of_build hbuild]
    exact retrieve_apply_of_isOk hstored store.image
  | @storeText built' hbuilds' h =>
    have hsame : built = built' := UploadProgress.Builds.unique hbuilds hbuilds'
    subst hsame
    refine ⟨fun hstored => (hwritten built hbuilds').1 hstored, fun hstored => ?_⟩
    obtain ⟨images, texts, -, -, hbuild⟩ := hbuilds'
    show _ = some (progress.request.textPointOf built)
    rw [UploadProgress.next_request, ← progress.request.id_of_build hbuild]
    exact retrieve_apply_of_isOk hstored store.text

/-- The move starts no second upload for the id. -/
def KeepsSole (id : ι) (cfg : IndexConfig ι V ε κ) (l : Label κ (UploadRequest ι V ε) Empty) :
    Prop :=
  ∀ client request, l = .start client request → request.id = id →
    ∀ client' request', cfg.Started client' request' → request'.id ≠ id

/-- What holds of an id for which only one upload was started: nobody else writes its entries. -/
structure IndexConfig.Owned (id : ι) (cfg : IndexConfig ι V ε κ) : Prop where
  sound : cfg.Sound
  returned_started : ∀ client request b, .returned client request b ∈ cfg.log →
    cfg.Started client request
  sole : ∀ client client' s s', cfg.sessions client = some s → cfg.sessions client' = some s' →
    s.op.id = id → s'.op.id = id → client = client'
  settled : ∀ client request b, .returned client request b ∈ cfg.log → request.id = id →
    ∀ client' s, cfg.sessions client' = some s → s.op.id ≠ id
  written : ∀ client s, cfg.sessions client = some s → s.op.id = id →
    Written (progressOf s) cfg.store
  stays : ∀ client request built, cfg.Returned client request built → request.id = id →
    request.IsStored built cfg.store

namespace IndexConfig.Owned

variable [DecidableEq κ] {id : ι} {cfg cfg' : IndexConfig ι V ε κ}

omit [DecidableEq κ] in
theorem init (id : ι) : (IndexConfig.init : IndexConfig ι V ε κ).Owned id := by
  constructor
  · exact Sound.init
  · intro _ _ _ h
    cases h
  · intro _ _ _ _ h
    cases h
  · intro _ _ _ h
    cases h
  · intro _ _ h
    cases h
  · intro _ _ _ h
    cases h

/-- An upload begins. -/
theorem start (h : cfg.Owned id) {client : κ} {request : UploadRequest ι V ε}
    (hsole : request.id = id → ∀ client' request', cfg.Started client' request' → request'.id ≠ id) :
    IndexConfig.Owned id (indexMachine.started cfg client request) where
  sound := h.sound.start client request
  returned_started k r b hb := by
    rcases List.mem_cons.1 hb with hb | hb
    · cases hb
    · exact List.mem_cons_of_mem _ (h.returned_started k r b hb)
  sole := by
    intro k k' t t' ht ht' hid hid'
    rcases Config.of_put_sessions ht with ⟨rfl, rfl⟩ | ⟨-, hold⟩
    · rcases Config.of_put_sessions ht' with ⟨rfl, -⟩ | ⟨-, hold'⟩
      · rfl
      · exact absurd hid' (hsole hid k' t'.op (h.sound.started k' t' hold'))
    · rcases Config.of_put_sessions ht' with ⟨rfl, rfl⟩ | ⟨-, hold'⟩
      · exact absurd hid (hsole hid' k t.op (h.sound.started k t hold))
      · exact h.sole k k' t t' hold hold' hid hid'
  settled := by
    intro k r b hb hid k' t ht hid'
    rcases List.mem_cons.1 hb with hnew | hlog
    · cases hnew
    rcases Config.of_put_sessions ht with ⟨rfl, rfl⟩ | ⟨-, hold⟩
    · exact hsole hid' k r (h.returned_started k r b hlog) hid
    · exact h.settled k r b hlog hid k' t hold hid'
  written := by
    intro k t ht hid
    rcases Config.of_put_sessions ht with ⟨rfl, rfl⟩ | ⟨-, hold⟩
    · intro built hbuilds
      exact ⟨Bool.noConfusion, Bool.noConfusion⟩
    · exact h.written k t hold hid
  stays := by
    intro k r built hb
    rcases List.mem_cons.1 hb with hb | hb
    · cases hb
    · exact h.stays k r built hb

/-- An upload gets a reply. -/
theorem answer (h : cfg.Owned id) {client : κ} {request : UploadRequest ι V ε}
    {command : IndexCommand ι V ε}
    {next : command.Reply → IndexProgram ι V ε (Except (AppException ι ε) (Product ι V))}
    {exchanges : List (Exchange (@IndexCommand.Reply ι V ε))}
    (hi : cfg.sessions client = some ⟨request, .request command next, exchanges⟩) :
    IndexConfig.Owned id (indexMachine.answered cfg client request command next exchanges) := by
  have hmay := (h.sound.obeying client _ hi).1
  have hrequest := request_progressOf
    (⟨request, .request command next, exchanges⟩ : Session (@IndexCommand.Reply ι V ε) _ _)
  have hchanges := changes_exec hmay cfg.store (hrequest ▸ h.sound.stored client _ hi)
  rw [hrequest] at hchanges
  -- the sessions are about the same uploads as before
  have hsession : ∀ k t, (indexMachine.answered cfg client request command next exchanges).sessions k
      = some t → ∃ t', cfg.sessions k = some t' ∧ t'.op = t.op := by
    intro k t ht
    rcases Config.of_put_sessions ht with ⟨rfl, rfl⟩ | ⟨-, hold⟩
    · exact ⟨_, hi, rfl⟩
    · exact ⟨t, hold, rfl⟩
  constructor
  · exact h.sound.answer hi
  · intro k r b hb
    rcases List.mem_cons.1 hb with hb | hb
    · cases hb
    · exact List.mem_cons_of_mem _ (h.returned_started k r b hb)
  · intro k k' t t' ht ht' hid hid'
    obtain ⟨u, hu, hop⟩ := hsession k t ht
    obtain ⟨u', hu', hop'⟩ := hsession k' t' ht'
    exact h.sole k k' u u' hu hu' (hop ▸ hid) (hop' ▸ hid')
  · intro k r b hb hid k' t ht hid'
    rcases List.mem_cons.1 hb with hb | hb
    · cases hb
    obtain ⟨u, hu, hop⟩ := hsession k' t ht
    exact h.settled k r b hb hid k' u hu (hop ▸ hid')
  · intro k t ht hid
    rcases Config.of_put_sessions ht with ⟨rfl, rfl⟩ | ⟨hne, hold⟩
    · exact written_exec hmay (h.written k _ hi hid)
    · -- nobody else writes the entries of the id
      have hother : request.id ≠ id := fun hrid => hne (h.sole k client t _ hold hi hid hrid)
      refine (h.written k t hold hid).congr ?_
      rw [request_progressOf, hid]
      exact hchanges.frame hother
  · intro k r built hb hid
    rcases List.mem_cons.1 hb with hb | hb
    · cases hb
    have hother : request.id ≠ id := fun hrid =>
      h.settled k r (.ok built) hb hid client _ hi hrid
    have hstays := h.stays k r built hb hid
    obtain ⟨himage, htext⟩ := hchanges.frame hother
    rw [← hid] at himage htext
    exact ⟨hstays.builds, himage.trans hstays.image, htext.trans hstays.text⟩

/-- An upload returns. -/
theorem finish (h : cfg.Owned id) {client : κ}
    {s : Session (@IndexCommand.Reply ι V ε) (UploadRequest ι V ε)
      (Except (AppException ι ε) (Product ι V))} {b : Except (AppException ι ε) (Product ι V)}
    (hs : cfg.sessions client = some s) (hb : s.rest = .done b) :
    IndexConfig.Owned id (cfg.finish client s.op b) := by
  constructor
  · exact h.sound.finish client s.op b
  · intro k r b' hlog
    rcases List.mem_cons.1 hlog with hnew | hlog
    · cases hnew
      exact List.mem_cons_of_mem _ (h.sound.started client s hs)
    · exact List.mem_cons_of_mem _ (h.returned_started k r b' hlog)
  · intro k k' t t' ht ht'
    exact h.sole k k' t t' (Config.of_ended_sessions ht).2 (Config.of_ended_sessions ht').2
  · intro k r b' hlog hid k' t ht hid'
    obtain ⟨hne, hold⟩ := Config.of_ended_sessions ht
    rcases List.mem_cons.1 hlog with hnew | hlog
    · cases hnew
      exact hne (h.sole k' client t s hold hs hid' hid)
    · exact h.settled k r b' hlog hid k' t hold hid'
  · intro k t ht
    exact h.written k t (Config.of_ended_sessions ht).2
  · intro k r built hlog hid
    rcases List.mem_cons.1 hlog with hnew | hlog
    · cases hnew
      -- the discipline ends with both points stored
      have hreturns := h.sound.obeying client s hs
      rw [hb] at hreturns
      obtain ⟨hbuilds, himage, htext⟩ := hreturns
      obtain ⟨hstoredImage, hstoredText⟩ := h.written client s hs hid built hbuilds
      have hrequest := request_progressOf s
      obtain ⟨images, texts, -, -, hbuild⟩ := hbuilds
      rw [hrequest] at hbuild hstoredImage hstoredText
      exact ⟨⟨_, hbuild⟩, hstoredImage himage, hstoredText htext⟩
    · exact h.stays k r built hlog hid

/-- An upload is abandoned. -/
theorem abort (h : cfg.Owned id) (client : κ) :
    IndexConfig.Owned id { cfg with sessions := Function.update cfg.sessions client none } where
  sound := h.sound.abort client
  returned_started := h.returned_started
  sole k k' t t' ht ht' :=
    h.sole k k' t t' (Config.of_ended_sessions ht).2 (Config.of_ended_sessions ht').2
  settled k r b hlog hid k' t ht := h.settled k r b hlog hid k' t (Config.of_ended_sessions ht).2
  written k t ht := h.written k t (Config.of_ended_sessions ht).2
  stays := h.stays

/-- **Every move that starts no second upload for the id keeps it.** -/
theorem step (h : cfg.Owned id) {l : Label κ (UploadRequest ι V ε) Empty}
    (hsole : KeepsSole id cfg l) (hstep : indexMachine.step cfg l = some cfg') :
    cfg'.Owned id :=
  Machine.step_rule hstep (fun client request hl _ => h.start (hsole client request hl))
    (fun _ _ _ _ _ _ hi => h.answer hi) (fun _ _ _ _ hI hs hb => hI.finish hs hb)
    (fun client _ _ _ => h.abort client) nofun

end IndexConfig.Owned

/-! ### Every run -/

variable [DecidableEq κ]

/-- **Whatever is uploaded, in whatever order and with whatever failures**, the text collection
stays within the image collection, and every entry was built by an upload that was started. -/
theorem index_sound {cfg : IndexConfig ι V ε κ}
    (h : Reach indexMachine.step (fun _ _ => True) IndexConfig.init cfg) :
    Nested cfg.store ∧ Catalogued cfg := by
  have hsound : cfg.Sound := h.invariant .init fun _ _ _ hI _ hstep => hI.step hstep
  exact ⟨hsound.nested, hsound.catalogued⟩

/-- **An upload that has returned stays in both collections**, whatever other uploads do, if no
other upload has its id. -/
theorem sole_upload_stored {id : ι} {cfg : IndexConfig ι V ε κ}
    (h : Reach indexMachine.step (KeepsSole id) IndexConfig.init cfg) {client : κ}
    {request : UploadRequest ι V ε} {built : Product ι V}
    (hreturned : cfg.Returned client request built) (hid : request.id = id) :
    request.IsStored built cfg.store := by
  have howned : cfg.Owned id := h.invariant (.init id) fun _ _ _ hI hsole hstep =>
    hI.step hsole hstep
  exact howned.stays client request built hreturned hid

end ProductIntelligence
