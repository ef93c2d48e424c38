import ProductIntelligence.Workers.UploadWorker

/-!
# Retried uploads

A job whose attempts fail or die is handed out again under the same product id, so the retry
finds in the index whatever the earlier attempts have stored.  Where they stored nothing, or
where the index is not looked at, the retry ends as a first attempt would; where they stored the
product, the duplicate check finds the product itself.

## Main definitions

* `Backend.submitted`, `Backend.afterAll` — an upload just queued, and a run from there.
* `Backend.Harmless` — an event that leaves no trace a retry could find.

## Main results

* `Backend.only_afterAll` — the invariant of a harmless run.
* `retried_upload_converges` — after a harmless run a retry ends as a first attempt.
* `retry_refuses_itself` — a run that is not harmless.

## References

`backend/app/workers/product_worker.py`, `backend/app/services/product_service.py`,
`backend/app/services/duplicate/duplicate_detection_service.py`.
-/

namespace ProductIntelligence

open Effects Program

variable {V ε : Type}

namespace Backend

variable (delay : Time) (message : AppException UUID ε → String)

/-- A job that was just queued, alone in the queue. -/
def submitted (job : Job Submission) (store : VectorStore UUID V) (now : Time) : Backend V where
  queue := (atOnce 0 (.enqueue job) { Redis.empty with clock := now }).2
  store := store

/-- The backend after a run of events. -/
def afterAll (s : Backend V) (events : List (BackendEvent V ε)) : Backend V :=
  events.foldl (after delay message) s

/-- The event leaves nothing in the index that a retry could find: detection is off, or every
upload it gets to either stops before its writes or writes what is there already. -/
def Harmless (mode : DuplicateDetectionMode) (job : Job Submission) (s : Backend V)
    (event : BackendEvent V ε) : Prop :=
  mode = .off ∨ ∀ service, s.Calls delay message event service → ∀ point pointText,
    service.Prepares s.store job.payload.1 job.payload.2 (some job.productId) point pointText →
      service.LeavesNoTrace s.store point pointText

/-- Every event of the run is harmless in the state it finds. -/
def HarmlessRun (mode : DuplicateDetectionMode) (job : Job Submission) :
    Backend V → List (BackendEvent V ε) → Prop
  | _, [] => True
  | s, event :: events =>
    s.Harmless delay message mode job event ∧
      HarmlessRun mode job (s.after delay message event) events

variable {delay message} {job : Job Submission} {store : VectorStore UUID V}
  {mode : DuplicateDetectionMode}

/-- What a harmless run keeps of the index: all of it, unless detection is off and the upload
passes every check. -/
def Kept (mode : DuplicateDetectionMode) (job : Job Submission) (store now : VectorStore UUID V) :
    Prop :=
  (mode = .off ∧ FieldsValid job.payload.1 job.payload.2) ∨ now = store

/-- What a harmless event uploads keeps the index. -/
theorem Harmless.uploadKeeps {s : Backend V} {event : BackendEvent V ε}
    (h : s.Harmless delay message mode job event) (hkept : Kept mode job store s.store)
    {service : ProductService UUID V ε} (hcalls : s.Calls delay message event service) :
    UploadKeeps job (Kept mode job store) service := by
  intro now hnow
  by_cases hfree : mode = .off ∧ FieldsValid job.payload.1 job.payload.2
  · exact .inl hfree
  · -- otherwise the index is the one of the beginning, at the event and at the upload
    obtain rfl : now = store := hnow.resolve_left hfree
    have hstore : s.store = now := hkept.resolve_left hfree
    refine .inr (service.outcome_snd_of_leavesNoTrace fun point pointText hprepares => ?_)
    rcases h with hoff | hharmless
    · exact absurd ⟨hoff, hprepares.fieldsValid⟩ hfree
    · rw [← hstore] at hprepares ⊢
      exact hharmless service hcalls point pointText hprepares

/-- One harmless event keeps the invariant. -/
theorem only_after {s : Backend V} (h : Only job (Kept mode job store) s)
    {event : BackendEvent V ε} (hharmless : s.Harmless delay message mode job event) :
    Only job (Kept mode job store) (s.after delay message event) :=
  h.after event fun _ hcalls => hharmless.uploadKeeps h.store hcalls

/-- **A harmless run keeps the invariant**: one job, and the index as described. -/
theorem only_afterAll {s : Backend V} (h : Only job (Kept mode job store) s)
    {events : List (BackendEvent V ε)} (hrun : s.HarmlessRun delay message mode job events) :
    Only job (Kept mode job store) (s.afterAll delay message events) := by
  induction events generalizing s with
  | nil => exact h
  | cons event events ih => exact ih (only_after h hrun.1) hrun.2

/-- A job that was just queued is the only one. -/
theorem only_submitted (mode : DuplicateDetectionMode) (job : Job Submission)
    (store : VectorStore UUID V) (now : Time) :
    Only job (Kept mode job store) (submitted job store now) := by
  have hempty : RecordsOf job { (Redis.empty : Redis Submission) with clock := now } :=
    fun _ _ hcopy => nomatch hcopy
  have hsaved : savesOnly job (.setJob job) := ⟨rfl, rfl, rfl, rfl⟩
  have hrecords : RecordsOf job (submitted job store now).queue := hempty.exec hsaved
  exact ⟨hrecords, .inr rfl⟩

/-- It is handed out to the first worker that asks. -/
theorem dequeue_submitted (job : Job Submission) (store : VectorStore UUID V) (now : Time) :
    (atOnce delay .dequeue (submitted job store now).queue).1 = some (running job now) := by
  have hpromoted : (submitted job store now).queue.promoted = (submitted job store now).queue := rfl
  have hpending : (submitted job store now).queue.pending = [job.jobId] := rfl
  have hjob : (submitted job store now).queue.jobs job.jobId = some job :=
    Function.update_self ..
  rw [run_dequeue, hpromoted, hpending]
  dsimp only
  rw [hjob]
  rfl

/-! ### The next attempt -/

/-- The status of a job. -/
def status (s : Backend V) (jobId : UUID) : Option JobStatus :=
  (s.queue.jobs jobId).map Job.status

/-- What a whole attempt leaves that is handed the job. -/
theorem after_attempt (delay : Time) (message : AppException UUID ε → String) {s : Backend V}
    (h : RecordsOf job s.queue) {copy : Job Submission}
    (hhanded : (atOnce delay .dequeue s.queue).1 = some copy) (service : ProductService UUID V ε)
    (timing : Timing) :
    let outcome := (service.processUpload job.payload.1 job.payload.2
      (some job.productId)).outcome s.store
    (s.after delay message (.attempt service timing none)).store = outcome.2 ∧
      (s.after delay message (.attempt service timing none)).status job.jobId =
        some (statusAfter ((outcome.1.mapError message).map fun _ => ()) copy) := by
  intro outcome
  obtain ⟨hid, hproduct, hpayload, -⟩ := h.handed hhanded
  have hrun := UploadWorker.run_processOne_of_some delay message service timing hhanded
  rw [hpayload, hproduct] at hrun
  rw [after, leaves_none, hrun]
  refine ⟨rfl, ?_⟩
  have hstatus := status_processOne (a := UploadWorker.attempt message timing outcome.1) rfl hhanded
  rw [hid] at hstatus
  exact hstatus

/-- An upload without failure does not tell the index a harmless run has left from the one it
started on. -/
theorem Kept.outcome_eq {service : ProductService UUID V ε} {now : VectorStore UUID V}
    (h : Kept service.duplicateDetectionMode job store now)
    (hworks : service.Works job.payload.1 job.payload.2) :
    let upload := service.processUpload job.payload.1 job.payload.2 (some job.productId)
    (upload.outcome now).1 = (upload.outcome store).1 ∧
      (upload.outcome now).2.image.retrieve job.productId =
        (upload.outcome store).2.image.retrieve job.productId ∧
      (upload.outcome now).2.text.retrieve job.productId =
        (upload.outcome store).2.text.retrieve job.productId := by
  intro upload
  rcases h with ⟨hoff, hvalid⟩ | rfl
  · -- the index is not looked at, and both entries are overwritten
    obtain ⟨built, point, pointText, hpoint, hpointText, houtcome⟩ :=
      service.outcome_of_works hworks hoff hvalid (some job.productId)
    have himage : ∀ collection : Collection UUID V,
        (collection.upsert point).retrieve job.productId = some point := by
      intro collection
      have hself := retrieve_upsert_self collection point
      rwa [hpoint] at hself
    have htext : ∀ collection : Collection UUID V,
        (collection.upsert pointText).retrieve job.productId = some pointText := by
      intro collection
      have hself := retrieve_upsert_self collection pointText
      rwa [hpointText] at hself
    rw [houtcome now, houtcome store]
    exact ⟨rfl, (himage _).trans (himage _).symm, (htext _).trans (htext _).symm⟩
  · exact ⟨rfl, rfl, rfl⟩

end Backend

open Backend

/-- **A retried upload converges** after a harmless run: whatever attempts failed or died before
it, the attempt of a job that was queued ends with the verdict of a first attempt, the same
stored payload, and the same status if the upload is accepted or the job has retries left. -/
theorem retried_upload_converges (delay : Time) (message : AppException UUID ε → String)
    {job : Job Submission} (hfresh : job.retryCount = 0) (store : VectorStore UUID V) (now : Time)
    {service : ProductService UUID V ε} (hworks : service.Works job.payload.1 job.payload.2)
    {events : List (BackendEvent V ε)}
    (hharmless : (submitted job store now).HarmlessRun delay message
      service.duplicateDetectionMode job events)
    {copy : Job Submission}
    (hhanded : (atOnce delay .dequeue
      ((submitted job store now).afterAll delay message events).queue).1 = some copy)
    (timing timing₁ : Timing) :
    let upload := service.processUpload job.payload.1 job.payload.2 (some job.productId)
    let found := (submitted job store now).afterAll delay message events
    let retried := found.after delay message (.attempt service timing none)
    let first := (submitted job store now).after delay message (.attempt service timing₁ none)
    (upload.outcome found.store).1 = (upload.outcome store).1 ∧
      retried.store.image.retrieve job.productId = first.store.image.retrieve job.productId ∧
      retried.store.text.retrieve job.productId = first.store.text.retrieve job.productId ∧
      ((upload.outcome store).1.toOption.isSome ∨ copy.retryCount < copy.maxRetries →
        retried.status job.jobId = first.status job.jobId) := by
  intro upload found retried first
  have hsubmitted := only_submitted service.duplicateDetectionMode job store now
  obtain ⟨hrecords, hkept⟩ := only_afterAll hsubmitted hharmless
  obtain ⟨hretriedStore, hretriedStatus⟩ := after_attempt delay message hrecords hhanded service
    timing
  obtain ⟨hfirstStore, hfirstStatus⟩ := after_attempt delay message hsubmitted.records
    (dequeue_submitted job store now) service timing₁
  replace hfirstStatus : first.status job.jobId =
    some (statusAfter (((upload.outcome store).1.mapError message).map fun _ => ())
      (running job now)) := hfirstStatus
  obtain ⟨hverdict, himage, htext⟩ := hkept.outcome_eq hworks
  refine ⟨hverdict, ?_, ?_, ?_⟩
  · rw [hretriedStore, hfirstStore]
    exact himage
  · rw [hretriedStore, hfirstStore]
    exact htext
  · intro hends
    rw [hretriedStatus, hfirstStatus, hverdict]
    have hmax : copy.maxRetries = job.maxRetries := (hrecords.handed hhanded).maxRetries
    cases hresult : (upload.outcome store).1 with
    | ok built => rfl
    | error e =>
      have hleft : copy.retryCount < copy.maxRetries := by
        rcases hends with haccepted | hleft
        · rw [hresult] at haccepted
          cases haccepted
        · exact hleft
      have hretrying : ¬ copy.maxRetries < copy.retryCount + 1 := by omega
      have hfirst : ¬ (running job now).maxRetries < (running job now).retryCount + 1 := by
        show ¬ job.maxRetries < job.retryCount + 1
        omega
      show some (statusAfter (.error _) copy) = some (statusAfter (.error _) (running job now))
      rw [statusAfter, statusAfter, if_neg hretrying, if_neg hfirst]

/-! ### A shoe that is a duplicate of itself -/

namespace OneShoe

/-- The job of the shoe. -/
def job : Job Submission := Job.queued 1 7 (product, image) 0 5

/-- An attempt that takes no time. -/
def timing : Timing := ⟨fun _ => 0, 0, le_refl 0⟩

/-- The spelling of an exception. -/
def message : AppException UUID Unit → String := fun _ => "error"

/-- The worker dies inside `_complete`, after the record is saved as completed and before it is
acknowledged; the job is recovered and waits out its backoff. -/
def deathInComplete (mode : DuplicateDetectionMode) : List (BackendEvent Unit Unit) :=
  [.attempt (service mode .stored) timing (some 18), .clock 400, .recover 300 none, .clock 500]

/-- The backend it leaves. -/
def found (mode : DuplicateDetectionMode) : Backend Unit :=
  (submitted job nothing 0).afterAll 5 message (deathInComplete mode)

/-- A service that cannot embed a picture. -/
def unreachable : ProductService UUID Unit Unit :=
  { service .block .stored with generateEmbedding := fun _ => .error () }

/-- A first attempt fails at the embedding; in a second the worker dies before the upload, and the
job is recovered. -/
def failuresBeforeUpload : List (BackendEvent Unit Unit) :=
  [.attempt unreachable timing none, .clock 100,
    .attempt (service .block .stored) timing (some 12), .clock 500, .recover 300 none, .clock 600]

/-- The backend they leave. -/
def foundUntouched : Backend Unit :=
  (submitted job nothing 0).afterAll 5 message failuresBeforeUpload

/-- The command is no upload, or one that cannot embed the picture of the shoe. -/
def failsEarly : Command Unit Unit → Bool
  | .upload service _ _ _ =>
    match service.processImage image.storedFilename with
    | .ok metadata => (service.generateEmbedding metadata.processedPath).toOption.isNone
    | .error _ => true
  | .redis _ => true

/-- An event is harmless in every mode if its uploads fail at the embedding. -/
theorem harmless_of_failsEarly {mode : DuplicateDetectionMode} {s : Backend Unit}
    {event : BackendEvent Unit Unit} (h : (s.commands 5 message event).all failsEarly = true) :
    s.Harmless 5 message mode job event := by
  refine .inr ?_
  rintro service ⟨_, _, _, hcalled⟩ point pointText hprepares
  have hfails := List.all_eq_true.1 h _ hcalled
  -- an upload that gets as far as its writes has embedded the picture
  cases hprepares with
  | intro _ _ himage hvector =>
    rw [failsEarly, show service.processImage image.storedFilename = _ from himage] at hfails
    dsimp only at hfails
    rw [hvector] at hfails
    cases hfails

/-- All uploads of a run fail at the embedding. -/
def failEarly : Backend Unit → List (BackendEvent Unit Unit) → Bool
  | _, [] => true
  | s, event :: events =>
    (s.commands 5 message event).all failsEarly && failEarly (s.after 5 message event) events

/-- Such a run is harmless. -/
theorem harmlessRun_of_failEarly {mode : DuplicateDetectionMode} {s : Backend Unit}
    {events : List (BackendEvent Unit Unit)} (h : failEarly s events = true) :
    s.HarmlessRun 5 message mode job events := by
  induction events generalizing s with
  | nil => trivial
  | cons event events ih =>
    rw [failEarly, Bool.and_eq_true] at h
    exact ⟨harmless_of_failsEarly h.1, ih h.2⟩

/-- The status in which an attempt without failure leaves the job. -/
def endsAs (mode : DuplicateDetectionMode) (s : Backend Unit) : Option JobStatus :=
  (s.after 5 message (.attempt (service mode .stored) timing none)).status 1

/-- No collaborator fails. -/
theorem works (mode : DuplicateDetectionMode) : (service mode .stored).Works product image where
  checksum_ok := ⟨_, rfl, by decide⟩
  image_ok := ⟨_, _, rfl, rfl, Nat.one_pos⟩
  text_ok := ⟨_, rfl, Nat.one_pos⟩
  catalog_ok := fun _ _ => ⟨_, rfl⟩
  stored := fun _ => ⟨rfl, rfl⟩

end OneShoe

/-- With detection off the retry after a death inside `_complete` completes, as a first attempt
does; and so does the retry in `BLOCK` mode after failures before the upload's writes. -/
theorem shoe_converges :
    OneShoe.endsAs .off (OneShoe.found .off) =
        OneShoe.endsAs .off (submitted OneShoe.job OneShoe.nothing 0) ∧
      OneShoe.endsAs .block OneShoe.foundUntouched =
        OneShoe.endsAs .block (submitted OneShoe.job OneShoe.nothing 0) := by
  constructor
  · have hhanded : (atOnce 5 .dequeue (OneShoe.found .off).queue).1.isSome := by decide +kernel
    obtain ⟨copy, hcopy⟩ := Option.isSome_iff_exists.1 hhanded
    have hharmless : (submitted OneShoe.job OneShoe.nothing 0).HarmlessRun 5 OneShoe.message .off
        OneShoe.job (OneShoe.deathInComplete .off) :=
      ⟨.inl rfl, .inl rfl, .inl rfl, .inl rfl, trivial⟩
    obtain ⟨-, -, -, hstatus⟩ := retried_upload_converges 5 OneShoe.message
      (rfl : OneShoe.job.retryCount = 0) OneShoe.nothing 0 (OneShoe.works .off) hharmless hcopy
      OneShoe.timing OneShoe.timing
    exact hstatus (.inl (by decide +kernel))
  · have hhanded : (atOnce 5 .dequeue OneShoe.foundUntouched.queue).1.isSome := by decide +kernel
    obtain ⟨copy, hcopy⟩ := Option.isSome_iff_exists.1 hhanded
    have hharmless : (submitted OneShoe.job OneShoe.nothing 0).HarmlessRun 5 OneShoe.message .block
        OneShoe.job OneShoe.failuresBeforeUpload :=
      OneShoe.harmlessRun_of_failEarly (by decide +kernel)
    obtain ⟨-, -, -, hstatus⟩ := retried_upload_converges 5 OneShoe.message
      (rfl : OneShoe.job.retryCount = 0) OneShoe.nothing 0 (OneShoe.works .block) hharmless hcopy
      OneShoe.timing OneShoe.timing
    exact hstatus (.inl (by decide +kernel))

/-- In `BLOCK` mode the retry of an upload whose first attempt died after its writes is refused
as a duplicate of itself, where a first attempt completes. -/
theorem retry_refuses_itself :
    OneShoe.endsAs .block (OneShoe.found .block) = some .retrying ∧
      OneShoe.endsAs .block (submitted OneShoe.job OneShoe.nothing 0) = some .completed := by
  decide +kernel

end ProductIntelligence
