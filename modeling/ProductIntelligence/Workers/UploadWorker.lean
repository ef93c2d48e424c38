import ProductIntelligence.Products.ProcessUpload
import ProductIntelligence.Workers.ProductWorker

/-!
# The worker and the two stores

`process_one` on the job queue and the vector store together: the worker is a program whose
commands are those of the queue's store and one more, `process_upload`, so that it can die
after any of them, inside an operation of the queue or between two.

## Main definitions

* `Backend`, `Backend.Command`, `Backend.exec` — the queue's store and the index, and what a
  worker does to them.
* `UploadWorker.processOne` — the loop body of the worker.
* `BackendEvent`, `Backend.after` — what happens to the backend, and the state it leads to.
* `OfJob`, `Findable` — the records of one job, and that its id and its product lead to one.

## Main results

* `run_processOne_of_some` — it is `ProductWorker.processOne` with the outcome of the upload
  filled in.
* `Backend.Only.after`, `Backend.findable_after` — everything that happens keeps the records to one
  job, which its id and its product lead to.

## References

`backend/app/workers/product_worker.py`, `backend/app/workers/worker_manager.py`.
-/

namespace ProductIntelligence

open Effects Program

/-! ### The backend -/

/-- What an upload queues. -/
abbrev Submission := ProductCreate × ProductImage

/-- The store of the queue and the index. -/
structure Backend (V : Type) where
  queue : Redis Submission
  store : VectorStore UUID V

namespace Backend

variable {V ε α : Type}

/-- What a worker asks of the backend: a command of the queue's store, or one call of
`process_upload` with the collaborators as they behave during the call. -/
inductive Command (V ε : Type)
  | redis (c : Redis.Command Submission)
  | upload (service : ProductService UUID V ε) (product : ProductCreate) (image : ProductImage)
      (productId : UUID)

/-- What each command replies. -/
abbrev Reply : Command V ε → Type
  | .redis c => Redis.Reply c
  | .upload .. => Except (AppException UUID ε) (Product UUID V)

/-- What each command does. -/
def exec : Handler (@Reply V ε) (Backend V)
  | .redis c, s => ((Redis.exec c s.queue).1, { s with queue := (Redis.exec c s.queue).2 })
  | .upload service product image productId, s =>
    let outcome := (service.processUpload product image (some productId)).outcome s.store
    (outcome.1, { s with store := outcome.2 })

end Backend

/-- Programs over the backend. -/
abbrev UploadProgram (V ε α : Type) := Program (@Backend.Reply V ε) α

/-- An operation of the queue, as a program over the backend. -/
def onQueue {V ε α : Type} (p : QueueProgram Submission α) : UploadProgram V ε α :=
  p.expand fun c => perform (Backend.Command.redis c : Backend.Command V ε)

/-- The queue sees an operation as if it were alone. -/
theorem run_onQueue {V ε α : Type} (p : QueueProgram Submission α) (s : Backend V) :
    (onQueue p : UploadProgram V ε α).run Backend.exec s =
      ((p.run Redis.exec s.queue).1, { s with queue := (p.run Redis.exec s.queue).2 }) := by
  rw [onQueue, run_expand]
  induction p generalizing s with
  | done a => rfl
  | request c next ih => exact ih _ _

/-! ### The worker -/

/-- The clock readings of one attempt, and how long it took by the monotonic clock. -/
structure Timing where
  now : ℕ → Time
  duration : Time
  duration_nonneg : 0 ≤ duration

namespace UploadWorker

open ProductWorker

variable {V ε : Type} (delay : Time) (message : AppException UUID ε → String)
  (service : ProductService UUID V ε) (timing : Timing)

/-- The attempt as the queue sees it, once the outcome of the upload is known. -/
def attempt (outcome : Except (AppException UUID ε) (Product UUID V)) : Attempt where
  parse := .ok ()
  upload := (outcome.mapError message).map fun _ => ()
  now := timing.now
  duration := timing.duration
  duration_nonneg := timing.duration_nonneg

/-- `_report_progress`. -/
def reportProgress (job : Job Submission) (progress : ℕ) (stage : String) (now : Time) :
    UploadProgram V ε (Job Submission) := do
  let job := { job with progress := progress, currentStage := stage, updatedAt := now }
  onQueue (RedisQueue.update job)
  return job

/-- `_complete`. -/
def complete (a : Attempt) (n : ℕ) (job : Job Submission) : UploadProgram V ε Unit := do
  onQueue (RedisQueue.update (completed a n job))
  onQueue (RedisQueue.ack (completed a n job))

/-- `_fail`. -/
def fail (a : Attempt) (n : ℕ) (job : Job Submission) (error : String) :
    UploadProgram V ε Unit :=
  onQueue (RedisQueue.retry delay
    { job with retryHistory := job.retryHistory ++ [failed a n error] } error)

/-- `process_one`: whether there was a job.  The payload of the job is the submission itself,
so that parsing it does not fail. -/
def processOne : UploadProgram V ε Bool := do
  match ← onQueue RedisQueue.dequeue with
  | none => return false
  | some job =>
    let n := job.retryCount
    let job ← reportProgress job 10 stageValidating (timing.now 0)
    let job ← reportProgress job 40 stageProcessing (timing.now 1)
    let outcome ← perform
      (Backend.Command.upload service job.payload.1 job.payload.2 job.productId)
    match outcome with
    | .error e =>
      fail delay (attempt message timing outcome) n job (message e)
      return true
    | .ok _ =>
      let job ← reportProgress job 80 stageCachingRecommendations (timing.now 2)
      complete (attempt message timing outcome) n job
      return true

theorem run_reportProgress (job : Job Submission) (progress : ℕ) (stage : String) (now : Time)
    (s : Backend V) :
    (reportProgress job progress stage now : UploadProgram V ε (Job Submission)).run
        Backend.exec s =
      let job := { job with progress := progress, currentStage := stage, updatedAt := now }
      (job, { s with queue := (atOnce delay (.update job) s.queue).2 }) := by
  rw [reportProgress, run_bind, run_onQueue]
  rfl

/-- With nothing to hand out, the index is not touched. -/
theorem run_processOne_of_none {s : Backend V}
    (h : (atOnce delay .dequeue s.queue).1 = none) :
    (processOne delay message service timing).run Backend.exec s =
      (false, { s with queue := (atOnce delay .dequeue s.queue).2 }) := by
  rw [processOne, run_bind, run_onQueue]
  have hnone : (RedisQueue.dequeue.run Redis.exec s.queue).1 = none := h
  rw [hnone]
  rfl

/-- **The worker is the one of the queue** with the outcome of the upload filled in, which runs
on the index as the attempt found it. -/
theorem run_processOne_of_some {s : Backend V} {job : Job Submission}
    (h : (atOnce delay .dequeue s.queue).1 = some job) :
    let outcome := (service.processUpload job.payload.1 job.payload.2
      (some job.productId)).outcome s.store
    (processOne delay message service timing).run Backend.exec s =
      (true,
        { queue := ((ProductWorker.processOne (attempt message timing outcome.1)).run
            (atOnce delay) s.queue).2
          store := outcome.2 }) := by
  intro outcome
  have hsome : (RedisQueue.dequeue.run Redis.exec s.queue).1 = some job := h
  have hupload : ∀ q : Redis Submission,
      Backend.exec (.upload service job.payload.1 job.payload.2 job.productId) ⟨q, s.store⟩ =
        (outcome.1, ⟨q, outcome.2⟩) := fun _ => rfl
  rw [processOne, run_bind, run_onQueue, hsome, ProductWorker.processOne, perform_bind,
    run_request, h]
  dsimp only
  rw [run_bind, run_reportProgress delay, run_bind, run_reportProgress delay, perform_bind,
    run_request]
  dsimp only
  rw [hupload]
  dsimp only
  cases outcome.1 with
  | error e =>
    dsimp only
    rw [run_bind, fail, run_onQueue]
    rfl
  | ok built =>
    dsimp only
    rw [run_bind, run_reportProgress delay, run_bind, complete, run_bind, run_onQueue,
      run_onQueue]
    rfl

end UploadWorker

/-! ### How an attempt ends -/

section Status

variable {P : Type}

/-- The status in which an attempt leaves its job: completed, or retried as long as retries
remain. -/
def statusAfter (upload : Except String Unit) (job : Job P) : JobStatus :=
  match upload with
  | .ok _ => .completed
  | .error _ => if job.maxRetries < job.retryCount + 1 then .failed else .retrying

/-- A retry leaves the job delayed or dead. -/
theorem status_retry (delay : Time) (job : Job P) (error : String) (r : Redis P) :
    ((atOnce delay (.retry job error) r).2.jobs job.jobId).map Job.status =
      some (statusAfter (.error error) job) := by
  have hrecord := congrArg Slot.record (slot_retry delay job error r job.jobId)
  rw [if_pos rfl] at hrecord
  replace hrecord : (atOnce delay (.retry job error) r).2.jobs job.jobId =
    ((r.slot job.jobId).failAttempt job error r.clock).record := hrecord
  rw [hrecord, statusAfter]
  by_cases hmax : job.maxRetries < job.retryCount + 1
  · rw [Slot.failAttempt_exhausted hmax, if_pos hmax]
    rfl
  · rw [Slot.failAttempt_delayed hmax, if_neg hmax]
    rfl

/-- A completed job is recorded as such, and acknowledging it leaves the record alone. -/
theorem status_complete (delay : Time) (job : Job P) (r : Redis P) :
    ((atOnce delay (.ack job) (atOnce delay (.update job) r).2).2.jobs job.jobId).map Job.status =
      some job.status := by
  have hack := congrArg Slot.record
    (slot_ack delay job (atOnce delay (.update job) r).2 job.jobId)
  have hupdate := congrArg Slot.record (slot_update delay job r job.jobId)
  rw [if_pos rfl] at hack hupdate
  have hrecord := hack.trans hupdate
  exact congrArg (Option.map Job.status) hrecord

/-- What becomes of the record of the job a whole attempt was handed. -/
theorem status_processOne {delay : Time} {a : Attempt} (hparse : a.parse = .ok ()) {r : Redis P}
    {job : Job P} (h : (atOnce delay .dequeue r).1 = some job) :
    (((ProductWorker.processOne a).run (atOnce delay) r).2.jobs job.jobId).map Job.status =
      some (statusAfter a.upload job) := by
  rw [ProductWorker.processOne, perform_bind, run_request, h]
  dsimp only [ProductWorker.attemptUpload]
  rw [hparse]
  cases a.upload with
  | error e => exact status_retry delay _ e _
  | ok u => exact status_complete delay _ _

end Status

/-! ### The records of one job -/

/-- A record of the job: what never changes over its life. -/
structure OfJob {P : Type} (job copy : Job P) : Prop where
  jobId : copy.jobId = job.jobId
  productId : copy.productId = job.productId
  payload : copy.payload = job.payload
  maxRetries : copy.maxRetries = job.maxRetries

section OneJob

open RedisQueue

variable {P : Type} {job : Job P}

/-- What a command may save. -/
def savesOnly (job : Job P) : Redis.Command P → Prop
  | .setJob copy => OfJob job copy
  | .setProductJob productId jobId => productId = job.productId ∧ jobId = job.jobId
  | _ => True

/-- What a command reads. -/
def readsOnly (job : Job P) : (c : Redis.Command P) → Redis.Reply c → Prop
  | .getJob _, copy => ∀ c ∈ copy, OfJob job c
  | _, _ => True

/-- The discipline of a queue that holds the records of one job. -/
def oneJob (job : Job P) : Discipline (@Redis.Reply P) Unit where
  allows _ c := savesOnly job c
  expects _ c r := readsOnly job c r
  next _ _ _ := ()

/-- The queue holds the records of one job. -/
def RecordsOf (job : Job P) (r : Redis P) : Prop :=
  ∀ id copy, r.jobs id = some copy → OfJob job copy

/-- What is read is a record of the job. -/
theorem RecordsOf.reads {r : Redis P} (h : RecordsOf job r) (c : Redis.Command P) :
    readsOnly job c (Redis.exec c r).1 := by
  cases c with
  | getJob id => exact fun copy hcopy => h id copy hcopy
  | rpush key id => cases key <;> trivial
  | _ => trivial

/-- Saving records of the job keeps the records to it. -/
theorem RecordsOf.exec {r : Redis P} (h : RecordsOf job r) {c : Redis.Command P}
    (hc : savesOnly job c) : RecordsOf job (Redis.exec c r).2 := by
  cases c with
  | setJob copy =>
    intro id found hfound
    replace hfound : Function.update r.jobs copy.jobId (some copy) id = some found := hfound
    by_cases hid : id = copy.jobId
    · rw [hid, Function.update_self] at hfound
      cases hfound
      exact hc
    · rw [Function.update_of_ne hid] at hfound
      exact h id found hfound
  | rpush key id => cases key <;> exact h
  | _ => exact h

/-- The job has a record, and its product leads to it. -/
structure Findable (job : Job P) (r : Redis P) : Prop where
  product : r.productJob job.productId = some job.jobId
  record : ∃ copy, r.jobs job.jobId = some copy

/-- Saving records of the job leaves it findable. -/
theorem Findable.exec {r : Redis P} (h : Findable job r) {c : Redis.Command P}
    (hc : savesOnly job c) : Findable job (Redis.exec c r).2 := by
  cases c with
  | setJob copy =>
    refine ⟨h.product, copy, ?_⟩
    rw [← hc.jobId]
    exact Function.update_self ..
  | setProductJob productId jobId =>
    obtain ⟨rfl, rfl⟩ := hc
    exact ⟨Function.update_self .., h.record⟩
  | rpush key id => cases key <;> exact ⟨h.product, h.record⟩
  | _ => exact ⟨h.product, h.record⟩

/-- Anything may be returned. -/
private def Whatever {α : Type} (_ : α) (_ : Unit) : Prop := True

private theorem save_only {copy : Job P} (h : OfJob job copy) :
    (save copy).Obeys (oneJob job) Whatever () :=
  ⟨h, fun _ _ => ⟨⟨h.productId, h.jobId⟩, fun _ _ => trivial⟩⟩

private theorem promote_only (ids : List UUID) :
    (promote ids : QueueProgram P Unit).Obeys (oneJob job) Whatever () := by
  induction ids with
  | nil => trivial
  | cons id ids ih => exact ⟨trivial, fun _ _ => ⟨trivial, fun _ _ => ih⟩⟩

private theorem retry_only {delay : Time} {copy : Job P} (h : OfJob job copy) (error : String) :
    (retry delay copy error).Obeys (oneJob job) Whatever () := by
  have hsame : ∀ status now, OfJob job { failedAttempt copy error now with status := status } :=
    fun _ _ => ⟨h.jobId, h.productId, h.payload, h.maxRetries⟩
  simp only [retry, perform_bind, obeys_request]
  refine ⟨trivial, fun _ _ => ⟨trivial, fun now _ => ?_⟩⟩
  split
  · exact (save_only (hsame .failed now)).bind fun _ _ _ => ⟨trivial, fun _ _ => trivial⟩
  · refine ⟨trivial, fun _ _ => ?_⟩
    exact (save_only (hsame .retrying now)).bind fun _ _ _ => ⟨trivial, fun _ _ => trivial⟩

private theorem requeueEach_only (delay older now : Time) (inFlight : List (UUID × Time)) (n : ℕ) :
    (requeueEach delay older now inFlight n : QueueProgram P ℕ).Obeys (oneJob job) Whatever () := by
  induction inFlight generalizing n with
  | nil => trivial
  | cons e inFlight ih =>
    obtain ⟨id, dequeuedAt⟩ := e
    rw [requeueEach]
    split
    · exact ih n
    · refine ⟨trivial, fun copy hcopy => ?_⟩
      cases copy with
      | none => exact ⟨trivial, fun _ _ => ih n⟩
      | some copy => exact (retry_only (hcopy copy rfl) _).bind fun _ _ _ => ih (n + 1)

private theorem requeueStaleJobs_only (delay older : Time) :
    (requeueStaleJobs delay older : QueueProgram P ℕ).Obeys (oneJob job) Whatever () :=
  ⟨trivial, fun _ _ => ⟨trivial, fun _ _ => requeueEach_only delay older _ _ 0⟩⟩

/-- A job handed out is the one of the records. -/
private theorem dequeue_only :
    (dequeue : QueueProgram P (Option (Job P))).Obeys (oneJob job)
      (fun copy _ => ∀ c ∈ copy, OfJob job c) () := by
  have hpromote : (promoteDueDelayedJobs : QueueProgram P Unit).Obeys (oneJob job) Whatever () :=
    ⟨trivial, fun _ _ => ⟨trivial, fun due _ => promote_only due⟩⟩
  refine hpromote.bind fun _ _ _ => ⟨trivial, fun id _ => ?_⟩
  cases id with
  | none => exact fun c hc => nomatch hc
  | some id =>
    refine ⟨trivial, fun copy hcopy => ?_⟩
    cases copy with
    | none => exact fun c hc => nomatch hc
    | some copy =>
      have hsame : ∀ now, OfJob job (running copy now) := by
        intro now
        obtain ⟨hid, hproduct, hpayload, hmax⟩ := hcopy copy rfl
        exact ⟨hid, hproduct, hpayload, hmax⟩
      refine ⟨trivial, fun _ _ => ⟨trivial, fun _ _ => ⟨trivial, fun now _ => ?_⟩⟩⟩
      refine (save_only (hsame now)).bind ?_
      intro _ _ _
      rintro c ⟨⟩
      exact hsame now

/-- The job a worker is handed is the one of the records. -/
theorem RecordsOf.handed {r : Redis P} (h : RecordsOf job r) {delay : Time} {copy : Job P}
    (hhanded : (atOnce delay .dequeue r).1 = some copy) : OfJob job copy := by
  have hexp : ∀ (r : Redis P) (g : Unit) (c : Redis.Command P), RecordsOf job r →
      (oneJob job).allows g c → (oneJob job).expects g c (Redis.exec c r).1 :=
    fun _ _ c hr _ => hr.reads c
  have hkeep : ∀ (r : Redis P) (g : Unit) (c : Redis.Command P), RecordsOf job r →
      (oneJob job).allows g c → RecordsOf job (Redis.exec c r).2 :=
    fun _ _ _ hr hc => hr.exec hc
  obtain ⟨-, -, hcopy⟩ := dequeue_only.run hexp hkeep h
  exact hcopy copy hhanded

end OneJob

/-! ### What happens to the backend -/

/-- An event: an attempt to process a job, a check for stale jobs, or time passing.  The first
two may die after a number of commands. -/
inductive BackendEvent (V ε : Type)
  | attempt (service : ProductService UUID V ε) (timing : Timing) (death : Option ℕ)
  | recover (olderThanSeconds : Time) (death : Option ℕ)
  | clock (t : Time)

namespace Backend

variable {V ε α : Type} (delay : Time) (message : AppException UUID ε → String)

/-- The backend after an event. -/
def after (s : Backend V) : BackendEvent V ε → Backend V
  | .attempt service timing death =>
    (UploadWorker.processOne delay message service timing).leaves exec death s
  | .recover older death =>
    (onQueue (RedisQueue.requeueStaleJobs delay older) : UploadProgram V ε ℕ).leaves exec death s
  | .clock t => { s with queue := { s.queue with clock := t } }

/-- The commands issued in an event. -/
def commands (s : Backend V) : BackendEvent V ε → List (Command V ε)
  | .attempt service timing death =>
    (UploadWorker.processOne delay message service timing).issued exec death s
  | .recover older death =>
    (onQueue (RedisQueue.requeueStaleJobs delay older) : UploadProgram V ε ℕ).issued exec death s
  | .clock _ => []

/-- The event gets as far as calling `process_upload`, with the given collaborators. -/
def Calls (s : Backend V) (event : BackendEvent V ε) (service : ProductService UUID V ε) : Prop :=
  ∃ product image productId,
    Command.upload service product image productId ∈ s.commands delay message event

/-- The backend holds the records of one job, and an index as described. -/
structure Only (job : Job Submission) (kept : VectorStore UUID V → Prop) (s : Backend V) :
    Prop where
  records : RecordsOf job s.queue
  store : kept s.store

/-- What may be asked of the backend: uploads are those of the job. -/
def asksOnly (job : Job Submission) : Command V ε → Prop
  | .redis c => savesOnly job c
  | .upload _ product image productId =>
    (product, image) = job.payload ∧ productId = job.productId

/-- What is read of it. -/
def repliesOnly (job : Job Submission) : (c : Command V ε) → Reply c → Prop
  | .redis c, r => readsOnly job c r
  | .upload .., _ => True

/-- The discipline of workers on one job. -/
def oneUpload (job : Job Submission) : Discipline (@Reply V ε) Unit where
  allows _ c := asksOnly job c
  expects _ c r := repliesOnly job c r
  next _ _ _ := ()

/-- An upload of the job with these collaborators leaves the index as described. -/
def UploadKeeps (job : Job Submission) (kept : VectorStore UUID V → Prop)
    (service : ProductService UUID V ε) : Prop :=
  ∀ store, kept store → kept ((service.processUpload job.payload.1 job.payload.2
    (some job.productId)).outcome store).2

variable {delay message} {job : Job Submission} {kept : VectorStore UUID V → Prop}

private theorem onQueue_only {p : QueueProgram Submission α} {post : α → Unit → Prop}
    (hp : p.Obeys (oneJob job) post ()) :
    (onQueue p : UploadProgram V ε α).Obeys (oneUpload job) post () := by
  have hcommand : ∀ (g d : Unit) (c : Redis.Command Submission), g = d → savesOnly job c →
      (perform (Command.redis c : Command V ε)).Obeys (oneUpload job)
        (fun r d' => readsOnly job c r ∧ () = d') d :=
    fun _ _ c _ hc => ⟨hc, fun r hr => ⟨hr, rfl⟩⟩
  exact (hp.expand hcommand rfl).mono fun a _ ⟨_, _, ha⟩ => ha

/-- Every reply of the backend is as expected. -/
private theorem reply_only {s : Backend V} (h : Only job kept s) (c : Command V ε) :
    repliesOnly job c (exec c s).1 := by
  cases c with
  | upload => trivial
  | redis c => exact h.records.reads c

/-- Every command keeps the records to one job, and the index as the uploads leave it. -/
private theorem exec_only {s : Backend V} (h : Only job kept s) {c : Command V ε}
    (hc : asksOnly job c)
    (hkept : ∀ service product image productId, c = .upload service product image productId →
      UploadKeeps job kept service) : Only job kept (exec c s).2 := by
  cases c with
  | upload service product image productId =>
    obtain ⟨hpayload, rfl⟩ := hc
    have hstore := hkept service product image _ rfl s.store h.store
    rw [← hpayload] at hstore
    exact ⟨h.records, hstore⟩
  | redis c => exact ⟨h.records.exec hc, h.store⟩

private theorem reportProgress_only {copy : Job Submission} (h : OfJob job copy) (progress : ℕ)
    (stage : String) (now : Time) :
    (UploadWorker.reportProgress copy progress stage now : UploadProgram V ε _).Obeys
      (oneUpload job) (fun copy _ => OfJob job copy) () := by
  have hcopy : OfJob job
      { copy with progress := progress, currentStage := stage, updatedAt := now } :=
    ⟨h.jobId, h.productId, h.payload, h.maxRetries⟩
  exact (onQueue_only (save_only hcopy)).bind fun _ _ _ => hcopy

private theorem ack_only (copy : Job Submission) :
    (onQueue (RedisQueue.ack copy) : UploadProgram V ε Unit).Obeys (oneUpload job) Whatever () :=
  ⟨trivial, fun _ _ => trivial⟩

/-- A worker keeps to one job. -/
private theorem processOne_only (service : ProductService UUID V ε) (timing : Timing) :
    (UploadWorker.processOne delay message service timing).Obeys (oneUpload job)
      Whatever () := by
  refine (onQueue_only dequeue_only).bind ?_
  intro copy _ hcopy
  cases copy with
  | none => trivial
  | some copy =>
    refine (reportProgress_only (hcopy copy rfl) _ _ _).bind ?_
    intro copy _ hcopy
    refine (reportProgress_only hcopy _ _ _).bind ?_
    intro copy _ hcopy
    refine ⟨⟨hcopy.payload, hcopy.productId⟩, fun outcome _ => ?_⟩
    cases outcome with
    | error e =>
      have hfailed : ∀ history, OfJob job { copy with retryHistory := history } :=
        fun _ => ⟨hcopy.jobId, hcopy.productId, hcopy.payload, hcopy.maxRetries⟩
      exact (onQueue_only (retry_only (hfailed _) _)).bind fun _ _ _ => trivial
    | ok built =>
      refine (reportProgress_only hcopy _ _ _).bind ?_
      intro copy _ hcopy
      have hcompleted : ∀ a n, OfJob job (ProductWorker.completed a n copy) :=
        fun _ _ => ⟨hcopy.jobId, hcopy.productId, hcopy.payload, hcopy.maxRetries⟩
      exact ((onQueue_only (save_only (hcompleted _ _))).bind fun _ _ _ => ack_only _).bind
        fun _ _ _ => trivial

/-- **Everything that happens keeps the backend to one job**, and the index as the uploads
leave it. -/
theorem Only.after {s : Backend V} (h : Only job kept s) (event : BackendEvent V ε)
    (hkept : ∀ service, s.Calls delay message event service → UploadKeeps job kept service) :
    Only job kept (s.after delay message event) := by
  have hexp : ∀ (s : Backend V) (g : Unit) (c : Command V ε), Only job kept s →
      (oneUpload job).allows g c → (oneUpload job).expects g c (exec c s).1 :=
    fun _ _ c hs _ => reply_only hs c
  have hkeep : ∀ (s : Backend V) (g : Unit) (c : Command V ε), Only job kept s →
      (oneUpload job).allows g c →
      (∀ service product image productId, c = .upload service product image productId →
        UploadKeeps job kept service) → Only job kept (exec c s).2 :=
    fun _ _ _ hs hc hok => exec_only hs hc hok
  have hok : ∀ c ∈ s.commands delay message event, ∀ service product image productId,
      c = .upload service product image productId → UploadKeeps job kept service := by
    rintro _ hc service product image productId rfl
    exact hkept service ⟨product, image, productId, hc⟩
  cases event with
  | attempt service timing death =>
    obtain ⟨-, hleaves⟩ := (processOne_only service timing).leaves hexp hkeep h hok
    exact hleaves
  | recover older death =>
    obtain ⟨-, hleaves⟩ :=
      (onQueue_only (requeueStaleJobs_only delay older)).leaves hexp hkeep h hok
    exact hleaves
  | clock t => exact ⟨h.records, h.store⟩

end Backend

end ProductIntelligence
