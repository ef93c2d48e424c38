import ProductIntelligence.Logic.Interleaving
import ProductIntelligence.Queue.Operations

/-!
# The product worker

`process_one` as a program over whole queue operations: it dequeues a job, reports
progress while it runs the upload, and settles the job by `_complete` or `_fail`.

## Main definitions

* `Attempt` — how the code the worker calls behaves during one attempt.
* `processOne` — the worker's loop body.
* `wholeMachine`, `workerMachine` — clients of any kind, and workers, uploads and the recovery
  loop on one queue.

## References

`backend/app/workers/product_worker.py`, `backend/app/workers/worker_manager.py`.
-/

namespace ProductIntelligence

open Effects Program RedisQueue

variable {P : Type}

/-- Programs over whole queue operations. -/
abbrev WorkerProgram (P α : Type) := Program (@Call.Reply P) α

/-- Execute one queue operation. -/
abbrev queue (call : Call P) : WorkerProgram P call.Reply := perform call

/-- How the code around the queue behaves during one attempt: whether `_parse_payload`
and `process_upload` raise and with what text, the clock readings, and the time the
attempt took by the monotonic clock.  Warming the recommendation cache swallows every
exception. -/
structure Attempt where
  parse : Except String Unit
  upload : Except String Unit
  now : ℕ → Time
  duration : Time
  duration_nonneg : 0 ≤ duration

/-- An attempt during which no clock moves. -/
def Attempt.instant (parse upload : Except String Unit) : Attempt :=
  ⟨parse, upload, fun _ => 0, 0, Rat.le_refl⟩

namespace ProductWorker

def stageValidating : String := "Validating Upload"
def stageProcessing : String := "Processing Upload"
def stageCachingRecommendations : String := "Generating Recommendations"
def stageCompleted : String := "Completed"

/-- `_report_progress`: the worker's copy of the job is changed, then saved. -/
def reportProgress (job : Job P) (progress : ℕ) (stage : String) (now : Time) :
    WorkerProgram P (Job P) := do
  let job := { job with progress := progress, currentStage := stage, updatedAt := now }
  queue (.update job)
  return job

/-- The body of the `try`: the worker's copy of the job, and the text of the exception
raised, if any. -/
def attemptUpload (a : Attempt) (job : Job P) : WorkerProgram P (Job P × Option String) := do
  let job ← reportProgress job 10 stageValidating (a.now 0)
  match a.parse with
  | .error e => return (job, some e)
  | .ok () =>
    let job ← reportProgress job 40 stageProcessing (a.now 1)
    match a.upload with
    | .error e => return (job, some e)
    | .ok () =>
      let job ← reportProgress job 80 stageCachingRecommendations (a.now 2)
      return (job, none)

/-- The entry `_complete` adds to the history of attempt `n`, counted from 0. -/
def succeeded (a : Attempt) (n : ℕ) : JobResult where
  attempt := n + 1
  success := true
  durationSeconds := a.duration
  completedAt := a.now 3
  attempt_pos := Nat.le_add_left ..
  duration_nonneg := a.duration_nonneg

/-- The entry `_fail` adds. -/
def failed (a : Attempt) (n : ℕ) (error : String) : JobResult where
  attempt := n + 1
  success := false
  error := some error
  durationSeconds := a.duration
  completedAt := a.now 3
  attempt_pos := Nat.le_add_left ..
  duration_nonneg := a.duration_nonneg

/-- What `_complete` makes of the worker's copy. -/
def completed (a : Attempt) (n : ℕ) (job : Job P) : Job P :=
  { job with
    status := .completed
    progress := 100
    currentStage := stageCompleted
    error := none
    updatedAt := a.now 3
    retryHistory := job.retryHistory ++ [succeeded a n] }

/-- `_complete`. -/
def complete (a : Attempt) (n : ℕ) (job : Job P) : WorkerProgram P Unit := do
  queue (.update (completed a n job))
  queue (.ack (completed a n job))

/-- `_fail`. -/
def fail (a : Attempt) (n : ℕ) (job : Job P) (error : String) : WorkerProgram P Unit :=
  queue (.retry { job with retryHistory := job.retryHistory ++ [failed a n error] } error)

/-- `process_one`: whether there was a job. -/
def processOne (a : Attempt) : WorkerProgram P Bool := do
  match ← queue .dequeue with
  | none => return false
  | some job =>
    let n := job.retryCount
    match ← attemptUpload a job with
    | (job, some error) =>
      fail a n job error
      return true
    | (job, none) =>
      complete a n job
      return true

end ProductWorker

/-- What goes on around a queue: an upload request queues a job, a worker runs its loop
body once, the recovery loop checks for stale jobs. -/
inductive Activity (P : Type)
  | upload (job : Job P)
  | processOne (a : Attempt)
  | recover

/-- The program of each activity; `jobTimeout` is `job_timeout_seconds`. -/
def Activity.body (jobTimeout : Time) : Activity P → WorkerProgram P Unit
  | .upload job => queue (.enqueue job)
  | .processOne a => do let _ ← ProductWorker.processOne a
  | .recover => do let _ ← queue (.requeueStaleJobs jobTimeout)

/-- Clients on one queue, interleaved between whole operations. -/
def wholeMachine {O β : Type} (retryDelaySeconds : Time) (body : O → WorkerProgram P β) :
    Machine (@Call.Reply P) (Redis P) O β Redis.Drift where
  handler := atOnce retryDelaySeconds
  body := body
  env := Redis.drift

/-- Workers, uploads and recovery on one queue. -/
def workerMachine (P : Type) (retryDelaySeconds jobTimeout : Time) :
    Machine (@Call.Reply P) (Redis P) (Activity P) Unit Redis.Drift :=
  wholeMachine retryDelaySeconds (Activity.body jobTimeout)

end ProductIntelligence
