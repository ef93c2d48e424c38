import Mathlib.Data.Rat.Defs
import Mathlib.Tactic.Common

/-!
# Background jobs

The record `RedisQueue` persists and moves between its structures, and the status
vocabulary its lifecycle is told in.

## Main definitions

* `JobStatus`, `JobType`, `JobResult`, `Job` — the record and its parts.
* `Job.queued` — the job `POST /products/upload` creates.

## References

`backend/app/jobs/`, and `_queue_for_processing` in `backend/app/api/products.py`.
-/

namespace ProductIntelligence

/-- A UUID is a 128-bit number; the canonical text the store keys on orders the same
way as the number. -/
abbrev UUID := ℕ

/-- Seconds: `time.time()`, `time.monotonic()` and the `datetime` fields. -/
abbrev Time := ℚ

/-- Where a job stands in its lifecycle. -/
inductive JobStatus
  | pending
  | running
  | completed
  | failed
  | retrying
  deriving DecidableEq, Repr

/-- Which pipeline a job runs: there is one. -/
inductive JobType
  | productProcessing
  deriving DecidableEq, Repr

/-- The outcome of one execution attempt. -/
structure JobResult where
  attempt : ℕ
  success : Bool
  error : Option String := none
  durationSeconds : Time
  completedAt : Time
  attempt_pos : 1 ≤ attempt
  duration_nonneg : 0 ≤ durationSeconds

/-- A background job: identity, payload of type `P`, lifecycle state. -/
structure Job (P : Type) where
  jobId : UUID
  productId : UUID
  jobType : JobType := .productProcessing
  status : JobStatus := .pending
  payload : P
  createdAt : Time
  updatedAt : Time
  retryCount : ℕ := 0
  maxRetries : ℕ := 5
  progress : ℕ := 0
  currentStage : String := ""
  error : Option String := none
  retryHistory : List JobResult := []

/-- The job an upload creates: `_queue_for_processing` sets the identifiers, the
payload, the times and `max_retries`, and leaves the rest at its default. -/
def Job.queued {P : Type} (jobId productId : UUID) (payload : P) (now : Time)
    (maxRetries : ℕ) : Job P where
  jobId := jobId
  productId := productId
  payload := payload
  createdAt := now
  updatedAt := now
  maxRetries := maxRetries

end ProductIntelligence
