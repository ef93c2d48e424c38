import ProductIntelligence.Queue.Redis

/-!
# The operations of `RedisQueue`

Each operation is a program that issues the commands of the source, in its order.

## Main definitions

* `enqueue`, `dequeue`, `ack`, `retry`, `update`, `requeueStaleJobs` — the operations.
* `promoteDueDelayedJobs`, `save`, `get` — the helpers they share.
* `Call`, `Call.body` — an operation with its arguments, and its program.

## References

`backend/app/queue/redis_queue.py`.
-/

namespace ProductIntelligence

open Effects Program

variable {P : Type}

/-- Programs over the queue's store. -/
abbrev QueueProgram (P α : Type) := Program (@Redis.Reply P) α

/-- Issue one Redis command. -/
abbrev redis (c : Redis.Command P) : QueueProgram P (Redis.Reply c) :=
  perform c

namespace RedisQueue

/-- `_save`: the record, then the product index. -/
def save (job : Job P) : QueueProgram P Unit := do
  redis (.setJob job)
  redis (.setProductJob job.productId job.jobId)

/-- `get`. -/
def get (id : UUID) : QueueProgram P (Option (Job P)) := redis (.getJob id)

/-- `enqueue`. -/
def enqueue (job : Job P) : QueueProgram P Unit := do
  save job
  redis (.rpush .pending job.jobId)

/-- The loop of `_promote_due_delayed_jobs`: the reply of `ZREM` is not looked at. -/
def promote : List UUID → QueueProgram P Unit
  | [] => return ()
  | id :: ids => do
    let _ ← redis (.zrem id)
    redis (.rpush .pending id)
    promote ids

/-- `_promote_due_delayed_jobs`. -/
def promoteDueDelayedJobs : QueueProgram P Unit := do
  let now ← redis .time
  let due ← redis (.zrangebyscore 0 now)
  promote due

/-- `dequeue`. -/
def dequeue : QueueProgram P (Option (Job P)) := do
  promoteDueDelayedJobs
  match ← redis .lpop with
  | none => return none
  | some id =>
    match ← get id with
    | none => return none
    | some job =>
      let dequeuedAt ← redis .time
      redis (.hset job.jobId dequeuedAt)
      let now ← redis .time
      let job := { job with status := .running, updatedAt := now }
      save job
      return some job

/-- `ack`. -/
def ack (job : Job P) : QueueProgram P Unit := do
  let _ ← redis (.hdel job.jobId)
  return ()

/-- What `retry` makes of the record before it decides where the job goes. -/
def failedAttempt (job : Job P) (error : String) (now : Time) : Job P :=
  { job with retryCount := job.retryCount + 1, error := some error, updatedAt := now }

/-- The backoff before the `n`-th retry: `retry_delay_seconds * 2 ** (n - 1)`. -/
def backoff (retryDelaySeconds : Time) (n : ℕ) : Time := retryDelaySeconds * 2 ^ (n - 1)

/-- `retry`. -/
def retry (retryDelaySeconds : Time) (job : Job P) (error : String) : QueueProgram P Unit := do
  let _ ← redis (.hdel job.jobId)
  let now ← redis .time
  let job := failedAttempt job error now
  if job.maxRetries < job.retryCount then
    let job := { job with status := .failed }
    save job
    redis (.rpush .deadLetter job.jobId)
  else
    let job := { job with status := .retrying }
    let now ← redis .time
    let readyAt := now + backoff retryDelaySeconds job.retryCount
    save job
    redis (.zadd job.jobId readyAt)

/-- `update`. -/
def update (job : Job P) : QueueProgram P Unit := save job

/-- The error `requeue_stale_jobs` retries with. -/
def staleError : String := "Worker did not complete this job in time."

/-- The loop of `requeue_stale_jobs`, with the number requeued so far. -/
def requeueEach (retryDelaySeconds olderThanSeconds now : Time) :
    List (UUID × Time) → ℕ → QueueProgram P ℕ
  | [], requeued => return requeued
  | (id, dequeuedAt) :: inFlight, requeued =>
    if now - dequeuedAt < olderThanSeconds then
      requeueEach retryDelaySeconds olderThanSeconds now inFlight requeued
    else do
      match ← get id with
      | none =>
        let _ ← redis (.hdel id)
        requeueEach retryDelaySeconds olderThanSeconds now inFlight requeued
      | some job =>
        retry retryDelaySeconds job staleError
        requeueEach retryDelaySeconds olderThanSeconds now inFlight (requeued + 1)

/-- `requeue_stale_jobs`. -/
def requeueStaleJobs (retryDelaySeconds olderThanSeconds : Time) : QueueProgram P ℕ := do
  let now ← redis .time
  let inFlight ← redis .hgetall
  requeueEach retryDelaySeconds olderThanSeconds now inFlight 0

/-- A call to the queue. -/
inductive Call (P : Type)
  | enqueue (job : Job P)
  | dequeue
  | ack (job : Job P)
  | retry (job : Job P) (error : String)
  | update (job : Job P)
  | requeueStaleJobs (olderThanSeconds : Time)

/-- What a call returns. -/
inductive Result (P : Type)
  | unit
  | job (job : Option (Job P))
  | count (n : ℕ)

/-- The program of a call. -/
def Call.body (retryDelaySeconds : Time) : Call P → QueueProgram P (Result P)
  | .enqueue job => do RedisQueue.enqueue job; return .unit
  | .dequeue => do return .job (← RedisQueue.dequeue)
  | .ack job => do RedisQueue.ack job; return .unit
  | .retry job error => do RedisQueue.retry retryDelaySeconds job error; return .unit
  | .update job => do RedisQueue.update job; return .unit
  | .requeueStaleJobs older => do
    return .count (← RedisQueue.requeueStaleJobs retryDelaySeconds older)

end RedisQueue

end ProductIntelligence
