import ProductIntelligence.Logic.Interleaving
import ProductIntelligence.Queue.RedisQueue

/-!
# Concurrent clients of one queue

Any number of `RedisQueue` clients share one Redis.  Every call is open to every
client at any time and with any argument, and calls interleave command by command.

## Main definitions

* `queueMachine` — the system.
* `enqueuedId`, `ackedId`, `enlistedId`, `handedOutId`, `requeuedId` — the id an event
  is about.
* `Enqueued`, `Acked`, `Enlisted` — what the log says of a job id.
-/

namespace ProductIntelligence

open Effects RedisQueue

variable {P ι : Type}

/-- A state of the clients and their queue. -/
abbrev QueueConfig (P ι : Type) := Config (@Redis.Reply P) (Redis P) ι (Call P) (Result P)

/-- A move of the clients or of the store's surroundings. -/
abbrev QueueLabel (P ι : Type) := Label ι (Call P) Redis.Drift

/-- What the log of a queue records. -/
abbrev QueueEvent (P ι : Type) := Event (@Redis.Reply P) ι (Call P) (Result P)

/-- Clients with the given backoff delay on one store. -/
def queueMachine (P : Type) (retryDelaySeconds : Time) :
    Machine (@Redis.Reply P) (Redis P) (Call P) (Result P) Redis.Drift where
  handler := Redis.exec
  body := Call.body retryDelaySeconds
  env := Redis.drift

/-- An empty queue that no client has called yet. -/
def QueueConfig.init : QueueConfig P ι := ⟨Redis.empty, fun _ => none, []⟩

/-- The id whose `enqueue` an event returns from. -/
def enqueuedId : QueueEvent P ι → Option UUID
  | .returned _ (.enqueue job) _ => some job.jobId
  | _ => none

/-- The id whose `ack` an event returns from. -/
def ackedId : QueueEvent P ι → Option UUID
  | .returned _ (.ack job) _ => some job.jobId
  | _ => none

/-- The id whose `enqueue` an event starts. -/
def enlistedId : QueueEvent P ι → Option UUID
  | .started _ (.enqueue job) => some job.jobId
  | _ => none

/-- The id a `dequeue` hands out as an event returns from it. -/
def handedOutId : QueueEvent P ι → Option UUID
  | .returned _ .dequeue (.job (some job)) => some job.jobId
  | _ => none

/-- The id an event of a retry or of a stale requeue puts into the delayed set. -/
def requeuedId : QueueEvent P ι → Option UUID
  | .ran _ (.retry _ _) ⟨.zadd id _, _⟩ => some id
  | .ran _ (.requeueStaleJobs _) ⟨.zadd id _, _⟩ => some id
  | _ => none

/-- An `enqueue` of the id returned. -/
def Enqueued (log : List (QueueEvent P ι)) (id : UUID) : Prop := ∃ e ∈ log, enqueuedId e = some id

/-- An `ack` of the id returned. -/
def Acked (log : List (QueueEvent P ι)) (id : UUID) : Prop := ∃ e ∈ log, ackedId e = some id

/-- An `enqueue` of the id was started. -/
def Enlisted (log : List (QueueEvent P ι)) (id : UUID) : Prop := ∃ e ∈ log, enlistedId e = some id

instance {log : List (QueueEvent P ι)} {id : UUID} : Decidable (Enqueued log id) :=
  inferInstanceAs (Decidable (∃ e ∈ log, enqueuedId e = some id))

instance {log : List (QueueEvent P ι)} {id : UUID} : Decidable (Acked log id) :=
  inferInstanceAs (Decidable (∃ e ∈ log, ackedId e = some id))

instance {log : List (QueueEvent P ι)} {id : UUID} : Decidable (Enlisted log id) :=
  inferInstanceAs (Decidable (∃ e ∈ log, enlistedId e = some id))

@[simp] theorem enqueued_cons {e : QueueEvent P ι} {log : List (QueueEvent P ι)} {id : UUID} :
    Enqueued (e :: log) id ↔ enqueuedId e = some id ∨ Enqueued log id := by
  simp [Enqueued]

@[simp] theorem acked_cons {e : QueueEvent P ι} {log : List (QueueEvent P ι)} {id : UUID} :
    Acked (e :: log) id ↔ ackedId e = some id ∨ Acked log id := by
  simp [Acked]

@[simp] theorem enlisted_cons {e : QueueEvent P ι} {log : List (QueueEvent P ι)} {id : UUID} :
    Enlisted (e :: log) id ↔ enlistedId e = some id ∨ Enlisted log id := by
  simp [Enlisted]

end ProductIntelligence
