import ProductIntelligence.Queue.RedisQueue

/-!
# What each queue operation does

When operations execute one at a time, each is a function on the store.  What it does
to one id is told on the id's *slot*: how often each structure holds the id, and its
record.

## Main definitions

* `Call.Reply`, `Call.program`, `atOnce` — the operations as commands in their own right.
* `Slot`, `Redis.slot` — the store as one id sees it.
* `Slot.failAttempt` — what a retry makes of a slot.

## Main results

* `slot_enqueue`, `slot_ack`, `slot_update`, `slot_retry`, `slot_promoted`,
  `run_dequeue`, `slot_requeueStaleJobs` — one specification for each operation.
-/

namespace ProductIntelligence

open Effects Program RedisQueue Redis

variable {P : Type}

namespace RedisQueue.Call

/-- What each operation returns. -/
abbrev Reply : Call P → Type
  | .dequeue => Option (Job P)
  | .requeueStaleJobs _ => ℕ
  | _ => Unit

/-- The program of each operation. -/
def program (retryDelaySeconds : Time) : (call : Call P) → QueueProgram P call.Reply
  | .enqueue job => RedisQueue.enqueue job
  | .dequeue => RedisQueue.dequeue
  | .ack job => RedisQueue.ack job
  | .retry job error => RedisQueue.retry retryDelaySeconds job error
  | .update job => RedisQueue.update job
  | .requeueStaleJobs older => RedisQueue.requeueStaleJobs retryDelaySeconds older

end RedisQueue.Call

/-- The queue with every operation executed whole. -/
def atOnce (retryDelaySeconds : Time) : Handler (@Call.Reply P) (Redis P) :=
  fun call r => (call.program retryDelaySeconds).run Redis.exec r

/-- How often each structure holds an id, and the id's record. -/
@[ext] structure Slot (P : Type) where
  pending : ℕ
  processing : ℕ
  delayed : ℕ
  deadLetter : ℕ
  record : Option (Job P)

/-- The slot of an id. -/
def Redis.slot (r : Redis P) (id : UUID) : Slot P where
  pending := r.pending.count id
  processing := (keys r.processing).count id
  delayed := (keys r.delayed).count id
  deadLetter := r.deadLetter.count id
  record := r.jobs id

/-! ### Counting members -/

theorem count_keys_hdel {id j : UUID} {l : List (UUID × Time)} :
    (keys (hdel j l)).count id = if id = j then 0 else (keys l).count id := by
  by_cases hid : id = j
  · subst hid
    rw [if_pos rfl, List.count_eq_zero]
    exact fun hmem => (mem_keys_hdel.mp hmem).2 rfl
  · rw [if_neg hid]
    induction l with
    | nil => rfl
    | cons e l ih =>
      by_cases he : e.1 = j
      · have hne : e.1 ≠ id := fun heq => hid (heq ▸ he)
        have hdrop : hdel j (e :: l) = hdel j l := by simp [hdel, he]
        rw [hdrop, ih, keys, keys, List.map_cons, List.count_cons_of_ne (by simpa using hne)]
      · have hkeep : hdel j (e :: l) = e :: hdel j l := by simp [hdel, he]
        rw [hkeep, keys, keys, List.map_cons, List.map_cons, List.count_cons, List.count_cons]
        exact congrArg (· + _) ih

theorem count_keys_zadd {id j : UUID} {score : Time} {l : List (UUID × Time)} :
    (keys (zadd j score l)).count id = if id = j then 1 else (keys l).count id := by
  have hperm := (List.perm_orderedInsert ranksBefore (j, score) (hdel j l)).map Prod.fst
  rw [zadd, keys, hperm.count_eq, List.map_cons, List.count_cons]
  change (keys (hdel j l)).count id + _ = _
  rw [count_keys_hdel]
  by_cases hid : id = j
  · simp [hid]
  · simp [hid, Ne.symm hid]

theorem count_keys_hset {id j : UUID} {value : Time} {l : List (UUID × Time)} (hj : j ∉ keys l) :
    (keys (hset j value l)).count id = (keys l).count id + if id = j then 1 else 0 := by
  rw [hset, if_neg hj, keys, List.map_append, List.count_append]
  congr 1
  by_cases hid : id = j
  · simp [hid]
  · simp [hid, Ne.symm hid]

/-! ### The operations on one job -/

theorem slot_enqueue (delay : Time) (job : Job P) (r : Redis P) (id : UUID) :
    (atOnce delay (.enqueue job) r).2.slot id =
      if id = job.jobId then
        { r.slot id with pending := (r.slot id).pending + 1, record := some job }
      else r.slot id := by
  have hrun : (atOnce delay (.enqueue job) r).2 =
      { r with
        jobs := Function.update r.jobs job.jobId (some job)
        productJob := Function.update r.productJob job.productId (some job.jobId)
        pending := r.pending ++ [job.jobId] } := rfl
  rw [hrun]
  by_cases hid : id = job.jobId
  · simp [Redis.slot, hid]
  · simp [Redis.slot, hid, Ne.symm hid]

theorem slot_ack (delay : Time) (job : Job P) (r : Redis P) (id : UUID) :
    (atOnce delay (.ack job) r).2.slot id =
      if id = job.jobId then { r.slot id with processing := 0 } else r.slot id := by
  have hrun : (atOnce delay (.ack job) r).2 =
      { r with processing := hdel job.jobId r.processing } := rfl
  rw [hrun]
  by_cases hid : id = job.jobId <;> simp [Redis.slot, count_keys_hdel, hid]

theorem slot_update (delay : Time) (job : Job P) (r : Redis P) (id : UUID) :
    (atOnce delay (.update job) r).2.slot id =
      if id = job.jobId then { r.slot id with record := some job } else r.slot id := by
  have hrun : (atOnce delay (.update job) r).2 =
      { r with
        jobs := Function.update r.jobs job.jobId (some job)
        productJob := Function.update r.productJob job.productId (some job.jobId) } := rfl
  rw [hrun]
  by_cases hid : id = job.jobId <;> simp [Redis.slot, hid]

/-- What a retry makes of the slot of its job: the record counts the attempt, and the
id waits out a backoff or is a dead letter. -/
def Slot.failAttempt (s : Slot P) (job : Job P) (error : String) (now : Time) : Slot P :=
  let failed := failedAttempt job error now
  if failed.maxRetries < failed.retryCount then
    { s with
      processing := 0
      deadLetter := s.deadLetter + 1
      record := some { failed with status := .failed } }
  else
    { s with
      processing := 0
      delayed := 1
      record := some { failed with status := .retrying } }

theorem Slot.failAttempt_exhausted {s : Slot P} {job : Job P} {error : String} {now : Time}
    (h : job.maxRetries < job.retryCount + 1) :
    s.failAttempt job error now =
      { s with
        processing := 0
        deadLetter := s.deadLetter + 1
        record := some { failedAttempt job error now with status := .failed } } :=
  if_pos h

theorem Slot.failAttempt_delayed {s : Slot P} {job : Job P} {error : String} {now : Time}
    (h : ¬ job.maxRetries < job.retryCount + 1) :
    s.failAttempt job error now =
      { s with
        processing := 0
        delayed := 1
        record := some { failedAttempt job error now with status := .retrying } } :=
  if_neg h

/-- A failed job goes to the dead letters when its retries are exhausted. -/
theorem run_retry_exhausted {delay : Time} {job : Job P} {error : String} {r : Redis P}
    (h : job.maxRetries < job.retryCount + 1) :
    ((RedisQueue.retry delay job error).run Redis.exec r).2 =
      { r with
        processing := hdel job.jobId r.processing
        jobs := Function.update r.jobs job.jobId
          (some { failedAttempt job error r.clock with status := .failed })
        productJob := Function.update r.productJob job.productId (some job.jobId)
        deadLetter := r.deadLetter ++ [job.jobId] } := by
  have hmax : (failedAttempt job error r.clock).maxRetries <
      (failedAttempt job error r.clock).retryCount := h
  simp only [RedisQueue.retry, perform_bind, run_request, Redis.exec, hmax, if_true]
  rfl

/-- A failed job waits out its backoff otherwise. -/
theorem run_retry_delayed {delay : Time} {job : Job P} {error : String} {r : Redis P}
    (h : ¬ job.maxRetries < job.retryCount + 1) :
    ((RedisQueue.retry delay job error).run Redis.exec r).2 =
      { r with
        processing := hdel job.jobId r.processing
        jobs := Function.update r.jobs job.jobId
          (some { failedAttempt job error r.clock with status := .retrying })
        productJob := Function.update r.productJob job.productId (some job.jobId)
        delayed := zadd job.jobId (r.clock + backoff delay (job.retryCount + 1)) r.delayed } := by
  have hmax : ¬ (failedAttempt job error r.clock).maxRetries <
      (failedAttempt job error r.clock).retryCount := h
  simp only [RedisQueue.retry, perform_bind, run_request, Redis.exec, hmax, if_false]
  rfl

private theorem slot_run_retry (delay : Time) (job : Job P) (error : String) (r : Redis P)
    (id : UUID) :
    ((RedisQueue.retry delay job error).run Redis.exec r).2.slot id =
      if id = job.jobId then (r.slot id).failAttempt job error r.clock else r.slot id := by
  by_cases hmax : job.maxRetries < job.retryCount + 1
  · rw [run_retry_exhausted hmax, Slot.failAttempt_exhausted hmax]
    by_cases hid : id = job.jobId
    · simp [Redis.slot, hid, count_keys_hdel]
    · simp [Redis.slot, hid, Ne.symm hid, count_keys_hdel]
  · rw [run_retry_delayed hmax, Slot.failAttempt_delayed hmax]
    by_cases hid : id = job.jobId
    · simp [Redis.slot, hid, count_keys_hdel, count_keys_zadd]
    · simp [Redis.slot, hid, count_keys_hdel, count_keys_zadd]

theorem slot_retry (delay : Time) (job : Job P) (error : String) (r : Redis P) (id : UUID) :
    (atOnce delay (.retry job error) r).2.slot id =
      if id = job.jobId then (r.slot id).failAttempt job error r.clock else r.slot id :=
  slot_run_retry delay job error r id

/-! ### Dequeuing -/

/-- The ids `promote_due` finds ready. -/
def Redis.due (r : Redis P) : List UUID := zrangebyscore 0 r.clock r.delayed

/-- The store after the due ids were promoted. -/
def Redis.promoted (r : Redis P) : Redis P :=
  ((promoteDueDelayedJobs : QueueProgram P Unit).run Redis.exec r).2

private theorem slot_run_promote {ids : List UUID} (hids : ids.Nodup) (r : Redis P) (id : UUID) :
    ((promote ids : QueueProgram P Unit).run Redis.exec r).2.slot id =
      if id ∈ ids then { r.slot id with pending := (r.slot id).pending + 1, delayed := 0 }
      else r.slot id := by
  induction ids generalizing r with
  | nil => rfl
  | cons j ids ih =>
    obtain ⟨hj, hids⟩ := List.nodup_cons.mp hids
    simp only [promote, perform_bind, run_request, Redis.exec]
    rw [ih hids]
    by_cases hid : id = j
    · subst hid
      simp [Redis.slot, hj, count_keys_hdel]
    · by_cases hmem : id ∈ ids <;> simp [Redis.slot, hid, Ne.symm hid, hmem, count_keys_hdel]

theorem nodup_due {r : Redis P} (h : (keys r.delayed).Nodup) : r.due.Nodup :=
  h.sublist (List.filter_sublist.map _)

/-- **Promotion** moves each due id from the delayed set to the pending list. -/
theorem slot_promoted {r : Redis P} (h : (keys r.delayed).Nodup) (id : UUID) :
    r.promoted.slot id =
      if id ∈ r.due then { r.slot id with pending := (r.slot id).pending + 1, delayed := 0 }
      else r.slot id :=
  slot_run_promote (nodup_due h) r id

/-- Promotion leaves the records alone. -/
theorem record_promoted {r : Redis P} (h : (keys r.delayed).Nodup) (id : UUID) :
    (r.promoted.slot id).record = r.jobs id := by
  rw [slot_promoted h]
  split <;> rfl

private theorem clock_run_promote (ids : List UUID) (r : Redis P) :
    ((promote ids : QueueProgram P Unit).run Redis.exec r).2.clock = r.clock := by
  induction ids generalizing r with
  | nil => rfl
  | cons j ids ih => exact ih _

@[simp] theorem clock_promoted (r : Redis P) : r.promoted.clock = r.clock :=
  clock_run_promote r.due r

/-- The record a `dequeue` saves and hands out. -/
def running (job : Job P) (now : Time) : Job P := { job with status := .running, updatedAt := now }

/-- **`dequeue`** promotes, then pops: an empty list hands out nothing, an id without a
record is dropped, and a job is handed out as running. -/
theorem run_dequeue (delay : Time) (r : Redis P) :
    atOnce delay .dequeue r =
      match r.promoted.pending with
      | [] => (none, r.promoted)
      | id :: rest =>
        match r.promoted.jobs id with
        | none => (none, { r.promoted with pending := rest })
        | some job =>
          (some (running job r.clock),
            { r.promoted with
              pending := rest
              processing := hset job.jobId r.clock r.promoted.processing
              jobs := Function.update r.promoted.jobs job.jobId (some (running job r.clock))
              productJob :=
                Function.update r.promoted.productJob job.productId (some job.jobId) }) := by
  have hpromoted : (promoteDueDelayedJobs.run Redis.exec r).2 = r.promoted := rfl
  refine (run_bind Redis.exec promoteDueDelayedJobs _ r).trans ?_
  simp only [perform_bind, run_request, Redis.exec, hpromoted]
  cases hpending : r.promoted.pending with
  | nil =>
    have hsame : { r.promoted with pending := [] } = r.promoted := by rw [← hpending]
    exact congrArg (Prod.mk none) hsame
  | cons id rest =>
    cases hjob : r.promoted.jobs id with
    | none => simp [RedisQueue.get, perform, Redis.exec, hjob]
    | some job =>
      simp [RedisQueue.get, save, perform, Redis.exec, hjob, running]

/-! ### Recovering stale jobs -/

/-- The id has been in flight for the given time or longer. -/
def staleIn (older now : Time) (inFlight : List (UUID × Time)) (id : UUID) : Prop :=
  ∃ e ∈ inFlight, e.1 = id ∧ ¬ now - e.2 < older

instance {older now : Time} {inFlight : List (UUID × Time)} {id : UUID} :
    Decidable (staleIn older now inFlight id) :=
  inferInstanceAs (Decidable (∃ e ∈ inFlight, e.1 = id ∧ ¬ now - e.2 < older))

/-- The ids `requeue_stale_jobs` recovers. -/
def Redis.Stale (r : Redis P) (older : Time) (id : UUID) : Prop :=
  staleIn older r.clock r.processing id

instance {r : Redis P} {older : Time} {id : UUID} : Decidable (r.Stale older id) :=
  inferInstanceAs (Decidable (staleIn older r.clock r.processing id))

/-- What recovering an id makes of its slot. -/
def Slot.recover (s : Slot P) (now : Time) : Slot P :=
  match s.record with
  | none => { s with processing := 0 }
  | some job => s.failAttempt job staleError now

/-- Records are stored under their own ids. -/
def Redis.Own (r : Redis P) : Prop := ∀ id job, r.jobs id = some job → job.jobId = id

private theorem run_retry_frame (delay : Time) (job : Job P) (error : String) {r : Redis P}
    (hown : r.Own) : ((RedisQueue.retry delay job error).run Redis.exec r).2.Own ∧
      ((RedisQueue.retry delay job error).run Redis.exec r).2.clock = r.clock := by
  have hupdate : ∀ failed : Job P, failed.jobId = job.jobId → ∀ id j,
      Function.update r.jobs job.jobId (some failed) id = some j → j.jobId = id := by
    intro failed hfailed id j hj
    by_cases hid : id = job.jobId
    · subst hid
      rw [Function.update_self] at hj
      cases hj
      exact hfailed
    · rw [Function.update_of_ne hid] at hj
      exact hown id j hj
  by_cases hmax : job.maxRetries < job.retryCount + 1
  · rw [run_retry_exhausted hmax]
    exact ⟨hupdate _ rfl, rfl⟩
  · rw [run_retry_delayed hmax]
    exact ⟨hupdate _ rfl, rfl⟩

private theorem slot_run_requeueEach {delay older now : Time} {l : List (UUID × Time)}
    (hl : (keys l).Nodup) {n : ℕ} {r : Redis P} (hown : r.Own) (id : UUID) :
    ((requeueEach delay older now l n : QueueProgram P ℕ).run Redis.exec r).2.slot id =
      if staleIn older now l id then (r.slot id).recover r.clock else r.slot id := by
  induction l generalizing r n with
  | nil => simp [requeueEach, staleIn]
  | cons e l ih =>
    obtain ⟨j, t⟩ := e
    obtain ⟨hj, hl⟩ := List.nodup_cons.mp hl
    -- the id of the head is not in flight a second time
    have hhead : ¬ staleIn older now l j := by
      rintro ⟨e, he, rfl, -⟩
      exact hj (List.mem_map.mpr ⟨e, he, rfl⟩)
    rw [requeueEach]
    by_cases hfresh : now - t < older
    · rw [if_pos hfresh, ih hl hown]
      have hiff : staleIn older now ((j, t) :: l) id ↔ staleIn older now l id := by
        simp [staleIn, hfresh]
      simp only [hiff]
    · rw [if_neg hfresh]
      have hiff : staleIn older now ((j, t) :: l) id ↔ id = j ∨ staleIn older now l id := by
        constructor
        · rintro ⟨e, he, rfl, hstale⟩
          rcases List.mem_cons.1 he with rfl | he
          · exact .inl rfl
          · exact .inr ⟨e, he, rfl, hstale⟩
        · rintro (rfl | ⟨e, he, hid, hstale⟩)
          · exact ⟨_, List.mem_cons_self .., rfl, hfresh⟩
          · exact ⟨e, List.mem_cons_of_mem _ he, hid, hstale⟩
      simp only [hiff, RedisQueue.get, perform_bind, run_request, Redis.exec]
      cases hjob : r.jobs j with
      | none =>
        simp only [run_request, Redis.exec]
        rw [ih (r := { r with processing := hdel j r.processing }) hl hown]
        by_cases hid : id = j
        · subst hid
          simp [hhead, Redis.slot, Slot.recover, hjob, count_keys_hdel]
        · simp [Redis.slot, hid, count_keys_hdel]
      | some job =>
        have hjobId : job.jobId = j := hown j job hjob
        simp only [run_bind]
        obtain ⟨hown', hclock⟩ := run_retry_frame delay job staleError hown
        rw [ih hl hown', hclock, slot_run_retry]
        by_cases hid : id = j
        · subst hid
          simp [hhead, hjobId, Slot.recover, Redis.slot, hjob]
        · simp [hid, hjobId]

/-- **Recovery** fails the attempt of every stale id and leaves the others alone. -/
theorem slot_requeueStaleJobs (delay older : Time) {r : Redis P}
    (hnodup : (keys r.processing).Nodup) (hown : r.Own) (id : UUID) :
    (atOnce delay (.requeueStaleJobs older) r).2.slot id =
      if r.Stale older id then (r.slot id).recover r.clock else r.slot id :=
  slot_run_requeueEach hnodup hown id

end ProductIntelligence
