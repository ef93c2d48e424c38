import Mathlib.Algebra.Order.Ring.Rat
import ProductIntelligence.Logic.Reach
import ProductIntelligence.Queue.Operations

/-!
# Runs of the queue, one operation at a time

The operations of any number of clients, executed whole and in some order, with a clock that
does not go back.  What happened is read off the commands each operation issued: the ids it put
on the pending list, the retries it made, the job it handed out.

## Main definitions

* `Executed` — an operation that was executed, with what it did.
* `QueueRun`, `QueueRun.step` — the store and what happened so far, and its moves.
* `Redis.Sound` — what holds of the store in every run.
* `PromotesFirst`, `QueueRun.Fifo` — a dequeue moves every due job before it pops, and the
  pending list is first in, first out.

## Main results

* `requeueEach_rule` — what a retry keeps, the recovery of stale jobs keeps.
* `Redis.Sound.step` — the store stays sound.
* `promotesFirst_dequeue`, `Fifo.call` — promotion, and the order of the pending list.

## References

`backend/app/queue/redis_queue.py`.
-/

namespace ProductIntelligence

open Effects Program RedisQueue Redis

variable {P : Type}

/-! ### What an operation did -/

/-- The id an exchange puts on the pending list. -/
def enteredId : Exchange (@Redis.Reply P) → Option UUID
  | ⟨.rpush .pending id, _⟩ => some id
  | _ => none

/-- The id whose retry an exchange schedules.  A job that has exhausted its retries is not
retried: it goes to the dead letters. -/
def retriedId : Exchange (@Redis.Reply P) → Option UUID
  | ⟨.zadd id _, _⟩ => some id
  | _ => none

/-- An operation that was executed: the call, and the store it was executed on. -/
structure Executed (P : Type) where
  store : Redis P
  call : Call P

namespace Executed

variable (delay : Time) (op : Executed P)

/-- When the operation was executed. -/
def time : Time := op.store.clock

/-- The commands it issued, with their replies. -/
def exchanges : List (Exchange (@Redis.Reply P)) :=
  (op.call.program delay).exchanges Redis.exec op.store

/-- The ids it put on the pending list, in order. -/
def entered : List UUID := (op.exchanges delay).filterMap enteredId

/-- The ids it retried, in order. -/
def retried : List UUID := (op.exchanges delay).filterMap retriedId

/-- The job it handed out. -/
def handedOut : Option (Job P) :=
  match op.call with
  | .dequeue => (atOnce delay .dequeue op.store).1
  | _ => none

/-- The store it left. -/
def after : Redis P := (atOnce delay op.call op.store).2

end Executed

/-! ### Runs -/

/-- The store, and the operations executed so far, oldest first. -/
structure QueueRun (P : Type) where
  store : Redis P
  log : List (Executed P)

/-- A move: a client executes an operation, or the store drifts. -/
inductive QueueMove (P : Type)
  | call (c : Call P)
  | drift (e : Redis.Drift)

/-- A drift that does not turn the clock back. -/
def Redis.Drift.forward (r : Redis P) : Redis.Drift → Bool
  | .clock t => r.clock ≤ t
  | .rehash _ => true

/-- **What a drift forward does**: the clock moves on, or the hash is listed anew. -/
theorem Redis.drift_cases {e : Redis.Drift} {r t : Redis P} (hforward : e.forward r = true)
    (ht : Redis.drift e r = some t) :
    (∃ now, r.clock ≤ now ∧ t = { r with clock := now }) ∨ ∃ l, t = { r with processing := l } := by
  cases e with
  | clock now =>
    cases ht
    exact .inl ⟨now, of_decide_eq_true hforward, rfl⟩
  | rehash l =>
    simp only [Redis.drift] at ht
    split at ht
    · cases ht
      exact .inr ⟨l, rfl⟩
    · cases ht

namespace QueueRun

/-- An empty queue on which nothing was executed. -/
def init : QueueRun P := ⟨Redis.empty, []⟩

/-- One move. -/
def step (delay : Time) (s : QueueRun P) : QueueMove P → Option (QueueRun P)
  | .call c => some ⟨(atOnce delay c s.store).2, s.log ++ [⟨s.store, c⟩]⟩
  | .drift e =>
    if e.forward s.store then (Redis.drift e s.store).map fun r => { s with store := r } else none

variable (delay : Time) (s : QueueRun P)

/-- The ids that entered the pending list, in order. -/
def entered : List UUID := s.log.flatMap (Executed.entered delay)

/-- The ids of the jobs handed out, in order. -/
def handedOut : List UUID := s.log.filterMap fun op => (op.handedOut delay).map Job.jobId

end QueueRun

/-! ### Promotion -/

/-- The loop of a promotion. -/
theorem run_promote (ids : List UUID) (r : Redis P) :
    ((promote ids : QueueProgram P Unit).run Redis.exec r).2 =
      { r with
        pending := r.pending ++ ids
        delayed := r.delayed.filter fun e => e.1 ∉ ids } := by
  induction ids generalizing r with
  | nil => simp [promote]
  | cons id ids ih =>
    simp only [promote, perform_bind, run_request, Redis.exec, ih]
    simp [hdel, List.filter_filter, Bool.and_comm]

/-- **A promotion** moves the due ids to the end of the pending list. -/
theorem promoted_eq (r : Redis P) :
    r.promoted =
      { r with
        pending := r.pending ++ r.due
        delayed := r.delayed.filter fun e => e.1 ∉ r.due } :=
  run_promote r.due r

/-- What the loop of a promotion issues. -/
theorem exchanges_promote (ids : List UUID) (r : Redis P) :
    ((promote ids : QueueProgram P Unit).exchanges Redis.exec r).filterMap enteredId = ids ∧
      ((promote ids : QueueProgram P Unit).exchanges Redis.exec r).filterMap retriedId = [] ∧
      ∀ x ∈ (promote ids : QueueProgram P Unit).exchanges Redis.exec r, x.command ≠ .lpop := by
  induction ids generalizing r with
  | nil => simp [promote, Program.exchanges]
  | cons id ids ih =>
    obtain ⟨hentered, hretried, hlpop⟩ :=
      ih { r with delayed := hdel id r.delayed, pending := r.pending ++ [id] }
    refine ⟨congrArg (id :: ·) hentered, hretried, ?_⟩
    simp only [promote, perform_bind, Program.exchanges]
    refine List.forall_mem_cons.2 ⟨by simp, List.forall_mem_cons.2 ⟨by simp, ?_⟩⟩
    exact hlpop

/-- The commands of a promotion, up to the loop. -/
theorem exchanges_promoteDueDelayedJobs (r : Redis P) :
    (promoteDueDelayedJobs : QueueProgram P Unit).exchanges Redis.exec r =
      ⟨.time, r.clock⟩ :: ⟨.zrangebyscore 0 r.clock, r.due⟩ ::
        (promote r.due : QueueProgram P Unit).exchanges Redis.exec r := rfl

/-- A dequeue promotes, then pops, and then neither pushes nor retries nor pops again. -/
theorem exchanges_dequeue (r : Redis P) :
    ∃ rest, (dequeue : QueueProgram P (Option (Job P))).exchanges Redis.exec r =
        (promoteDueDelayedJobs : QueueProgram P Unit).exchanges Redis.exec r ++
          ⟨.lpop, r.promoted.pending.head?⟩ :: rest ∧
      rest.filterMap enteredId = [] ∧ rest.filterMap retriedId = [] ∧
      ∀ x ∈ rest, x.command ≠ .lpop := by
  have hpromoted : (promoteDueDelayedJobs.run Redis.exec r).2 = r.promoted := rfl
  rw [dequeue, exchanges_bind, hpromoted]
  simp only [perform_bind, Program.exchanges, Redis.exec]
  refine ⟨_, rfl, ?_⟩
  cases r.promoted.pending.head? with
  | none => exact ⟨rfl, rfl, by simp [Program.exchanges]⟩
  | some id =>
    simp only [RedisQueue.get, perform_bind, Program.exchanges, Redis.exec]
    cases r.promoted.jobs id with
    | none => exact ⟨rfl, rfl, by simp [Program.exchanges]⟩
    | some job => exact ⟨rfl, rfl, by simp [Program.exchanges, RedisQueue.save, perform]⟩

/-- What a dequeue puts on the pending list is due, and it retries nothing. -/
theorem Executed.entered_dequeue (delay : Time) (r : Redis P) :
    Executed.entered delay ⟨r, .dequeue⟩ = r.due ∧ Executed.retried delay ⟨r, .dequeue⟩ = [] := by
  obtain ⟨rest, hexchanges, hentered, hretried, -⟩ := exchanges_dequeue r
  obtain ⟨hdue, hnone, -⟩ := exchanges_promote r.due r
  have hall : Executed.exchanges delay ⟨r, .dequeue⟩ = _ := hexchanges
  rw [Executed.entered, Executed.retried, hall, exchanges_promoteDueDelayedJobs]
  simp only [List.filterMap_append, List.filterMap_cons, hentered, hretried, hdue, hnone]
  exact ⟨List.append_nil _, rfl⟩

/-! ### Recovering stale jobs -/

/-- What a retry issues: it schedules one unless the job has exhausted its retries. -/
theorem exchanges_retry (delay : Time) (job : Job P) (error : String) (r : Redis P) :
    ((RedisQueue.retry delay job error).exchanges Redis.exec r).filterMap enteredId = [] ∧
      ((RedisQueue.retry delay job error).exchanges Redis.exec r).filterMap retriedId =
        if job.maxRetries < job.retryCount + 1 then [] else [job.jobId] := by
  have hsame : (failedAttempt job error r.clock).maxRetries <
      (failedAttempt job error r.clock).retryCount ↔ job.maxRetries < job.retryCount + 1 := Iff.rfl
  by_cases hmax : job.maxRetries < job.retryCount + 1
  · simp only [RedisQueue.retry, perform_bind, Program.exchanges, Redis.exec, hsame, hmax, if_true]
    exact ⟨rfl, rfl⟩
  · simp only [RedisQueue.retry, perform_bind, Program.exchanges, Redis.exec, hsame, hmax, if_false]
    exact ⟨rfl, rfl⟩

/-- The recovery of stale jobs puts no id on the pending list. -/
theorem entered_requeueEach {delay older now : Time} (l : List (UUID × Time)) (n : ℕ)
    (r : Redis P) :
    ((requeueEach delay older now l n : QueueProgram P ℕ).exchanges Redis.exec r).filterMap
      enteredId = [] := by
  induction l generalizing n r with
  | nil => rfl
  | cons e l ih =>
    obtain ⟨id, t⟩ := e
    rw [requeueEach]
    split
    · exact ih n r
    · simp only [RedisQueue.get, perform_bind, Program.exchanges, Redis.exec]
      cases r.jobs id with
      | none => exact ih n _
      | some job =>
        simp only [exchanges_bind, List.filterMap_cons, List.filterMap_append, ih,
          (exchanges_retry delay job staleError r).1]
        rfl

/-- **What a retry keeps, the recovery of stale jobs keeps.**  A statement on the ids retried so
far and the store is kept if it is when an id without a record is dropped, and when the
recorded job of a stale id is retried. -/
theorem requeueEach_rule (delay older now : Time) {I : List UUID → Redis P → Prop}
    {l : List (UUID × Time)}
    (habsent : ∀ ids r id, I ids r → I ids { r with processing := hdel id r.processing })
    (hretry : ∀ ids r id job, staleIn older now l id → r.jobs id = some job → I ids r →
      I (ids ++ ((RedisQueue.retry delay job staleError).exchanges Redis.exec r).filterMap retriedId)
        ((RedisQueue.retry delay job staleError).run Redis.exec r).2)
    (ids : List UUID) (n : ℕ) {r : Redis P} (h : I ids r) :
    I (ids ++ ((requeueEach delay older now l n : QueueProgram P ℕ).exchanges Redis.exec
        r).filterMap retriedId)
      ((requeueEach delay older now l n : QueueProgram P ℕ).run Redis.exec r).2 := by
  induction l generalizing ids n r with
  | nil => simpa [requeueEach, Program.exchanges] using h
  | cons e l ih =>
    obtain ⟨id, t⟩ := e
    have hrest : ∀ j, staleIn older now l j → staleIn older now ((id, t) :: l) j := by
      rintro j ⟨e, he, hj⟩
      exact ⟨e, List.mem_cons_of_mem _ he, hj⟩
    have hretry' := fun ids r j job (hj : staleIn older now l j) =>
      hretry ids r j job (hrest j hj)
    rw [requeueEach]
    split
    · exact ih hretry' ids n h
    · next hstale =>
      simp only [RedisQueue.get, perform_bind, Program.exchanges, run_request, Redis.exec]
      cases hjob : r.jobs id with
      | none => exact ih hretry' ids n (habsent ids r id h)
      | some job =>
        have hstep := hretry ids r id job ⟨_, List.mem_cons_self .., rfl, hstale⟩ hjob h
        have hrun := ih hretry' _ (n + 1) hstep
        simp only [exchanges_bind, run_bind]
        rw [List.filterMap_cons, List.filterMap_append]
        rwa [List.append_assoc] at hrun

/-! ### The store in every run -/

/-- What holds of the store in every run: records are stored under their own ids, the delayed
set is a set of times that are not negative, and an id that waits has a record. -/
structure Redis.Sound (r : Redis P) : Prop where
  own : r.Own
  clock : 0 ≤ r.clock
  delayed : (keys r.delayed).Nodup
  ready : ∀ e ∈ r.delayed, 0 ≤ e.2
  pendingRecorded : ∀ id ∈ r.pending, r.jobs id ≠ none
  delayedRecorded : ∀ id ∈ keys r.delayed, r.jobs id ≠ none

/-- The members of a sorted set after an update. -/
theorem mem_zadd {id : UUID} {score : Time} {l : List (UUID × Time)} {e : UUID × Time} :
    e ∈ zadd id score l ↔ e = (id, score) ∨ (e ∈ l ∧ e.1 ≠ id) := by
  rw [zadd, List.mem_orderedInsert, hdel, List.mem_filter, decide_eq_true_eq]

theorem nodup_keys_hdel {id : UUID} {l : List (UUID × Time)} (h : (keys l).Nodup) :
    (keys (hdel id l)).Nodup :=
  h.sublist (List.filter_sublist.map _)

theorem nodup_keys_zadd {id : UUID} {score : Time} {l : List (UUID × Time)}
    (h : (keys l).Nodup) : (keys (zadd id score l)).Nodup := by
  have hperm := (List.perm_orderedInsert ranksBefore (id, score) (hdel id l)).map Prod.fst
  rw [zadd, keys, hperm.nodup_iff, List.map_cons, List.nodup_cons]
  exact ⟨fun hid => (mem_keys_hdel.1 hid).2 rfl, nodup_keys_hdel h⟩

/-- The backoff is not negative. -/
theorem backoff_nonneg {delay : Time} (hdelay : 0 ≤ delay) (n : ℕ) : 0 ≤ backoff delay n :=
  mul_nonneg hdelay (pow_nonneg (by decide +kernel) _)

namespace Redis.Sound

variable {r : Redis P} {delay : Time}

/-- The empty store is sound. -/
theorem empty : (Redis.empty : Redis P).Sound where
  own := nofun
  clock := le_refl (0 : ℚ)
  delayed := List.nodup_nil
  ready := nofun
  pendingRecorded := nofun
  delayedRecorded := nofun

/-- Saving a record keeps the store sound. -/
theorem save (h : r.Sound) (job : Job P) :
    { r with
      jobs := Function.update r.jobs job.jobId (some job)
      productJob := Function.update r.productJob job.productId (some job.jobId) }.Sound := by
  have hkept : ∀ id, r.jobs id ≠ none →
      Function.update r.jobs job.jobId (some job) id ≠ none := by
    intro id hid
    by_cases heq : id = job.jobId
    · simp [heq]
    · rwa [Function.update_of_ne heq]
  refine ⟨?_, h.clock, h.delayed, h.ready, fun id hid => hkept id (h.pendingRecorded id hid),
    fun id hid => hkept id (h.delayedRecorded id hid)⟩
  intro id j (hj : Function.update r.jobs job.jobId (some job) id = some j)
  by_cases heq : id = job.jobId
  · simp only [heq, Function.update_self, Option.some.injEq] at hj
    rw [← hj, heq]
  · rw [Function.update_of_ne heq] at hj
    exact h.own id j hj

/-- So does pushing an id that has a record. -/
theorem push (h : r.Sound) {id : UUID} (hid : r.jobs id ≠ none) :
    { r with pending := r.pending ++ [id] }.Sound := by
  refine ⟨h.own, h.clock, h.delayed, h.ready, ?_, h.delayedRecorded⟩
  intro j hj
  rcases List.mem_append.1 hj with hj | hj
  · exact h.pendingRecorded j hj
  · rwa [List.mem_singleton.1 hj]

/-- So does delaying it. -/
theorem postpone (h : r.Sound) {id : UUID} (hid : r.jobs id ≠ none) {readyAt : Time}
    (hready : 0 ≤ readyAt) : { r with delayed := zadd id readyAt r.delayed }.Sound := by
  refine ⟨h.own, h.clock, nodup_keys_zadd h.delayed, ?_, h.pendingRecorded, ?_⟩
  · intro e he
    rcases mem_zadd.1 he with rfl | ⟨he, -⟩
    · exact hready
    · exact h.ready e he
  · intro j hj
    rcases mem_keys_zadd.1 hj with rfl | hj
    · exact hid
    · exact h.delayedRecorded j hj

/-- The other two structures do not matter. -/
theorem frame (h : r.Sound) (processing : List (UUID × Time)) (deadLetter : List UUID) :
    { r with processing := processing, deadLetter := deadLetter }.Sound :=
  ⟨h.own, h.clock, h.delayed, h.ready, h.pendingRecorded, h.delayedRecorded⟩

/-- A due id is one whose time has come. -/
theorem due_eq (h : r.Sound) : r.due = keys (r.delayed.filter fun e => e.2 ≤ r.clock) := by
  rw [due, zrangebyscore]
  congr 1
  exact List.filter_congr fun e he => by simp [h.ready e he]

/-- A promotion leaves the delayed ids whose time has not come. -/
theorem delayed_promoted (h : r.Sound) :
    r.promoted.delayed = r.delayed.filter fun e => r.clock < e.2 := by
  rw [promoted_eq, h.due_eq]
  refine List.filter_congr fun e he => ?_
  rw [decide_eq_decide, ← not_le]
  refine not_congr ⟨?_, ?_⟩
  · intro hmem
    obtain ⟨e', he', hfst⟩ := List.mem_map.1 hmem
    obtain ⟨he', hle⟩ := List.mem_filter.1 he'
    -- each id is delayed once
    rw [List.inj_on_of_nodup_map h.delayed he' he hfst] at hle
    exact of_decide_eq_true hle
  · intro hle
    exact List.mem_map.2 ⟨e, List.mem_filter.2 ⟨he, decide_eq_true hle⟩, rfl⟩

/-- A promotion keeps the store sound. -/
theorem promoted (h : r.Sound) : r.promoted.Sound := by
  rw [promoted_eq]
  have hsub : (r.delayed.filter fun e => e.1 ∉ r.due).Sublist r.delayed := List.filter_sublist
  refine ⟨h.own, h.clock, h.delayed.sublist (hsub.map _), fun e he => h.ready e (hsub.subset he),
    ?_, fun id hid => h.delayedRecorded id ((hsub.map _).subset hid)⟩
  intro id hid
  rcases List.mem_append.1 hid with hid | hid
  · exact h.pendingRecorded id hid
  · exact h.delayedRecorded id (mem_keys_of_mem_zrangebyscore hid)

/-- Popping keeps the store sound. -/
theorem pop (h : r.Sound) {id : UUID} {rest : List UUID} (hpending : r.pending = id :: rest) :
    { r with pending := rest }.Sound :=
  ⟨h.own, h.clock, h.delayed, h.ready,
    fun j hj => h.pendingRecorded j (hpending ▸ List.mem_cons_of_mem _ hj), h.delayedRecorded⟩

/-- **A dequeue in a sound store** finds nothing to pop, or hands out the job it pops. -/
theorem dequeue_cases (h : r.Sound) (delay : Time) :
    (r.promoted.pending = [] ∧ atOnce delay .dequeue r = (none, r.promoted)) ∨
      ∃ id rest job, r.promoted.pending = id :: rest ∧ job.jobId = id ∧
        atOnce delay .dequeue r =
          (some (running job r.clock),
            { r.promoted with
              pending := rest
              processing := hset job.jobId r.clock r.promoted.processing
              jobs := Function.update r.promoted.jobs job.jobId (some (running job r.clock))
              productJob :=
                Function.update r.promoted.productJob job.productId (some job.jobId) }) ∧
        r.promoted.jobs id = some job := by
  rw [run_dequeue]
  cases hpending : r.promoted.pending with
  | nil => exact .inl ⟨rfl, rfl⟩
  | cons id rest =>
    have hmem : id ∈ r.promoted.pending := hpending ▸ List.mem_cons_self ..
    obtain ⟨job, hjob⟩ := Option.ne_none_iff_exists'.1 (h.promoted.pendingRecorded id hmem)
    simp only [hjob]
    exact .inr ⟨id, rest, job, rfl, h.promoted.own id job hjob, rfl, hjob⟩

/-- A retry keeps the store sound. -/
theorem retry (h : r.Sound) (hdelay : 0 ≤ delay) (job : Job P) (error : String) :
    ((RedisQueue.retry delay job error).run Redis.exec r).2.Sound := by
  by_cases hmax : job.maxRetries < job.retryCount + 1
  · rw [run_retry_exhausted hmax]
    exact (h.save { failedAttempt job error r.clock with status := .failed }).frame _ _
  · rw [run_retry_delayed hmax]
    have hsaved := (h.save { failedAttempt job error r.clock with status := .retrying })
    refine (hsaved.postpone ?_ ?_).frame (hdel job.jobId r.processing) r.deadLetter
    · simp [failedAttempt]
    · exact add_nonneg h.clock (backoff_nonneg hdelay _)

/-- **The store stays sound.** -/
theorem call (h : r.Sound) (hdelay : 0 ≤ delay) (call : Call P) :
    (atOnce delay call r).2.Sound := by
  cases call with
  | enqueue job => exact (h.save job).push (by simp)
  | dequeue =>
    rcases h.dequeue_cases delay with ⟨-, heq⟩ | ⟨id, rest, job, hpending, -, heq, -⟩
    · rw [heq]
      exact h.promoted
    · rw [heq]
      exact ((h.promoted.pop hpending).save (running job r.clock)).frame _ _
  | ack job => exact h.frame _ _
  | retry job error => exact h.retry hdelay job error
  | update job => exact h.save job
  | requeueStaleJobs older =>
    exact requeueEach_rule delay older r.clock (I := fun _ r => Sound r)
      (fun _ r _ h => h.frame _ _) (fun _ r _ job _ _ h => h.retry hdelay job staleError) [] 0 h

/-- So it does when it drifts forward. -/
theorem drift (h : r.Sound) {e : Redis.Drift} (hforward : e.forward r = true) {t : Redis P}
    (ht : Redis.drift e r = some t) : t.Sound := by
  obtain ⟨now, hle, rfl⟩ | ⟨l, rfl⟩ := drift_cases hforward ht
  · exact ⟨h.own, h.clock.trans hle, h.delayed, h.ready, h.pendingRecorded, h.delayedRecorded⟩
  · exact h.frame l r.deadLetter

end Redis.Sound

/-! ### Promotion comes first -/

/-- **A dequeue moves every due job before it pops**: up to its only `LPOP` it has pushed
exactly the delayed ids whose time has come, `LPOP` finds them on the pending list, and the
delayed set keeps the others. -/
def PromotesFirst (delay : Time) (op : Executed P) : Prop :=
  ∃ before reply rest, op.exchanges delay = before ++ ⟨.lpop, reply⟩ :: rest ∧
    (∀ x ∈ before ++ rest, x.command ≠ .lpop) ∧
    before.filterMap enteredId = keys (op.store.delayed.filter fun e => e.2 ≤ op.time) ∧
    reply =
      (op.store.pending ++ keys (op.store.delayed.filter fun e => e.2 ≤ op.time)).head? ∧
    (op.after delay).delayed = op.store.delayed.filter fun e => op.time < e.2

/-- Every dequeue of the run promotes first. -/
def QueueRun.PromotesFirst (delay : Time) (s : QueueRun P) : Prop :=
  ∀ op ∈ s.log, op.call = .dequeue → ProductIntelligence.PromotesFirst delay op

/-- What a dequeue leaves on the pending list and in the delayed set. -/
theorem Redis.Sound.after_dequeue {r : Redis P} (h : r.Sound) (delay : Time) :
    ((atOnce delay .dequeue r).1.map Job.jobId).toList ++ (atOnce delay .dequeue r).2.pending =
        r.promoted.pending ∧
      (atOnce delay .dequeue r).2.delayed = r.promoted.delayed := by
  rcases h.dequeue_cases delay with ⟨-, heq⟩ | ⟨id, rest, job, hpending, hid, heq, -⟩
  · rw [heq]
    exact ⟨rfl, rfl⟩
  · rw [heq, hpending, ← hid]
    exact ⟨rfl, rfl⟩

theorem promotesFirst_dequeue {r : Redis P} (h : r.Sound) (delay : Time) :
    PromotesFirst delay ⟨r, .dequeue⟩ := by
  obtain ⟨rest, hexchanges, -, -, hrest⟩ := exchanges_dequeue r
  obtain ⟨hentered, -, hlpop⟩ := exchanges_promote r.due r
  have hdue : keys (r.delayed.filter fun e => e.2 ≤ r.clock) = r.due := h.due_eq.symm
  refine ⟨_, _, rest, hexchanges, ?_, ?_, ?_, ?_⟩
  · intro x hx
    rcases List.mem_append.1 hx with hx | hx
    · rw [exchanges_promoteDueDelayedJobs] at hx
      rcases List.mem_cons.1 hx with rfl | hx
      · exact nofun
      · rcases List.mem_cons.1 hx with rfl | hx
        · exact nofun
        · exact hlpop x hx
    · exact hrest x hx
  · exact hentered.trans hdue.symm
  · exact congrArg List.head? ((congrArg Redis.pending (promoted_eq r)).trans (hdue ▸ rfl))
  · exact (h.after_dequeue delay).2.trans h.delayed_promoted

/-! ### The order of the pending list -/

/-- **First in, first out**: the ids that entered the pending list are those handed out and
those still on it, in this order. -/
def QueueRun.Fifo (delay : Time) (s : QueueRun P) : Prop :=
  s.entered delay = s.handedOut delay ++ s.store.pending

/-- A retry leaves the pending list and the clock alone. -/
theorem frame_retry (delay : Time) (job : Job P) (error : String) (r : Redis P) :
    ((RedisQueue.retry delay job error).run Redis.exec r).2.pending = r.pending ∧
      ((RedisQueue.retry delay job error).run Redis.exec r).2.clock = r.clock := by
  by_cases hmax : job.maxRetries < job.retryCount + 1
  · rw [run_retry_exhausted hmax]
    exact ⟨rfl, rfl⟩
  · rw [run_retry_delayed hmax]
    exact ⟨rfl, rfl⟩

/-- The recovery of stale jobs leaves the pending list alone. -/
theorem pending_requeueStaleJobs (delay older : Time) (r : Redis P) :
    (atOnce delay (.requeueStaleJobs older) r).2.pending = r.pending :=
  requeueEach_rule delay older r.clock (I := fun _ t => t.pending = r.pending) (fun _ _ _ h => h)
    (fun _ t _ job _ _ h => (frame_retry delay job staleError t).1.trans h) [] 0 rfl

/-- **What one operation does to the pending list**: what it hands out was in front, and what
enters comes last. -/
theorem Executed.pending_after (op : Executed P) (h : op.store.Sound) (delay : Time) :
    op.store.pending ++ op.entered delay =
      ((op.handedOut delay).map Job.jobId).toList ++ (op.after delay).pending := by
  obtain ⟨r, call⟩ := op
  cases call with
  | enqueue job => rfl
  | dequeue =>
    rw [(Executed.entered_dequeue delay r).1]
    exact (congrArg Redis.pending (promoted_eq r)).symm.trans (h.after_dequeue delay).1.symm
  | ack job => exact List.append_nil _
  | retry job error =>
    have hentered : Executed.entered delay ⟨r, .retry job error⟩ = [] :=
      (exchanges_retry delay job error r).1
    rw [hentered, List.append_nil]
    exact (frame_retry delay job error r).1.symm
  | update job => exact List.append_nil _
  | requeueStaleJobs older =>
    have hentered : Executed.entered delay ⟨r, .requeueStaleJobs older⟩ = [] :=
      entered_requeueEach r.processing 0 r
    rw [hentered, List.append_nil]
    exact (pending_requeueStaleJobs delay older r).symm

namespace QueueRun

variable {delay : Time} {s s' : QueueRun P}

/-- An operation keeps the order of the pending list. -/
theorem Fifo.call (h : s.Fifo delay) (hsound : s.store.Sound) (c : Call P) :
    Fifo delay ⟨(atOnce delay c s.store).2, s.log ++ [⟨s.store, c⟩]⟩ := by
  have hop := Executed.pending_after ⟨s.store, c⟩ hsound delay
  rw [Fifo, entered, handedOut, List.flatMap_append, List.filterMap_append]
  calc s.entered delay ++ [(⟨s.store, c⟩ : Executed P)].flatMap (Executed.entered delay)
      = s.handedOut delay ++ (s.store.pending ++ Executed.entered delay ⟨s.store, c⟩) := by
        rw [h, List.flatMap_singleton, List.append_assoc]
    _ = s.handedOut delay ++ (((Executed.handedOut delay ⟨s.store, c⟩).map Job.jobId).toList ++
          (atOnce delay c s.store).2.pending) := by rw [hop]; rfl
    _ = _ := by
        rw [← List.append_assoc]
        cases hout : (Executed.handedOut delay ⟨s.store, c⟩).map Job.jobId with
        | none => simp [handedOut, hout]
        | some id => simp [handedOut, hout]

end QueueRun

end ProductIntelligence
