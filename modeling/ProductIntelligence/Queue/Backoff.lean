import ProductIntelligence.Queue.Sequential

/-!
# The backoff of retries

The `n`-th retry of a job is to be handed out `retry_delay_seconds * 2 ** (n - 1)` later at the
earliest.  The queue keeps to that as long as the record and the structures account for the
retries made: the record counts them, and wherever the id waits, it waits long enough.  A client
can break the account, since `retry` and `update` write the copy of the job they are given, and
`retry` does not look where the id is.

## Main definitions

* `Waits` — a time at which all of some retries may be handed out.
* `retries`, `QueueRun.BacksOff` — the retries of a job in a run, and the runs that back off.
* `Redis.AccountsFor` — the invariant.
* `Redis.UpToDate` — the calls that keep it.

## Main results

* `AccountsFor.call` — every up-to-date call keeps the account.
* `backoff_and_order` — **backoff, promotion and order in every run**.

## References

`backend/app/queue/redis_queue.py`.
-/

namespace ProductIntelligence

open Effects Program RedisQueue Redis

variable {P : Type}

/-! ### Waiting -/

/-- At time `now` each of the given retries may be handed out: the `n`-th was made at least the
`n`-th backoff before. -/
def Waits (delay : Time) (ts : List Time) (now : Time) : Prop :=
  ∀ e ∈ ts.zipIdx 1, e.1 + backoff delay e.2 ≤ now

instance {delay : Time} {ts : List Time} {now : Time} : Decidable (Waits delay ts now) :=
  inferInstanceAs (Decidable (∀ e ∈ _, _))

/-- The backoff grows with the retries. -/
theorem backoff_mono {delay : Time} (hdelay : 0 ≤ delay) {m n : ℕ} (h : m ≤ n) :
    backoff delay m ≤ backoff delay n :=
  mul_le_mul_of_nonneg_left
    (pow_le_pow_right₀ (by decide +kernel) (Nat.sub_le_sub_right h 1)) hdelay

theorem waits_nil (delay now : Time) : Waits delay [] now := nofun

/-- Waiting longer does no harm. -/
theorem Waits.mono {delay : Time} {ts : List Time} {now later : Time} (h : Waits delay ts now)
    (hle : now ≤ later) : Waits delay ts later :=
  fun e he => (h e he).trans hle

/-- **A new retry waits out the earlier ones as well**: its own backoff is the longest, and
starts last. -/
theorem waits_concat {delay : Time} (hdelay : 0 ≤ delay) {ts : List Time} {now : Time}
    (hpast : ∀ t ∈ ts, t ≤ now) {n : ℕ} (hn : ts.length + 1 ≤ n) :
    Waits delay (ts ++ [now]) (now + backoff delay n) := by
  intro e he
  rw [List.zipIdx_append] at he
  rcases List.mem_append.1 he with he | he
  · obtain ⟨hlow, hlength, htime⟩ := List.mem_zipIdx he
    have hle : e.1 ≤ now := hpast e.1 (htime ▸ List.getElem_mem _)
    exact add_le_add hle (backoff_mono hdelay (by omega))
  · obtain rfl : e = (now, 1 + ts.length) := by simpa using he
    exact add_le_add (le_refl now) (backoff_mono hdelay (by omega))

/-! ### The retries of a run -/

/-- When the retries of an id were scheduled, oldest first. -/
def retries (delay : Time) (log : List (Executed P)) (id : UUID) : List Time :=
  log.flatMap fun op => List.replicate ((op.retried delay).count id) op.time

/-- Note further retries, made at one time. -/
def note (ts : UUID → List Time) (ids : List UUID) (now : Time) (id : UUID) : List Time :=
  ts id ++ List.replicate (ids.count id) now

theorem note_nil (ts : UUID → List Time) (now : Time) : note ts [] now = ts := by
  funext id
  exact List.append_nil _

theorem note_append (ts : UUID → List Time) (ids ids' : List UUID) (now : Time) :
    note ts (ids ++ ids') now = note (note ts ids now) ids' now := by
  funext id
  rw [note, note, note, List.count_append, List.replicate_add, List.append_assoc]

theorem note_self (ts : UUID → List Time) (id : UUID) (now : Time) :
    note ts [id] now id = ts id ++ [now] := by
  simp [note]

theorem note_of_ne (ts : UUID → List Time) {id j : UUID} (now : Time) (h : id ≠ j) :
    note ts [j] now id = ts id := by
  simp [note, Ne.symm h]

/-- The retries after one more operation. -/
theorem retries_concat (delay : Time) (log : List (Executed P)) (op : Executed P) :
    retries delay (log ++ [op]) = note (retries delay log) (op.retried delay) op.time := by
  funext id
  rw [retries, List.flatMap_append, List.flatMap_singleton]
  rfl

/-- **The run backs off**: whenever a job is handed out, each of its retries so far may be. -/
def QueueRun.BacksOff (delay : Time) (s : QueueRun P) : Prop :=
  ∀ k op job, s.log[k]? = some op → op.handedOut delay = some job →
    Waits delay (retries delay (s.log.take k) job.jobId) op.time

/-! ### The account -/

/-- The retry count of an id's record. -/
def Redis.retryCount (r : Redis P) (id : UUID) : ℕ := (r.jobs id).elim 0 Job.retryCount

/-- The store accounts for the retries made: the record of an id counts them at least, and the
id waits for them wherever it waits. -/
structure Redis.AccountsFor (delay : Time) (r : Redis P) (ts : UUID → List Time) : Prop where
  counted : ∀ id, (ts id).length ≤ r.retryCount id
  past : ∀ id, ∀ t ∈ ts id, t ≤ r.clock
  delayed : ∀ e ∈ r.delayed, Waits delay (ts e.1) e.2
  pending : ∀ id ∈ r.pending, Waits delay (ts id) r.clock

/-- **A call that is up to date**: no record is replaced by one that counts fewer retries, no
retried job is enqueued anew, and no job is retried that waits on the pending list. -/
def Redis.UpToDate (r : Redis P) : Call P → Prop
  | .enqueue job => r.retryCount job.jobId = 0
  | .retry job _ => r.retryCount job.jobId ≤ job.retryCount ∧ job.jobId ∉ r.pending
  | .update job => r.retryCount job.jobId ≤ job.retryCount
  | .requeueStaleJobs older => ∀ id ∈ r.pending, ¬ r.Stale older id
  | .dequeue => True
  | .ack _ => True

instance {r : Redis P} : (call : Call P) → Decidable (r.UpToDate call)
  | .enqueue job => inferInstanceAs (Decidable (r.retryCount job.jobId = 0))
  | .retry job _ =>
    inferInstanceAs (Decidable (r.retryCount job.jobId ≤ job.retryCount ∧ job.jobId ∉ r.pending))
  | .update job => inferInstanceAs (Decidable (r.retryCount job.jobId ≤ job.retryCount))
  | .requeueStaleJobs older => inferInstanceAs (Decidable (∀ id ∈ r.pending, ¬ r.Stale older id))
  | .dequeue => .isTrue trivial
  | .ack _ => .isTrue trivial

namespace Redis.AccountsFor

variable {r : Redis P} {delay : Time} {ts : UUID → List Time}

/-- Nothing was retried on an empty store. -/
theorem empty (delay : Time) : (Redis.empty : Redis P).AccountsFor delay fun _ => [] where
  counted := fun _ => Nat.zero_le _
  past := nofun
  delayed := nofun
  pending := nofun

/-- Saving a record that counts no fewer retries keeps the account. -/
theorem save (h : r.AccountsFor delay ts) (job : Job P)
    (hcount : r.retryCount job.jobId ≤ job.retryCount) :
    { r with
      jobs := Function.update r.jobs job.jobId (some job)
      productJob :=
        Function.update r.productJob job.productId (some job.jobId) }.AccountsFor delay ts := by
  refine ⟨fun id => (h.counted id).trans ?_, h.past, h.delayed, h.pending⟩
  by_cases hid : id = job.jobId
  · simpa [retryCount, hid] using hcount
  · simp [retryCount, hid]

/-- The other structures do not matter. -/
theorem frame (h : r.AccountsFor delay ts) (processing : List (UUID × Time))
    (deadLetter : List UUID) :
    { r with processing := processing, deadLetter := deadLetter }.AccountsFor delay ts :=
  ⟨h.counted, h.past, h.delayed, h.pending⟩

/-- **A retry keeps the account** if the job is up to date and does not wait on the pending
list. -/
theorem retry (h : r.AccountsFor delay ts) (hdelay : 0 ≤ delay) {job : Job P} (error : String)
    (hcount : r.retryCount job.jobId ≤ job.retryCount) (hpending : job.jobId ∉ r.pending) :
    ((RedisQueue.retry delay job error).run Redis.exec r).2.AccountsFor delay
      (note ts (((RedisQueue.retry delay job error).exchanges Redis.exec r).filterMap retriedId)
        r.clock) := by
  rw [(exchanges_retry delay job error r).2]
  by_cases hmax : job.maxRetries < job.retryCount + 1
  · rw [run_retry_exhausted hmax, if_pos hmax, note_nil]
    exact (h.save { failedAttempt job error r.clock with status := .failed }
      (hcount.trans (Nat.le_succ _))).frame _ _
  · rw [run_retry_delayed hmax, if_neg hmax]
    have hlength : (ts job.jobId).length + 1 ≤ job.retryCount + 1 :=
      Nat.succ_le_succ ((h.counted job.jobId).trans hcount)
    have hready := waits_concat hdelay (h.past job.jobId) hlength
    refine ⟨?_, ?_, ?_, ?_⟩
    · intro id
      by_cases hid : id = job.jobId
      · rw [hid, note_self, List.length_append]
        simpa [retryCount, failedAttempt] using hlength
      · rw [note_of_ne ts _ hid]
        simpa [retryCount, hid] using h.counted id
    · intro id t ht
      by_cases hid : id = job.jobId
      · rw [hid, note_self, List.mem_append, List.mem_singleton] at ht
        rcases ht with ht | rfl
        · exact h.past job.jobId t ht
        · exact le_refl _
      · rw [note_of_ne ts _ hid] at ht
        exact h.past id t ht
    · intro e he
      rcases mem_zadd.1 he with rfl | ⟨he, hne⟩
      · rw [note_self]
        exact hready
      · rw [note_of_ne ts _ hne]
        exact h.delayed e he
    · intro id hid
      have hne : id ≠ job.jobId := fun heq => hpending (heq ▸ hid)
      rw [note_of_ne ts _ hne]
      exact h.pending id hid

/-- A promotion keeps the account: what is due has waited. -/
theorem promoted (h : r.AccountsFor delay ts) (hsound : r.Sound) :
    r.promoted.AccountsFor delay ts := by
  rw [promoted_eq]
  refine ⟨h.counted, h.past, fun e he => h.delayed e (List.mem_filter.1 he).1, ?_⟩
  intro id hid
  rcases List.mem_append.1 hid with hid | hid
  · exact h.pending id hid
  · rw [hsound.due_eq] at hid
    obtain ⟨e, he, rfl⟩ := List.mem_map.1 hid
    obtain ⟨he, hle⟩ := List.mem_filter.1 he
    exact (h.delayed e he).mono (of_decide_eq_true hle)

/-- A dequeue keeps the account, and hands out only what has waited. -/
theorem dequeue (h : r.AccountsFor delay ts) (hsound : r.Sound) :
    (atOnce delay .dequeue r).2.AccountsFor delay ts ∧
      ∀ job, (atOnce delay .dequeue r).1 = some job → Waits delay (ts job.jobId) r.clock := by
  have hpromoted := h.promoted hsound
  rcases hsound.dequeue_cases delay with ⟨-, heq⟩ | ⟨id, rest, job, hpending, hid, heq, hjob⟩
  · rw [heq]
    exact ⟨hpromoted, nofun⟩
  · rw [heq]
    constructor
    · have hpop : { r.promoted with pending := rest }.AccountsFor delay ts :=
        ⟨hpromoted.counted, hpromoted.past, hpromoted.delayed,
          fun j hj => hpromoted.pending j (hpending ▸ List.mem_cons_of_mem _ hj)⟩
      refine (hpop.save (running job r.clock) ?_).frame _ _
      simp [retryCount, running, hid, hjob]
    · rintro _ ⟨rfl⟩
      have hwaits := hpromoted.pending id (hpending ▸ List.mem_cons_self ..)
      rw [clock_promoted] at hwaits
      exact hid ▸ hwaits

/-- The recovery of stale jobs keeps the account: it retries the records themselves. -/
theorem requeueStaleJobs (h : r.AccountsFor delay ts) (hsound : r.Sound) (hdelay : 0 ≤ delay)
    {older : Time} (hstale : ∀ id ∈ r.pending, ¬ r.Stale older id) :
    (atOnce delay (.requeueStaleJobs older) r).2.AccountsFor delay
      (note ts (Executed.retried delay ⟨r, .requeueStaleJobs older⟩) r.clock) := by
  have hloop := requeueEach_rule delay older r.clock (l := r.processing)
    (I := fun ids t => t.Sound ∧ t.pending = r.pending ∧ t.clock = r.clock ∧
      t.AccountsFor delay (note ts ids r.clock))
    (fun ids t id ⟨hsound, hpending, hclock, h⟩ =>
      ⟨hsound.frame _ _, hpending, hclock, h.frame _ _⟩) ?_
    [] 0 ⟨hsound, rfl, rfl, by rwa [note_nil]⟩
  · exact hloop.2.2.2
  · rintro ids t id job hid hjob ⟨hsound, hpending, hclock, h⟩
    obtain ⟨hpending', hclock'⟩ := frame_retry delay job staleError t
    have hjobId : job.jobId = id := hsound.own id job hjob
    have hcount : t.retryCount job.jobId ≤ job.retryCount := by simp [retryCount, hjobId, hjob]
    have hwaiting : job.jobId ∉ t.pending := by
      rw [hjobId, hpending]
      exact fun hmem => hstale id hmem hid
    refine ⟨hsound.retry hdelay job staleError, hpending'.trans hpending, hclock'.trans hclock, ?_⟩
    have hretry := h.retry hdelay staleError hcount hwaiting
    rwa [hclock, ← note_append] at hretry

/-- **Every up-to-date call keeps the account.** -/
theorem call (h : r.AccountsFor delay ts) (hsound : r.Sound) (hdelay : 0 ≤ delay) {call : Call P}
    (hup : r.UpToDate call) :
    (atOnce delay call r).2.AccountsFor delay
      (note ts (Executed.retried delay ⟨r, call⟩) r.clock) := by
  cases call with
  | enqueue job =>
    have hnone : Executed.retried delay ⟨r, .enqueue job⟩ = [] := rfl
    rw [hnone, note_nil]
    have hcount : r.retryCount job.jobId = 0 := hup
    have hfresh : ts job.jobId = [] :=
      List.length_eq_zero_iff.1 (Nat.le_zero.1 (hcount ▸ h.counted job.jobId))
    have hsaved := h.save job (hcount ▸ Nat.zero_le _)
    refine ⟨hsaved.counted, h.past, h.delayed, ?_⟩
    intro id hid
    rcases List.mem_append.1 hid with hid | hid
    · exact h.pending id hid
    · rw [List.mem_singleton.1 hid, hfresh]
      exact waits_nil delay _
  | dequeue =>
    rw [(Executed.entered_dequeue delay r).2, note_nil]
    exact (h.dequeue hsound).1
  | ack job =>
    have hnone : Executed.retried delay ⟨r, .ack job⟩ = [] := rfl
    rw [hnone, note_nil]
    exact h.frame _ _
  | retry job error => exact h.retry hdelay error hup.1 hup.2
  | update job =>
    have hnone : Executed.retried delay ⟨r, .update job⟩ = [] := rfl
    rw [hnone, note_nil]
    exact h.save job hup
  | requeueStaleJobs older => exact h.requeueStaleJobs hsound hdelay hup

/-- So does a drift forward. -/
theorem drift (h : r.AccountsFor delay ts) {e : Redis.Drift} (hforward : e.forward r = true)
    {t : Redis P} (ht : Redis.drift e r = some t) : t.AccountsFor delay ts := by
  obtain ⟨now, hle, rfl⟩ | ⟨l, rfl⟩ := drift_cases hforward ht
  · exact ⟨h.counted, fun id t ht => (h.past id t ht).trans hle, h.delayed,
      fun id hid => (h.pending id hid).mono hle⟩
  · exact h.frame l r.deadLetter

end Redis.AccountsFor

/-! ### Every run -/

namespace QueueRun

variable {delay : Time} {s s' : QueueRun P}

/-- A move that is an up-to-date call, or lets the store drift. -/
def UpToDate (s : QueueRun P) : QueueMove P → Prop
  | .call c => s.store.UpToDate c
  | .drift _ => True

instance : (m : QueueMove P) → Decidable (s.UpToDate m)
  | .call c => inferInstanceAs (Decidable (s.store.UpToDate c))
  | .drift _ => .isTrue trivial

/-- A drift leaves the log alone. -/
theorem step_drift_eq {e : Redis.Drift} (h : s.step delay (.drift e) = some s') :
    e.forward s.store = true ∧
      ∃ r, Redis.drift e s.store = some r ∧ s' = { s with store := r } := by
  simp only [step] at h
  split at h
  · next hforward =>
    obtain ⟨r, hr, rfl⟩ := Option.map_eq_some_iff.1 h
    exact ⟨hforward, r, hr, rfl⟩
  · cases h

/-- What every run keeps: the store is sound, dequeues promote first, and the pending list is
first in, first out. -/
def Ordered (delay : Time) (s : QueueRun P) : Prop :=
  s.store.Sound ∧ s.PromotesFirst delay ∧ s.Fifo delay

theorem Ordered.init : Ordered delay (init : QueueRun P) := by
  refine ⟨.empty, ?_, rfl⟩
  intro op hop
  cases hop

theorem Ordered.step (h : s.Ordered delay) (hdelay : 0 ≤ delay) {m : QueueMove P}
    (hstep : s.step delay m = some s') : s'.Ordered delay := by
  obtain ⟨hsound, hpromotes, hfifo⟩ := h
  cases m with
  | call c =>
    cases hstep
    refine ⟨hsound.call hdelay c, ?_, hfifo.call hsound c⟩
    intro op hop hcall
    rcases List.mem_append.1 hop with hop | hop
    · exact hpromotes op hop hcall
    · obtain rfl := List.mem_singleton.1 hop
      cases hcall
      exact promotesFirst_dequeue hsound delay
  | drift e =>
    obtain ⟨hforward, r, hr, rfl⟩ := step_drift_eq hstep
    have hpending : r.pending = s.store.pending := (drift_frame hr).1
    refine ⟨hsound.drift hforward hr, hpromotes, ?_⟩
    show s.entered delay = s.handedOut delay ++ r.pending
    rw [hpending]
    exact hfifo

theorem BacksOff.init : BacksOff delay (init : QueueRun P) := by
  intro k op job hk
  cases hk

/-- One more operation of a run that backs off. -/
theorem BacksOff.concat (h : s.BacksOff delay) {r : Redis P} {op : Executed P}
    (hop : ∀ job, op.handedOut delay = some job →
      Waits delay (retries delay s.log job.jobId) op.time) :
    BacksOff delay ⟨r, s.log ++ [op]⟩ := by
  intro k op' job hk hout
  rw [List.getElem?_append] at hk
  split at hk
  · next hlt =>
    rw [List.take_append_of_le_length (le_of_lt hlt)]
    exact h k op' job hk hout
  · next hge =>
    obtain ⟨hzero, rfl⟩ : k - s.log.length = 0 ∧ op = op' := by
      simpa [List.getElem?_singleton] using hk
    have hlength : k = s.log.length := by omega
    rw [hlength, List.take_left']
    · exact hop job hout
    · rfl

/-- What every run of up-to-date calls keeps as well. -/
theorem Ordered.backsOff_step (h : s.Ordered delay) (hdelay : 0 ≤ delay)
    (haccount : s.store.AccountsFor delay (retries delay s.log)) (hbacks : s.BacksOff delay)
    {m : QueueMove P} (hup : s.UpToDate m) (hstep : s.step delay m = some s') :
    s'.store.AccountsFor delay (retries delay s'.log) ∧ s'.BacksOff delay := by
  cases m with
  | call c =>
    cases hstep
    constructor
    · show (atOnce delay c s.store).2.AccountsFor delay (retries delay (s.log ++ [⟨s.store, c⟩]))
      rw [retries_concat]
      exact haccount.call h.1 hdelay hup
    · apply hbacks.concat
      intro job hout
      cases c with
      | dequeue => exact (haccount.dequeue h.1).2 job hout
      | _ => cases hout
  | drift e =>
    obtain ⟨hforward, r, hr, rfl⟩ := step_drift_eq hstep
    exact ⟨haccount.drift hforward hr, hbacks⟩

end QueueRun

/-- **Backoff, promotion and order.**  In every run of whole operations with a clock that does
not go back, a dequeue moves every due job to the pending list before it pops, and the pending
list is first in, first out.  If all calls of the run are up to date, no retry is handed out
before its backoff is over. -/
theorem backoff_and_order {delay : Time} (hdelay : 0 ≤ delay) {s : QueueRun P}
    (hreach : Reach (QueueRun.step delay) (fun _ _ => True) QueueRun.init s) :
    s.PromotesFirst delay ∧ s.Fifo delay ∧
      (Reach (QueueRun.step delay) QueueRun.UpToDate QueueRun.init s → s.BacksOff delay) := by
  have hordered : s.Ordered delay :=
    hreach.invariant .init fun _ _ _ h _ hstep => h.step hdelay hstep
  refine ⟨hordered.2.1, hordered.2.2, ?_⟩
  intro hcareful
  have hall := hcareful.invariant
    (I := fun s => s.Ordered delay ∧ s.store.AccountsFor delay (retries delay s.log) ∧
      s.BacksOff delay)
    ⟨.init, .empty delay, .init⟩
    (fun s m s' ⟨hordered, haccount, hbacks⟩ hup hstep =>
      ⟨hordered.step hdelay hstep, hordered.backsOff_step hdelay haccount hbacks hup hstep⟩)
  exact hall.2.2

/-- A job whose worker is slow. -/
private def slowJob : Job Unit := Job.queued 1 1 () 0 5

/-- A job that fails once and is handed out again. -/
private def failingOnce : List (QueueMove Unit) :=
  [.call (.enqueue slowJob), .call .dequeue, .call (.retry (running slowJob 0) "timeout"),
    .drift (.clock 1), .call .dequeue]

/-- The rule at a run with one retry. -/
theorem backoff_and_order_once : ∃ s : QueueRun Unit, retries 1 s.log 1 = [0] ∧
    s.handedOut 1 = [1, 1] ∧ s.PromotesFirst 1 ∧ s.Fifo 1 ∧ s.BacksOff 1 := by
  obtain ⟨s, hreach, hs⟩ := exists_reach_of_runLabels (QueueRun.step 1)
    (fun s m => decide (QueueRun.UpToDate s m)) QueueRun.init failingOnce
    (fun s => decide (retries 1 s.log 1 = [0] ∧ s.handedOut 1 = [1, 1])) (by decide +kernel)
  obtain ⟨hretries, hout⟩ := of_decide_eq_true hs
  obtain ⟨hpromotes, hfifo, hbacks⟩ :=
    backoff_and_order (by decide +kernel) (hreach.mono fun _ _ _ => trivial)
  exact ⟨s, hretries, hout, hpromotes, hfifo,
    hbacks (hreach.mono fun _ _ => of_decide_eq_true)⟩

/-- The worker is slow, the job is recovered twice, and then its first worker reports a
failure. -/
private def reportingLate : List (QueueMove Unit) :=
  [.call (.enqueue slowJob), .call .dequeue, .drift (.clock 10), .call (.requeueStaleJobs 10),
    .drift (.clock 12), .call .dequeue, .drift (.clock 22), .call (.requeueStaleJobs 10),
    .drift (.clock 23), .call (.retry (running slowJob 0) "timeout"),
    .drift (.clock 25), .call .dequeue]

/-- **A stale copy shortens the backoff**: the second retry, made at 22 with a backoff of 4, is
handed out at 25. -/
theorem stale_copy_shortens_backoff :
    ¬ ∀ s : QueueRun Unit, Reach (QueueRun.step 2) (fun _ _ => True) QueueRun.init s →
      s.BacksOff 2 ∧ s.PromotesFirst 2 ∧ s.Fifo 2 := by
  intro hall
  obtain ⟨s, hreach, hs⟩ := exists_reach_of_runLabels (QueueRun.step 2) (fun _ _ => true)
    QueueRun.init reportingLate
    (fun s => (s.log[6]?).any fun op => (op.handedOut 2).any fun job =>
      decide ¬ Waits 2 (retries 2 (s.log.take 6) job.jobId) op.time) (by decide +kernel)
  obtain ⟨op, hop, hs⟩ := (Option.any_eq_true _ _).1 hs
  obtain ⟨job, hjob, hs⟩ := (Option.any_eq_true _ _).1 hs
  exact of_decide_eq_true hs ((hall s (hreach.mono fun _ _ _ => trivial)).1 6 op job hop hjob)

end ProductIntelligence
