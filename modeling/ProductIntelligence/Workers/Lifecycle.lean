import ProductIntelligence.Workers.ProductWorker

/-!
# The lifecycle of a job

A job is pending, then running, then completed and acknowledged; or it fails and waits
out a backoff before it is pending again, until its retries are exhausted and it is a
dead letter.  A phase fixes how often each structure holds the id, the status of the
record and the number of times the job was handed out.  The invariant is that every id
is in some phase, and that what a client holds is the record of a job in flight that
nobody else holds.

## Main definitions

* `Phase`, `Standing` — the abstract lifecycle, and the slots that are in each phase.
* `holding` — the discipline of a holder: `ack`, `update` and `retry` are for the job
  in hand.
* `Orderly` — the steps considered: ids are queued once, and recovery only reaps jobs
  whose holder crashed before recording an outcome.
* `Kept` — the invariant.

## Main results

* `Kept.step` — every orderly step keeps it.
-/

namespace ProductIntelligence

open Effects Program RedisQueue

variable {P ι O β : Type}

/-! ### Phases -/

/-- Where a job stands. -/
inductive Phase
  | absent
  | pending
  | running
  | completed
  | delayed
  | dead
  | acked
  deriving DecidableEq, Repr

/-- `Standing id p s n`: the slot `s` of `id`, which was handed out `n` times, is in
phase `p`. -/
inductive Standing (id : UUID) : Phase → Slot P → ℕ → Prop
  | absent : Standing id .absent ⟨0, 0, 0, 0, none⟩ 0
  | pending {job : Job P} (hid : job.jobId = id)
      (hstatus : job.status = .pending ∨ job.status = .retrying)
      (hcount : job.retryCount ≤ job.maxRetries) :
      Standing id .pending ⟨1, 0, 0, 0, some job⟩ job.retryCount
  | running {job : Job P} (hid : job.jobId = id) (hstatus : job.status = .running)
      (hcount : job.retryCount ≤ job.maxRetries) :
      Standing id .running ⟨0, 1, 0, 0, some job⟩ (job.retryCount + 1)
  | completed {job : Job P} (hid : job.jobId = id) (hstatus : job.status = .completed)
      (hcount : job.retryCount ≤ job.maxRetries) :
      Standing id .completed ⟨0, 1, 0, 0, some job⟩ (job.retryCount + 1)
  | delayed {job : Job P} (hid : job.jobId = id) (hstatus : job.status = .retrying)
      (hcount : job.retryCount ≤ job.maxRetries) :
      Standing id .delayed ⟨0, 0, 1, 0, some job⟩ job.retryCount
  | dead {job : Job P} (hid : job.jobId = id) (hstatus : job.status = .failed)
      (hcount : job.retryCount = job.maxRetries + 1) :
      Standing id .dead ⟨0, 0, 0, 1, some job⟩ job.retryCount
  | acked {job : Job P} (hid : job.jobId = id)
      (hstatus : job.status = .running ∨ job.status = .completed)
      (hcount : job.retryCount ≤ job.maxRetries) :
      Standing id .acked ⟨0, 0, 0, 0, some job⟩ (job.retryCount + 1)

namespace Standing

variable {id : UUID} {p : Phase} {s : Slot P} {n : ℕ} {job copy : Job P}

theorem own (h : Standing id p s n) (hrec : s.record = some job) : job.jobId = id := by
  cases h <;> cases hrec <;> assumption

theorem count_le_one (h : Standing id p s n) :
    s.pending ≤ 1 ∧ s.processing ≤ 1 ∧ s.delayed ≤ 1 ∧ s.deadLetter ≤ 1 := by
  cases h <;> simp

/-- A slot that is in flight with a running record. -/
theorem running_of_processing (h : Standing id p s n) (hproc : s.processing ≠ 0)
    (hrec : s.record = some copy) (hrun : copy.status = .running) :
    p = .running ∧ s = ⟨0, 1, 0, 0, some copy⟩ ∧ n = copy.retryCount + 1 ∧ copy.jobId = id ∧
      copy.retryCount ≤ copy.maxRetries := by
  cases h with
  | running hid hstatus hcount => cases hrec; exact ⟨rfl, rfl, rfl, hid, hcount⟩
  | completed hid hstatus hcount => cases hrec; rw [hstatus] at hrun; cases hrun
  | _ => exact absurd rfl hproc

/-- A slot that is pending. -/
theorem pending_of_pending (h : Standing id p s n) (hpend : s.pending ≠ 0) :
    ∃ job, p = .pending ∧ s = ⟨1, 0, 0, 0, some job⟩ ∧ n = job.retryCount ∧ job.jobId = id ∧
      job.retryCount ≤ job.maxRetries ∧ job.status ≠ .completed := by
  cases h with
  | pending hid hstatus hcount =>
    refine ⟨_, rfl, rfl, rfl, hid, hcount, ?_⟩
    rcases hstatus with hst | hst <;> rw [hst] <;> decide
  | _ => exact absurd rfl hpend

/-- Nobody is handed an id that is not in flight. -/
theorem acked_of_processing (h : Standing id p s n) (hproc : s.processing ≠ 0) :
    Standing id .acked { s with processing := 0 } n ∧ (p = .running ∨ p = .completed) := by
  cases h with
  | running hid hstatus hcount => exact ⟨.acked hid (.inl hstatus) hcount, .inl rfl⟩
  | completed hid hstatus hcount => exact ⟨.acked hid (.inr hstatus) hcount, .inr rfl⟩
  | _ => exact absurd rfl hproc

/-- A promoted id was delayed. -/
theorem promote (h : Standing id p s n) (hdelayed : s.delayed ≠ 0) :
    Standing id .pending { s with pending := s.pending + 1, delayed := 0 } n ∧ p = .delayed := by
  cases h with
  | delayed hid hstatus hcount => exact ⟨.pending hid (.inr hstatus) hcount, rfl⟩
  | _ => exact absurd rfl hdelayed

end Standing

/-- The job in hand and the job a call is about agree on what a holder never changes. -/
def SameJob (copy job : Job P) : Prop :=
  job.jobId = copy.jobId ∧ job.retryCount = copy.retryCount ∧ job.maxRetries = copy.maxRetries

/-- Failing the attempt of a running job delays it or makes it a dead letter. -/
theorem Standing.failAttempt {id : UUID} {n : ℕ} {copy job : Job P}
    (h : Standing id .running ⟨0, 1, 0, 0, some copy⟩ n) (hsame : SameJob copy job)
    (error : String) (now : Time) :
    ∃ p, (p = .delayed ∨ p = .dead) ∧
      Standing id p (Slot.failAttempt ⟨0, 1, 0, 0, some copy⟩ job error now) n := by
  obtain ⟨hjobId, hretry, hmaxRetries⟩ := hsame
  cases h with
  | running hid hstatus hcount =>
    by_cases hmax : job.maxRetries < job.retryCount + 1
    · rw [Slot.failAttempt_exhausted hmax, ← hretry]
      have hdead : job.retryCount + 1 = job.maxRetries + 1 := by omega
      exact ⟨.dead, .inr rfl, .dead (hjobId.trans hid) rfl hdead⟩
    · rw [Slot.failAttempt_delayed hmax, ← hretry]
      have hdelayed : job.retryCount + 1 ≤ job.maxRetries := by omega
      exact ⟨.delayed, .inl rfl, .delayed (hjobId.trans hid) rfl hdelayed⟩

/-! ### Holders -/

/-- The job in hand after an operation. -/
def handed (hand : Option (Job P)) : (c : Call P) → c.Reply → Option (Job P)
  | .dequeue, job => job
  | .update job, _ => some job
  | .ack _, _ => none
  | .retry _ _, _ => none
  | .enqueue _, _ => hand
  | .requeueStaleJobs _, _ => hand

/-- The operations open to a client with the given job in hand: `ack`, `update` and
`retry` are for that job; once it is recorded as completed, only `ack` is left. `extra`
restricts `update` and `retry` further. -/
def mayCall (extra : Job P → Call P → Prop) (hand : Option (Job P)) : Call P → Prop
  | .enqueue _ | .dequeue | .requeueStaleJobs _ => hand = none
  | .ack job => ∃ copy, hand = some copy ∧ job.jobId = copy.jobId
  | .update job => ∃ copy, hand = some copy ∧ copy.status = .running ∧ SameJob copy job ∧
      (job.status = .running ∨ job.status = .completed) ∧ extra copy (.update job)
  | .retry job error => ∃ copy, hand = some copy ∧ copy.status = .running ∧ SameJob copy job ∧
      extra copy (.retry job error)

/-- A job is handed out as running. -/
def handsRunning : (c : Call P) → c.Reply → Prop
  | .dequeue, job => ∀ j, job = some j → j.status = .running
  | _, _ => True

/-- **The discipline of a holder.** -/
def holding (extra : Job P → Call P → Prop) : Discipline (@Call.Reply P) (Option (Job P)) where
  allows hand c := mayCall extra hand c
  expects _ c r := handsRunning c r
  next hand c r := handed hand c r

@[simp] theorem holding_next {extra : Job P → Call P → Prop} {hand : Option (Job P)}
    {c : Call P} {r : c.Reply} : (holding extra).next hand c r = handed hand c r := rfl

/-- A program whose every client keeps to the discipline and returns empty-handed. -/
def Holds (extra : Job P → Call P → Prop) (p : WorkerProgram P β) : Prop :=
  p.Obeys (holding extra) (fun _ hand => hand = none) none

/-! ### The system -/

/-- A state of clients that execute whole operations on one queue. -/
abbrev WorkerConfig (P ι O β : Type) := Config (@Call.Reply P) (Redis P) ι O β

/-- What its log records. -/
abbrev WorkerEvent (P ι O β : Type) := Event (@Call.Reply P) ι O β

/-- An empty queue that no client has called yet. -/
def WorkerConfig.init : WorkerConfig P ι O β := ⟨Redis.empty, fun _ => none, []⟩

/-- The id an event enqueues. -/
def queuedId : WorkerEvent P ι O β → Option UUID
  | .ran _ _ ⟨.enqueue job, _⟩ => some job.jobId
  | _ => none

/-- The id an event acknowledges. -/
def settledId : WorkerEvent P ι O β → Option UUID
  | .ran _ _ ⟨.ack job, _⟩ => some job.jobId
  | _ => none

/-- The id an event hands out. -/
def dequeuedId : WorkerEvent P ι O β → Option UUID
  | .ran _ _ ⟨.dequeue, job⟩ => job.map Job.jobId
  | _ => none

/-- The id was enqueued. -/
def Queued (log : List (WorkerEvent P ι O β)) (id : UUID) : Prop := ∃ e ∈ log, queuedId e = some id

/-- The id was acknowledged. -/
def Settled (log : List (WorkerEvent P ι O β)) (id : UUID) : Prop :=
  ∃ e ∈ log, settledId e = some id

/-- How often the id was handed out. -/
def handOuts (id : UUID) (log : List (WorkerEvent P ι O β)) : ℕ :=
  log.countP fun e => dequeuedId e = some id

/-- The job in hand after a list of exchanges, newest first. -/
def hand : List (Exchange (@Call.Reply P)) → Option (Job P)
  | [] => none
  | x :: xs => handed (hand xs) x.command x.reply

/-- The job a session has in hand. -/
def inHand (s : Session (@Call.Reply P) O β) : Option (Job P) := hand s.exchanges

theorem holding_replay (extra : Job P → Call P → Prop) (xs : List (Exchange (@Call.Reply P))) :
    (holding extra).replay none xs = hand xs := by
  induction xs with
  | nil => rfl
  | cons x xs ih => rw [Discipline.replay, holding_next, ih, hand]

/-- Client `i` holds the job. -/
def HeldBy (cfg : WorkerConfig P ι O β) (i : ι) (job : Job P) : Prop :=
  ∃ s, cfg.sessions i = some s ∧ inHand s = some job

/-- A job nobody has worked on. -/
def Job.Fresh (job : Job P) : Prop :=
  job.status = .pending ∧ job.retryCount = 0 ∧ job.retryHistory = []

/-- An id is enqueued once, as a fresh job. -/
def EnqueuesOnce (cfg : WorkerConfig P ι O β) : Call P → Prop
  | .enqueue job => job.Fresh ∧ ¬ Queued cfg.log job.jobId
  | _ => True

/-- Recovery only reaps jobs whose holder crashed before recording an outcome: no client
holds the job, and its record does not say it completed. -/
def ReapsCrashed (cfg : WorkerConfig P ι O β) : Call P → Prop
  | .requeueStaleJobs older => ∀ id, cfg.store.Stale older id →
      (∀ i job, HeldBy cfg i job → job.jobId ≠ id) ∧
        ∀ job, cfg.store.jobs id = some job → job.status ≠ .completed
  | _ => True

/-- The operation that a step executes, if any, satisfies `ok`. -/
def Executes (ok : WorkerConfig P ι O β → Call P → Prop) (cfg : WorkerConfig P ι O β) :
    Label ι O Redis.Drift → Prop
  | .exec i => ∀ c ∈ cfg.nextCommand i, ok cfg c
  | _ => True

/-- **The steps considered.** -/
def Orderly (cfg : WorkerConfig P ι O β) (l : Label ι O Redis.Drift) : Prop :=
  Executes EnqueuesOnce cfg l ∧ Executes ReapsCrashed cfg l

instance {log : List (WorkerEvent P ι O β)} {id : UUID} : Decidable (Queued log id) :=
  inferInstanceAs (Decidable (∃ e ∈ log, queuedId e = some id))

instance {log : List (WorkerEvent P ι O β)} {id : UUID} : Decidable (Settled log id) :=
  inferInstanceAs (Decidable (∃ e ∈ log, settledId e = some id))

instance {job : Job P} : Decidable job.Fresh :=
  decidable_of_iff (job.status = .pending ∧ job.retryCount = 0 ∧ job.retryHistory.isEmpty = true)
    (by rw [Job.Fresh, List.isEmpty_iff])

/-- Whether recovery is orderly can be read off the processing hash. -/
private theorem orderly_recovery_iff {cfg : WorkerConfig P ι O β} {older : Time} :
    (∀ e ∈ cfg.store.processing, ¬ cfg.store.clock - e.2 < older →
      (∀ i, ∀ job ∈ (cfg.sessions i).bind inHand, job.jobId ≠ e.1) ∧
        ∀ job ∈ cfg.store.jobs e.1, job.status ≠ .completed) ↔
      ReapsCrashed cfg (.requeueStaleJobs older) := by
  constructor
  · rintro h id ⟨e, he, rfl, hstale⟩
    obtain ⟨hnobody, hrecord⟩ := h e he hstale
    refine ⟨fun i job ⟨s, hs, hjob⟩ => hnobody i job ?_, hrecord⟩
    rw [hs]
    exact hjob
  · intro h e he hstale
    obtain ⟨hnobody, hrecord⟩ := h e.1 ⟨e, he, rfl, hstale⟩
    refine ⟨fun i job hjob => ?_, hrecord⟩
    obtain ⟨s, hs, hjob⟩ := Option.bind_eq_some_iff.mp hjob
    exact hnobody i job ⟨s, hs, hjob⟩

instance (cfg : WorkerConfig P ι O β) : DecidablePred (EnqueuesOnce cfg)
  | .enqueue job => inferInstanceAs (Decidable (job.Fresh ∧ ¬ Queued cfg.log job.jobId))
  | .requeueStaleJobs _ | .dequeue | .ack _ | .retry _ _ | .update _ => isTrue trivial

instance {n : ℕ} (cfg : WorkerConfig P (Fin n) O β) : DecidablePred (ReapsCrashed cfg)
  | .requeueStaleJobs _ => decidable_of_iff _ orderly_recovery_iff
  | .enqueue _ | .dequeue | .ack _ | .retry _ _ | .update _ => isTrue trivial

instance {ok : WorkerConfig P ι O β → Call P → Prop} {cfg : WorkerConfig P ι O β}
    [DecidablePred (ok cfg)] : DecidablePred (Executes ok cfg)
  | .exec i => inferInstanceAs (Decidable (∀ c ∈ cfg.nextCommand i, ok cfg c))
  | .start _ _ | .abort _ | .env _ => isTrue trivial

instance {n : ℕ} (cfg : WorkerConfig P (Fin n) O β) : DecidablePred (Orderly cfg) :=
  fun l => inferInstanceAs (Decidable (Executes EnqueuesOnce cfg l ∧ Executes ReapsCrashed cfg l))

/-! ### The invariant -/

@[simp] theorem queued_cons {e : WorkerEvent P ι O β} {log : List (WorkerEvent P ι O β)}
    {id : UUID} : Queued (e :: log) id ↔ queuedId e = some id ∨ Queued log id := by
  simp [Queued]

@[simp] theorem settled_cons {e : WorkerEvent P ι O β} {log : List (WorkerEvent P ι O β)}
    {id : UUID} : Settled (e :: log) id ↔ settledId e = some id ∨ Settled log id := by
  simp [Settled]

theorem handOuts_cons (e : WorkerEvent P ι O β) (log : List (WorkerEvent P ι O β)) (id : UUID) :
    handOuts id (e :: log) = handOuts id log + if dequeuedId e = some id then 1 else 0 := by
  simp [handOuts, List.countP_cons]

/-- The id is in a phase, and the phase tells whether it was enqueued and acknowledged. -/
def Stands (r : Redis P) (log : List (WorkerEvent P ι O β)) (id : UUID) : Prop :=
  ∃ p, Standing id p (r.slot id) (handOuts id log) ∧ (p = .absent ↔ ¬ Queued log id) ∧
    (p = .acked ↔ Settled log id)

/-- The invariant. -/
structure Kept [DecidableEq ι] (extra : Job P → Call P → Prop) (cfg : WorkerConfig P ι O β) :
    Prop where
  obeying : cfg.Obeying (holding extra) (fun _ => none) fun _ _ hand => hand = none
  stands : ∀ id, Stands cfg.store cfg.log id
  held : ∀ i job, HeldBy cfg i job → (cfg.store.slot job.jobId).record = some job ∧
    (cfg.store.slot job.jobId).processing ≠ 0
  sole : ∀ i k a b, HeldBy cfg i a → HeldBy cfg k b → a.jobId = b.jobId → i = k

/-- An event that neither enqueues nor acknowledges nor hands out leaves an id standing
where it stands. -/
private theorem Stands.log {r : Redis P} {log : List (WorkerEvent P ι O β)} {id : UUID}
    {e : WorkerEvent P ι O β} (h : Stands r log id) (hqueued : queuedId e ≠ some id)
    (hsettled : settledId e ≠ some id) (hdequeued : dequeuedId e ≠ some id) :
    Stands r (e :: log) id := by
  obtain ⟨p, hp, habsent, hacked⟩ := h
  refine ⟨p, ?_, by simpa [hqueued] using habsent, by simpa [hsettled] using hacked⟩
  simpa [handOuts_cons, hdequeued] using hp

private theorem Stands.congr {r t : Redis P} {log : List (WorkerEvent P ι O β)} {id : UUID}
    (h : Stands r log id) (hslot : t.slot id = r.slot id) : Stands t log id := by
  rwa [Stands, hslot]

/-- The next phase of an id, when nothing about it is logged. -/
private theorem Stands.move {t : Redis P} {log : List (WorkerEvent P ι O β)} {id : UUID}
    {e : WorkerEvent P ι O β} {p q : Phase} (hsettled : settledId e = none)
    (hdequeued : dequeuedId e = none)
    (hstands : (p = .absent ↔ ¬ Queued log id) ∧ (p = .acked ↔ Settled log id))
    (hp : p ≠ .absent ∧ p ≠ .acked) (hq : q ≠ .absent ∧ q ≠ .acked)
    (h : Standing id q (t.slot id) (handOuts id log)) : Stands t (e :: log) id := by
  refine ⟨q, by simpa [handOuts_cons, hdequeued] using h, ?_, ?_⟩
  · have hlog : Queued log id := not_not.mp (mt hstands.1.mpr hp.1)
    simp [hq.1, hlog]
  · have hlog : ¬ Settled log id := mt hstands.2.mpr hp.2
    simp [hq.2, hlog, hsettled]

section Answered

variable [DecidableEq ι] {extra : Job P → Call P → Prop} {delay : Time}
  {body : O → WorkerProgram P β} {cfg cfg' : WorkerConfig P ι O β}
  {i : ι} {o : O} {c : Call P} {next : c.Reply → WorkerProgram P β}
  {xs : List (Exchange (@Call.Reply P))}

private theorem heldBy_answered {k : ι} {job : Job P}
    (h : HeldBy ((wholeMachine delay body).answered cfg i o c next xs) k job) :
    (k = i ∧ handed (hand xs) c (atOnce delay c cfg.store).1 = some job) ∨
      (k ≠ i ∧ HeldBy cfg k job) := by
  obtain ⟨s, hs, hjob⟩ := h
  rcases Config.of_put_sessions hs with ⟨rfl, rfl⟩ | ⟨hk, hold⟩
  · exact .inl ⟨rfl, hjob⟩
  · exact .inr ⟨hk, s, hold, hjob⟩

omit [DecidableEq ι] in
private theorem heldBy_of_asking (hi : cfg.sessions i = some ⟨o, .request c next, xs⟩)
    {copy : Job P} (hhand : hand xs = some copy) : HeldBy cfg i copy := ⟨_, hi, hhand⟩

/-- The invariant after an operation, from what the operation did to the ids: each
stands in a phase, those that others hold are untouched, and the job in hand is the
record of an id in flight that nobody else holds. -/
private theorem Kept.answered_of (h : Kept extra cfg)
    (hi : cfg.sessions i = some ⟨o, .request c next, xs⟩)
    (hrunning : handsRunning c (atOnce delay c cfg.store).1)
    (hstands : ∀ id, Stands (atOnce delay c cfg.store).2
      (.ran i o ⟨c, (atOnce delay c cfg.store).1⟩ :: cfg.log) id)
    (hothers : ∀ k job, k ≠ i → HeldBy cfg k job →
      (atOnce delay c cfg.store).2.slot job.jobId = cfg.store.slot job.jobId)
    (hmine : ∀ job, handed (hand xs) c (atOnce delay c cfg.store).1 = some job →
      ((atOnce delay c cfg.store).2.slot job.jobId).record = some job ∧
        ((atOnce delay c cfg.store).2.slot job.jobId).processing ≠ 0 ∧
        ∀ k b, k ≠ i → HeldBy cfg k b → b.jobId ≠ job.jobId) :
    Kept extra ((wholeMachine delay body).answered cfg i o c next xs) := by
  refine ⟨?_, hstands, ?_, ?_⟩
  · exact h.obeying.answered hi hrunning
  · intro k job hk
    rcases heldBy_answered hk with ⟨rfl, hjob⟩ | ⟨hne, hold⟩
    · exact ⟨(hmine job hjob).1, (hmine job hjob).2.1⟩
    · have hslot := hothers k job hne hold
      have hheld := h.held k job hold
      rw [← hslot] at hheld
      exact hheld
  · intro k l a b ha hb hab
    -- of two holders of one id at most one is the client that ran
    rcases heldBy_answered ha with ⟨rfl, hnew⟩ | ⟨hk, ha'⟩
    · rcases heldBy_answered hb with ⟨rfl, -⟩ | ⟨hl, hb'⟩
      · rfl
      · exact absurd hab.symm ((hmine a hnew).2.2 l b hl hb')
    · rcases heldBy_answered hb with ⟨rfl, hnew⟩ | ⟨hl, hb'⟩
      · exact absurd hab ((hmine b hnew).2.2 k a hk ha')
      · exact h.sole k l a b ha' hb' hab

/-- Ids that other clients hold are not the id that client `i` holds. -/
private theorem other_ne (h : Kept extra cfg) {copy job : Job P} {k : ι}
    (hmine : HeldBy cfg i copy) (hk : k ≠ i) (hjob : HeldBy cfg k job) :
    job.jobId ≠ copy.jobId :=
  fun heq => hk (h.sole k i job copy hjob hmine heq)

/-- A client about to call may call. -/
theorem mayCall_of_asking (h : Kept extra cfg)
    (hi : cfg.sessions i = some ⟨o, .request c next, xs⟩) : mayCall extra (hand xs) c := by
  have hallows := (h.obeying i _ hi).1
  rwa [Session.ghost, holding_replay] at hallows

/-- A running job in hand stands in the running phase, and its slot shows the copy. -/
private theorem standing_of_mine (h : Kept extra cfg) {copy : Job P} (hmine : HeldBy cfg i copy)
    (hrun : copy.status = .running) :
    cfg.store.slot copy.jobId = ⟨0, 1, 0, 0, some copy⟩ ∧
      handOuts copy.jobId cfg.log = copy.retryCount + 1 ∧ copy.retryCount ≤ copy.maxRetries ∧
      (Phase.running = .absent ↔ ¬ Queued cfg.log copy.jobId) ∧
      (Phase.running = .acked ↔ Settled cfg.log copy.jobId) := by
  obtain ⟨hrec, hproc⟩ := h.held i copy hmine
  obtain ⟨p, hp, hlog⟩ := h.stands copy.jobId
  obtain ⟨rfl, hslot, hn, -, hcount⟩ := hp.running_of_processing hproc hrec hrun
  exact ⟨hslot, hn, hcount, hlog⟩

private theorem Kept.update {job : Job P} {next : Unit → WorkerProgram P β} (h : Kept extra cfg)
    (hi : cfg.sessions i = some ⟨o, .request (.update job) next, xs⟩) :
    Kept extra ((wholeMachine delay body).answered cfg i o (.update job) next xs) := by
  obtain ⟨copy, hhand, hrun, ⟨hjobId, hretry, hmax⟩, hstatus, -⟩ := mayCall_of_asking h hi
  have hmine : HeldBy cfg i copy := heldBy_of_asking hi hhand
  obtain ⟨hslot, hn, hcount, hlog⟩ := standing_of_mine h hmine hrun
  have hnew : (atOnce delay (.update job) cfg.store).2.slot copy.jobId =
      ⟨0, 1, 0, 0, some job⟩ := by
    rw [slot_update, if_pos hjobId.symm, hslot]
  refine h.answered_of hi trivial ?_ ?_ ?_
  · intro id
    by_cases hid : id = copy.jobId
    · subst hid
      -- the holder saves its job as running or as completed
      have hcount' : job.retryCount ≤ job.maxRetries := by omega
      rcases hstatus with hst | hst
      · refine Stands.move (q := .running) rfl rfl hlog (by decide) (by decide) ?_
        rw [hnew, hn, ← hretry]
        exact .running hjobId hst hcount'
      · refine Stands.move (q := .completed) rfl rfl hlog (by decide) (by decide) ?_
        rw [hnew, hn, ← hretry]
        exact .completed hjobId hst hcount'
    · refine ((h.stands id).congr ?_).log (by simp [queuedId]) (by simp [settledId])
        (by simp [dequeuedId])
      rw [slot_update, if_neg fun heq => hid (heq.trans hjobId)]
  · intro k b hk hb
    rw [slot_update, if_neg fun heq => other_ne h hmine hk hb (heq.trans hjobId)]
  · intro b hb
    obtain rfl : job = b := Option.some.inj hb
    rw [hjobId, hnew]
    exact ⟨rfl, by simp, fun k b hk hb => other_ne h hmine hk hb⟩

private theorem Kept.ack {job : Job P} {next : Unit → WorkerProgram P β} (h : Kept extra cfg)
    (hi : cfg.sessions i = some ⟨o, .request (.ack job) next, xs⟩) :
    Kept extra ((wholeMachine delay body).answered cfg i o (.ack job) next xs) := by
  obtain ⟨copy, hhand, hjobId⟩ := mayCall_of_asking h hi
  have hmine : HeldBy cfg i copy := heldBy_of_asking hi hhand
  refine h.answered_of hi trivial ?_ ?_ fun b hb => by cases hb
  · intro id
    by_cases hid : id = copy.jobId
    · subst hid
      obtain ⟨p, hp, habsent, -⟩ := h.stands copy.jobId
      -- a held id is in flight, so it was queued and is not yet settled
      obtain ⟨hacked, hphase⟩ := hp.acked_of_processing (h.held i copy hmine).2
      have hqueued : Queued cfg.log copy.jobId := by
        by_contra hcon
        have hnone := habsent.mpr hcon
        rcases hphase with rfl | rfl <;> cases hnone
      refine ⟨.acked, ?_, by simp [hqueued], by simp [settledId, hjobId]⟩
      rw [slot_ack, if_pos hjobId.symm]
      simpa [handOuts_cons, dequeuedId] using hacked
    · have hne : id ≠ job.jobId := fun heq => hid (heq.trans hjobId)
      refine ((h.stands id).congr ?_).log (by simp [queuedId])
        (by simpa [settledId] using hne.symm) (by simp [dequeuedId])
      rw [slot_ack, if_neg hne]
  · intro k b hk hb
    rw [slot_ack, if_neg fun heq => other_ne h hmine hk hb (heq.trans hjobId)]

private theorem Kept.retry {job : Job P} {error : String} {next : Unit → WorkerProgram P β}
    (h : Kept extra cfg)
    (hi : cfg.sessions i = some ⟨o, .request (.retry job error) next, xs⟩) :
    Kept extra ((wholeMachine delay body).answered cfg i o (.retry job error) next xs) := by
  obtain ⟨copy, hhand, hrun, hsame, -⟩ := mayCall_of_asking h hi
  have hmine : HeldBy cfg i copy := heldBy_of_asking hi hhand
  obtain ⟨hslot, hn, hcount, hlog⟩ := standing_of_mine h hmine hrun
  refine h.answered_of hi trivial ?_ ?_ fun b hb => by cases hb
  · intro id
    by_cases hid : id = copy.jobId
    · subst hid
      -- the attempt fails: the id is delayed, or dead if its retries are used up
      obtain ⟨q, hq, hfailed⟩ := (Standing.running rfl hrun hcount).failAttempt hsame error
        cfg.store.clock
      have hq' : q ≠ .absent ∧ q ≠ .acked := by rcases hq with rfl | rfl <;> decide
      refine Stands.move rfl rfl hlog (by decide) hq' ?_
      rw [slot_retry, if_pos hsame.1.symm, hslot, hn]
      exact hfailed
    · refine ((h.stands id).congr ?_).log (by simp [queuedId]) (by simp [settledId])
        (by simp [dequeuedId])
      rw [slot_retry, if_neg fun heq => hid (heq.trans hsame.1)]
  · intro k b hk hb
    rw [slot_retry, if_neg fun heq => other_ne h hmine hk hb (heq.trans hsame.1)]

private theorem Kept.enqueue {job : Job P} {next : Unit → WorkerProgram P β} (h : Kept extra cfg)
    (hi : cfg.sessions i = some ⟨o, .request (.enqueue job) next, xs⟩)
    (horderly : EnqueuesOnce cfg (.enqueue job)) :
    Kept extra ((wholeMachine delay body).answered cfg i o (.enqueue job) next xs) := by
  obtain ⟨⟨hstatus, hretry, -⟩, hnew⟩ := horderly
  have hhand : hand xs = none := mayCall_of_asking h hi
  obtain ⟨p, hp, habsent, hacked⟩ := h.stands job.jobId
  -- an id that was never queued is nowhere and has no record
  obtain rfl := habsent.mpr hnew
  have hslot : cfg.store.slot job.jobId = ⟨0, 0, 0, 0, none⟩ ∧ handOuts job.jobId cfg.log = 0 := by
    generalize cfg.store.slot job.jobId = s, handOuts job.jobId cfg.log = n at hp
    cases hp
    exact ⟨rfl, rfl⟩
  -- so nobody holds it
  have hnone : ∀ k b, HeldBy cfg k b → b.jobId ≠ job.jobId := by
    intro k b hb heq
    have hheld := (h.held k b hb).1
    rw [heq, hslot.1] at hheld
    cases hheld
  refine h.answered_of hi trivial ?_ ?_ ?_
  · intro id
    by_cases hid : id = job.jobId
    · subst hid
      refine ⟨.pending, ?_, by simp [queuedId], ?_⟩
      · rw [slot_enqueue, if_pos rfl, hslot.1, handOuts_cons, hslot.2,
          if_neg (by simp [dequeuedId])]
        have hpending : Standing job.jobId .pending ⟨1, 0, 0, 0, some job⟩ job.retryCount :=
          .pending rfl (.inl hstatus) (by rw [hretry]; exact Nat.zero_le _)
        rwa [hretry] at hpending
      · have hlog : ¬ Settled cfg.log job.jobId := mt hacked.mpr (by decide)
        simp [settledId, hlog]
    · have hne : queuedId (.ran i o ⟨.enqueue job, ()⟩ : WorkerEvent P ι O β) ≠ some id := by
        simpa [queuedId] using Ne.symm hid
      refine ((h.stands id).congr ?_).log hne (by simp [settledId]) (by simp [dequeuedId])
      rw [slot_enqueue, if_neg hid]
  · intro k b hk hb
    rw [slot_enqueue, if_neg (hnone k b hb)]
  · intro b hb
    rw [hhand] at hb
    cases hb

/-- Records are stored under their own ids. -/
private theorem Kept.own (h : Kept extra cfg) : cfg.store.Own := fun id _ hjob =>
  (h.stands id).choose_spec.1.own hjob

/-- No id is twice in flight. -/
private theorem Kept.nodup_processing (h : Kept extra cfg) :
    (keys cfg.store.processing).Nodup :=
  List.nodup_iff_count_le_one.mpr fun id => (h.stands id).choose_spec.1.count_le_one.2.1

/-- No id is delayed twice. -/
theorem Kept.nodup_delayed (h : Kept extra cfg) : (keys cfg.store.delayed).Nodup :=
  List.nodup_iff_count_le_one.mpr fun id => (h.stands id).choose_spec.1.count_le_one.2.2.1

/-- **What an orderly recovery does**: an id that is not stale is left alone, and a stale
one is running, so its attempt fails. -/
theorem Kept.recover_cases (h : Kept extra cfg) {older : Time}
    (horderly : ReapsCrashed cfg (.requeueStaleJobs older)) (delay : Time) (id : UUID) :
    (¬ cfg.store.Stale older id ∧
        (atOnce delay (.requeueStaleJobs older) cfg.store).2.slot id = cfg.store.slot id) ∨
      (cfg.store.Stale older id ∧ ∃ copy, copy.status = .running ∧
        cfg.store.slot id = ⟨0, 1, 0, 0, some copy⟩ ∧
        (atOnce delay (.requeueStaleJobs older) cfg.store).2.slot id =
          Slot.failAttempt ⟨0, 1, 0, 0, some copy⟩ copy staleError cfg.store.clock) := by
  rw [slot_requeueStaleJobs delay older h.nodup_processing h.own]
  by_cases hstale : cfg.store.Stale older id
  · obtain ⟨p, hp, -⟩ := h.stands id
    have hproc : (cfg.store.slot id).processing ≠ 0 := by
      obtain ⟨e, he, heq, -⟩ := hstale
      have hmem : id ∈ keys cfg.store.processing := List.mem_map.mpr ⟨e, he, heq⟩
      exact Nat.pos_iff_ne_zero.mp (List.count_pos_iff.mpr hmem)
    -- its holder crashed before recording an outcome
    have hrunning : ∀ copy, (cfg.store.slot id).record = some copy → copy.status ≠ .completed :=
      (horderly id hstale).2
    rw [if_pos hstale]
    refine .inr ⟨hstale, ?_⟩
    generalize cfg.store.slot id = s, handOuts id cfg.log = n at hp hproc hrunning ⊢
    cases hp with
    | running _ hstatus _ => exact ⟨_, hstatus, rfl, rfl⟩
    | completed _ hstatus _ => exact absurd hstatus (hrunning _ rfl)
    | _ => exact absurd rfl hproc
  · rw [if_neg hstale]
    exact .inl ⟨hstale, rfl⟩

private theorem Kept.requeueStaleJobs {older : Time} {next : ℕ → WorkerProgram P β}
    (h : Kept extra cfg)
    (hi : cfg.sessions i = some ⟨o, .request (.requeueStaleJobs older) next, xs⟩)
    (horderly : ReapsCrashed cfg (.requeueStaleJobs older)) :
    Kept extra ((wholeMachine delay body).answered cfg i o (.requeueStaleJobs older) next xs) := by
  have hhand : hand xs = none := mayCall_of_asking h hi
  refine h.answered_of hi trivial ?_ ?_ ?_
  · intro id
    rcases h.recover_cases horderly delay id with ⟨-, hslot⟩ | ⟨-, copy, hrun, hold, hnew⟩
    · exact ((h.stands id).congr hslot).log (by simp [queuedId]) (by simp [settledId])
        (by simp [dequeuedId])
    · obtain ⟨p, hp, hlog⟩ := h.stands id
      rw [hold] at hp
      obtain ⟨rfl, -⟩ := hp.running_of_processing (by simp) rfl hrun
      obtain ⟨q, hq, hfailed⟩ := hp.failAttempt ⟨rfl, rfl, rfl⟩ staleError cfg.store.clock
      have hq' : q ≠ .absent ∧ q ≠ .acked := by rcases hq with rfl | rfl <;> decide
      refine Stands.move rfl rfl hlog (by decide) hq' ?_
      rw [hnew]
      exact hfailed
  · intro k b hk hb
    rcases h.recover_cases horderly delay b.jobId with ⟨-, hslot⟩ | ⟨hstale, -⟩
    · exact hslot
    · -- an orderly recovery takes no id from a live holder
      exact absurd rfl ((horderly _ hstale).1 k b hb)
  · intro b hb
    rw [hhand] at hb
    cases hb

/-- Promotion leaves every id standing, and in place the ids in flight. -/
private theorem Kept.promoted (h : Kept extra cfg) :
    (∀ id, Stands cfg.store.promoted cfg.log id) ∧
      ∀ id, (cfg.store.slot id).processing ≠ 0 →
        cfg.store.promoted.slot id = cfg.store.slot id := by
  -- only delayed ids are due
  have hdue : ∀ id, id ∈ cfg.store.due → (cfg.store.slot id).delayed ≠ 0 := fun id hid =>
    Nat.pos_iff_ne_zero.mp (List.count_pos_iff.mpr (mem_keys_of_mem_zrangebyscore hid))
  constructor
  · intro id
    obtain ⟨p, hp, habsent, hacked⟩ := h.stands id
    by_cases hid : id ∈ cfg.store.due
    · obtain ⟨hpending, rfl⟩ := hp.promote (hdue id hid)
      refine ⟨.pending, ?_, by simpa using habsent, by simpa using hacked⟩
      rwa [slot_promoted h.nodup_delayed, if_pos hid]
    · refine ⟨p, ?_, habsent, hacked⟩
      rwa [slot_promoted h.nodup_delayed, if_neg hid]
  · intro id hproc
    obtain ⟨p, hp, -⟩ := h.stands id
    rw [slot_promoted h.nodup_delayed, if_neg]
    intro hid
    have hdelayed := hdue id hid
    generalize cfg.store.slot id = s, handOuts id cfg.log = n at hp hproc hdelayed
    cases hp <;> simp at hproc hdelayed

/-- Popping an id moves it from the pending list to the processing hash. -/
private theorem slot_popped {r : Redis P} {x : UUID} {rest : List UUID} {job : Job P} {now : Time}
    {index : UUID → Option UUID} (hpending : r.pending = x :: rest)
    (hslot : r.slot x = ⟨1, 0, 0, 0, some job⟩) (hx : job.jobId = x) (id : UUID) :
    Redis.slot { r with
        pending := rest
        processing := hset job.jobId now r.processing
        jobs := Function.update r.jobs job.jobId (some (running job now))
        productJob := index } id =
      if id = x then ⟨0, 1, 0, 0, some (running job now)⟩ else r.slot id := by
  subst hx
  have hproc : (keys r.processing).count job.jobId = 0 := congrArg Slot.processing hslot
  have hdelayed : (keys r.delayed).count job.jobId = 0 := congrArg Slot.delayed hslot
  have hdead : r.deadLetter.count job.jobId = 0 := congrArg Slot.deadLetter hslot
  have hcount : r.pending.count job.jobId = 1 := congrArg Slot.pending hslot
  have hnot : job.jobId ∉ keys r.processing := List.count_eq_zero.mp hproc
  rw [hpending, List.count_cons_self] at hcount
  by_cases hid : id = job.jobId
  · subst hid
    have hrest : rest.count job.jobId = 0 := by omega
    simp [Redis.slot, count_keys_hset hnot, hproc, hdelayed, hdead, hrest]
  · simp [Redis.slot, count_keys_hset hnot, hid, hpending, Ne.symm hid]

/-- **What `dequeue` does**: it hands out nothing, or a pending job that goes in flight. -/
theorem Kept.dequeue_cases (h : Kept extra cfg) (delay : Time) :
    atOnce delay .dequeue cfg.store = (none, cfg.store.promoted) ∨
      ∃ job, (atOnce delay .dequeue cfg.store).1 = some (running job cfg.store.clock) ∧
        cfg.store.promoted.slot job.jobId = ⟨1, 0, 0, 0, some job⟩ ∧ job.status ≠ .completed ∧
        ∀ id, (atOnce delay .dequeue cfg.store).2.slot id =
          if id = job.jobId then ⟨0, 1, 0, 0, some (running job cfg.store.clock)⟩
          else cfg.store.promoted.slot id := by
  have hrun := run_dequeue delay cfg.store
  cases hpending : cfg.store.promoted.pending with
  | nil => exact .inl (by rw [hrun, hpending])
  | cons x rest =>
    -- the id at the head of the list stands pending, so it has a record of its own
    obtain ⟨p, hp, -⟩ := h.promoted.1 x
    have hpend : (cfg.store.promoted.slot x).pending ≠ 0 := by
      simp [Redis.slot, hpending]
    obtain ⟨job, -, hslot, -, rfl, -, hstatus⟩ := hp.pending_of_pending hpend
    have hjob : cfg.store.promoted.jobs job.jobId = some job := congrArg Slot.record hslot
    rw [hpending] at hrun
    simp only [hjob] at hrun
    refine .inr ⟨job, congrArg Prod.fst hrun, hslot, hstatus, fun id => ?_⟩
    rw [hrun]
    exact slot_popped hpending hslot rfl id

private theorem Kept.dequeue {next : Option (Job P) → WorkerProgram P β} (h : Kept extra cfg)
    (hi : cfg.sessions i = some ⟨o, .request .dequeue next, xs⟩) :
    Kept extra ((wholeMachine delay body).answered cfg i o .dequeue next xs) := by
  obtain ⟨hstands, hflight⟩ := h.promoted
  have hheld : ∀ k b, HeldBy cfg k b →
      cfg.store.promoted.slot b.jobId = cfg.store.slot b.jobId := fun k b hb =>
    hflight b.jobId (h.held k b hb).2
  rcases h.dequeue_cases delay with hrun | ⟨job, hreply, hslot, -, hrun⟩
  · refine h.answered_of hi ?_ ?_ ?_ ?_
    · rw [hrun]
      intro j hj
      cases hj
    · intro id
      rw [hrun]
      exact (hstands id).log (by simp [queuedId]) (by simp [settledId]) (by simp [dequeuedId])
    · intro k b _ hb
      rw [hrun]
      exact hheld k b hb
    · intro b hb
      rw [hrun] at hb
      cases hb
  · obtain ⟨p, hp, habsent, hacked⟩ := hstands job.jobId
    rw [hslot] at hp
    obtain ⟨job', rfl, hsame, hn, -, hcount, -⟩ := hp.pending_of_pending (by simp)
    obtain rfl : job = job' := Option.some.inj (congrArg Slot.record hsame)
    -- nobody holds a pending job
    have hfree : ∀ k b, HeldBy cfg k b → b.jobId ≠ job.jobId := by
      intro k b hb heq
      have hproc := (h.held k b hb).2
      rw [← hheld k b hb, heq, hslot] at hproc
      exact hproc rfl
    refine h.answered_of hi ?_ ?_ ?_ ?_
    · rw [hreply]
      intro j hj
      cases hj
      rfl
    · intro id
      rw [hreply]
      have hdequeued : dequeuedId (.ran i o ⟨.dequeue, some (running job cfg.store.clock)⟩ :
          WorkerEvent P ι O β) = some job.jobId := rfl
      by_cases hid : id = job.jobId
      · subst hid
        -- the id handed out is running, and its hand-outs have grown by one
        refine ⟨.running, ?_, by simpa [queuedId] using habsent, by simpa [settledId] using hacked⟩
        rw [hrun, if_pos rfl, handOuts_cons, if_pos hdequeued, hn]
        exact .running rfl rfl hcount
      · refine ((hstands id).congr ?_).log (by simp [queuedId]) (by simp [settledId]) ?_
        · rw [hrun, if_neg hid]
        · rw [hdequeued]
          simpa using Ne.symm hid
    · intro k b _ hb
      rw [hrun, if_neg (hfree k b hb), hheld k b hb]
    · intro b hb
      rw [handed, hreply] at hb
      cases hb
      have hnew : (running job cfg.store.clock).jobId = job.jobId := rfl
      rw [hrun, hnew, if_pos rfl]
      exact ⟨rfl, by simp, fun k b _ hb => hfree k b hb⟩

/-- **Every orderly operation keeps the invariant.** -/
private theorem Kept.answered (h : Kept extra cfg)
    (hi : cfg.sessions i = some ⟨o, .request c next, xs⟩) (hfresh : EnqueuesOnce cfg c)
    (hreaps : ReapsCrashed cfg c) :
    Kept extra ((wholeMachine delay body).answered cfg i o c next xs) := by
  cases c with
  | enqueue job => exact h.enqueue hi hfresh
  | dequeue => exact h.dequeue hi
  | ack job => exact h.ack hi
  | retry job error => exact h.retry hi
  | update job => exact h.update hi
  | requeueStaleJobs older => exact h.requeueStaleJobs hi hreaps

/-! ### Runs -/

omit [DecidableEq ι] in
/-- An event other than an operation says nothing about any id. -/
private theorem Stands.other {r : Redis P} {log : List (WorkerEvent P ι O β)} {id : UUID}
    (h : Stands r log id) :
    (∀ i o, Stands r (.started i o :: log) id) ∧ ∀ i o b, Stands r (.returned i o b :: log) id :=
  ⟨fun _ _ => h.log (by simp [queuedId]) (by simp [settledId]) (by simp [dequeuedId]),
    fun _ _ _ => h.log (by simp [queuedId]) (by simp [settledId]) (by simp [dequeuedId])⟩

/-- The invariant where sessions end or begin and the store is as one id sees it the
same. -/
private theorem Kept.sessions {t : WorkerConfig P ι O β} (h : Kept extra cfg)
    (hobeying : t.Obeying (holding extra) (fun _ => none) fun _ _ hand => hand = none)
    (hstands : ∀ id, Stands t.store t.log id)
    (hslot : ∀ id, t.store.slot id = cfg.store.slot id)
    (hheld : ∀ k job, HeldBy t k job → HeldBy cfg k job) : Kept extra t where
  obeying := hobeying
  stands := hstands
  held := fun k job hk => by
    rw [hslot]
    exact h.held k job (hheld k job hk)
  sole := fun k l a b ha hb hab => h.sole k l a b (hheld k a ha) (hheld l b hb) hab

private theorem slot_drift {e : Redis.Drift} {r t : Redis P} (h : Redis.drift e r = some t)
    (id : UUID) : t.slot id = r.slot id := by
  obtain ⟨hpending, hdelayed, hdead, hjobs, hprocessing⟩ := Redis.drift_frame h
  rw [Redis.slot, Redis.slot, hpending, hdelayed, hdead, hjobs, hprocessing.count_eq]

/-- **The invariant is kept by every orderly step**, whatever the clients' programs, as
long as each keeps to the discipline of a holder. -/
theorem Kept.step (hbody : ∀ o, Holds extra (body o)) {l : Label ι O Redis.Drift}
    (h : Kept extra cfg) (horderly : Orderly cfg l)
    (hstep : (wholeMachine delay body).step cfg l = some cfg') : Kept extra cfg' := by
  refine Machine.step_rule hstep ?_ ?_ ?_ ?_ ?_
  · rintro i o rfl hnone
    refine h.sessions (h.obeying.started (hbody o))
      (fun id => (h.stands id).other.1 i o) (fun _ => rfl) ?_
    rintro k job ⟨s, hs, hjob⟩
    rcases Config.of_put_sessions hs with ⟨-, rfl⟩ | ⟨-, hold⟩
    · -- a program that starts has nothing in hand
      cases hjob
    · exact ⟨s, hold, hjob⟩
  · rintro i o c next xs rfl hi
    have hnext : c ∈ cfg.nextCommand i := Config.mem_nextCommand hi
    exact h.answered hi (horderly.1 c hnext) (horderly.2 c hnext)
  · intro cfg i s b hcfg hi hb
    refine hcfg.sessions hcfg.obeying.finish (fun id => (hcfg.stands id).other.2 i s.op b)
      (fun _ => rfl) ?_
    rintro k job ⟨t, ht, hjob⟩
    exact ⟨t, (Config.of_ended_sessions ht).2, hjob⟩
  · rintro i s rfl hi
    refine h.sessions (fun k t ht => h.obeying k t (Config.of_ended_sessions ht).2) h.stands
      (fun _ => rfl) ?_
    rintro k job ⟨t, ht, hjob⟩
    exact ⟨t, (Config.of_ended_sessions ht).2, hjob⟩
  · rintro e t rfl ht
    have hslot : ∀ id, t.slot id = cfg.store.slot id := slot_drift ht
    exact h.sessions h.obeying (fun id => (h.stands id).congr (hslot id)) hslot fun _ _ hk => hk

theorem Kept.init : Kept extra (WorkerConfig.init : WorkerConfig P ι O β) where
  obeying := fun i s h => by cases h
  stands := fun id => ⟨.absent, .absent, by simp [WorkerConfig.init, Queued],
    by simp [WorkerConfig.init, Settled]⟩
  held := fun i job h => by obtain ⟨s, hs, -⟩ := h; cases hs
  sole := fun i k a b h => by obtain ⟨s, hs, -⟩ := h; cases hs

/-- **Every reachable state of an orderly run satisfies the invariant.** -/
theorem kept_of_reach (hbody : ∀ o, Holds extra (body o))
    (hreach : Reach (wholeMachine delay body).step Orderly WorkerConfig.init cfg) :
    Kept extra cfg :=
  hreach.invariant Kept.init fun _ _ _ h hok hstep => h.step hbody hok hstep

end Answered

end ProductIntelligence
