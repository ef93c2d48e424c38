import ProductIntelligence.Workers.Lifecycle

/-!
# The state of the queue

What the lifecycle invariant says of every job that was enqueued and not acknowledged:
it is at one place, once; its record agrees with the place; its retries and hand-outs
are bounded.  For `process_one` it also fixes the retry history, entry by entry.

## Main definitions

* `Slot.Accounted` — the place, the record and the counts of one id agree.
* `records` — how `process_one` writes the history.
* `recorded` — the outcomes the log tells of.

## Main results

* `processOne_holds` — `process_one` keeps to the discipline of a holder.
* `Recorded.step` — the history tells the recorded outcomes.
* `queue_state_invariant` — **the queue state invariant**.
-/

namespace ProductIntelligence

open Effects Program RedisQueue ProductWorker

variable {P ι O β : Type}

/-! ### One id -/

/-- Every client that holds the id issues its `ack` next. -/
def AboutToAck (cfg : WorkerConfig P ι O β) (id : UUID) : Prop :=
  ∀ i copy, HeldBy cfg i copy → copy.jobId = id →
    ∃ job, cfg.nextCommand i = some (.ack job) ∧ job.jobId = id

/-- How often the four structures hold an id. -/
def Slot.occurrences (s : Slot P) : ℕ := s.pending + s.processing + s.delayed + s.deadLetter

/-- What a slot says of an id that was handed out `n` times: it is at one place, once;
the status of its record `job` agrees with the place, `COMPLETED` needing `ack`; and its
retries and hand-outs are bounded. -/
structure Slot.Accounted (s : Slot P) (id : UUID) (n : ℕ) (ack : Prop) (job : Job P) : Prop where
  record : s.record = some job
  own : job.jobId = id
  once : s.occurrences = 1
  pending : s.pending ≠ 0 → job.status = .pending ∨ job.status = .retrying
  processing : s.processing ≠ 0 → job.status = .running ∨ (job.status = .completed ∧ ack)
  delayed : s.delayed ≠ 0 → job.status = .retrying
  deadLetter : s.deadLetter ≠ 0 → job.status = .failed ∧ job.retryCount = job.maxRetries + 1
  retries : s.deadLetter = 0 → job.retryCount ≤ job.maxRetries
  handedOut : n ≤ job.maxRetries + 1

/-- **Every job in the queue is accounted for.** -/
theorem Standing.accounted {id : UUID} {p : Phase} {s : Slot P} {n : ℕ} {ack : Prop}
    (h : Standing id p s n) (hp : p ≠ .absent ∧ p ≠ .acked)
    (hack : ∀ job, s.record = some job → job.status = .completed → ack) :
    ∃ job, s.Accounted id n ack job := by
  cases h with
  | absent => exact absurd rfl hp.1
  | acked _ _ _ => exact absurd rfl hp.2
  | pending hid hstatus hcount =>
    refine ⟨_, ⟨rfl, hid, rfl, fun _ => hstatus, ?_, ?_, ?_, fun _ => hcount, by omega⟩⟩
    all_goals exact fun hne => absurd rfl hne
  | running hid hstatus hcount =>
    refine ⟨_, ⟨rfl, hid, rfl, ?_, fun _ => .inl hstatus, ?_, ?_, fun _ => hcount, by omega⟩⟩
    all_goals exact fun hne => absurd rfl hne
  | completed hid hstatus hcount =>
    refine ⟨_, ⟨rfl, hid, rfl, ?_, fun _ => .inr ⟨hstatus, hack _ rfl hstatus⟩, ?_, ?_,
      fun _ => hcount, by omega⟩⟩
    all_goals exact fun hne => absurd rfl hne
  | delayed hid hstatus hcount =>
    refine ⟨_, ⟨rfl, hid, rfl, ?_, ?_, fun _ => hstatus, ?_, fun _ => hcount, by omega⟩⟩
    all_goals exact fun hne => absurd rfl hne
  | dead hid hstatus hcount =>
    refine ⟨_, ⟨rfl, hid, rfl, ?_, ?_, ?_, fun _ => ⟨hstatus, hcount⟩, by simp, hcount.le⟩⟩
    all_goals exact fun hne => absurd rfl hne

section Accounted

variable [DecidableEq ι] {extra : Job P → Call P → Prop} {cfg : WorkerConfig P ι O β}

/-- A client whose copy is recorded as completed can only acknowledge it. -/
theorem Kept.aboutToAck (h : Kept extra cfg) {id : UUID} {job : Job P}
    (hrec : cfg.store.jobs id = some job) (hstatus : job.status = .completed) :
    AboutToAck cfg id := by
  rintro i copy ⟨s, hs, hhand⟩ rfl
  have hcopy : copy = job := by
    have hheld : cfg.store.jobs copy.jobId = some copy := (h.held i copy ⟨s, hs, hhand⟩).1
    rw [hrec] at hheld
    exact (Option.some.inj hheld).symm
  subst hcopy
  obtain ⟨o, rest, xs⟩ := s
  have hrest := h.obeying i _ hs
  rw [Session.ghost, holding_replay] at hrest
  replace hhand : hand xs = some copy := hhand
  rw [hhand] at hrest
  cases rest with
  | done b => cases hrest
  | request c next =>
    have hcall : mayCall extra (some copy) c := hrest.1
    have hrunning : copy.status ≠ .running := by rw [hstatus]; decide
    cases c with
    | ack ack =>
      obtain ⟨copy', hcopy', hack⟩ := hcall
      cases hcopy'
      exact ⟨ack, by rw [Config.nextCommand, hs], hack⟩
    | update job =>
      obtain ⟨copy', hcopy', hrun, -⟩ := hcall
      cases hcopy'
      exact absurd hrun hrunning
    | retry job error =>
      obtain ⟨copy', hcopy', hrun, -⟩ := hcall
      cases hcopy'
      exact absurd hrun hrunning
    | _ => cases hcall

/-- **An id that was enqueued and not acknowledged is accounted for.** -/
theorem Kept.accounted (h : Kept extra cfg) {id : UUID} (hqueued : Queued cfg.log id)
    (hsettled : ¬ Settled cfg.log id) :
    ∃ job, (cfg.store.slot id).Accounted id (handOuts id cfg.log) (AboutToAck cfg id) job := by
  obtain ⟨p, hp, habsent, hacked⟩ := h.stands id
  refine hp.accounted ⟨fun heq => habsent.mp heq hqueued, fun heq => hsettled (hacked.mp heq)⟩ ?_
  exact fun job hrec hstatus => h.aboutToAck hrec hstatus

end Accounted

/-! ### How `process_one` behaves -/

/-- How `process_one` writes the history of the job in hand: not at all while it
reports progress, a success when it records completion, a failure when it retries,
each numbered one more than the retries so far. -/
def records (copy : Job P) : Call P → Prop
  | .update job =>
    (job.status = .running → job.retryHistory = copy.retryHistory) ∧
      (job.status = .completed → ∃ e, job.retryHistory = copy.retryHistory ++ [e] ∧
        e.attempt = copy.retryCount + 1 ∧ e.success = true)
  | .retry job _ => ∃ e, job.retryHistory = copy.retryHistory ++ [e] ∧
      e.attempt = copy.retryCount + 1 ∧ e.success = false
  | _ => True

/-- In hand is a running job that was retried `n` times. -/
private def InHand (n : ℕ) (job : Job P) (hand : Option (Job P)) : Prop :=
  hand = some job ∧ job.status = .running ∧ job.retryCount = n

private theorem reportProgress_holds {n progress : ℕ} {stage : String} {now : Time} {job : Job P}
    {hand : Option (Job P)} (h : InHand n job hand) :
    (reportProgress job progress stage now).Obeys (holding records) (InHand n) hand := by
  obtain ⟨rfl, hstatus, hn⟩ := h
  simp only [reportProgress, perform_bind, obeys_request, pure_eq_done, obeys_done]
  refine ⟨⟨job, rfl, hstatus, ⟨rfl, rfl, rfl⟩, .inl hstatus, ⟨fun _ => rfl, fun hst => ?_⟩⟩,
    fun _ _ => ⟨rfl, hstatus, hn⟩⟩
  replace hst : job.status = .completed := hst
  rw [hstatus] at hst
  cases hst

private theorem attemptUpload_holds {a : Attempt} {n : ℕ} {job : Job P} {hand : Option (Job P)}
    (h : InHand n job hand) :
    (attemptUpload a job).Obeys (holding records) (fun r => InHand n r.1) hand := by
  refine (reportProgress_holds h).bind ?_
  intro job₁ hand₁ h₁
  cases a.parse with
  | error e => exact h₁
  | ok u =>
    refine (reportProgress_holds h₁).bind ?_
    intro job₂ hand₂ h₂
    cases a.upload with
    | error e => exact h₂
    | ok u => exact (reportProgress_holds h₂).bind fun job₃ hand₃ h₃ => h₃

/-- **`process_one` keeps to the discipline of a holder** and writes the history as
described. -/
theorem processOne_holds (a : Attempt) : Holds records (processOne a : WorkerProgram P Bool) := by
  refine ⟨rfl, fun job hrunning => ?_⟩
  cases job with
  | none => rfl
  | some job =>
    have hinHand : InHand job.retryCount job (some job) := ⟨rfl, hrunning job rfl, rfl⟩
    refine (attemptUpload_holds hinHand).bind ?_
    intro r hand hr
    obtain ⟨job', error⟩ := r
    obtain ⟨rfl, hstatus, hn⟩ := hr
    replace hn : job'.retryCount = job.retryCount := hn
    cases error with
    | none =>
      refine ⟨⟨job', rfl, hstatus, ⟨rfl, rfl, rfl⟩, .inr rfl, ⟨fun hst => (by cases hst), ?_⟩⟩,
        fun _ _ => ⟨⟨_, rfl, rfl⟩, fun _ _ => rfl⟩⟩
      exact fun _ => ⟨_, rfl, congrArg (· + 1) hn.symm, rfl⟩
    | some error =>
      refine ⟨⟨job', rfl, hstatus, ⟨rfl, rfl, rfl⟩, ?_⟩, fun _ _ => rfl⟩
      exact ⟨_, rfl, congrArg (· + 1) hn.symm, rfl⟩

/-- Whatever goes on around the queue keeps to the discipline. -/
theorem activity_holds (jobTimeout : Time) (activity : Activity P) :
    Holds records (activity.body jobTimeout) := by
  cases activity with
  | upload job => exact ⟨rfl, fun _ _ => rfl⟩
  | processOne a => exact (processOne_holds a).bind fun _ hand hhand => hhand
  | recover => exact ⟨rfl, fun _ _ => rfl⟩

/-! ### The history -/

/-- The outcome of attempt `n` of an id that an event records. -/
def outcomeOf (id : UUID) (n : ℕ) : WorkerEvent P ι O β → List (ℕ × Bool)
  | .ran _ _ ⟨.update job, _⟩ =>
    if job.jobId = id ∧ job.status = .completed then [(n, true)] else []
  | .ran _ _ ⟨.retry job _, _⟩ => if job.jobId = id then [(n, false)] else []
  | _ => []

/-- The outcomes recorded for an id, oldest first, each with the number of times the id
had been handed out. -/
def recorded (id : UUID) : List (WorkerEvent P ι O β) → List (ℕ × Bool)
  | [] => []
  | e :: log => recorded id log ++ outcomeOf id (handOuts id log) e

/-- The outcomes a record tells of. -/
def outcomes (record : Option (Job P)) : List (ℕ × Bool) :=
  match record with
  | none => []
  | some job => job.retryHistory.map fun e => (e.attempt, e.success)

/-- A record tells of a success exactly when it says the job completed. -/
def SuccessIffCompleted (record : Option (Job P)) : Prop :=
  ∀ job, record = some job →
    ((∃ e ∈ job.retryHistory, e.success = true) ↔ job.status = .completed)

/-- The history of every record tells the outcomes recorded. -/
def Recorded (cfg : WorkerConfig P ι O β) : Prop :=
  ∀ id, outcomes (cfg.store.jobs id) = recorded id cfg.log ∧
    SuccessIffCompleted (cfg.store.jobs id)

/-- A record that is left as it is, or whose status moves among those before completion. -/
private theorem successIffCompleted_of_history {job job' : Job P}
    (h : SuccessIffCompleted (some job)) (hhistory : job'.retryHistory = job.retryHistory)
    (hstatus : job.status ≠ .completed) (hstatus' : job'.status ≠ .completed) :
    SuccessIffCompleted (some job') := by
  rintro _ ⟨⟩
  rw [hhistory, h job rfl]
  exact ⟨fun hst => absurd hst hstatus, fun hst => absurd hst hstatus'⟩

/-- A record to whose history a failure is added before completion. -/
private theorem successIffCompleted_of_failure {job job' : Job P} {e : JobResult}
    (h : SuccessIffCompleted (some job)) (hhistory : job'.retryHistory = job.retryHistory ++ [e])
    (he : e.success = false) (hstatus : job.status ≠ .completed)
    (hstatus' : job'.status ≠ .completed) : SuccessIffCompleted (some job') := by
  rintro _ ⟨⟩
  have hnone : ¬ ∃ x ∈ job.retryHistory, x.success = true := mt (h job rfl).mp hstatus
  constructor
  · rintro ⟨x, hx, hsuccess⟩
    rw [hhistory, List.mem_append, List.mem_singleton] at hx
    rcases hx with hx | rfl
    · exact absurd ⟨x, hx, hsuccess⟩ hnone
    · rw [he] at hsuccess
      cases hsuccess
  · exact fun hst => absurd hst hstatus'

/-- The history where nothing about the records or the outcomes changes. -/
private theorem Recorded.congr {cfg t : WorkerConfig P ι O β} (h : Recorded cfg)
    (hjobs : t.store.jobs = cfg.store.jobs)
    (hlog : ∀ id, recorded id t.log = recorded id cfg.log) : Recorded t := by
  intro id
  rw [hjobs, hlog]
  exact h id

theorem Recorded.init : Recorded (WorkerConfig.init : WorkerConfig P ι O β) :=
  fun _ => ⟨rfl, fun _ h => by cases h⟩

/-- The record a failed attempt leaves. -/
private theorem record_failAttempt (t : Slot P) (job : Job P) (error : String) (now : Time) :
    ∃ job', (t.failAttempt job error now).record = some job' ∧
      job'.retryHistory = job.retryHistory ∧ job'.status ≠ .completed := by
  by_cases hmax : job.maxRetries < job.retryCount + 1
  · rw [Slot.failAttempt_exhausted hmax]
    exact ⟨_, rfl, rfl, by simp⟩
  · rw [Slot.failAttempt_delayed hmax]
    exact ⟨_, rfl, rfl, by simp⟩

section Answered

variable [DecidableEq ι] {delay : Time} {body : O → WorkerProgram P β}
  {cfg cfg' : WorkerConfig P ι O β} {i : ι} {o : O} {c : Call P}
  {next : c.Reply → WorkerProgram P β} {xs : List (Exchange (@Call.Reply P))}

/-- The history after an operation, from what it did to each record. -/
private theorem Recorded.answered_of (h : Recorded cfg)
    (hrecord : ∀ id, (SuccessIffCompleted (cfg.store.jobs id) →
        SuccessIffCompleted ((atOnce delay c cfg.store).2.slot id).record) ∧
      outcomes ((atOnce delay c cfg.store).2.slot id).record =
        outcomes (cfg.store.jobs id) ++ outcomeOf id (handOuts id cfg.log)
          (.ran i o ⟨c, (atOnce delay c cfg.store).1⟩ : WorkerEvent P ι O β)) :
    Recorded ((wholeMachine delay body).answered cfg i o c next xs) := by
  intro id
  obtain ⟨hhistory, hsuccess⟩ := h id
  refine ⟨?_, (hrecord id).1 hsuccess⟩
  have hrun := (hrecord id).2
  rw [hhistory] at hrun
  exact hrun

/-- An operation keeps the history if each record it changes keeps its own, and the
status changes among those before completion. -/
private theorem Recorded.answered_of_keeps (h : Recorded cfg)
    (hevent : ∀ id n, outcomeOf id n
      (.ran i o ⟨c, (atOnce delay c cfg.store).1⟩ : WorkerEvent P ι O β) = [])
    (hrecord : ∀ id, ((atOnce delay c cfg.store).2.slot id).record = cfg.store.jobs id ∨
      ∃ job job', cfg.store.jobs id = some job ∧
        ((atOnce delay c cfg.store).2.slot id).record = some job' ∧
        job'.retryHistory = job.retryHistory ∧ job.status ≠ .completed ∧
        job'.status ≠ .completed) :
    Recorded ((wholeMachine delay body).answered cfg i o c next xs) := by
  refine h.answered_of ?_
  intro id
  rw [hevent, List.append_nil]
  rcases hrecord id with hsame | ⟨job, job', hjob, hjob', hhistory, hstatus, hstatus'⟩
  · rw [hsame]
    exact ⟨fun hs => hs, rfl⟩
  · rw [hjob, hjob']
    refine ⟨fun hs => successIffCompleted_of_history hs hhistory hstatus hstatus', ?_⟩
    simp only [outcomes, hhistory]

/-- The job a client is about to update or retry. -/
private theorem copy_of_asking (hk : Kept records cfg) {copy : Job P}
    (hi : cfg.sessions i = some ⟨o, .request c next, xs⟩) (hhand : hand xs = some copy)
    (hrun : copy.status = .running) :
    cfg.store.jobs copy.jobId = some copy ∧
      handOuts copy.jobId cfg.log = copy.retryCount + 1 := by
  have hmine : HeldBy cfg i copy := ⟨_, hi, hhand⟩
  obtain ⟨hrec, hproc⟩ := hk.held i copy hmine
  obtain ⟨p, hp, -⟩ := hk.stands copy.jobId
  obtain ⟨-, -, hn, -⟩ := hp.running_of_processing hproc hrec hrun
  exact ⟨hrec, hn⟩

private theorem Recorded.update {job : Job P} {next : Unit → WorkerProgram P β}
    (h : Recorded cfg) (hk : Kept records cfg)
    (hi : cfg.sessions i = some ⟨o, .request (.update job) next, xs⟩) :
    Recorded ((wholeMachine delay body).answered cfg i o (.update job) next xs) := by
  obtain ⟨copy, hhand, hrun, ⟨hjobId, hretry, -⟩, hstatus, hkeeps, hcompletes⟩ :=
    mayCall_of_asking hk hi
  obtain ⟨hrec, hn⟩ := copy_of_asking hk hi hhand hrun
  have hnot : copy.status ≠ .completed := by rw [hrun]; decide
  refine h.answered_of ?_
  intro id
  rw [slot_update]
  by_cases hid : id = job.jobId
  · subst hid
    rw [if_pos rfl, hjobId, hrec]
    -- progress leaves the history alone, completion adds a success
    rcases hstatus with hst | hst
    · have hst' : job.status ≠ .completed := by rw [hst]; decide
      refine ⟨fun hs => successIffCompleted_of_history hs (hkeeps hst) hnot hst', ?_⟩
      simp [outcomes, outcomeOf, hkeeps hst, hst]
    · obtain ⟨e, hhistory, hattempt, hsuccess⟩ := hcompletes hst
      refine ⟨?_, ?_⟩
      · rintro - _ ⟨⟩
        refine ⟨fun _ => hst, fun _ => ⟨e, ?_, hsuccess⟩⟩
        rw [hhistory]
        exact List.mem_append_right _ (List.mem_singleton_self e)
      · simp [outcomes, outcomeOf, hhistory, hattempt, hsuccess, hst, hjobId, hn]
  · rw [if_neg hid]
    refine ⟨fun hs => hs, ?_⟩
    simp [outcomeOf, Ne.symm hid, Redis.slot]

private theorem Recorded.retry {job : Job P} {error : String} {next : Unit → WorkerProgram P β}
    (h : Recorded cfg) (hk : Kept records cfg)
    (hi : cfg.sessions i = some ⟨o, .request (.retry job error) next, xs⟩) :
    Recorded ((wholeMachine delay body).answered cfg i o (.retry job error) next xs) := by
  obtain ⟨copy, hhand, hrun, ⟨hjobId, -, -⟩, e, hhistory, hattempt, hfailure⟩ :=
    mayCall_of_asking hk hi
  obtain ⟨hrec, hn⟩ := copy_of_asking hk hi hhand hrun
  have hnot : copy.status ≠ .completed := by rw [hrun]; decide
  refine h.answered_of ?_
  intro id
  rw [slot_retry]
  by_cases hid : id = job.jobId
  · subst hid
    -- the failure was added by the holder; the retry itself keeps the history
    obtain ⟨job', hjob', hsame, hstatus'⟩ :=
      record_failAttempt (cfg.store.slot job.jobId) job error cfg.store.clock
    rw [if_pos rfl, hjob', hjobId, hrec]
    have hhistory' : job'.retryHistory = copy.retryHistory ++ [e] := hsame.trans hhistory
    refine ⟨fun hs => successIffCompleted_of_failure hs hhistory' hfailure hnot hstatus', ?_⟩
    simp [outcomes, outcomeOf, hhistory', hattempt, hfailure, hjobId, hn]
  · rw [if_neg hid]
    refine ⟨fun hs => hs, ?_⟩
    simp [outcomeOf, Ne.symm hid, Redis.slot]

/-- **Every orderly operation keeps the history in step with the outcomes.** -/
private theorem Recorded.answered (h : Recorded cfg) (hk : Kept records cfg)
    (hi : cfg.sessions i = some ⟨o, .request c next, xs⟩) (honce : EnqueuesOnce cfg c)
    (hreaps : ReapsCrashed cfg c) :
    Recorded ((wholeMachine delay body).answered cfg i o c next xs) := by
  cases c with
  | update job => exact h.update hk hi
  | retry job error => exact h.retry hk hi
  | enqueue job =>
    obtain ⟨⟨hstatus, -, hfresh⟩, hnew⟩ := honce
    obtain ⟨p, hp, habsent, -⟩ := hk.stands job.jobId
    obtain rfl := habsent.mpr hnew
    -- a new id has no record
    have hnone : cfg.store.jobs job.jobId = none := by
      change (cfg.store.slot job.jobId).record = none
      generalize cfg.store.slot job.jobId = s, handOuts job.jobId cfg.log = n at hp
      cases hp
      rfl
    refine h.answered_of ?_
    intro id
    rw [slot_enqueue]
    by_cases hid : id = job.jobId
    · subst hid
      rw [if_pos rfl, hnone]
      refine ⟨?_, by simp [outcomes, outcomeOf, hfresh]⟩
      rintro - _ ⟨⟩
      simp [hfresh, hstatus]
    · rw [if_neg hid]
      exact ⟨fun hs => hs, by simp [outcomeOf, Redis.slot]⟩
  | ack job =>
    refine h.answered_of_keeps (fun _ _ => rfl) fun id => .inl ?_
    rw [slot_ack]
    split <;> rfl
  | dequeue =>
    have hnodup : (keys cfg.store.delayed).Nodup := hk.nodup_delayed
    refine h.answered_of_keeps (fun _ _ => rfl) ?_
    intro id
    rcases hk.dequeue_cases delay with hrun | ⟨job, -, hslot, hstatus, hrun⟩
    · rw [hrun]
      exact .inl (record_promoted hnodup id)
    · rw [hrun]
      by_cases hid : id = job.jobId
      · subst hid
        rw [if_pos rfl]
        have hjob : cfg.store.jobs job.jobId = some job :=
          (record_promoted hnodup _).symm.trans (congrArg Slot.record hslot)
        exact .inr ⟨job, _, hjob, rfl, rfl, hstatus, by simp [running]⟩
      · rw [if_neg hid]
        exact .inl (record_promoted hnodup id)
  | requeueStaleJobs older =>
    refine h.answered_of_keeps (fun _ _ => rfl) ?_
    intro id
    rcases hk.recover_cases hreaps delay id with ⟨-, hslot⟩ | ⟨-, copy, hrun, hold, hnew⟩
    · exact .inl (congrArg Slot.record hslot)
    · -- recovery fails the attempt and records no outcome
      obtain ⟨job', hjob', hhistory, hstatus'⟩ :=
        record_failAttempt ⟨0, 1, 0, 0, some copy⟩ copy staleError cfg.store.clock
      refine .inr ⟨copy, job', congrArg Slot.record hold, ?_, hhistory, ?_, hstatus'⟩
      · rw [hnew, hjob']
      · rw [hrun]
        decide

/-- **The history is kept by every orderly step.** -/
theorem Recorded.step {l : Label ι O Redis.Drift} (h : Recorded cfg) (hk : Kept records cfg)
    (horderly : Orderly cfg l) (hstep : (wholeMachine delay body).step cfg l = some cfg') :
    Recorded cfg' := by
  refine Machine.step_rule hstep ?_ ?_ ?_ ?_ ?_
  · rintro i o rfl -
    exact h.congr rfl fun _ => List.append_nil _
  · rintro i o c next xs rfl hi
    have hnext : c ∈ cfg.nextCommand i := Config.mem_nextCommand hi
    exact h.answered hk hi (horderly.1 c hnext) (horderly.2 c hnext)
  · exact fun cfg i s b hcfg _ _ => hcfg.congr rfl fun _ => List.append_nil _
  · rintro i s rfl -
    exact h.congr rfl fun _ => rfl
  · rintro e t rfl ht
    obtain ⟨-, -, -, hjobs, -⟩ := Redis.drift_frame ht
    exact h.congr hjobs fun _ => rfl

end Answered

/-- **The queue state invariant.**  Operations execute one at a time, ids are enqueued
once, and recovery only reaps jobs whose holder crashed before recording an outcome.
Whatever programs the clients run, as long as `ack`, `update` and `retry` are for the
job in hand, every id that was enqueued and not acknowledged is accounted for.  Where
they run `process_one`, the history of every record has one entry for each outcome
recorded, numbered by the hand-outs, and has a success exactly when the job completed. -/
theorem queue_state_invariant [DecidableEq ι] (delay : Time) :
    (∀ (body : O → WorkerProgram P β), (∀ o, Holds (fun _ _ => True) (body o)) →
      ∀ cfg : WorkerConfig P ι O β,
        Reach (wholeMachine delay body).step Orderly WorkerConfig.init cfg →
        ∀ id, Queued cfg.log id → ¬ Settled cfg.log id → ∃ job,
          (cfg.store.slot id).Accounted id (handOuts id cfg.log) (AboutToAck cfg id) job) ∧
    ∀ (jobTimeout : Time) (cfg : WorkerConfig P ι (Activity P) Unit),
      Reach (workerMachine P delay jobTimeout).step Orderly WorkerConfig.init cfg →
        (∀ id, Queued cfg.log id → ¬ Settled cfg.log id → ∃ job,
          (cfg.store.slot id).Accounted id (handOuts id cfg.log) (AboutToAck cfg id) job) ∧
        ∀ id job, cfg.store.jobs id = some job →
          (job.retryHistory.map fun e => (e.attempt, e.success)) = recorded id cfg.log ∧
          ((∃ e ∈ job.retryHistory, e.success = true) ↔ job.status = .completed) := by
  constructor
  · intro body hbody cfg hreach id hqueued hsettled
    exact (kept_of_reach hbody hreach).accounted hqueued hsettled
  · intro jobTimeout cfg hreach
    have hboth : Kept records cfg ∧ Recorded cfg :=
      hreach.invariant (I := fun cfg => Kept records cfg ∧ Recorded cfg)
        ⟨Kept.init, Recorded.init⟩ fun _ _ _ h hok hstep =>
        ⟨h.1.step (activity_holds jobTimeout) hok hstep, h.2.step h.1 hok hstep⟩
    refine ⟨fun id hqueued hsettled => hboth.1.accounted hqueued hsettled, fun id job hjob => ?_⟩
    obtain ⟨hhistory, hsuccess⟩ := hboth.2 id
    rw [hjob] at hhistory hsuccess
    exact ⟨hhistory, hsuccess job rfl⟩

/-- A client uploads a job, takes it up and fails. -/
private def failOnce (client : Fin 1) : List (Label (Fin 1) (Activity Unit) Redis.Drift) :=
  [.start client (.upload (Job.queued 1 1 () 0 5)), .exec client,
    .start client (.processOne (.instant (.ok ()) (.error ""))),
    .exec client, .exec client, .exec client, .exec client]

/-- The rule at a queued job nobody touched, and at a job whose first attempt failed. -/
theorem queue_state_after_failure :
    (∃ (cfg : WorkerConfig Unit (Fin 1) (Job Unit) Unit) (job : Job Unit),
      (cfg.store.slot 1).Accounted 1 0 (AboutToAck cfg 1) job) ∧
    ∃ (cfg : WorkerConfig Unit (Fin 1) (Activity Unit) Unit) (job : Job Unit),
      (cfg.store.slot 1).Accounted 1 1 (AboutToAck cfg 1) job ∧
        (job.retryHistory.map fun e => (e.attempt, e.success)) = [(1, false)] := by
  constructor
  · let body : Job Unit → WorkerProgram Unit Unit := fun job => queue (.enqueue job)
    obtain ⟨cfg, hreach, hcfg⟩ := exists_reach_of_runLabels (wholeMachine 1 body).step
      (fun cfg l => decide (Orderly cfg l)) WorkerConfig.init
      [.start (0 : Fin 1) (Job.queued 1 1 () 0 5), .exec 0]
      (fun cfg => decide (Queued cfg.log 1 ∧ ¬ Settled cfg.log 1 ∧ handOuts 1 cfg.log = 0))
      (by decide +kernel)
    obtain ⟨hqueued, hsettled, hcount⟩ := of_decide_eq_true hcfg
    obtain ⟨job, hjob⟩ := (queue_state_invariant (P := Unit) 1).1 body
      (fun _ => ⟨rfl, fun _ _ => rfl⟩) cfg (hreach.mono fun _ _ h => of_decide_eq_true h) 1
      hqueued hsettled
    rw [hcount] at hjob
    exact ⟨cfg, job, hjob⟩
  · obtain ⟨cfg, hreach, hcfg⟩ := exists_reach_of_runLabels (workerMachine Unit 1 10).step
      (fun cfg l => decide (Orderly cfg l)) WorkerConfig.init (failOnce 0)
      (fun cfg => decide (Queued cfg.log 1 ∧ ¬ Settled cfg.log 1 ∧ handOuts 1 cfg.log = 1 ∧
        recorded 1 cfg.log = [(1, false)])) (by decide +kernel)
    obtain ⟨hqueued, hsettled, hcount, hrecorded⟩ := of_decide_eq_true hcfg
    obtain ⟨haccounted, hhistory⟩ := (queue_state_invariant (O := Unit) (β := Unit) 1).2 10 cfg
      (hreach.mono fun _ _ h => of_decide_eq_true h)
    obtain ⟨job, hjob⟩ := haccounted 1 hqueued hsettled
    have hrecord : cfg.store.jobs 1 = some job := hjob.record
    rw [hcount] at hjob
    exact ⟨cfg, job, hjob, (hhistory 1 job hrecord).1.trans hrecorded⟩

end ProductIntelligence
