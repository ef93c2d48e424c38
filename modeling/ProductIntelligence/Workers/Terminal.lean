import ProductIntelligence.Workers.QueueState

/-!
# Terminal means terminal

In the runs in which recovery reaps only jobs whose holder crashed before recording an
outcome, a completed job stays completed and is never handed out again, and a dead
letter is one entry with a failed record.  The timeout alone does not ensure this: a
slow worker loses its job to recovery and completes it afterwards.

## Main definitions

* `Terminal` — what completion and dead-lettering promise along the runs of a machine.

## Main results

* `Kept.completed_stays` — an orderly step leaves a completed job as it is.
* `terminal_of_reaps_crashed` — **terminal means terminal in orderly runs**.
* `slow_worker_completes_then_runs_again` — a slow worker's job is completed and then
  handed out again.
-/

namespace ProductIntelligence

open Effects RedisQueue

variable {P ι O β : Type} [DecidableEq ι]

/-- Along the runs of workers whose steps meet `ok`: a job whose record was saved as
completed keeps that record and is not handed out again, and every dead letter occurs
once and has a failed record. -/
def Terminal (P ι : Type) [DecidableEq ι] (delay jobTimeout : Time)
    (ok : WorkerConfig P ι (Activity P) Unit → Label ι (Activity P) Redis.Drift → Prop) : Prop :=
  ∀ cfg, Reach (workerMachine P delay jobTimeout).step ok WorkerConfig.init cfg →
    (∀ id job, cfg.store.jobs id = some job → job.status = .completed →
      ∀ cfg', Reach (workerMachine P delay jobTimeout).step ok cfg cfg' →
        (∃ job', cfg'.store.jobs id = some job' ∧ job'.status = .completed) ∧
          handOuts id cfg'.log = handOuts id cfg.log) ∧
    ∀ id ∈ cfg.store.deadLetter, cfg.store.deadLetter.count id = 1 ∧
      ∃ job, cfg.store.jobs id = some job ∧ job.status = .failed

section Kept

variable {extra : Job P → Call P → Prop} {delay : Time} {body : O → WorkerProgram P β}
  {cfg cfg' : WorkerConfig P ι O β} {i : ι} {o : O} {c : Call P}
  {next : c.Reply → WorkerProgram P β} {xs : List (Exchange (@Call.Reply P))}

/-- An orderly operation leaves a completed job as it is. -/
private theorem Kept.completed_answered (h : Kept extra cfg) (delay : Time) {id : UUID}
    {job : Job P} (hjob : cfg.store.jobs id = some job) (hstatus : job.status = .completed)
    (hi : cfg.sessions i = some ⟨o, .request c next, xs⟩) (honce : EnqueuesOnce cfg c)
    (hreaps : ReapsCrashed cfg c) :
    ((atOnce delay c cfg.store).2.slot id).record = some job ∧
      dequeuedId (.ran i o ⟨c, (atOnce delay c cfg.store).1⟩ : WorkerEvent P ι O β) ≠ some id := by
  -- a job in hand that is still running is another job
  have hother : ∀ copy, hand xs = some copy → copy.status = .running → id ≠ copy.jobId := by
    rintro copy hhand hrun rfl
    have hrec : cfg.store.jobs copy.jobId = some copy := (h.held i copy ⟨_, hi, hhand⟩).1
    rw [hjob] at hrec
    cases hrec
    rw [hstatus] at hrun
    cases hrun
  cases c with
  | enqueue new =>
    -- the id enqueued is new, and the completed job has a record
    have hne : id ≠ new.jobId := by
      rintro rfl
      obtain ⟨p, hp, habsent, -⟩ := h.stands new.jobId
      obtain rfl := habsent.mpr honce.2
      have hrec : (cfg.store.slot new.jobId).record = some job := hjob
      generalize cfg.store.slot new.jobId = s, handOuts new.jobId cfg.log = n at hp hrec
      cases hp
      cases hrec
    rw [slot_enqueue, if_neg hne]
    exact ⟨hjob, by simp [dequeuedId]⟩
  | ack acked =>
    rw [slot_ack]
    refine ⟨?_, by simp [dequeuedId]⟩
    split <;> exact hjob
  | update new =>
    obtain ⟨copy, hhand, hrun, hsame, -⟩ := mayCall_of_asking h hi
    rw [slot_update, if_neg fun heq => hother copy hhand hrun (heq.trans hsame.1)]
    exact ⟨hjob, by simp [dequeuedId]⟩
  | retry new error =>
    obtain ⟨copy, hhand, hrun, hsame, -⟩ := mayCall_of_asking h hi
    rw [slot_retry, if_neg fun heq => hother copy hhand hrun (heq.trans hsame.1)]
    exact ⟨hjob, by simp [dequeuedId]⟩
  | dequeue =>
    have hpromoted : (cfg.store.promoted.slot id).record = some job :=
      (record_promoted h.nodup_delayed id).trans hjob
    rcases h.dequeue_cases delay with hrun | ⟨popped, hreply, hslot, hpending, hrun⟩
    · rw [hrun]
      exact ⟨hpromoted, by simp [dequeuedId]⟩
    · -- a job popped is pending, so it is not the completed one
      have hne : id ≠ popped.jobId := by
        rintro rfl
        rw [hslot] at hpromoted
        cases hpromoted
        exact hpending hstatus
      rw [hrun, if_neg hne, hreply]
      exact ⟨hpromoted, fun heq => hne (Option.some.inj heq).symm⟩
  | requeueStaleJobs older =>
    refine ⟨?_, by simp [dequeuedId]⟩
    rcases h.recover_cases hreaps delay id with ⟨-, hslot⟩ | ⟨-, copy, hrun, hold, -⟩
    · rw [hslot]
      exact hjob
    · -- an orderly recovery fails only running jobs
      have hrec : cfg.store.jobs id = some copy := congrArg Slot.record hold
      rw [hjob] at hrec
      cases hrec
      rw [hstatus] at hrun
      cases hrun

/-- **An orderly step leaves a completed job as it is.** -/
theorem Kept.completed_stays {l : Label ι O Redis.Drift} (h : Kept extra cfg) {id : UUID}
    {job : Job P} (hjob : cfg.store.jobs id = some job) (hstatus : job.status = .completed)
    (horderly : Orderly cfg l) (hstep : (wholeMachine delay body).step cfg l = some cfg') :
    cfg'.store.jobs id = some job ∧ handOuts id cfg'.log = handOuts id cfg.log := by
  refine Machine.step_rule (I := fun t => t.store.jobs id = some job ∧
    handOuts id t.log = handOuts id cfg.log) hstep ?_ ?_ ?_ ?_ ?_
  · rintro i o rfl -
    exact ⟨hjob, by simp [Machine.started, Config.put, handOuts_cons, dequeuedId]⟩
  · rintro i o c next xs rfl hi
    have hnext : c ∈ cfg.nextCommand i := Config.mem_nextCommand hi
    obtain ⟨hrecord, hevent⟩ := h.completed_answered delay hjob hstatus hi
      (horderly.1 c hnext) (horderly.2 c hnext)
    have hcount := handOuts_cons (.ran i o ⟨c, (atOnce delay c cfg.store).1⟩) cfg.log id
    rw [if_neg hevent] at hcount
    exact ⟨hrecord, hcount⟩
  · rintro t i s b ⟨hrecord, hcount⟩ - -
    refine ⟨hrecord, ?_⟩
    rw [← hcount]
    exact (handOuts_cons _ _ _).trans (by simp [dequeuedId])
  · rintro i s rfl -
    exact ⟨hjob, rfl⟩
  · rintro e t rfl ht
    obtain ⟨-, -, -, hjobs, -⟩ := Redis.drift_frame ht
    exact ⟨hjobs ▸ hjob, rfl⟩

/-- A dead letter is one entry, and its record says it failed. -/
theorem Kept.dead (h : Kept extra cfg) {id : UUID} (hid : id ∈ cfg.store.deadLetter) :
    cfg.store.deadLetter.count id = 1 ∧
      ∃ job, cfg.store.jobs id = some job ∧ job.status = .failed := by
  obtain ⟨p, hp, -⟩ := h.stands id
  have hdead : (cfg.store.slot id).deadLetter ≠ 0 :=
    Nat.pos_iff_ne_zero.mp (List.count_pos_iff.mpr hid)
  change (cfg.store.slot id).deadLetter = 1 ∧ ∃ job, (cfg.store.slot id).record = some job ∧ _
  generalize cfg.store.slot id = s, handOuts id cfg.log = n at hp hdead ⊢
  cases hp with
  | dead _ hstatus _ => exact ⟨rfl, _, rfl, hstatus⟩
  | _ => exact absurd rfl hdead

end Kept

/-- **Terminal means terminal** in the runs in which recovery reaps only jobs whose
holder crashed before recording an outcome. -/
theorem terminal_of_reaps_crashed (delay jobTimeout : Time) :
    Terminal P ι delay jobTimeout Orderly := by
  intro cfg hreach
  have hbody := activity_holds (P := P) jobTimeout
  have hkept : Kept records cfg := kept_of_reach hbody hreach
  refine ⟨fun id job hjob hstatus cfg' hlater => ?_, fun id hid => hkept.dead hid⟩
  -- from the state in which the job is completed on, the record and the count stay
  obtain ⟨-, hjob', hcount⟩ := hlater.invariant
    (I := fun t => Kept records t ∧ t.store.jobs id = some job ∧
      handOuts id t.log = handOuts id cfg.log)
    ⟨hkept, hjob, rfl⟩ fun s l s' h horderly hstep => by
      obtain ⟨hk, hrec, hn⟩ := h
      obtain ⟨hrec', hn'⟩ := hk.completed_stays hrec hstatus horderly hstep
      exact ⟨hk.step hbody horderly hstep, hrec', hn'.trans hn⟩
  exact ⟨⟨job, hjob', hstatus⟩, hcount⟩

/-- An attempt that goes well. -/
private def goodAttempt : Attempt := .instant (.ok ()) (.ok ())

/-- The status of a record. -/
private def statusOf (cfg : WorkerConfig Unit (Fin 3) (Activity Unit) Unit) (id : UUID) :
    Option JobStatus := (cfg.store.jobs id).map Job.status

/-- A job is uploaded and completed. -/
private def uploadAndComplete : List (Label (Fin 3) (Activity Unit) Redis.Drift) :=
  [.start 0 (.upload (Job.queued 1 1 () 0 5)), .exec 0,
    .start 1 (.processOne goodAttempt), .exec 1, .exec 1, .exec 1, .exec 1, .exec 1]

/-- The rule at a job that was completed: it stays so, handed out once, in every orderly
future. -/
theorem completed_job_stays : ∃ cfg : WorkerConfig Unit (Fin 3) (Activity Unit) Unit,
    statusOf cfg 1 = some .completed ∧
      ∀ cfg', Reach (workerMachine Unit 1 10).step Orderly cfg cfg' →
        statusOf cfg' 1 = some .completed ∧ handOuts 1 cfg'.log = 1 := by
  obtain ⟨cfg, hreach, hcfg⟩ := exists_reach_of_runLabels
    ((workerMachine Unit 1 10).step (ι := Fin 3)) (fun cfg l => decide (Orderly cfg l))
    WorkerConfig.init uploadAndComplete
    (fun cfg => decide (statusOf cfg 1 = some .completed ∧ handOuts 1 cfg.log = 1))
    (by decide +kernel)
  obtain ⟨hcompleted, hcount⟩ := of_decide_eq_true hcfg
  refine ⟨cfg, hcompleted, ?_⟩
  intro cfg' hlater
  obtain ⟨job, hjob, hstatus⟩ := Option.map_eq_some_iff.mp hcompleted
  obtain ⟨hstays, -⟩ := terminal_of_reaps_crashed 1 10 cfg
    (hreach.mono fun _ _ h => of_decide_eq_true h)
  obtain ⟨⟨job', hjob', hstatus'⟩, hsame⟩ := hstays 1 job hjob hstatus cfg' hlater
  refine ⟨?_, hsame.trans hcount⟩
  rw [statusOf, hjob', Option.map_some, hstatus']

/-- A worker is so slow that recovery takes its job away, and then completes it. -/
private def slowWorker : List (Label (Fin 3) (Activity Unit) Redis.Drift) :=
  [.start 0 (.upload (Job.queued 1 1 () 0 5)), .exec 0,
    .start 1 (.processOne goodAttempt), .exec 1, .exec 1, .env (.clock 20),
    .start 0 .recover, .exec 0, .exec 1, .exec 1, .exec 1]

/-- The worker acknowledges the job; its backoff runs out; another worker takes it up. -/
private def takenUpAgain : List (Label (Fin 3) (Activity Unit) Redis.Drift) :=
  [.exec 1, .env (.clock 30), .start 2 (.processOne goodAttempt), .exec 2]

/-- **A slow worker's job runs again after it was completed.** -/
theorem slow_worker_completes_then_runs_again :
    ¬ Terminal Unit (Fin 3) 1 10 (Executes EnqueuesOnce) := by
  intro hterminal
  let step := (workerMachine Unit 1 10).step (ι := Fin 3)
  let ok : WorkerConfig Unit (Fin 3) (Activity Unit) Unit →
      Label (Fin 3) (Activity Unit) Redis.Drift → Bool :=
    fun cfg l => decide (Executes EnqueuesOnce cfg l)
  obtain ⟨cfg, hreach, hcfg⟩ := exists_reach_of_runLabels step ok WorkerConfig.init slowWorker
    (fun cfg => decide (statusOf cfg 1 = some .completed) &&
      (runLabels step ok cfg takenUpAgain).any fun cfg' =>
        decide (statusOf cfg' 1 = some .running)) (by decide +kernel)
  obtain ⟨hcompleted, hlater⟩ := Bool.and_eq_true_iff.mp hcfg
  obtain ⟨cfg', hreach', hrunning⟩ := exists_reach_of_runLabels step ok cfg takenUpAgain _ hlater
  obtain ⟨job, hjob, hstatus⟩ := Option.map_eq_some_iff.mp (of_decide_eq_true hcompleted)
  obtain ⟨hcompletes, -⟩ := hterminal cfg (hreach.mono fun _ _ h => of_decide_eq_true h)
  obtain ⟨⟨job', hjob', hstatus'⟩, -⟩ := hcompletes 1 job hjob hstatus cfg'
    (hreach'.mono fun _ _ h => of_decide_eq_true h)
  have hrun : some job'.status = some .running := by
    have hstatus₂ := of_decide_eq_true hrunning
    rwa [statusOf, hjob'] at hstatus₂
  rw [hstatus'] at hrun
  cases hrun

end ProductIntelligence
