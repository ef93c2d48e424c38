import ProductIntelligence.Queue.Clients

/-!
# No job is lost

Every operation moves an id between structures by taking it out with one command and
putting it back with another.  In between, the id is in the hands of the client
alone.  The custody discipline keeps the list of ids a client holds so; the
invariant is that an id that was enqueued and not acknowledged is in a structure or
in some client's hands.  A crash loses it exactly when it strikes the one client
that holds it.

## Main definitions

* `custody` — the discipline: the ids held and the ids known to have a record.
* `Stranded` — client `i` alone holds an id that is due.
* `Documented`, `Conserved` — the invariants.

## Main results

* `call_body_obeys_custody` — every operation puts back what it takes.
* `Documented.step` — every step keeps the records of the ids in circulation.
* `Conserved.step` — the invariant is kept by every step that strands no id.
* `inPlace_of_no_stranding` — **no job is lost in runs that strand none**.
* `lost_of_stranded` — a crash that strands an id loses it.
-/

namespace ProductIntelligence

open Effects Program RedisQueue Redis

variable {P ι : Type}

/-! ### The custody discipline -/

/-- The ids an operation holds, the ids it knows to have a record, and the command it
issued last. -/
structure Custody (P : Type) where
  held : List UUID := []
  known : List UUID := []
  last : Option (Command P) := none

namespace Custody

/-- The ids an operation gains from a reply or brings in itself. -/
def learnt : (c : Command P) → Reply c → List UUID
  | .setJob job, _ => [job.jobId]
  | .lpop, id => id.toList
  | .hgetall, l => keys l
  | .zrangebyscore _ _, l => l
  | _, _ => []

/-- The ids held after an exchange: `LPOP`, `ZREM` and `HDEL` take one out of a
structure; `RPUSH`, `HSET` and `ZADD` put one into a structure. -/
def holding (held : List UUID) : (c : Command P) → Reply c → List UUID
  | .lpop, id => id.toList ++ held
  | .zrem id, _ => id :: held
  | .hdel id, _ => id :: held
  | .rpush _ id, _ => held.filter (· ≠ id)
  | .hset id _, _ => held.filter (· ≠ id)
  | .zadd id _, _ => held.filter (· ≠ id)
  | _, _ => held

/-- The ids a command may only be issued for once they are known. -/
def needs : Command P → List UUID
  | .getJob id => [id]
  | .setProductJob _ id => [id]
  | .rpush _ id => [id]
  | .hset id _ => [id]
  | .zadd id _ => [id]
  | .zrem id => [id]
  | _ => []

/-- The replies relied on: a known id has its record. -/
def relies : (c : Command P) → Reply c → Prop
  | .getJob id, job => ∃ j, job = some j ∧ j.jobId = id
  | _, _ => True

end Custody

/-- **The custody discipline.** -/
def custody : Discipline (@Reply P) (Custody P) where
  allows g c := ∀ id ∈ Custody.needs c, id ∈ g.known
  expects _ c r := Custody.relies c r
  next g c r := ⟨Custody.holding g.held c r, Custody.learnt c r ++ g.known, some c⟩

@[simp] theorem custody_allows {g : Custody P} {c : Command P} :
    custody.allows g c ↔ ∀ id ∈ Custody.needs c, id ∈ g.known := Iff.rfl

@[simp] theorem custody_expects {g : Custody P} {c : Command P} {r : Reply c} :
    custody.expects g c r ↔ Custody.relies c r := Iff.rfl

@[simp] theorem custody_next {g : Custody P} {c : Command P} {r : Reply c} :
    custody.next g c r = ⟨Custody.holding g.held c r, Custody.learnt c r ++ g.known, some c⟩ :=
  rfl

/-- What a call owes on return: `ack` gives up the job, `enqueue` ends by pushing it,
and no other id stays in its hands. -/
def settled : Call P → Result P → Custody P → Prop
  | .ack job, _, g => ∀ id ∈ g.held, id = job.jobId
  | .enqueue job, _, g => g.held = [] ∧ g.last = some (.rpush .pending job.jobId)
  | _, _, g => g.held = []

/-- Returning with empty hands, knowing at least what was known before. -/
private def EmptyHanded {α : Type} (known : List UUID) (_ : α) (g : Custody P) : Prop :=
  g.held = [] ∧ known ⊆ g.known

/-- Saving a record holds nothing and makes the id known. -/
private theorem save_obeys {job : Job P} {g : Custody P} :
    (save job).Obeys custody
      (fun _ g' => g'.held = g.held ∧ g'.known = job.jobId :: g.known) g := by
  simp [save, perform, Custody.needs, Custody.holding, Custody.learnt]

/-- The last push of an operation whose only open id is `id`. -/
private theorem put_back {known : List UUID} {g : Custody P} (id : UUID)
    (hheld : g.held = [id]) (hknown : known ⊆ g.known) {c : Command P} {r : Reply c}
    (hc : Custody.holding g.held c r = g.held.filter (· ≠ id)) :
    EmptyHanded known r (custody.next g c r) := by
  refine ⟨?_, fun x hx => by simp [hknown hx]⟩
  rw [custody_next, hc, hheld]
  simp

private theorem promote_obeys {ids : List UUID} (known : List UUID) (hids : ids ⊆ known)
    {g : Custody P}
    (hg : EmptyHanded known () g) :
    (promote ids : QueueProgram P Unit).Obeys custody (EmptyHanded known) g := by
  induction ids generalizing g with
  | nil => exact hg
  | cons id ids ih =>
    obtain ⟨hheld, hknown⟩ := hg
    have hid : id ∈ g.known := hknown (hids (List.mem_cons_self ..))
    simp only [promote, perform_bind, obeys_request]
    refine ⟨by simpa [Custody.needs] using hid, fun n _ => ?_⟩
    refine ⟨by simpa [Custody.needs, Custody.learnt] using hid, fun u _ => ?_⟩
    refine ih (fun x hx => hids (List.mem_cons_of_mem _ hx)) (put_back id ?_ ?_ rfl)
    · simp [Custody.holding, hheld]
    · simpa [Custody.learnt] using hknown

private theorem retry_obeys {delay : Time} {job : Job P} {error : String}
    (known : List UUID) {g : Custody P} (hg : EmptyHanded known () g) :
    (retry delay job error).Obeys custody (EmptyHanded known) g := by
  obtain ⟨hheld, hknown⟩ := hg
  simp only [retry, perform_bind, obeys_request]
  refine ⟨by simp [Custody.needs], fun n _ => ⟨by simp [Custody.needs], fun now _ => ?_⟩⟩
  split
  · refine save_obeys.bind ?_
    intro _ g' hg'
    refine ⟨by simp [Custody.needs, hg'.2], fun u _ => put_back job.jobId ?_ ?_ rfl⟩
    · simp [hg'.1, Custody.holding, hheld]
    · intro x hx
      simp [hg'.2, Custody.learnt, hknown hx]
  · simp only [obeys_request]
    refine ⟨by simp [Custody.needs], fun now' _ => save_obeys.bind fun _ g' hg' => ?_⟩
    refine ⟨by simp [Custody.needs, hg'.2], fun u _ => put_back job.jobId ?_ ?_ rfl⟩
    · simp [hg'.1, Custody.holding, hheld]
    · intro x hx
      simp [hg'.2, Custody.learnt, hknown hx]

private theorem requeueEach_obeys {delay older now : Time} {inFlight : List (UUID × Time)}
    (known : List UUID) (hids : keys inFlight ⊆ known) {n : ℕ} {g : Custody P}
    (hg : EmptyHanded known () g) :
    (requeueEach delay older now inFlight n : QueueProgram P ℕ).Obeys custody
      (EmptyHanded known) g := by
  induction inFlight generalizing g n with
  | nil => exact hg
  | cons e inFlight ih =>
    obtain ⟨id, dequeuedAt⟩ := e
    have hrest : keys inFlight ⊆ known := fun x hx => hids (List.mem_cons_of_mem _ hx)
    have hid : id ∈ g.known := hg.2 (hids (List.mem_cons_self ..))
    rw [requeueEach]
    split
    · exact ih hrest hg
    · simp only [RedisQueue.get, perform_bind, obeys_request]
      refine ⟨by simpa [Custody.needs] using hid, ?_⟩
      rintro _ ⟨job, rfl, -⟩
      refine (retry_obeys known ?_).bind fun _ g' hg' => ih hrest hg'
      exact ⟨by simp [Custody.holding, hg.1], by simpa [Custody.learnt] using hg.2⟩

private theorem dequeue_obeys {g : Custody P} (hg : g.held = []) :
    (dequeue : QueueProgram P (Option (Job P))).Obeys custody (fun _ g' => g'.held = []) g := by
  have hpromote : (promoteDueDelayedJobs : QueueProgram P Unit).Obeys custody
      (EmptyHanded g.known) g := by
    simp only [promoteDueDelayedJobs, perform_bind, obeys_request]
    refine ⟨by simp [Custody.needs], fun now _ => ⟨by simp [Custody.needs], fun due _ => ?_⟩⟩
    refine (promote_obeys (due ++ g.known) (by simp) ?_).mono fun _ g' hg' => ?_
    · exact ⟨by simp [Custody.holding, hg], by simp [Custody.learnt]⟩
    · exact ⟨hg'.1, fun x hx => hg'.2 (by simp [hx])⟩
  refine hpromote.bind ?_
  intro _ g₁ hg₁
  simp only [perform_bind, obeys_request]
  refine ⟨by simp [Custody.needs], fun popped _ => ?_⟩
  cases popped with
  | none => simp [Custody.holding, hg₁.1]
  | some id =>
    simp only [RedisQueue.get, perform_bind, obeys_request]
    refine ⟨by simp [Custody.needs, Custody.learnt], ?_⟩
    rintro _ ⟨job, rfl, rfl⟩
    simp [save, perform, Custody.needs, Custody.holding, Custody.learnt, hg₁.1]

/-- **Every operation puts back what it takes**: its body keeps to the custody
discipline and returns settled. -/
theorem call_body_obeys_custody (delay : Time) (call : Call P) :
    (call.body delay).Obeys custody (settled call) {} := by
  cases call with
  | enqueue job =>
    simp [Call.body, enqueue, save, perform, settled, Custody.needs, Custody.holding,
      Custody.learnt]
  | dequeue => exact (dequeue_obeys rfl).bind fun _ _ hg => hg
  | ack job => simp [Call.body, RedisQueue.ack, perform, settled, Custody.needs, Custody.holding]
  | retry job error =>
    refine (retry_obeys [] ⟨rfl, by simp⟩).bind fun _ _ hg => hg.1
  | update job => exact save_obeys.bind fun _ _ hg => hg.1
  | requeueStaleJobs older =>
    simp only [Call.body, requeueStaleJobs, perform_bind, request_bind, obeys_request]
    refine ⟨by simp [Custody.needs], fun now _ => ⟨by simp [Custody.needs], fun inFlight _ => ?_⟩⟩
    refine (requeueEach_obeys (keys inFlight) (by simp) ?_).bind fun _ _ hg => hg.1
    exact ⟨by simp [Custody.holding], by simp [Custody.learnt]⟩

/-! ### The invariant -/

/-- The custody a session has reached. -/
def custodyOf (s : Session (@Reply P) (Call P) (Result P)) : Custody P :=
  s.ghost custody fun _ => {}

/-- Some client has the id in its hands. -/
def InHands (cfg : QueueConfig P ι) (id : UUID) : Prop :=
  ∃ i s, cfg.sessions i = some s ∧ id ∈ (custodyOf s).held

/-- The id was enqueued and not acknowledged. -/
def Due (cfg : QueueConfig P ι) (id : UUID) : Prop := Enqueued cfg.log id ∧ ¬ Acked cfg.log id

/-- **Client `i` alone holds an id that is due**: it has taken the id out of a
structure and not put it back, the id is in no structure, and no other client holds
it.  These are the gaps after `LPOP` and before `HSET` in `dequeue`, after `ZREM` and
before `RPUSH` in a promotion, and after `HDEL` and before `ZADD` or `RPUSH` in
`retry`. -/
def Stranded (cfg : QueueConfig P ι) (i : ι) : Prop :=
  ∃ s id, cfg.sessions i = some s ∧ id ∈ (custodyOf s).held ∧ Due cfg id ∧
    ¬ cfg.store.InPlace id ∧
    ∀ k t, k ≠ i → cfg.sessions k = some t → id ∉ (custodyOf t).held

/-- The invariant of every run: sessions keep to the custody discipline, and ids in
circulation, ids that were enqueued, ids that products lead to and ids known to a session
have their records. -/
structure Documented [DecidableEq ι] (cfg : QueueConfig P ι) : Prop where
  obeying : cfg.Obeying custody (fun _ => {}) settled
  recorded : ∀ id, cfg.store.InPlace id → cfg.store.Recorded id
  enqueued : ∀ id, Enqueued cfg.log id → cfg.store.Recorded id
  ofProduct : ∀ productId, ∀ id ∈ cfg.store.productJob productId, cfg.store.Recorded id
  known : ∀ i s, cfg.sessions i = some s → ∀ id ∈ (custodyOf s).known, cfg.store.Recorded id

/-- The invariant of runs that strand no id: moreover every id that is due is in a
structure or in some client's hands. -/
structure Conserved [DecidableEq ι] (cfg : QueueConfig P ι) : Prop extends Documented cfg where
  due : ∀ id, Due cfg id → cfg.store.InPlace id ∨ InHands cfg id

/-! ### What one command does -/

/-- A record stays a record. -/
theorem recorded_exec {r : Redis P} {id : UUID} (c : Command P) (h : r.Recorded id) :
    (exec c r).2.Recorded id := by
  obtain ⟨job, hjob, rfl⟩ := h
  cases c with
  | setJob job' =>
    by_cases hid : job.jobId = job'.jobId
    · exact ⟨job', by simp [exec, hid], hid.symm⟩
    · exact ⟨job, by simpa [exec, hid] using hjob, rfl⟩
  | rpush key id => cases key <;> exact ⟨job, hjob, rfl⟩
  | _ => exact ⟨job, hjob, rfl⟩

/-- What a command teaches its client has a record. -/
theorem recorded_learnt {r : Redis P} (hr : ∀ id, r.InPlace id → r.Recorded id)
    {c : Command P} {id : UUID} (h : id ∈ Custody.learnt c (exec c r).1) :
    (exec c r).2.Recorded id := by
  cases c with
  | setJob job =>
    obtain rfl := List.mem_singleton.mp h
    exact ⟨job, by simp [exec], rfl⟩
  | lpop =>
    have hid : id ∈ r.pending := List.mem_of_mem_head? (by simpa [Custody.learnt, exec] using h)
    exact recorded_exec .lpop (hr id (.inl hid))
  | hgetall => exact hr id (.inr (.inl h))
  | zrangebyscore lo hi => exact hr id (.inr (.inr (.inl (mem_keys_of_mem_zrangebyscore h))))
  | _ => simp [Custody.learnt] at h

/-- An id leaves the structures only into the client's hands. -/
theorem inPlace_or_held_exec {r : Redis P} {id : UUID} (h : r.InPlace id) (held : List UUID)
    (c : Command P) :
    (exec c r).2.InPlace id ∨ id ∈ Custody.holding held c (exec c r).1 := by
  rcases h with h | h | h | h
  · cases c with
    | lpop =>
      cases hp : r.pending with
      | nil => rw [hp] at h; cases h
      | cons x xs =>
        rw [hp, List.mem_cons] at h
        rcases h with rfl | h
        · exact .inr (by simp [Custody.holding, exec, hp])
        · exact .inl (.inl (by simpa [exec, hp] using h))
    | rpush key j => cases key <;> exact .inl (.inl (by simp [exec, h]))
    | _ => exact .inl (.inl h)
  · cases c with
    | hdel j =>
      by_cases hj : id = j
      · exact .inr (by simp [Custody.holding, hj])
      · exact .inl (.inr (.inl (mem_keys_hdel.mpr ⟨h, hj⟩)))
    | hset j t => exact .inl (.inr (.inl (mem_keys_hset.mpr (.inr h))))
    | rpush key j => cases key <;> exact .inl (.inr (.inl h))
    | _ => exact .inl (.inr (.inl h))
  · cases c with
    | zrem j =>
      by_cases hj : id = j
      · exact .inr (by simp [Custody.holding, hj])
      · exact .inl (.inr (.inr (.inl (mem_keys_hdel.mpr ⟨h, hj⟩))))
    | zadd j t => exact .inl (.inr (.inr (.inl (mem_keys_zadd.mpr (.inr h)))))
    | rpush key j => cases key <;> exact .inl (.inr (.inr (.inl h)))
    | _ => exact .inl (.inr (.inr (.inl h)))
  · cases c with
    | rpush key j => cases key <;> exact .inl (.inr (.inr (.inr (by simp [exec, h]))))
    | _ => exact .inl (.inr (.inr (.inr h)))

/-- An id leaves the client's hands only into a structure. -/
theorem held_or_inPlace_exec {held : List UUID} {id : UUID} (h : id ∈ held) (c : Command P)
    (r : Redis P) :
    id ∈ Custody.holding held c (exec c r).1 ∨ (exec c r).2.InPlace id := by
  have hput : ∀ j, id ∈ held.filter (· ≠ j) ∨ id = j := by
    intro j
    by_cases hj : id = j
    · exact .inr hj
    · exact .inl (by simp [h, hj])
  cases c with
  | rpush key j =>
    rcases hput j with hf | rfl
    · exact .inl hf
    · cases key
      · exact .inr (.inl (by simp [exec]))
      · exact .inr (.inr (.inr (.inr (by simp [exec]))))
  | hset j t =>
    rcases hput j with hf | rfl
    · exact .inl hf
    · exact .inr (.inr (.inl (mem_keys_hset.mpr (.inl rfl))))
  | zadd j t =>
    rcases hput j with hf | rfl
    · exact .inl hf
    · exact .inr (.inr (.inr (.inl (mem_keys_zadd.mpr (.inl rfl)))))
  | lpop => exact .inl (List.mem_append_right _ h)
  | zrem j => exact .inl (List.mem_cons_of_mem _ h)
  | hdel j => exact .inl (List.mem_cons_of_mem _ h)
  | _ => exact .inl h

/-- A command puts into the structures only ids it had to know. -/
theorem inPlace_of_exec {r : Redis P} {id : UUID} {c : Command P}
    (h : (exec c r).2.InPlace id) : r.InPlace id ∨ id ∈ Custody.needs c := by
  cases c with
  | rpush key j =>
    cases key <;>
      simp only [exec, InPlace, Custody.needs, List.mem_append, List.mem_singleton] at h ⊢
    all_goals tauto
  | lpop =>
    rcases h with h | h | h | h
    · exact .inl (.inl (List.mem_of_mem_tail h))
    · exact .inl (.inr (.inl h))
    · exact .inl (.inr (.inr (.inl h)))
    · exact .inl (.inr (.inr (.inr h)))
  | hset j t =>
    simp only [exec, InPlace, Custody.needs, mem_keys_hset, List.mem_singleton] at h ⊢
    tauto
  | hdel j =>
    simp only [exec, InPlace, mem_keys_hdel] at h ⊢
    tauto
  | zadd j t =>
    simp only [exec, InPlace, Custody.needs, mem_keys_zadd, List.mem_singleton] at h ⊢
    tauto
  | zrem j =>
    simp only [exec, InPlace, mem_keys_hdel] at h ⊢
    tauto
  | _ => exact .inl h

/-- Drifting leaves the records alone. -/
theorem recorded_drift {e : Drift} {r t : Redis P} (h : drift e r = some t) {id : UUID}
    (hid : r.Recorded id) : t.Recorded id := by
  obtain ⟨-, -, -, hjobs, -⟩ := drift_frame h
  rwa [Recorded, hjobs]

/-- Drifting leaves alone where products lead to. -/
theorem productJob_drift {e : Drift} {r t : Redis P} (h : drift e r = some t) :
    t.productJob = r.productJob := by
  cases e with
  | clock now => cases h; rfl
  | rehash l =>
    rw [drift] at h
    split at h <;> cases h
    rfl

/-- A command lets a product lead only to an id it had to know. -/
theorem productJob_of_exec {r : Redis P} {productId id : UUID} {c : Command P}
    (h : id ∈ (exec c r).2.productJob productId) :
    id ∈ r.productJob productId ∨ id ∈ Custody.needs c := by
  cases c with
  | setProductJob productId' id' =>
    replace h : id ∈ Function.update r.productJob productId' (some id') productId := h
    by_cases hp : productId = productId'
    · rw [hp, Function.update_self] at h
      cases h
      exact .inr (List.mem_singleton_self _)
    · rw [Function.update_of_ne hp] at h
      exact .inl h
  | rpush key j => cases key <;> exact .inl h
  | _ => exact .inl h

/-- Drifting moves no id. -/
theorem inPlace_drift {e : Drift} {r t : Redis P} (h : drift e r = some t) (id : UUID) :
    t.InPlace id ↔ r.InPlace id := by
  obtain ⟨hpending, hdelayed, hdead, -, hprocessing⟩ := drift_frame h
  rw [InPlace, InPlace, hpending, hdelayed, hdead, hprocessing.mem_iff]

/-! ### The invariant is kept -/

section Steps

variable [DecidableEq ι] {delay : Time} {cfg cfg' : QueueConfig P ι}

/-- What a finished session still holds was acknowledged. -/
private theorem acked_of_settled {call : Call P} {b : Result P} {g : Custody P}
    (h : settled call b g) {id : UUID} (hid : id ∈ g.held) :
    ∃ job, call = .ack job ∧ job.jobId = id := by
  cases call with
  | ack job => exact ⟨job, rfl, (h id hid).symm⟩
  | enqueue job => rw [h.1] at hid; cases hid
  | _ => rw [show g.held = [] from h] at hid; cases hid

omit [DecidableEq ι] in
/-- Only the return of an `enqueue` makes an id due. -/
private theorem due_of_log_cons {e : QueueEvent P ι} {id : UUID}
    (hdue : Enqueued (e :: cfg.log) id ∧ ¬ Acked (e :: cfg.log) id) :
    Due cfg id ∨ enqueuedId e = some id := by
  rw [enqueued_cons, acked_cons, not_or] at hdue
  obtain ⟨he | henq, -, hack⟩ := hdue
  · exact .inr he
  · exact .inl ⟨henq, hack⟩

/-- A client of a resumed state is the one resumed, or was there before. -/
private theorem sessions_resume {i : ι} {s : Session (@Reply P) (Call P) (Result P)} {k : ι}
    {t : Session (@Reply P) (Call P) (Result P)} (h : (cfg.resume i s).sessions k = some t) :
    t = s ∨ cfg.sessions k = some t := by
  by_cases hk : k = i
  · subst hk
    rcases cfg.resume_sessions_self k s with ⟨b, -, hnone, -⟩ | ⟨-, hsome, -⟩
    · rw [hnone] at h; cases h
    · rw [hsome] at h; cases h; exact .inl rfl
  · exact .inr (by rwa [cfg.resume_sessions_of_ne s hk] at h)

/-- Resuming a session that keeps to the discipline keeps the records. -/
private theorem Documented.resume {i : ι} {s : Session (@Reply P) (Call P) (Result P)}
    (h : Documented cfg) (hs : s.rest.Obeys custody (settled s.op) (custodyOf s))
    (hknown : ∀ id ∈ (custodyOf s).known, cfg.store.Recorded id)
    (henq : ∀ b job, s.rest = .done b → s.op = .enqueue job → cfg.store.InPlace job.jobId) :
    Documented (cfg.resume i s) := by
  refine ⟨h.obeying.resume hs, fun id => by simpa using h.recorded id, fun id hid => ?_,
    fun productId id => by simpa using h.ofProduct productId id, fun k t ht id hid => ?_⟩
  · rw [Config.resume_store]
    rcases cfg.resume_sessions_self i s with ⟨b, hb, -, hlog⟩ | ⟨-, -, hlog⟩
    · rw [hlog, enqueued_cons] at hid
      rcases hid with he | hid
      · cases hop : s.op with
        | enqueue job =>
          rw [hop] at he
          cases he
          exact h.recorded _ (henq b job hb hop)
        | _ => rw [hop] at he; cases he
      · exact h.enqueued id hid
    · rw [hlog] at hid
      exact h.enqueued id hid
  · rw [Config.resume_store]
    rcases sessions_resume ht with rfl | ht
    · exact hknown id hid
    · exact h.known k t ht id hid

/-- Resuming a session that keeps to the discipline keeps the invariant, if all that
is due is in a structure, in the session's hands or in another client's. -/
private theorem Conserved.resume {i : ι} {s : Session (@Reply P) (Call P) (Result P)}
    (h : Documented cfg) (hs : s.rest.Obeys custody (settled s.op) (custodyOf s))
    (hknown : ∀ id ∈ (custodyOf s).known, cfg.store.Recorded id)
    (hdue : ∀ id, Due cfg id → cfg.store.InPlace id ∨ id ∈ (custodyOf s).held ∨
      ∃ k t, k ≠ i ∧ cfg.sessions k = some t ∧ id ∈ (custodyOf t).held)
    (henq : ∀ b job, s.rest = .done b → s.op = .enqueue job → cfg.store.InPlace job.jobId) :
    Conserved (cfg.resume i s) := by
  refine ⟨h.resume hs hknown henq, ?_⟩
  intro id hid
  rw [Config.resume_store]
  rcases cfg.resume_sessions_self i s with ⟨b, hb, -, hlog⟩ | ⟨-, hsome, hlog⟩
  · -- the operation returns: its hands are empty, or it was the acknowledgement
    simp only [Due, hlog] at hid
    rcases due_of_log_cons hid with hold | he
    · rcases hdue id hold with h | h | ⟨k, t, hk, ht, hheld⟩
      · exact .inl h
      · rw [hb, obeys_done] at hs
        obtain ⟨job, hop, hjob⟩ := acked_of_settled hs h
        exact absurd (acked_cons.mpr (.inl (by rw [hop, ackedId, hjob]))) hid.2
      · exact .inr ⟨k, t, by rwa [cfg.resume_sessions_of_ne s hk], hheld⟩
    · cases hop : s.op with
      | enqueue job =>
        rw [hop] at he
        cases he
        exact .inl (henq b job hb hop)
      | _ => rw [hop] at he; cases he
  · -- the operation goes on
    simp only [Due, hlog] at hid
    rcases hdue id hid with h | h | ⟨k, t, hk, ht, hheld⟩
    · exact .inl h
    · exact .inr ⟨i, s, hsome, h⟩
    · exact .inr ⟨k, t, by rwa [cfg.resume_sessions_of_ne s hk], hheld⟩

/-- No call returns without issuing a command. -/
theorem call_body_ne_done (call : Call P) (b : Result P) : call.body delay ≠ .done b := by
  cases call <;> exact fun h => by cases h

/-- A record that is read exists, because its id is known. -/
private theorem Documented.relies {i : ι} (h : Documented cfg) {call : Call P} {c : Command P}
    {next : Reply c → QueueProgram P (Result P)} {xs : List (Exchange (@Reply P))}
    (hi : cfg.sessions i = some ⟨call, .request c next, xs⟩) :
    Custody.relies c (Redis.exec c cfg.store).1 := by
  have hneeds := (h.obeying i _ hi).1
  cases c with
  | getJob id => exact h.known i _ hi id (hneeds id (by simp [Custody.needs]))
  | _ => trivial

/-- Starting an operation keeps the records. -/
private theorem Documented.start (h : Documented cfg) (i : ι) (call : Call P) :
    Documented { cfg with log := .started i call :: cfg.log } :=
  ⟨h.obeying, h.recorded, fun id hid => h.enqueued id ((enqueued_cons.mp hid).resolve_left nofun),
    h.ofProduct, h.known⟩

/-- So does answering a command. -/
private theorem Documented.answer {i : ι} (h : Documented cfg) {call : Call P} {c : Command P}
    {next : Reply c → QueueProgram P (Result P)} {xs : List (Exchange (@Reply P))}
    (hi : cfg.sessions i = some ⟨call, .request c next, xs⟩) :
    Documented { cfg with
      store := (Redis.exec c cfg.store).2
      log := .ran i call ⟨c, (Redis.exec c cfg.store).1⟩ :: cfg.log } := by
  have hneeded : ∀ id ∈ Custody.needs c, cfg.store.Recorded id :=
    fun id hid => h.known i _ hi id ((h.obeying i _ hi).1 id hid)
  refine ⟨h.obeying, fun id hid => recorded_exec c ?_, fun id hid => recorded_exec c ?_,
    fun productId id hid => recorded_exec c ?_,
    fun k t ht id hid => recorded_exec c (h.known k t ht id hid)⟩
  · exact (inPlace_of_exec hid).elim (h.recorded id) (hneeded id)
  · exact h.enqueued id ((enqueued_cons.mp hid).resolve_left nofun)
  · exact (productJob_of_exec hid).elim (h.ofProduct productId id) (hneeded id)

/-- What the client knows after the answer has a record. -/
private theorem Documented.known_answer {i : ι} (h : Documented cfg) {call : Call P}
    {c : Command P} {next : Reply c → QueueProgram P (Result P)}
    {xs : List (Exchange (@Reply P))}
    (hi : cfg.sessions i = some ⟨call, .request c next, xs⟩) :
    ∀ id ∈ (custodyOf ⟨call, next (Redis.exec c cfg.store).1,
      ⟨c, (Redis.exec c cfg.store).1⟩ :: xs⟩).known, (Redis.exec c cfg.store).2.Recorded id := by
  intro id hid
  rcases List.mem_append.mp hid with hid | hid
  · exact recorded_learnt h.recorded hid
  · exact recorded_exec c (h.known i _ hi id hid)

/-- An `enqueue` that returns has just pushed its id. -/
private theorem Documented.enqueue_answer {i : ι} (h : Documented cfg) {call : Call P}
    {c : Command P} {next : Reply c → QueueProgram P (Result P)}
    {xs : List (Exchange (@Reply P))}
    (hi : cfg.sessions i = some ⟨call, .request c next, xs⟩) {b : Result P} {job : Job P}
    (hb : next (Redis.exec c cfg.store).1 = .done b) (hop : call = .enqueue job) :
    (Redis.exec c cfg.store).2.InPlace job.jobId := by
  have hsettled := (h.obeying i _ hi).2 _ (h.relies hi)
  subst hop
  rw [hb, obeys_done] at hsettled
  have hlast : some c = some (Command.rpush .pending job.jobId) := hsettled.2
  cases hlast
  exact .inl (by simp [Redis.exec])

/-- Drifting keeps the records. -/
private theorem Documented.env {e : Drift} {t : Redis P} (h : Documented cfg)
    (ht : drift e cfg.store = some t) : Documented { cfg with store := t } := by
  have hproduct : t.productJob = cfg.store.productJob := productJob_drift ht
  exact ⟨h.obeying, fun id hid => recorded_drift ht (h.recorded id ((inPlace_drift ht id).mp hid)),
    fun id hid => recorded_drift ht (h.enqueued id hid),
    fun productId id hid => recorded_drift ht (h.ofProduct productId id (hproduct ▸ hid)),
    fun k s hs id hid => recorded_drift ht (h.known k s hs id hid)⟩

/-- **Every step keeps the records**, crashes included. -/
theorem Documented.step {l : QueueLabel P ι} (h : Documented cfg)
    (hstep : (queueMachine P delay).step cfg l = some cfg') : Documented cfg' := by
  cases l with
  | start i call =>
    obtain ⟨-, rfl⟩ := Machine.step_start_eq hstep
    exact (h.start i call).resume (call_body_obeys_custody delay call)
      (by simp [custodyOf, Session.ghost, Discipline.replay])
      fun b _ hb => absurd hb (call_body_ne_done call b)
  | exec i =>
    obtain ⟨call, c, next, xs, hi, rfl⟩ := Machine.step_exec_eq hstep
    exact (h.answer hi).resume ((h.obeying i _ hi).2 _ (h.relies hi)) (h.known_answer hi)
      fun b job hb hop => h.enqueue_answer hi hb hop
  | abort i =>
    obtain ⟨s, -, rfl⟩ := Machine.step_abort_eq hstep
    exact ⟨fun k t ht => h.obeying k t (Config.of_ended_sessions ht).2, h.recorded, h.enqueued,
      h.ofProduct, fun k t ht => h.known k t (Config.of_ended_sessions ht).2⟩
  | env e =>
    obtain ⟨t, ht, rfl⟩ := Machine.step_env_eq hstep
    exact h.env ht

/-- Starting an operation keeps the invariant. -/
private theorem Conserved.start {i : ι} {call : Call P} (h : Conserved cfg)
    (hstep : (queueMachine P delay).step cfg (.start i call) = some cfg') : Conserved cfg' := by
  obtain ⟨hnone, rfl⟩ := Machine.step_start_eq hstep
  refine Conserved.resume (s := ⟨call, call.body delay, []⟩) (h.toDocumented.start i call)
    (call_body_obeys_custody delay call)
    (by simp [custodyOf, Session.ghost, Discipline.replay])
    ?_ (fun b _ hb => absurd hb (call_body_ne_done call b))
  intro id hid
  rcases due_of_log_cons hid with hold | he
  · rcases h.due id hold with hp | ⟨k, t, ht, hheld⟩
    · exact .inl hp
    · refine .inr (.inr ⟨k, t, ?_, ht, hheld⟩)
      rintro rfl
      rw [hnone] at ht; cases ht
  · cases he

/-- Issuing a command keeps the invariant. -/
private theorem Conserved.exec {i : ι} (h : Conserved cfg)
    (hstep : (queueMachine P delay).step cfg (.exec i) = some cfg') : Conserved cfg' := by
  obtain ⟨call, c, next, xs, hi, rfl⟩ := Machine.step_exec_eq hstep
  have hdoc := h.toDocumented
  refine Conserved.resume (s := ⟨call, next _, ⟨c, _⟩ :: xs⟩) (hdoc.answer hi)
    ((h.obeying i _ hi).2 _ (hdoc.relies hi)) (hdoc.known_answer hi) ?_
    fun b job hb hop => hdoc.enqueue_answer hi hb hop
  intro id hid
  rcases due_of_log_cons hid with hold | he
  · rcases h.due id hold with hp | ⟨k, t, ht, hheld⟩
    · rcases inPlace_or_held_exec hp _ c with hp | hheld
      · exact .inl hp
      · exact .inr (.inl hheld)
    · -- the id was in a client's hands, perhaps the one that runs
      by_cases hk : k = i
      · subst hk
        rw [hi] at ht; cases ht
        rcases held_or_inPlace_exec hheld c cfg.store with hheld | hp
        · exact .inr (.inl hheld)
        · exact .inl hp
      · exact .inr (.inr ⟨k, t, hk, ht, hheld⟩)
  · cases he

/-- An abort that strands no id keeps the invariant. -/
private theorem Conserved.abort {i : ι} (h : Conserved cfg) (hok : ¬ Stranded cfg i)
    (hstep : (queueMachine P delay).step cfg (.abort i) = some cfg') : Conserved cfg' := by
  refine ⟨h.toDocumented.step hstep, fun id hid => ?_⟩
  obtain ⟨s, hi, rfl⟩ := Machine.step_abort_eq hstep
  -- were the id lost now, the abort would have stranded it
  by_contra hcon
  obtain ⟨hplace, hhands⟩ := not_or.mp hcon
  rcases h.due id hid with hp | ⟨k, t, ht, hheld⟩
  · exact hplace hp
  · have hothers : ∀ k' t', k' ≠ i → cfg.sessions k' = some t' → id ∉ (custodyOf t').held := by
      intro k' t' hk' ht' hheld'
      exact hhands ⟨k', t', by simpa [Function.update_of_ne hk'] using ht', hheld'⟩
    by_cases hk : k = i
    · subst hk
      exact hok ⟨t, id, ht, hheld, hid, hplace, hothers⟩
    · exact hothers k t hk ht hheld

/-- **The invariant is kept by every step that strands no id.** -/
theorem Conserved.step {l : QueueLabel P ι} (h : Conserved cfg)
    (hok : ∀ i, l = .abort i → ¬ Stranded cfg i)
    (hstep : (queueMachine P delay).step cfg l = some cfg') : Conserved cfg' := by
  cases l with
  | start i call => exact h.start hstep
  | exec i => exact h.exec hstep
  | abort i => exact h.abort (hok i rfl) hstep
  | env e =>
    refine ⟨h.toDocumented.step hstep, fun id hid => ?_⟩
    obtain ⟨t, ht, rfl⟩ := Machine.step_env_eq hstep
    exact (h.due id hid).imp (inPlace_drift ht id).mpr fun hh => hh

end Steps

/-! ### No job is lost -/

section Runs

variable [DecidableEq ι] {delay : Time}

/-- Before the first call there is nothing in circulation. -/
theorem Documented.init : Documented (QueueConfig.init : QueueConfig P ι) where
  obeying := fun i s h => by cases h
  recorded := fun id h => by simp [QueueConfig.init, Redis.empty, InPlace, keys] at h
  enqueued := fun id ⟨e, hmem, _⟩ => by cases hmem
  ofProduct := fun _ id h => by cases h
  known := fun i s h => by cases h

/-- Before the first call nothing is enqueued and nobody holds anything. -/
theorem Conserved.init : Conserved (QueueConfig.init : QueueConfig P ι) where
  toDocumented := .init
  due := fun id h => by
    obtain ⟨⟨e, hmem, -⟩, -⟩ := h
    cases hmem

/-- **No job is lost in runs that strand none**: if no crash and no failing command
strikes the only client holding an id that is due, then whenever no client is inside
an operation, every id that was enqueued and not acknowledged is in a structure. -/
theorem inPlace_of_no_stranding {cfg : QueueConfig P ι}
    (hreach : Reach (queueMachine P delay).step
      (fun cfg l => ∀ i, l = .abort i → ¬ Stranded cfg i) QueueConfig.init cfg)
    (hquiet : cfg.Quiet) {id : UUID} (henqueued : Enqueued cfg.log id)
    (hunacked : ¬ Acked cfg.log id) : cfg.store.InPlace id := by
  have hconserved : Conserved cfg :=
    hreach.invariant Conserved.init fun _ _ _ h hok hstep => h.step hok hstep
  rcases hconserved.due id ⟨henqueued, hunacked⟩ with hplace | ⟨i, s, hs, -⟩
  · exact hplace
  · rw [hquiet i] at hs
    cases hs

/-- **A stranding abort loses the job at once**: the id stays due, and it is in no
structure and in nobody's hands. -/
theorem lost_of_stranded {cfg cfg' : QueueConfig P ι} {i : ι} (h : Stranded cfg i)
    (hstep : (queueMachine P delay).step cfg (.abort i) = some cfg') :
    ∃ id, Due cfg' id ∧ ¬ cfg'.store.InPlace id ∧ ¬ InHands cfg' id := by
  obtain ⟨s, id, hs, -, hdue, hplace, hothers⟩ := h
  obtain ⟨t, ht, rfl⟩ := Machine.step_abort_eq hstep
  refine ⟨id, hdue, hplace, ?_⟩
  rintro ⟨k, u, hu, hheld⟩
  obtain ⟨hk, hu⟩ := Config.of_ended_sessions hu
  exact hothers k u hk hu hheld

end Runs

/-- The first job of an empty queue. -/
private def firstJob : Job Unit := Job.queued 1 1 () 0 5

/-- A client enqueues it. -/
private def enqueueFirst {ι : Type} (i : ι) : List (QueueLabel Unit ι) :=
  [.start i (.enqueue firstJob), .exec i, .exec i, .exec i]

/-- A client goes on for a number of commands. -/
private def commands {ι : Type} (i : ι) (n : ℕ) : List (QueueLabel Unit ι) :=
  List.replicate n (.exec i)

/-- The job, handed out for the second time. -/
private def handedOutAgain : Job Unit :=
  { firstJob with
    status := .running
    retryCount := 1
    error := some staleError
    updatedAt := 200 }

/-- One of two clients enqueues the job, the other dies after it has put it among those in process.
The first recovers the job; the other dequeues it once more and reports a failure. -/
private def crashAndRetry (client other : Fin 2) : List (QueueLabel Unit (Fin 2)) :=
  enqueueFirst client ++ .start other .dequeue :: commands other 6 ++
    .abort other :: .env (.clock 100) ::
    .start client (.requeueStaleJobs 60) :: commands client 9 ++
    .env (.clock 200) :: .start other .dequeue :: commands other 11 ++
    .start other (.retry handedOutAgain "timeout") :: commands other 6

/-- What an aborting client holds is in a structure as well. -/
private def sparing (cfg : QueueConfig Unit (Fin 2)) : QueueLabel Unit (Fin 2) → Bool
  | .abort i => (cfg.sessions i).all fun s =>
      (custodyOf s).held.all fun id => decide (cfg.store.InPlace id)
  | _ => true

/-- Such an abort strands no id. -/
private theorem not_stranded_of_sparing (cfg : QueueConfig Unit (Fin 2))
    (l : QueueLabel Unit (Fin 2)) (h : sparing cfg l = true) :
    ∀ i, l = .abort i → ¬ Stranded cfg i := by
  rintro i rfl ⟨s, id, hs, hheld, -, hplace, -⟩
  rw [sparing, hs, Option.all_some, List.all_eq_true] at h
  exact hplace (of_decide_eq_true (h id hheld))

/-- The rule at a run with a crash, a recovery and a retry, the second of the job. -/
theorem first_job_in_place : ∃ cfg : QueueConfig Unit (Fin 2),
    cfg.Quiet ∧ Enqueued cfg.log 1 ∧ ¬ Acked cfg.log 1 ∧
      (cfg.store.jobs 1).map Job.retryCount = some 2 ∧ cfg.store.InPlace 1 := by
  obtain ⟨cfg, hreach, hcfg⟩ := exists_reach_of_runLabels (queueMachine Unit 1).step sparing
    QueueConfig.init (crashAndRetry 0 1)
    (fun cfg => decide (cfg.Quiet ∧ Enqueued cfg.log 1 ∧ ¬ Acked cfg.log 1 ∧
      (cfg.store.jobs 1).map Job.retryCount = some 2)) (by decide +kernel)
  obtain ⟨hquiet, henq, hack, hretries⟩ := of_decide_eq_true hcfg
  exact ⟨cfg, hquiet, henq, hack, hretries,
    inPlace_of_no_stranding (hreach.mono not_stranded_of_sparing) hquiet henq hack⟩

/-- **A crash can lose a job**: a client that dies after `LPOP` and before `HSET`
leaves the id in no structure. -/
theorem crash_between_lpop_and_hset :
    ¬ ∀ cfg : QueueConfig Unit (Fin 1),
      Reach (queueMachine Unit 1).step (fun _ _ => True) QueueConfig.init cfg → cfg.Quiet →
        ∀ id, Enqueued cfg.log id → ¬ Acked cfg.log id → cfg.store.InPlace id := by
  intro hall
  obtain ⟨cfg, hreach, hcfg⟩ := exists_reach_of_runLabels (queueMachine Unit 1).step
    (fun _ _ => true) (QueueConfig.init : QueueConfig Unit (Fin 1))
    (enqueueFirst 0 ++ [.start 0 .dequeue, .exec 0, .exec 0, .exec 0, .abort 0])
    (fun cfg => decide (cfg.Quiet ∧ Enqueued cfg.log 1 ∧ ¬ Acked cfg.log 1 ∧ ¬ cfg.store.InPlace 1))
    (by decide +kernel)
  obtain ⟨hquiet, henq, hack, hlost⟩ := of_decide_eq_true hcfg
  exact hlost (hall cfg (hreach.mono fun _ _ _ => trivial) hquiet 1 henq hack)

end ProductIntelligence
