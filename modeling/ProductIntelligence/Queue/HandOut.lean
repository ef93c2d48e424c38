import Mathlib.Data.Set.Subsingleton
import ProductIntelligence.Queue.Clients

/-!
# No job is handed out twice

An id in circulation is at one place at a time: on the pending list, in the delayed
set, in motion in one client, or handed out.  Every command moves it from one place to
the next, with two exceptions.  A promotion pushes the ids it read even if their
`ZREM` removed nothing, because another client's promotion was faster; and a retry or
a stale requeue delays an id wherever it is.  In the runs in which neither happens, the
place stays unique, so no id is pending twice or handed out twice.

## Main definitions

* `motion` — the discipline: the ids an operation has in motion.
* `whereabouts` — the places an id is at.
* `HandedOutOnce` — between two hand-outs of an id it was requeued.
* `Assumed`, `Careful` — the steps considered, and those of them the code gets right.

## Main results

* `call_body_obeys_motion` — every operation moves only ids it took or brings in.
* `Circulating.step` — the place of an id stays unique.
* `handed_out_once_of_careful` — **no double hand-out in careful runs**.
-/

namespace ProductIntelligence

open Effects Program RedisQueue Redis

variable {P ι : Type}

/-! ### The motion discipline -/

/-- The ids an operation has in motion, the ids it has met, and whether it may put ids
into the delayed set. -/
structure Motion where
  moving : List UUID
  met : List UUID
  requeues : Bool

namespace Motion

/-- The motion an operation starts with: `enqueue` brings in an id, `retry` is given
one. -/
def start : Call P → Motion
  | .enqueue job => ⟨[job.jobId], [job.jobId], false⟩
  | .retry job _ => ⟨[], [job.jobId], true⟩
  | .requeueStaleJobs _ => ⟨[], [], true⟩
  | _ => ⟨[], [], false⟩

/-- The ids in motion after an exchange: `LPOP` and `ZREM` take one, `RPUSH` on the
pending list sets one down. -/
def carry (moving : List UUID) : (c : Command P) → Reply c → List UUID
  | .lpop, id => id.toList ++ moving
  | .zrem id, _ => id :: moving
  | .rpush .pending id, _ => moving.filter (· ≠ id)
  | _, _ => moving

/-- The ids a reply is about. -/
def meets : (c : Command P) → Reply c → List UUID
  | .lpop, id => id.toList
  | .hgetall, l => keys l
  | .zrangebyscore _ _, l => l
  | _, _ => []

/-- The commands open to an operation. -/
def permits (g : Motion) : Command P → Prop
  | .rpush .pending id => id ∈ g.moving
  | .zrem id => id ∈ g.met
  | .zadd id _ => id ∈ g.met ∧ g.requeues = true
  | .hset id _ => id ∈ g.met
  | _ => True

/-- The replies relied on: a record is stored under its own id. -/
def relies : (c : Command P) → Reply c → Prop
  | .getJob id, job => ∀ j, job = some j → j.jobId = id
  | _, _ => True

/-- What an operation owes on return: an id handed out was in motion. -/
def owes : Result P → Motion → Prop
  | .job (some job), g => job.jobId ∈ g.moving
  | _, _ => True

end Motion

/-- **The motion discipline.** -/
def motion : Discipline (@Reply P) Motion where
  allows g c := g.permits c
  expects _ c r := Motion.relies c r
  next g c r := ⟨Motion.carry g.moving c r, Motion.meets c r ++ g.met, g.requeues⟩

@[simp] theorem motion_allows {g : Motion} {c : Command P} :
    motion.allows g c ↔ g.permits c := Iff.rfl

@[simp] theorem motion_expects {g : Motion} {c : Command P} {r : Reply c} :
    motion.expects g c r ↔ Motion.relies c r := Iff.rfl

@[simp] theorem motion_next {g : Motion} {c : Command P} {r : Reply c} :
    motion.next g c r = ⟨Motion.carry g.moving c r, Motion.meets c r ++ g.met, g.requeues⟩ :=
  rfl

/-- Having met at least the ids `met`, and being as free to requeue as before. -/
private def Met (met : List UUID) (requeues : Bool) {α : Type} (_ : α) (g : Motion) : Prop :=
  met ⊆ g.met ∧ g.requeues = requeues

private theorem save_moves {job : Job P} {g : Motion} :
    (save job).Obeys motion (fun _ g' => g' = g) g := by
  simp [save, perform, Motion.permits, Motion.carry, Motion.meets]

private theorem promote_moves {ids met : List UUID} (hids : ids ⊆ met) {q : Bool} {g : Motion}
    (hg : Met met q () g) :
    (promote ids : QueueProgram P Unit).Obeys motion (Met met q) g := by
  induction ids generalizing g with
  | nil => exact hg
  | cons id ids ih =>
    have hid : id ∈ g.met := hg.1 (hids (List.mem_cons_self ..))
    simp only [promote, perform_bind, obeys_request]
    refine ⟨hid, fun n _ => ⟨by simp [Motion.permits, Motion.carry], fun u _ => ?_⟩⟩
    refine ih (fun x hx => hids (List.mem_cons_of_mem _ hx)) ⟨?_, hg.2⟩
    exact fun x hx => by simpa [Motion.meets] using hg.1 hx

private theorem retry_moves {delay : Time} {job : Job P} {error : String} (met : List UUID)
    {g : Motion} (hg : Met met true () g) (hjob : job.jobId ∈ g.met) :
    (retry delay job error).Obeys motion (Met met true) g := by
  simp only [retry, perform_bind, obeys_request]
  refine ⟨by simp [Motion.permits], fun n _ => ⟨by simp [Motion.permits], fun now _ => ?_⟩⟩
  have hmet : met ⊆ g.met := hg.1
  split
  · refine save_moves.bind ?_
    intro _ g' hg'
    subst hg'
    exact ⟨by simp [Motion.permits], fun u _ => ⟨by simpa [Motion.meets] using hmet, hg.2⟩⟩
  · simp only [obeys_request]
    refine ⟨by simp [Motion.permits], fun now' _ => save_moves.bind fun _ g' hg' => ?_⟩
    subst hg'
    refine ⟨⟨by simpa [Motion.meets, failedAttempt] using hjob, hg.2⟩, fun u _ => ⟨?_, hg.2⟩⟩
    simpa [Motion.meets] using hmet

private theorem requeueEach_moves {delay older now : Time} {inFlight : List (UUID × Time)}
    {met : List UUID} (hids : keys inFlight ⊆ met) {n : ℕ} {g : Motion}
    (hg : Met met true () g) :
    (requeueEach delay older now inFlight n : QueueProgram P ℕ).Obeys motion (Met met true) g := by
  induction inFlight generalizing g n with
  | nil => exact hg
  | cons e inFlight ih =>
    obtain ⟨id, dequeuedAt⟩ := e
    have hrest : keys inFlight ⊆ met := fun x hx => hids (List.mem_cons_of_mem _ hx)
    have hmet : met ⊆ g.met := hg.1
    rw [requeueEach]
    split
    · exact ih hrest hg
    · simp only [RedisQueue.get, perform_bind, obeys_request]
      refine ⟨trivial, fun job hjob => ?_⟩
      cases job with
      | none =>
        refine ⟨trivial, fun _ _ => ih hrest ⟨?_, hg.2⟩⟩
        simpa [Motion.meets] using hmet
      | some job =>
        have hown : job.jobId = id := hjob job rfl
        refine (retry_moves met ⟨?_, hg.2⟩ ?_).bind fun _ g' hg' => ih hrest hg'
        · simpa [Motion.meets] using hmet
        · simpa [Motion.meets, hown] using hg.1 (hids (List.mem_cons_self ..))

private theorem dequeue_moves {q : Bool} {g : Motion} (hg : g.requeues = q) :
    (dequeue : QueueProgram P (Option (Job P))).Obeys motion
      (fun job g' => Motion.owes (.job job) g') g := by
  have hpromote : (promoteDueDelayedJobs : QueueProgram P Unit).Obeys motion (Met [] q) g := by
    simp only [promoteDueDelayedJobs, perform_bind, obeys_request]
    refine ⟨trivial, fun now _ => ⟨trivial, fun due _ => ?_⟩⟩
    have hstart : Met due q () (motion.next (motion.next g .time now) (.zrangebyscore 0 now) due) :=
      ⟨by simp [Motion.meets], hg⟩
    exact (promote_moves (List.Subset.refl due) hstart).mono fun _ g' hg' => ⟨by simp, hg'.2⟩
  refine hpromote.bind ?_
  intro _ g₁ hg₁
  simp only [perform_bind, obeys_request]
  refine ⟨trivial, fun popped _ => ?_⟩
  cases popped with
  | none => trivial
  | some id =>
    simp only [RedisQueue.get, perform_bind, obeys_request]
    refine ⟨trivial, fun job hjob => ?_⟩
    cases job with
    | none => trivial
    | some job =>
      have hown : job.jobId = id := hjob job rfl
      simp [save, perform, Motion.permits, Motion.carry, Motion.meets, Motion.owes, hown]

/-- **Every operation moves only ids it took or brings in.** -/
theorem call_body_obeys_motion (delay : Time) (call : Call P) :
    (call.body delay).Obeys motion Motion.owes (Motion.start call) := by
  cases call with
  | enqueue job =>
    refine (save_moves.bind fun _ g hg => ?_ : (RedisQueue.enqueue job).Obeys motion
      (fun _ _ => True) _).bind fun _ _ _ => trivial
    subst hg
    exact ⟨by simp [Motion.permits, Motion.start], fun _ _ => trivial⟩
  | dequeue => exact (dequeue_moves rfl).bind fun _ _ hg => hg
  | ack job => exact ⟨trivial, fun _ _ => trivial⟩
  | retry job error =>
    refine (retry_moves [] ⟨by simp, rfl⟩ ?_).bind fun _ _ _ => trivial
    simp [Motion.start]
  | update job => exact save_moves.bind fun _ _ _ => trivial
  | requeueStaleJobs older =>
    simp only [Call.body, requeueStaleJobs, perform_bind, request_bind, obeys_request]
    refine ⟨trivial, fun now _ => ⟨trivial, fun inFlight _ => ?_⟩⟩
    refine (requeueEach_moves (List.Subset.refl (keys inFlight)) ⟨?_, rfl⟩).bind
      fun _ _ _ => trivial
    simp [Motion.meets]

/-! ### Hand-outs in the log -/

/-- The id was handed out and has not been requeued since. -/
def handedOut (id : UUID) : List (QueueEvent P ι) → Bool
  | [] => false
  | e :: log =>
    if handedOutId e = some id then true
    else if requeuedId e = some id then false
    else handedOut id log

/-- **Each id is handed out once**: between two `dequeue`s that return it, a retry or a
stale requeue put it into the delayed set. -/
def HandedOutOnce (log : List (QueueEvent P ι)) : Prop :=
  ∀ newer between older e₁ e₂ id, log = newer ++ e₂ :: between ++ e₁ :: older →
    handedOutId e₁ = some id → handedOutId e₂ = some id → ∃ e ∈ between, requeuedId e = some id

/-- An id stays handed out until it is requeued. -/
theorem handedOut_of_append {id : UUID} {e : QueueEvent P ι} (he : handedOutId e = some id)
    (older : List (QueueEvent P ι)) :
    ∀ between : List (QueueEvent P ι), (∀ e' ∈ between, requeuedId e' ≠ some id) →
      handedOut id (between ++ e :: older) = true := by
  intro between
  induction between with
  | nil => intro _; simp [handedOut, he]
  | cons e' between ih =>
    intro hne
    have hhead : requeuedId e' ≠ some id := hne e' (List.mem_cons_self ..)
    rw [List.cons_append, handedOut, if_neg hhead, ih fun x hx => hne x (List.mem_cons_of_mem _ hx)]
    simp

/-- An id that is handed out was so by some event, and not requeued after it. -/
theorem exists_of_handedOut {id : UUID} {log : List (QueueEvent P ι)}
    (h : handedOut id log = true) : ∃ between e older, log = between ++ e :: older ∧
      handedOutId e = some id ∧ ∀ e' ∈ between, requeuedId e' ≠ some id := by
  induction log with
  | nil => cases h
  | cons e log ih =>
    rw [handedOut] at h
    split at h
    · next he => exact ⟨[], e, log, rfl, he, by simp⟩
    · split at h
      · cases h
      · next hreq =>
        obtain ⟨between, e₁, older, rfl, he₁, hne⟩ := ih h
        exact ⟨e :: between, e₁, older, rfl, he₁, List.forall_mem_cons.mpr ⟨hreq, hne⟩⟩

/-- The log grows by an event that hands out no id which is still handed out. -/
theorem HandedOutOnce.cons {e : QueueEvent P ι} {log : List (QueueEvent P ι)}
    (h : HandedOutOnce log) (he : ∀ id, handedOutId e = some id → handedOut id log = false) :
    HandedOutOnce (e :: log) := by
  intro newer between older e₁ e₂ id hlog h₁ h₂
  cases newer with
  | nil =>
    simp only [List.nil_append, List.cons_append, List.cons.injEq] at hlog
    obtain ⟨rfl, rfl⟩ := hlog
    -- without a requeue in between the id would still be handed out
    by_contra hcon
    have hout := handedOut_of_append h₁ older between fun x hx hreq => hcon ⟨x, hx, hreq⟩
    rw [he id h₂] at hout
    cases hout
  | cons x newer =>
    simp only [List.cons_append, List.cons.injEq] at hlog
    exact h newer between older e₁ e₂ id hlog.2 h₁ h₂

/-! ### The places of an id -/

/-- Where an id in circulation can be. -/
inductive Place (ι : Type)
  | pending
  | delayed
  | moving (i : ι)
  | handedOut

/-- The motion a session has reached. -/
def motionOf (s : Session (@Reply P) (Call P) (Result P)) : Motion := s.ghost motion Motion.start

/-- The id is at the place. -/
def At (cfg : QueueConfig P ι) (id : UUID) : Place ι → Prop
  | .pending => id ∈ cfg.store.pending
  | .delayed => id ∈ keys cfg.store.delayed
  | .moving i => ∃ s ∈ cfg.sessions i, id ∈ (motionOf s).moving
  | .handedOut => handedOut id cfg.log = true

/-- The places the id is at. -/
def whereabouts (cfg : QueueConfig P ι) (id : UUID) : Set (Place ι) := {p | At cfg id p}

/-- A place stays unique when the token leaves it for the next. -/
theorem subsingleton_of_move {π : Type} {s t : Set π} {p q : π} (hs : s.Subsingleton) (hp : p ∈ s)
    (ht : ∀ x ∈ t, x = q ∨ (x ∈ s ∧ x ≠ p)) : t.Subsingleton := by
  refine (Set.subsingleton_singleton (a := q)).anti ?_
  intro x hx
  rcases ht x hx with rfl | ⟨hxs, hne⟩
  · rfl
  · exact absurd (hs hxs hp) hne

/-! ### The invariant -/

/-- The invariant: sessions keep to the motion discipline, records are stored under
their own ids, the pending list has no id twice, every id is at one place at most, ids
that were met have been enlisted, and the log has no double hand-out. -/
structure Circulating [DecidableEq ι] (cfg : QueueConfig P ι) : Prop where
  obeying : cfg.Obeying motion Motion.start fun _ => Motion.owes
  own : ∀ id job, cfg.store.jobs id = some job → job.jobId = id
  nodup : cfg.store.pending.Nodup
  unique : ∀ id, (whereabouts cfg id).Subsingleton
  placed : ∀ id p, At cfg id p → Enlisted cfg.log id
  processing : ∀ id ∈ keys cfg.store.processing, Enlisted cfg.log id
  met : ∀ i s, cfg.sessions i = some s → ∀ id ∈ (motionOf s).met, Enlisted cfg.log id
  once : HandedOutOnce cfg.log

/-- No client crashes, an id is enqueued once, and only an id that was enqueued is
retried. -/
def Assumed (cfg : QueueConfig P ι) : QueueLabel P ι → Prop
  | .start _ (.enqueue job) => ¬ Enlisted cfg.log job.jobId
  | .start _ (.retry job _) => Enlisted cfg.log job.jobId
  | .abort _ => False
  | _ => True

/-- The commands the code gets right: `ZREM` removes an id that is still in the delayed
set, and `ZADD` delays an id that is neither pending nor in motion. -/
def CarefulCommand (cfg : QueueConfig P ι) : Command P → Prop
  | .zrem id => At cfg id .delayed
  | .zadd id _ => ¬ At cfg id .pending ∧ ∀ k, ¬ At cfg id (.moving k)
  | _ => True

/-- **The steps the code gets right.** -/
def Careful (cfg : QueueConfig P ι) : QueueLabel P ι → Prop
  | .exec i => ∀ c ∈ cfg.nextCommand i, CarefulCommand cfg c
  | _ => True

instance (cfg : QueueConfig P ι) (id : UUID) : DecidablePred (At cfg id)
  | .pending => inferInstanceAs (Decidable (id ∈ cfg.store.pending))
  | .delayed => inferInstanceAs (Decidable (id ∈ keys cfg.store.delayed))
  | .moving i => inferInstanceAs (Decidable (∃ s ∈ cfg.sessions i, id ∈ (motionOf s).moving))
  | .handedOut => inferInstanceAs (Decidable (handedOut id cfg.log = true))

instance (cfg : QueueConfig P ι) : DecidablePred (Assumed cfg)
  | .start _ (.enqueue job) => inferInstanceAs (Decidable (¬ Enlisted cfg.log job.jobId))
  | .start _ (.retry job _) => inferInstanceAs (Decidable (Enlisted cfg.log job.jobId))
  | .start _ .dequeue | .start _ (.ack _) | .start _ (.update _)
  | .start _ (.requeueStaleJobs _) | .exec _ | .env _ => isTrue trivial
  | .abort _ => isFalse id

instance {n : ℕ} (cfg : QueueConfig P (Fin n)) : DecidablePred (CarefulCommand cfg)
  | .zrem id => inferInstanceAs (Decidable (At cfg id .delayed))
  | .zadd id _ =>
    inferInstanceAs (Decidable (¬ At cfg id .pending ∧ ∀ k, ¬ At cfg id (.moving k)))
  | .time | .setJob _ | .setProductJob _ _ | .getJob _ | .getProductJob _ | .rpush _ _ | .lpop
  | .lrange | .hset _ _ | .hdel _ | .hgetall | .zrangebyscore _ _ => isTrue trivial

instance {n : ℕ} (cfg : QueueConfig P (Fin n)) : DecidablePred (Careful cfg)
  | .exec i => inferInstanceAs (Decidable (∀ c ∈ cfg.nextCommand i, CarefulCommand cfg c))
  | .start _ _ | .abort _ | .env _ => isTrue trivial

/-! ### What one command does -/

/-- Only a retry or a stale requeue may delay an id. -/
private theorem requeues_motionOf (s : Session (@Reply P) (Call P) (Result P)) :
    (motionOf s).requeues = (Motion.start s.op).requeues := by
  obtain ⟨o, rest, xs⟩ := s
  induction xs with
  | nil => rfl
  | cons x xs ih => exact ih

private theorem requeuedId_of_requeues {i : ι} {call : Call P} {id : UUID} {score : Time}
    (h : (Motion.start call).requeues = true) :
    requeuedId (.ran i call ⟨.zadd id score, ()⟩) = some id := by
  cases call with
  | retry job error => rfl
  | requeueStaleJobs older => rfl
  | _ => cases h

/-- A command other than `ZADD` requeues nothing. -/
private theorem handedOut_ran {i : ι} {call : Call P} {x : Exchange (@Reply P)} {id : UUID}
    {log : List (QueueEvent P ι)} (h : handedOut id (.ran i call x :: log) = true) :
    handedOut id log = true := by
  have hout : handedOutId (.ran i call x : QueueEvent P ι) = none := rfl
  rw [handedOut, hout, if_neg (by simp)] at h
  split at h
  · cases h
  · exact h

/-- An event that is no hand-out and no requeue changes nobody's place. -/
private theorem handedOut_started {i : ι} {call : Call P} {id : UUID}
    {log : List (QueueEvent P ι)} :
    handedOut id (.started i call :: log) = handedOut id log := by
  rw [handedOut, if_neg (by simp [handedOutId]), if_neg (by simp [requeuedId])]

/-- An id handed out was in motion in the client that returns it. -/
private theorem mem_moving_of_handedOutId {i : ι} {call : Call P} {b : Result P} {g : Motion}
    {id : UUID} (howes : Motion.owes b g)
    (hid : handedOutId (.returned i call b : QueueEvent P ι) = some id) : id ∈ g.moving := by
  cases call with
  | dequeue =>
    cases b with
    | job job =>
      cases job with
      | none => simp [handedOutId] at hid
      | some job =>
        obtain rfl : job.jobId = id := by simpa [handedOutId] using hid
        exact howes
    | _ => simp [handedOutId] at hid
  | _ => simp [handedOutId] at hid

variable [DecidableEq ι] {delay : Time} {cfg cfg' : QueueConfig P ι}

private theorem at_moving_put {i k : ι} {s : Session (@Reply P) (Call P) (Result P)} {id : UUID}
    (h : At (cfg.put i s) id (.moving k)) :
    (k = i ∧ id ∈ (motionOf s).moving) ∨ (k ≠ i ∧ At cfg id (.moving k)) := by
  obtain ⟨t, ht, hid⟩ := h
  rcases Config.of_put_sessions ht with ⟨rfl, rfl⟩ | ⟨hk, hold⟩
  · exact .inl ⟨rfl, hid⟩
  · exact .inr ⟨hk, t, hold, hid⟩

/-- The state after client `i` got the reply to command `c`. -/
private def answered (cfg : QueueConfig P ι) (i : ι) (call : Call P) (c : Command P)
    (next : Reply c → QueueProgram P (Result P)) (xs : List (Exchange (@Reply P))) :
    QueueConfig P ι :=
  ({ cfg with
      store := (Redis.exec c cfg.store).2
      log := .ran i call ⟨c, (Redis.exec c cfg.store).1⟩ :: cfg.log } : QueueConfig P ι).put i
    ⟨call, next (Redis.exec c cfg.store).1, ⟨c, (Redis.exec c cfg.store).1⟩ :: xs⟩

section Answered

variable {i : ι} {call : Call P} {c : Command P} {next : Reply c → QueueProgram P (Result P)}
  {xs : List (Exchange (@Reply P))} {id : UUID}

private theorem at_moving_answered {k : ι} (h : At (answered cfg i call c next xs) id (.moving k)) :
    (k = i ∧ id ∈ Motion.carry (motion.replay (Motion.start call) xs).moving c
      (Redis.exec c cfg.store).1) ∨ (k ≠ i ∧ At cfg id (.moving k)) :=
  at_moving_put h

/-- An id stays at its place if the command neither sets it down nor takes it. -/
private theorem unique_of_still (hunique : (whereabouts cfg id).Subsingleton)
    (hi : cfg.sessions i = some ⟨call, .request c next, xs⟩)
    (hpending : id ∈ (Redis.exec c cfg.store).2.pending → id ∈ cfg.store.pending)
    (hdelayed : id ∈ keys (Redis.exec c cfg.store).2.delayed → id ∈ keys cfg.store.delayed)
    (hcarry : id ∈ Motion.carry (motion.replay (Motion.start call) xs).moving c
      (Redis.exec c cfg.store).1 → id ∈ (motion.replay (Motion.start call) xs).moving) :
    (whereabouts (answered cfg i call c next xs) id).Subsingleton := by
  refine hunique.anti ?_
  intro p hp
  cases p with
  | pending => exact hpending hp
  | delayed => exact hdelayed hp
  | handedOut => exact handedOut_ran hp
  | moving k =>
    rcases at_moving_answered hp with ⟨rfl, hid⟩ | ⟨-, hold⟩
    · exact ⟨_, hi, hcarry hid⟩
    · exact hold

/-- An id taken by the command is in motion in its client and nowhere else. -/
private theorem unique_of_taken (hunique : (whereabouts cfg id).Subsingleton) {p : Place ι}
    (hp : At cfg id p) (hstore : p = .pending ∨ p = .delayed)
    (hpending : id ∈ (Redis.exec c cfg.store).2.pending → id ∈ cfg.store.pending ∧ p ≠ .pending)
    (hdelayed : id ∈ keys (Redis.exec c cfg.store).2.delayed →
      id ∈ keys cfg.store.delayed ∧ p ≠ .delayed) :
    (whereabouts (answered cfg i call c next xs) id).Subsingleton := by
  refine subsingleton_of_move hunique (q := .moving i) hp ?_
  intro q hq
  cases q with
  | pending => exact .inr ⟨(hpending hq).1, (hpending hq).2.symm⟩
  | delayed => exact .inr ⟨(hdelayed hq).1, (hdelayed hq).2.symm⟩
  | handedOut => exact .inr ⟨handedOut_ran hq, by rcases hstore with rfl | rfl <;> simp⟩
  | moving k =>
    rcases at_moving_answered hq with ⟨rfl, -⟩ | ⟨-, hold⟩
    · exact .inl rfl
    · exact .inr ⟨hold, by rcases hstore with rfl | rfl <;> simp⟩

/-- `RPUSH` sets an id in motion down on the pending list. -/
private theorem unique_rpush {next : Reply (.rpush .pending id) → QueueProgram P (Result P)}
    (hunique : (whereabouts cfg id).Subsingleton) (hmine : At cfg id (.moving i)) :
    (whereabouts (answered cfg i call (.rpush .pending id) next xs) id).Subsingleton := by
  refine subsingleton_of_move hunique (p := .moving i) (q := .pending) hmine ?_
  intro q hq
  cases q with
  | pending => exact .inl rfl
  | delayed => exact .inr ⟨hq, by simp⟩
  | handedOut => exact .inr ⟨handedOut_ran hq, by simp⟩
  | moving k =>
    rcases at_moving_answered hq with ⟨rfl, hid⟩ | ⟨hk, hold⟩
    · simp [Motion.carry] at hid
    · exact .inr ⟨hold, by simpa using hk⟩

/-- `ZADD` by a retry or a stale requeue: an id neither pending nor in motion is in the
delayed set alone, and no longer handed out. -/
private theorem unique_zadd {score : Time}
    {next : Reply (.zadd id score) → QueueProgram P (Result P)}
    (hi : cfg.sessions i = some ⟨call, .request (.zadd id score) next, xs⟩)
    (hreq : (Motion.start call).requeues = true) (hpending : ¬ At cfg id .pending)
    (hmoving : ∀ k, ¬ At cfg id (.moving k)) :
    (whereabouts (answered cfg i call (.zadd id score) next xs) id).Subsingleton := by
  refine (Set.subsingleton_singleton (a := Place.delayed)).anti ?_
  intro q hq
  cases q with
  | pending => exact absurd hq hpending
  | delayed => rfl
  | handedOut =>
    have hfalse : handedOut id (.ran i call ⟨.zadd id score, ()⟩ :: cfg.log) = false := by
      rw [handedOut, requeuedId_of_requeues hreq]
      simp [handedOutId]
    exact absurd (hfalse.symm.trans hq) (by simp)
  | moving k =>
    rcases at_moving_answered hq with ⟨rfl, hid⟩ | ⟨-, hold⟩
    · exact absurd ⟨_, hi, hid⟩ (hmoving k)
    · exact absurd hold (hmoving k)

/-- **A careful command keeps places unique.** -/
private theorem unique_answered (h : Circulating cfg)
    (hi : cfg.sessions i = some ⟨call, .request c next, xs⟩)
    (hcareful : Careful cfg (.exec i)) (id : UUID) :
    (whereabouts (answered cfg i call c next xs) id).Subsingleton := by
  have hunique : (whereabouts cfg id).Subsingleton := h.unique id
  have hcareful : CarefulCommand cfg c := hcareful c (Config.mem_nextCommand hi)
  have hpermits := (h.obeying i _ hi).1
  cases c with
  | lpop =>
    cases hpend : cfg.store.pending with
    | nil =>
      -- nothing to pop: no id moves
      refine unique_of_still hunique hi (fun hp => ?_) (fun hp => hp) (fun hp => ?_)
      · simp [Redis.exec, hpend] at hp
      · simpa [Motion.carry, Redis.exec, hpend] using hp
    | cons x rest =>
      -- the id popped is in motion from now on, and it was on the list once
      have hnodup : x ∉ rest := (List.nodup_cons.mp (hpend ▸ h.nodup)).1
      by_cases hx : id = x
      · subst hx
        refine unique_of_taken hunique (p := .pending) ?_ (.inl rfl) (fun hp => ?_)
          fun hp => ⟨hp, by simp⟩
        · show id ∈ cfg.store.pending
          rw [hpend]
          exact List.mem_cons_self ..
        · exact absurd (by simpa [Redis.exec, hpend] using hp) hnodup
      · refine unique_of_still hunique hi (fun hp => ?_) (fun hp => hp) (fun hp => ?_)
        · exact List.mem_of_mem_tail hp
        · simpa [Motion.carry, Redis.exec, hpend, hx] using hp
  | zrem j =>
    by_cases hj : id = j
    · subst hj
      -- a careful `ZREM` finds its id in the delayed set, so the id was nowhere else
      refine unique_of_taken hunique (p := .delayed) hcareful (.inr rfl)
        (fun hp => ⟨hp, by simp⟩) fun hp => ?_
      exact absurd rfl (mem_keys_hdel.mp hp).2
    · refine unique_of_still hunique hi (fun hp => hp) (fun hp => (mem_keys_hdel.mp hp).1)
        (fun hp => ?_)
      simpa [Motion.carry, hj] using hp
  | zadd j t =>
    by_cases hj : id = j
    · subst hj
      -- only a retry or a recovery issues `ZADD`, which takes the id out of its holder's hands
      have hreq : (Motion.start call).requeues = true :=
        (requeues_motionOf ⟨call, .request (.zadd id t) next, xs⟩).symm.trans hpermits.2
      exact unique_zadd hi hreq hcareful.1 hcareful.2
    · refine unique_of_still hunique hi (fun hp => hp) (fun hp => ?_) (fun hp => hp)
      exact (mem_keys_zadd.mp hp).resolve_left hj
  | rpush key j =>
    cases key with
    | deadLetter => exact unique_of_still hunique hi (fun hp => hp) (fun hp => hp) (fun hp => hp)
    | pending =>
      by_cases hj : id = j
      · subst hj
        -- what a client pushes was in motion in it
        exact unique_rpush hunique ⟨_, hi, hpermits⟩
      · refine unique_of_still hunique hi (fun hp => ?_) (fun hp => hp) (fun hp => ?_)
        · simpa [Redis.exec, hj] using hp
        · exact (List.mem_filter.mp hp).1
  | _ => exact unique_of_still hunique hi (fun hp => hp) (fun hp => hp) (fun hp => hp)

/-- A push sets down an id that was in motion, so not pending. -/
private theorem nodup_answered (h : Circulating cfg)
    (hi : cfg.sessions i = some ⟨call, .request c next, xs⟩) :
    (answered cfg i call c next xs).store.pending.Nodup := by
  have hpermits := (h.obeying i _ hi).1
  cases c with
  | lpop => exact h.nodup.sublist (List.tail_sublist _)
  | rpush key j =>
    cases key with
    | deadLetter => exact h.nodup
    | pending =>
      -- the id is in motion, so it is not on the list
      have hmine : At cfg j (.moving i) := ⟨_, hi, hpermits⟩
      have hnot : j ∉ cfg.store.pending := by
        intro hp
        have heq : Place.moving i = .pending := h.unique j hmine hp
        cases heq
      exact List.nodup_append.mpr ⟨h.nodup, List.nodup_singleton j, by
        rintro x hx y hy rfl
        rw [List.mem_singleton] at hy
        exact hnot (hy ▸ hx)⟩
  | _ => exact h.nodup

/-- Every id a command brings into the structures, into motion or to its client's
notice was met before. -/
private theorem enlisted_answered (h : Circulating cfg)
    (hi : cfg.sessions i = some ⟨call, .request c next, xs⟩) (id : UUID) :
    (id ∈ (Redis.exec c cfg.store).2.pending → Enlisted cfg.log id) ∧
      (id ∈ keys (Redis.exec c cfg.store).2.delayed → Enlisted cfg.log id) ∧
      (id ∈ keys (Redis.exec c cfg.store).2.processing → Enlisted cfg.log id) ∧
      (id ∈ Motion.carry (motion.replay (Motion.start call) xs).moving c
        (Redis.exec c cfg.store).1 → Enlisted cfg.log id) ∧
      (id ∈ Motion.meets c (Redis.exec c cfg.store).1 → Enlisted cfg.log id) := by
  have hpermits := (h.obeying i _ hi).1
  -- what was at a place, in a hash or under a client's eyes before was enlisted
  have hpending : id ∈ cfg.store.pending → Enlisted cfg.log id := h.placed id .pending
  have hdelayed : id ∈ keys cfg.store.delayed → Enlisted cfg.log id := h.placed id .delayed
  have hmoving : id ∈ (motion.replay (Motion.start call) xs).moving → Enlisted cfg.log id :=
    fun hid => h.placed id (.moving i) ⟨_, hi, hid⟩
  have hmet : ∀ j ∈ (motion.replay (Motion.start call) xs).met, Enlisted cfg.log j :=
    h.met i _ hi
  have hnone : id ∈ ([] : List UUID) → Enlisted cfg.log id := fun hid => by cases hid
  cases c with
  | lpop =>
    have hpopped : id ∈ cfg.store.pending.head?.toList → Enlisted cfg.log id := fun hid =>
      hpending (List.mem_of_mem_head? (by simpa using hid))
    refine ⟨fun hid => hpending (List.mem_of_mem_tail hid), hdelayed, h.processing id, ?_, hpopped⟩
    exact fun hid => (List.mem_append.mp hid).elim hpopped hmoving
  | zrem j =>
    refine ⟨hpending, fun hid => hdelayed (mem_keys_hdel.mp hid).1, h.processing id, ?_, hnone⟩
    intro hid
    rcases List.mem_cons.mp hid with rfl | hid
    · exact hmet id hpermits
    · exact hmoving hid
  | zadd j t =>
    refine ⟨hpending, fun hid => ?_, h.processing id, hmoving, hnone⟩
    rcases mem_keys_zadd.mp hid with rfl | hid
    · exact hmet id hpermits.1
    · exact hdelayed hid
  | hset j t =>
    refine ⟨hpending, hdelayed, fun hid => ?_, hmoving, hnone⟩
    rcases mem_keys_hset.mp hid with rfl | hid
    · exact hmet id hpermits
    · exact h.processing id hid
  | hdel j => exact ⟨hpending, hdelayed, fun hid => h.processing id (mem_keys_hdel.mp hid).1,
      hmoving, hnone⟩
  | hgetall => exact ⟨hpending, hdelayed, h.processing id, hmoving, h.processing id⟩
  | zrangebyscore lo hi' => exact ⟨hpending, hdelayed, h.processing id, hmoving,
      fun hid => hdelayed (mem_keys_of_mem_zrangebyscore hid)⟩
  | rpush key j =>
    cases key with
    | deadLetter => exact ⟨hpending, hdelayed, h.processing id, hmoving, hnone⟩
    | pending =>
      refine ⟨fun hid => ?_, hdelayed, h.processing id,
        fun hid => hmoving (List.mem_filter.mp hid).1, hnone⟩
      rcases List.mem_append.mp hid with hid | hid
      · exact hpending hid
      · obtain rfl := List.mem_singleton.mp hid
        exact hmoving hpermits
  | _ => exact ⟨hpending, hdelayed, h.processing id, hmoving, hnone⟩

/-- **A careful command keeps the invariant.** -/
private theorem Circulating.answered (h : Circulating cfg)
    (hi : cfg.sessions i = some ⟨call, .request c next, xs⟩) (hcareful : Careful cfg (.exec i)) :
    Circulating (answered cfg i call c next xs) := by
  -- the discipline relies on records being stored under their own ids
  have hreply : Motion.relies c (Redis.exec c cfg.store).1 := by
    cases c with
    | getJob id => exact fun job hjob => h.own id job hjob
    | _ => trivial
  have hlog : ∀ id, Enlisted cfg.log id →
      Enlisted (.ran i call ⟨c, (Redis.exec c cfg.store).1⟩ :: cfg.log) id :=
    fun id hid => enlisted_cons.mpr (.inr hid)
  refine ⟨?_, ?_, nodup_answered h hi, unique_answered h hi hcareful, ?_, ?_, ?_, ?_⟩
  · exact (h.obeying.congr rfl).put ((h.obeying i _ hi).2 _ hreply)
  · intro id job hjob
    cases c with
    | setJob job' =>
      have hjob' : Function.update cfg.store.jobs job'.jobId (some job') id = some job := hjob
      by_cases hid : id = job'.jobId
      · subst hid
        rw [Function.update_self] at hjob'
        cases hjob'
        rfl
      · rw [Function.update_of_ne hid] at hjob'
        exact h.own id job hjob'
    | rpush key j => cases key <;> exact h.own id job hjob
    | _ => exact h.own id job hjob
  · intro id p hp
    obtain ⟨hpending, hdelayed, -, hcarry, -⟩ := enlisted_answered h hi id
    refine hlog id ?_
    cases p with
    | pending => exact hpending hp
    | delayed => exact hdelayed hp
    | handedOut => exact h.placed id .handedOut (handedOut_ran hp)
    | moving k =>
      rcases at_moving_answered hp with ⟨-, hid⟩ | ⟨-, hold⟩
      · exact hcarry hid
      · exact h.placed id _ hold
  · exact fun id hid => hlog id ((enlisted_answered h hi _).2.2.1 hid)
  · intro k t ht id hid
    refine hlog id ?_
    rcases Config.of_put_sessions ht with ⟨rfl, rfl⟩ | ⟨-, hold⟩
    · rcases List.mem_append.mp hid with hid | hid
      · exact (enlisted_answered h hi _).2.2.2.2 hid
      · exact h.met k _ hi id hid
    · exact h.met k t hold id hid
  · exact h.once.cons fun id hid => by simp [handedOutId] at hid

end Answered

/-! ### Starting and returning -/

/-- An operation starts with an id in motion only if that id is new. -/
private theorem Circulating.start {i : ι} {call : Call P} (h : Circulating cfg)
    (hassumed : Assumed cfg (.start i call)) :
    Circulating (({ cfg with log := .started i call :: cfg.log } : QueueConfig P ι).put i
      ⟨call, call.body delay, []⟩) := by
  have hlog : ∀ id, Enlisted cfg.log id → Enlisted (.started i call :: cfg.log) id :=
    fun id hid => enlisted_cons.mpr (.inr hid)
  -- an id the operation starts with in motion is enlisted now and was not before
  have hnew : ∀ id ∈ (Motion.start call).moving,
      Enlisted (.started i call :: cfg.log) id ∧ ¬ Enlisted cfg.log id := by
    intro id hid
    cases call with
    | enqueue job =>
      obtain rfl := List.mem_singleton.mp hid
      exact ⟨enlisted_cons.mpr (.inl rfl), hassumed⟩
    | _ => cases hid
  have hmet : ∀ id ∈ (Motion.start call).met, Enlisted (.started i call :: cfg.log) id := by
    intro id hid
    cases call with
    | enqueue job => exact (hnew id hid).1
    | retry job error =>
      obtain rfl := List.mem_singleton.mp hid
      exact hlog _ hassumed
    | _ => cases hid
  -- every place was there before, but for the ids brought in
  have hplace : ∀ id p, At (({ cfg with log := .started i call :: cfg.log } :
      QueueConfig P ι).put i ⟨call, call.body delay, []⟩) id p →
      (p = .moving i ∧ id ∈ (Motion.start call).moving) ∨ At cfg id p := by
    intro id p hp
    cases p with
    | pending => exact .inr hp
    | delayed => exact .inr hp
    | handedOut => exact .inr (handedOut_started.symm.trans hp)
    | moving k =>
      rcases at_moving_put hp with ⟨rfl, hid⟩ | ⟨-, hold⟩
      · exact .inl ⟨rfl, hid⟩
      · exact .inr hold
  refine ⟨?_, h.own, h.nodup, ?_, ?_, fun id hid => hlog id (h.processing id hid), ?_, ?_⟩
  · exact (h.obeying.congr rfl).put (call_body_obeys_motion delay call)
  · intro id
    by_cases hid : id ∈ (Motion.start call).moving
    · refine (Set.subsingleton_singleton (a := Place.moving i)).anti ?_
      intro p hp
      rcases hplace id p hp with ⟨rfl, -⟩ | hold
      · rfl
      · exact absurd (h.placed id p hold) (hnew id hid).2
    · refine (h.unique id).anti ?_
      intro p hp
      exact (hplace id p hp).resolve_left fun hcon => hid hcon.2
  · intro id p hp
    rcases hplace id p hp with ⟨-, hid⟩ | hold
    · exact (hnew id hid).1
    · exact hlog id (h.placed id p hold)
  · intro k t ht id hid
    rcases Config.of_put_sessions ht with ⟨-, rfl⟩ | ⟨-, hold⟩
    · exact hmet id hid
    · exact hlog id (h.met k t hold id hid)
  · exact h.once.cons fun id hid => by simp [handedOutId] at hid

/-- **Returning keeps the invariant**: the id a `dequeue` returns goes from motion to
handed out. -/
private theorem Circulating.finish {i : ι} {s : Session (@Reply P) (Call P) (Result P)}
    {b : Result P} (h : Circulating cfg) (hi : cfg.sessions i = some s) (hb : s.rest = .done b) :
    Circulating (cfg.finish i s.op b) := by
  have howes : Motion.owes b (motionOf s) := by
    have hs := h.obeying i s hi
    rwa [hb, obeys_done] at hs
  have hlog : ∀ id, Enlisted cfg.log id → Enlisted (.returned i s.op b :: cfg.log) id :=
    fun id hid => enlisted_cons.mpr (.inr hid)
  -- the id a `dequeue` returns was in motion in its client
  have hmine : ∀ id, handedOutId (.returned i s.op b : QueueEvent P ι) = some id →
      At cfg id (.moving i) := fun id hid => ⟨s, hi, mem_moving_of_handedOutId howes hid⟩
  have hplace : ∀ id p, At (cfg.finish i s.op b) id p →
      (p = .handedOut ∧ handedOutId (.returned i s.op b : QueueEvent P ι) = some id) ∨
        (At cfg id p ∧ p ≠ .moving i) := by
    intro id p hp
    cases p with
    | pending => exact .inr ⟨hp, by simp⟩
    | delayed => exact .inr ⟨hp, by simp⟩
    | moving k =>
      obtain ⟨t, ht, hid⟩ := hp
      obtain ⟨hk, ht⟩ := Config.of_ended_sessions ht
      exact .inr ⟨⟨t, ht, hid⟩, by simpa using hk⟩
    | handedOut =>
      have hout : handedOut id (.returned i s.op b :: cfg.log) = true := hp
      rw [handedOut] at hout
      split at hout
      · next he => exact .inl ⟨rfl, he⟩
      · rw [if_neg (by simp [requeuedId])] at hout
        exact .inr ⟨hout, by simp⟩
  refine ⟨h.obeying.finish, h.own, h.nodup, ?_, ?_, fun id hid => hlog id (h.processing id hid),
    ?_, ?_⟩
  · intro id
    by_cases hid : handedOutId (.returned i s.op b : QueueEvent P ι) = some id
    · refine subsingleton_of_move (h.unique id) (p := .moving i) (q := .handedOut) (hmine id hid)
        fun p hp => ?_
      exact (hplace id p hp).imp (fun hnew => hnew.1) fun hold => hold
    · exact (h.unique id).anti fun p hp => ((hplace id p hp).resolve_left fun hcon => hid hcon.2).1
  · intro id p hp
    rcases hplace id p hp with ⟨-, hid⟩ | ⟨hold, -⟩
    · exact hlog id (h.placed id _ (hmine id hid))
    · exact hlog id (h.placed id p hold)
  · intro k t ht id hid
    exact hlog id (h.met k t (Config.of_ended_sessions ht).2 id hid)
  · refine h.once.cons ?_
    intro id hid
    -- an id in motion is not handed out
    cases hout : handedOut id cfg.log with
    | false => rfl
    | true =>
      have heq : Place.moving i = .handedOut := h.unique id (hmine id hid) hout
      cases heq

/-! ### Whole runs -/

/-- Drifting keeps the invariant. -/
private theorem Circulating.drift {e : Drift} {t : Redis P} (h : Circulating cfg)
    (ht : Redis.drift e cfg.store = some t) : Circulating { cfg with store := t } := by
  obtain ⟨hpending, hdelayed, -, hjobs, hprocessing⟩ := drift_frame ht
  have hplace : ∀ id p, At { cfg with store := t } id p → At cfg id p := by
    intro id p hp
    cases p with
    | pending => show id ∈ cfg.store.pending; rw [← hpending]; exact hp
    | delayed => show id ∈ keys cfg.store.delayed; rw [← hdelayed]; exact hp
    | handedOut => exact hp
    | moving k => exact hp
  exact ⟨h.obeying, fun id job hjob => h.own id job (hjobs ▸ hjob), hpending ▸ h.nodup,
    fun id => (h.unique id).anti fun p hp => hplace id p hp,
    fun id p hp => h.placed id p (hplace id p hp),
    fun id hid => h.processing id (hprocessing.mem_iff.mp hid), h.met, h.once⟩

/-- **The place of an id stays unique** along every careful step. -/
theorem Circulating.step {l : QueueLabel P ι} (h : Circulating cfg) (hassumed : Assumed cfg l)
    (hcareful : Careful cfg l) (hstep : (queueMachine P delay).step cfg l = some cfg') :
    Circulating cfg' := by
  refine Machine.step_rule hstep ?_ ?_ ?_ ?_ ?_
  · rintro i call rfl -
    exact h.start hassumed
  · rintro i call c next xs rfl hi
    exact h.answered hi hcareful
  · exact fun _ i s b hcfg hi hb => hcfg.finish hi hb
  · rintro i s rfl -
    exact hassumed.elim
  · rintro e t rfl ht
    exact h.drift ht

theorem Circulating.init : Circulating (QueueConfig.init : QueueConfig P ι) where
  obeying := fun i s h => by cases h
  own := fun id job h => by cases h
  nodup := List.nodup_nil
  unique := fun id p hp => by
    cases p with
    | moving k => obtain ⟨s, hs, -⟩ := hp; cases hs
    | _ => cases hp
  placed := fun id p hp => by
    cases p with
    | moving k => obtain ⟨s, hs, -⟩ := hp; cases hs
    | _ => cases hp
  processing := fun id h => by cases h
  met := fun i s h => by cases h
  once := fun newer between older e₁ e₂ id h => by simp [QueueConfig.init] at h

/-- **No double hand-out in careful runs**: however the clients' commands interleave,
the pending list never holds an id twice, and between two `dequeue`s that return the
same id it was requeued. -/
theorem handed_out_once_of_careful {cfg : QueueConfig P ι}
    (hreach : Reach (queueMachine P delay).step (fun cfg l => Assumed cfg l ∧ Careful cfg l)
      QueueConfig.init cfg) :
    cfg.store.pending.Nodup ∧ HandedOutOnce cfg.log := by
  have hinv : Circulating cfg := hreach.invariant Circulating.init
    fun _ _ _ h hok hstep => h.step hok.1 hok.2 hstep
  exact ⟨hinv.nodup, hinv.once⟩

/-- The first of two clients enqueues a job, dequeues it and retries it, and the backoff
runs out. -/
private def delayOne : List (QueueLabel Unit (Fin 2)) :=
  let job : Job Unit := Job.queued 1 1 () 0 5
  [.start 0 (.enqueue job)] ++ List.replicate 3 (.exec 0) ++
    [.start 0 .dequeue] ++ List.replicate 9 (.exec 0) ++
    [.start 0 (.retry job "")] ++ List.replicate 6 (.exec 0) ++ [.env (.clock 2)]

/-- Both clients find the job due before either removes it. -/
private def promoteTwice : List (QueueLabel Unit (Fin 2)) :=
  [.start 0 .dequeue, .start 1 .dequeue, .exec 0, .exec 0, .exec 1, .exec 1] ++
    List.replicate 9 (.exec 0) ++ List.replicate 9 (.exec 1)

/-- The rule at a run in which a job is delayed, promoted and handed out again. -/
theorem handed_out_again_once : ∃ cfg : QueueConfig Unit (Fin 2),
    (cfg.log.filterMap handedOutId = [1, 1]) ∧ cfg.store.pending.Nodup ∧ HandedOutOnce cfg.log := by
  obtain ⟨cfg, hreach, hcfg⟩ := exists_reach_of_runLabels (queueMachine Unit 1).step
    (fun cfg l => decide (Assumed cfg l ∧ Careful cfg l)) QueueConfig.init
    (delayOne ++ [.start 1 .dequeue] ++ List.replicate 11 (.exec 1))
    (fun cfg => decide (cfg.log.filterMap handedOutId = [1, 1])) (by decide +kernel)
  have hok : Reach (queueMachine Unit 1).step (fun cfg l => Assumed cfg l ∧ Careful cfg l)
      QueueConfig.init cfg := hreach.mono fun _ _ h => of_decide_eq_true h
  exact ⟨cfg, of_decide_eq_true hcfg, handed_out_once_of_careful hok⟩

/-- **Two overlapping promotions hand a job out twice**: both clients read that the job
is due, both push it, and both pop it. -/
theorem overlapping_promotions_hand_out_twice :
    ¬ ∀ cfg : QueueConfig Unit (Fin 2),
      Reach (queueMachine Unit 1).step Assumed QueueConfig.init cfg →
        cfg.store.pending.Nodup ∧ HandedOutOnce cfg.log := by
  intro hall
  obtain ⟨cfg, hreach, hcfg⟩ := exists_reach_of_runLabels (queueMachine Unit 1).step
    (fun cfg l => decide (Assumed cfg l)) QueueConfig.init (delayOne ++ promoteTwice)
    (fun cfg => decide (∃ e ∈ cfg.log.head?, handedOutId e = some 1 ∧
      handedOut 1 cfg.log.tail = true)) (by decide +kernel)
  obtain ⟨-, honce⟩ := hall cfg (hreach.mono fun _ _ h => of_decide_eq_true h)
  obtain ⟨e₂, hhead, h₂, hout⟩ := of_decide_eq_true hcfg
  obtain ⟨between, e₁, older, htail, h₁, hne⟩ := exists_of_handedOut hout
  have hlog : cfg.log = [] ++ e₂ :: between ++ e₁ :: older := by
    rw [List.eq_cons_of_mem_head? hhead, htail]
    simp
  obtain ⟨e, he, hreq⟩ := honce [] between older e₁ e₂ 1 hlog h₁ h₂
  exact hne e he hreq

end ProductIntelligence
