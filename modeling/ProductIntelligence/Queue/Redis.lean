import Mathlib.Data.List.Nodup
import Mathlib.Data.List.Perm.Basic
import Mathlib.Data.List.Sort
import ProductIntelligence.Jobs.Job
import ProductIntelligence.Logic.Program

/-!
# The Redis structures of the job queue

The keys `RedisQueue` uses, as one store: the two lists, the processing hash, the
delayed sorted set, the job records and the product index, with the clock that
`time.time()` reads.  Each Redis command is one atomic transition.

## Main definitions

* `Redis` — the store.
* `Redis.Command`, `Redis.exec` — the commands and what they do.
* `Redis.InPlace` — an id is in one of the four structures.

## Main results

* `mem_keys_hset`, `mem_keys_hdel`, `mem_keys_zadd` — the members of the hash and of
  the sorted set after an update.
-/

namespace ProductIntelligence

open Effects

/-- The members of a hash or of a sorted set. -/
def keys (l : List (UUID × Time)) : List UUID := l.map Prod.fst

/-- `HSET`: overwrite the field in place, or append it. -/
def hset (id : UUID) (value : Time) (l : List (UUID × Time)) : List (UUID × Time) :=
  if id ∈ keys l then l.map fun e => if e.1 = id then (id, value) else e
  else l ++ [(id, value)]

/-- `HDEL` and `ZREM`: drop the member. -/
def hdel (id : UUID) (l : List (UUID × Time)) : List (UUID × Time) :=
  l.filter fun e => e.1 ≠ id

/-- A sorted set ranks by score, then by member. -/
def ranksBefore (a b : UUID × Time) : Prop := a.2 < b.2 ∨ (a.2 = b.2 ∧ a.1 ≤ b.1)

instance : DecidableRel ranksBefore := fun _ _ => inferInstanceAs (Decidable (_ ∨ _))

/-- `ZADD`: the member gets the score, whatever score it had. -/
def zadd (id : UUID) (score : Time) (l : List (UUID × Time)) : List (UUID × Time) :=
  (hdel id l).orderedInsert ranksBefore (id, score)

/-- `ZRANGEBYSCORE`: the members with a score between the bounds, in rank order. -/
def zrangebyscore (lo hi : Time) (l : List (UUID × Time)) : List UUID :=
  keys (l.filter fun e => lo ≤ e.2 ∧ e.2 ≤ hi)

theorem mem_keys_hset {id j : UUID} {value : Time} {l : List (UUID × Time)} :
    j ∈ keys (hset id value l) ↔ j = id ∨ j ∈ keys l := by
  unfold hset
  split
  · next h =>
    have hkeys : keys (l.map fun e => if e.1 = id then (id, value) else e) = keys l := by
      rw [keys, keys, List.map_map]
      refine List.map_congr_left ?_
      intro e _
      by_cases he : e.1 = id <;> simp [he]
    rw [hkeys]
    constructor
    · exact Or.inr
    · rintro (rfl | hj)
      · exact h
      · exact hj
  · simp [keys, or_comm]

theorem mem_keys_hdel {id j : UUID} {l : List (UUID × Time)} :
    j ∈ keys (hdel id l) ↔ j ∈ keys l ∧ j ≠ id := by
  simp only [keys, hdel, List.mem_map, List.mem_filter, decide_eq_true_eq]
  constructor
  · rintro ⟨e, ⟨he, hne⟩, rfl⟩; exact ⟨⟨e, he, rfl⟩, hne⟩
  · rintro ⟨⟨e, he, rfl⟩, hne⟩; exact ⟨e, ⟨he, hne⟩, rfl⟩

theorem mem_keys_zadd {id j : UUID} {score : Time} {l : List (UUID × Time)} :
    j ∈ keys (zadd id score l) ↔ j = id ∨ j ∈ keys l := by
  have hperm := List.perm_orderedInsert ranksBefore (id, score) (hdel id l)
  have hmem : j ∈ keys (zadd id score l) ↔ j ∈ keys ((id, score) :: hdel id l) :=
    (hperm.map Prod.fst).mem_iff
  rw [hmem, keys, List.map_cons, List.mem_cons, ← keys, mem_keys_hdel]
  by_cases hj : j = id <;> simp [hj]

theorem mem_keys_of_mem_zrangebyscore {lo hi : Time} {j : UUID} {l : List (UUID × Time)}
    (h : j ∈ zrangebyscore lo hi l) : j ∈ keys l := by
  simp only [zrangebyscore, keys, List.mem_map, List.mem_filter] at h ⊢
  obtain ⟨e, ⟨he, -⟩, rfl⟩ := h
  exact ⟨e, he, rfl⟩

/-- The two lists of a queue, `{queue_name}:pending` and `{queue_name}:dead_letter`. -/
inductive ListKey
  | pending
  | deadLetter
  deriving DecidableEq, Repr

/-- The store of one queue: the ids waiting, next first; the ids a worker holds, with
the time each was dequeued at; the ids waiting out a backoff, with the time each is
ready at; the ids that exhausted their retries, oldest first; the records
`job:{job_id}` and the index `product:{product_id}:job_id`. -/
structure Redis (P : Type) where
  pending : List UUID
  processing : List (UUID × Time)
  delayed : List (UUID × Time)
  deadLetter : List UUID
  jobs : UUID → Option (Job P)
  productJob : UUID → Option UUID
  clock : Time

namespace Redis

variable {P : Type}

/-- An empty store. -/
def empty : Redis P where
  pending := []
  processing := []
  delayed := []
  deadLetter := []
  jobs := fun _ => none
  productJob := fun _ => none
  clock := 0

/-- The commands `RedisQueue` issues, and its readings of the clock.  `LPOP` is on the
pending list and `LRANGE` on the dead letters; `HSET`, `HDEL` and `HGETALL` are on the
processing hash; `ZADD`, `ZREM` and `ZRANGEBYSCORE` on the delayed set. -/
inductive Command (P : Type)
  | time
  | setJob (job : Job P)
  | setProductJob (productId jobId : UUID)
  | getJob (id : UUID)
  | getProductJob (productId : UUID)
  | rpush (key : ListKey) (id : UUID)
  | lpop
  | lrange
  | hset (id : UUID) (value : Time)
  | hdel (id : UUID)
  | hgetall
  | zadd (id : UUID) (score : Time)
  | zrem (id : UUID)
  | zrangebyscore (lo hi : Time)

/-- What each command replies.  `ZREM` and `HDEL` count the members they removed. -/
abbrev Reply : Command P → Type
  | .time => Time
  | .getJob _ => Option (Job P)
  | .getProductJob _ => Option UUID
  | .lpop => Option UUID
  | .lrange => List UUID
  | .hgetall => List (UUID × Time)
  | .zrangebyscore _ _ => List UUID
  | .hdel _ => ℕ
  | .zrem _ => ℕ
  | _ => Unit

/-- What each command does. -/
def exec : Handler (@Reply P) (Redis P)
  | .time, r => (r.clock, r)
  | .setJob job, r => ((), { r with jobs := Function.update r.jobs job.jobId (some job) })
  | .setProductJob productId jobId, r =>
    ((), { r with productJob := Function.update r.productJob productId (some jobId) })
  | .getJob id, r => (r.jobs id, r)
  | .getProductJob productId, r => (r.productJob productId, r)
  | .rpush .pending id, r => ((), { r with pending := r.pending ++ [id] })
  | .rpush .deadLetter id, r => ((), { r with deadLetter := r.deadLetter ++ [id] })
  | .lpop, r => (r.pending.head?, { r with pending := r.pending.tail })
  | .lrange, r => (r.deadLetter, r)
  | .hset id value, r =>
    ((), { r with processing := ProductIntelligence.hset id value r.processing })
  | .hdel id, r =>
    ((keys r.processing).count id,
      { r with processing := ProductIntelligence.hdel id r.processing })
  | .hgetall, r => (r.processing, r)
  | .zadd id score, r => ((), { r with delayed := ProductIntelligence.zadd id score r.delayed })
  | .zrem id, r =>
    ((keys r.delayed).count id, { r with delayed := ProductIntelligence.hdel id r.delayed })
  | .zrangebyscore lo hi, r => (ProductIntelligence.zrangebyscore lo hi r.delayed, r)

/-- The id is in at least one of the four structures. -/
def InPlace (r : Redis P) (id : UUID) : Prop :=
  id ∈ r.pending ∨ id ∈ keys r.processing ∨ id ∈ keys r.delayed ∨ id ∈ r.deadLetter

instance {r : Redis P} {id : UUID} : Decidable (r.InPlace id) :=
  inferInstanceAs (Decidable (_ ∨ _))

/-- The id has a record, and the record is its own. -/
def Recorded (r : Redis P) (id : UUID) : Prop := ∃ job, r.jobs id = some job ∧ job.jobId = id

/-- What happens to the store besides the clients' commands: the clock moves, and the
order in which `HGETALL` lists the hash is not specified. -/
inductive Drift
  | clock (t : Time)
  | rehash (l : List (UUID × Time))

/-- Let the store drift. -/
def drift : Drift → Redis P → Option (Redis P)
  | .clock t, r => some { r with clock := t }
  | .rehash l, r => if l.Perm r.processing then some { r with processing := l } else none

/-- What drifting leaves alone: everything but the clock and the order of the hash. -/
theorem drift_frame {e : Drift} {r t : Redis P} (h : drift e r = some t) :
    t.pending = r.pending ∧ t.delayed = r.delayed ∧ t.deadLetter = r.deadLetter ∧
      t.jobs = r.jobs ∧ (keys t.processing).Perm (keys r.processing) := by
  cases e with
  | clock now =>
    cases h
    exact ⟨rfl, rfl, rfl, rfl, .refl _⟩
  | rehash l =>
    simp only [drift] at h
    split at h
    · next hperm =>
      cases h
      exact ⟨rfl, rfl, rfl, rfl, hperm.map Prod.fst⟩
    · cases h

end Redis

end ProductIntelligence
