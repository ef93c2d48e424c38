import Mathlib.Algebra.GroupWithZero.Nat
import Mathlib.Data.List.ReduceOption
import Mathlib.Data.Rat.Init
import Mathlib.Algebra.Order.Ring.Rat
import ProductIntelligence.Jobs.Job
import ProductIntelligence.Logic.Program
import ProductIntelligence.Text.Unicode

/-!
# The daily buckets

Operational history is kept in Redis, one bucket for each day: a counter for each event, and for
the processing latency a sum and a count.  Every bucket has a time to live.  Each Redis command is
one atomic transition.

## Main definitions

* `Date` — the days a date can stand for.
* `AnalyticsStore`, `AnalyticsStore.Command`, `AnalyticsStore.exec` — the buckets, the commands and
  what they do.
* `AnalyticsStore.tallyOf`, `AnalyticsStore.sumOf` — what a bucket holds, `0` when there is none.
* `AnalyticsRepository.recordEvent`, `recordLatency`, `countRange`, `latencyRange` — the repository.

## Main results

* `AnalyticsStore.tallyOf_incr`, `sumOf_incrByFloat` — what recording changes.
* `AnalyticsRepository.run_countRange`, `run_latencyRange` — what the readers return.

## References

`backend/app/repositories/analytics_repository.py`, `backend/app/models/analytics_event.py`.
-/

namespace ProductIntelligence

open Effects

/-! ### Days -/

/-- The last day number a date can have: December 31 of the year 9999. -/
def maxOrdinal : ℤ := 3652059

/-- A date, by its day number: 1 is January 1 of the year 1. -/
abbrev Date := {ordinal : ℤ // 1 ≤ ordinal ∧ ordinal ≤ maxOrdinal}

/-- How a query of the analytics layer fails. -/
inductive AnalyticsError
  /-- `OverflowError`: date value out of range. -/
  | dateOutOfRange
  /-- A usage record whose average latency is negative. -/
  | negativeLatency
  deriving DecidableEq

namespace Date

/-- The date with a day number. -/
def ofOrdinal (ordinal : ℤ) : Except AnalyticsError Date :=
  if h : 1 ≤ ordinal ∧ ordinal ≤ maxOrdinal then .ok ⟨ordinal, h⟩ else .error .dateOutOfRange

/-- `date + timedelta(days=days)`. -/
def add (date : Date) (days : ℤ) : Except AnalyticsError Date := ofOrdinal (date.val + days)

/-- `date - timedelta(days=days)`. -/
def sub (date : Date) (days : ℤ) : Except AnalyticsError Date := ofOrdinal (date.val - days)

theorem ofOrdinal_eq_ok {ordinal : ℤ} {date : Date} :
    ofOrdinal ordinal = .ok date ↔ date.val = ordinal := by
  unfold ofOrdinal
  split
  · next h => rw [Except.ok.injEq, Subtype.ext_iff, eq_comm]
  · next h =>
    constructor
    · intro heq
      cases heq
    · intro heq
      exact absurd (heq ▸ date.property) h

theorem ofOrdinal_eq_error {ordinal : ℤ} (h : ordinal < 1) :
    ofOrdinal ordinal = .error .dateOutOfRange := by
  unfold ofOrdinal
  rw [dif_neg (by omega)]

end Date

/-! ### Buckets -/

/-- A countable operational event. -/
inductive AnalyticsEvent
  | upload
  | duplicateCheck
  | recommendation
  | search
  deriving DecidableEq

/-- The name of an event, as its bucket keys spell it. -/
def AnalyticsEvent.value : AnalyticsEvent → Text
  | .upload => "upload".toList
  | .duplicateCheck => "duplicate_check".toList
  | .recommendation => "recommendation".toList
  | .search => "search".toList

/-- A number kept in Redis, and the time at which it expires. -/
structure Bucket (α : Type) where
  value : α
  expiresAt : Option Time

namespace Bucket

variable {α : Type}

/-- The bucket has not expired. -/
def live (bucket : Bucket α) (clock : Time) : Bool :=
  match bucket.expiresAt with
  | none => true
  | some deadline => clock < deadline

/-- The bucket, unless it has expired. -/
def current (clock : Time) (bucket : Option (Bucket α)) : Option (Bucket α) :=
  bucket.filter fun bucket => bucket.live clock

/-- What a bucket holds, `0` when there is none. -/
def read [Zero α] (clock : Time) (bucket : Option (Bucket α)) : α :=
  ((current clock bucket).map value).getD 0

/-- The bucket after an addition: one that is not there begins at the amount, without a deadline. -/
def plus [Add α] (amount : α) : Option (Bucket α) → Bucket α
  | some bucket => { bucket with value := bucket.value + amount }
  | none => ⟨amount, none⟩

/-- The bucket with a deadline. -/
def expiring (deadline : Time) (bucket : Bucket α) : Bucket α :=
  { bucket with expiresAt := some deadline }

/-- A bucket that is live, or begins, is live after an addition. -/
theorem live_plus [Add α] (amount : α) (clock : Time) (bucket : Option (Bucket α)) :
    (plus amount (current clock bucket)).live clock = true := by
  rcases h : current clock bucket with _ | b
  · rfl
  · exact (Option.filter_eq_some_iff.1 h).2

/-- An addition is read. -/
theorem read_plus [AddZeroClass α] (amount : α) (clock : Time) (bucket : Option (Bucket α)) :
    read clock (some (plus amount (current clock bucket))) = read clock bucket + amount := by
  have hcurrent : current clock (some (plus amount (current clock bucket))) =
      some (plus amount (current clock bucket)) := Option.filter_some_pos (live_plus ..)
  rw [read, hcurrent, read]
  cases current clock bucket with
  | none => simp [plus]
  | some b => simp [plus]

/-- A deadline in the future changes nothing that is read. -/
theorem read_expiring [Zero α] {clock deadline : Time} (h : clock < deadline)
    (bucket : Option (Bucket α)) :
    read clock ((current clock bucket).map (expiring deadline)) = read clock bucket := by
  unfold read
  cases current clock bucket with
  | none => rfl
  | some b =>
    have hlive : (expiring deadline b).live clock = true := decide_eq_true h
    have hcurrent : current clock (some (expiring deadline b)) = some (expiring deadline b) :=
      Option.filter_some_pos hlive
    rw [Option.map_some, hcurrent]
    rfl

end Bucket

/-- The keys of the counters: `analytics:count:{event}:{day}` and
`analytics:latency_count:{day}`. -/
inductive TallyKey
  | count (event : AnalyticsEvent) (day : Date)
  | latencyCount (day : Date)
  deriving DecidableEq

/-- The store: the counters, the sums `analytics:latency_sum:{day}`, and the server's clock. -/
structure AnalyticsStore where
  tallies : TallyKey → Option (Bucket ℕ)
  sums : Date → Option (Bucket ℚ)
  clock : Time

/-- How long each bucket lives: 90 days. -/
def analyticsTtlSeconds : Time := 90 * 24 * 60 * 60

namespace AnalyticsStore

/-- An empty store. -/
def empty : AnalyticsStore := ⟨fun _ => none, fun _ => none, 0⟩

/-- The counter under a key, unless it has expired. -/
def tally (store : AnalyticsStore) (key : TallyKey) : Option (Bucket ℕ) :=
  Bucket.current store.clock (store.tallies key)

/-- The latency sum of a day, unless it has expired. -/
def sum (store : AnalyticsStore) (day : Date) : Option (Bucket ℚ) :=
  Bucket.current store.clock (store.sums day)

/-- The commands the repository issues. -/
inductive Command
  | incr (key : TallyKey)
  | incrByFloat (day : Date) (amount : ℚ)
  | expireTally (key : TallyKey) (seconds : Time)
  | expireSum (day : Date) (seconds : Time)
  | mgetTallies (keys : List TallyKey)
  | mgetSums (days : List Date)

/-- What each command replies. -/
abbrev Reply : Command → Type
  | .incr _ => ℕ
  | .incrByFloat _ _ => ℚ
  | .mgetTallies _ => List (Option ℕ)
  | .mgetSums _ => List (Option ℚ)
  | _ => Unit

/-- What each command does. -/
def exec : Handler Reply AnalyticsStore
  | .incr key, s =>
    let bucket := Bucket.plus 1 (s.tally key)
    (bucket.value, { s with tallies := Function.update s.tallies key (some bucket) })
  | .incrByFloat day amount, s =>
    let bucket := Bucket.plus amount (s.sum day)
    (bucket.value, { s with sums := Function.update s.sums day (some bucket) })
  | .expireTally key seconds, s =>
    ((), { s with
      tallies := Function.update s.tallies key
        ((s.tally key).map (Bucket.expiring (s.clock + seconds))) })
  | .expireSum day seconds, s =>
    ((), { s with
      sums := Function.update s.sums day
        ((s.sum day).map (Bucket.expiring (s.clock + seconds))) })
  | .mgetTallies keys, s => (keys.map fun key => (s.tally key).map Bucket.value, s)
  | .mgetSums days, s => (days.map fun day => (s.sum day).map Bucket.value, s)

/-- What a counter holds, `0` when there is none. -/
def tallyOf (store : AnalyticsStore) (key : TallyKey) : ℕ :=
  Bucket.read store.clock (store.tallies key)

/-- What the latency sum of a day holds, `0` when there is none. -/
def sumOf (store : AnalyticsStore) (day : Date) : ℚ :=
  Bucket.read store.clock (store.sums day)

/-! ### What each command changes -/

/-- `INCR` adds one to its own counter. -/
theorem tallyOf_incr (s : AnalyticsStore) (key key' : TallyKey) :
    (exec (.incr key) s).2.tallyOf key' = s.tallyOf key' + if key = key' then 1 else 0 := by
  unfold exec tallyOf tally
  by_cases h : key = key'
  · subst h
    simp only [Function.update_self, if_true]
    exact Bucket.read_plus ..
  · simp only [Function.update_of_ne (Ne.symm h), if_neg h, add_zero]

/-- `INCRBYFLOAT` adds the amount to its own sum. -/
theorem sumOf_incrByFloat (s : AnalyticsStore) (day day' : Date) (amount : ℚ) :
    (exec (.incrByFloat day amount) s).2.sumOf day' =
      s.sumOf day' + if day = day' then amount else 0 := by
  unfold exec sumOf sum
  by_cases h : day = day'
  · subst h
    simp only [Function.update_self, if_true]
    exact Bucket.read_plus ..
  · simp only [Function.update_of_ne (Ne.symm h), if_neg h, add_zero]

/-- `EXPIRE` of a counter changes no value. -/
theorem tallyOf_expireTally (s : AnalyticsStore) (key key' : TallyKey) {seconds : Time}
    (h : 0 < seconds) : (exec (.expireTally key seconds) s).2.tallyOf key' = s.tallyOf key' := by
  unfold exec tallyOf tally
  by_cases hkey : key' = key
  · subst hkey
    simp only [Function.update_self]
    exact Bucket.read_expiring (lt_add_of_pos_right _ h) _
  · simp only [Function.update_of_ne hkey]

/-- `EXPIRE` of a sum changes no value. -/
theorem sumOf_expireSum (s : AnalyticsStore) (day day' : Date) {seconds : Time}
    (h : 0 < seconds) : (exec (.expireSum day seconds) s).2.sumOf day' = s.sumOf day' := by
  unfold exec sumOf sum
  by_cases hday : day' = day
  · subst hday
    simp only [Function.update_self]
    exact Bucket.read_expiring (lt_add_of_pos_right _ h) _
  · simp only [Function.update_of_ne hday]

end AnalyticsStore

/-! ### The repository -/

namespace AnalyticsRepository

open AnalyticsStore (Reply)
open Program (perform)

/-- Missing values count for nothing. -/
theorem sum_reduceOption {α : Type} [AddMonoid α] (values : List (Option α)) :
    values.reduceOption.sum = (values.map fun value => value.getD 0).sum := by
  induction values with
  | nil => rfl
  | cons value values ih =>
    cases value with
    | none => simpa using ih
    | some a => simp [ih]

/-- `record_event`: the counter of the day, which is today unless given, goes up by one. -/
def recordEvent (today : Date) (event : AnalyticsEvent) (day : Option Date) :
    Program Reply Unit := do
  let key := TallyKey.count event (day.getD today)
  let _ ← perform (R := Reply) (.incr key)
  perform (R := Reply) (.expireTally key analyticsTtlSeconds)

/-- `record_latency`: a sample goes into the sum and the count of the day. -/
def recordLatency (today : Date) (seconds : ℚ) (day : Option Date) : Program Reply Unit := do
  let resolvedDay := day.getD today
  let _ ← perform (R := Reply) (.incrByFloat resolvedDay seconds)
  let _ ← perform (R := Reply) (.incr (.latencyCount resolvedDay))
  let _ ← perform (R := Reply) (.expireSum resolvedDay analyticsTtlSeconds)
  perform (R := Reply) (.expireTally (.latencyCount resolvedDay) analyticsTtlSeconds)

/-- `count_range`: the counts of an event on the given days, in order. -/
def countRange (event : AnalyticsEvent) (days : List Date) : Program Reply (List ℕ) :=
  if days.isEmpty then pure []
  else do
    let rawValues ← perform (R := Reply) (.mgetTallies (days.map (.count event)))
    pure (rawValues.map fun value => value.getD 0)

/-- `latency_range`: the latency sum and the sample count over the given days. -/
def latencyRange (days : List Date) : Program Reply (ℚ × ℕ) :=
  if days.isEmpty then pure (0, 0)
  else do
    let sums ← perform (R := Reply) (.mgetSums days)
    let counts ← perform (R := Reply) (.mgetTallies (days.map .latencyCount))
    pure (sums.reduceOption.sum, counts.reduceOption.sum)

/-- What `count_range` returns. -/
theorem run_countRange (event : AnalyticsEvent) (days : List Date) (s : AnalyticsStore) :
    (countRange event days).run AnalyticsStore.exec s =
      (days.map fun day => s.tallyOf (.count event day), s) := by
  cases days with
  | nil => rfl
  | cons day days =>
    simp [countRange, AnalyticsStore.exec, AnalyticsStore.tallyOf, AnalyticsStore.tally, Bucket.read,
      Function.comp_def]

/-- What `latency_range` returns. -/
theorem run_latencyRange (days : List Date) (s : AnalyticsStore) :
    (latencyRange days).run AnalyticsStore.exec s =
      (((days.map fun day => s.sumOf day).sum,
        (days.map fun day => s.tallyOf (.latencyCount day)).sum), s) := by
  cases days with
  | nil => rfl
  | cons day days =>
    simp [latencyRange, AnalyticsStore.exec, AnalyticsStore.tallyOf, AnalyticsStore.tally,
      AnalyticsStore.sumOf, AnalyticsStore.sum, Bucket.read, sum_reduceOption, Function.comp_def]

end AnalyticsRepository

end ProductIntelligence
