import ProductIntelligence.Enterprise.Api

/-!
# Quota enforcement

A request that is enforced is counted for its tenant, once for the day and once for the clock
minute, and is refused when a count is beyond its limit.  A limit of zero is off.

## Main definitions

* `enforceQuota`, `EnterpriseApp.metered` — the enforcement, and a request that passes through
  it.
* `EnterpriseStore.nextCount`, `EnterpriseStore.countUp` — the next count of a counter, and the
  store once it is counted.

## Main results

* `run_hit` — counting a request moves its two counters and nothing else.
* `quotaVerdict_eq_ok` — which counts pass.

## References

`backend/app/dependencies/enterprise.py`, `backend/app/repositories/quota_repository.py`.
-/

namespace ProductIntelligence

open Effects Program

/-! ### The dependency -/

/-- The answer to a request beyond the daily quota. -/
def dailyQuotaExceeded (dailyQuota : ℕ) : EnterpriseException :=
  .quotaExceeded ("Daily request quota of ".toList ++ (Nat.repr dailyQuota).toList ++
    " exceeded for this tenant.".toList)

/-- The answer to a request beyond the rate limit. -/
def rateLimitExceeded (rateLimit : ℕ) : EnterpriseException :=
  .quotaExceeded ("Rate limit of ".toList ++ (Nat.repr rateLimit).toList ++
    " requests/minute exceeded for this tenant.".toList)

/-- What a request is answered whose counts are given.  A limit of zero is off. -/
def quotaVerdict (dailyQuota rateLimit daily perMinute : ℕ) (context : AuthContext) :
    Answer AuthContext :=
  if dailyQuota ≠ 0 ∧ dailyQuota < daily then .error (dailyQuotaExceeded dailyQuota)
  else if rateLimit ≠ 0 ∧ rateLimit < perMinute then .error (rateLimitExceeded rateLimit)
  else .ok context

/-- `enforce_quota`: count the request for its tenant, then compare. -/
def enforceQuota (dailyQuota rateLimit : ℕ) (now : Time) (context : AuthContext) :
    EnterpriseProgram (Answer AuthContext) := do
  let (daily, perMinute) ← QuotaRepository.hit context.tenantId now
  return quotaVerdict dailyQuota rateLimit daily perMinute context

/-- A request that is authenticated and then enforced. -/
def EnterpriseApp.metered (app : EnterpriseApp) (header : Option Text) (now : Time) :
    EnterpriseProgram (Answer AuthContext) := do
  match ← AuthenticationService.authenticate app.hashKey header with
  | .error e => return .error e
  | .ok context => enforceQuota app.dailyRequestQuota app.rateLimitPerMinute now context

/-! ### Verdicts -/

/-- A request passes when neither limit that is on is below its count. -/
theorem quotaVerdict_eq_ok {dailyQuota rateLimit daily perMinute : ℕ}
    {context answer : AuthContext} :
    quotaVerdict dailyQuota rateLimit daily perMinute context = .ok answer ↔
      answer = context ∧ (dailyQuota = 0 ∨ daily ≤ dailyQuota) ∧
        (rateLimit = 0 ∨ perMinute ≤ rateLimit) := by
  unfold quotaVerdict
  split
  · rename_i hdaily
    constructor
    · intro h
      cases h
    · rintro ⟨-, h, -⟩
      omega
  · rename_i hdaily
    split
    · rename_i hminute
      constructor
      · intro h
        cases h
      · rintro ⟨-, -, h⟩
        omega
    · rename_i hminute
      constructor
      · intro h
        exact ⟨(Except.ok.inj h).symm, by omega, by omega⟩
      · rintro ⟨rfl, -, -⟩
        rfl

/-! ### Counting -/

namespace EnterpriseStore

variable (s : EnterpriseStore)

/-- What the next `INCR` of a counter replies. -/
def nextCount (key : CounterKey) : ℕ := ((s.counter key).map Counter.count).getD 0 + 1

/-- The store once a counter is counted and given its time to live. -/
def countUp (key : CounterKey) (seconds : Time) : EnterpriseStore :=
  { s with
    counters := Function.update s.counters key
      (some ⟨s.nextCount key, some (s.clock + seconds)⟩) }

variable {s}

/-- A counter once it is counted, with the deadline it had. -/
def nextCounter (s : EnterpriseStore) (key : CounterKey) : Counter :=
  match s.counter key with
  | some counter => { counter with count := counter.count + 1 }
  | none => ⟨1, none⟩

theorem count_nextCounter (key : CounterKey) : (s.nextCounter key).count = s.nextCount key := by
  unfold nextCounter nextCount
  cases s.counter key <;> rfl

/-- A counter that was just counted has not expired. -/
theorem live_nextCounter (key : CounterKey) : (s.nextCounter key).live s.clock = true := by
  unfold nextCounter
  cases hcounter : s.counter key with
  | none => rfl
  | some found => exact (Option.filter_eq_some_iff.1 hcounter).2

/-- `INCR` replies the next count. -/
theorem exec_incr (order : SetOrder) (key : CounterKey) :
    exec order (.incr key) s = (s.nextCount key,
      { s with counters := Function.update s.counters key (some (s.nextCounter key)) }) := by
  rw [← count_nextCounter]
  rfl

/-- The `EXPIRE` after it finds the counter. -/
theorem exec_expire_incr (order : SetOrder) (key : CounterKey) (seconds : Time) :
    (exec order (.expire key seconds) (exec order (.incr key) s).2).2 =
      s.countUp key seconds := by
  rw [exec_incr]
  have hfound : ({ s with
      counters := Function.update s.counters key (some (s.nextCounter key)) } :
        EnterpriseStore).counter key = some (s.nextCounter key) := by
    unfold counter
    dsimp only
    rw [Function.update_self, Option.filter_some, if_pos (live_nextCounter key)]
  unfold exec countUp
  dsimp only
  rw [hfound, Function.update_idem, Option.map_some, count_nextCounter]

end EnterpriseStore

/-- **Counting a request** moves the tenant's two counters, and nothing else. -/
theorem run_hit (order : SetOrder) (s : EnterpriseStore) (tenantId : UUID) (now : Time) :
    (QuotaRepository.hit tenantId now).run (EnterpriseStore.exec order) s =
      let counted := s.countUp (.daily tenantId (day now)) dailyTtlSeconds
      ((s.nextCount (.daily tenantId (day now)), counted.nextCount (.minute tenantId (minute now))),
        counted.countUp (.minute tenantId (minute now)) minuteTtlSeconds) := by
  rw [QuotaRepository.hit, perform_bind, run_request, perform_bind, run_request,
    EnterpriseStore.exec_expire_incr, perform_bind, run_request, perform_bind, run_request,
    EnterpriseStore.exec_expire_incr, EnterpriseStore.exec_incr, EnterpriseStore.exec_incr]
  rfl

/-- **What a metered request does**: a caller that authenticates is counted, and answered by its
counts. -/
theorem run_metered (app : EnterpriseApp) (s : EnterpriseStore) (header : Option Text)
    (now : Time) :
    (app.metered header now).run (EnterpriseStore.exec app.order) s =
      match s.authenticated app.hashKey header with
      | .error e => (.error e, s)
      | .ok context =>
        let daily := CounterKey.daily context.tenantId (day now)
        let perMinute := CounterKey.minute context.tenantId (minute now)
        let counted := s.countUp daily dailyTtlSeconds
        (quotaVerdict app.dailyRequestQuota app.rateLimitPerMinute (s.nextCount daily)
          (counted.nextCount perMinute) context, counted.countUp perMinute minuteTtlSeconds) := by
  rw [EnterpriseApp.metered, run_bind, run_authenticate]
  cases s.authenticated app.hashKey header with
  | error e => rfl
  | ok context =>
    dsimp only
    rw [enforceQuota, run_bind, run_hit]
    rfl

end ProductIntelligence
