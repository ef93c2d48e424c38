import ProductIntelligence.Enterprise.Quota
import ProductIntelligence.Lists.FixedWindow

/-!
# The rate limit over time

Requests that arrive one after another are counted by clock minutes.  Of a tenant's requests in
a clock minute the first pass, as many as the rate limit and the daily quota leave room for;
what an interval of sixty seconds across the turn of a minute holds is bounded only by how far
apart the requests of the two minutes are.

## Main definitions

* `enforceAll`, `acceptedTimes` — the enforcement of a sequence of requests, and the times of a
  tenant's requests that it accepts.
* `allowance`, `eligible` — how many requests of a tenant a clock minute has room for, and their
  times.

## Main results

* `CountsRequests.countUp` — the counters keep counting the requests.
* `accepted_enforceAll_snoc` — one more request is accepted if it passes after the earlier ones.
* `accepted_in_minute` — in a clock minute the first requests are accepted.
* `slidingCeiling_acceptedTimes_iff` — **when the ceiling is sliding**: every interval of sixty
  seconds keeps to the rate limit exactly if the eligible requests of any two clock minutes that
  follow one another are apart.
* `length_within_acceptedTimes_le` — no such interval holds more than twice the rate limit.

## References

`backend/app/repositories/quota_repository.py`, `backend/app/dependencies/enterprise.py`,
`backend/app/core/settings.py`.
-/

namespace ProductIntelligence

open Effects FixedWindow

/-! ### Requests one after another -/

/-- The store when the server's clock shows a time. -/
def EnterpriseStore.setClock (s : EnterpriseStore) (time : Time) : EnterpriseStore :=
  { s with clock := time }

/-- The store, and the requests accepted so far, the latest last. -/
structure Enforced where
  store : EnterpriseStore
  accepted : List MeteredRequest

/-- Enforce the next request, which arrives when the server's clock shows its time. -/
def Enforced.enforce (order : SetOrder) (dailyQuota rateLimit : ℕ) (state : Enforced)
    (request : MeteredRequest) : Enforced :=
  let (answer, store) := (enforceQuota dailyQuota rateLimit request.now request.context).run
    (EnterpriseStore.exec order) (state.store.setClock request.now)
  match answer with
  | .ok _ => ⟨store, state.accepted ++ [request]⟩
  | .error _ => ⟨store, state.accepted⟩

/-- Enforce a sequence of requests. -/
def enforceAll (order : SetOrder) (dailyQuota rateLimit : ℕ) (store : EnterpriseStore)
    (requests : List MeteredRequest) : Enforced :=
  requests.foldl (Enforced.enforce order dailyQuota rateLimit) ⟨store, []⟩

/-- The times of a tenant's requests. -/
def timesOf (tenantId : UUID) (requests : List MeteredRequest) : List Time :=
  (requests.filter fun request => request.tenantId = tenantId).map MeteredRequest.now

/-- The times of a tenant's requests that are accepted. -/
def acceptedTimes (order : SetOrder) (dailyQuota rateLimit : ℕ) (store : EnterpriseStore)
    (requests : List MeteredRequest) (tenantId : UUID) : List Time :=
  timesOf tenantId (enforceAll order dailyQuota rateLimit store requests).accepted

/-! ### What the counters count -/

/-- The daily counter of a request. -/
def MeteredRequest.dailyKey (request : MeteredRequest) : CounterKey :=
  .daily request.tenantId (day request.now)

/-- The counter of a request's clock minute. -/
def MeteredRequest.minuteKey (request : MeteredRequest) : CounterKey :=
  .minute request.tenantId (minute request.now)

/-- The requests with the same daily counter. -/
def sameDay (request : MeteredRequest) (requests : List MeteredRequest) : ℕ :=
  requests.countP fun earlier => earlier.dailyKey = request.dailyKey

/-- The requests with the same minute counter. -/
def sameMinute (request : MeteredRequest) (requests : List MeteredRequest) : ℕ :=
  requests.countP fun earlier => earlier.minuteKey = request.minuteKey

/-- The counters have counted the requests, and will not forget them as long as it matters. -/
structure CountsRequests (store : EnterpriseStore) (requests : List MeteredRequest) : Prop where
  daily : ∀ next : MeteredRequest, (∀ request ∈ requests, request.now ≤ next.now) →
    (store.setClock next.now).nextCount next.dailyKey =
      sameDay next requests + 1
  perMinute : ∀ next : MeteredRequest, (∀ request ∈ requests, request.now ≤ next.now) →
    (store.setClock next.now).nextCount next.minuteKey =
      sameMinute next requests + 1

/-- A request passes after earlier ones. -/
def Passes (dailyQuota rateLimit : ℕ) (earlier : List MeteredRequest)
    (request : MeteredRequest) : Prop :=
  Within dailyQuota (sameDay request earlier + 1) ∧
    Within rateLimit (sameMinute request earlier + 1)

instance (dailyQuota rateLimit : ℕ) (earlier : List MeteredRequest) (request : MeteredRequest) :
    Decidable (Passes dailyQuota rateLimit earlier request) :=
  inferInstanceAs (Decidable (_ ∧ _))

/-- Requests with one daily counter are less than a day apart. -/
theorem lt_of_dailyKey_eq {request next : MeteredRequest} (h : next.dailyKey = request.dailyKey) :
    next.now < request.now + dailyTtlSeconds := by
  have hday : day next.now = day request.now := (CounterKey.daily.inj h).2
  have hend := (day_eq_iff.1 hday).2
  have hbegin := (day_eq_iff.1 (rfl : day request.now = day request.now)).1
  unfold dailyTtlSeconds
  linarith

/-- Requests with one minute counter are less than a minute apart. -/
theorem lt_of_minuteKey_eq {request next : MeteredRequest}
    (h : next.minuteKey = request.minuteKey) : next.now < request.now + minuteTtlSeconds := by
  have hminute : window 60 next.now = window 60 request.now := (CounterKey.minute.inj h).2
  have hend := ((window_eq_iff (by norm_num)).1 hminute).2
  have hbegin := ((window_eq_iff (by norm_num)).1
    (rfl : window 60 request.now = window 60 request.now)).1
  unfold minuteTtlSeconds
  linarith

namespace EnterpriseStore

variable {s : EnterpriseStore} {key key' : CounterKey} {seconds time : Time}

/-- A counter that was counted hands out one more before its time to live is over. -/
theorem nextCount_countUp_self (h : time < s.clock + seconds) :
    ((s.countUp key seconds).setClock time).nextCount key =
      s.nextCount key + 1 := by
  have hlive : (⟨s.nextCount key, some (s.clock + seconds)⟩ : Counter).live time = true :=
    decide_eq_true h
  have hcounter : ((s.countUp key seconds).setClock time).counter key =
      some ⟨s.nextCount key, some (s.clock + seconds)⟩ :=
    counter_update_self (s := s.setClock time) hlive
  rw [nextCount, hcounter]
  rfl

/-- Counting one counter changes no other. -/
theorem nextCount_countUp_of_ne (h : key' ≠ key) :
    ((s.countUp key seconds).setClock time).nextCount key' =
      (s.setClock time).nextCount key' := by
  have hcounter : ((s.countUp key seconds).setClock time).counter key' =
      (s.setClock time).counter key' :=
    counter_update_of_ne (s := s.setClock time) h _
  rw [nextCount, hcounter]
  rfl

end EnterpriseStore

/-! ### One request after another -/

section Enforcement

variable {order : SetOrder} {dailyQuota rateLimit : ℕ} {store : EnterpriseStore}
  {requests : List MeteredRequest} {request next : MeteredRequest}

/-- Requests in order: the last comes after the others. -/
theorem now_le_of_sorted
    (hsorted : (requests ++ [request]).Pairwise fun request next => request.now ≤ next.now) :
    (requests.Pairwise fun request next => request.now ≤ next.now) ∧
      ∀ earlier ∈ requests, earlier.now ≤ request.now := by
  obtain ⟨hbefore, -, hlast⟩ := List.pairwise_append.1 hsorted
  exact ⟨hbefore, fun earlier hearlier => hlast earlier hearlier request
    (List.mem_singleton_self request)⟩

/-- Before anything is counted, nothing has been. -/
theorem CountsRequests.fresh (h : ∀ key, store.counters key = none) :
    CountsRequests store [] := by
  have hnext : ∀ (time : Time) key,
      (store.setClock time).nextCount key = 1 := by
    intro time key
    have hcounter : (store.setClock time).counters key = none := h key
    unfold EnterpriseStore.nextCount EnterpriseStore.counter
    rw [hcounter]
    rfl
  exact ⟨fun next _ => hnext next.now _, fun next _ => hnext next.now _⟩

/-- Counting a request for the day leaves its minute as it was. -/
theorem nextCount_minuteKey_of_counts (h : CountsRequests store requests)
    (hlast : ∀ earlier ∈ requests, earlier.now ≤ request.now) :
    ((store.setClock request.now).countUp request.dailyKey dailyTtlSeconds).nextCount
      request.minuteKey = sameMinute request requests + 1 := by
  rw [← h.perMinute request hlast]
  exact EnterpriseStore.nextCount_countUp_of_ne (s := store.setClock request.now)
    (by rintro ⟨⟩)

/-- What `hit` replies, and the store it leaves. -/
theorem run_hit_of_counts (h : CountsRequests store requests)
    (hlast : ∀ earlier ∈ requests, earlier.now ≤ request.now) :
    (QuotaRepository.hit request.tenantId request.now).run (EnterpriseStore.exec order)
        (store.setClock request.now) =
      ((sameDay request requests + 1, sameMinute request requests + 1),
        ((store.setClock request.now).countUp request.dailyKey dailyTtlSeconds).countUp
          request.minuteKey minuteTtlSeconds) := by
  rw [run_hit, ← h.daily request hlast, ← nextCount_minuteKey_of_counts h hlast]
  rfl

/-- **The counters keep counting the requests.** -/
theorem CountsRequests.countUp (h : CountsRequests store requests)
    (hlast : ∀ earlier ∈ requests, earlier.now ≤ request.now) :
    CountsRequests (((store.setClock request.now).countUp request.dailyKey
      dailyTtlSeconds).countUp request.minuteKey minuteTtlSeconds) (requests ++ [request]) := by
  have hbefore : ∀ next : MeteredRequest,
      (∀ earlier ∈ requests ++ [request], earlier.now ≤ next.now) →
        ∀ earlier ∈ requests, earlier.now ≤ next.now :=
    fun next hnext earlier hearlier => hnext earlier (List.mem_append_left _ hearlier)
  constructor
  · intro next hnext
    rw [EnterpriseStore.nextCount_countUp_of_ne (by rintro ⟨⟩), sameDay,
      List.countP_append, List.countP_singleton, add_right_comm]
    by_cases hkey : next.dailyKey = request.dailyKey
    · rw [if_pos (by simpa using hkey.symm), hkey,
        EnterpriseStore.nextCount_countUp_self (lt_of_dailyKey_eq hkey), h.daily request hlast]
      rfl
    · rw [if_neg (by simpa using Ne.symm hkey), EnterpriseStore.nextCount_countUp_of_ne hkey]
      exact h.daily next (hbefore next hnext)
  · intro next hnext
    rw [sameMinute, List.countP_append, List.countP_singleton, add_right_comm]
    by_cases hkey : next.minuteKey = request.minuteKey
    · rw [if_pos (by simpa using hkey.symm), hkey,
        EnterpriseStore.nextCount_countUp_self (lt_of_minuteKey_eq hkey),
        nextCount_minuteKey_of_counts h hlast]
      rfl
    · rw [if_neg (by simpa using Ne.symm hkey), EnterpriseStore.nextCount_countUp_of_ne hkey,
        EnterpriseStore.nextCount_countUp_of_ne (by rintro ⟨⟩)]
      exact h.perMinute next (hbefore next hnext)

/-- Enforcing a request accepts it if it passes after the earlier ones, and counts it. -/
theorem enforce_eq {state : Enforced} (h : CountsRequests state.store requests)
    (hlast : ∀ earlier ∈ requests, earlier.now ≤ request.now) :
    state.enforce order dailyQuota rateLimit request =
      ⟨((state.store.setClock request.now).countUp request.dailyKey dailyTtlSeconds).countUp
          request.minuteKey minuteTtlSeconds,
        state.accepted ++
          if Passes dailyQuota rateLimit requests request then [request] else []⟩ := by
  have hrun : (enforceQuota dailyQuota rateLimit request.now request.context).run
      (EnterpriseStore.exec order) (state.store.setClock request.now) =
      (quotaVerdict dailyQuota rateLimit (sameDay request requests + 1)
        (sameMinute request requests + 1) request.context,
        ((state.store.setClock request.now).countUp request.dailyKey dailyTtlSeconds).countUp
          request.minuteKey minuteTtlSeconds) := by
    rw [enforceQuota, Program.run_bind, ← MeteredRequest.tenantId, run_hit_of_counts h hlast]
    rfl
  rw [Enforced.enforce, hrun]
  dsimp only
  by_cases hpasses : Passes dailyQuota rateLimit requests request
  · have hok : quotaVerdict dailyQuota rateLimit (sameDay request requests + 1)
        (sameMinute request requests + 1) request.context = .ok request.context :=
      quotaVerdict_eq_ok.2 ⟨rfl, hpasses⟩
    rw [hok, if_pos hpasses]
  · rw [if_neg hpasses, List.append_nil]
    split
    · rename_i answer hok
      exact absurd (quotaVerdict_eq_ok.1 hok).2 hpasses
    · rfl

/-- Enforcing the requests in order keeps the counters counting. -/
theorem counts_enforceAll (hfresh : ∀ key, store.counters key = none)
    (hsorted : requests.Pairwise fun request next => request.now ≤ next.now) :
    CountsRequests (enforceAll order dailyQuota rateLimit store requests).store requests := by
  induction requests using List.reverseRecOn with
  | nil => exact .fresh hfresh
  | append_singleton requests request ih =>
    obtain ⟨hbefore, hle⟩ := now_le_of_sorted hsorted
    have hcounts := ih hbefore
    rw [enforceAll, List.foldl_concat, ← enforceAll, enforce_eq hcounts hle]
    exact hcounts.countUp hle

/-- **One more request** is accepted exactly if it passes after the earlier ones. -/
theorem accepted_enforceAll_snoc (hfresh : ∀ key, store.counters key = none)
    (hsorted : (requests ++ [request]).Pairwise fun request next => request.now ≤ next.now) :
    (enforceAll order dailyQuota rateLimit store (requests ++ [request])).accepted =
      (enforceAll order dailyQuota rateLimit store requests).accepted ++
        if Passes dailyQuota rateLimit requests request then [request] else [] := by
  obtain ⟨hbefore, hle⟩ := now_le_of_sorted hsorted
  rw [enforceAll, List.foldl_concat, ← enforceAll,
    enforce_eq (counts_enforceAll hfresh hbefore) hle]

end Enforcement

/-! ### The requests of a clock minute -/

/-- A UTC day has 1440 clock minutes. -/
theorem day_eq_minute_div (now : Time) : day now = minute now / 1440 := by
  have hdiv := Int.floor_div_natCast (now / 60) 1440
  unfold day minute
  rw [← Nat.cast_ofNat (R := ℤ) (n := 1440), ← hdiv, div_div]
  norm_num

/-- Clock minutes follow the clock. -/
theorem minute_mono {now now' : Time} (h : now ≤ now') : minute now ≤ minute now' :=
  Int.floor_le_floor (div_le_div_of_nonneg_right h (by norm_num))

section Minute

variable (dailyQuota rateLimit : ℕ) (tenantId : UUID) (m : ℤ) (requests : List MeteredRequest)

/-- The requests of a tenant in a clock minute. -/
def requestsIn : List MeteredRequest :=
  requests.filter fun request => request.minuteKey = .minute tenantId m

/-- The requests of a tenant in the earlier clock minutes of the same day. -/
def earlierInDay : ℕ :=
  requests.countP fun request =>
    request.tenantId = tenantId ∧ day request.now = m / 1440 ∧ minute request.now < m

/-- How many requests of a tenant a clock minute has room for: the rate limit, or less if the
earlier minutes of the day leave less of the daily quota. -/
def allowance : ℕ :=
  if dailyQuota = 0 then rateLimit
  else min rateLimit (dailyQuota - earlierInDay tenantId m requests)

/-- The times of a tenant's requests in a clock minute that it has room for. -/
def eligible : List Time :=
  ((requestsIn tenantId m requests).take (allowance dailyQuota rateLimit tenantId m requests)).map
    MeteredRequest.now

end Minute

section Minute

variable {order : SetOrder} {dailyQuota rateLimit : ℕ} {store : EnterpriseStore}
  {requests : List MeteredRequest} {request : MeteredRequest} {tenantId : UUID} {m : ℤ}

/-- The earlier requests of the day came in earlier minutes or in the same one. -/
theorem sameDay_eq (hlast : ∀ earlier ∈ requests, earlier.now ≤ request.now)
    (hkey : request.minuteKey = .minute tenantId m) :
    sameDay request requests =
      earlierInDay tenantId m requests + (requestsIn tenantId m requests).length := by
  obtain ⟨rfl, rfl⟩ := CounterKey.minute.inj hkey
  unfold sameDay earlierInDay requestsIn
  rw [← List.countP_eq_length_filter]
  refine countP_eq_add (fun earlier hearlier => ?_) fun earlier _ hbefore hsame => ?_
  · have hle := minute_mono (hlast earlier hearlier)
    have hday := day_eq_minute_div earlier.now
    have hday' := day_eq_minute_div request.now
    simp only [MeteredRequest.dailyKey, MeteredRequest.minuteKey, CounterKey.daily.injEq,
      CounterKey.minute.injEq, decide_eq_true_eq]
    constructor
    · rintro ⟨htenant, heq⟩
      rcases hle.lt_or_eq with hlt | hminute
      · exact .inl ⟨htenant, heq.trans hday', hlt⟩
      · exact .inr ⟨htenant, hminute⟩
    · rintro (⟨htenant, heq, -⟩ | ⟨htenant, hminute⟩)
      · exact ⟨htenant, heq.trans hday'.symm⟩
      · exact ⟨htenant, by rw [hday, hday', hminute]⟩
  · simp only [MeteredRequest.minuteKey, CounterKey.minute.injEq, decide_eq_true_eq]
      at hbefore hsame
    exact hbefore.2.2.ne hsame.2

/-- A request passes while its clock minute has room. -/
theorem passes_iff (hrate : 0 < rateLimit)
    (hlast : ∀ earlier ∈ requests, earlier.now ≤ request.now)
    (hkey : request.minuteKey = .minute tenantId m) :
    Passes dailyQuota rateLimit requests request ↔
      (requestsIn tenantId m requests).length <
        allowance dailyQuota rateLimit tenantId m requests := by
  have hday := sameDay_eq hlast hkey
  have hminute : sameMinute request requests = (requestsIn tenantId m requests).length := by
    rw [sameMinute, hkey, List.countP_eq_length_filter]
    rfl
  unfold Passes Within allowance
  rw [hday, hminute]
  split <;> omega

/-- One more request belongs to the clock minute or not. -/
theorem requestsIn_snoc (tenantId : UUID) (m : ℤ) (requests : List MeteredRequest)
    (request : MeteredRequest) :
    requestsIn tenantId m (requests ++ [request]) = requestsIn tenantId m requests ++
      if request.minuteKey = .minute tenantId m then [request] else [] := by
  unfold requestsIn
  rw [List.filter_append, List.filter_singleton]
  by_cases hkey : request.minuteKey = .minute tenantId m
  · rw [if_pos hkey, decide_eq_true hkey, cond_true]
  · rw [if_neg hkey, decide_eq_false hkey, cond_false]

/-- A request that is not in an earlier clock minute takes no room. -/
theorem allowance_snoc (h : m ≤ minute request.now) :
    allowance dailyQuota rateLimit tenantId m (requests ++ [request]) =
      allowance dailyQuota rateLimit tenantId m requests := by
  have hnot : ¬ (request.tenantId = tenantId ∧ day request.now = m / 1440 ∧
      minute request.now < m) := fun hearlier => h.not_gt hearlier.2.2
  have hearlier : earlierInDay tenantId m (requests ++ [request]) =
      earlierInDay tenantId m requests := by
    rw [earlierInDay, List.countP_append, List.countP_singleton, if_neg (by simpa using hnot)]
    rfl
  rw [allowance, hearlier]
  rfl

/-- The first request of an earlier clock minute finds no request of a later one. -/
theorem requestsIn_eq_nil (hlast : ∀ earlier ∈ requests, earlier.now ≤ request.now)
    (h : minute request.now < m) : requestsIn tenantId m requests = [] := by
  refine List.filter_eq_nil_iff.2 fun earlier hearlier hkey => ?_
  have hminute : minute earlier.now = m := (CounterKey.minute.inj (of_decide_eq_true hkey)).2
  have hle := minute_mono (hlast earlier hearlier)
  omega

/-- **In a clock minute the first requests are accepted**, as many as it has room for. -/
theorem accepted_in_minute (hrate : 0 < rateLimit) (hfresh : ∀ key, store.counters key = none)
    (hsorted : requests.Pairwise fun request next => request.now ≤ next.now)
    (tenantId : UUID) (m : ℤ) :
    requestsIn tenantId m (enforceAll order dailyQuota rateLimit store requests).accepted =
      (requestsIn tenantId m requests).take
        (allowance dailyQuota rateLimit tenantId m requests) := by
  induction requests using List.reverseRecOn with
  | nil => exact List.take_nil.symm
  | append_singleton requests request ih =>
    obtain ⟨hbefore, hle⟩ := now_le_of_sorted hsorted
    rw [accepted_enforceAll_snoc hfresh hsorted]
    by_cases hkey : request.minuteKey = .minute tenantId m
    · -- the request is the next of this minute
      have hminute : m ≤ minute request.now := (CounterKey.minute.inj hkey).2.ge
      have hpasses : Passes dailyQuota rateLimit requests request ↔
          (requestsIn tenantId m requests).length <
            allowance dailyQuota rateLimit tenantId m requests := passes_iff hrate hle hkey
      rw [allowance_snoc hminute, requestsIn_snoc, if_pos hkey, List.take_append, ← ih hbefore]
      by_cases hroom : Passes dailyQuota rateLimit requests request
      · have hone : 1 ≤ allowance dailyQuota rateLimit tenantId m requests -
            (requestsIn tenantId m requests).length := Nat.sub_pos_of_lt (hpasses.1 hroom)
        rw [if_pos hroom, requestsIn_snoc, if_pos hkey,
          List.take_of_length_le (l := [request]) hone]
      · have hnone : allowance dailyQuota rateLimit tenantId m requests -
            (requestsIn tenantId m requests).length = 0 :=
          Nat.sub_eq_zero_of_le (not_lt.1 (mt hpasses.2 hroom))
        rw [if_neg hroom, hnone, List.take_zero, List.append_nil, List.append_nil]
    · -- it is a request of another minute or tenant
      have hsame : requestsIn tenantId m
          ((enforceAll order dailyQuota rateLimit store requests).accepted ++
            if Passes dailyQuota rateLimit requests request then [request] else []) =
          requestsIn tenantId m
            (enforceAll order dailyQuota rateLimit store requests).accepted := by
        split
        · rw [requestsIn_snoc, if_neg hkey, List.append_nil]
        · rw [List.append_nil]
      rw [hsame, ih hbefore, requestsIn_snoc, if_neg hkey, List.append_nil]
      rcases lt_or_ge (minute request.now) m with hearlier | hlater
      · rw [requestsIn_eq_nil hle hearlier, List.take_nil, List.take_nil]
      · rw [allowance_snoc hlater]

end Minute

/-! ### The ceiling -/

section Ceiling

variable (order : SetOrder) (dailyQuota : ℕ) {rateLimit : ℕ} {store : EnterpriseStore}
  {requests : List MeteredRequest}

/-- The times of a tenant in a window of sixty seconds are those in the clock minute. -/
theorem inWindow_timesOf (tenantId : UUID) (m : ℤ) (requests : List MeteredRequest) :
    inWindow 60 m (timesOf tenantId requests) =
      (requestsIn tenantId m requests).map MeteredRequest.now := by
  unfold inWindow timesOf requestsIn
  rw [List.filter_map, List.filter_filter]
  congr 1
  refine List.filter_congr fun request _ => ?_
  simp only [Function.comp_apply, MeteredRequest.minuteKey, CounterKey.minute.injEq,
    Bool.decide_and]
  exact Bool.and_comm _ _

/-- What is accepted in a clock minute is what was eligible. -/
theorem inWindow_acceptedTimes (hrate : 0 < rateLimit)
    (hfresh : ∀ key, store.counters key = none)
    (hsorted : requests.Pairwise fun request next => request.now ≤ next.now)
    (tenantId : UUID) (m : ℤ) :
    inWindow 60 m (acceptedTimes order dailyQuota rateLimit store requests tenantId) =
      eligible dailyQuota rateLimit tenantId m requests := by
  rw [acceptedTimes, inWindow_timesOf, accepted_in_minute hrate hfresh hsorted, eligible]

/-- A clock minute has room for no more requests than the rate limit. -/
theorem length_eligible_le (dailyQuota rateLimit : ℕ) (tenantId : UUID) (m : ℤ)
    (requests : List MeteredRequest) :
    (eligible dailyQuota rateLimit tenantId m requests).length ≤ rateLimit := by
  have hallowance : allowance dailyQuota rateLimit tenantId m requests ≤ rateLimit := by
    unfold allowance
    split <;> omega
  unfold eligible
  rw [List.length_map]
  exact (List.length_take_le _ _).trans hallowance

/-- The accepted requests are some of the requests, in their order. -/
theorem accepted_sublist (hfresh : ∀ key, store.counters key = none)
    (hsorted : requests.Pairwise fun request next => request.now ≤ next.now) :
    (enforceAll order dailyQuota rateLimit store requests).accepted.Sublist requests := by
  induction requests using List.reverseRecOn with
  | nil => exact List.Sublist.refl []
  | append_singleton requests request ih =>
    rw [accepted_enforceAll_snoc hfresh hsorted]
    refine (ih (now_le_of_sorted hsorted).1).append ?_
    split
    · exact List.Sublist.refl _
    · exact List.nil_sublist _

/-- Requests are accepted in the order of their times. -/
theorem pairwise_acceptedTimes (hfresh : ∀ key, store.counters key = none)
    (hsorted : requests.Pairwise fun request next => request.now ≤ next.now) (tenantId : UUID) :
    (acceptedTimes order dailyQuota rateLimit store requests tenantId).Pairwise (· ≤ ·) := by
  have hsome : (enforceAll order dailyQuota rateLimit store requests).accepted.Sublist requests :=
    accepted_sublist order dailyQuota hfresh hsorted
  exact ((hsorted.sublist hsome).sublist List.filter_sublist).map _ fun _ _ hle => hle

/-- **No interval of sixty seconds holds more than twice the rate limit.** -/
theorem length_within_acceptedTimes_le (hrate : 0 < rateLimit)
    (hfresh : ∀ key, store.counters key = none)
    (hsorted : requests.Pairwise fun request next => request.now ≤ next.now)
    (tenantId : UUID) (start : Time) :
    (within 60 start (acceptedTimes order dailyQuota rateLimit store requests tenantId)).length ≤
      2 * rateLimit := by
  refine length_within_le_two_mul (by norm_num) (fun m => ?_) start
  rw [inWindow_acceptedTimes order dailyQuota hrate hfresh hsorted]
  exact length_eligible_le dailyQuota rateLimit tenantId m requests

/-- **When the ceiling is sliding**: for requests that arrive in order, at a store that has
counted none yet, every interval of sixty seconds holds at most as many accepted requests of a
tenant as the rate limit says exactly if the eligible requests of any two clock minutes that
follow one another are apart. -/
theorem slidingCeiling_acceptedTimes_iff (hrate : 0 < rateLimit)
    (hfresh : ∀ key, store.counters key = none)
    (hsorted : requests.Pairwise fun request next => request.now ≤ next.now)
    (tenantId : UUID) :
    SlidingCeiling 60 rateLimit
        (acceptedTimes order dailyQuota rateLimit store requests tenantId) ↔
      ∀ m, Apart 60 rateLimit (eligible dailyQuota rateLimit tenantId m requests)
        (eligible dailyQuota rateLimit tenantId (m + 1) requests) := by
  have hminutes := inWindow_acceptedTimes order dailyQuota hrate hfresh hsorted tenantId
  rw [slidingCeiling_iff (by norm_num) (pairwise_acceptedTimes order dailyQuota hfresh hsorted
    tenantId) fun m => (hminutes m).symm ▸ length_eligible_le dailyQuota rateLimit tenantId m
      requests]
  simp only [hminutes]

end Ceiling

/-- Requests of tenant 7 in the last second of a minute and in the first of the next. -/
def acrossTheMinute : List MeteredRequest :=
  [59, 59, 60, 60].map fun now => ⟨⟨0, 7, .owner, 0, []⟩, now⟩

/-- The rule at requests across the turn of a minute, which are not apart. -/
theorem across_the_minute_not_sliding :
    ¬ SlidingCeiling 60 2 (acceptedTimes .insertion 10000 2 .empty acrossTheMinute 7) := by
  rw [slidingCeiling_acceptedTimes_iff .insertion 10000 (by norm_num) (fun _ => rfl)
    (by decide +kernel)]
  intro hall
  have hle : (59 : Time) + 60 ≤ 60 :=
    hall 0 0 59 (by decide +kernel) 60 (by decide +kernel)
  norm_num at hle

/-- **The ceiling is not sliding**: of a rate limit of two, four requests pass within a second. -/
theorem ceiling_not_sliding :
    acceptedTimes .insertion 10000 2 .empty acrossTheMinute 7 = [59, 59, 60, 60] ∧
      ¬ SlidingCeiling 60 2 (acceptedTimes .insertion 10000 2 .empty acrossTheMinute 7) := by
  have haccepted : acceptedTimes .insertion 10000 2 .empty acrossTheMinute 7 =
      [59, 59, 60, 60] := by decide +kernel
  refine ⟨haccepted, fun hceiling => ?_⟩
  have hfour : (within (60 : Time) 59 [59, 59, 60, 60]).length = 4 := by decide +kernel
  have htwo := hceiling 59
  rw [haccepted, hfour] at htwo
  omega

end ProductIntelligence
