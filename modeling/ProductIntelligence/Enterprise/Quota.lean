import Mathlib.Data.List.Perm.Subperm
import ProductIntelligence.Enterprise.Enforcement
import ProductIntelligence.Logic.Interleaving

/-!
# The daily quota under concurrency

Any number of requests of any tenants are enforced at once, command by command, within one UTC
day and without a rate limit.  The daily counter of a tenant hands out the numbers 1, 2, 3, …
to the tenant's requests in the order of their `INCR`s, whatever else goes on; a request is
answered by its own number.  Requests may be abandoned half way.

## Main definitions

* `quotaMachine` — the system: requests that are enforced on one store, whose clock moves.
* `metering` — the discipline of a request: it is counted once, for its tenant and day.
* `Accounted` — what the log says of one client's requests for one tenant, against the request it
  is in.
* `QuotaExact` — the daily quota is exact for a tenant.

## Main results

* `Metered.step` — the invariant is kept by every step within the day.
* `daily_quota_exact` — **the daily quota is exact** in every run within one day.

## References

`backend/app/repositories/quota_repository.py`, `backend/app/dependencies/enterprise.py`.
-/

namespace ProductIntelligence

open Effects

variable {ι : Type}

/-! ### The system -/

/-- A request that is enforced: who sends it, and when it is read off the clock. -/
structure MeteredRequest where
  context : AuthContext
  now : Time

/-- The tenant a request is counted for. -/
def MeteredRequest.tenantId (request : MeteredRequest) : UUID := request.context.tenantId

/-- A state of the requests and their store. -/
abbrev QuotaConfig (ι : Type) :=
  Config EnterpriseStore.Reply EnterpriseStore ι MeteredRequest (Answer AuthContext)

/-- A move: a request begins, issues its next command or is abandoned, or the clock moves. -/
abbrev QuotaLabel (ι : Type) := Label ι MeteredRequest Time

/-- What the log records. -/
abbrev QuotaEvent (ι : Type) :=
  Event EnterpriseStore.Reply ι MeteredRequest (Answer AuthContext)

/-- Requests enforced on one store, under the given limits. -/
def quotaMachine (order : SetOrder) (dailyQuota rateLimit : ℕ) :
    Machine EnterpriseStore.Reply EnterpriseStore MeteredRequest (Answer AuthContext) Time where
  handler := EnterpriseStore.exec order
  body request := enforceQuota dailyQuota rateLimit request.now request.context
  env time store := if store.clock ≤ time then some { store with clock := time } else none

/-- No request has begun. -/
def QuotaConfig.init (store : EnterpriseStore) : QuotaConfig ι := ⟨store, fun _ => none, []⟩

/-- Requests are stamped, and the clock moves, within one UTC day. -/
def WithinDay (today : ℤ) : QuotaConfig ι → QuotaLabel ι → Prop
  | _, .start _ request => day request.now = today
  | _, .env time => day time = today
  | _, _ => True

/-! ### What the log says -/

/-- The count passes the daily quota; a quota of zero is off. -/
def Within (dailyQuota count : ℕ) : Prop := dailyQuota = 0 ∨ count ≤ dailyQuota

instance (dailyQuota count : ℕ) : Decidable (Within dailyQuota count) :=
  inferInstanceAs (Decidable (_ ∨ _))

section Events

variable (dailyQuota : ℕ) (tenantId : UUID)

/-- The client that begins a request of the tenant. -/
def startedBy : QuotaEvent ι → Option ι
  | .started i request => if request.tenantId = tenantId then some i else none
  | _ => none

/-- The client whose request reaches the daily counter of the tenant. -/
def countedBy : QuotaEvent ι → Option ι
  | .ran i _ ⟨.incr (.daily t _), _⟩ => if t = tenantId then some i else none
  | _ => none

/-- The number that the daily counter of the tenant hands out. -/
def dailyCount : QuotaEvent ι → Option ℕ
  | .ran _ _ ⟨.incr (.daily t _), count⟩ => if t = tenantId then some count else none
  | _ => none

/-- The client whose request is handed a number that passes. -/
def admittedBy : QuotaEvent ι → Option ι
  | .ran i _ ⟨.incr (.daily t _), count⟩ =>
    if t = tenantId ∧ Within dailyQuota count then some i else none
  | _ => none

/-- The client whose request of the tenant is answered. -/
def returnedBy : QuotaEvent ι → Option ι
  | .returned i request _ => if request.tenantId = tenantId then some i else none
  | _ => none

/-- The client whose request of the tenant passes. -/
def passedBy : QuotaEvent ι → Option ι
  | .returned i request (.ok _) => if request.tenantId = tenantId then some i else none
  | _ => none

end Events

/-- The number handed last to a request of the client. -/
def ownCount [DecidableEq ι] (i : ι) : List (QuotaEvent ι) → Option ℕ
  | [] => none
  | .ran j _ ⟨.incr (.daily _ _), count⟩ :: log => if j = i then some count else ownCount i log
  | _ :: log => ownCount i log

/-- Every answered request was answered by its own number. -/
def AnsweredByOwnCount [DecidableEq ι] (dailyQuota : ℕ) (log : List (QuotaEvent ι)) : Prop :=
  ∀ newer i request answer older, log = newer ++ .returned i request answer :: older →
    ∃ count, ownCount i older = some count ∧
      answer = if Within dailyQuota count then .ok request.context
        else .error (dailyQuotaExceeded dailyQuota)

/-! ### The discipline of a request -/

/-- The tenant of a request, and the number it was handed. -/
structure Metering where
  tenantId : UUID
  count : Option ℕ

/-- What a request begins with. -/
def Metering.init (request : MeteredRequest) : Metering := ⟨request.tenantId, none⟩

/-- **The metering discipline**: a request is counted once for the day, for its own tenant, and
touches no daily counter otherwise than to give it its time to live. -/
def metering (today : ℤ) : Discipline EnterpriseStore.Reply Metering where
  allows g
    | .incr (.daily t d) => t = g.tenantId ∧ d = today ∧ g.count = none
    | .expire (.daily _ _) seconds => seconds = dailyTtlSeconds
    | .incr (.minute _ _) => True
    | .expire (.minute _ _) _ => True
    | _ => False
  expects _ _ _ := True
  next g
    | .incr (.daily _ _), count => { g with count := some count }
    | _, _ => g

/-- A request is answered by the number it was handed. -/
def answeredByCount (dailyQuota : ℕ) (request : MeteredRequest) (answer : Answer AuthContext)
    (g : Metering) : Prop :=
  ∃ count, g.count = some count ∧
    answer = if Within dailyQuota count then .ok request.context
      else .error (dailyQuotaExceeded dailyQuota)

/-- Without a rate limit only the daily count decides. -/
theorem quotaVerdict_zero (dailyQuota daily perMinute : ℕ) (context : AuthContext) :
    quotaVerdict dailyQuota 0 daily perMinute context =
      if Within dailyQuota daily then .ok context else .error (dailyQuotaExceeded dailyQuota) := by
  unfold quotaVerdict
  by_cases hdaily : Within dailyQuota daily
  · have hwithin : dailyQuota = 0 ∨ daily ≤ dailyQuota := hdaily
    rw [if_neg (by omega), if_neg (by omega), if_pos hdaily]
  · have hbeyond : ¬ (dailyQuota = 0 ∨ daily ≤ dailyQuota) := hdaily
    rw [if_pos (by omega), if_neg hdaily]

/-- **Every request keeps to the discipline.** -/
theorem enforceQuota_obeys (dailyQuota : ℕ) {today : ℤ} {request : MeteredRequest}
    (h : day request.now = today) :
    (enforceQuota dailyQuota 0 request.now request.context).Obeys (metering today)
      (answeredByCount dailyQuota request) (Metering.init request) := by
  subst h
  unfold enforceQuota QuotaRepository.hit
  refine ⟨⟨rfl, rfl, rfl⟩, fun daily _ => ⟨rfl, fun _ _ => ⟨trivial, fun perMinute _ =>
    ⟨trivial, fun _ _ => ⟨daily, rfl, quotaVerdict_zero _ _ _ _⟩⟩⟩⟩⟩

/-- No exchange changes the tenant. -/
theorem tenantId_replay (today : ℤ) (g : Metering)
    (exchanges : List (Exchange EnterpriseStore.Reply)) :
    ((metering today).replay g exchanges).tenantId = g.tenantId := by
  induction exchanges with
  | nil => rfl
  | cons x xs ih =>
    obtain ⟨c, r⟩ := x
    have hnext : ∀ g' : Metering, ((metering today).next g' c r).tenantId = g'.tenantId := by
      intro g'
      unfold metering
      dsimp only
      split <;> rfl
    exact (hnext _).trans ih

/-! ### The counters of a day -/

/-- The time at which a UTC day ends. -/
def dayEnd (today : ℤ) : Time := (today + 1) * 86400

theorem day_eq_iff {now : Time} {today : ℤ} :
    day now = today ↔ dayEnd today - 86400 ≤ now ∧ now < dayEnd today := by
  unfold day dayEnd
  rw [Int.floor_eq_iff, le_div_iff₀ (by norm_num), div_lt_iff₀ (by norm_num), add_one_mul,
    add_sub_cancel_right]

/-- The daily counter of a tenant has counted `n` requests and lasts to the end of the day. -/
structure DayCounter (store : EnterpriseStore) (today : ℤ) (tenantId : UUID) (n : ℕ) : Prop where
  nextCount_eq : store.nextCount (.daily tenantId today) = n + 1
  lasts : ∀ counter ∈ store.counter (.daily tenantId today), ∀ deadline ∈ counter.expiresAt,
    dayEnd today ≤ deadline

namespace DayCounter

variable {store store' : EnterpriseStore} {today : ℤ} {tenantId : UUID} {n : ℕ}

/-- Only the counter matters. -/
theorem congr (h : DayCounter store today tenantId n)
    (hcounter : store'.counter (.daily tenantId today) =
      store.counter (.daily tenantId today)) : DayCounter store' today tenantId n := by
  constructor
  · rw [← h.nextCount_eq]
    unfold EnterpriseStore.nextCount
    rw [hcounter]
  · rw [hcounter]
    exact h.lasts

/-- A counter that is found is the one the next count is read off. -/
theorem of_counter {counter : Counter}
    (hcounter : store.counter (.daily tenantId today) = some counter) (hcount : counter.count = n)
    (hlasts : ∀ deadline ∈ counter.expiresAt, dayEnd today ≤ deadline) :
    DayCounter store today tenantId n := by
  constructor
  · unfold EnterpriseStore.nextCount
    rw [hcounter, Option.map_some, Option.getD_some, hcount]
  · intro found hfound
    rw [hcounter] at hfound
    cases hfound
    exact hlasts

end DayCounter

namespace EnterpriseStore

variable {s : EnterpriseStore} {key key' : CounterKey}

/-- A counter that is set and has not expired is found. -/
theorem counter_update_self {counter : Counter} (h : counter.live s.clock = true) :
    ({ s with counters := Function.update s.counters key (some counter) } :
      EnterpriseStore).counter key = some counter := by
  unfold EnterpriseStore.counter
  dsimp only
  rw [Function.update_self, Option.filter_some, if_pos h]

/-- Setting a counter changes no other. -/
theorem counter_update_of_ne (h : key' ≠ key) (counter : Option Counter) :
    ({ s with counters := Function.update s.counters key counter } :
      EnterpriseStore).counter key' = s.counter key' := by
  unfold EnterpriseStore.counter
  dsimp only
  rw [Function.update_of_ne h]

/-- Setting a counter to what is found under its key changes nothing that is found. -/
theorem counter_update_counter :
    ({ s with counters := Function.update s.counters key (s.counter key) } :
      EnterpriseStore).counter key = s.counter key := by
  unfold EnterpriseStore.counter
  dsimp only
  rw [Function.update_self, Option.filter_filter]
  congr 1
  funext counter
  exact Bool.and_self _

end EnterpriseStore

namespace DayCounter

variable {store : EnterpriseStore} {today : ℤ} {tenantId : UUID} {n : ℕ} (order : SetOrder)

/-- `INCR` hands out the next number and counts it. -/
theorem exec_incr (h : DayCounter store today tenantId n) :
    (EnterpriseStore.exec order (.incr (.daily tenantId today)) store).1 = n + 1 ∧
      DayCounter (EnterpriseStore.exec order (.incr (.daily tenantId today)) store).2 today
        tenantId (n + 1) := by
  rw [EnterpriseStore.exec_incr]
  refine ⟨h.nextCount_eq, of_counter
    (EnterpriseStore.counter_update_self (EnterpriseStore.live_nextCounter _))
    ((EnterpriseStore.count_nextCounter _).trans h.nextCount_eq) ?_⟩
  intro deadline hdeadline
  unfold EnterpriseStore.nextCounter at hdeadline
  cases hcounter : store.counter (.daily tenantId today) with
  | none =>
    rw [hcounter] at hdeadline
    cases hdeadline
  | some counter =>
    rw [hcounter] at hdeadline
    exact h.lasts counter hcounter deadline hdeadline

/-- Counting under another key changes nothing. -/
theorem exec_incr_of_ne (h : DayCounter store today tenantId n) {key : CounterKey}
    (hkey : CounterKey.daily tenantId today ≠ key) :
    DayCounter (EnterpriseStore.exec order (.incr key) store).2 today tenantId n := by
  rw [EnterpriseStore.exec_incr]
  exact h.congr (EnterpriseStore.counter_update_of_ne hkey _)

/-- The time to live of a daily counter reaches beyond the day. -/
theorem exec_expire_daily (h : DayCounter store today tenantId n)
    (hclock : day store.clock = today) :
    DayCounter (EnterpriseStore.exec order
      (.expire (.daily tenantId today) dailyTtlSeconds) store).2 today tenantId n := by
  have hend : dayEnd today ≤ store.clock + dailyTtlSeconds := by
    have hstart := (day_eq_iff.1 hclock).1
    unfold dailyTtlSeconds
    linarith
  unfold EnterpriseStore.exec
  dsimp only
  cases hcounter : store.counter (.daily tenantId today) with
  | none =>
    rw [Option.map_none, ← hcounter]
    exact h.congr EnterpriseStore.counter_update_counter
  | some counter =>
    have hlive : ({ counter with expiresAt := some (store.clock + dailyTtlSeconds) } :
        Counter).live store.clock = true := by
      unfold Counter.live
      exact decide_eq_true (lt_of_lt_of_le (day_eq_iff.1 hclock).2 hend)
    have hcount : counter.count = n := by
      have hnext := h.nextCount_eq
      unfold EnterpriseStore.nextCount at hnext
      rw [hcounter, Option.map_some, Option.getD_some] at hnext
      omega
    rw [Option.map_some]
    refine of_counter (EnterpriseStore.counter_update_self hlive) hcount ?_
    intro deadline hdeadline
    cases hdeadline
    exact hend

/-- The time to live of another counter changes nothing. -/
theorem exec_expire_of_ne (h : DayCounter store today tenantId n) {key : CounterKey}
    (hkey : CounterKey.daily tenantId today ≠ key) (seconds : Time) :
    DayCounter (EnterpriseStore.exec order (.expire key seconds) store).2 today tenantId n :=
  h.congr (EnterpriseStore.counter_update_of_ne hkey _)

/-- Within the day the clock changes nothing. -/
theorem tick (h : DayCounter store today tenantId n) {time : Time} (hle : store.clock ≤ time)
    (htime : day time = today) : DayCounter { store with clock := time } today tenantId n := by
  refine h.congr ?_
  have hlasts := h.lasts
  unfold EnterpriseStore.counter at hlasts ⊢
  dsimp only
  cases hcounter : store.counters (.daily tenantId today) with
  | none => rfl
  | some counter =>
    have hlive : counter.live time = counter.live store.clock := by
      by_cases hbefore : counter.live store.clock = true
      · rw [hbefore]
        -- what has not expired yet lasts to the end of the day
        rw [hcounter, Option.filter_some, if_pos hbefore] at hlasts
        unfold Counter.live
        cases hdeadline : counter.expiresAt with
        | none => rfl
        | some deadline =>
          exact decide_eq_true
            (lt_of_lt_of_le (day_eq_iff.1 htime).2 (hlasts counter rfl deadline hdeadline))
      · rw [eq_false_of_ne_true hbefore]
        unfold Counter.live at hbefore ⊢
        cases hdeadline : counter.expiresAt with
        | none =>
          rw [hdeadline] at hbefore
          exact absurd rfl hbefore
        | some deadline =>
          rw [hdeadline] at hbefore
          have hexpired : deadline ≤ store.clock := by simpa using hbefore
          exact decide_eq_false (not_lt.2 (hexpired.trans hle))
    rw [Option.filter_some, Option.filter_some, hlive]

end DayCounter

/-! ### Tallies of one client -/

variable [DecidableEq ι]

/-- Where a client is with a request of the tenant. -/
inductive Progress
  | idle
  | waiting
  | admitted
  | refused
  deriving DecidableEq

/-- A request that was handed no number waits; the number decides about the others. -/
def progress (today : ℤ) (dailyQuota : ℕ) (tenantId : UUID) :
    Option (Session EnterpriseStore.Reply MeteredRequest (Answer AuthContext)) → Progress
  | none => .idle
  | some s =>
    if s.op.tenantId = tenantId then
      match (s.ghost (metering today) Metering.init).count with
      | none => .waiting
      | some count => if Within dailyQuota count then .admitted else .refused
    else .idle

section Progress

variable {today : ℤ} {dailyQuota : ℕ} {tenantId : UUID}
  {s : Session EnterpriseStore.Reply MeteredRequest (Answer AuthContext)}

theorem progress_of_ne (htenant : s.op.tenantId ≠ tenantId) :
    progress today dailyQuota tenantId (some s) = .idle := if_neg htenant

theorem progress_of_none (htenant : s.op.tenantId = tenantId)
    (hcount : (s.ghost (metering today) Metering.init).count = none) :
    progress today dailyQuota tenantId (some s) = .waiting := by
  refine (if_pos htenant).trans ?_
  rw [hcount]

theorem progress_of_some (htenant : s.op.tenantId = tenantId) {count : ℕ}
    (hcount : (s.ghost (metering today) Metering.init).count = some count) :
    progress today dailyQuota tenantId (some s) =
      if Within dailyQuota count then .admitted else .refused := by
  refine (if_pos htenant).trans ?_
  rw [hcount]

end Progress

/-- How often the log names client `i` under a reading of its events. -/
def number (f : QuotaEvent ι → Option ι) (i : ι) (log : List (QuotaEvent ι)) : ℕ :=
  (log.filterMap f).count i

/-- What a client's numbers of started, counted, admitted, returned and passed requests keep to,
by where it is with the one it is in. -/
def Progress.Balanced (started counted admitted returned passed : ℕ) : Progress → Prop
  | .idle => returned ≤ counted ∧ counted ≤ started ∧ passed ≤ admitted ∧
      admitted + returned ≤ passed + started
  | .waiting => returned ≤ counted ∧ counted + 1 ≤ started ∧ passed ≤ admitted ∧
      admitted + returned + 1 ≤ passed + started
  | .admitted => returned + 1 ≤ counted ∧ counted ≤ started ∧ passed + 1 ≤ admitted ∧
      admitted + returned ≤ passed + started
  | .refused => returned + 1 ≤ counted ∧ counted ≤ started ∧ passed ≤ admitted ∧
      admitted + returned + 1 ≤ passed + started

/-- What the log says of a client's requests for a tenant. -/
def Accounted (dailyQuota : ℕ) (tenantId : UUID) (log : List (QuotaEvent ι)) (i : ι)
    (p : Progress) : Prop :=
  p.Balanced (number (startedBy tenantId) i log) (number (countedBy tenantId) i log)
    (number (admittedBy dailyQuota tenantId) i log) (number (returnedBy tenantId) i log)
    (number (passedBy tenantId) i log)

section Number

variable {f : QuotaEvent ι → Option ι} {i : ι} {e : QuotaEvent ι}

theorem number_cons_self (h : f e = some i) (log : List (QuotaEvent ι)) :
    number f i (e :: log) = number f i log + 1 := by
  unfold number
  rw [List.filterMap_cons_some h, List.count_cons_self]

theorem number_cons_of_ne (h : f e ≠ some i) (log : List (QuotaEvent ι)) :
    number f i (e :: log) = number f i log := by
  unfold number
  cases hf : f e with
  | none => rw [List.filterMap_cons_none hf]
  | some j =>
    have hne : j ≠ i := fun hij => h (hf.trans (congrArg some hij))
    rw [List.filterMap_cons_some hf, List.count_cons_of_ne hne]

/-- The client whose account with the tenant an event changes. -/
def concerns (tenantId : UUID) : QuotaEvent ι → Option ι
  | .started i request => if request.tenantId = tenantId then some i else none
  | .ran i _ ⟨.incr (.daily t _), _⟩ => if t = tenantId then some i else none
  | .returned i request _ => if request.tenantId = tenantId then some i else none
  | _ => none

/-- The client an event is about. -/
def eventClient : QuotaEvent ι → ι
  | .started i _ => i
  | .ran i _ _ => i
  | .returned i _ _ => i

variable {dailyQuota : ℕ} {tenantId : UUID}

omit [DecidableEq ι] in
/-- An event concerns no client but its own. -/
theorem concerns_ne_of_client (h : eventClient e ≠ i) : concerns tenantId e ≠ some i := by
  intro hconcerns
  unfold concerns at hconcerns
  split at hconcerns
  · split at hconcerns
    · exact h (Option.some.inj hconcerns)
    · cases hconcerns
  · split at hconcerns
    · exact h (Option.some.inj hconcerns)
    · cases hconcerns
  · split at hconcerns
    · exact h (Option.some.inj hconcerns)
    · cases hconcerns
  · cases hconcerns

omit [DecidableEq ι] in
/-- An event about another tenant concerns nobody. -/
theorem concerns_ne_of_none (h : concerns tenantId e = none) : concerns tenantId e ≠ some i := by
  rw [h]
  rintro ⟨⟩

omit [DecidableEq ι] in
theorem concerns_of_startedBy (h : startedBy tenantId e = some i) :
    concerns tenantId e = some i := by
  unfold startedBy at h
  split at h
  · exact h
  · cases h

omit [DecidableEq ι] in
theorem concerns_of_countedBy (h : countedBy tenantId e = some i) :
    concerns tenantId e = some i := by
  unfold countedBy at h
  split at h
  · exact h
  · cases h

omit [DecidableEq ι] in
theorem concerns_of_admittedBy (h : admittedBy dailyQuota tenantId e = some i) :
    concerns tenantId e = some i := by
  unfold admittedBy at h
  split at h
  · split at h
    · rename_i hadmitted
      exact (if_pos hadmitted.1).trans h
    · cases h
  · cases h

omit [DecidableEq ι] in
theorem concerns_of_returnedBy (h : returnedBy tenantId e = some i) :
    concerns tenantId e = some i := by
  unfold returnedBy at h
  split at h
  · exact h
  · cases h

omit [DecidableEq ι] in
theorem concerns_of_passedBy (h : passedBy tenantId e = some i) :
    concerns tenantId e = some i := by
  unfold passedBy at h
  split at h
  · exact h
  · cases h

end Number

namespace Accounted

variable {dailyQuota : ℕ} {tenantId : UUID} {log : List (QuotaEvent ι)} {i : ι} {p : Progress}

/-- An event that does not concern the client changes nothing. -/
theorem silent (h : Accounted dailyQuota tenantId log i p) {e : QuotaEvent ι}
    (he : concerns tenantId e ≠ some i) : Accounted dailyQuota tenantId (e :: log) i p := by
  have hstarted : startedBy tenantId e ≠ some i := fun hf => he (concerns_of_startedBy hf)
  have hcounted : countedBy tenantId e ≠ some i := fun hf => he (concerns_of_countedBy hf)
  have hadmitted : admittedBy dailyQuota tenantId e ≠ some i :=
    fun hf => he (concerns_of_admittedBy hf)
  have hreturned : returnedBy tenantId e ≠ some i := fun hf => he (concerns_of_returnedBy hf)
  have hpassed : passedBy tenantId e ≠ some i := fun hf => he (concerns_of_passedBy hf)
  unfold Accounted
  rwa [number_cons_of_ne hstarted, number_cons_of_ne hcounted, number_cons_of_ne hadmitted,
    number_cons_of_ne hreturned, number_cons_of_ne hpassed]

/-- A request that is abandoned, or none. -/
theorem idle (h : Accounted dailyQuota tenantId log i p) :
    Accounted dailyQuota tenantId log i .idle := by
  unfold Accounted at h ⊢
  cases p with
  | idle => exact h
  | waiting | admitted | refused =>
    simp only [Progress.Balanced] at h ⊢
    omega

/-- A request begins. -/
theorem start (h : Accounted dailyQuota tenantId log i .idle) {request : MeteredRequest}
    (htenant : request.tenantId = tenantId) :
    Accounted dailyQuota tenantId (.started i request :: log) i .waiting := by
  have hstarted : startedBy tenantId (.started i request : QuotaEvent ι) = some i :=
    if_pos htenant
  unfold Accounted at h ⊢
  rw [number_cons_self hstarted, number_cons_of_ne (by rintro ⟨⟩),
    number_cons_of_ne (by rintro ⟨⟩), number_cons_of_ne (by rintro ⟨⟩),
    number_cons_of_ne (by rintro ⟨⟩)]
  simp only [Progress.Balanced] at h ⊢
  omega

/-- A request reaches the daily counter, and its number decides. -/
theorem counted (h : Accounted dailyQuota tenantId log i .waiting) (request : MeteredRequest)
    (today : ℤ) (count : ℕ) :
    Accounted dailyQuota tenantId (.ran i request ⟨.incr (.daily tenantId today), count⟩ :: log) i
      (if Within dailyQuota count then .admitted else .refused) := by
  have hcounted : countedBy tenantId
      (.ran i request ⟨.incr (.daily tenantId today), count⟩ : QuotaEvent ι) = some i :=
    if_pos rfl
  have hadmitted : admittedBy dailyQuota tenantId
      (.ran i request ⟨.incr (.daily tenantId today), count⟩ : QuotaEvent ι) =
      if tenantId = tenantId ∧ Within dailyQuota count then some i else none := rfl
  unfold Accounted at h ⊢
  rw [number_cons_of_ne (by rintro ⟨⟩), number_cons_self hcounted]
  by_cases hwithin : Within dailyQuota count
  · rw [if_pos ⟨rfl, hwithin⟩] at hadmitted
    rw [if_pos hwithin, number_cons_self hadmitted, number_cons_of_ne (by rintro ⟨⟩),
      number_cons_of_ne (by rintro ⟨⟩)]
    simp only [Progress.Balanced] at h ⊢
    omega
  · rw [if_neg fun hboth => hwithin hboth.2] at hadmitted
    rw [if_neg hwithin, number_cons_of_ne (by rw [hadmitted]; rintro ⟨⟩),
      number_cons_of_ne (by rintro ⟨⟩), number_cons_of_ne (by rintro ⟨⟩)]
    simp only [Progress.Balanced] at h ⊢
    omega

/-- An admitted request passes. -/
theorem passed (h : Accounted dailyQuota tenantId log i .admitted) {request : MeteredRequest}
    (htenant : request.tenantId = tenantId) (context : AuthContext) :
    Accounted dailyQuota tenantId (.returned i request (.ok context) :: log) i .idle := by
  have hreturned : returnedBy tenantId (.returned i request (.ok context) : QuotaEvent ι) =
      some i := if_pos htenant
  have hpassed : passedBy tenantId (.returned i request (.ok context) : QuotaEvent ι) = some i :=
    if_pos htenant
  unfold Accounted at h ⊢
  rw [number_cons_of_ne (by rintro ⟨⟩), number_cons_of_ne (by rintro ⟨⟩),
    number_cons_of_ne (by rintro ⟨⟩), number_cons_self hreturned, number_cons_self hpassed]
  simp only [Progress.Balanced] at h ⊢
  omega

/-- A refused request is answered by an error. -/
theorem rejected (h : Accounted dailyQuota tenantId log i .refused) {request : MeteredRequest}
    (htenant : request.tenantId = tenantId) (e : EnterpriseException) :
    Accounted dailyQuota tenantId (.returned i request (.error e) :: log) i .idle := by
  have hreturned : returnedBy tenantId (.returned i request (.error e) : QuotaEvent ι) =
      some i := if_pos htenant
  unfold Accounted at h ⊢
  rw [number_cons_of_ne (by rintro ⟨⟩), number_cons_of_ne (by rintro ⟨⟩),
    number_cons_of_ne (by rintro ⟨⟩), number_cons_self hreturned,
    number_cons_of_ne (by rintro ⟨⟩)]
  simp only [Progress.Balanced] at h ⊢
  omega

end Accounted

/-! ### The invariant -/

/-- **The invariant of a day.** -/
structure Metered (today : ℤ) (dailyQuota : ℕ) (cfg : QuotaConfig ι) : Prop where
  obeying : cfg.Obeying (metering today) Metering.init (answeredByCount dailyQuota)
  clock : day cfg.store.clock = today
  counter : ∀ tenantId,
    DayCounter cfg.store today tenantId (cfg.log.filterMap (dailyCount tenantId)).length
  counts : ∀ tenantId, (cfg.log.filterMap (dailyCount tenantId)).reverse =
    List.range' 1 (cfg.log.filterMap (dailyCount tenantId)).length
  own : ∀ i s, cfg.sessions i = some s →
    ∀ count ∈ (s.ghost (metering today) Metering.init).count, ownCount i cfg.log = some count
  answered : AnsweredByOwnCount dailyQuota cfg.log
  accounted : ∀ tenantId i, Accounted dailyQuota tenantId cfg.log i
    (progress today dailyQuota tenantId (cfg.sessions i))

/-- An event that is no answer leaves the answers alone. -/
theorem AnsweredByOwnCount.cons {dailyQuota : ℕ} {log : List (QuotaEvent ι)}
    (h : AnsweredByOwnCount dailyQuota log) {e : QuotaEvent ι}
    (he : ∀ i request answer, e = .returned i request answer →
      ∃ count, ownCount i log = some count ∧
        answer = if Within dailyQuota count then .ok request.context
          else .error (dailyQuotaExceeded dailyQuota)) :
    AnsweredByOwnCount dailyQuota (e :: log) := by
  intro newer i request answer older hlog
  cases newer with
  | nil =>
    obtain ⟨rfl, rfl⟩ := List.cons.inj hlog
    exact he i request answer rfl
  | cons e' newer =>
    obtain ⟨-, hlog⟩ := List.cons.inj hlog
    exact h newer i request answer older hlog

namespace Metered

variable {today : ℤ} {dailyQuota : ℕ} {cfg : QuotaConfig ι} {order : SetOrder}

omit [DecidableEq ι] in
/-- The tenant a request is metered for is its own. -/
theorem tenantId_ghost
    (s : Session EnterpriseStore.Reply MeteredRequest (Answer AuthContext)) :
    (s.ghost (metering today) Metering.init).tenantId = s.op.tenantId :=
  tenantId_replay today _ _

/-- Nothing has happened yet. -/
theorem init {store : EnterpriseStore} (hclock : day store.clock = today)
    (hfresh : ∀ tenantId, store.counter (.daily tenantId today) = none) :
    Metered today dailyQuota (QuotaConfig.init store : QuotaConfig ι) where
  obeying := by rintro i s ⟨⟩
  clock := hclock
  counter tenantId := by
    constructor
    · unfold EnterpriseStore.nextCount QuotaConfig.init
      rw [hfresh]
      rfl
    · intro counter hcounter
      rw [Option.mem_def, QuotaConfig.init, hfresh] at hcounter
      cases hcounter
  counts _ := rfl
  own := by rintro i s ⟨⟩
  answered := by
    intro newer i request answer older hlog
    cases newer <;> cases hlog
  accounted _ _ := ⟨le_refl 0, le_refl 0, le_refl 0, le_refl 0⟩

/-- A request begins. -/
theorem started (h : Metered today dailyQuota cfg) {i : ι} {request : MeteredRequest}
    (hi : cfg.sessions i = none) (hday : day request.now = today) :
    Metered today dailyQuota ((quotaMachine order dailyQuota 0).started cfg i request) where
  obeying := h.obeying.started (enforceQuota_obeys dailyQuota hday)
  clock := h.clock
  counter := h.counter
  counts := h.counts
  own k s hs count hcount := by
    rcases Config.of_put_sessions hs with ⟨rfl, rfl⟩ | ⟨-, hold⟩
    · cases hcount
    · exact h.own k s hold count hcount
  answered := h.answered.cons (by rintro _ _ _ ⟨⟩)
  accounted tenantId k := by
    have hold := h.accounted tenantId k
    by_cases hk : k = i
    · subst hk
      rw [hi] at hold
      rw [Machine.started_sessions_self]
      by_cases htenant : request.tenantId = tenantId
      · rw [progress_of_none htenant rfl]
        exact hold.start htenant
      · rw [progress_of_ne htenant]
        exact hold.silent (concerns_ne_of_none (if_neg htenant))
    · rw [Machine.started_sessions_of_ne _ hk]
      exact hold.silent (concerns_ne_of_client (Ne.symm hk))

/-- A request gets a reply that is not its number: it goes on as it was. -/
theorem answered_quiet (h : Metered today dailyQuota cfg) {i : ι} {request : MeteredRequest}
    {c : EnterpriseStore.Command}
    {next : EnterpriseStore.Reply c → EnterpriseProgram (Answer AuthContext)}
    {xs : List (Exchange EnterpriseStore.Reply)}
    (hi : cfg.sessions i = some ⟨request, .request c next, xs⟩)
    (hclock : (EnterpriseStore.exec order c cfg.store).2.clock = cfg.store.clock)
    (hcounter : ∀ tenantId n, DayCounter cfg.store today tenantId n →
      DayCounter (EnterpriseStore.exec order c cfg.store).2 today tenantId n)
    (hnext : ∀ (g : Metering) r, (metering today).next g c r = g)
    (hcount : ∀ tenantId r, dailyCount tenantId (.ran i request ⟨c, r⟩ : QuotaEvent ι) = none)
    (hconcerns : ∀ tenantId r, concerns tenantId (.ran i request ⟨c, r⟩ : QuotaEvent ι) = none)
    (hown : ∀ k r log, ownCount k (.ran i request ⟨c, r⟩ :: log : List (QuotaEvent ι)) =
      ownCount k log) :
    Metered today dailyQuota
      ((quotaMachine order dailyQuota 0).answered cfg i request c next xs) where
  obeying := h.obeying.answered hi trivial
  clock := (congrArg day hclock).trans h.clock
  counter tenantId := by
    have hlog := List.filterMap_cons_none (l := cfg.log) (hcount tenantId
      (EnterpriseStore.exec order c cfg.store).1)
    exact hlog ▸ hcounter tenantId _ (h.counter tenantId)
  counts tenantId := by
    have hlog := List.filterMap_cons_none (l := cfg.log) (hcount tenantId
      (EnterpriseStore.exec order c cfg.store).1)
    exact hlog ▸ h.counts tenantId
  own k s hs count hghost := by
    refine (hown k _ _).trans ?_
    rcases Config.of_put_sessions hs with ⟨rfl, rfl⟩ | ⟨-, hold⟩
    · refine h.own k _ hi count ?_
      rwa [← hnext (Session.ghost (metering today) Metering.init
        ⟨request, .request c next, xs⟩) (EnterpriseStore.exec order c cfg.store).1]
    · exact h.own k s hold count hghost
  answered := h.answered.cons (by rintro _ _ _ ⟨⟩)
  accounted tenantId k := by
    have hold := (h.accounted tenantId k).silent
      (concerns_ne_of_none (hconcerns tenantId (EnterpriseStore.exec order c cfg.store).1))
    by_cases hk : k = i
    · subst hk
      have hghost : Session.ghost (metering today) Metering.init
          (⟨request, next (EnterpriseStore.exec order c cfg.store).1,
            ⟨c, (EnterpriseStore.exec order c cfg.store).1⟩ :: xs⟩ :
            Session EnterpriseStore.Reply MeteredRequest (Answer AuthContext)) =
          Session.ghost (metering today) Metering.init ⟨request, .request c next, xs⟩ :=
        hnext _ _
      rw [Machine.answered_sessions_self]
      rw [hi] at hold
      unfold progress at hold ⊢
      dsimp only at hold ⊢
      rw [← hghost] at hold
      exact hold
    · rw [Machine.answered_sessions_of_ne _ _ _ _ hk]
      exact hold

/-- Its number decides where it is, and the other requests stay where they are. -/
theorem accounted_counted (h : Metered today dailyQuota cfg) {i : ι} {request : MeteredRequest}
    {next : ℕ → EnterpriseProgram (Answer AuthContext)}
    {xs : List (Exchange EnterpriseStore.Reply)}
    (hi : cfg.sessions i =
      some ⟨request, .request (.incr (.daily request.tenantId today)) next, xs⟩)
    (hnone : (Session.ghost (metering today) Metering.init
      (⟨request, .request (.incr (.daily request.tenantId today)) next, xs⟩ :
        Session EnterpriseStore.Reply MeteredRequest (Answer AuthContext))).count = none)
    (tenantId : UUID) (k : ι) :
    Accounted dailyQuota tenantId
      ((quotaMachine order dailyQuota 0).answered cfg i request
        (.incr (.daily request.tenantId today)) next xs).log k
      (progress today dailyQuota tenantId
        (((quotaMachine order dailyQuota 0).answered cfg i request
          (.incr (.daily request.tenantId today)) next xs).sessions k)) := by
  have hold := h.accounted tenantId k
  by_cases hk : k = i
  · subst hk
    rw [Machine.answered_sessions_self]
    rw [hi] at hold
    by_cases htenant : request.tenantId = tenantId
    · subst htenant
      rw [progress_of_none rfl hnone] at hold
      have hprogress : progress today dailyQuota request.tenantId (some ⟨request,
          next (EnterpriseStore.exec order (.incr (.daily request.tenantId today)) cfg.store).1,
          ⟨.incr (.daily request.tenantId today), (EnterpriseStore.exec order
            (.incr (.daily request.tenantId today)) cfg.store).1⟩ :: xs⟩) =
          if Within dailyQuota (EnterpriseStore.exec order
            (.incr (.daily request.tenantId today)) cfg.store).1 then .admitted else .refused :=
        progress_of_some rfl rfl
      exact (congrArg (Accounted dailyQuota request.tenantId _ k) hprogress).mpr
        (hold.counted request today _)
    · rw [progress_of_ne htenant] at hold
      rw [progress_of_ne htenant]
      exact hold.silent (concerns_ne_of_none (if_neg htenant))
  · rw [Machine.answered_sessions_of_ne _ _ _ _ hk]
    exact hold.silent (concerns_ne_of_client (Ne.symm hk))

/-- A request reaches the daily counter of its tenant, which hands it the next number. -/
theorem answered_counted (h : Metered today dailyQuota cfg) {i : ι} {request : MeteredRequest}
    {next : ℕ → EnterpriseProgram (Answer AuthContext)}
    {xs : List (Exchange EnterpriseStore.Reply)}
    (hi : cfg.sessions i =
      some ⟨request, .request (.incr (.daily request.tenantId today)) next, xs⟩)
    (hnone : (Session.ghost (metering today) Metering.init
      (⟨request, .request (.incr (.daily request.tenantId today)) next, xs⟩ :
        Session EnterpriseStore.Reply MeteredRequest (Answer AuthContext))).count = none) :
    Metered today dailyQuota ((quotaMachine order dailyQuota 0).answered cfg i request
      (.incr (.daily request.tenantId today)) next xs) := by
  obtain ⟨hreply, hcounter⟩ := (h.counter request.tenantId).exec_incr order
  -- the event, and what each reading makes of it
  have hself : dailyCount request.tenantId (.ran i request
      ⟨.incr (.daily request.tenantId today), (EnterpriseStore.exec order
        (.incr (.daily request.tenantId today)) cfg.store).1⟩ : QuotaEvent ι) =
      some (EnterpriseStore.exec order (.incr (.daily request.tenantId today)) cfg.store).1 :=
    if_pos rfl
  have hother : ∀ tenantId, request.tenantId ≠ tenantId → dailyCount tenantId (.ran i request
      ⟨.incr (.daily request.tenantId today), (EnterpriseStore.exec order
        (.incr (.daily request.tenantId today)) cfg.store).1⟩ : QuotaEvent ι) = none :=
    fun tenantId hne => if_neg hne
  refine ⟨?_, h.clock, ?_, ?_, ?_, ?_, ?_⟩
  · exact h.obeying.answered hi trivial
  · intro tenantId
    by_cases htenant : request.tenantId = tenantId
    · subst htenant
      have hlog := List.filterMap_cons_some (l := cfg.log) hself
      refine hlog ▸ ?_
      exact hcounter
    · have hlog := List.filterMap_cons_none (l := cfg.log) (hother tenantId htenant)
      refine hlog ▸ ?_
      exact (h.counter tenantId).exec_incr_of_ne order fun hkey =>
        htenant (CounterKey.daily.inj hkey).1.symm
  · intro tenantId
    by_cases htenant : request.tenantId = tenantId
    · subst htenant
      have hlog := List.filterMap_cons_some (l := cfg.log) hself
      refine hlog ▸ ?_
      rw [List.reverse_cons, h.counts, hreply, List.length_cons, List.range'_1_concat,
        Nat.add_comm 1]
    · have hlog := List.filterMap_cons_none (l := cfg.log) (hother tenantId htenant)
      exact hlog ▸ h.counts tenantId
  · intro k s hs count hghost
    rcases Config.of_put_sessions hs with ⟨rfl, rfl⟩ | ⟨hk, hold⟩
    · exact (if_pos rfl).trans hghost
    · exact (if_neg (Ne.symm hk)).trans (h.own k s hold count hghost)
  · exact h.answered.cons (by rintro _ _ _ ⟨⟩)
  · exact h.accounted_counted hi hnone

/-- A request is answered. -/
theorem finish (h : Metered today dailyQuota cfg) {i : ι}
    {s : Session EnterpriseStore.Reply MeteredRequest (Answer AuthContext)}
    {answer : Answer AuthContext} (hi : cfg.sessions i = some s) (hdone : s.rest = .done answer) :
    Metered today dailyQuota (cfg.finish i s.op answer) := by
  have hpost := h.obeying i s hi
  rw [hdone] at hpost
  obtain ⟨count, hcount, hanswer⟩ := hpost
  refine ⟨h.obeying.finish, h.clock, h.counter, h.counts, ?_, ?_, ?_⟩
  · intro k t ht
    exact h.own k t (Config.of_ended_sessions ht).2
  · refine h.answered.cons ?_
    rintro j request b heq
    cases heq
    exact ⟨count, h.own i s hi count hcount, hanswer⟩
  · intro tenantId k
    have hold := h.accounted tenantId k
    unfold Config.finish
    dsimp only
    by_cases hk : k = i
    · subst hk
      rw [Function.update_self]
      rw [hi] at hold
      by_cases htenant : s.op.tenantId = tenantId
      · rw [progress_of_some htenant hcount] at hold
        by_cases hwithin : Within dailyQuota count
        · rw [if_pos hwithin] at hold hanswer
          rw [hanswer]
          exact hold.passed htenant _
        · rw [if_neg hwithin] at hold hanswer
          rw [hanswer]
          exact hold.rejected htenant _
      · rw [progress_of_ne htenant] at hold
        exact hold.silent (concerns_ne_of_none (if_neg htenant))
    · rw [Function.update_of_ne hk]
      exact hold.silent (concerns_ne_of_client (Ne.symm hk))

/-- A request is abandoned. -/
theorem abandon (h : Metered today dailyQuota cfg) (i : ι) :
    Metered today dailyQuota { cfg with sessions := Function.update cfg.sessions i none } := by
  refine ⟨?_, h.clock, h.counter, h.counts, ?_, h.answered, ?_⟩
  · exact fun k s hs => h.obeying k s (Config.of_ended_sessions hs).2
  · exact fun k s hs => h.own k s (Config.of_ended_sessions hs).2
  · intro tenantId k
    have hold := h.accounted tenantId k
    by_cases hk : k = i
    · subst hk
      dsimp only
      rw [Function.update_self]
      exact hold.idle
    · dsimp only
      rw [Function.update_of_ne hk]
      exact hold

/-- The clock moves within the day. -/
theorem tick (h : Metered today dailyQuota cfg) {time : Time} (hle : cfg.store.clock ≤ time)
    (htime : day time = today) :
    Metered today dailyQuota { cfg with store := { cfg.store with clock := time } } :=
  ⟨h.obeying.congr rfl, htime, fun tenantId => (h.counter tenantId).tick hle htime, h.counts,
    h.own, h.answered, h.accounted⟩

/-- A request gets the reply to its next command. -/
theorem reply (h : Metered today dailyQuota cfg) {i : ι} {request : MeteredRequest}
    {c : EnterpriseStore.Command}
    {next : EnterpriseStore.Reply c → EnterpriseProgram (Answer AuthContext)}
    {xs : List (Exchange EnterpriseStore.Reply)}
    (hi : cfg.sessions i = some ⟨request, .request c next, xs⟩) :
    Metered today dailyQuota
      ((quotaMachine order dailyQuota 0).answered cfg i request c next xs) := by
  have hallows := (h.obeying i _ hi).1
  cases c with
  | incr key =>
    cases key with
    | daily t d =>
      obtain ⟨ht, rfl, hnone⟩ := hallows
      obtain rfl : t = request.tenantId := ht.trans (tenantId_ghost _)
      exact h.answered_counted hi hnone
    | minute t m =>
      exact h.answered_quiet hi rfl
        (fun _ _ hday => hday.exec_incr_of_ne order (by rintro ⟨⟩)) (fun _ _ => rfl)
        (fun _ _ => rfl) (fun _ _ => rfl) fun _ _ _ => rfl
  | expire key seconds =>
    refine h.answered_quiet hi rfl (fun tenantId n hday => ?_) (fun _ _ => rfl)
      (fun _ _ => rfl) (fun _ _ => rfl) fun _ _ _ => rfl
    by_cases hkey : CounterKey.daily tenantId today = key
    · subst hkey
      obtain rfl : seconds = dailyTtlSeconds := hallows
      exact hday.exec_expire_daily order h.clock
    · exact hday.exec_expire_of_ne order hkey seconds
  | _ => exact hallows.elim

/-- **The invariant is kept by every step within the day.** -/
theorem step {cfg' : QuotaConfig ι} (h : Metered today dailyQuota cfg) {l : QuotaLabel ι}
    (hok : WithinDay today cfg l)
    (hstep : (quotaMachine order dailyQuota 0).step cfg l = some cfg') :
    Metered today dailyQuota cfg' := by
  refine Machine.step_rule hstep ?_ ?_ ?_ ?_ ?_
  · rintro i request rfl hi
    exact h.started hi hok
  · rintro i request c next xs - hi
    exact h.reply hi
  · exact fun _ _ _ _ h hi hdone => h.finish hi hdone
  · exact fun i _ _ _ => h.abandon i
  · rintro time store rfl henv
    unfold quotaMachine at henv
    dsimp only at henv
    split at henv
    · rename_i hle
      cases henv
      exact h.tick hle hok
    · cases henv

end Metered

/-! ### What a run adds up to -/

section Totals

variable {today : ℤ} {dailyQuota : ℕ} {tenantId : UUID} {cfg : QuotaConfig ι}
  {log : List (QuotaEvent ι)}

/-- A list that names nobody more often is no longer. -/
theorem length_le_of_count_le {l l' : List ι} (h : ∀ i, l.count i ≤ l'.count i) :
    l.length ≤ l'.length :=
  (List.subperm_ext_iff.2 fun i _ => h i).length_le

omit [DecidableEq ι] in
/-- An event hands a number to a client, who is admitted if the number passes, or it hands out
none. -/
theorem dailyCount_cases (tenantId : UUID) (e : QuotaEvent ι) :
    (∃ i count, dailyCount tenantId e = some count ∧ countedBy tenantId e = some i ∧
      ∀ dailyQuota, admittedBy dailyQuota tenantId e =
        if Within dailyQuota count then some i else none) ∨
    (dailyCount tenantId e = none ∧ countedBy tenantId e = none ∧
      ∀ dailyQuota, admittedBy dailyQuota tenantId e = none) := by
  unfold dailyCount countedBy admittedBy
  split
  · rename_i i _ t _ count
    by_cases ht : t = tenantId
    · refine .inl ⟨i, count, if_pos ht, if_pos ht, fun dailyQuota => ?_⟩
      by_cases hwithin : Within dailyQuota count
      · rw [if_pos ⟨ht, hwithin⟩, if_pos hwithin]
      · rw [if_neg fun hboth => hwithin hboth.2, if_neg hwithin]
    · exact .inr ⟨if_neg ht, if_neg ht, fun _ => if_neg fun hboth => ht hboth.1⟩
  · exact .inr ⟨rfl, rfl, fun _ => rfl⟩

omit [DecidableEq ι] in
/-- Every number is handed to a client. -/
theorem length_dailyCount (tenantId : UUID) (log : List (QuotaEvent ι)) :
    (log.filterMap (dailyCount tenantId)).length =
      (log.filterMap (countedBy tenantId)).length := by
  induction log with
  | nil => rfl
  | cons e log ih =>
    rcases dailyCount_cases tenantId e with ⟨i, count, hcount, hi, -⟩ | ⟨hcount, hi, -⟩
    · rw [List.filterMap_cons_some hcount, List.filterMap_cons_some hi, List.length_cons,
        List.length_cons, ih]
    · rw [List.filterMap_cons_none hcount, List.filterMap_cons_none hi, ih]

omit [DecidableEq ι] in
/-- Those are admitted whose number passes. -/
theorem length_admittedBy (dailyQuota : ℕ) (tenantId : UUID) (log : List (QuotaEvent ι)) :
    (log.filterMap (admittedBy dailyQuota tenantId)).length =
      ((log.filterMap (dailyCount tenantId)).filter fun count =>
        Within dailyQuota count).length := by
  induction log with
  | nil => rfl
  | cons e log ih =>
    rcases dailyCount_cases tenantId e with ⟨i, count, hcount, -, hadmitted⟩ |
      ⟨hcount, -, hadmitted⟩
    · have hi := hadmitted dailyQuota
      rw [List.filterMap_cons_some hcount]
      by_cases hwithin : Within dailyQuota count
      · rw [if_pos hwithin] at hi
        rw [List.filterMap_cons_some hi, List.filter_cons_of_pos (by simpa using hwithin),
          List.length_cons, List.length_cons, ih]
      · rw [if_neg hwithin] at hi
        rw [List.filterMap_cons_none hi, List.filter_cons_of_neg (by simpa using hwithin), ih]
    · rw [List.filterMap_cons_none (hadmitted dailyQuota), List.filterMap_cons_none hcount, ih]

/-- Of the numbers up to `n` those pass that are within the quota. -/
theorem length_filter_within (dailyQuota n : ℕ) :
    ((List.range' 1 n).filter fun count => Within dailyQuota count).length =
      if dailyQuota = 0 then n else min n dailyQuota := by
  induction n with
  | zero => split <;> simp
  | succ n ih =>
    rw [List.range'_1_concat, List.filter_append, List.length_append, ih]
    by_cases hwithin : Within dailyQuota (1 + n)
    · have hle : dailyQuota = 0 ∨ 1 + n ≤ dailyQuota := hwithin
      rw [List.filter_cons_of_pos (by simpa using hwithin), List.filter_nil,
        List.length_singleton]
      split <;> omega
    · have hlt : ¬ (dailyQuota = 0 ∨ 1 + n ≤ dailyQuota) := hwithin
      rw [List.filter_cons_of_neg (by simpa using hwithin), List.filter_nil, List.length_nil]
      split <;> omega

end Totals

/-! ### The quota is exact -/

/-- The daily quota is exact for a tenant. -/
structure QuotaExact (order : SetOrder) (today : ℤ) (dailyQuota : ℕ) (cfg : QuotaConfig ι)
    (tenantId : UUID) : Prop where
  /-- The tenant's requests are handed 1, 2, 3, …, whatever those of other tenants do. -/
  counts : (cfg.log.filterMap (dailyCount tenantId)).reverse =
    List.range' 1 (cfg.log.filterMap (countedBy tenantId)).length
  /-- A request is rejected exactly when its own number is beyond the quota. -/
  answered : AnsweredByOwnCount dailyQuota cfg.log
  /-- Once all requests of the tenant are answered, as many have passed as the quota allows. -/
  passed : (cfg.log.filterMap (returnedBy tenantId)).length =
      (cfg.log.filterMap (startedBy tenantId)).length →
    (cfg.log.filterMap (passedBy tenantId)).length =
      if dailyQuota = 0 then (cfg.log.filterMap (startedBy tenantId)).length
      else min (cfg.log.filterMap (startedBy tenantId)).length dailyQuota
  /-- The usage is the number of requests that reached the daily counter. -/
  usage : ∀ now, day now = today →
    ((QuotaRepository.usage tenantId now).run (EnterpriseStore.exec order) cfg.store).1 =
      (cfg.log.filterMap (countedBy tenantId)).length

/-- The invariant makes the quota exact. -/
theorem Metered.quotaExact {order : SetOrder} {today : ℤ} {dailyQuota : ℕ}
    {cfg : QuotaConfig ι} (h : Metered today dailyQuota cfg) (tenantId : UUID) :
    QuotaExact order today dailyQuota cfg tenantId where
  counts := by
    rw [h.counts, length_dailyCount]
  answered := h.answered
  passed hall := by
    have hidle := fun i => (h.accounted tenantId i).idle
    have hreturned : (cfg.log.filterMap (returnedBy tenantId)).length ≤
        (cfg.log.filterMap (countedBy tenantId)).length :=
      length_le_of_count_le fun i => (hidle i).1
    have hcounted : (cfg.log.filterMap (countedBy tenantId)).length ≤
        (cfg.log.filterMap (startedBy tenantId)).length :=
      length_le_of_count_le fun i => (hidle i).2.1
    have hpassed : (cfg.log.filterMap (passedBy tenantId)).length ≤
        (cfg.log.filterMap (admittedBy dailyQuota tenantId)).length :=
      length_le_of_count_le fun i => (hidle i).2.2.1
    have hadmitted : (cfg.log.filterMap (admittedBy dailyQuota tenantId) ++
        cfg.log.filterMap (returnedBy tenantId)).length ≤
        (cfg.log.filterMap (passedBy tenantId) ++
          cfg.log.filterMap (startedBy tenantId)).length := by
      refine length_le_of_count_le fun i => ?_
      rw [List.count_append, List.count_append]
      exact (hidle i).2.2.2
    rw [List.length_append, List.length_append] at hadmitted
    have htotal : (cfg.log.filterMap (admittedBy dailyQuota tenantId)).length =
        if dailyQuota = 0 then (cfg.log.filterMap (countedBy tenantId)).length
        else min (cfg.log.filterMap (countedBy tenantId)).length dailyQuota := by
      rw [length_admittedBy, ← length_filter_within, ← length_dailyCount, ← h.counts,
        List.filter_reverse, List.length_reverse]
    have hcount : (cfg.log.filterMap (countedBy tenantId)).length =
        (cfg.log.filterMap (startedBy tenantId)).length := by omega
    rw [hcount] at htotal
    rw [← htotal]
    omega
  usage now hnow := by
    have hnext := (h.counter tenantId).nextCount_eq
    have husage : ((QuotaRepository.usage tenantId now).run (EnterpriseStore.exec order)
        cfg.store).1 + 1 = cfg.store.nextCount (.daily tenantId (day now)) := rfl
    rw [hnow, hnext, length_dailyCount] at husage
    omega

/-- **The daily quota is exact** in every run of any number of requests of any tenants, however
their commands interleave, within one UTC day and without a rate limit. -/
theorem daily_quota_exact (order : SetOrder) (today : ℤ) (dailyQuota : ℕ)
    {store : EnterpriseStore} (hclock : day store.clock = today)
    (hfresh : ∀ tenantId, store.counter (.daily tenantId today) = none)
    {cfg : QuotaConfig ι}
    (hrun : Reach (quotaMachine order dailyQuota 0).step (WithinDay today)
      (QuotaConfig.init store) cfg) (tenantId : UUID) :
    QuotaExact order today dailyQuota cfg tenantId := by
  have hmetered : Metered today dailyQuota cfg :=
    hrun.invariant (Metered.init hclock hfresh) fun _ _ _ h hok hstep => h.step hok hstep
  exact hmetered.quotaExact tenantId

namespace TwoTenants

/-- A request of a tenant in the first second of the epoch. -/
def requestOf (tenantId : UUID) : MeteredRequest := ⟨⟨0, tenantId, .owner, 0, []⟩, 0⟩

/-- Two requests of tenant 7 and one of tenant 8.  The second request of tenant 7 overtakes the
first after its `INCR`; the clock moves between an `INCR` and its `EXPIRE`. -/
def interleaved : List (QuotaLabel ℕ) :=
  [.start 0 (requestOf 7), .start 1 (requestOf 7), .start 2 (requestOf 8), .exec 0, .exec 1,
    .env 60, .exec 2, .exec 1, .exec 1, .exec 1, .exec 0, .exec 2, .exec 0, .exec 2, .exec 0,
    .exec 2]

/-- The label stays within the first day of the epoch. -/
def withinFirstDay : QuotaLabel ℕ → Bool
  | .start _ request => day request.now = 0
  | .env time => day time = 0
  | _ => true

end TwoTenants

/-- The rule at a run of three requests of two tenants under a quota of one. -/
theorem two_tenants_quota_exact : ∃ cfg : QuotaConfig ℕ,
    QuotaExact .insertion 0 1 cfg 7 ∧ QuotaExact .insertion 0 1 cfg 8 ∧
      (cfg.log.filterMap (passedBy 7)).length = 1 ∧
      (cfg.log.filterMap (passedBy 8)).length = 1 := by
  obtain ⟨cfg, hreach, hcfg⟩ := exists_reach_of_runLabels (quotaMachine .insertion 1 0).step
    (fun _ l => TwoTenants.withinFirstDay l) (QuotaConfig.init EnterpriseStore.empty)
    TwoTenants.interleaved
    (fun cfg => (cfg.log.filterMap (passedBy 7)).length == 1 &&
      (cfg.log.filterMap (passedBy 8)).length == 1)
    (by decide +kernel)
  have hwithin : Reach (quotaMachine .insertion 1 0).step (WithinDay 0)
      (QuotaConfig.init EnterpriseStore.empty) cfg := by
    refine hreach.mono ?_
    rintro cfg' (⟨i, request⟩ | i | i | time) hl
    · have hday : day request.now = 0 := of_decide_eq_true hl
      exact hday
    · trivial
    · trivial
    · have hday : day time = 0 := of_decide_eq_true hl
      exact hday
  have hclock : day EnterpriseStore.empty.clock = 0 := by decide +kernel
  have hexact : ∀ tenantId, QuotaExact .insertion 0 1 cfg tenantId :=
    daily_quota_exact .insertion 0 1 hclock (fun _ => rfl) hwithin
  rw [Bool.and_eq_true] at hcfg
  exact ⟨cfg, hexact 7, hexact 8, eq_of_beq hcfg.1, eq_of_beq hcfg.2⟩

end ProductIntelligence
