import Mathlib.Algebra.BigOperators.Ring.Finset
import ProductIntelligence.Analytics.Buckets
import ProductIntelligence.Logic.Fallible
import ProductIntelligence.Products.Payload

/-!
# Usage reports and trends

The readers of the daily buckets.  A usage report sums every event over the last days up to a
date; a trend sums one event over a number of windows of equal width, the newest of which ends at
the date.  The days of a usage report are counted back from the date, those of a window are listed
between two dates that are themselves counted back from it.  Counts are exact, and so is their
conversion to a float.

## Main definitions

* `AnalyticsEngine.lastNDays`, `AnalyticsEngine.daysInRange` — the two ways of listing days.
* `AnalyticsEngine.usage`, `AnalyticsEngine.report`, `AnalyticsEngine.trend` — the reports.
* `IsDays` — a list of days holds every day between two dates, once and in order.

## Main results

* `daysInRange_eq_ok`, `lastNDays_eq_ok` — the days listed, when they are all dates.
* `trendWindow_eq_ok` — the window of a period.
* `trend_agrees_with_usage` — **the trend's windows partition the days of the usage report**, and
  its points add up to the report's count.

## References

`backend/app/services/analytics/analytics_engine.py`, `backend/app/models/analytics_report.py`,
`backend/app/models/usage_metrics.py`, `backend/app/core/constants.py`.
-/

namespace ProductIntelligence

open Effects
open AnalyticsStore (Reply)

/-! ### What the engine returns -/

/-- Counts of the main events over a time window, with the average latency. -/
structure UsageMetrics where
  uploads : ℕ
  duplicateChecks : ℕ
  recommendations : ℕ
  searches : ℕ
  averageProcessingSeconds : ℚ
  nonneg : 0 ≤ averageProcessingSeconds

/-- The count of an event. -/
def UsageMetrics.countOf (usage : UsageMetrics) : AnalyticsEvent → ℕ
  | .upload => usage.uploads
  | .duplicateCheck => usage.duplicateChecks
  | .recommendation => usage.recommendations
  | .search => usage.searches

/-- A time window's usage, with its inclusive range of dates. -/
structure AnalyticsReport where
  period : Text
  startDate : Date
  endDate : Date
  usage : UsageMetrics

/-- The length of the windows of a trend. -/
inductive TrendGranularity
  | daily
  | weekly
  | monthly

/-- The name of a granularity. -/
def TrendGranularity.value : TrendGranularity → Text
  | .daily => "daily".toList
  | .weekly => "weekly".toList
  | .monthly => "monthly".toList

/-- `TREND_GRANULARITY_DAYS`: the days of one window. -/
def TrendGranularity.days : TrendGranularity → ℕ
  | .daily => 1
  | .weekly => 7
  | .monthly => 30

theorem TrendGranularity.days_pos (granularity : TrendGranularity) : 0 < granularity.days := by
  cases granularity with
  | daily => decide
  | weekly => decide
  | monthly => decide

/-- One period's value. -/
structure TrendPoint where
  periodStart : Date
  value : ℚ

/-- A metric's value over a series of periods. -/
structure TrendReport where
  metric : Text
  granularity : Text
  points : List TrendPoint

/-- What `usage` has read before it builds its answer. -/
structure UsageReadings where
  uploads : ℕ
  duplicateChecks : ℕ
  recommendations : ℕ
  searches : ℕ
  latencySum : ℚ
  latencyCount : ℕ

/-- The average latency, before rounding. -/
def UsageReadings.average (readings : UsageReadings) : ℚ :=
  if readings.latencyCount ≠ 0 then readings.latencySum / readings.latencyCount else 0

/-- The record built from what was read, whose average has to be non-negative. -/
def UsageReadings.metrics (readings : UsageReadings) : Except AnalyticsError UsageMetrics :=
  if h : 0 ≤ roundTo 4 readings.average then
    .ok ⟨readings.uploads, readings.duplicateChecks, readings.recommendations, readings.searches,
      roundTo 4 readings.average, h⟩
  else .error .negativeLatency

/-! ### The engine -/

namespace AnalyticsEngine

open AnalyticsRepository (countRange latencyRange)

/-- `_last_n_days`: the `days` dates ending on `endDate`, oldest first. -/
def lastNDays (today : Date) (days : ℕ) (endDate : Option Date) :
    Except AnalyticsError (List Date) :=
  let last := endDate.getD today
  (List.range days).reverse.mapM fun (offset : ℕ) => last.sub offset

/-- `_days_in_range`: every date from `start` to `last`, oldest first. -/
def daysInRange (start last : Date) : Except AnalyticsError (List Date) :=
  let span := last.val - start.val + 1
  (List.range span.toNat).mapM fun (offset : ℕ) => start.add offset

/-- `_sum`: the count of an event over the given days. -/
def sum (event : AnalyticsEvent) (days : List Date) : Program Reply ℕ := do
  let counts ← countRange event days
  pure counts.sum

/-- The reads of `usage`. -/
def readings (dateList : List Date) : Program Reply UsageReadings := do
  let uploads ← sum .upload dateList
  let duplicateChecks ← sum .duplicateCheck dateList
  let recommendations ← sum .recommendation dateList
  let searches ← sum .search dateList
  let latency ← latencyRange dateList
  pure ⟨uploads, duplicateChecks, recommendations, searches, latency.1, latency.2⟩

/-- `usage`: the last `days` days of usage, ending on `endDate`. -/
def usage (today : Date) (days : ℕ) (endDate : Option Date) :
    Program Reply (Except AnalyticsError UsageMetrics) :=
  match lastNDays today days endDate with
  | .error e => pure (.error e)
  | .ok dateList => do
    let read ← readings dateList
    pure read.metrics

/-- `report`: the usage of the last `days` days, labeled. -/
def report (today : Date) (days : ℕ) (period : Text) (endDate : Option Date) :
    Program Reply (Except AnalyticsError AnalyticsReport) := do
  let last := endDate.getD today
  let result ← usage today days (some last)
  pure <| match result with
    | .error e => .error e
    | .ok usage =>
      match last.sub (days - 1) with
      | .error e => .error e
      | .ok start => .ok ⟨period, start, last, usage⟩

/-- One period of a trend: its first day and all its days. -/
def trendWindow (windowDays periods : ℕ) (last : Date) (periodIndex : ℕ) :
    Except AnalyticsError (Date × List Date) := do
  let windowsFromNewest : ℤ := periods - 1 - periodIndex
  let periodEnd ← last.sub (windowsFromNewest * windowDays)
  let periodStart ← periodEnd.sub (windowDays - 1)
  let days ← daysInRange periodStart periodEnd
  pure (periodStart, days)

/-- The points of the given periods. -/
def trendPoints (event : AnalyticsEvent) (windowDays periods : ℕ) (last : Date) :
    List ℕ → Program Reply (Except AnalyticsError (List TrendPoint))
  | [] => pure (.ok [])
  | periodIndex :: indices =>
    match trendWindow windowDays periods last periodIndex with
    | .error e => pure (.error e)
    | .ok (periodStart, days) => do
      let value ← sum event days
      let points ← trendPoints event windowDays periods last indices
      pure (points.map fun points => ⟨periodStart, value⟩ :: points)

/-- `trend`: an event over `periods` windows, oldest first, the newest ending on `endDate`. -/
def trend (today : Date) (event : AnalyticsEvent) (granularity : TrendGranularity) (periods : ℕ)
    (endDate : Option Date) : Program Reply (Except AnalyticsError TrendReport) := do
  let last := endDate.getD today
  let points ← trendPoints event granularity.days periods last (List.range periods)
  pure (points.map fun points => ⟨event.value, granularity.value, points⟩)

/-! ### Listing days -/

/-- The day numbers of `n` days from `start` on. -/
def ordinalsFrom (start : ℤ) (n : ℕ) : List ℤ := (List.range n).map fun (k : ℕ) => start + k

theorem mem_ordinalsFrom {start : ℤ} {n : ℕ} {ordinal : ℤ} :
    ordinal ∈ ordinalsFrom start n ↔ start ≤ ordinal ∧ ordinal < start + n := by
  rw [ordinalsFrom, List.mem_map]
  constructor
  · rintro ⟨k, hk, rfl⟩
    have := List.mem_range.1 hk
    omega
  · intro h
    exact ⟨(ordinal - start).toNat, List.mem_range.2 (by omega), by omega⟩

theorem pairwise_ordinalsFrom (start : ℤ) (n : ℕ) : (ordinalsFrom start n).Pairwise (· < ·) := by
  refine List.pairwise_map.2 (List.pairwise_lt_range.imp ?_)
  intro a b hab
  omega

/-- Days are counted on. -/
theorem ordinalsFrom_add (start : ℤ) (m n : ℕ) :
    ordinalsFrom start (m + n) = ordinalsFrom start m ++ ordinalsFrom (start + m) n := by
  simp [ordinalsFrom, List.range_add, Function.comp_def, add_assoc]

/-- Windows that follow one another hold the days that they span. -/
theorem flatten_ordinalsFrom (start : ℤ) (n windowDays : ℕ) :
    ((List.range n).map fun (i : ℕ) => ordinalsFrom (start + i * windowDays) windowDays).flatten =
      ordinalsFrom start (n * windowDays) := by
  induction n with
  | zero => simp [ordinalsFrom]
  | succ n ih =>
    rw [List.range_succ, List.map_append, List.flatten_append, ih, Nat.succ_mul, ordinalsFrom_add]
    simp

/-- The same days counted back from the last. -/
theorem map_reverse_range (last : ℤ) (n : ℕ) :
    (List.range n).reverse.map (fun (offset : ℕ) => last - offset) =
      ordinalsFrom (last - n + 1) n := by
  refine List.ext_getElem (by simp [ordinalsFrom]) fun i hi _ => ?_
  have hlt : i < n := by simpa using hi
  simp only [ordinalsFrom, List.getElem_map, List.getElem_reverse, List.getElem_range,
    List.length_range]
  omega

/-- Computing dates succeeds where they are all in range. -/
theorem mapM_ofOrdinal {ι : Type} (g : ι → ℤ) {l : List ι}
    (h : ∀ i ∈ l, 1 ≤ g i ∧ g i ≤ maxOrdinal) :
    ∃ days : List Date, (l.mapM fun i => Date.ofOrdinal (g i)) = .ok days ∧
      days.map Subtype.val = l.map g := by
  induction l with
  | nil => exact ⟨[], rfl, rfl⟩
  | cons i l ih =>
    obtain ⟨days, hdays, hval⟩ := ih fun k hk => h k (List.mem_cons_of_mem _ hk)
    have hi : Date.ofOrdinal (g i) = .ok ⟨g i, h i (List.mem_cons_self ..)⟩ :=
      Date.ofOrdinal_eq_ok.2 rfl
    refine ⟨⟨g i, h i (List.mem_cons_self ..)⟩ :: days, ?_, by simp [hval]⟩
    rw [List.mapM_cons, hi, hdays]
    rfl

/-- `_days_in_range` lists the days between two dates. -/
theorem daysInRange_eq_ok {start last : Date} {n : ℕ} (h : last.val = start.val + n - 1) :
    ∃ days, daysInRange start last = .ok days ∧
      days.map Subtype.val = ordinalsFrom start.val n := by
  have hspan : (last.val - start.val + 1).toNat = n := by omega
  have hstart := start.property
  have hlast := last.property
  simp only [daysInRange, hspan]
  refine mapM_ofOrdinal (fun (offset : ℕ) => start.val + offset) fun offset hoffset => ?_
  have := List.mem_range.1 hoffset
  omega

/-- `_last_n_days` lists the last days up to a date, if there are as many. -/
theorem lastNDays_eq_ok {today : Date} {days : ℕ} {endDate : Option Date}
    (h : days ≤ (endDate.getD today).val) :
    ∃ dateList, lastNDays today days endDate = .ok dateList ∧
      dateList.map Subtype.val = ordinalsFrom ((endDate.getD today).val - days + 1) days := by
  have hlast := (endDate.getD today).property
  have hdays := mapM_ofOrdinal (l := (List.range days).reverse)
    (fun (offset : ℕ) => (endDate.getD today).val - offset) fun offset hoffset => by
      have := List.mem_range.1 (List.mem_reverse.1 hoffset)
      omega
  rwa [map_reverse_range] at hdays

/-- `_last_n_days` fails if there are not as many days before a date. -/
theorem lastNDays_eq_error {today : Date} {days : ℕ} {endDate : Option Date} (hpos : 0 < days)
    (h : (endDate.getD today).val < days) :
    lastNDays today days endDate = .error .dateOutOfRange := by
  obtain ⟨n, rfl⟩ := Nat.exists_eq_add_of_lt hpos
  have hfirst : (endDate.getD today).sub (n : ℕ) = .error .dateOutOfRange :=
    Date.ofOrdinal_eq_error (by push_cast at h; omega)
  rw [lastNDays, show 0 + n + 1 = n + 1 by omega, List.range_succ, List.reverse_append,
    List.reverse_singleton, List.singleton_append, List.mapM_cons, hfirst]
  rfl

/-- The window of a period, counted from the first day of the trend. -/
theorem trendWindow_eq_ok {windowDays periods i : ℕ} {last : Date} (hi : i < periods)
    (hpos : 0 < windowDays) (h : ((periods * windowDays : ℕ) : ℤ) ≤ last.val) :
    ∃ start days, trendWindow windowDays periods last i = .ok (start, days) ∧
      start.val = last.val - (periods * windowDays : ℕ) + 1 + i * windowDays ∧
      days.map Subtype.val = ordinalsFrom start.val windowDays := by
  have hbelow : (i + 1) * windowDays ≤ periods * windowDays := Nat.mul_le_mul_right _ hi
  have hoffset : ((periods : ℤ) - 1 - i) * windowDays =
      ((periods * windowDays : ℕ) : ℤ) - ((i + 1) * windowDays : ℕ) := by
    push_cast
    ring
  have hfirst : ((i + 1) * windowDays : ℕ) = (i : ℤ) * windowDays + windowDays := by
    push_cast
    ring
  have hlast := last.property
  have hnonneg : (0 : ℤ) ≤ (i : ℤ) * windowDays := by positivity
  obtain ⟨periodEnd, hend⟩ : ∃ date : Date, date.val = last.val -
      ((periods : ℤ) - 1 - i) * windowDays := ⟨⟨_, by omega⟩, rfl⟩
  obtain ⟨start, hstart⟩ : ∃ date : Date, date.val = periodEnd.val - (windowDays - 1) :=
    ⟨⟨_, by omega⟩, rfl⟩
  have hspan : periodEnd.val = start.val + windowDays - 1 := by omega
  obtain ⟨days, hdays, hval⟩ := daysInRange_eq_ok hspan
  refine ⟨start, days, ?_, by omega, hval⟩
  have hend' : last.sub (((periods : ℤ) - 1 - i) * windowDays) = .ok periodEnd :=
    Date.ofOrdinal_eq_ok.2 hend
  have hstart' : periodEnd.sub (windowDays - 1) = .ok start := Date.ofOrdinal_eq_ok.2 hstart
  exact Except.bind_eq_ok.2 ⟨_, hend', Except.bind_eq_ok.2 ⟨_, hstart',
    Except.bind_eq_ok.2 ⟨_, hdays, rfl⟩⟩⟩

/-- The oldest window fails if the trend goes back further than dates do. -/
theorem trendWindow_eq_error {windowDays periods : ℕ} {last : Date} (hpos : 0 < periods)
    (h : last.val < (periods * windowDays : ℕ)) :
    trendWindow windowDays periods last 0 = .error .dateOutOfRange := by
  have hoffset : ((periods : ℤ) - 1 - (0 : ℕ)) * windowDays =
      ((periods * windowDays : ℕ) : ℤ) - windowDays := by
    push_cast
    ring
  have hwindow : windowDays ≤ periods * windowDays := Nat.le_mul_of_pos_left _ hpos
  by_cases hend : last.val - ((periods : ℤ) - 1 - (0 : ℕ)) * windowDays < 1
  · exact Except.bind_eq_error.2 (.inl (Date.ofOrdinal_eq_error hend))
  · have hlast := last.property
    obtain ⟨periodEnd, hval⟩ : ∃ date : Date, date.val = last.val -
        ((periods : ℤ) - 1 - (0 : ℕ)) * windowDays := ⟨⟨_, by omega⟩, rfl⟩
    refine Except.bind_eq_error.2 (.inr ⟨periodEnd, Date.ofOrdinal_eq_ok.2 hval, ?_⟩)
    exact Except.bind_eq_error.2 (.inl (Date.ofOrdinal_eq_error (by omega)))

/-! ### Running the readers -/

section Run

variable (store : AnalyticsStore)

/-- The count of an event over some days. -/
def countOver (event : AnalyticsEvent) (days : List Date) : ℕ :=
  (days.map fun day => store.tallyOf (.count event day)).sum

/-- What `usage` reads over some days. -/
def readingsOver (days : List Date) : UsageReadings where
  uploads := countOver store .upload days
  duplicateChecks := countOver store .duplicateCheck days
  recommendations := countOver store .recommendation days
  searches := countOver store .search days
  latencySum := (days.map fun day => store.sumOf day).sum
  latencyCount := (days.map fun day => store.tallyOf (.latencyCount day)).sum

theorem run_sum (event : AnalyticsEvent) (days : List Date) :
    (sum event days).run AnalyticsStore.exec store = (countOver store event days, store) := by
  rw [sum, Program.run_bind, AnalyticsRepository.run_countRange]
  rfl

theorem run_readings (days : List Date) :
    (readings days).run AnalyticsStore.exec store = (readingsOver store days, store) := by
  simp only [readings, Program.run_bind, run_sum, AnalyticsRepository.run_latencyRange]
  rfl

/-- What `usage` answers where all its days are dates. -/
theorem run_usage {today : Date} {days : ℕ} {endDate : Option Date} {dateList : List Date}
    (h : lastNDays today days endDate = .ok dateList) :
    (usage today days endDate).run AnalyticsStore.exec store =
      ((readingsOver store dateList).metrics, store) := by
  rw [usage, h]
  simp only [Program.run_bind, run_readings]
  rfl

/-- `usage` fails where its days are not all dates. -/
theorem run_usage_error {today : Date} {days : ℕ} {endDate : Option Date} {e : AnalyticsError}
    (h : lastNDays today days endDate = .error e) :
    (usage today days endDate).run AnalyticsStore.exec store = (.error e, store) := by
  rw [usage, h]
  rfl

/-- A report labels what `usage` answers; its first date is computed last. -/
theorem run_report {today start : Date} {days : ℕ} {period : Text} {endDate : Option Date}
    (h : (endDate.getD today).sub (days - 1) = .ok start) :
    (report today days period endDate).run AnalyticsStore.exec store =
      let answer := (usage today days endDate).run AnalyticsStore.exec store
      (answer.1.map fun usage => ⟨period, start, endDate.getD today, usage⟩, answer.2) := by
  have hsame : usage today days (some (endDate.getD today)) = usage today days endDate := rfl
  simp only [report, Program.run_bind, hsame]
  rcases (usage today days endDate).run AnalyticsStore.exec store with ⟨e | usage, store'⟩
  · rfl
  · simp only [h]
    rfl

/-- A report fails as `usage` does. -/
theorem run_report_error {today : Date} {days : ℕ} {period : Text} {endDate : Option Date}
    {e : AnalyticsError} (h : lastNDays today days endDate = .error e) :
    (report today days period endDate).run AnalyticsStore.exec store = (.error e, store) := by
  have hsame : usage today days (some (endDate.getD today)) = usage today days endDate := rfl
  simp only [report, Program.run_bind, hsame, run_usage_error store h]
  rfl

/-- The points of a trend are the counts over the windows of its periods. -/
theorem run_trendPoints {event : AnalyticsEvent} {windowDays periods : ℕ} {last : Date}
    {indices : List ℕ} {windows : List (Date × List Date)}
    (h : List.Forall₂ (fun i window => trendWindow windowDays periods last i = .ok window)
      indices windows) :
    (trendPoints event windowDays periods last indices).run AnalyticsStore.exec store =
      (.ok (windows.map fun window => ⟨window.1, countOver store event window.2⟩), store) := by
  induction h with
  | nil => rfl
  | cons hwindow _ ih =>
    rw [trendPoints, hwindow]
    simp only [Program.run_bind, run_sum, ih]
    rfl

/-- A trend has a point for each window. -/
theorem run_trend {today : Date} {event : AnalyticsEvent} {granularity : TrendGranularity}
    {periods : ℕ} {endDate : Option Date} {windows : List (Date × List Date)}
    (h : List.Forall₂ (fun i window =>
      trendWindow granularity.days periods (endDate.getD today) i = .ok window)
      (List.range periods) windows) :
    (trend today event granularity periods endDate).run AnalyticsStore.exec store =
      (.ok ⟨event.value, granularity.value,
        windows.map fun window => ⟨window.1, countOver store event window.2⟩⟩, store) := by
  rw [trend, Program.run_bind, run_trendPoints store h]
  rfl

/-- A trend fails with its oldest window. -/
theorem run_trend_error {today : Date} {event : AnalyticsEvent} {granularity : TrendGranularity}
    {n : ℕ} {endDate : Option Date} {e : AnalyticsError}
    (h : trendWindow granularity.days (n + 1) (endDate.getD today) 0 = .error e) :
    (trend today event granularity (n + 1) endDate).run AnalyticsStore.exec store =
      (.error e, store) := by
  rw [trend, List.range_succ_eq_map, trendPoints, h]
  rfl

/-- Counts over days that are put together add up. -/
theorem countOver_flatten (event : AnalyticsEvent) (windows : List (List Date)) :
    countOver store event windows.flatten = (windows.map (countOver store event)).sum := by
  rw [countOver, List.map_flatten, List.sum_flatten, List.map_map]
  rfl

/-- The counts of a usage record are those read. -/
theorem countOf_of_metrics {days : List Date} {usage : UsageMetrics}
    (h : (readingsOver store days).metrics = .ok usage) (event : AnalyticsEvent) :
    usage.countOf event = countOver store event days := by
  unfold UsageReadings.metrics at h
  split at h
  · cases h
    cases event with
    | upload => rfl
    | duplicateCheck => rfl
    | recommendation => rfl
    | search => rfl
  · cases h

end Run

end AnalyticsEngine

/-! ### Trends and totals -/

/-- The list holds every day between two dates, once and in order. -/
def IsDays (first last : Date) (days : List Date) : Prop :=
  days.Pairwise (· < ·) ∧ ∀ day, day ∈ days ↔ first ≤ day ∧ day ≤ last

namespace AnalyticsEngine

theorem isDays_of_ordinalsFrom {first last : Date} {n : ℕ} {days : List Date}
    (h : days.map Subtype.val = ordinalsFrom first.val n) (hlast : last.val = first.val + n - 1) :
    IsDays first last days := by
  constructor
  · have hordered : (days.map Subtype.val).Pairwise (· < ·) := h ▸ pairwise_ordinalsFrom first.val n
    exact (List.pairwise_map (f := Subtype.val) (R := (· < ·))).1 hordered
  · intro day
    rw [← List.mem_map_of_injective Subtype.val_injective, h, mem_ordinalsFrom,
      ← Subtype.coe_le_coe, ← Subtype.coe_le_coe]
    omega

/-- As many days as a window has, from a date on, are the days up to another date. -/
theorem exists_isDays {first : Date} {n : ℕ} {days : List Date} (hpos : 0 < n)
    (h : days.map Subtype.val = ordinalsFrom first.val n) :
    days.length = n ∧ ∃ last, IsDays first last days := by
  have hlength : days.length = n := by
    rw [← List.length_map Subtype.val, h, ordinalsFrom, List.length_map, List.length_range]
  have hmem : first.val + n - 1 ∈ days.map Subtype.val := by
    rw [h, mem_ordinalsFrom]
    omega
  obtain ⟨last, -, hlast⟩ := List.mem_map.1 hmem
  exact ⟨hlength, last, isDays_of_ordinalsFrom h hlast⟩

/-- The windows of a trend: they follow one another, up to its last day. -/
theorem exists_windows {windowDays periods : ℕ} {last : Date} (hpos : 0 < windowDays)
    (h : ((periods * windowDays : ℕ) : ℤ) ≤ last.val) :
    ∃ windows : List (Date × List Date),
      List.Forall₂ (fun i window => trendWindow windowDays periods last i = .ok window)
        (List.range periods) windows ∧
      (∀ window ∈ windows, window.2.map Subtype.val = ordinalsFrom window.1.val windowDays) ∧
      (windows.map Prod.snd).flatten.map Subtype.val =
        ordinalsFrom (last.val - (periods * windowDays : ℕ) + 1) (periods * windowDays) := by
  have hwindow : ∀ i ∈ List.range periods, ∃ window : Date × List Date,
      trendWindow windowDays periods last i = .ok window ∧
      window.1.val = last.val - (periods * windowDays : ℕ) + 1 + i * windowDays ∧
      window.2.map Subtype.val = ordinalsFrom window.1.val windowDays := by
    intro i hi
    obtain ⟨start, days, hok, hstart, hdays⟩ := trendWindow_eq_ok (List.mem_range.1 hi) hpos h
    exact ⟨(start, days), hok, hstart, hdays⟩
  have : Nonempty Date := ⟨last⟩
  choose! window hok hstart hdays using hwindow
  refine ⟨(List.range periods).map window, ?_, ?_, ?_⟩
  · exact List.forall₂_map_right_iff.2 (List.forall₂_same.2 hok)
  · intro w hw
    obtain ⟨i, hi, rfl⟩ := List.mem_map.1 hw
    exact hdays i hi
  · rw [← flatten_ordinalsFrom, List.map_flatten, List.map_map, List.map_map]
    refine congrArg List.flatten (List.map_congr_left fun i hi => ?_)
    simp only [Function.comp_apply, hdays i hi, hstart i hi]

/-- A trend and the reports over the days of its windows, as they are answered from a store. -/
structure TrendAgrees (store : AnalyticsStore) (today : Date) (event : AnalyticsEvent)
    (granularity : TrendGranularity) (periods : ℕ) (period : Text) (endDate : Option Date)
    (points : List TrendPoint) (windows : List (List Date)) (start : Date) : Prop where
  trend_eq : (trend today event granularity periods endDate).run AnalyticsStore.exec store =
    (.ok ⟨event.value, granularity.value, points⟩, store)
  length_windows : windows.length = periods
  windows_of_points : List.Forall₂ (fun point window => window.length = granularity.days ∧
    (∃ windowEnd, IsDays point.periodStart windowEnd window) ∧
    point.value = (countOver store event window : ℚ)) points windows
  partition : IsDays start (endDate.getD today) windows.flatten
  usage_eq : (usage today (periods * granularity.days) endDate).run AnalyticsStore.exec store =
    ((readingsOver store windows.flatten).metrics, store)
  report_eq :
    (report today (periods * granularity.days) period endDate).run AnalyticsStore.exec store =
      ((readingsOver store windows.flatten).metrics.map fun usage =>
        ⟨period, start, endDate.getD today, usage⟩, store)
  totals : ∀ usage, (readingsOver store windows.flatten).metrics = .ok usage →
    (∀ e, usage.countOf e = countOver store e windows.flatten) ∧
      (points.map TrendPoint.value).sum = (usage.countOf event : ℚ)

/-- A trend and the reports over the days of its windows all fail. -/
structure TrendFails (store : AnalyticsStore) (today : Date) (event : AnalyticsEvent)
    (granularity : TrendGranularity) (periods : ℕ) (period : Text) (endDate : Option Date) :
    Prop where
  too_early : (endDate.getD today).val < (periods * granularity.days : ℕ)
  trend_eq : (trend today event granularity periods endDate).run AnalyticsStore.exec store =
    (.error .dateOutOfRange, store)
  usage_eq : (usage today (periods * granularity.days) endDate).run AnalyticsStore.exec store =
    (.error .dateOutOfRange, store)
  report_eq :
    (report today (periods * granularity.days) period endDate).run AnalyticsStore.exec store =
      (.error .dateOutOfRange, store)

/-- **Trends and totals agree.**  Whatever the buckets hold, the windows of a trend put together are
the days of the usage report over as many days, every day once and in order, each window as wide as
the granularity and the newest ending on the date.  A point is its window's count, and so the points
add up to the report's.  Both fail alike where the days go back further than dates do. -/
theorem trend_agrees_with_usage (store : AnalyticsStore) (today : Date) (event : AnalyticsEvent)
    (granularity : TrendGranularity) (periods : ℕ) (period : Text) (endDate : Option Date)
    (hperiods : 1 ≤ periods) :
    TrendFails store today event granularity periods period endDate ∨
      ∃ points windows start,
        TrendAgrees store today event granularity periods period endDate points windows start := by
  have hpos : 0 < periods * granularity.days := Nat.mul_pos hperiods granularity.days_pos
  by_cases h : (endDate.getD today).val < (periods * granularity.days : ℕ)
  · -- both begin with their oldest day
    have hlist : lastNDays today (periods * granularity.days) endDate = .error .dateOutOfRange :=
      lastNDays_eq_error hpos h
    obtain ⟨n, rfl⟩ := Nat.exists_eq_add_of_le' hperiods
    exact .inl ⟨h, run_trend_error store (trendWindow_eq_error hperiods h),
      run_usage_error store hlist, run_report_error store hlist⟩
  · right
    have hfits : ((periods * granularity.days : ℕ) : ℤ) ≤ (endDate.getD today).val := not_lt.1 h
    obtain ⟨windows, hwindows, hdays, hflatten⟩ := exists_windows granularity.days_pos hfits
    obtain ⟨dateList, hlist, hval⟩ := lastNDays_eq_ok hfits
    -- the windows put together are the days of the usage report
    have hsame : dateList = (windows.map Prod.snd).flatten :=
      List.map_injective_iff.2 Subtype.val_injective (hval.trans hflatten.symm)
    subst hsame
    have hlast := (endDate.getD today).property
    obtain ⟨start, hstart⟩ : ∃ start : Date,
        start.val = (endDate.getD today).val - ((periods * granularity.days : ℕ) - 1) :=
      ⟨⟨_, by omega⟩, rfl⟩
    have husage := run_usage store hlist
    refine ⟨_, windows.map Prod.snd, start, run_trend store hwindows, ?_, ?_, ?_, husage, ?_, ?_⟩
    · rw [List.length_map, ← hwindows.length_eq, List.length_range]
    · refine List.forall₂_map_left_iff.2 (List.forall₂_map_right_iff.2 (List.forall₂_same.2 ?_))
      intro window hwindow
      obtain ⟨hlength, hwindowEnd⟩ := exists_isDays granularity.days_pos (hdays window hwindow)
      exact ⟨hlength, hwindowEnd, rfl⟩
    · refine isDays_of_ordinalsFrom (n := periods * granularity.days) ?_ (by omega)
      rw [hflatten, hstart]
      exact congrArg (ordinalsFrom · _) (by omega)
    · have hsub : (endDate.getD today).sub ((periods * granularity.days : ℕ) - 1) = .ok start :=
        Date.ofOrdinal_eq_ok.2 hstart
      rw [run_report store hsub, husage]
    · intro usage hok
      have hcount := countOf_of_metrics store hok
      refine ⟨hcount, ?_⟩
      rw [hcount, countOver_flatten, Nat.cast_list_sum]
      simp [Function.comp_def]

theorem twentieth_inRange : 1 ≤ (20 : ℤ) ∧ (20 : ℤ) ≤ maxOrdinal := by decide

/-- January 20 of the year 1. -/
def twentieth : Date := ⟨20, twentieth_inRange⟩

theorem tenth_inRange : 1 ≤ (10 : ℤ) ∧ (10 : ℤ) ≤ maxOrdinal := by decide

/-- January 10 of the year 1. -/
def tenth : Date := ⟨10, tenth_inRange⟩

/-- Two uploads on one day and one on the other. -/
def threeUploads : AnalyticsStore :=
  { AnalyticsStore.empty with
    tallies := fun key =>
      if key = .count .upload twentieth then some ⟨2, none⟩
      else if key = .count .upload tenth then some ⟨1, none⟩ else none }

/-- The two weeks up to the twentieth. -/
theorem trend_agrees_with_usage_two_weeks :
    ∃ points windows start, TrendAgrees threeUploads twentieth .upload .weekly 2
      "two weeks".toList none points windows start := by
  rcases trend_agrees_with_usage threeUploads twentieth .upload .weekly 2
    "two weeks".toList none (by decide) with h | h
  · exact absurd h.too_early (by decide)
  · exact h

end AnalyticsEngine

end ProductIntelligence
