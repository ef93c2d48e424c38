import ProductIntelligence.Analytics.Engine
import ProductIntelligence.Lists.Statistics
import ProductIntelligence.Logic.Interleaving

/-!
# Latency averages under failures

Any number of clients record events and latencies and read usage reports, command by command.  A
latency goes into two buckets by two commands, and a report reads the two kinds of buckets by two
commands.  A command that fails ends the recording half way, and nobody is told.

A recording that has been added to a sum and not counted yet is pending.  As long as the pending
recordings are those in progress, a day's two buckets describe the same samples up to the pending
ones.  A recording that ends while it is pending leaves a sum that no count goes with.

## Main definitions

* `analyticsMachine` — the system: recordings and reports on one store, whose clock moves.
* `Truthful` — every average that was reported lies between two latencies recorded in its range.
* `sampling` — the discipline of a recording and of a report.
* `Undisturbed` — no recording ends while it is pending, no report sees a latency in one bucket of a
  day and not in the other, and the buckets of a day expire together.

## Main results

* `DaySampled.congr` — what leaves the samples of a day alone.
* `Sampled.step` — the invariant is kept by every undisturbed step.
* `undisturbed_truthful` — **averages are truthful in undisturbed runs**.
* `not_truthful_of_failure` — a recording whose second command fails makes an average untruthful.

## References

`backend/app/repositories/analytics_repository.py`,
`backend/app/services/analytics/analytics_engine.py`.
-/

namespace ProductIntelligence

open Effects
open AnalyticsStore (Reply)

variable {ι : Type}

/-! ### The system -/

/-- What clients do: record an event, record a latency, or read what a usage report is built of. -/
inductive AnalyticsOp
  | recordEvent (today : Date) (event : AnalyticsEvent) (day : Option Date)
  | recordLatency (today : Date) (seconds : ℚ) (day : Option Date)
  | usage (dateList : List Date)

/-- A state of the clients and their store. -/
abbrev AnalyticsConfig (ι : Type) :=
  Config Reply AnalyticsStore ι AnalyticsOp (Option UsageReadings)

/-- A move: a client begins, issues its next command or meets a failure, or the clock moves. -/
abbrev AnalyticsLabel (ι : Type) := Label ι AnalyticsOp Time

/-- What happened, newest first. -/
abbrev AnalyticsLog (ι : Type) := List (Event Reply ι AnalyticsOp (Option UsageReadings))

/-- The commands of an operation. -/
def AnalyticsOp.body : AnalyticsOp → Program Reply (Option UsageReadings)
  | .recordEvent today event day => do
    let _ ← AnalyticsRepository.recordEvent today event day
    pure none
  | .recordLatency today seconds day => do
    let _ ← AnalyticsRepository.recordLatency today seconds day
    pure none
  | .usage dateList => do
    let readings ← AnalyticsEngine.readings dateList
    pure (some readings)

/-- Recordings and reports on one store. -/
def analyticsMachine :
    Machine Reply AnalyticsStore AnalyticsOp (Option UsageReadings) Time where
  handler := AnalyticsStore.exec
  body := AnalyticsOp.body
  env time store := if store.clock ≤ time then some { store with clock := time } else none

/-- Nobody has begun, and nothing is recorded. -/
def AnalyticsConfig.init : AnalyticsConfig ι := ⟨AnalyticsStore.empty, fun _ => none, []⟩

/-! ### Truthful averages -/

/-- A latency that was added to the sum of one of the days. -/
def Measured (days : List Date) (log : AnalyticsLog ι) (seconds : ℚ) : Prop :=
  ∃ i o day reply, day ∈ days ∧ Event.ran i o ⟨.incrByFloat day seconds, reply⟩ ∈ log

/-- The average that was read lies between two latencies recorded in the range. -/
def AverageWithin (days : List Date) (log : AnalyticsLog ι) (readings : UsageReadings) : Prop :=
  ∃ least greatest, Measured days log least ∧ Measured days log greatest ∧
    least ≤ readings.average ∧ readings.average ≤ greatest

/-- Every average reported over a positive number of samples lies between two latencies recorded in
its range. -/
def Truthful (log : AnalyticsLog ι) : Prop :=
  ∀ newer i days readings older, log = newer ++ .returned i (.usage days) (some readings) :: older →
    0 < readings.latencyCount → AverageWithin days older readings

/-! ### The discipline -/

/-- How far an operation is with a latency: it has one to record, it has added it to the sum of a
day, it has read the sums of some days, or it has read their counts as well. -/
inductive Sampling
  | plain
  | sample (day : Date) (seconds : ℚ)
  | summed (day : Date) (seconds : ℚ)
  | half (days : List Date) (total : ℚ)
  | read (days : List Date) (total : ℚ) (count : ℕ)

/-- What an operation begins with. -/
def Sampling.init : AnalyticsOp → Sampling
  | .recordLatency today seconds day => .sample (day.getD today) seconds
  | _ => .plain

/-- **The sampling discipline**: a latency is added to the sum of its day and then counted for it;
the counts of some days are read right after their sums. -/
def sampling : Discipline Reply Sampling where
  allows
    | .sample day seconds, .incrByFloat day' amount => day' = day ∧ amount = seconds
    | .summed day _, .incr key => key = .latencyCount day
    | .half days _, .mgetTallies keys => keys = days.map .latencyCount
    | .plain, .incr (.count _ _) => True
    | .plain, .expireTally _ seconds => seconds = analyticsTtlSeconds
    | .plain, .expireSum _ seconds => seconds = analyticsTtlSeconds
    | .plain, .mgetTallies _ => True
    | .plain, .mgetSums _ => True
    | _, _ => False
  expects _ _ _ := True
  next
    | .sample _ _, .incrByFloat day amount, _ => .summed day amount
    | .summed _ _, .incr _, _ => .plain
    | .plain, .mgetSums days, sums => .half days sums.reduceOption.sum
    | .half days total, .mgetTallies _, counts => .read days total counts.reduceOption.sum
    | g, _, _ => g

/-- A recording returns nothing, and a report what it has read. -/
def returnsReadings (o : AnalyticsOp) (answer : Option UsageReadings) (g : Sampling) : Prop :=
  (g = .plain ∧ ∀ readings ∈ answer, readings.latencyCount = 0) ∨
    ∃ days readings, o = .usage days ∧ answer = some readings ∧
      g = .read days readings.latencySum readings.latencyCount

/-- **Every operation keeps to the discipline.** -/
theorem body_obeys (o : AnalyticsOp) :
    o.body.Obeys sampling (returnsReadings o) (Sampling.init o) := by
  cases o with
  | recordEvent today event day =>
    exact ⟨trivial, fun _ _ => ⟨rfl, fun _ _ => .inl ⟨rfl, by rintro _ ⟨⟩⟩⟩⟩
  | recordLatency today seconds day =>
    exact ⟨⟨rfl, rfl⟩, fun _ _ => ⟨rfl, fun _ _ => ⟨rfl, fun _ _ => ⟨rfl, fun _ _ =>
      .inl ⟨rfl, by rintro _ ⟨⟩⟩⟩⟩⟩⟩
  | usage dateList =>
    cases dateList with
    | nil => exact .inl ⟨rfl, by rintro _ ⟨⟩; rfl⟩
    | cons day days =>
      exact ⟨trivial, fun _ _ => ⟨trivial, fun _ _ => ⟨trivial, fun _ _ => ⟨trivial, fun _ _ =>
        ⟨trivial, fun _ _ => ⟨rfl, fun _ _ => .inr ⟨_, _, rfl, rfl, rfl⟩⟩⟩⟩⟩⟩⟩

/-- How far a client is. -/
def samplingOf (cfg : AnalyticsConfig ι) (i : ι) : Option Sampling :=
  (cfg.sessions i).map (Session.ghost sampling Sampling.init)

/-! ### Undisturbed steps -/

/-- The client has added a latency to the sum of the day, and will count it next. -/
def Pending (cfg : AnalyticsConfig ι) (day : Date) (i : ι) : Prop :=
  cfg.nextCommand i = some (.incr (.latencyCount day))

/-- The client has read the sum of the day, and will read its count next. -/
def AwaitsCount (cfg : AnalyticsConfig ι) (day : Date) (i : ι) : Prop :=
  ∃ keys, cfg.nextCommand i = some (.mgetTallies keys) ∧ .latencyCount day ∈ keys

/-- The two buckets of a day are found at a time as they are found now. -/
def Lasts (store : AnalyticsStore) (time : Time) (day : Date) : Prop :=
  ({ store with clock := time } : AnalyticsStore).sumOf day = store.sumOf day ∧
    ({ store with clock := time } : AnalyticsStore).tallyOf (.latencyCount day) =
      store.tallyOf (.latencyCount day)

/-- The two buckets of a day are both gone at a time. -/
def Gone (store : AnalyticsStore) (time : Time) (day : Date) : Prop :=
  ({ store with clock := time } : AnalyticsStore).sumOf day = 0 ∧
    ({ store with clock := time } : AnalyticsStore).tallyOf (.latencyCount day) = 0

/-- No recording fails while it is pending; no sums are read of a day with a pending recording, and
no latency is counted for a day whose count is about to be read; and the buckets of a day expire
together, while no recording of the day is pending and its count is not about to be read. -/
def Undisturbed (cfg : AnalyticsConfig ι) : AnalyticsLabel ι → Prop
  | .start _ _ => True
  | .abort i => ∀ day, ¬ Pending cfg day i
  | .exec i =>
    (∀ days, cfg.nextCommand i = some (.mgetSums days) → ∀ day ∈ days, ∀ k, ¬ Pending cfg day k) ∧
      ∀ day, Pending cfg day i → ∀ k, ¬ AwaitsCount cfg day k
  | .env time => ∀ day, Lasts cfg.store time day ∨
    Gone cfg.store time day ∧ ∀ k, ¬ Pending cfg day k ∧ ¬ AwaitsCount cfg day k

/-! ### The samples of a day -/

/-- A sum and a count describe latencies that were measured in the range. -/
def Describes (days : List Date) (log : AnalyticsLog ι) (total : ℚ) (count : ℕ) : Prop :=
  ∃ samples : List ℚ, (∀ seconds ∈ samples, Measured days log seconds) ∧
    total = samples.sum ∧ count = samples.length

/-- The sum of a day holds the samples that were counted and those of the clients that are
pending. -/
def DaySampled (cfg : AnalyticsConfig ι) (day : Date) : Prop :=
  ∃ (samples : List ℚ) (pending : List (ι × ℚ)),
    (pending.map Prod.fst).Nodup ∧
    (∀ i seconds, (i, seconds) ∈ pending ↔ samplingOf cfg i = some (.summed day seconds)) ∧
    (∀ seconds ∈ samples ++ pending.map Prod.snd, Measured [day] cfg.log seconds) ∧
    cfg.store.sumOf day = samples.sum + (pending.map Prod.snd).sum ∧
    cfg.store.tallyOf (.latencyCount day) = samples.length

/-- No recording of the day is pending. -/
def Balanced (cfg : AnalyticsConfig ι) (day : Date) : Prop :=
  ∀ i seconds, samplingOf cfg i ≠ some (.summed day seconds)

/-- Every average that can be read describes latencies measured in its range. -/
structure Sampled (cfg : AnalyticsConfig ι) : Prop where
  obeying : cfg.Obeying sampling Sampling.init returnsReadings
  sampled : ∀ day, DaySampled cfg day
  half : ∀ i days total, samplingOf cfg i = some (.half days total) →
    Describes days cfg.log total (days.map fun day => cfg.store.tallyOf (.latencyCount day)).sum
  read : ∀ i days total count, samplingOf cfg i = some (.read days total count) →
    Describes days cfg.log total count
  truthful : Truthful cfg.log

section Facts

variable {cfg cfg' : AnalyticsConfig ι} {log log' : AnalyticsLog ι} {day : Date} {days : List Date}

/-- What was measured stays so, and in any wider range. -/
theorem Measured.mono {days' : List Date} {seconds : ℚ} (h : Measured days log seconds)
    (hdays : ∀ day ∈ days, day ∈ days') (hlog : ∀ e ∈ log, e ∈ log') :
    Measured days' log' seconds := by
  obtain ⟨i, o, day, reply, hday, he⟩ := h
  exact ⟨i, o, day, reply, hdays day hday, hlog _ he⟩

theorem Describes.mono {total : ℚ} {count : ℕ} (h : Describes days log total count)
    (hlog : ∀ e ∈ log, e ∈ log') : Describes days log' total count := by
  obtain ⟨samples, hsamples, htotal, hcount⟩ := h
  exact ⟨samples, fun s hs => (hsamples s hs).mono (fun _ => id) hlog, htotal, hcount⟩

/-- A sum and a count that describe at least one latency have a truthful average. -/
theorem Describes.averageWithin {readings : UsageReadings}
    (h : Describes days log readings.latencySum readings.latencyCount)
    (hpos : 0 < readings.latencyCount) : AverageWithin days log readings := by
  obtain ⟨samples, hsamples, htotal, hcount⟩ := h
  have hne : samples ≠ [] := List.length_pos_iff.1 (hcount ▸ hpos)
  have haverage : readings.average = Statistics.mean samples := by
    rw [UsageReadings.average, if_pos hpos.ne', htotal, hcount, Statistics.mean]
  obtain ⟨least, hleast, hle⟩ := Statistics.exists_le_mean hne
  obtain ⟨greatest, hgreatest, hge⟩ := Statistics.exists_mean_le hne
  rw [← haverage] at hle hge
  exact ⟨least, greatest, hsamples _ hleast, hsamples _ hgreatest, hle, hge⟩

/-- The buckets of balanced days describe what was measured on them. -/
theorem describes_of_balanced (h : ∀ day ∈ days, DaySampled cfg day ∧ Balanced cfg day) :
    Describes days cfg.log (days.map fun day => cfg.store.sumOf day).sum
      (days.map fun day => cfg.store.tallyOf (.latencyCount day)).sum := by
  induction days with
  | nil => exact ⟨[], by simp, by simp, by simp⟩
  | cons day days ih =>
    obtain ⟨rest, hrest, htotal, hcount⟩ := ih fun d hd => h d (List.mem_cons_of_mem _ hd)
    obtain ⟨⟨samples, pending, -, hpending, hmeasured, hsum, htally⟩, hbalanced⟩ :=
      h day (List.mem_cons_self ..)
    have hnone : pending = [] := List.eq_nil_iff_forall_not_mem.2 fun p hp =>
      hbalanced p.1 p.2 ((hpending p.1 p.2).1 hp)
    subst hnone
    refine ⟨samples ++ rest, fun s hs => ?_, ?_, ?_⟩
    · rcases List.mem_append.1 hs with hs | hs
      · exact (hmeasured s (by simpa using hs)).mono (by simp) fun _ => id
      · exact (hrest s hs).mono (fun d hd => List.mem_cons_of_mem _ hd) fun _ => id
    · rw [List.map_cons, List.sum_cons, hsum, htotal, List.sum_append]
      simp
    · rw [List.map_cons, List.sum_cons, htally, hcount, List.length_append]

/-- Only the buckets of the day and the pending clients matter. -/
theorem DaySampled.congr (h : DaySampled cfg day) (hlog : ∀ e ∈ cfg.log, e ∈ cfg'.log)
    (hsum : cfg'.store.sumOf day = cfg.store.sumOf day)
    (htally : cfg'.store.tallyOf (.latencyCount day) = cfg.store.tallyOf (.latencyCount day))
    (hpending : ∀ i seconds, samplingOf cfg' i = some (.summed day seconds) ↔
      samplingOf cfg i = some (.summed day seconds)) : DaySampled cfg' day := by
  obtain ⟨samples, pending, hnodup, hmem, hmeasured, hsamples, hcount⟩ := h
  exact ⟨samples, pending, hnodup, fun i s => (hmem i s).trans (hpending i s).symm,
    fun s hs => (hmeasured s hs).mono (fun _ => id) hlog, hsum.trans hsamples,
    htally.trans hcount⟩

/-- A client that is pending for the day counts its latency next. -/
theorem Sampled.pending (h : Sampled cfg) {i : ι} {seconds : ℚ}
    (hi : samplingOf cfg i = some (.summed day seconds)) : Pending cfg day i := by
  obtain ⟨⟨o, rest, xs⟩, hs, hghost⟩ := Option.map_eq_some_iff.1 hi
  have hobeys := h.obeying i _ hs
  rw [hghost] at hobeys
  cases rest with
  | done b =>
    rcases hobeys with ⟨hplain, -⟩ | ⟨_, _, -, -, hread⟩
    · cases hplain
    · cases hread
  | request c next =>
    have hallows := hobeys.1
    cases c with
    | incr key =>
      obtain rfl : key = .latencyCount day := hallows
      rw [Pending, Config.nextCommand, hs]
    | _ => exact hallows.elim

/-- A client that has read the sums of some days reads their counts next. -/
theorem Sampled.awaitsCount (h : Sampled cfg) {i : ι} {total : ℚ}
    (hi : samplingOf cfg i = some (.half days total)) (hday : day ∈ days) :
    AwaitsCount cfg day i := by
  obtain ⟨⟨o, rest, xs⟩, hs, hghost⟩ := Option.map_eq_some_iff.1 hi
  have hobeys := h.obeying i _ hs
  rw [hghost] at hobeys
  cases rest with
  | done b =>
    rcases hobeys with ⟨hplain, -⟩ | ⟨_, _, -, -, hread⟩
    · cases hplain
    · cases hread
  | request c next =>
    have hallows := hobeys.1
    cases c with
    | mgetTallies keys =>
      obtain rfl : keys = days.map .latencyCount := hallows
      refine ⟨days.map .latencyCount, ?_, List.mem_map_of_mem hday⟩
      rw [Config.nextCommand, hs]
    | _ => exact hallows.elim

end Facts

/-! ### Moves -/

section Moves

variable [DecidableEq ι] {cfg cfg' : AnalyticsConfig ι} {log : AnalyticsLog ι} {i : ι}

/-- Only the client that goes on gets further. -/
theorem samplingOf_update (cfg : AnalyticsConfig ι) (i k : ι)
    (s : Option (Session Reply AnalyticsOp (Option UsageReadings))) :
    samplingOf { cfg with sessions := Function.update cfg.sessions i s } k =
      if k = i then s.map (Session.ghost sampling Sampling.init) else samplingOf cfg k := by
  unfold samplingOf
  by_cases hk : k = i
  · subst hk
    simp only [Function.update_self, if_true]
  · simp only [Function.update_of_ne hk, if_neg hk]

omit [DecidableEq ι] in
/-- Only what a report returns has to be truthful. -/
theorem Truthful.cons (h : Truthful log) {e : Event Reply ι AnalyticsOp (Option UsageReadings)}
    (he : ∀ i days readings, e = .returned i (.usage days) (some readings) →
      0 < readings.latencyCount → AverageWithin days log readings) : Truthful (e :: log) := by
  intro newer i days readings older heq hpos
  cases newer with
  | nil =>
    obtain ⟨rfl, rfl⟩ := List.cons.inj heq
    exact he i days readings rfl hpos
  | cons e' newer =>
    obtain ⟨-, rfl⟩ := List.cons.inj heq
    exact h newer i days readings older rfl hpos

/-- An operation is at its start, or with nothing in hand. -/
def Sampling.Inert : Sampling → Prop
  | .plain => True
  | .sample _ _ => True
  | _ => False

/-- A move of one client that leaves the days alone whose counts others are about to read. -/
theorem Sampled.move (h : Sampled cfg)
    (hobeying : cfg'.Obeying sampling Sampling.init returnsReadings)
    (hlog : ∀ e ∈ cfg.log, e ∈ cfg'.log) (htruthful : Truthful cfg'.log)
    (hothers : ∀ k, k ≠ i → samplingOf cfg' k = samplingOf cfg k)
    (hsampled : ∀ day, DaySampled cfg' day)
    (huntouched : ∀ k days total, samplingOf cfg k = some (.half days total) → ∀ day ∈ days,
      cfg'.store.tallyOf (.latencyCount day) = cfg.store.tallyOf (.latencyCount day))
    (hhalf : ∀ days total, samplingOf cfg' i = some (.half days total) → Describes days cfg'.log
      total (days.map fun day => cfg'.store.tallyOf (.latencyCount day)).sum)
    (hread : ∀ days total count, samplingOf cfg' i = some (.read days total count) →
      Describes days cfg'.log total count) : Sampled cfg' := by
  constructor
  · exact hobeying
  · exact hsampled
  · intro k days total hk
    by_cases hki : k = i
    · subst hki
      exact hhalf days total hk
    · rw [hothers k hki] at hk
      rw [List.map_congr_left (huntouched k days total hk)]
      exact (h.half k days total hk).mono hlog
  · intro k days total count hk
    by_cases hki : k = i
    · subst hki
      exact hread days total count hk
    · exact (h.read k days total count ((hothers k hki).symm.trans hk)).mono hlog
  · exact htruthful

/-- A move that changes no bucket, of a client that is not pending and gets nowhere. -/
theorem Sampled.quiet (h : Sampled cfg)
    (hobeying : cfg'.Obeying sampling Sampling.init returnsReadings)
    (hlog : ∀ e ∈ cfg.log, e ∈ cfg'.log) (htruthful : Truthful cfg'.log)
    (hsum : ∀ day, cfg'.store.sumOf day = cfg.store.sumOf day)
    (htally : ∀ day, cfg'.store.tallyOf (.latencyCount day) =
      cfg.store.tallyOf (.latencyCount day))
    (hothers : ∀ k, k ≠ i → samplingOf cfg' k = samplingOf cfg k)
    (hbefore : ∀ day seconds, samplingOf cfg i ≠ some (.summed day seconds))
    (hafter : ∀ g ∈ samplingOf cfg' i, g.Inert) : Sampled cfg' := by
  refine h.move hobeying hlog htruthful hothers (fun day => ?_) ?_ ?_ ?_
  · refine (h.sampled day).congr hlog (hsum day) (htally day) fun k seconds => ?_
    by_cases hk : k = i
    · subst hk
      exact ⟨fun hsome => (hafter _ hsome).elim, fun hsome => absurd hsome (hbefore day seconds)⟩
    · rw [hothers k hk]
  · exact fun k days total _ day _ => htally day
  · exact fun days total hsome => (hafter _ hsome).elim
  · exact fun days total count hsome => (hafter _ hsome).elim

end Moves

/-! ### Replies -/

section Replies

variable [DecidableEq ι] {cfg : AnalyticsConfig ι} {i : ι} {o : AnalyticsOp}
  {c : AnalyticsStore.Command} {next : Reply c → Program Reply (Option UsageReadings)}
  {xs : List (Exchange Reply)}

/-- The client that gets a reply goes on as the discipline says. -/
theorem samplingOf_answered (hi : cfg.sessions i = some ⟨o, .request c next, xs⟩) (k : ι) :
    samplingOf (analyticsMachine.answered cfg i o c next xs) k =
      if k = i then (samplingOf cfg i).map fun g =>
        sampling.next g c (AnalyticsStore.exec c cfg.store).1
      else samplingOf cfg k := by
  refine (samplingOf_update _ i k _).trans ?_
  unfold samplingOf
  rw [hi]
  rfl

/-- What is in the log stays in it. -/
theorem mem_log_answered {e : Event Reply ι AnalyticsOp (Option UsageReadings)}
    (he : e ∈ cfg.log) : e ∈ (analyticsMachine.answered cfg i o c next xs).log :=
  List.mem_cons_of_mem _ he

theorem samplingOf_answered_self (hi : cfg.sessions i = some ⟨o, .request c next, xs⟩)
    {g g' : Sampling} (hghost : samplingOf cfg i = some g)
    (hnext : sampling.next g c (AnalyticsStore.exec c cfg.store).1 = g') :
    samplingOf (analyticsMachine.answered cfg i o c next xs) i = some g' := by
  rw [samplingOf_answered hi, if_pos rfl, hghost, Option.map_some, hnext]

theorem samplingOf_answered_of_ne (hi : cfg.sessions i = some ⟨o, .request c next, xs⟩) {k : ι}
    (hk : k ≠ i) :
    samplingOf (analyticsMachine.answered cfg i o c next xs) k = samplingOf cfg k := by
  rw [samplingOf_answered hi, if_neg hk]

/-- What a reply has to keep: the samples of each day, the counts about to be read, and what the
client has read by then. -/
theorem Sampled.answered (h : Sampled cfg) (hi : cfg.sessions i = some ⟨o, .request c next, xs⟩)
    {g : Sampling} (hself : samplingOf (analyticsMachine.answered cfg i o c next xs) i = some g)
    (hsampled : ∀ day, DaySampled (analyticsMachine.answered cfg i o c next xs) day)
    (huntouched : ∀ k days total, samplingOf cfg k = some (.half days total) → ∀ day ∈ days,
      (analyticsMachine.answered cfg i o c next xs).store.tallyOf (.latencyCount day) =
        cfg.store.tallyOf (.latencyCount day))
    (hhalf : ∀ days total, g = .half days total →
      Describes days (analyticsMachine.answered cfg i o c next xs).log total (days.map fun day =>
        (analyticsMachine.answered cfg i o c next xs).store.tallyOf (.latencyCount day)).sum)
    (hread : ∀ days total count, g = .read days total count →
      Describes days (analyticsMachine.answered cfg i o c next xs).log total count) :
    Sampled (analyticsMachine.answered cfg i o c next xs) := by
  refine h.move (i := i) ?_ (fun _ => mem_log_answered) (h.truthful.cons (by rintro _ _ _ ⟨⟩))
    (fun _ => samplingOf_answered_of_ne hi) hsampled huntouched ?_ ?_
  · exact h.obeying.answered hi trivial
  · intro days total hk
    exact hhalf days total (Option.some_inj.1 (hself.symm.trans hk))
  · intro days total count hk
    exact hread days total count (Option.some_inj.1 (hself.symm.trans hk))

/-- A command that changes no bucket, of a client that is not pending and gets nowhere. -/
theorem Sampled.answered_quiet (h : Sampled cfg)
    (hi : cfg.sessions i = some ⟨o, .request c next, xs⟩)
    (hsum : ∀ day, (AnalyticsStore.exec c cfg.store).2.sumOf day = cfg.store.sumOf day)
    (htally : ∀ day, (AnalyticsStore.exec c cfg.store).2.tallyOf (.latencyCount day) =
      cfg.store.tallyOf (.latencyCount day))
    (hplain : samplingOf cfg i = some .plain)
    (hnext : sampling.next .plain c (AnalyticsStore.exec c cfg.store).1 = .plain) :
    Sampled (analyticsMachine.answered cfg i o c next xs) := by
  refine h.quiet (i := i) ?_ (fun _ => mem_log_answered) (h.truthful.cons (by rintro _ _ _ ⟨⟩))
    hsum htally (fun _ => samplingOf_answered_of_ne hi) ?_ ?_
  · exact h.obeying.answered hi trivial
  · intro day seconds heq
    rw [hplain] at heq
    cases heq
  · intro g hg
    rw [samplingOf_answered_self hi hplain hnext] at hg
    cases hg
    trivial

/-- A latency is added to the sum of its day. -/
theorem Sampled.answered_summed (h : Sampled cfg) {day : Date} {seconds : ℚ}
    {next : Reply (.incrByFloat day seconds) → Program Reply (Option UsageReadings)}
    (hi : cfg.sessions i = some ⟨o, .request (.incrByFloat day seconds) next, xs⟩)
    (hghost : samplingOf cfg i = some (.sample day seconds)) :
    Sampled (analyticsMachine.answered cfg i o (.incrByFloat day seconds) next xs) := by
  have hself : samplingOf (analyticsMachine.answered cfg i o (.incrByFloat day seconds) next xs) i =
      some (.summed day seconds) := samplingOf_answered_self hi hghost rfl
  have hsum : ∀ d, (analyticsMachine.answered cfg i o (.incrByFloat day seconds) next
      xs).store.sumOf d = cfg.store.sumOf d + if day = d then seconds else 0 :=
    fun d => AnalyticsStore.sumOf_incrByFloat cfg.store day d seconds
  refine h.answered hi hself (fun d => ?_) ?_ (by rintro _ _ ⟨⟩) (by rintro _ _ _ ⟨⟩)
  · by_cases hd : day = d
    · -- one more pending sample
      subst hd
      obtain ⟨samples, pending, hnodup, hmem, hmeasured, hsamples, hcount⟩ := h.sampled day
      have hnew : ∀ s, (i, s) ∉ pending := by
        intro s hp
        have hsome := (hmem i s).1 hp
        rw [hghost] at hsome
        cases hsome
      refine ⟨samples, (i, seconds) :: pending, ?_, ?_, ?_, ?_, hcount⟩
      · rw [List.map_cons, List.nodup_cons]
        refine ⟨fun hin => ?_, hnodup⟩
        obtain ⟨⟨_, s⟩, hp, rfl⟩ := List.mem_map.1 hin
        exact hnew s hp
      · intro k s
        by_cases hk : k = i
        · subst hk
          rw [hself, List.mem_cons, or_iff_left (hnew s)]
          constructor
          · rintro ⟨⟩
            rfl
          · rintro ⟨⟩
            rfl
        · rw [samplingOf_answered_of_ne hi hk, List.mem_cons, ← hmem k s]
          exact or_iff_right fun heq => hk (congrArg Prod.fst heq)
      · intro s hs
        have hcases : s = seconds ∨ s ∈ samples ++ pending.map Prod.snd := by
          simp only [List.map_cons, List.mem_append, List.mem_cons] at hs ⊢
          tauto
        rcases hcases with rfl | hold
        · exact ⟨i, o, day, _, List.mem_singleton_self _, List.mem_cons_self ..⟩
        · exact (hmeasured s hold).mono (fun _ => id) fun _ => mem_log_answered
      · rw [hsum, if_pos rfl, hsamples, List.map_cons, List.sum_cons]
        ring
    · refine (h.sampled d).congr (fun _ => mem_log_answered) ?_ rfl fun k s => ?_
      · rw [hsum, if_neg hd, add_zero]
      · by_cases hk : k = i
        · subst hk
          rw [hself, hghost]
          constructor
          · intro heq
            cases heq
            exact absurd rfl hd
          · rintro ⟨⟩
        · rw [samplingOf_answered_of_ne hi hk]
  · exact fun k days total _ d _ => rfl

/-- A pending latency is counted, for a day whose count nobody is about to read. -/
theorem Sampled.answered_counted (h : Sampled cfg) {day : Date} {seconds : ℚ}
    {next : Reply (.incr (.latencyCount day)) → Program Reply (Option UsageReadings)}
    (hi : cfg.sessions i = some ⟨o, .request (.incr (.latencyCount day)) next, xs⟩)
    (hghost : samplingOf cfg i = some (.summed day seconds))
    (hwait : ∀ k, ¬ AwaitsCount cfg day k) :
    Sampled (analyticsMachine.answered cfg i o (.incr (.latencyCount day)) next xs) := by
  have hself : samplingOf
      (analyticsMachine.answered cfg i o (.incr (.latencyCount day)) next xs) i = some .plain :=
    samplingOf_answered_self hi hghost rfl
  have htally : ∀ d, (analyticsMachine.answered cfg i o (.incr (.latencyCount day)) next
      xs).store.tallyOf (.latencyCount d) =
        cfg.store.tallyOf (.latencyCount d) + if day = d then 1 else 0 := by
    intro d
    refine (AnalyticsStore.tallyOf_incr cfg.store _ (.latencyCount d)).trans ?_
    simp only [TallyKey.latencyCount.injEq]
  refine h.answered hi hself (fun d => ?_) ?_ (by rintro _ _ ⟨⟩) (by rintro _ _ _ ⟨⟩)
  · by_cases hd : day = d
    · -- the pending sample joins those counted
      subst hd
      obtain ⟨samples, pending, hnodup, hmem, hmeasured, hsamples, hcount⟩ := h.sampled day
      obtain ⟨before, after, rfl⟩ := List.append_of_mem ((hmem i seconds).2 hghost)
      have hnodup' : i ∉ before.map Prod.fst ++ after.map Prod.fst ∧
          (before.map Prod.fst ++ after.map Prod.fst).Nodup := by
        rw [List.map_append, List.map_cons] at hnodup
        exact List.nodup_middle.1 hnodup |> List.nodup_cons.1
      rw [← List.map_append] at hnodup'
      refine ⟨seconds :: samples, before ++ after, hnodup'.2, ?_, ?_, ?_, ?_⟩
      · intro k s
        by_cases hk : k = i
        · subst hk
          rw [hself]
          constructor
          · intro hp
            exact absurd (List.mem_map_of_mem hp) hnodup'.1
          · rintro ⟨⟩
        · rw [samplingOf_answered_of_ne hi hk, ← hmem k s]
          have hne : (k, s) ≠ (i, seconds) := fun heq => hk (congrArg Prod.fst heq)
          simp only [List.mem_append, List.mem_cons, hne, false_or]
      · intro s hs
        refine (hmeasured s ?_).mono (fun _ => id) fun _ => mem_log_answered
        simp only [List.map_append, List.map_cons, List.mem_append, List.mem_cons] at hs ⊢
        tauto
      · refine hsamples.trans ?_
        simp only [List.map_append, List.map_cons, List.sum_append, List.sum_cons]
        ring
      · rw [htally, if_pos rfl, hcount, List.length_cons]
    · refine (h.sampled d).congr (fun _ => mem_log_answered) rfl ?_ fun k s => ?_
      · rw [htally, if_neg hd, add_zero]
      · by_cases hk : k = i
        · subst hk
          rw [hself, hghost]
          constructor
          · rintro ⟨⟩
          · intro heq
            cases heq
            exact absurd rfl hd
        · rw [samplingOf_answered_of_ne hi hk]
  · intro k days total hk d hd
    have hne : day ≠ d := by
      rintro rfl
      exact hwait k (h.awaitsCount hk hd)
    rw [htally, if_neg hne, add_zero]

/-- The sums of some days are read, none of which has a pending recording. -/
theorem Sampled.answered_sums (h : Sampled cfg) {days : List Date}
    {next : Reply (.mgetSums days) → Program Reply (Option UsageReadings)}
    (hi : cfg.sessions i = some ⟨o, .request (.mgetSums days) next, xs⟩)
    (hghost : samplingOf cfg i = some .plain)
    (hbalanced : ∀ day ∈ days, ∀ k, ¬ Pending cfg day k) :
    Sampled (analyticsMachine.answered cfg i o (.mgetSums days) next xs) := by
  have hself : samplingOf (analyticsMachine.answered cfg i o (.mgetSums days) next xs) i =
      some (.half days (days.map fun day => cfg.store.sumOf day).sum) := by
    refine samplingOf_answered_self hi hghost (congrArg (Sampling.half days) ?_)
    rw [AnalyticsRepository.sum_reduceOption, AnalyticsStore.exec, List.map_map]
    rfl
  refine h.answered hi hself (fun day => ?_) (fun k _ _ _ day _ => rfl) ?_ ?_
  · refine (h.sampled day).congr (fun _ => mem_log_answered) rfl rfl fun k s => ?_
    by_cases hk : k = i
    · subst hk
      rw [hself, hghost]
      exact ⟨by rintro ⟨⟩, by rintro ⟨⟩⟩
    · rw [samplingOf_answered_of_ne hi hk]
  · rintro _ _ ⟨⟩
    have hdays : ∀ day ∈ days, DaySampled cfg day ∧ Balanced cfg day := fun day hday =>
      ⟨h.sampled day, fun k seconds hk => hbalanced day hday k (h.pending hk)⟩
    exact (describes_of_balanced hdays).mono fun _ => mem_log_answered
  · rintro _ _ _ ⟨⟩

/-- The counts of some days are read: with the sums read before, they describe what was measured. -/
theorem Sampled.answered_counts (h : Sampled cfg) {days : List Date} {total : ℚ}
    {next : Reply (.mgetTallies (days.map .latencyCount)) → Program Reply (Option UsageReadings)}
    (hi : cfg.sessions i = some ⟨o, .request (.mgetTallies (days.map .latencyCount)) next, xs⟩)
    (hghost : samplingOf cfg i = some (.half days total)) :
    Sampled (analyticsMachine.answered cfg i o (.mgetTallies (days.map .latencyCount)) next xs) := by
  have hself : samplingOf
      (analyticsMachine.answered cfg i o (.mgetTallies (days.map .latencyCount)) next xs) i =
      some (.read days total (days.map fun day => cfg.store.tallyOf (.latencyCount day)).sum) := by
    refine samplingOf_answered_self hi hghost (congrArg (Sampling.read days total) ?_)
    rw [AnalyticsRepository.sum_reduceOption, AnalyticsStore.exec, List.map_map, List.map_map]
    rfl
  refine h.answered hi hself (fun day => ?_) (fun k _ _ _ day _ => rfl) ?_ ?_
  · refine (h.sampled day).congr (fun _ => mem_log_answered) rfl rfl fun k s => ?_
    by_cases hk : k = i
    · subst hk
      rw [hself, hghost]
      exact ⟨by rintro ⟨⟩, by rintro ⟨⟩⟩
    · rw [samplingOf_answered_of_ne hi hk]
  · rintro _ _ ⟨⟩
  · rintro _ _ _ ⟨⟩
    exact (h.half i _ _ hghost).mono fun _ => mem_log_answered

/-- A client gets the reply to its next command. -/
theorem Sampled.reply (h : Sampled cfg) (hok : Undisturbed cfg (.exec i))
    (hi : cfg.sessions i = some ⟨o, .request c next, xs⟩) :
    Sampled (analyticsMachine.answered cfg i o c next xs) := by
  have hallows := (h.obeying i _ hi).1
  have hcommand : cfg.nextCommand i = some c := Config.mem_nextCommand hi
  have hghost : samplingOf cfg i = some (Session.ghost sampling Sampling.init
      ⟨o, .request c next, xs⟩) := by
    rw [samplingOf, hi]
    rfl
  -- the ghost state says which commands the client may issue
  cases hg : Session.ghost sampling Sampling.init ⟨o, .request c next, xs⟩ with
  | sample day seconds =>
    rw [hg] at hallows hghost
    cases c with
    | incrByFloat day' amount =>
      obtain ⟨rfl, rfl⟩ := hallows
      exact h.answered_summed hi hghost
    | _ => exact hallows.elim
  | summed day seconds =>
    rw [hg] at hallows hghost
    cases c with
    | incr key =>
      obtain rfl : key = .latencyCount day := hallows
      exact h.answered_counted hi hghost (hok.2 day hcommand)
    | _ => exact hallows.elim
  | half days total =>
    rw [hg] at hallows hghost
    cases c with
    | mgetTallies keys =>
      obtain rfl : keys = days.map .latencyCount := hallows
      exact h.answered_counts hi hghost
    | _ => exact hallows.elim
  | read days total count =>
    rw [hg] at hallows
    exact hallows.elim
  | plain =>
    rw [hg] at hallows hghost
    cases c with
    | incr key =>
      cases key with
      | count event day =>
        refine h.answered_quiet hi (fun _ => rfl) (fun d => ?_) hghost rfl
        rw [AnalyticsStore.tallyOf_incr, if_neg (by rintro ⟨⟩), add_zero]
      | latencyCount day => exact hallows.elim
    | expireTally key seconds =>
      obtain rfl : seconds = analyticsTtlSeconds := hallows
      exact h.answered_quiet hi (fun _ => rfl)
        (fun d => AnalyticsStore.tallyOf_expireTally _ _ _ (by decide +kernel)) hghost rfl
    | expireSum day seconds =>
      obtain rfl : seconds = analyticsTtlSeconds := hallows
      exact h.answered_quiet hi
        (fun d => AnalyticsStore.sumOf_expireSum _ _ _ (by decide +kernel)) (fun _ => rfl) hghost rfl
    | mgetTallies keys => exact h.answered_quiet hi (fun _ => rfl) (fun _ => rfl) hghost rfl
    | mgetSums days => exact h.answered_sums hi hghost (hok.1 days hcommand)
    | incrByFloat day amount => exact hallows.elim

end Replies

/-! ### Runs -/

section Runs

variable [DecidableEq ι] {cfg cfg' : AnalyticsConfig ι} {i : ι}

omit [DecidableEq ι] in
/-- At first nothing was measured. -/
theorem Sampled.init : Sampled (AnalyticsConfig.init : AnalyticsConfig ι) := by
  have hnone : ∀ k, samplingOf (AnalyticsConfig.init : AnalyticsConfig ι) k = none := fun _ => rfl
  refine ⟨fun i s hs => ?_, fun day => ⟨[], [], List.nodup_nil, ?_, by simp, ?_, rfl⟩, ?_, ?_, ?_⟩
  · cases hs
  · intro i seconds
    rw [hnone]
    exact ⟨fun hp => (List.not_mem_nil hp).elim, by rintro ⟨⟩⟩
  · rw [List.map_nil, List.sum_nil, add_zero]
    rfl
  · intro k days total hk
    rw [hnone] at hk
    cases hk
  · intro k days total count hk
    rw [hnone] at hk
    cases hk
  · intro newer k days readings older heq
    cases newer with
    | nil => cases heq
    | cons e newer => cases heq

/-- A client begins. -/
theorem Sampled.started (h : Sampled cfg) (hnone : cfg.sessions i = none) (o : AnalyticsOp) :
    Sampled (analyticsMachine.started cfg i o) := by
  have hghost : samplingOf cfg i = none := by
    rw [samplingOf, hnone]
    rfl
  have hself : samplingOf (analyticsMachine.started cfg i o) i = some (Sampling.init o) :=
    (samplingOf_update _ i i _).trans (if_pos rfl)
  refine h.quiet (i := i) (h.obeying.started (body_obeys o))
    (fun _ => List.mem_cons_of_mem _) (h.truthful.cons (by rintro _ _ _ ⟨⟩)) (fun _ => rfl)
    (fun _ => rfl) (fun k hk => ?_) ?_ ?_
  · exact (samplingOf_update _ i k _).trans (if_neg hk)
  · rw [hghost]
    rintro _ _ ⟨⟩
  · intro g hg
    rw [hself] at hg
    cases hg
    cases o with
    | recordEvent today event day => trivial
    | recordLatency today seconds day => trivial
    | usage dateList => trivial

/-- A client ends that is not pending. -/
theorem Sampled.ended (h : Sampled cfg) (hpending : ∀ day seconds,
      samplingOf cfg i ≠ some (.summed day seconds))
    (hsessions : cfg'.sessions = Function.update cfg.sessions i none)
    (hstore : cfg'.store = cfg.store) (hlog : ∀ e ∈ cfg.log, e ∈ cfg'.log)
    (htruthful : Truthful cfg'.log) : Sampled cfg' := by
  have hothers : ∀ k, samplingOf cfg' k = if k = i then none else samplingOf cfg k := by
    intro k
    rw [← Option.map_none, ← samplingOf_update, samplingOf, hsessions]
    rfl
  refine h.quiet (i := i) ?_ hlog htruthful (fun _ => by rw [hstore]) (fun _ => by rw [hstore])
    (fun k hk => (hothers k).trans (if_neg hk)) hpending ?_
  · intro k t ht
    rw [hsessions] at ht
    exact h.obeying k t (Config.of_ended_sessions ht).2
  · rw [hothers, if_pos rfl]
    rintro _ ⟨⟩

/-- A client returns what it has read. -/
theorem Sampled.finish (h : Sampled cfg)
    {s : Session Reply AnalyticsOp (Option UsageReadings)} {b : Option UsageReadings}
    (hi : cfg.sessions i = some s) (hdone : s.rest = .done b) :
    Sampled (cfg.finish i s.op b) := by
  have hreturns := h.obeying i s hi
  rw [hdone] at hreturns
  have hghost : samplingOf cfg i = some (s.ghost sampling Sampling.init) := by
    rw [samplingOf, hi]
    rfl
  refine h.ended (i := i) ?_ rfl rfl (fun _ => List.mem_cons_of_mem _) (h.truthful.cons ?_)
  · rcases hreturns with ⟨hplain, -⟩ | ⟨_, _, -, -, hread⟩
    · rw [hghost, hplain]
      rintro _ _ ⟨⟩
    · rw [hghost, hread]
      rintro _ _ ⟨⟩
  · rintro k days readings heq hpos
    obtain ⟨rfl, hop, rfl⟩ := Event.returned.inj heq
    rcases hreturns with ⟨-, hzero⟩ | ⟨days', readings', hop', hanswer, hread⟩
    · exact absurd (hzero readings rfl) hpos.ne'
    · cases hop.symm.trans hop'
      cases hanswer
      rw [hread] at hghost
      exact (h.read _ _ _ _ hghost).averageWithin hpos

omit [DecidableEq ι] in
/-- The clock moves: the buckets of a day stay, or they are gone together. -/
theorem Sampled.tick (h : Sampled cfg) {time : Time} (hok : Undisturbed cfg (.env time)) :
    Sampled { cfg with store := { cfg.store with clock := time } } := by
  refine ⟨h.obeying.congr rfl, fun day => ?_, fun k days total hk => ?_, h.read, h.truthful⟩
  · rcases hok day with ⟨hsum, htally⟩ | ⟨⟨hsum, htally⟩, hidle⟩
    · exact (h.sampled day).congr (fun _ => id) hsum htally fun _ _ => Iff.rfl
    · refine ⟨[], [], List.nodup_nil, fun k seconds => ?_, by simp, hsum.trans (by simp), htally⟩
      exact ⟨fun hp => (List.not_mem_nil hp).elim, fun hk => ((hidle k).1 (h.pending hk)).elim⟩
  · have hsame : ∀ day ∈ days, ({ cfg.store with clock := time } : AnalyticsStore).tallyOf
        (.latencyCount day) = cfg.store.tallyOf (.latencyCount day) := by
      intro day hday
      rcases hok day with ⟨-, htally⟩ | ⟨-, hidle⟩
      · exact htally
      · exact ((hidle k).2 (h.awaitsCount hk hday)).elim
    exact (List.map_congr_left hsame) ▸ h.half k days total hk

/-- **The invariant is kept by every undisturbed step.** -/
theorem Sampled.step (h : Sampled cfg) {l : AnalyticsLabel ι} (hok : Undisturbed cfg l)
    (hstep : analyticsMachine.step cfg l = some cfg') : Sampled cfg' := by
  refine Machine.step_rule hstep ?_ ?_ ?_ ?_ ?_
  · rintro i o rfl hi
    exact h.started hi o
  · rintro i o c next xs rfl hi
    exact h.reply hok hi
  · exact fun _ _ _ _ h hi hdone => h.finish hi hdone
  · rintro i s rfl hi
    exact h.ended (i := i) (fun day seconds hk => hok day (h.pending hk)) rfl rfl (fun _ => id)
      h.truthful
  · rintro time store rfl henv
    unfold analyticsMachine at henv
    dsimp only at henv
    split at henv
    · cases henv
      exact h.tick hok
    · cases henv

/-- **Latency averages are truthful** in every run whose steps are undisturbed: whenever a report
has counted a sample, its average lies between two latencies recorded in its range. -/
theorem undisturbed_truthful
    (h : Reach analyticsMachine.step Undisturbed AnalyticsConfig.init cfg) :
    Truthful cfg.log := by
  have hsampled : Sampled cfg := h.invariant Sampled.init fun _ _ _ h hok hstep => h.step hok hstep
  exact hsampled.truthful

end Runs

namespace TwoLatencies

/-- One client records ten seconds, twenty seconds and breaks off; the other reads a report while
the first is recorded and the second begun, and then another one. -/
def recording : List (AnalyticsLabel Bool) :=
  [.start false (.recordLatency AnalyticsEngine.tenth 10 none), .exec false,
    .start true (.usage [AnalyticsEngine.tenth]), .exec true, .exec true, .exec true, .exec true,
    .exec false, .exec false, .exec false, .exec true,
    .start false (.recordLatency AnalyticsEngine.tenth 20 none), .exec false, .exec true,
    .exec false, .abort false,
    .start true (.usage [AnalyticsEngine.tenth]), .exec true, .exec true, .exec true, .exec true,
    .exec true, .exec true]

/-- A client reads no sums while the other is pending, counts no latency while the other is about to
read counts, and does not fail while it is pending. -/
def minds (cfg : AnalyticsConfig Bool) : AnalyticsLabel Bool → Bool
  | .start _ _ => true
  | .exec i =>
    match cfg.nextCommand i, cfg.nextCommand !i with
    | some (.mgetSums _), some (.incr _) => false
    | some (.incr _), some (.mgetTallies _) => false
    | _, _ => true
  | .abort i =>
    match cfg.nextCommand i with
    | some (.incr _) => false
    | _ => true
  | .env _ => false

/-- Two clients that mind each other do not disturb each other. -/
theorem undisturbed_of_minds (cfg : AnalyticsConfig Bool) (l : AnalyticsLabel Bool)
    (h : minds cfg l = true) : Undisturbed cfg l := by
  have hpending : ∀ {day i}, Pending cfg day i →
      cfg.nextCommand i = some (.incr (.latencyCount day)) := id
  cases l with
  | start i o => trivial
  | exec i =>
    constructor
    · intro days hcommand day _ k hk
      by_cases hself : k = i
      · subst hself
        cases hcommand.symm.trans (hpending hk)
      · rw [Bool.eq_not_of_ne hself] at hk
        simp [minds, hcommand, hpending hk] at h
    · rintro day hi k ⟨keys, hcommand, -⟩
      by_cases hself : k = i
      · subst hself
        cases hcommand.symm.trans (hpending hi)
      · rw [Bool.eq_not_of_ne hself] at hcommand
        simp [minds, hcommand, hpending hi] at h
  | abort i =>
    intro day hi
    simp [minds, hpending hi] at h
  | env time => cases h

/-- The counts and averages of the reports, the last one first. -/
def reports (cfg : AnalyticsConfig Bool) : List (ℕ × ℚ) :=
  cfg.log.filterMap fun
    | .returned _ _ (some readings) => some (readings.latencyCount, readings.average)
    | _ => none

end TwoLatencies

open TwoLatencies in
/-- The rule at a run of two clients, whose reports give averages of ten and of fifteen seconds. -/
theorem undisturbed_truthful_fifteen :
    ∃ cfg : AnalyticsConfig Bool, Truthful cfg.log ∧ reports cfg = [(2, 15), (1, 10)] := by
  obtain ⟨cfg, hreach, hcfg⟩ := exists_reach_of_runLabels analyticsMachine.step minds
    (AnalyticsConfig.init : AnalyticsConfig Bool) recording
    (fun cfg => decide (reports cfg = [(2, 15), (1, 10)])) (by decide +kernel)
  exact ⟨cfg, undisturbed_truthful (hreach.mono undisturbed_of_minds), of_decide_eq_true hcfg⟩

/-! ### A recording that fails -/

namespace FailedCount

/-- January 10 of the year 1. -/
abbrev today : Date := AnalyticsEngine.tenth

/-- Two latencies of ten seconds; the second recording fails after the first of its commands.  Then
a report is read. -/
def failing : List (AnalyticsLabel ℕ) :=
  [.start 0 (.recordLatency today 10 none), .exec 0, .exec 0, .exec 0, .exec 0,
    .start 1 (.recordLatency today 10 none), .exec 1, .abort 1,
    .start 2 (.usage [today]), .exec 2, .exec 2, .exec 2, .exec 2, .exec 2, .exec 2]

/-- All latencies that were recorded are below a bound. -/
def measuredBelow (bound : ℚ) (log : AnalyticsLog ℕ) : Bool :=
  log.all fun
    | .ran _ _ ⟨.incrByFloat _ seconds, _⟩ => seconds < bound
    | _ => true

/-- The last report has counted a sample, and its average is above all that was recorded. -/
def exceeds (cfg : AnalyticsConfig ℕ) : Bool :=
  match cfg.log with
  | .returned _ (.usage _) (some readings) :: log =>
    decide (0 < readings.latencyCount) && measuredBelow readings.average log
  | _ => false

theorem not_truthful_of_exceeds {cfg : AnalyticsConfig ℕ} (h : exceeds cfg = true) :
    ¬ Truthful cfg.log := by
  intro htruthful
  unfold exceeds at h
  split at h
  · next i days readings log hlog =>
    rw [Bool.and_eq_true, decide_eq_true_eq] at h
    obtain ⟨_, greatest, -, ⟨j, o, day, reply, -, hmem⟩, -, hle⟩ :=
      htruthful [] i days readings log hlog h.1
    have hlt : greatest < readings.average := by
      simpa using List.all_eq_true.1 h.2 _ hmem
    exact absurd hle (not_le.2 hlt)
  · cases h

end FailedCount

open FailedCount in
/-- **A recording that fails between its commands distorts the average**: two latencies of ten
seconds are reported as twenty. -/
theorem not_truthful_of_failure :
    ¬ ∀ cfg : AnalyticsConfig ℕ,
      Reach analyticsMachine.step (fun _ _ => True) AnalyticsConfig.init cfg →
        Truthful cfg.log := by
  intro hall
  obtain ⟨cfg, hreach, hcfg⟩ := exists_reach_of_runLabels analyticsMachine.step
    (fun _ _ => true) (AnalyticsConfig.init : AnalyticsConfig ℕ) failing exceeds
    (by decide +kernel)
  exact not_truthful_of_exceeds hcfg (hall cfg (hreach.mono fun _ _ _ => trivial))

end ProductIntelligence
