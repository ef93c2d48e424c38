import Mathlib.Analysis.SpecialFunctions.Log.Base
import ProductIntelligence.Duplicates.Detection
import ProductIntelligence.Lists.RoundRobin

/-!
# Evaluating retrieval

An evaluation run asks each query of a dataset of the system that its task type names, scores what
comes back against the ground truth, and averages the scores by task type.  A query that fails is
recorded with its error and takes no part in the averages.  Arithmetic is exact; the discount of a
rank is a logarithm, so the gains are real numbers.

## Main definitions

* `EvaluationQuery`, `EvaluatedSystems`, `Trial` — a query, the systems as they answer it, and
  the time it takes.
* `RetrievalEvaluator.retrieve`, `RetrievalEvaluator.evaluateOne` — one query.
* `aggregate`, `RetrievalEvaluator.evaluate` — the averages and the report.

## Main results

* `aggregate_perm` — the averages do not depend on the order of the results.
* `evaluation_isolates_failures` — **one failing query does not distort an evaluation**.

## References

`backend/app/services/evaluation/retrieval_evaluator.py`, `backend/app/models/evaluation_query.py`,
`backend/app/models/evaluation_result.py`, `backend/app/models/retrieval_metrics.py`,
`backend/app/models/benchmark_report.py`.
-/

namespace ProductIntelligence

variable {ι : Type} [DecidableEq ι]

/-! ### Queries -/

/-- Which system a query measures. -/
inductive EvaluationTaskType
  | retrieval
  | recommendation
  | duplicate
  deriving DecidableEq

/-- The name of a task type. -/
def EvaluationTaskType.value : EvaluationTaskType → Text
  | .retrieval => "retrieval".toList
  | .recommendation => "recommendation".toList
  | .duplicate => "duplicate".toList

/-- One evaluation case: what to ask, and which products are expected. -/
structure EvaluationQuery (ι : Type) where
  queryId : Text
  taskType : EvaluationTaskType
  text : Option Text
  imagePath : Option Text
  productId : Option ι
  expectedProducts : List ι
  topK : Option ℕ
  /-- A retrieval query has a text or an image, any other a product. -/
  asks : if taskType = .retrieval then hasText text = true ∨ imagePath.isSome else productId.isSome

/-- The evaluated systems: each answers with ranked products, or raises with a text. -/
structure EvaluatedSystems (ι : Type) where
  search : Text → ℕ → Option Bool → Except Text (List ι)
  recommend : ι → ℕ → Option Bool → Except Text (List ι)
  detectByProductId : ι → ℕ → Option Bool → Except Text (List ι)

/-- A query together with the systems as they answer it and the time that takes. -/
structure Trial (ι : Type) where
  query : EvaluationQuery ι
  systems : EvaluatedSystems ι
  seconds : ℚ
  seconds_nonneg : 0 ≤ seconds

/-! ### Metrics -/

/-- Values by cutoff. -/
abbrev AtK (α : Type) := List (ℕ × α)

/-- The values of a function at the configured cutoffs. -/
def atK {α : Type} (kValues : List ℕ) (f : ℕ → α) : AtK α := kValues.eraseDups.map fun k => (k, f k)

/-- The value at a cutoff. -/
def AtK.get {α : Type} [Zero α] (values : AtK α) (k : ℕ) : α :=
  ((Keyed.lookup Prod.fst k values).map Prod.snd).getD 0

/-- How many of the products are expected. -/
def relevant (expected products : List ι) : ℕ := products.countP fun product => product ∈ expected

/-- `_precision_at_k`: the fraction of the first `k` results that are expected. -/
def precisionAtK (retrieved expected : List ι) (k : ℕ) : ℚ :=
  let topK := retrieved.take k
  if expected.isEmpty || topK.isEmpty then 0 else relevant expected topK / topK.length

/-- `_recall_at_k`: the fraction of the expected products among the first `k` results. -/
def recallAtK (retrieved expected : List ι) (k : ℕ) : ℚ :=
  if expected.isEmpty then 0 else relevant expected (retrieved.take k) / expected.dedup.length

/-- `_hit_rate_at_k`: whether any of the first `k` results is expected. -/
def hitRateAtK (retrieved expected : List ι) (k : ℕ) : ℚ :=
  if expected.isEmpty then 0
  else if (retrieved.take k).any fun product => product ∈ expected then 1 else 0

/-- `_reciprocal_rank`: the inverse rank of the first expected product. -/
def reciprocalRank (retrieved expected : List ι) : ℚ :=
  if expected.isEmpty then 0
  else match (retrieved.zipIdx 1).find? fun entry => entry.1 ∈ expected with
    | some entry => 1 / entry.2
    | none => 0

/-- The gain of a hit at a rank. -/
noncomputable def discount (rank : ℕ) : ℝ := 1 / Real.logb (2 : ℕ) (rank + 1)

/-- `_ndcg_at_k`: the discounted gain of the first `k` results, relative to the best possible. -/
noncomputable def ndcgAtK (retrieved expected : List ι) (k : ℕ) : ℝ :=
  if expected.isEmpty then 0
  else
    let hits := ((retrieved.take k).zipIdx 1).filter fun entry => entry.1 ∈ expected
    let dcg := (hits.map fun entry => discount entry.2).sum
    let idealHits := min expected.dedup.length k
    let idcg := ((List.range' 1 idealHits).map discount).sum
    if 0 < idcg then dcg / idcg else 0

/-- What one query returned, and how well that scored. -/
structure EvaluationQueryResult (ι : Type) where
  queryId : Text
  taskType : EvaluationTaskType
  retrievedProducts : List ι
  latencySeconds : ℚ
  precisionAtK : AtK ℚ
  recallAtK : AtK ℚ
  ndcgAtK : AtK ℝ
  hitRateAtK : AtK ℚ
  reciprocalRank : ℚ
  error : Option Text

/-- The averages over the queries of one task type. -/
structure RetrievalMetrics where
  precisionAtK : AtK ℚ
  recallAtK : AtK ℚ
  ndcgAtK : AtK ℝ
  hitRateAtK : AtK ℚ
  mrr : ℚ
  averageLatencySeconds : ℚ
  queryCount : ℕ

/-- `_mean`: the mean, `0` of no values. -/
def meanOrZero {K : Type} [Field K] (values : List K) : K :=
  if values.isEmpty then 0 else values.sum / values.length

/-- The averages of one task type's results. -/
noncomputable def metricsOf (kValues : List ℕ) (results : List (EvaluationQueryResult ι)) :
    RetrievalMetrics where
  precisionAtK := atK kValues fun k => meanOrZero (results.map fun r => r.precisionAtK.get k)
  recallAtK := atK kValues fun k => meanOrZero (results.map fun r => r.recallAtK.get k)
  ndcgAtK := atK kValues fun k => meanOrZero (results.map fun r => r.ndcgAtK.get k)
  hitRateAtK := atK kValues fun k => meanOrZero (results.map fun r => r.hitRateAtK.get k)
  mrr := meanOrZero (results.map EvaluationQueryResult.reciprocalRank)
  averageLatencySeconds := meanOrZero (results.map EvaluationQueryResult.latencySeconds)
  queryCount := results.length

/-- The results without an error, grouped by task type. -/
def byTaskType (queryResults : List (EvaluationQueryResult ι)) :
    List (EvaluationTaskType × List (EvaluationQueryResult ι)) :=
  RoundRobin.groupBy EvaluationQueryResult.taskType (queryResults.filter fun r => r.error.isNone)

/-- `_aggregate`: the averages by the name of the task type. -/
noncomputable def RetrievalEvaluator.aggregate (kValues : List ℕ)
    (queryResults : List (EvaluationQueryResult ι)) : List (Text × RetrievalMetrics) :=
  (byTaskType queryResults).map fun entry => (entry.1.value, metricsOf kValues entry.2)

/-! ### The evaluator -/

/-- The settings of a run. -/
structure RetrievalEvaluator where
  kValues : List ℕ
  latencyMetricsEnabled : Bool
  topK : ℕ
  rerankingEnabled : Option Bool

/-- The full output of a run. -/
structure BenchmarkReport (ι : Type) where
  datasetSize : ℕ
  overallMetrics : List (Text × RetrievalMetrics)
  queryResults : List (EvaluationQueryResult ι)
  failureCount : ℕ

namespace RetrievalEvaluator

variable (evaluator : RetrievalEvaluator)

/-- `_retrieve`: ask the system that the task type names. -/
def retrieve (trial : Trial ι) : Except Text (List ι) :=
  let query := trial.query
  let resolvedTopK := query.topK.getD evaluator.topK
  match query.taskType with
  | .retrieval =>
    match query.text with
    | some text =>
      if strip text = [] then .error (imageQuery query.queryId)
      else trial.systems.search text resolvedTopK evaluator.rerankingEnabled
    | none => .error (imageQuery query.queryId)
  | .recommendation =>
    match query.productId with
    | some productId =>
      trial.systems.recommend productId resolvedTopK evaluator.rerankingEnabled
    | none => .error assertion
  | .duplicate =>
    match query.productId with
    | some productId =>
      trial.systems.detectByProductId productId resolvedTopK evaluator.rerankingEnabled
    | none => .error assertion
where
  /-- The message of a failed assertion. -/
  assertion : Text := []
  /-- The message of a query without a text. -/
  imageQuery (queryId : Text) : Text :=
    "query '".toList ++ queryId ++ ("': image-based evaluation queries are not " ++
      "yet supported (see EvaluationQuery.image_path's own docstring).").toList

/-- `_evaluate_one`: score what a query retrieves, or record why it fails. -/
noncomputable def evaluateOne (trial : Trial ι) : EvaluationQueryResult ι :=
  let query := trial.query
  match evaluator.retrieve trial with
  | .error message =>
    { queryId := query.queryId
      taskType := query.taskType
      retrievedProducts := []
      latencySeconds := 0
      precisionAtK := []
      recallAtK := []
      ndcgAtK := []
      hitRateAtK := []
      reciprocalRank := 0
      error := some message }
  | .ok retrieved =>
    { queryId := query.queryId
      taskType := query.taskType
      retrievedProducts := retrieved
      latencySeconds := if evaluator.latencyMetricsEnabled then trial.seconds else 0
      precisionAtK := atK evaluator.kValues (precisionAtK retrieved query.expectedProducts)
      recallAtK := atK evaluator.kValues (recallAtK retrieved query.expectedProducts)
      ndcgAtK := atK evaluator.kValues (ndcgAtK retrieved query.expectedProducts)
      hitRateAtK := atK evaluator.kValues (hitRateAtK retrieved query.expectedProducts)
      reciprocalRank := reciprocalRank retrieved query.expectedProducts
      error := none }

/-- `evaluate`: the report on the queries. -/
noncomputable def evaluate (trials : List (Trial ι)) : BenchmarkReport ι :=
  let queryResults := trials.map evaluator.evaluateOne
  { datasetSize := trials.length
    overallMetrics := aggregate evaluator.kValues queryResults
    queryResults := queryResults
    failureCount := queryResults.countP fun result => result.error.isSome }

/-- The query succeeds. -/
def succeeds (trial : Trial ι) : Bool := (evaluator.retrieve trial).isOk

/-- A result has an error exactly if its query fails. -/
theorem error_evaluateOne (trial : Trial ι) :
    (evaluator.evaluateOne trial).error.isNone = evaluator.succeeds trial := by
  unfold evaluateOne succeeds
  cases evaluator.retrieve trial with
  | error message => rfl
  | ok retrieved => rfl

/-- A result belongs to its query. -/
theorem evaluateOne_query (trial : Trial ι) :
    (evaluator.evaluateOne trial).queryId = trial.query.queryId ∧
      (evaluator.evaluateOne trial).taskType = trial.query.taskType := by
  unfold evaluateOne
  cases evaluator.retrieve trial with
  | error message => exact ⟨rfl, rfl⟩
  | ok retrieved => exact ⟨rfl, rfl⟩

end RetrievalEvaluator

/-! ### Averages -/

section Averages

variable {queryResults queryResults' : List (EvaluationQueryResult ι)}

omit [DecidableEq ι] in
theorem meanOrZero_congr {K : Type} [Field K] {values values' : List K}
    (h : values.Perm values') : meanOrZero values = meanOrZero values' := by
  have hempty : values.isEmpty = values'.isEmpty := by
    rw [Bool.eq_iff_iff, List.isEmpty_iff, List.isEmpty_iff, ← List.length_eq_zero_iff,
      h.length_eq, List.length_eq_zero_iff]
  rw [meanOrZero, meanOrZero, hempty, h.sum_eq, h.length_eq]

omit [DecidableEq ι] in
/-- The averages of a task type do not depend on the order of its results. -/
theorem metricsOf_congr (kValues : List ℕ) (h : queryResults.Perm queryResults') :
    metricsOf kValues queryResults = metricsOf kValues queryResults' := by
  simp only [metricsOf, h.length_eq,
    fun k => meanOrZero_congr (h.map fun r => r.precisionAtK.get k),
    fun k => meanOrZero_congr (h.map fun r => r.recallAtK.get k),
    fun k => meanOrZero_congr (h.map fun r => r.ndcgAtK.get k),
    fun k => meanOrZero_congr (h.map fun r => r.hitRateAtK.get k),
    meanOrZero_congr (h.map EvaluationQueryResult.reciprocalRank),
    meanOrZero_congr (h.map EvaluationQueryResult.latencySeconds)]

omit [DecidableEq ι] in
/-- **The averages do not depend on the order of the results.** -/
theorem aggregate_perm (kValues : List ℕ) (h : queryResults.Perm queryResults') :
    (RetrievalEvaluator.aggregate kValues queryResults).Perm
      (RetrievalEvaluator.aggregate kValues queryResults') := by
  refine RoundRobin.map_groupBy_perm EvaluationQueryResult.taskType (f := fun taskType results =>
    (EvaluationTaskType.value taskType, metricsOf kValues results)) ?_ (h.filter _)
  intro taskType group group' hgroup
  exact congrArg (EvaluationTaskType.value taskType, ·) (metricsOf_congr kValues hgroup)

omit [DecidableEq ι] in
/-- Every result without an error is counted for one task type. -/
theorem sum_queryCount (kValues : List ℕ) (queryResults : List (EvaluationQueryResult ι)) :
    ((RetrievalEvaluator.aggregate kValues queryResults).map fun entry => entry.2.queryCount).sum =
      queryResults.countP fun r => r.error.isNone := by
  have hsizes := RoundRobin.sum_sizes_groupBy EvaluationQueryResult.taskType
    (queryResults.filter fun r => r.error.isNone)
  rw [List.countP_eq_length_filter, ← hsizes, RetrievalEvaluator.aggregate, List.map_map]
  rfl

theorem EvaluationTaskType.value_injective : Function.Injective EvaluationTaskType.value := by
  intro taskType taskType' h
  cases taskType <;> cases taskType' <;> first | rfl | exact absurd h (by decide)

omit [DecidableEq ι] in
/-- A task type has one entry. -/
theorem nodup_names_aggregate (kValues : List ℕ) (queryResults : List (EvaluationQueryResult ι)) :
    ((RetrievalEvaluator.aggregate kValues queryResults).map Prod.fst).Nodup := by
  have hkeys := RoundRobin.nodup_keys_groupBy EvaluationQueryResult.taskType
    (queryResults.filter fun r => r.error.isNone)
  have hnames : (RetrievalEvaluator.aggregate kValues queryResults).map Prod.fst =
      ((byTaskType queryResults).map Prod.fst).map EvaluationTaskType.value := by
    rw [RetrievalEvaluator.aggregate, List.map_map, List.map_map]
    rfl
  rw [hnames]
  exact hkeys.map EvaluationTaskType.value_injective

end Averages

/-! ### Failures -/

/-- **One failing query does not distort an evaluation.**  Whichever queries fail, the report has
one result for each query, in the order of the dataset; its averages are those of the queries that
succeed alone; every query is counted either as a failure or for one task type; and evaluating the
queries in another order changes no average. -/
theorem evaluation_isolates_failures (evaluator : RetrievalEvaluator) (trials : List (Trial ι)) :
    let report := evaluator.evaluate trials
    report.overallMetrics =
        (evaluator.evaluate (trials.filter evaluator.succeeds)).overallMetrics ∧
      report.failureCount + (report.overallMetrics.map fun entry => entry.2.queryCount).sum =
        report.datasetSize ∧
      report.datasetSize = trials.length ∧
      List.Forall₂ (fun trial result => result = evaluator.evaluateOne trial ∧
        result.queryId = trial.query.queryId ∧ result.taskType = trial.query.taskType ∧
        (result.error = none ↔ evaluator.succeeds trial = true)) trials report.queryResults ∧
      (report.overallMetrics.map Prod.fst).Nodup ∧
      ∀ trials', trials.Perm trials' →
        report.overallMetrics.Perm (evaluator.evaluate trials').overallMetrics := by
  intro report
  refine ⟨?_, ?_, rfl, ?_, nodup_names_aggregate _ _, ?_⟩
  · -- the averages read the results without an error, and those are of the queries that succeed
    have hkept : ∀ l : List (Trial ι), ((l.map evaluator.evaluateOne).filter fun r =>
        r.error.isNone) = (l.filter evaluator.succeeds).map evaluator.evaluateOne := by
      intro l
      rw [List.filter_map]
      exact congrArg _ (List.filter_congr fun trial _ => evaluator.error_evaluateOne trial)
    show RetrievalEvaluator.aggregate _ _ = RetrievalEvaluator.aggregate _ _
    unfold RetrievalEvaluator.aggregate byTaskType
    rw [hkept, hkept, List.filter_filter]
    simp only [Bool.and_self]
  · have hsum := sum_queryCount evaluator.kValues (trials.map evaluator.evaluateOne)
    have hall := List.length_eq_countP_add_countP
      (fun r : EvaluationQueryResult ι => r.error.isSome) (l := trials.map evaluator.evaluateOne)
    have hnone : ∀ r : EvaluationQueryResult ι,
        decide (¬ r.error.isSome = true) = r.error.isNone := by
      intro r
      cases r.error with
      | none => rfl
      | some message => rfl
    simp only [hnone] at hall
    rw [List.length_map] at hall
    show (trials.map evaluator.evaluateOne).countP (fun r => r.error.isSome) + _ = trials.length
    rw [hall]
    exact congrArg _ hsum
  · refine List.forall₂_map_right_iff.2 (List.forall₂_same.2 fun trial _ => ?_)
    obtain ⟨hid, htask⟩ := evaluator.evaluateOne_query trial
    refine ⟨rfl, hid, htask, ?_⟩
    rw [← evaluator.error_evaluateOne, Option.isNone_iff_eq_none]
  · exact fun trials' h => aggregate_perm _ (h.map _)

end ProductIntelligence
