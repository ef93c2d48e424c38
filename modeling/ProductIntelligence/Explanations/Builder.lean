import ProductIntelligence.Logic.Fallible
import ProductIntelligence.Duplicates.Detection

/-!
# Explanation traces

What every explanation is made of: the reasons of a decision, the weighted contributions to its
score, and a sentence.  A reason that is incomplete or weighs more than one is refused when it is
built.  The time stamp of a trace is left out.

## Main definitions

* `DecisionReason`, `DecisionWeight`, `ConfidenceBreakdown`, `ExplanationTrace` — the parts.
* `ExplanationBuilder.weight`, `ExplanationBuilder.summarize` — how they are built.
* `ConfidenceBreakdown.contributed` — what the contributions add up to.

## Main results

* `build_eq_ok_iff`, `buildReasons_isOk_iff` — when reasons can be built.

## References

`backend/app/services/explanations/explanation_builder.py`, `backend/app/models/decision_reason.py`,
`backend/app/models/decision_weight.py`, `backend/app/models/confidence_breakdown.py`,
`backend/app/models/explanation_trace.py`.
-/

namespace ProductIntelligence

variable {ι : Type}

/-! ### Parts -/

/-- One factor behind a decision. -/
structure DecisionReason where
  code : Text
  description : Text
  weight : Option ℚ
  code_ne_nil : code ≠ []
  description_ne_nil : description ≠ []
  weight_inUnit : ∀ w ∈ weight, InUnit w
  deriving DecidableEq

/-- One named value, its weight, and what it contributes. -/
structure DecisionWeight where
  name : Text
  value : ℚ
  weight : ℚ
  contribution : ℚ
  deriving DecidableEq

/-- The contributions to a score, and the score. -/
structure ConfidenceBreakdown where
  components : List DecisionWeight
  total : ℚ
  deriving DecidableEq

/-- What the listed contributions add up to. -/
def ConfidenceBreakdown.contributed (breakdown : ConfidenceBreakdown) : ℚ :=
  (breakdown.components.map DecisionWeight.contribution).sum

/-- The explanation of one decision. -/
structure ExplanationTrace (ι : Type) where
  decisionType : Text
  summary : Text
  subjectId : Option ι
  reasons : List DecisionReason
  breakdown : Option ConfidenceBreakdown
  confidence : Option ℚ
  deriving DecidableEq

/-! ### Reasons -/

/-- The parts of a reason that are given. -/
structure ReasonParts where
  code : Text
  description : Text
  weight : Option ℚ

/-- The parts pass the checks of a reason. -/
def ReasonParts.IsValid (parts : ReasonParts) : Prop :=
  parts.code ≠ [] ∧ parts.description ≠ [] ∧ ∀ w ∈ parts.weight, InUnit w

instance (parts : ReasonParts) : Decidable parts.IsValid :=
  inferInstanceAs (Decidable (_ ∧ _ ∧ _))

/-- The fields of a reason that fail their checks. -/
def ReasonParts.invalidFields (parts : ReasonParts) : List Text :=
  (if parts.code = [] then ["code".toList] else []) ++
    (if parts.description = [] then ["description".toList] else []) ++
    if ∃ w ∈ parts.weight, ¬ InUnit w then ["weight".toList] else []

/-- `DecisionReason(...)`: the fields that fail their checks are refused. -/
def ReasonParts.build (parts : ReasonParts) : Except (List Text) DecisionReason :=
  if h : parts.IsValid then .ok ⟨parts.code, parts.description, parts.weight, h.1, h.2.1, h.2.2⟩
  else .error parts.invalidFields

theorem build_eq_ok_iff (parts : ReasonParts) :
    (∃ reason, parts.build = .ok reason) ↔ parts.IsValid := by
  unfold ReasonParts.build
  split
  · next h => simp [h]
  · next h => simp [h]

/-- Several reasons, up to the first that is refused. -/
def buildReasons (parts : List ReasonParts) : Except (List Text) (List DecisionReason) :=
  parts.mapM ReasonParts.build

/-- Several reasons can be built exactly if each of them can. -/
theorem buildReasons_isOk_iff (parts : List ReasonParts) :
    (∃ reasons, buildReasons parts = .ok reasons) ↔ ∀ part ∈ parts, part.IsValid := by
  unfold buildReasons
  induction parts with
  | nil => exact iff_of_true ⟨[], rfl⟩ (List.forall_mem_nil _)
  | cons part parts ih =>
    rw [List.forall_mem_cons, ← ih, ← build_eq_ok_iff, List.mapM_cons]
    constructor
    · rintro ⟨reasons, h⟩
      obtain ⟨reason, hreason, h⟩ := Except.bind_eq_ok.1 h
      obtain ⟨rest, hrest, -⟩ := Except.bind_eq_ok.1 h
      exact ⟨⟨reason, hreason⟩, rest, hrest⟩
    · rintro ⟨⟨reason, hreason⟩, rest, hrest⟩
      exact ⟨reason :: rest,
        Except.bind_eq_ok.2 ⟨_, hreason, Except.bind_eq_ok.2 ⟨_, hrest, rfl⟩⟩⟩

/-! ### The builder -/

namespace ExplanationBuilder

/-- `weight`: the contribution is the value times its weight. -/
def weight (name : String) (value weight : ℚ) : DecisionWeight :=
  ⟨name.toList, value, weight, value * weight⟩

/-- `_join_with_and`. -/
def joinWithAnd : List Text → Text
  | [item] => item
  | [first, second] => first ++ " and ".toList ++ second
  | items => ", ".toList.intercalate items.dropLast ++ ", and ".toList ++ (items.getLast?).getD []

/-- `summarize`: the descriptions of the reasons as one sentence. -/
def summarize (leadIn : Text) (reasons : List DecisionReason) : Text :=
  let start := strip (leadIn.rdropWhile fun c => c = ':' ∨ c = ' ')
  match reasons.map DecisionReason.description with
  | [] => if start ≠ [] then start ++ ['.'] else []
  | descriptions =>
    if start ≠ [] then start ++ ": ".toList ++ joinWithAnd descriptions ++ ['.']
    else joinWithAnd descriptions ++ ['.']

end ExplanationBuilder

end ProductIntelligence
