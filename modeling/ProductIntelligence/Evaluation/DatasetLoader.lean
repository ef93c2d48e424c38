import Mathlib.Data.PNat.Notation
import ProductIntelligence.Evaluation.Retrieval
import ProductIntelligence.Logic.Fallible
import ProductIntelligence.Text.Json

/-!
# Loading an evaluation dataset

A dataset is a JSON file with one object per query.  `DatasetLoader.load` means to raise
`EvaluationException` for whatever is wrong with the file, and does so for a missing file, for a
text that is no JSON, for a value of another shape and for an invalid query.  It lets pass what
decoding the bytes raises, what a text beyond the limits of the interpreter raises, and what
validating the ground truth of an entry raises, which happens outside the guarded block.

The validation library is a parameter.

## Main definitions

* `Pydantic`, `Interpreter` — how field values are validated, and what the interpreter adds.
* `DatasetLoader.parseEntry`, `DatasetLoader.load` — one entry, and the file.
* `OwnError` — the outcomes that the loader promises.

## Main results

* `DatasetLoader.load_ownError_iff` — **exactly which files keep the promise**.
* `DatasetLoader.load_ownError_of_short` — a short text with valid ground truths does.

## References

`backend/app/services/evaluation/dataset_loader.py`, `backend/app/models/evaluation_query.py`.
-/

namespace ProductIntelligence

/-! ### Values of a parsed file -/

/-- The code points of a text. -/
def codes (t : Text) : List ℕ := t.map Char.toNat

/-- `type(value).__name__`. -/
def typeName : Json → Text
  | .null => "NoneType".toList
  | .bool _ => "bool".toList
  | .int _ => "int".toList
  | .float .. | .nan | .infinity _ => "float".toList
  | .str _ => "str".toList
  | .array _ => "list".toList
  | .object _ => "dict".toList

/-- Whether a value counts as true. -/
def truthy : Json → Bool
  | .null => false
  | .bool value => value
  | .int value => value ≠ 0
  -- half the least positive float rounds to zero
  | .float _ mantissa exponent => 10 ^ (-exponent).toNat < mantissa * 2 ^ 1075
  | .nan | .infinity _ => true
  | .str codePoints => !codePoints.isEmpty
  | .array items => !items.isEmpty
  | .object members => !members.isEmpty

/-- The members of an object. -/
abbrev Members := List (List ℕ × Json)

/-- `members.get(key, default)`. -/
def Members.get (members : Members) (key : String) (default : Json) : Json :=
  ((Keyed.lookup Prod.fst (codes key.toList) members).map Prod.snd).getD default

/-- What the interpreter adds: its limits, and `str` of a value that is no string. -/
structure Interpreter where
  limits : Json.Limits
  repr : Json → List ℕ

/-- `str(value)`. -/
def Interpreter.str (python : Interpreter) : Json → List ℕ
  | .str codePoints => codePoints
  | value => python.repr value

/-! ### Validation -/

/-- The arguments of `GroundTruth(...)`. -/
structure GroundTruthArguments where
  expectedProducts : Json
  isDuplicate : Json

/-- The arguments of `EvaluationQuery(...)` but for the ground truth. -/
structure QueryArguments where
  queryId : List ℕ
  taskType : Json
  text : Json
  imagePath : Json
  productId : Json
  topK : Json

/-- The validation library: how it reads a value as a string, a UUID, a truth value, a path or an
integer, and the text of the `ValidationError` for arguments, with the message of the model's own
check where that is what failed. -/
structure Pydantic (ι : Type) where
  str : Json → Option Text
  uuid : Json → Option ι
  bool : Json → Option Bool
  path : Json → Option Text
  int : Json → Option ℤ
  groundTruthError : GroundTruthArguments → List ℕ
  queryError : QueryArguments → Option Text → List ℕ

/-- A field `X | None`. -/
def optional {α : Type} (field : Json → Option α) : Json → Option (Option α)
  | .null => some none
  | value => (field value).map some

/-- A field `list[X]`. -/
def listOf {α : Type} (field : Json → Option α) : Json → Option (List α)
  | .array items => items.mapM field
  | _ => none

/-- The text of a string without lone surrogates. -/
def textOf : Json → Option Text
  | .str codePoints =>
    codePoints.mapM fun n => if n.isValidChar then some (Char.ofNat n) else none
  | _ => none

/-- A field of type `EvaluationTaskType`. -/
def taskTypeOf (value : Json) : Option EvaluationTaskType :=
  (textOf value).bind fun t =>
    [EvaluationTaskType.retrieval, .recommendation, .duplicate].find? fun type => type.value = t

/-- A field `int` with `gt=0`. -/
def positiveOf (field : Json → Option ℤ) (value : Json) : Option ℕ+ :=
  (field value).bind fun n => if h : 0 < n.toNat then some ⟨n.toNat, h⟩ else none

/-- The expected outcome of a query. -/
structure GroundTruth (ι : Type) where
  expectedProducts : List ι
  isDuplicate : Option Bool

/-- A query as a dataset file has it. -/
structure LoadedQuery (ι : Type) extends EvaluationQuery ι where
  isDuplicate : Option Bool
  topK_pos : ∀ k ∈ topK, 0 < k

/-- The fields of a query, each valid on its own. -/
structure QueryFields (ι : Type) where
  queryId : Text
  taskType : EvaluationTaskType
  text : Option Text
  imagePath : Option Text
  productId : Option ι
  topK : Option ℕ+

variable {ι : Type}

/-- `_validate_required_fields`: the message of the error that it raises, if it does. -/
def QueryFields.missing (fields : QueryFields ι) : Option Text :=
  if fields.taskType = .retrieval then
    if !hasText fields.text && fields.imagePath.isNone then
      some ("query '".toList ++ fields.queryId ++
        "': a retrieval query needs 'text' and/or 'image_path'.".toList)
    else none
  else if fields.productId.isNone then
    some ("query '".toList ++ fields.queryId ++ "': a ".toList ++ fields.taskType.value ++
      " query needs 'product_id'.".toList)
  else none

theorem QueryFields.asks_of_missing {fields : QueryFields ι} (h : fields.missing = none) :
    if fields.taskType = .retrieval then hasText fields.text = true ∨ fields.imagePath.isSome
    else fields.productId.isSome := by
  unfold QueryFields.missing at h
  split_ifs at h ⊢ with htype hneither hproduct
  · simp only [Bool.and_eq_true, Bool.not_eq_true', Option.isNone_iff_eq_none] at hneither
    by_cases htext : hasText fields.text = true
    · exact .inl htext
    · exact .inr (Option.isSome_iff_ne_none.2 fun hnone => hneither ⟨by simpa using htext, hnone⟩)
  · exact Option.isSome_iff_ne_none.2 (by simpa using hproduct)

/-- `GroundTruth(...)`. -/
def groundTruth (pydantic : Pydantic ι) (arguments : GroundTruthArguments) :
    Option (GroundTruth ι) :=
  match listOf pydantic.uuid arguments.expectedProducts,
    optional pydantic.bool arguments.isDuplicate with
  | some expectedProducts, some isDuplicate => some ⟨expectedProducts, isDuplicate⟩
  | _, _ => none

/-- The fields of `EvaluationQuery(...)`, if all are valid. -/
def queryFields (pydantic : Pydantic ι) (arguments : QueryArguments) : Option (QueryFields ι) := do
  let queryId ← pydantic.str (.str arguments.queryId)
  let taskType ← taskTypeOf arguments.taskType
  let text ← optional pydantic.str arguments.text
  let imagePath ← optional pydantic.path arguments.imagePath
  let productId ← optional pydantic.uuid arguments.productId
  let topK ← optional (positiveOf pydantic.int) arguments.topK
  return { queryId, taskType, text, imagePath, productId, topK }

/-- `EvaluationQuery(...)`: the query, or the message of its own check where that is what fails. -/
def evaluationQuery (pydantic : Pydantic ι) (arguments : QueryArguments) (truth : GroundTruth ι) :
    Except (Option Text) (LoadedQuery ι) :=
  match queryFields pydantic arguments with
  | none => .error none
  | some fields =>
    match h : fields.missing with
    | some message => .error (some message)
    | none => .ok
      { queryId := fields.queryId
        taskType := fields.taskType
        text := fields.text
        imagePath := fields.imagePath
        productId := fields.productId
        expectedProducts := truth.expectedProducts
        topK := fields.topK.map PNat.val
        asks := QueryFields.asks_of_missing h
        isDuplicate := truth.isDuplicate
        topK_pos := by
          intro k hk
          obtain ⟨n, -, rfl⟩ := Option.mem_map.1 hk
          exact n.pos }

/-! ### The loader -/

/-- What loading a dataset raises. -/
inductive LoadError
  /-- `EvaluationException`, with its message. -/
  | evaluation (message : List ℕ)
  /-- `UnicodeDecodeError`. -/
  | unicodeDecode
  /-- `ValueError`. -/
  | value
  /-- `RecursionError`. -/
  | recursion
  /-- `ValidationError`, with its text. -/
  | validation (text : List ℕ)
  deriving DecidableEq

/-- What is found at the path of a dataset. -/
inductive DatasetFile
  | missing
  /-- Reading raises `OSError`. -/
  | unreadable
  | content (bytes : ByteArray)

/-- The line ends of a text file, all read as `\n`. -/
def universalNewlines : Text → Text
  | '\r' :: '\n' :: t => '\n' :: universalNewlines t
  | c :: t => (if c = '\r' then '\n' else c) :: universalNewlines t
  | [] => []

/-- `read_text(encoding="utf-8")`. -/
def readText (bytes : ByteArray) : Option Text :=
  bytes.utf8Decode?.map fun chars => universalNewlines chars.toList

theorem readText_utf8Encode (text : Text) :
    readText text.utf8Encode = some (universalNewlines text) := by
  simp [readText, List.utf8Decode?_utf8Encode]

/-- Bytes that are read encode a text. -/
theorem eq_utf8Encode_of_readText {bytes : ByteArray} (h : readText bytes ≠ none) :
    ∃ text : Text, bytes = text.utf8Encode := by
  have hsome : bytes.utf8Decode?.isSome := by
    rw [Option.isSome_iff_ne_none]
    intro hnone
    exact h (by rw [readText, hnone]; rfl)
  exact ⟨_, (ByteArray.utf8Encode_get_utf8Decode? (h := hsome)).symm⟩

theorem length_universalNewlines_le (t : Text) : (universalNewlines t).length ≤ t.length := by
  fun_induction universalNewlines t with
  | case1 t ih =>
    simp only [List.length_cons]
    omega
  | case2 c t _ ih => simpa using ih
  | case3 => exact le_rfl

namespace DatasetLoader

variable (python : Interpreter) (pydantic : Pydantic ι)

/-- The identifier of an entry: its own, or one made from its position. -/
def queryId (index : ℕ) (members : Members) : List ℕ :=
  let own := members.get "query_id" .null
  if truthy own then python.str own else codes ("query-".toList ++ (toString index).toList)

/-- The ground truth that an entry gives. -/
def groundTruthArguments (members : Members) : GroundTruthArguments where
  expectedProducts := members.get "expected_products" (.array [])
  isDuplicate := members.get "is_duplicate" .null

/-- The query that an entry gives. -/
def queryArguments (index : ℕ) (members : Members) : QueryArguments where
  queryId := queryId python index members
  taskType := members.get "task_type" (.str (codes "retrieval".toList))
  text := members.get "query" (members.get "text" .null)
  imagePath := members.get "image_path" .null
  productId := members.get "product_id" .null
  topK := members.get "top_k" .null

/-- The message for a path with no file. -/
def notFound (path : Text) : List ℕ :=
  codes ("Evaluation dataset not found at '".toList ++ path ++ "'.".toList)

/-- The message for a file that is no JSON. -/
def notJson (path : Text) : List ℕ :=
  codes ("Evaluation dataset at '".toList ++ path ++ "' is not valid JSON.".toList)

/-- The message for a file of another shape. -/
def notArray (path : Text) : List ℕ :=
  codes ("Evaluation dataset at '".toList ++ path ++
    "' must be a JSON array of query objects.".toList)

/-- The message for an entry of another shape. -/
def notObject (index : ℕ) (entry : Json) : List ℕ :=
  codes ("Evaluation dataset entry #".toList ++ (toString index).toList ++
    " must be a JSON object, got ".toList ++ typeName entry ++ ".".toList)

/-- The message for an invalid entry. -/
def invalid (index : ℕ) (queryId error : List ℕ) : List ℕ :=
  codes ("Evaluation dataset entry #".toList ++ (toString index).toList ++ " ('".toList) ++
    queryId ++ codes "') is invalid: ".toList ++ error

/-- `_parse_entry`. -/
def parseEntry (index : ℕ) (entry : Json) : Except LoadError (LoadedQuery ι) :=
  match entry with
  | .object members =>
    -- not guarded: the exception of an invalid ground truth passes through
    match groundTruth pydantic (groundTruthArguments members) with
    | none => .error (.validation (pydantic.groundTruthError (groundTruthArguments members)))
    | some truth =>
      let arguments := queryArguments python index members
      match evaluationQuery pydantic arguments truth with
      | .error check =>
        .error (.evaluation (invalid index arguments.queryId (pydantic.queryError arguments check)))
      | .ok query => .ok query
  | entry => .error (.evaluation (notObject index entry))

/-- `load`. -/
def load (path : Text) : DatasetFile → Except LoadError (List (LoadedQuery ι))
  | .missing => .error (.evaluation (notFound path))
  | .unreadable => .error (.evaluation (notJson path))
  | .content bytes =>
    match readText bytes with
    | none => .error .unicodeDecode
    | some text =>
      match Json.loads python.limits text with
      | .error .decode => .error (.evaluation (notJson path))
      | .error .value => .error .value
      | .error .recursion => .error .recursion
      | .ok (.array entries) =>
        entries.zipIdx.mapM fun entry => parseEntry python pydantic entry.2 entry.1
      | .ok _ => .error (.evaluation (notArray path))

/-! ### The promise -/

/-- The file yields one query for each entry, in order, or `EvaluationException` is raised. -/
def OwnError (path : Text) (bytes : ByteArray) : Prop :=
  (∃ text entries queries, readText bytes = some text ∧
    Json.loads python.limits text = .ok (.array entries) ∧
    load python pydantic path (.content bytes) = .ok queries ∧
    List.Forall₂ (fun entry query => parseEntry python pydantic entry.2 entry.1 = .ok query)
      entries.zipIdx queries) ∨
  ∃ message, load python pydantic path (.content bytes) = .error (.evaluation message)

/-- An object whose ground truth is invalid. -/
def Untruthful (entry : Json) : Prop :=
  ∃ members, entry = .object members ∧ groundTruth pydantic (groundTruthArguments members) = none

/-- The arguments have an invalid field or lack what the task type needs. -/
def InvalidQuery (arguments : QueryArguments) : Prop :=
  ∀ fields, queryFields pydantic arguments = some fields → fields.missing.isSome

/-- An entry that is no object, or whose query is invalid but not its ground truth. -/
def Reported (entry : Json × ℕ) : Prop :=
  ∀ members, entry.1 = .object members →
    groundTruth pydantic (groundTruthArguments members) ≠ none ∧
      InvalidQuery pydantic (queryArguments python entry.2 members)

variable {python pydantic}

theorem evaluationQuery_error {arguments : QueryArguments} (truth : GroundTruth ι) :
    (∃ check, evaluationQuery pydantic arguments truth = .error check) ↔
      InvalidQuery pydantic arguments := by
  unfold evaluationQuery InvalidQuery
  split
  · rename_i hfields
    simp [hfields]
  · rename_i fields hfields
    split
    · rename_i message hmissing
      simp [hfields, hmissing]
    · rename_i hmissing
      simp [hfields, hmissing]

theorem parseEntry_of_none {index : ℕ} {members : Members}
    (h : groundTruth pydantic (groundTruthArguments members) = none) :
    parseEntry python pydantic index (.object members) =
      .error (.validation (pydantic.groundTruthError (groundTruthArguments members))) := by
  simp only [parseEntry, h]

/-- With a valid ground truth, an object fails with the loader's own exception, if it fails. -/
theorem parseEntry_of_some {index : ℕ} {members : Members} {truth : GroundTruth ι}
    (h : groundTruth pydantic (groundTruthArguments members) = some truth) (e : LoadError) :
    parseEntry python pydantic index (.object members) = .error e ↔
      ∃ check, evaluationQuery pydantic (queryArguments python index members) truth = .error check ∧
        .evaluation (invalid index (queryArguments python index members).queryId
          (pydantic.queryError (queryArguments python index members) check)) = e := by
  simp only [parseEntry, h]
  cases evaluationQuery pydantic (queryArguments python index members) truth <;> simp

/-- An entry is reported by the loader's own exception in just these cases. -/
theorem parseEntry_reported {entry : Json × ℕ} :
    (∃ e, parseEntry python pydantic entry.2 entry.1 = .error e ∧ ∃ m, e = .evaluation m) ↔
      Reported python pydantic entry := by
  obtain ⟨entry, index⟩ := entry
  cases entry with
  | object members =>
    cases htruth : groundTruth pydantic (groundTruthArguments members) with
    | none =>
      refine ⟨?_, fun h => absurd htruth (h members rfl).1⟩
      rintro ⟨e, he, m, rfl⟩
      cases (parseEntry_of_none htruth).symm.trans he
    | some truth =>
      refine ⟨?_, fun h => ?_⟩
      · rintro ⟨e, he, -⟩ members' hmembers
        cases hmembers
        obtain ⟨check, hcheck, -⟩ := (parseEntry_of_some htruth e).1 he
        exact ⟨by simp [htruth], (evaluationQuery_error truth).1 ⟨check, hcheck⟩⟩
      · obtain ⟨check, hcheck⟩ := (evaluationQuery_error truth).2 (h members rfl).2
        exact ⟨_, (parseEntry_of_some htruth _).2 ⟨check, hcheck, rfl⟩, _, rfl⟩
  | _ =>
    refine ⟨fun _ members h => ?_, fun _ => ⟨_, rfl, _, rfl⟩⟩
    cases h

/-- An entry raises another exception in just these. -/
theorem parseEntry_untruthful {entry : Json × ℕ} :
    (∃ e, parseEntry python pydantic entry.2 entry.1 = .error e ∧ ¬ ∃ m, e = .evaluation m) ↔
      Untruthful pydantic entry.1 := by
  obtain ⟨entry, index⟩ := entry
  cases entry with
  | object members =>
    cases htruth : groundTruth pydantic (groundTruthArguments members) with
    | none =>
      exact ⟨fun _ => ⟨members, rfl, htruth⟩, fun _ => ⟨_, parseEntry_of_none htruth, by simp⟩⟩
    | some truth =>
      refine ⟨?_, ?_⟩
      · rintro ⟨e, he, hnot⟩
        obtain ⟨check, -, rfl⟩ := (parseEntry_of_some htruth e).1 he
        exact absurd ⟨_, rfl⟩ hnot
      · rintro ⟨members', hmembers, hnone⟩
        cases hmembers
        cases htruth.symm.trans hnone
  | _ =>
    refine ⟨?_, ?_⟩
    · rintro ⟨e, he, hnot⟩
      cases he
      exact absurd ⟨_, rfl⟩ hnot
    · rintro ⟨members, hmembers, -⟩
      cases hmembers

/-- Once the text is read, the loader keeps its promise if the text is JSON or malformed, and no
entry raises another exception first. -/
theorem load_error_forall {path : Text} {bytes : ByteArray} {text : Text}
    (htext : readText bytes = some text) :
    (∀ e, load python pydantic path (.content bytes) = .error e → ∃ m, e = .evaluation m) ↔
      (∀ e, Json.loads python.limits text = .error e → e = .decode) ∧
        ∀ entries, Json.loads python.limits text = .ok (.array entries) →
          ∀ before entry after, entries.zipIdx = before ++ entry :: after →
            Untruthful pydantic entry.1 → ∃ earlier ∈ before, Reported python pydantic earlier := by
  simp only [load, htext]
  cases hloads : Json.loads python.limits text with
  | error e => cases e <;> simp
  | ok value =>
    cases value with
    | array entries =>
      simp only [Except.mapM_error_forall, parseEntry_untruthful, parseEntry_reported]
      simp
    | _ => simp

theorem ownError_iff {path : Text} {bytes : ByteArray} :
    OwnError python pydantic path bytes ↔
      ∀ e, load python pydantic path (.content bytes) = .error e → ∃ m, e = .evaluation m := by
  refine ⟨?_, fun h => ?_⟩
  · rintro (⟨text, entries, queries, -, -, hok, -⟩ | ⟨m, hm⟩) e he
    · cases hok.symm.trans he
    · cases hm.symm.trans he
      exact ⟨m, rfl⟩
  · cases hload : load python pydantic path (.content bytes) with
    | error e =>
      obtain ⟨m, rfl⟩ := h e hload
      exact .inr ⟨m, hload⟩
    | ok queries =>
      have hrun := hload
      simp only [load] at hrun
      split at hrun
      · cases hrun
      · rename_i text htext
        split at hrun <;> try cases hrun
        rename_i entries hloads
        exact .inl ⟨text, entries, queries, htext, hloads, hload, Except.forall₂_of_mapM hrun⟩

/-- **Exactly which files keep the promise**: those of UTF-8 text that the interpreter reads or
finds malformed, in which every entry with an invalid ground truth comes after an entry that is
reported. -/
theorem load_ownError_iff (path : Text) (bytes : ByteArray) :
    OwnError python pydantic path bytes ↔
      ∃ text : Text, bytes = text.utf8Encode ∧
        (∀ e, Json.loads python.limits (universalNewlines text) = .error e → e = .decode) ∧
        ∀ entries, Json.loads python.limits (universalNewlines text) = .ok (.array entries) →
          ∀ before entry after, entries.zipIdx = before ++ entry :: after →
            Untruthful pydantic entry.1 → ∃ earlier ∈ before, Reported python pydantic earlier := by
  rw [ownError_iff]
  by_cases hread : readText bytes = none
  · refine ⟨fun h => ?_, ?_⟩
    · obtain ⟨m, hm⟩ := h .unicodeDecode (by simp only [load, hread])
      cases hm
    · rintro ⟨text, rfl, -⟩
      cases (readText_utf8Encode text).symm.trans hread
  · obtain ⟨text, rfl⟩ := eq_utf8Encode_of_readText hread
    rw [load_error_forall (readText_utf8Encode text)]
    refine ⟨fun h => ⟨text, rfl, h⟩, ?_⟩
    rintro ⟨text', htext, h⟩
    have hsame := congrArg ByteArray.utf8Decode? htext
    rw [List.utf8Decode?_utf8Encode, List.utf8Decode?_utf8Encode] at hsame
    cases hsame
    exact h

/-- **A short text keeps the promise** once its ground truths are valid. -/
theorem load_ownError_of_short {path text : Text} (hnesting : text.length ≤ python.limits.nesting)
    (hdigits : python.limits.digits = 0 ∨ text.length ≤ python.limits.digits)
    (htruth : ∀ entries, Json.loads python.limits (universalNewlines text) = .ok (.array entries) →
      ∀ entry ∈ entries, ¬ Untruthful pydantic entry) :
    OwnError python pydantic path text.utf8Encode := by
  have hshort := length_universalNewlines_le text
  rw [ownError_iff, load_error_forall (readText_utf8Encode text)]
  refine ⟨fun e => Json.loads_error (hshort.trans hnesting) (hdigits.imp_right hshort.trans), ?_⟩
  intro entries hloads before entry after hsplit hbad
  have hmem : entry ∈ entries.zipIdx := by simp [hsplit]
  exact absurd hbad (htruth entries hloads _ (List.fst_mem_of_mem_zipIdx hmem))

/-! ### A ground truth with a bad identifier -/

/-- An interpreter with the usual limits. -/
def usualPython : Interpreter := ⟨⟨1000, 4300⟩, fun _ => []⟩

/-- Validation of the values that occur below, as the library does it. -/
def usualPydantic : Pydantic ℕ where
  str := textOf
  uuid value := (textOf value).bind fun t =>
    let digits := t.filter fun c => c ≠ '-'
    if digits.length = 32 then Json.codeUnit digits else none
  bool
    | .bool value => some value
    | _ => none
  path := textOf
  int
    | .int value => some value
    | _ => none
  groundTruthError _ := codes "1 validation error for GroundTruth".toList
  queryError _ _ := codes "1 validation error for EvaluationQuery".toList

/-- A dataset of one query, whose expected product is no UUID. -/
def abcDataset : Text := "[\x7b\"query\": \"shoes\", \"expected_products\": [\"abc\"]\x7d]".toList

theorem bad_identifier_escapes :
    ¬ OwnError usualPython usualPydantic "dataset.json".toList abcDataset.utf8Encode := by
  have hraised : (match load usualPython usualPydantic "dataset.json".toList
      (.content abcDataset.utf8Encode) with
      | .error (.validation _) => true
      | _ => false) = true := by
    simp only [load, readText_utf8Encode]
    decide +kernel
  intro hown
  split at hraised
  · rename_i text hload
    obtain ⟨message, hmessage⟩ := ownError_iff.1 hown _ hload
    cases hmessage
  · cases hraised

end DatasetLoader

end ProductIntelligence
