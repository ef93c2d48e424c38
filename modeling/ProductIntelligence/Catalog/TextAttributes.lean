import ProductIntelligence.Catalog.Predictions
import ProductIntelligence.Text.Keywords

/-!
# Attributes and tags from the text of a product

The rule-based extraction: a submitted brand or category is trusted as it is, everything else
is looked up in tables of keywords over the name, the category and the description.

## Main definitions

* `findFirstKeyword`, `findAllKeywords` — the lookups in a table.
* `extractAttributes`, `generateTags` — what the service proposes.

## Main results

* `extractAttributes_congr`, `generateTags_congr` — the proposals depend on the text only by
  where keywords are found in it.
* `sameKeywords_append_blank` — which white space at its end does not change.
* `filter_brand_extractAttributes`, `filter_category_extractAttributes` — what is proposed for
  the brand and the category.

## References

`backend/app/services/catalog/text_attribute_service.py`.
-/

namespace ProductIntelligence

/-! ### The tables -/

/-- A table from lowercase keywords to the values they stand for. -/
def keywordTable (entries : List (String × String)) : List (Text × Text) :=
  entries.map fun entry => (entry.1.toList, entry.2.toList)

/-- `_KNOWN_BRANDS`. -/
def knownBrands : List (Text × Text) := keywordTable
  [("nike", "Nike"), ("adidas", "Adidas"), ("puma", "Puma"), ("reebok", "Reebok"),
  ("under armour", "Under Armour"), ("new balance", "New Balance"), ("asics", "Asics"),
  ("converse", "Converse"), ("vans", "Vans"), ("fila", "Fila"), ("skechers", "Skechers"),
  ("levi's", "Levi's"), ("levis", "Levi's"), ("h&m", "H&M"), ("zara", "Zara"), ("gucci", "Gucci"),
  ("prada", "Prada"), ("gap", "Gap"), ("uniqlo", "Uniqlo")]

/-- `_CATEGORY_KEYWORDS`. -/
def categoryKeywords : List (Text × Text) := keywordTable
  [("running shoes", "Running Shoes"), ("running shoe", "Running Shoes"), ("sneakers", "Sneakers"),
  ("sneaker", "Sneakers"), ("t-shirt", "T-Shirts"), ("t shirt", "T-Shirts"), ("tshirt", "T-Shirts"),
  ("jeans", "Jeans"), ("jacket", "Jackets"), ("dress", "Dresses"), ("shorts", "Shorts"),
  ("hoodie", "Hoodies"), ("sandals", "Sandals"), ("boots", "Boots"), ("backpack", "Backpacks"),
  ("watch", "Watches"), ("sunglasses", "Sunglasses"), ("shirt", "Shirts")]

/-- `_COLOR_KEYWORDS`. -/
def colorKeywords : List (Text × Text) := keywordTable
  [("red", "Red"), ("blue", "Blue"), ("green", "Green"), ("black", "Black"), ("white", "White"),
  ("yellow", "Yellow"), ("orange", "Orange"), ("purple", "Purple"), ("pink", "Pink"),
  ("brown", "Brown"), ("grey", "Gray"), ("gray", "Gray"), ("navy", "Navy"), ("beige", "Beige"),
  ("maroon", "Maroon"), ("gold", "Gold"), ("silver", "Silver"), ("multicolor", "Multicolor")]

/-- `_MATERIAL_KEYWORDS`. -/
def materialKeywords : List (Text × Text) := keywordTable
  [("mesh", "Mesh"), ("cotton", "Cotton"), ("leather", "Leather"), ("polyester", "Polyester"),
  ("wool", "Wool"), ("denim", "Denim"), ("silk", "Silk"), ("nylon", "Nylon"), ("rubber", "Rubber"),
  ("suede", "Suede"), ("canvas", "Canvas"), ("linen", "Linen"), ("synthetic", "Synthetic"),
  ("spandex", "Spandex"), ("velvet", "Velvet")]

/-- `_GENDER_KEYWORDS`. -/
def genderKeywords : List (Text × Text) := keywordTable
  [("men's", "Men"), ("mens", "Men"), ("man's", "Men"), ("men", "Men"), ("women's", "Women"),
  ("womens", "Women"), ("woman's", "Women"), ("women", "Women"), ("unisex", "Unisex"),
  ("boy's", "Boys"), ("boys", "Boys"), ("girl's", "Girls"), ("girls", "Girls"), ("kid's", "Kids"),
  ("kids", "Kids")]

/-- `_STYLE_KEYWORDS`. -/
def styleKeywords : List (Text × Text) := keywordTable
  [("running", "Running"), ("casual", "Casual"), ("formal", "Formal"), ("sports", "Sports"),
  ("athletic", "Athletic"), ("vintage", "Vintage"), ("classic", "Classic"), ("trendy", "Trendy"),
  ("streetwear", "Streetwear")]

/-- `_PATTERN_KEYWORDS`. -/
def patternKeywords : List (Text × Text) := keywordTable
  [("solid", "Solid"), ("striped", "Striped"), ("stripe", "Striped"), ("checked", "Checked"),
  ("plaid", "Plaid"), ("floral", "Floral"), ("polka dot", "Polka Dot"), ("printed", "Printed"),
  ("camouflage", "Camouflage"), ("camo", "Camouflage")]

/-- `_SEASON_KEYWORDS`. -/
def seasonKeywords : List (Text × Text) := keywordTable
  [("summer", "Summer"), ("winter", "Winter"), ("spring", "Spring"), ("autumn", "Fall"),
  ("fall", "Fall"), ("monsoon", "Monsoon"), ("all-season", "All-Season")]

/-- `_OCCASION_KEYWORDS`. -/
def occasionKeywords : List (Text × Text) := keywordTable
  [("party", "Party"), ("wedding", "Wedding"), ("office", "Office"), ("outdoor", "Outdoor"),
  ("travel", "Travel"), ("workout", "Workout"), ("gym", "Gym"), ("sports", "Sports"),
  ("casual", "Casual")]

/-- `_AGE_GROUP_KEYWORDS`. -/
def ageGroupKeywords : List (Text × Text) := keywordTable
  [("children", "Kids"), ("child", "Kids"), ("kids", "Kids"), ("kid", "Kids"), ("adult", "Adult"),
  ("toddler", "Toddler"), ("infant", "Infant"), ("baby", "Infant")]

/-- `_DESCRIPTOR_TAG_KEYWORDS`: words that are tags on their own. -/
def descriptorTagKeywords : List Text := List.map String.toList
  ["lightweight", "breathable", "waterproof", "durable", "comfortable", "stylish", "premium",
  "soft", "warm", "stretchable", "washable", "eco-friendly", "sustainable", "quick-dry",
  "anti-slip", "cushioned"]

def structuredFieldConfidence : Confidence := hundredths 100
def brandKeywordConfidence : Confidence := hundredths 90
def categoryKeywordConfidence : Confidence := hundredths 85
def colorKeywordConfidence : Confidence := hundredths 80
def genderKeywordConfidence : Confidence := hundredths 85
def materialKeywordConfidence : Confidence := hundredths 75
def styleKeywordConfidence : Confidence := hundredths 70
def patternKeywordConfidence : Confidence := hundredths 70
def seasonKeywordConfidence : Confidence := hundredths 70
def ageGroupKeywordConfidence : Confidence := hundredths 70
def occasionKeywordConfidence : Confidence := hundredths 65
def tagDescriptorConfidence : Confidence := hundredths 60

/-! ### Lookups -/

/-- One round of the search for the earliest keyword: a strictly earlier one replaces the best
so far. -/
def keepEarliest (lowered : Text) (best : Option (ℕ × Text)) (entry : Text × Text) :
    Option (ℕ × Text) :=
  match searchKeyword entry.1 lowered, best with
  | none, best => best
  | some start, none => some (start, entry.2)
  | some start, some (bestIndex, bestValue) =>
    if start < bestIndex then some (start, entry.2) else some (bestIndex, bestValue)

/-- One round keeps what it has or takes the entry, and is then no later than either. -/
theorem keepEarliest_spec (lowered : Text) (best : Option (ℕ × Text)) (entry : Text × Text) :
    (keepEarliest lowered best entry = best ∨ ∃ start, searchKeyword entry.1 lowered = some start ∧
        keepEarliest lowered best entry = some (start, entry.2)) ∧
      (∀ b ∈ best, ∃ b' ∈ keepEarliest lowered best entry, b'.1 ≤ b.1) ∧
      ∀ start, searchKeyword entry.1 lowered = some start →
        ∃ b' ∈ keepEarliest lowered best entry, b'.1 ≤ start := by
  unfold keepEarliest
  cases hfound : searchKeyword entry.1 lowered with
  | none => exact ⟨.inl rfl, fun b hb => ⟨b, hb, le_rfl⟩, fun start h => (by cases h)⟩
  | some start =>
    cases best with
    | none =>
      refine ⟨.inr ⟨start, rfl, rfl⟩, fun b hb => (by cases hb), fun start' h => ?_⟩
      cases h
      exact ⟨(start, entry.2), rfl, le_rfl⟩
    | some kept =>
      dsimp only
      split
      · next hlt =>
        refine ⟨.inr ⟨start, rfl, rfl⟩, fun b hb => ?_, fun start' h => ?_⟩
        · cases hb
          exact ⟨(start, entry.2), rfl, hlt.le⟩
        · cases h
          exact ⟨(start, entry.2), rfl, le_rfl⟩
      · next hle =>
        refine ⟨.inl rfl, fun b hb => ⟨b, hb, le_rfl⟩, fun start' h => ?_⟩
        cases h
        exact ⟨kept, rfl, not_lt.1 hle⟩

/-- `_find_first_keyword`: the value of the keyword that occurs earliest in the text. -/
def findFirstKeyword (text : Text) (keywords : List (Text × Text)) : Option Text :=
  (keywords.foldl (keepEarliest (lower text)) none).map Prod.snd

/-- `_find_all_keywords`: the values of all keywords that occur, each once. -/
def findAllKeywords (text : Text) (keywords : List (Text × Text)) : List Text :=
  keywords.foldl (fun found entry =>
    if (searchKeyword entry.1 (lower text)).isSome && !found.contains entry.2
    then found ++ [entry.2] else found) []

/-- `_combine_text`: the fields that are scanned, joined by spaces; empty ones are left out. -/
def combineText (name : Text) (category description : Option Text) : Text :=
  [' '].intercalate ([some name, category, description].filterMap (Option.bind · orNone))

/-! ### The service -/

/-- `_append_first_match`. -/
def appendFirstMatch (predictions : List AttributePrediction) (attributeName text : Text)
    (keywords : List (Text × Text)) (confidence : Confidence) : List AttributePrediction :=
  match findFirstKeyword text keywords with
  | some value => predictions ++ [⟨attributeName, value, confidence, .text⟩]
  | none => predictions

/-- A submitted value is trusted as it is; without one the text is searched. -/
def appendStructured (predictions : List AttributePrediction) (attributeName : Text)
    (submitted : Option Text) (text : Text) (keywords : List (Text × Text))
    (confidence : Confidence) : List AttributePrediction :=
  match submitted.bind orNone with
  | some value => predictions ++ [⟨attributeName, value, structuredFieldConfidence, .text⟩]
  | none => appendFirstMatch predictions attributeName text keywords confidence

/-- The attributes that are only looked up in the text. -/
def scannedAttributes : List (Text × List (Text × Text) × Confidence) :=
  [("color".toList, colorKeywords, colorKeywordConfidence),
  ("material".toList, materialKeywords, materialKeywordConfidence),
  ("gender".toList, genderKeywords, genderKeywordConfidence),
  ("style".toList, styleKeywords, styleKeywordConfidence),
  ("pattern".toList, patternKeywords, patternKeywordConfidence),
  ("season".toList, seasonKeywords, seasonKeywordConfidence),
  ("occasion".toList, occasionKeywords, occasionKeywordConfidence),
  ("age_group".toList, ageGroupKeywords, ageGroupKeywordConfidence)]

/-- `TextAttributeExtractionService.extract_attributes`. -/
def extractAttributes (name : Text) (brand category description : Option Text) :
    List AttributePrediction :=
  let combinedText := combineText name category description
  let predictions := appendStructured [] "brand".toList brand combinedText knownBrands
    brandKeywordConfidence
  let predictions := appendStructured predictions "category".toList category combinedText
    categoryKeywords categoryKeywordConfidence
  scannedAttributes.foldl (fun predictions entry =>
    appendFirstMatch predictions entry.1 combinedText entry.2.1 entry.2.2) predictions

/-- `_add`: a tag in lower case, unless it is there already. -/
def addTag (tags : List SourcedTag) (value : Text) (confidence : Confidence) : List SourcedTag :=
  let normalized := lower (strip value)
  if (tags.map SourcedTag.tag).contains normalized then tags
  else tags ++ [⟨normalized, confidence, .text⟩]

/-- The attributes every mention of which becomes a tag. -/
def taggedAttributes : List (List (Text × Text) × Confidence) :=
  [(colorKeywords, colorKeywordConfidence), (materialKeywords, materialKeywordConfidence),
  (styleKeywords, styleKeywordConfidence)]

/-- `TextAttributeExtractionService.generate_tags`. -/
def generateTags (name : Text) (brand category description : Option Text) : List SourcedTag :=
  let tags := (extractAttributes name brand category description).foldl
    (fun tags prediction => addTag tags prediction.value prediction.confidence) []
  let combinedText := combineText name category description
  let tags := taggedAttributes.foldl (fun tags entry =>
    (findAllKeywords combinedText entry.1).foldl (fun tags value => addTag tags value entry.2)
      tags) tags
  (descriptorTagKeywords.insertionSort (· ≤ ·)).foldl (fun tags descriptor =>
    if (searchKeyword descriptor (lower combinedText)).isSome
    then addTag tags descriptor tagDescriptorConfidence else tags) tags

/-! ### What the extraction depends on -/

/-- The last character of the keyword is a word character. -/
def endsInWord (keyword : Text) : Bool := keyword.getLast?.any isWordChar

/-- Every keyword is found at the same place in both texts. -/
def SameKeywords (s t : Text) : Prop :=
  ∀ keyword, endsInWord keyword → searchKeyword keyword (lower s) = searchKeyword keyword (lower t)

theorem SameKeywords.refl (s : Text) : SameKeywords s s := fun _ _ => rfl

theorem sameKeywords_append_blank (s : Text) {t : Text} (ht : IsBlank t) :
    SameKeywords (s ++ t) s := by
  intro keyword hkeyword
  unfold endsInWord at hkeyword
  cases hlast : keyword.getLast? with
  | none =>
    rw [hlast] at hkeyword
    cases hkeyword
  | some c =>
    rw [hlast] at hkeyword
    exact searchKeyword_append_blank hlast hkeyword s ht

/-- No submitted description and a blank one make the same text but for white space at its
end. -/
theorem combineText_blank (name : Text) (category : Option Text) {description : Text}
    (h : IsBlank description) :
    ∃ t, IsBlank t ∧
      combineText name category (some description) = combineText name category none ++ t := by
  by_cases hempty : description = []
  · subst hempty
    exact ⟨[], h, (List.append_nil _).symm⟩
  · -- what precedes the description, if anything, is separated from it by one more space
    have hspace : IsBlank (' ' :: description) := by
      intro c hc
      rcases List.mem_cons.1 hc with rfl | hc
      · decide
      · exact h c hc
    unfold combineText
    simp only [List.filterMap_cons, List.filterMap_nil, Option.bind_some, Option.bind_none,
      orNone_of_ne hempty]
    cases hname : orNone name with
    | none =>
      cases hcategory : category.bind orNone with
      | none => exact ⟨description, h, by simp [List.intercalate]⟩
      | some category => exact ⟨' ' :: description, hspace, by simp [List.intercalate]⟩
    | some name =>
      cases hcategory : category.bind orNone with
      | none => exact ⟨' ' :: description, hspace, by simp [List.intercalate]⟩
      | some category => exact ⟨' ' :: description, hspace, by simp [List.intercalate]⟩

section Congr

variable {s t : Text} (h : SameKeywords s t)
include h

theorem foldl_keepEarliest_congr {keywords : List (Text × Text)}
    (hkeywords : ∀ entry ∈ keywords, endsInWord entry.1) (best : Option (ℕ × Text)) :
    keywords.foldl (keepEarliest (lower s)) best =
      keywords.foldl (keepEarliest (lower t)) best := by
  induction keywords generalizing best with
  | nil => rfl
  | cons entry keywords ih =>
    have hentry : keepEarliest (lower s) best entry = keepEarliest (lower t) best entry := by
      unfold keepEarliest
      rw [h entry.1 (hkeywords entry (List.mem_cons_self ..))]
    rw [List.foldl_cons, List.foldl_cons, hentry]
    exact ih (fun e he => hkeywords e (List.mem_cons_of_mem _ he)) _

theorem findFirstKeyword_congr {keywords : List (Text × Text)}
    (hkeywords : ∀ entry ∈ keywords, endsInWord entry.1) :
    findFirstKeyword s keywords = findFirstKeyword t keywords := by
  unfold findFirstKeyword
  rw [foldl_keepEarliest_congr h hkeywords]

theorem findAllKeywords_congr {keywords : List (Text × Text)}
    (hkeywords : ∀ entry ∈ keywords, endsInWord entry.1) :
    findAllKeywords s keywords = findAllKeywords t keywords := by
  unfold findAllKeywords
  refine List.foldl_ext _ _ _ fun found entry hentry => ?_
  rw [h entry.1 (hkeywords entry hentry)]

theorem appendFirstMatch_congr {keywords : List (Text × Text)}
    (hkeywords : ∀ entry ∈ keywords, endsInWord entry.1)
    (predictions : List AttributePrediction) (name : Text) (confidence : Confidence) :
    appendFirstMatch predictions name s keywords confidence =
      appendFirstMatch predictions name t keywords confidence := by
  unfold appendFirstMatch
  rw [findFirstKeyword_congr h hkeywords]

theorem appendStructured_congr {keywords : List (Text × Text)}
    (hkeywords : ∀ entry ∈ keywords, endsInWord entry.1) {submitted submitted' : Option Text}
    (hsubmitted : submitted.bind orNone = submitted'.bind orNone)
    (predictions : List AttributePrediction) (name : Text) (confidence : Confidence) :
    appendStructured predictions name submitted s keywords confidence =
      appendStructured predictions name submitted' t keywords confidence := by
  unfold appendStructured
  rw [hsubmitted]
  split
  · rfl
  · exact appendFirstMatch_congr h hkeywords _ _ _

end Congr

/-- Every keyword of every table ends in a word character. -/
theorem endsInWord_tables : (∀ entry ∈ knownBrands, endsInWord entry.1) ∧
    (∀ entry ∈ categoryKeywords, endsInWord entry.1) ∧
    (∀ scanned ∈ scannedAttributes, ∀ entry ∈ scanned.2.1, endsInWord entry.1) ∧
    (∀ tagged ∈ taggedAttributes, ∀ entry ∈ tagged.1, endsInWord entry.1) ∧
    ∀ descriptor ∈ descriptorTagKeywords, endsInWord descriptor := by
  decide +kernel

section Service

variable {name : Text} {brand brand' category category' description description' : Option Text}
  (hbrand : brand.bind orNone = brand'.bind orNone)
  (hcategory : category.bind orNone = category'.bind orNone)
  (htext : SameKeywords (combineText name category description)
    (combineText name category' description'))
include hbrand hcategory htext

/-- **The extracted attributes** depend on which brand and category are submitted, and on where
keywords are found in the text. -/
theorem extractAttributes_congr :
    extractAttributes name brand category description =
      extractAttributes name brand' category' description' := by
  obtain ⟨hbrands, hcategories, hall, -, -⟩ := endsInWord_tables
  unfold extractAttributes
  dsimp only
  rw [appendStructured_congr htext hbrands hbrand,
    appendStructured_congr htext hcategories hcategory]
  exact List.foldl_ext _ _ _ fun predictions scanned hscanned =>
    appendFirstMatch_congr htext (hall scanned hscanned) _ _ _

/-- **The generated tags** depend on the same. -/
theorem generateTags_congr :
    generateTags name brand category description =
      generateTags name brand' category' description' := by
  obtain ⟨-, -, -, htables, hdescriptors⟩ := endsInWord_tables
  have hall : ∀ tags, taggedAttributes.foldl (fun tags entry =>
      (findAllKeywords (combineText name category description) entry.1).foldl
        (fun tags value => addTag tags value entry.2) tags) tags =
      taggedAttributes.foldl (fun tags entry =>
        (findAllKeywords (combineText name category' description') entry.1).foldl
          (fun tags value => addTag tags value entry.2) tags) tags := by
    intro tags
    refine List.foldl_ext _ _ _ fun tags tagged htagged => ?_
    rw [findAllKeywords_congr htext (htables tagged htagged)]
  unfold generateTags
  dsimp only
  rw [extractAttributes_congr hbrand hcategory htext, hall]
  refine List.foldl_ext _ _ _ fun tags descriptor hdescriptor => ?_
  rw [htext descriptor (hdescriptors descriptor
    ((List.perm_insertionSort _ _).mem_iff.1 hdescriptor))]

end Service

/-! ### What is proposed for one attribute -/

/-- The best so far is always one of the table. -/
theorem mem_of_foldl_keepEarliest {lowered : Text} {keywords : List (Text × Text)} :
    ∀ b ∈ keywords.foldl (keepEarliest lowered) none, b.2 ∈ keywords.map Prod.snd := by
  induction keywords using List.reverseRecOn with
  | nil =>
    intro b hb
    cases hb
  | append_singleton keywords entry ih =>
    intro b hb
    rw [List.foldl_append, List.foldl_cons, List.foldl_nil] at hb
    rw [List.map_append, List.mem_append]
    rcases (keepEarliest_spec lowered _ entry).1 with hsame | ⟨start, -, hnew⟩
    · rw [hsame] at hb
      exact .inl (ih b hb)
    · rw [hnew] at hb
      cases hb
      exact .inr (List.mem_singleton_self _)

theorem findFirstKeyword_mem {text value : Text} {keywords : List (Text × Text)}
    (h : findFirstKeyword text keywords = some value) : value ∈ keywords.map Prod.snd := by
  obtain ⟨b, hb, rfl⟩ := Option.map_eq_some_iff.1 h
  exact mem_of_foldl_keepEarliest b hb

variable {predictions : List AttributePrediction} {attributeName name text : Text}
  {keywords : List (Text × Text)} {confidence : Confidence} {submitted : Option Text}

theorem appendFirstMatch_eq_append (predictions : List AttributePrediction)
    (attributeName text : Text) (keywords : List (Text × Text)) (confidence : Confidence) :
    appendFirstMatch predictions attributeName text keywords confidence =
      predictions ++ appendFirstMatch [] attributeName text keywords confidence := by
  unfold appendFirstMatch
  split
  · rfl
  · exact (List.append_nil _).symm

theorem appendStructured_eq_append (predictions : List AttributePrediction)
    (attributeName : Text) (submitted : Option Text) (text : Text)
    (keywords : List (Text × Text)) (confidence : Confidence) :
    appendStructured predictions attributeName submitted text keywords confidence =
      predictions ++ appendStructured [] attributeName submitted text keywords confidence := by
  unfold appendStructured
  split
  · rfl
  · exact appendFirstMatch_eq_append _ _ _ _ _

/-- A value that is looked up is proposed for the attribute, and is one of the table. -/
theorem of_mem_appendFirstMatch {prediction : AttributePrediction}
    (h : prediction ∈ appendFirstMatch [] attributeName text keywords confidence) :
    prediction.attributeName = attributeName ∧ prediction.value ∈ keywords.map Prod.snd := by
  unfold appendFirstMatch at h
  split at h
  · rename_i value hvalue
    rw [List.nil_append, List.mem_singleton] at h
    subst h
    exact ⟨rfl, findFirstKeyword_mem hvalue⟩
  · cases h

theorem attributeName_of_mem_appendStructured {prediction : AttributePrediction}
    (h : prediction ∈ appendStructured [] attributeName submitted text keywords confidence) :
    prediction.attributeName = attributeName := by
  unfold appendStructured at h
  split at h
  · rw [List.nil_append, List.mem_singleton] at h
    rw [h]
  · exact (of_mem_appendFirstMatch h).1

/-- The scan proposes nothing for an attribute that is not scanned. -/
theorem filter_foldl_scanned {entries : List (Text × List (Text × Text) × Confidence)}
    (h : ∀ entry ∈ entries, entry.1 ≠ name) (predictions : List AttributePrediction) :
    (entries.foldl (fun predictions entry =>
      appendFirstMatch predictions entry.1 text entry.2.1 entry.2.2) predictions).filter
        (fun prediction => prediction.attributeName = name) =
      predictions.filter fun prediction => prediction.attributeName = name := by
  induction entries generalizing predictions with
  | nil => rfl
  | cons entry entries ih =>
    have hnew : (appendFirstMatch [] entry.1 text entry.2.1 entry.2.2).filter
        (fun prediction => prediction.attributeName = name) = [] := by
      rw [List.filter_eq_nil_iff]
      intro prediction hprediction hname
      refine h entry (List.mem_cons_self ..) ?_
      rw [← (of_mem_appendFirstMatch hprediction).1]
      exact of_decide_eq_true hname
    rw [List.foldl_cons, ih fun e he => h e (List.mem_cons_of_mem _ he),
      appendFirstMatch_eq_append, List.filter_append, hnew, List.append_nil]

/-- What is proposed for an attribute that is not scanned. -/
theorem filter_extractAttributes {name : Text}
    (hname : ∀ entry ∈ scannedAttributes, entry.1 ≠ name)
    (productName : Text) (brand category description : Option Text) :
    (extractAttributes productName brand category description).filter
        (fun prediction => prediction.attributeName = name) =
      (appendStructured [] "brand".toList brand (combineText productName category description)
        knownBrands brandKeywordConfidence).filter
          (fun prediction => prediction.attributeName = name) ++
      (appendStructured [] "category".toList category
        (combineText productName category description) categoryKeywords
        categoryKeywordConfidence).filter fun prediction => prediction.attributeName = name := by
  unfold extractAttributes
  dsimp only
  rw [filter_foldl_scanned hname, appendStructured_eq_append, List.filter_append]

theorem filter_appendStructured_self :
    (appendStructured [] name submitted text keywords confidence).filter
      (fun prediction => prediction.attributeName = name) =
      appendStructured [] name submitted text keywords confidence :=
  List.filter_eq_self.2 fun _ h => decide_eq_true (attributeName_of_mem_appendStructured h)

theorem filter_appendStructured_of_ne (hne : attributeName ≠ name) :
    (appendStructured [] attributeName submitted text keywords confidence).filter
      (fun prediction => prediction.attributeName = name) = [] :=
  List.filter_eq_nil_iff.2 fun _ h hname =>
    hne ((attributeName_of_mem_appendStructured h).symm.trans (of_decide_eq_true hname))

section Proposed

variable (productName : Text) (brand category description : Option Text)

theorem filter_brand_extractAttributes :
    (extractAttributes productName brand category description).filter
        (fun prediction => prediction.attributeName = "brand".toList) =
      appendStructured [] "brand".toList brand (combineText productName category description)
        knownBrands brandKeywordConfidence := by
  rw [filter_extractAttributes (by decide +kernel), filter_appendStructured_self,
    filter_appendStructured_of_ne (by decide +kernel), List.append_nil]

theorem filter_category_extractAttributes :
    (extractAttributes productName brand category description).filter
        (fun prediction => prediction.attributeName = "category".toList) =
      appendStructured [] "category".toList category
        (combineText productName category description) categoryKeywords
        categoryKeywordConfidence := by
  rw [filter_extractAttributes (by decide +kernel), filter_appendStructured_self,
    filter_appendStructured_of_ne (by decide +kernel), List.nil_append]

/-- No attribute is named like the aggregate confidence. -/
theorem filter_confidence_extractAttributes :
    (extractAttributes productName brand category description).filter
      (fun prediction => prediction.attributeName = "confidence".toList) = [] := by
  rw [filter_extractAttributes (by decide +kernel),
    filter_appendStructured_of_ne (by decide +kernel),
    filter_appendStructured_of_ne (by decide +kernel), List.nil_append]

end Proposed

end ProductIntelligence
