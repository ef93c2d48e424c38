import ProductIntelligence.Catalog.TextAttributes

/-!
# The first mention of a keyword

A lookup in a table yields the value of the keyword that is mentioned first.  Two keywords may be
mentioned at one place, when one begins with the other; in the tables of the service these stand for
one value, so the order of a table does not matter.  Every value that is extracted becomes a tag.

## Main definitions

* `Mentions text keyword i` — the keyword stands in the lowercase text as a whole word.
* `FirstMention text keywords value` — what the first keyword that is mentioned stands for.
* `Unambiguous keywords` — keywords of one beginning stand for one value.

## Main results

* `firstMention_of_findFirstKeyword`, `findFirstKeyword_eq_none_iff` — what a lookup finds.
* `findFirstKeyword_perm` — the order of an unambiguous table does not matter.
* `nodup_generateTags`, `count_generateTags` — the tags are distinct, and each value is one.
* `first_mention_and_tags` — **the first mention wins, and every value is tagged once**.

## References

`backend/app/services/catalog/text_attribute_service.py`.
-/

namespace ProductIntelligence

open WordSearch

/-! ### Lookups -/

/-- The keyword stands in the lowercase text as a whole word, after so many characters. -/
def Mentions (text keyword : Text) (i : ℕ) : Prop := StandsAt isWordChar keyword (lower text) i

/-- The value of a keyword of the table that is mentioned no later than any keyword is. -/
def FirstMention (text : Text) (keywords : List (Text × Text)) (value : Text) : Prop :=
  ∃ keyword i, (keyword, value) ∈ keywords ∧ Mentions text keyword i ∧
    ∀ entry ∈ keywords, ∀ j, Mentions text entry.1 j → i ≤ j

/-- What the loop has kept after some entries: the place and the value of one of them, and no later
than any mention of one. -/
structure EarliestKept (text : Text) (seen : List (Text × Text)) (best : Option (ℕ × Text)) :
    Prop where
  mentioned : ∀ b ∈ best, ∃ keyword, (keyword, b.2) ∈ seen ∧ Mentions text keyword b.1
  earliest : ∀ entry ∈ seen, ∀ j, Mentions text entry.1 j → ∃ b ∈ best, b.1 ≤ j

/-- One more entry. -/
theorem EarliestKept.concat {text : Text} {seen : List (Text × Text)} {best : Option (ℕ × Text)}
    (h : EarliestKept text seen best) (entry : Text × Text) :
    EarliestKept text (seen ++ [entry]) (keepEarliest (lower text) best entry) := by
  obtain ⟨hcases, hkept, hentry⟩ := keepEarliest_spec (lower text) best entry
  constructor
  · intro b hb
    rcases hcases with hsame | ⟨start, hfound, hnew⟩
    · rw [hsame] at hb
      obtain ⟨keyword, hmem, hmentions⟩ := h.mentioned b hb
      exact ⟨keyword, List.mem_append_left _ hmem, hmentions⟩
    · rw [hnew] at hb
      cases hb
      exact ⟨entry.1, by simp, (search_eq_some_iff.1 hfound).1⟩
  · intro entry' hentry' j hj
    rcases List.mem_append.1 hentry' with hseen | hlast
    · obtain ⟨b, hb, hle⟩ := h.earliest entry' hseen j hj
      obtain ⟨b', hb', hle'⟩ := hkept b hb
      exact ⟨b', hb', hle'.trans hle⟩
    · rw [List.mem_singleton.1 hlast] at hj
      cases hfound : searchKeyword entry.1 (lower text) with
      | none => exact absurd hj (search_eq_none_iff.1 hfound j)
      | some start =>
        obtain ⟨b', hb', hle⟩ := hentry start hfound
        exact ⟨b', hb', hle.trans ((search_eq_some_iff.1 hfound).2 j hj)⟩

/-- The whole table. -/
theorem earliestKept_foldl (text : Text) (keywords : List (Text × Text)) :
    EarliestKept text keywords (keywords.foldl (keepEarliest (lower text)) none) := by
  induction keywords using List.reverseRecOn with
  | nil => exact ⟨fun _ hb => (by cases hb), fun _ hentry => (by cases hentry)⟩
  | append_singleton keywords entry ih =>
    rw [List.foldl_append]
    exact ih.concat entry

variable {text value : Text} {keywords : List (Text × Text)}

/-- **A lookup finds the value of the first mention.** -/
theorem firstMention_of_findFirstKeyword (h : findFirstKeyword text keywords = some value) :
    FirstMention text keywords value := by
  obtain ⟨hmentioned, hearliest⟩ := earliestKept_foldl text keywords
  obtain ⟨b, hb, rfl⟩ := Option.map_eq_some_iff.1 h
  obtain ⟨keyword, hmem, hmentions⟩ := hmentioned b hb
  refine ⟨keyword, b.1, hmem, hmentions, fun entry hentry j hj => ?_⟩
  obtain ⟨b', hb', hle⟩ := hearliest entry hentry j hj
  rw [hb] at hb'
  cases hb'
  exact hle

/-- **A lookup finds nothing when no keyword is mentioned**, and only then. -/
theorem findFirstKeyword_eq_none_iff : findFirstKeyword text keywords = none ↔
    ∀ entry ∈ keywords, ∀ i, ¬ Mentions text entry.1 i := by
  obtain ⟨hmentioned, hearliest⟩ := earliestKept_foldl text keywords
  unfold findFirstKeyword
  rw [Option.map_eq_none_iff]
  constructor
  · intro hnone entry hentry i hi
    obtain ⟨b, hb, -⟩ := hearliest entry hentry i hi
    rw [hnone] at hb
    cases hb
  · intro hno
    cases hbest : keywords.foldl (keepEarliest (lower text)) none with
    | none => rfl
    | some b =>
      obtain ⟨keyword, hmem, hmentions⟩ := hmentioned b hbest
      exact absurd hmentions (hno _ hmem _)

/-! ### The order of a table -/

/-- Keywords one of which begins with the other stand for one value. -/
def Unambiguous (keywords : List (Text × Text)) : Prop :=
  ∀ entry ∈ keywords, ∀ other ∈ keywords, entry.1 <+: other.1 → entry.2 = other.2

/-- In an unambiguous table one value only is that of the first mention. -/
theorem FirstMention.unique {value' : Text} (hkeywords : Unambiguous keywords)
    (h : FirstMention text keywords value) (h' : FirstMention text keywords value') :
    value = value' := by
  obtain ⟨keyword, i, hmem, hi, hfirst⟩ := h
  obtain ⟨keyword', i', hmem', hi', hfirst'⟩ := h'
  obtain rfl : i = i' := le_antisymm (hfirst _ hmem' i' hi') (hfirst' _ hmem i hi)
  rcases prefix_or_prefix hi hi' with hpre | hpre
  · exact hkeywords _ hmem _ hmem' hpre
  · exact (hkeywords _ hmem' _ hmem hpre).symm

/-- **In an unambiguous table a lookup finds exactly the value of the first mention.** -/
theorem findFirstKeyword_eq_some_iff (hkeywords : Unambiguous keywords) :
    findFirstKeyword text keywords = some value ↔ FirstMention text keywords value := by
  refine ⟨firstMention_of_findFirstKeyword, fun h => ?_⟩
  cases hfound : findFirstKeyword text keywords with
  | none =>
    obtain ⟨keyword, i, hmem, hi, -⟩ := h
    exact absurd hi (findFirstKeyword_eq_none_iff.1 hfound _ hmem i)
  | some value' => rw [(firstMention_of_findFirstKeyword hfound).unique hkeywords h]

theorem FirstMention.perm {keywords' : List (Text × Text)} (hperm : keywords.Perm keywords') :
    FirstMention text keywords value ↔ FirstMention text keywords' value := by
  unfold FirstMention
  simp only [hperm.mem_iff]

/-- The order of an unambiguous table does not matter. -/
theorem findFirstKeyword_perm {keywords' : List (Text × Text)} (hkeywords : Unambiguous keywords)
    (hperm : keywords.Perm keywords') (text : Text) :
    findFirstKeyword text keywords' = findFirstKeyword text keywords := by
  have hkeywords' : Unambiguous keywords' := by
    intro entry hentry other hother
    exact hkeywords entry (hperm.mem_iff.2 hentry) other (hperm.mem_iff.2 hother)
  refine Option.ext fun value => ?_
  rw [findFirstKeyword_eq_some_iff hkeywords', findFirstKeyword_eq_some_iff hkeywords,
    FirstMention.perm hperm]

/-- The tables that single values are looked up in. -/
def keywordTables : List (List (Text × Text)) :=
  [knownBrands, categoryKeywords] ++ scannedAttributes.map fun scanned => scanned.2.1

/-- It is enough to compare each entry with those after it. -/
theorem unambiguous_of_pairwise (h : keywords.Pairwise fun entry other =>
    entry.1 <+: other.1 ∨ other.1 <+: entry.1 → entry.2 = other.2) : Unambiguous keywords := by
  have hflip : keywords.Pairwise (flip fun entry other : Text × Text =>
      entry.1 <+: other.1 ∨ other.1 <+: entry.1 → entry.2 = other.2) := by
    refine h.imp fun hpair hpre => ?_
    exact (hpair hpre.symm).symm
  intro entry hentry other hother hpre
  exact h.forall_of_forall_of_flip (fun _ _ _ => rfl) hflip hentry hother (.inl hpre)

/-- Of the keywords of the service, those of one beginning stand for one value: `men` and `men's`,
`stripe` and `striped`. -/
theorem unambiguous_keywordTables : ∀ keywords ∈ keywordTables, Unambiguous keywords := by
  have hpairs : ∀ keywords ∈ keywordTables, keywords.Pairwise fun entry other =>
      entry.1 <+: other.1 ∨ other.1 <+: entry.1 → entry.2 = other.2 := by decide +kernel
  intro keywords hkeywords
  exact unambiguous_of_pairwise (hpairs keywords hkeywords)

example : findFirstKeyword "Blue men's and kids' shoe".toList genderKeywords.reverse =
    some "Men".toList := by decide +kernel

/-! ### Tags -/

theorem map_tag_addTag (tags : List SourcedTag) (value : Text) (confidence : Confidence) :
    (addTag tags value confidence).map SourcedTag.tag =
      if lower (strip value) ∈ tags.map SourcedTag.tag then tags.map SourcedTag.tag
      else tags.map SourcedTag.tag ++ [lower (strip value)] := by
  unfold addTag
  simp only [List.contains_iff_mem]
  split
  · rfl
  · rw [List.map_append, List.map_singleton]

/-- The tags of the one list are among those of the other, which repeats none unless the first
does. -/
structure Extends (tags tags' : List SourcedTag) : Prop where
  subset : tags.map SourcedTag.tag ⊆ tags'.map SourcedTag.tag
  nodup : (tags.map SourcedTag.tag).Nodup → (tags'.map SourcedTag.tag).Nodup

theorem Extends.refl (tags : List SourcedTag) : Extends tags tags := ⟨List.Subset.refl _, id⟩

theorem Extends.trans {tags tags' tags'' : List SourcedTag} (h : Extends tags tags')
    (h' : Extends tags' tags'') : Extends tags tags'' :=
  ⟨List.Subset.trans h.subset h'.subset, h'.nodup ∘ h.nodup⟩

/-- One more tag. -/
theorem extends_addTag (tags : List SourcedTag) (value : Text) (confidence : Confidence) :
    Extends tags (addTag tags value confidence) := by
  constructor
  · rw [map_tag_addTag]
    split
    · exact List.Subset.refl _
    · exact List.subset_append_left _ _
  · intro hnodup
    rw [map_tag_addTag]
    split
    · exact hnodup
    · next hnew => exact List.nodup_append_comm.1 (List.nodup_cons.2 ⟨hnew, hnodup⟩)

theorem mem_addTag (tags : List SourcedTag) (value : Text) (confidence : Confidence) :
    lower (strip value) ∈ (addTag tags value confidence).map SourcedTag.tag := by
  rw [map_tag_addTag]
  split
  · next hmem => exact hmem
  · exact List.mem_append_right _ (List.mem_singleton_self _)

/-- A loop each of whose rounds extends the tags does so. -/
theorem extends_foldl {β : Type} {f : List SourcedTag → β → List SourcedTag}
    (hf : ∀ tags b, Extends tags (f tags b)) (bs : List β) (tags : List SourcedTag) :
    Extends tags (bs.foldl f tags) := by
  induction bs generalizing tags with
  | nil => exact Extends.refl tags
  | cons b bs ih => exact (hf tags b).trans (ih (f tags b))

/-- The first loop tags every value that is extracted, and the others only extend its tags. -/
theorem exists_extends_generateTags (name : Text) (brand category description : Option Text) :
    ∃ tags, (tags.map SourcedTag.tag).Nodup ∧
      (∀ prediction ∈ extractAttributes name brand category description,
        lower (strip prediction.value) ∈ tags.map SourcedTag.tag) ∧
      Extends tags (generateTags name brand category description) := by
  have hadd : ∀ (tags : List SourcedTag) (prediction : AttributePrediction),
      Extends tags (addTag tags prediction.value prediction.confidence) :=
    fun tags prediction => extends_addTag tags prediction.value prediction.confidence
  refine ⟨_, (extends_foldl hadd (extractAttributes name brand category description) []).nodup
    List.nodup_nil, fun prediction hprediction => ?_, (extends_foldl ?_ _ _).trans
      (extends_foldl ?_ _ _)⟩
  · obtain ⟨before, after, hsplit⟩ := List.append_of_mem hprediction
    rw [hsplit, List.foldl_append, List.foldl_cons]
    exact (extends_foldl hadd after _).subset (mem_addTag _ _ _)
  · intro tags tagged
    exact extends_foldl (fun tags value => extends_addTag tags value tagged.2) _ tags
  · intro tags descriptor
    split
    · exact extends_addTag tags descriptor tagDescriptorConfidence
    · exact Extends.refl tags

/-- **The generated tags are distinct.** -/
theorem nodup_generateTags (name : Text) (brand category description : Option Text) :
    ((generateTags name brand category description).map SourcedTag.tag).Nodup := by
  obtain ⟨tags, hnodup, -, hextends⟩ := exists_extends_generateTags name brand category description
  exact hextends.nodup hnodup

/-- **Every value that is extracted is a tag**, once. -/
theorem count_generateTags {name : Text} {brand category description : Option Text}
    {prediction : AttributePrediction}
    (h : prediction ∈ extractAttributes name brand category description) :
    ((generateTags name brand category description).map SourcedTag.tag).count
      (lower (strip prediction.value)) = 1 := by
  obtain ⟨tags, hnodup, hmem, hextends⟩ :=
    exists_extends_generateTags name brand category description
  exact List.count_eq_one_of_mem (hextends.nodup hnodup) (hextends.subset (hmem prediction h))

/-- **The first mention wins, and every value is tagged once.**  A lookup in any table yields the
value of a keyword that is mentioned no later than any of its keywords is, and nothing only if none
is mentioned; in what order a table of the service lists its keywords does not matter.  The tags of
a product are distinct, and each extracted value is, normalized, exactly one of them. -/
theorem first_mention_and_tags :
    (∀ text keywords,
      (∀ value, findFirstKeyword text keywords = some value → FirstMention text keywords value) ∧
      (findFirstKeyword text keywords = none ↔
        ∀ entry ∈ keywords, ∀ i, ¬ Mentions text entry.1 i)) ∧
    (∀ table ∈ keywordTables, ∀ keywords, table.Perm keywords →
      ∀ text, findFirstKeyword text keywords = findFirstKeyword text table) ∧
    ∀ name brand category description,
      ((generateTags name brand category description).map SourcedTag.tag).Nodup ∧
      ∀ prediction ∈ extractAttributes name brand category description,
        ((generateTags name brand category description).map SourcedTag.tag).count
          (lower (strip prediction.value)) = 1 := by
  refine ⟨fun text keywords => ⟨?_, findFirstKeyword_eq_none_iff⟩, ?_, ?_⟩
  · intro value h
    exact firstMention_of_findFirstKeyword h
  · intro table htable keywords hperm text
    exact findFirstKeyword_perm (unambiguous_keywordTables table htable) hperm text
  · intro name brand category description
    exact ⟨nodup_generateTags name brand category description,
      fun prediction h => count_generateTags h⟩

end ProductIntelligence
