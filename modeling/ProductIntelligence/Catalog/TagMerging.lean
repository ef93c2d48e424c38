import ProductIntelligence.Catalog.Intelligence
import ProductIntelligence.Text.Lowercase

/-!
# Merging tags

Tags are grouped by their normalised text, the best confidence of each group decides whether the
tag is kept, and the kept ones are ranked and capped.

A merged tag is marked as confirmed by both services when its predictions have different sources.
It keeps that mark where every prediction has it already.

## Main definitions

* `Predicts tags key prediction` — a prediction of the tag `key`.
* `IsHighest tags key c` — the highest confidence predicted for a tag.
* `mergedTags` — the merged tags before ranking and cap.
* `MergesTags` — what merging promises.

## Main results

* `mergeTag_eq_some_iff` — the merged tag of one group.
* `mergesTags` — **merging keeps the best evidence for every tag**.

## References

`backend/app/services/catalog/catalog_intelligence_service.py`.
-/

namespace ProductIntelligence

open Ranking

variable {threshold : ℚ} {maxTags : ℕ} {tags tags' : List SourcedTag} {key : Text}

/-! ### Predictions -/

/-- A prediction of the tag `key`. -/
def Predicts (tags : List SourcedTag) (key : Text) (prediction : SourcedTag) : Prop :=
  prediction ∈ tags ∧ tagKey prediction = key

/-- The highest confidence predicted for a tag. -/
def IsHighest (tags : List SourcedTag) (key : Text) (c : ℚ) : Prop :=
  IsGreatest {c | ∃ prediction, Predicts tags key prediction ∧ prediction.confidence.value = c} c

/-- Two predictions of a tag have different sources. -/
def SourcesDiffer (tags : List SourcedTag) (key : Text) : Prop :=
  ∃ p q, Predicts tags key p ∧ Predicts tags key q ∧ p.source ≠ q.source

/-- A prediction of a tag is itself marked as confirmed by both services. -/
def PredictsHybrid (tags : List SourcedTag) (key : Text) : Prop :=
  ∃ p, Predicts tags key p ∧ p.source = .hybrid

/-- The merged tags, before they are ranked and capped. -/
def mergedTags (threshold : ℚ) (tags : List SourcedTag) : List SourcedTag :=
  (RoundRobin.groupBy tagKey (tags.filter fun tag => tagKey tag ≠ [])).filterMap fun group =>
    mergeTag threshold group.1 group.2

theorem mergeTags_eq (threshold : ℚ) (maxTags : ℕ) (tags : List SourcedTag) :
    mergeTags threshold maxTags tags =
      (rank (fun tag => tag.confidence.value) (mergedTags threshold tags)).take maxTags := rfl

/-! ### One group -/

@[ext] theorem Confidence.ext {c d : Confidence} (h : c.value = d.value) : c = d := by
  cases c
  cases d
  cases h
  rfl

/-- The source a merged tag gets from those of its predictions. -/
structure IsMergedSource (predictions : List SourcedTag) (source : Source) : Prop where
  hybrid_iff : source = .hybrid ↔
    (∃ p ∈ predictions, ∃ q ∈ predictions, p.source ≠ q.source) ∨
      ∃ p ∈ predictions, p.source = .hybrid
  mem_of_ne : source ≠ .hybrid → ∃ p ∈ predictions, p.source = source

/-- The source of a merged tag is that of any prediction, unless the sources differ. -/
theorem isMergedSource {predictions : List SourcedTag} {best : SourcedTag}
    (hbest : best ∈ predictions) :
    IsMergedSource predictions
      (if predictions.any fun p => p.source ≠ best.source then .hybrid else best.source) := by
  by_cases hdiffer : predictions.any fun p => p.source ≠ best.source
  · rw [if_pos hdiffer]
    obtain ⟨p, hp, hne⟩ := List.any_eq_true.1 hdiffer
    exact ⟨iff_of_true rfl (.inl ⟨p, hp, best, hbest, of_decide_eq_true hne⟩), fun h => absurd rfl h⟩
  · rw [if_neg hdiffer]
    have hsame : ∀ p ∈ predictions, p.source = best.source := by
      intro p hp
      by_contra hne
      exact hdiffer (List.any_eq_true.2 ⟨p, hp, decide_eq_true hne⟩)
    refine ⟨⟨fun h => .inr ⟨best, hbest, h⟩, ?_⟩, fun _ => ⟨best, hbest, rfl⟩⟩
    rintro (⟨p, hp, q, hq, hne⟩ | ⟨p, hp, hhybrid⟩)
    · exact absurd ((hsame p hp).trans (hsame q hq).symm) hne
    · rw [← hsame p hp, hhybrid]

/-- Some predictions with one key get one source. -/
theorem IsMergedSource.unique {predictions : List SourcedTag} {source source' : Source}
    (h : IsMergedSource predictions source) (h' : IsMergedSource predictions source') :
    source = source' := by
  by_cases hhybrid : source = .hybrid
  · rw [hhybrid, h'.hybrid_iff.2 (h.hybrid_iff.1 hhybrid)]
  · have hhybrid' : source' ≠ .hybrid := fun heq => hhybrid (h.hybrid_iff.2 (h'.hybrid_iff.1 heq))
    obtain ⟨p, hp, rfl⟩ := h.mem_of_ne hhybrid
    obtain ⟨q, hq, rfl⟩ := h'.mem_of_ne hhybrid'
    by_contra hne
    exact hhybrid (h.hybrid_iff.2 (.inl ⟨p, hp, q, hq, hne⟩))

/-- **The merged tag of a group** has its key, its best confidence, which reaches the threshold, and
its source. -/
theorem mergeTag_eq_some_iff {predictions : List SourcedTag} {tag : SourcedTag} :
    mergeTag threshold key predictions = some tag ↔
      tag.tag = key ∧ threshold ≤ tag.confidence.value ∧
        (∃ best ∈ predictions, best.confidence = tag.confidence ∧
          ∀ p ∈ predictions, p.confidence.value ≤ best.confidence.value) ∧
        IsMergedSource predictions tag.source := by
  unfold mergeTag
  cases hbest : predictions.argmax fun p => p.confidence.value with
  | none =>
    rw [List.argmax_eq_none] at hbest
    subst hbest
    simp
  | some best =>
    have hmem := List.argmax_mem hbest
    have hle : ∀ p ∈ predictions, p.confidence.value ≤ best.confidence.value := fun p hp =>
      List.le_of_mem_argmax (f := fun p : SourcedTag => p.confidence.value) hp hbest
    have hsource := isMergedSource hmem
    dsimp only
    by_cases hlow : best.confidence.value < threshold
    · rw [if_pos hlow]
      -- too low a confidence, whichever prediction is looked at
      refine iff_of_false nofun ?_
      rintro ⟨-, hreach, ⟨p, hp, hconf, -⟩, -⟩
      rw [← hconf] at hreach
      exact absurd ((hreach.trans (hle p hp)).trans_lt hlow) (lt_irrefl _)
    · rw [if_neg hlow]
      constructor
      · rintro ⟨rfl⟩
        exact ⟨rfl, not_lt.1 hlow, ⟨best, hmem, rfl, hle⟩, hsource⟩
      · rintro ⟨rfl, -, ⟨p, hp, hconf, hmax⟩, hmerged⟩
        have hsame : best.confidence = tag.confidence :=
          hconf ▸ Confidence.ext ((hmax best hmem).antisymm (hle p hp))
        cases tag
        rw [Option.some_inj, SourcedTag.mk.injEq]
        exact ⟨rfl, hsame, hsource.unique hmerged⟩

/-! ### All groups -/

theorem mem_filter_tagKey {tag : SourcedTag} :
    tag ∈ (tags.filter fun p => tagKey p = key) ↔ Predicts tags key tag := by
  rw [List.mem_filter, decide_eq_true_eq]
  rfl

/-- What is merged is merged from the predictions of one key, which is not empty. -/
theorem mem_mergedTags {tag : SourcedTag} :
    tag ∈ mergedTags threshold tags ↔ tag.tag ≠ [] ∧
      mergeTag threshold tag.tag (tags.filter fun p => tagKey p = tag.tag) = some tag := by
  have hfilter : ∀ key, key ≠ [] →
      ((tags.filter fun p => tagKey p ≠ []).filter fun p => tagKey p = key) =
        tags.filter fun p => tagKey p = key := by
    intro key hne
    rw [List.filter_filter]
    refine List.filter_congr fun p _ => ?_
    rw [← Bool.decide_and]
    exact decide_eq_decide.2 ⟨And.left, fun h => ⟨h, h ▸ hne⟩⟩
  rw [mergedTags, List.mem_filterMap]
  constructor
  · rintro ⟨⟨key, group⟩, hgroup, hmerge⟩
    obtain ⟨⟨p, hp, hkey⟩, rfl⟩ := RoundRobin.mem_groupBy.1 hgroup
    obtain rfl := (mergeTag_eq_some_iff.1 hmerge).1
    have hne : tag.tag ≠ [] := by
      rw [← hkey]
      exact of_decide_eq_true (List.mem_filter.1 hp).2
    rw [hfilter _ hne] at hmerge
    exact ⟨hne, hmerge⟩
  · rintro ⟨hne, hmerge⟩
    obtain ⟨-, -, ⟨best, hbest, -⟩, -⟩ := mergeTag_eq_some_iff.1 hmerge
    refine ⟨(tag.tag, tags.filter fun p => tagKey p = tag.tag),
      RoundRobin.mem_groupBy.2 ⟨⟨best, ?_, (mem_filter_tagKey.1 hbest).2⟩, (hfilter _ hne).symm⟩,
      hmerge⟩
    refine List.mem_filter.2 ⟨(mem_filter_tagKey.1 hbest).1, decide_eq_true ?_⟩
    rw [(mem_filter_tagKey.1 hbest).2]
    exact hne

/-- Each tag is merged once. -/
theorem nodup_mergedTags (threshold : ℚ) (tags : List SourcedTag) :
    ((mergedTags threshold tags).map SourcedTag.tag).Nodup :=
  Keyed.nodup_keys_filterMap
    (fun _ _ hmerge => (mergeTag_eq_some_iff.1 hmerge).1) (RoundRobin.nodup_keys_groupBy _ _)

/-- The highest confidence in a group is the highest predicted for its tag. -/
theorem isHighest_iff {c : Confidence} :
    (∃ best ∈ tags.filter fun p => tagKey p = key, best.confidence = c ∧
      ∀ p ∈ tags.filter fun p => tagKey p = key,
        p.confidence.value ≤ best.confidence.value) ↔ IsHighest tags key c.value := by
  constructor
  · rintro ⟨best, hbest, rfl, hmax⟩
    refine ⟨⟨best, mem_filter_tagKey.1 hbest, rfl⟩, ?_⟩
    rintro _ ⟨p, hp, rfl⟩
    exact hmax p (mem_filter_tagKey.2 hp)
  · rintro ⟨⟨best, hbest, hc⟩, hmax⟩
    refine ⟨best, mem_filter_tagKey.2 hbest, Confidence.ext hc, fun p hp => ?_⟩
    rw [hc]
    exact hmax ⟨p, mem_filter_tagKey.1 hp, rfl⟩

/-- A merged tag carries the highest confidence predicted for it, which reaches the threshold, and
its source is merged from those of its predictions. -/
theorem mem_mergedTags_iff {tag : SourcedTag} :
    tag ∈ mergedTags threshold tags ↔ tag.tag ≠ [] ∧ threshold ≤ tag.confidence.value ∧
      IsHighest tags tag.tag tag.confidence.value ∧
        IsMergedSource (tags.filter fun p => tagKey p = tag.tag) tag.source := by
  rw [mem_mergedTags, mergeTag_eq_some_iff, isHighest_iff]
  simp only [true_and]

/-- The order of the predictions does not matter for what is merged. -/
theorem mergedTags_perm (h : tags.Perm tags') :
    (mergedTags threshold tags).Perm (mergedTags threshold tags') := by
  refine (List.perm_ext_iff_of_nodup (nodup_mergedTags _ _).of_map
    (nodup_mergedTags _ _).of_map).2 fun tag => ?_
  rw [mem_mergedTags, mem_mergedTags, mergeTag_eq_some_iff, mergeTag_eq_some_iff, isHighest_iff,
    isHighest_iff]
  have hpredicts : ∀ p, Predicts tags tag.tag p ↔ Predicts tags' tag.tag p := fun p =>
    and_congr_left' h.mem_iff
  have hmem : ∀ p, p ∈ (tags.filter fun p => tagKey p = tag.tag) ↔
      p ∈ tags'.filter fun p => tagKey p = tag.tag := fun p => (h.filter _).mem_iff
  have hsource : IsMergedSource (tags.filter fun p => tagKey p = tag.tag) tag.source ↔
      IsMergedSource (tags'.filter fun p => tagKey p = tag.tag) tag.source := by
    constructor
    · rintro ⟨hhybrid, hne⟩
      exact ⟨by simpa only [hmem] using hhybrid, by simpa only [hmem] using hne⟩
    · rintro ⟨hhybrid, hne⟩
      exact ⟨by simpa only [hmem] using hhybrid, by simpa only [hmem] using hne⟩
  rw [hsource]
  simp only [IsHighest, hpredicts]

/-! ### What merging promises -/

/-- A tag is merged when the highest confidence predicted for it reaches the threshold. -/
theorem exists_mem_mergedTags_iff (hne : key ≠ []) {c : ℚ} :
    (∃ tag ∈ mergedTags threshold tags, tag.tag = key ∧ tag.confidence.value = c) ↔
      IsHighest tags key c ∧ threshold ≤ c := by
  constructor
  · rintro ⟨tag, hmem, rfl, rfl⟩
    obtain ⟨-, hreach, hhighest, -⟩ := mem_mergedTags_iff.1 hmem
    exact ⟨hhighest, hreach⟩
  · rintro ⟨hhighest, hreach⟩
    obtain ⟨best, hbest, hc⟩ := hhighest.1
    subst hc
    have hsource := isMergedSource (mem_filter_tagKey.2 hbest)
    exact ⟨⟨key, best.confidence, _⟩,
      mem_mergedTags_iff.2 ⟨hne, hreach, hhighest, hsource⟩, rfl, rfl⟩

/-- A merged tag is marked as confirmed by both services when two of its predictions differ in
source or one of them is marked so already. -/
theorem source_mergedTags {tag : SourcedTag} (h : tag ∈ mergedTags threshold tags) :
    tag.source = .hybrid ↔ SourcesDiffer tags tag.tag ∨ PredictsHybrid tags tag.tag := by
  rw [(mem_mergedTags_iff.1 h).2.2.2.hybrid_iff]
  simp only [mem_filter_tagKey, SourcesDiffer, PredictsHybrid]
  exact or_congr_left ⟨fun ⟨p, hp, q, hq, hne⟩ => ⟨p, q, hp, hq, hne⟩,
    fun ⟨p, q, hp, hq, hne⟩ => ⟨p, hp, q, hq, hne⟩⟩

/-- A merged tag is normalised, and not empty. -/
theorem tagKey_of_mem_mergedTags {tag : SourcedTag} (h : tag ∈ mergedTags threshold tags) :
    tag.tag ≠ [] ∧ tagKey tag = tag.tag := by
  obtain ⟨hne, -, hhighest, -⟩ := mem_mergedTags_iff.1 h
  obtain ⟨p, hp, -⟩ := hhighest.1
  refine ⟨hne, ?_⟩
  rw [tagKey, ← hp.2, tagKey]
  exact lower_strip_idem p.tag

/-- What merging promises: of the merged tags before ranking and cap, and of the best of them that
are returned. -/
structure MergesTags (threshold : ℚ) (maxTags : ℕ) (tags merged best : List SourcedTag) : Prop where
  normalised : ∀ tag ∈ merged, tag.tag ≠ [] ∧ tagKey tag = tag.tag
  distinct : (merged.map SourcedTag.tag).Nodup
  present_iff : ∀ key, key ≠ [] → ∀ c,
    (∃ tag ∈ merged, tag.tag = key ∧ tag.confidence.value = c) ↔
      IsHighest tags key c ∧ threshold ≤ c
  hybrid_iff : ∀ tag ∈ merged,
    tag.source = .hybrid ↔ SourcesDiffer tags tag.tag ∨ PredictsHybrid tags tag.tag
  isTopK : IsTopK (fun tag => tag.confidence.value) maxTags merged best
  best_normalised : ∀ tag ∈ best, tag.tag ≠ [] ∧ tagKey tag = tag.tag
  best_distinct : (best.map SourcedTag.tag).Nodup

/-- **Merging keeps the best evidence for every tag**, and up to ties the order of the predictions
does not matter. -/
theorem mergesTags (threshold : ℚ) (maxTags : ℕ) (tags : List SourcedTag) :
    MergesTags threshold maxTags tags (mergedTags threshold tags)
        (mergeTags threshold maxTags tags) ∧
      ∀ tags', tags.Perm tags' →
        (mergedTags threshold tags).Perm (mergedTags threshold tags') ∧
          SameUpToTies (fun tag => tag.confidence.value) (mergeTags threshold maxTags tags)
            (mergeTags threshold maxTags tags') := by
  have htop : ∀ tags, IsTopK (fun tag : SourcedTag => tag.confidence.value) maxTags
      (mergedTags threshold tags) (mergeTags threshold maxTags tags) := fun tags =>
    isTopK_take_rank _ _ _
  refine ⟨?_, fun tags' hperm => ?_⟩
  · exact
      { normalised := fun _ => tagKey_of_mem_mergedTags
        distinct := nodup_mergedTags _ _
        present_iff := fun _ hne _ => exists_mem_mergedTags_iff hne
        hybrid_iff := fun _ => source_mergedTags
        isTopK := htop tags
        best_normalised := fun _ h => tagKey_of_mem_mergedTags ((htop tags).subperm.subset h)
        best_distinct := (htop tags).nodup_map (nodup_mergedTags _ _) }
  · have hmerged : (mergedTags threshold tags).Perm (mergedTags threshold tags') :=
      mergedTags_perm hperm
    exact ⟨hmerged, (htop tags).sameUpToTies (htop tags') hmerged⟩

/-- A red thing, as both services are said to have seen. -/
def redHybrid : SourcedTag := ⟨"red".toList, hundredths 90, .hybrid⟩

/-- A single prediction that is marked as confirmed by both services keeps the mark. -/
theorem hybrid_prediction_keeps_mark :
    ¬ ∀ (threshold : ℚ) (maxTags : ℕ) (tags : List SourcedTag),
      ∀ tag ∈ mergeTags threshold maxTags tags,
        (tag.source = .hybrid ↔ SourcesDiffer tags tag.tag) := by
  intro h
  have hkey : tagKey redHybrid = "red".toList := by decide +kernel
  have hhighest : IsHighest [redHybrid] "red".toList redHybrid.confidence.value := by
    refine ⟨⟨redHybrid, ⟨List.mem_singleton_self _, hkey⟩, rfl⟩, ?_⟩
    rintro _ ⟨p, hp, rfl⟩
    rw [List.mem_singleton.1 hp.1]
  have hreach : 60 / 100 ≤ redHybrid.confidence.value := by decide +kernel
  obtain ⟨tag, hmem, htag, -⟩ :=
    (exists_mem_mergedTags_iff (by decide)).2 ⟨hhighest, hreach⟩
  have hhybrid : tag.source = .hybrid := (source_mergedTags hmem).2
    (.inr ⟨redHybrid, ⟨List.mem_singleton_self _, htag ▸ hkey⟩, rfl⟩)
  have hreturned : tag ∈ mergeTags (60 / 100) 20 [redHybrid] := by
    rw [mergeTags_eq, List.take_of_length_le (by decide +kernel), mem_rank]
    exact hmem
  obtain ⟨p, q, hp, hq, hne⟩ := (h _ _ _ _ hreturned).1 hhybrid
  rw [List.mem_singleton.1 hp.1, List.mem_singleton.1 hq.1] at hne
  exact hne rfl

end ProductIntelligence
