import ProductIntelligence.Analytics.Buckets
import ProductIntelligence.Text.Calendar

/-!
# The keys of the Redis database

Everything that is kept in Redis is kept in one database: the queue, the organizations, tenants and
API keys, the audit logs, the request counters, the analytics buckets and the cached recommendations.
Each repository writes its own keys as texts.

## Main definitions

* `uuidText` — a UUID as a text.
* `RedisKey` — the keys of all repositories.
* `RedisKey.render queueName` — the text of a key, for a queue of that name.
* `ShadowsApiKeys queueName` — the keys of the queue look like those of API keys.

## Main results

* `uuidText_injective` — a UUID is determined by its text.
* `decode_parts` — a key is determined by its parts.
* `render_injective_iff` — **no two keys have the same text**, unless the queue shadows API keys.

## References

`backend/app/queue/redis_queue.py`, `backend/app/repositories/organization_repository.py`,
`backend/app/repositories/api_key_repository.py`, `backend/app/repositories/audit_repository.py`,
`backend/app/repositories/quota_repository.py`, `backend/app/repositories/analytics_repository.py`,
`backend/app/repositories/recommendation_cache_repository.py`.
-/

namespace ProductIntelligence

open Numerals Calendar

/-! ### UUIDs -/

/-- `str(uuid)`: thirty-two hexadecimal digits in five groups. -/
def uuidText (id : UUID) : Text :=
  let hex := numeral 16 32 id
  hex.take 8 ++ '-' :: (hex.drop 8).take 4 ++ '-' :: (hex.drop 12).take 4 ++
    '-' :: (hex.drop 16).take 4 ++ '-' :: hex.drop 20

example : uuidText 1 = "00000000-0000-0000-0000-000000000001".toList := by decide +kernel

/-- The digits of a UUID. -/
theorem filter_uuidText (id : UUID) : (uuidText id).filter (· ≠ '-') = numeral 16 32 id := by
  have hdigit : ∀ c ∈ numeral 16 32 id, c ≠ '-' := by
    rintro c hc rfl
    have hdash := @mem_digits_of_mem_numeral 16 (by decide) (by decide) 32 id '-' hc
    revert hdash
    decide
  have hkeep {text : Text} (hsub : text.Sublist (numeral 16 32 id)) :
      text.filter (· ≠ '-') = text :=
    List.filter_eq_self.2 fun c hc => decide_eq_true (hdigit c (hsub.subset hc))
  have hgroup (start : ℕ) : ((numeral 16 32 id).drop start).take 4 ++
      (numeral 16 32 id).drop (start + 4) = (numeral 16 32 id).drop start := by
    rw [← List.drop_drop, List.take_append_drop]
  have hdash (text : Text) : ('-' :: text).filter (· ≠ '-') = text.filter (· ≠ '-') :=
    List.filter_cons_of_neg (by decide)
  have htake (start : ℕ) : (((numeral 16 32 id).drop start).take 4).Sublist (numeral 16 32 id) :=
    (List.take_sublist _ _).trans (List.drop_sublist _ _)
  unfold uuidText
  simp only [List.filter_append, hdash, hkeep (List.take_sublist 8 _), hkeep (htake 8),
    hkeep (htake 12), hkeep (htake 16), hkeep (List.drop_sublist 20 _), List.append_assoc]
  rw [hgroup 16, hgroup 12, hgroup 8, List.take_append_drop]

/-- **A UUID is determined by its text.** -/
theorem uuidText_injective : Function.Injective uuidText := by
  intro id id' h
  have hhex := congrArg (List.filter (· ≠ '-')) h
  rw [filter_uuidText, filter_uuidText] at hhex
  exact numeral_injective (by decide) (by decide) 32 hhex

/-- The characters of dates, numbers and UUIDs. -/
def isPlain (c : Char) : Bool := c ∈ digits || c = '-'

theorem isPlain_of_mem_uuidText {id : UUID} {c : Char} (h : c ∈ uuidText id) : isPlain c := by
  by_cases hc : c = '-'
  · rw [hc]
    rfl
  · have hmem : c ∈ (uuidText id).filter (· ≠ '-') :=
      List.mem_filter.2 ⟨h, decide_eq_true hc⟩
    rw [filter_uuidText] at hmem
    have hdigit := @mem_digits_of_mem_numeral 16 (by decide) (by decide) 32 id c hmem
    unfold isPlain
    rw [decide_eq_true hdigit]
    rfl

/-! ### Keys -/

/-- The keys: of the queue, of the organizations, tenants and API keys, of the audit logs, of the
request counters, of the analytics buckets and of the cached recommendations. -/
inductive RedisKey
  | pending
  | processing
  | delayed
  | deadLetter
  | job (jobId : UUID)
  | productJob (productId : UUID)
  | organizations
  | organization (organizationId : UUID)
  | organizationTenants (organizationId : UUID)
  | tenant (tenantId : UUID)
  | tenantApiKeys (tenantId : UUID)
  | tenantAudit (tenantId : UUID)
  | apiKey (lookupPrefix : Text)
  | quotaDaily (tenantId : UUID) (day : ℤ)
  | quotaMinute (tenantId : UUID) (minute : ℤ)
  | analyticsCount (event : AnalyticsEvent) (day : ℤ)
  | latencySum (day : ℤ)
  | latencyCount (day : ℤ)
  | recommendationCache (productId : UUID)
  deriving DecidableEq

namespace RedisKey

/-- Texts with colons between them. -/
def joined (texts : List Text) : Text := [':'].intercalate texts

/-- The text of a key.  Days are counted as dates are, and minutes from the beginning of day 0. -/
def render (queueName : Text) : RedisKey → Text
  | .pending => queueName ++ ":pending".toList
  | .processing => queueName ++ ":processing".toList
  | .delayed => queueName ++ ":delayed".toList
  | .deadLetter => queueName ++ ":dead_letter".toList
  | .job jobId => joined ["job".toList, uuidText jobId]
  | .productJob productId => joined ["product".toList, uuidText productId, "job_id".toList]
  | .organizations => "organizations".toList
  | .organization organizationId => joined ["organization".toList, uuidText organizationId]
  | .organizationTenants organizationId =>
    joined ["organization".toList, uuidText organizationId, "tenants".toList]
  | .tenant tenantId => joined ["tenant".toList, uuidText tenantId]
  | .tenantApiKeys tenantId => joined ["tenant".toList, uuidText tenantId, "apikeys".toList]
  | .tenantAudit tenantId => joined ["tenant".toList, uuidText tenantId, "audit".toList]
  | .apiKey lookupPrefix => "apikey:prefix:".toList ++ lookupPrefix
  | .quotaDaily tenantId day =>
    joined ["quota".toList, "daily".toList, uuidText tenantId, isoformat day]
  | .quotaMinute tenantId minute =>
    joined ["quota".toList, "minute".toList, uuidText tenantId, isoMinute minute]
  | .analyticsCount event day =>
    joined ["analytics".toList, "count".toList, event.value, isoformat day]
  | .latencySum day => joined ["analytics".toList, "latency_sum".toList, isoformat day]
  | .latencyCount day => joined ["analytics".toList, "latency_count".toList, isoformat day]
  | .recommendationCache productId => joined ["recommendation_cache".toList, uuidText productId]

/-- The parts between the colons, of a key that has as many as it seems to have.  The name of the
queue and the prefix of an API key may hold colons. -/
def parts : RedisKey → Option (List Text)
  | .pending | .processing | .delayed | .deadLetter | .apiKey _ => none
  | .job jobId => some ["job".toList, uuidText jobId]
  | .productJob productId => some ["product".toList, uuidText productId, "job_id".toList]
  | .organizations => some ["organizations".toList]
  | .organization organizationId => some ["organization".toList, uuidText organizationId]
  | .organizationTenants organizationId =>
    some ["organization".toList, uuidText organizationId, "tenants".toList]
  | .tenant tenantId => some ["tenant".toList, uuidText tenantId]
  | .tenantApiKeys tenantId => some ["tenant".toList, uuidText tenantId, "apikeys".toList]
  | .tenantAudit tenantId => some ["tenant".toList, uuidText tenantId, "audit".toList]
  | .quotaDaily tenantId day =>
    some ["quota".toList, "daily".toList, uuidText tenantId, isoformat day]
  | .quotaMinute tenantId minute =>
    some ["quota".toList, "minute".toList, uuidText tenantId,
      isoformat (minute / 1440) ++ 'T' :: numeral 10 2 (minute % 1440 / 60).toNat,
      numeral 10 2 (minute % 60).toNat]
  | .analyticsCount event day =>
    some ["analytics".toList, "count".toList, event.value, isoformat day]
  | .latencySum day => some ["analytics".toList, "latency_sum".toList, isoformat day]
  | .latencyCount day => some ["analytics".toList, "latency_count".toList, isoformat day]
  | .recommendationCache productId => some ["recommendation_cache".toList, uuidText productId]

/-- The event with a name. -/
def eventOf (name : Text) : AnalyticsEvent :=
  if name = "upload".toList then .upload
  else if name = "duplicate_check".toList then .duplicateCheck
  else if name = "search".toList then .search
  else .recommendation

/-- The key with given parts. -/
noncomputable def decode : List Text → Option RedisKey
  | [_] => some .organizations
  | [family, id] =>
    let id := Function.invFun uuidText id
    if family = "job".toList then some (.job id)
    else if family = "organization".toList then some (.organization id)
    else if family = "tenant".toList then some (.tenant id)
    else some (.recommendationCache id)
  | [family, second, third] =>
    let id := Function.invFun uuidText second
    let day := Function.invFun isoformat third
    if family = "product".toList then some (.productJob id)
    else if family = "organization".toList then some (.organizationTenants id)
    else if family = "tenant".toList then
      if third = "apikeys".toList then some (.tenantApiKeys id) else some (.tenantAudit id)
    else if second = "latency_sum".toList then some (.latencySum day)
    else some (.latencyCount day)
  | [family, _, third, fourth] =>
    let day := Function.invFun isoformat fourth
    if family = "quota".toList then some (.quotaDaily (Function.invFun uuidText third) day)
    else some (.analyticsCount (eventOf third) day)
  | [_, _, third, fourth, fifth] =>
    some (.quotaMinute (Function.invFun uuidText third)
      (Function.invFun isoMinute (fourth ++ ':' :: fifth)))
  | _ => none

/-- **A key is determined by its parts.** -/
theorem decode_parts {key : RedisKey} {texts : List Text} (h : key.parts = some texts) :
    decode texts = some key := by
  have hid := Function.leftInverse_invFun uuidText_injective
  have hday := Function.leftInverse_invFun isoformat_injective
  have hminute := Function.leftInverse_invFun isoMinute_injective
  cases key with
  | pending | processing | delayed | deadLetter | apiKey _ => cases h
  | organizations => cases h; rfl
  | analyticsCount event day =>
    cases h
    have hevent : eventOf event.value = event := by cases event <;> decide
    simp [decode, hday day, hevent]
  | quotaMinute tenantId minute =>
    cases h
    have hsplit : isoformat (minute / 1440) ++ 'T' :: numeral 10 2 (minute % 1440 / 60).toNat ++
        ':' :: numeral 10 2 (minute % 60).toNat = isoMinute minute := rfl
    simp only [decode, hid tenantId]
    rw [hsplit, hminute]
  | _ =>
    cases h
    simp [decode, hid _, hday _]

/-! ### Distinct texts -/

theorem colon_not_mem_uuidText (id : UUID) : ':' ∉ uuidText id := by
  intro h
  have hplain := isPlain_of_mem_uuidText h
  revert hplain
  decide

theorem colon_not_mem_numeral (width n : ℕ) : ':' ∉ numeral 10 width n := by
  intro h
  have hdigit := @mem_digits_of_mem_numeral 10 (by decide) (by decide) width n ':' h
  revert hdigit
  decide

/-- Parts hold no colons. -/
theorem colon_not_mem_parts {key : RedisKey} {texts : List Text} (h : key.parts = some texts) :
    ∀ text ∈ texts, ':' ∉ text := by
  have huuid := colon_not_mem_uuidText
  have hnumeral := colon_not_mem_numeral
  have hdate := colon_not_mem_isoformat
  cases key with
  | pending | processing | delayed | deadLetter | apiKey _ => cases h
  | analyticsCount event day =>
    cases h
    have hevent : ':' ∉ event.value := by cases event <;> decide
    simp [hdate, hevent]
  | _ =>
    cases h
    simp [huuid, hdate, hnumeral]

/-- A key with parts is the parts with colons between them. -/
theorem render_eq_joined (queueName : Text) {key : RedisKey} {texts : List Text}
    (h : key.parts = some texts) : key.render queueName = joined texts := by
  cases key with
  | pending | processing | delayed | deadLetter | apiKey _ => cases h
  | organizations => cases h; exact (List.intercalate_singleton ..).symm
  | quotaMinute tenantId minute =>
    -- the hours and the minutes of the last part have a colon between them
    have hlast (a b c d e : Text) : joined [a, b, c, d ++ ':' :: e] = joined [a, b, c, d, e] := by
      simp [joined, List.intercalate]
    cases h
    exact hlast _ _ _ _ _
  | _ => cases h; rfl

theorem parts_ne_nil {key : RedisKey} {texts : List Text} (h : key.parts = some texts) :
    texts ≠ [] := by
  cases key with
  | pending | processing | delayed | deadLetter | apiKey _ => cases h
  | _ =>
    cases h
    exact List.cons_ne_nil _ _

/-- The parts of a key can be read off its text. -/
theorem splitOn_render (queueName : Text) {key : RedisKey} {texts : List Text}
    (h : key.parts = some texts) : (key.render queueName).splitOn ':' = texts := by
  rw [render_eq_joined queueName h]
  exact List.splitOn_intercalate ':' (colon_not_mem_parts h) (parts_ne_nil h)

/-- Keys with parts have distinct texts. -/
theorem render_inj_of_parts {queueName : Text} {key key' : RedisKey} {texts texts' : List Text}
    (hparts : key.parts = some texts) (hparts' : key'.parts = some texts')
    (h : key.render queueName = key'.render queueName) : key = key' := by
  have hsplit : texts = texts' := by
    rw [← splitOn_render queueName hparts, h, splitOn_render queueName hparts']
  subst hsplit
  exact Option.some.inj ((decode_parts hparts).symm.trans (decode_parts hparts'))

/-! ### The keys of the queue and of API keys -/

/-- The last words of the keys of the queue. -/
def queueWords : List Text :=
  ["pending".toList, "processing".toList, "delayed".toList, "dead_letter".toList]

/-- The keys of the queue. -/
def queueKeys : List RedisKey := [.pending, .processing, .delayed, .deadLetter]

/-- Every other key with parts is not one of the queue. -/
theorem cases_parts (key : RedisKey) : key ∈ queueKeys ∨ (∃ lookupPrefix, key = .apiKey lookupPrefix) ∨
    ∃ texts, key.parts = some texts := by
  cases key with
  | pending | processing | delayed | deadLetter => exact .inl (by decide)
  | apiKey lookupPrefix => exact .inr (.inl ⟨lookupPrefix, rfl⟩)
  | _ => exact .inr (.inr ⟨_, rfl⟩)

/-- A key of the queue is its name, a colon and a word. -/
theorem exists_word {key : RedisKey} (h : key ∈ queueKeys) : ∃ word ∈ queueWords,
    ∀ queueName, key.render queueName = queueName ++ ':' :: word := by
  simp only [queueKeys, List.mem_cons, List.not_mem_nil, or_false] at h
  rcases h with rfl | rfl | rfl | rfl
  · exact ⟨"pending".toList, by decide, fun _ => rfl⟩
  · exact ⟨"processing".toList, by decide, fun _ => rfl⟩
  · exact ⟨"delayed".toList, by decide, fun _ => rfl⟩
  · exact ⟨"dead_letter".toList, by decide, fun _ => rfl⟩

/-- The words are apart from one another. -/
theorem render_inj_of_queue {queueName : Text} {key key' : RedisKey} (hkey : key ∈ queueKeys)
    (hkey' : key' ∈ queueKeys) (h : key.render queueName = key'.render queueName) : key = key' := by
  simp only [queueKeys, List.mem_cons, List.not_mem_nil, or_false] at hkey hkey'
  rcases hkey with rfl | rfl | rfl | rfl <;> rcases hkey' with rfl | rfl | rfl | rfl <;>
    first | rfl | exact absurd (List.append_cancel_left h) (by decide)

theorem isPlain_of_mem_numeral {width n : ℕ} {c : Char} (h : c ∈ numeral 10 width n) :
    isPlain c := by
  have hdigit := @mem_digits_of_mem_numeral 10 (by decide) (by decide) width n c h
  unfold isPlain
  rw [decide_eq_true hdigit]
  rfl

theorem isPlain_of_mem_isoformat {day : ℤ} {c : Char} (h : c ∈ isoformat day) : isPlain c := by
  have hnumeral {width n : ℕ} (hc : c ∈ numeral 10 width n) : isPlain c := isPlain_of_mem_numeral hc
  have hdash : isPlain '-' := by decide
  unfold isoformat yearText at h
  simp only [List.mem_append, List.mem_cons] at h
  rcases h with (h | h) | (rfl | h) | rfl | h
  · split at h
    · rw [List.mem_singleton.1 h]
      exact hdash
    · cases h
  · exact hnumeral h
  · exact hdash
  · exact hnumeral h
  · exact hdash
  · exact hnumeral h

/-- The last part of a key with parts is no word of the queue. -/
theorem getLast?_parts_ne {key : RedisKey} {texts : List Text} (h : key.parts = some texts)
    {word : Text} (hword : word ∈ queueWords) : texts.getLast? ≠ some word := by
  have hplain : ∃ c ∈ word, ¬ isPlain c := by
    have hall : ∀ word ∈ queueWords, word.any (fun c => ¬ isPlain c) = true := by decide
    simpa using hall word hword
  obtain ⟨c, hc, hplain⟩ := hplain
  have huuid (id : UUID) : uuidText id ≠ word := by
    rintro rfl
    exact hplain (isPlain_of_mem_uuidText hc)
  have hdate (day : ℤ) : isoformat day ≠ word := by
    rintro rfl
    exact hplain (isPlain_of_mem_isoformat hc)
  have hnumeral (width n : ℕ) : numeral 10 width n ≠ word := by
    rintro rfl
    exact hplain (isPlain_of_mem_numeral hc)
  have hwords : ∀ text ∈ ["job_id".toList, "organizations".toList, "tenants".toList,
      "apikeys".toList, "audit".toList], text ≠ word := by
    have hall : ∀ word ∈ queueWords, ∀ text ∈ ["job_id".toList, "organizations".toList,
      "tenants".toList, "apikeys".toList, "audit".toList], text ≠ word := by decide
    exact hall word hword
  simp only [List.forall_mem_cons] at hwords
  obtain ⟨hjobId, horganizations, htenants, hapikeys, haudit, -⟩ := hwords
  intro hlast
  cases key with
  | pending | processing | delayed | deadLetter | apiKey _ => cases h
  | productJob => cases h; exact hjobId (Option.some.inj hlast)
  | organizations => cases h; exact horganizations (Option.some.inj hlast)
  | organizationTenants => cases h; exact htenants (Option.some.inj hlast)
  | tenantApiKeys => cases h; exact hapikeys (Option.some.inj hlast)
  | tenantAudit => cases h; exact haudit (Option.some.inj hlast)
  | quotaMinute => cases h; exact hnumeral _ _ (Option.some.inj hlast)
  | quotaDaily | analyticsCount | latencySum | latencyCount =>
    cases h; exact hdate _ (Option.some.inj hlast)
  | job | organization | tenant | recommendationCache =>
    cases h; exact huuid _ (Option.some.inj hlast)

/-- The first part of a key with parts is not that of API keys. -/
theorem head?_parts_ne {key : RedisKey} {texts : List Text} (h : key.parts = some texts) :
    texts.head? ≠ some "apikey".toList := by
  cases key with
  | pending | processing | delayed | deadLetter | apiKey _ => cases h
  | _ =>
    cases h
    exact fun h => absurd (Option.some.inj h) (by decide)

theorem splitOn_append_colon (text text' : Text) :
    (text ++ ':' :: text').splitOn ':' = text.splitOn ':' ++ text'.splitOn ':' := by
  simp only [List.splitOn_eq_splitOnP]
  exact List.splitOnP_append_cons text text' (beq_self_eq_true ':')

/-- A key of the queue has no parts in common with a key that has parts. -/
theorem render_ne_of_queue {queueName : Text} {key key' : RedisKey} {texts : List Text}
    (hkey : key ∈ queueKeys) (hparts : key'.parts = some texts) :
    key.render queueName ≠ key'.render queueName := by
  intro h
  obtain ⟨word, hword, hrender⟩ := exists_word hkey
  have hcolon : ∀ word ∈ queueWords, ':' ∉ word := by decide
  have hlast := congrArg (fun text => (List.splitOn ':' text).getLast?) h
  rw [splitOn_render queueName hparts, hrender, splitOn_append_colon,
    List.splitOn_eq_singleton (hcolon word hword), List.getLast?_append] at hlast
  exact getLast?_parts_ne hparts hword hlast.symm

/-- Nor has a key of an API key. -/
theorem render_ne_of_apiKey {queueName lookupPrefix : Text} {key : RedisKey} {texts : List Text}
    (hparts : key.parts = some texts) :
    (RedisKey.apiKey lookupPrefix).render queueName ≠ key.render queueName := by
  intro h
  have hrender : (RedisKey.apiKey lookupPrefix).render queueName =
      "apikey".toList ++ ':' :: ("prefix:".toList ++ lookupPrefix) := rfl
  have hfirst := congrArg (fun text => (List.splitOn ':' text).head?) h
  rw [splitOn_render queueName hparts, hrender, splitOn_append_colon,
    List.splitOn_eq_singleton (by decide), List.head?_append] at hfirst
  exact head?_parts_ne hparts hfirst.symm

end RedisKey

/-- The keys of the queue look like those of API keys. -/
def ShadowsApiKeys (queueName : Text) : Prop := "apikey:prefix:".toList <+: queueName ++ [':']

instance (queueName : Text) : Decidable (ShadowsApiKeys queueName) :=
  inferInstanceAs (Decidable (_ <+: _))

namespace RedisKey

/-- A key of the queue has the text of an API key only if the queue shadows API keys. -/
theorem shadowsApiKeys_of_render_eq {queueName lookupPrefix : Text} {key : RedisKey}
    (hkey : key ∈ queueKeys)
    (h : key.render queueName = (RedisKey.apiKey lookupPrefix).render queueName) :
    ShadowsApiKeys queueName := by
  obtain ⟨word, hword, hrender⟩ := exists_word hkey
  have htext : (queueName ++ [':']) ++ word = "apikey:prefix:".toList ++ lookupPrefix := by
    rw [List.append_assoc]
    exact (hrender queueName).symm.trans h
  rcases List.prefix_or_prefix_of_prefix (List.prefix_append ..)
    (htext ▸ List.prefix_append _ _ : queueName ++ [':'] <+: "apikey:prefix:".toList ++ lookupPrefix)
    with hprefix | hprefix
  · exact hprefix
  · -- the name ends at a colon of the prefix
    have hends : ∀ n ∈ List.range 15, ("apikey:prefix:".toList.take n).getLast? = some ':' →
        n = 7 ∨ n = 14 := by decide
    have hlength : (queueName ++ [':']).length ∈ List.range 15 := by
      rw [List.mem_range]
      exact Nat.lt_succ_of_le hprefix.length_le
    have htake := List.prefix_iff_eq_take.1 hprefix
    have hlast : ("apikey:prefix:".toList.take (queueName ++ [':']).length).getLast? = some ':' := by
      rw [← htake, List.getLast?_concat]
    rcases hends _ hlength hlast with hseven | hfourteen
    · -- no word of the queue begins like the rest of the prefix
      rw [hseven] at htake
      have hwords : ∀ word ∈ queueWords, word.take 3 ≠ "pre".toList := by decide
      have hrest : word = "prefix:".toList ++ lookupPrefix := by
        rw [htake] at htext
        exact @List.append_cancel_left _ "apikey:".toList _ _ htext
      exact absurd (by rw [hrest]; rfl) (hwords word hword)
    · rw [hfourteen] at htake
      unfold ShadowsApiKeys
      rw [htake]
      exact List.prefix_refl _

/-- **No two keys have the same text**, unless the queue shadows API keys. -/
theorem render_injective_iff (queueName : Text) :
    Function.Injective (render queueName) ↔ ¬ ShadowsApiKeys queueName := by
  constructor
  · rintro hinjective ⟨rest, hrest⟩
    -- the pending jobs are under the key of some API key
    have hsame : (RedisKey.apiKey (rest ++ "pending".toList)).render queueName =
        RedisKey.pending.render queueName := by
      show "apikey:prefix:".toList ++ (rest ++ "pending".toList) = queueName ++ ":pending".toList
      rw [← List.append_assoc, hrest, List.append_assoc]
      rfl
    cases hinjective hsame
  · intro hshadows key key' h
    rcases key.cases_parts with hkey | ⟨lookupPrefix, rfl⟩ | ⟨texts, hparts⟩
    · rcases key'.cases_parts with hkey' | ⟨lookupPrefix', rfl⟩ | ⟨texts', hparts'⟩
      · exact render_inj_of_queue hkey hkey' h
      · exact absurd (shadowsApiKeys_of_render_eq hkey h) hshadows
      · exact absurd h (render_ne_of_queue hkey hparts')
    · rcases key'.cases_parts with hkey' | ⟨lookupPrefix', rfl⟩ | ⟨texts', hparts'⟩
      · exact absurd (shadowsApiKeys_of_render_eq hkey' h.symm) hshadows
      · rw [List.append_cancel_left h]
      · exact absurd h (render_ne_of_apiKey hparts')
    · rcases key'.cases_parts with hkey' | ⟨lookupPrefix', rfl⟩ | ⟨texts', hparts'⟩
      · exact absurd h.symm (render_ne_of_queue hkey' hparts)
      · exact absurd h.symm (render_ne_of_apiKey hparts)
      · exact render_inj_of_parts hparts hparts' h

end RedisKey

end ProductIntelligence
