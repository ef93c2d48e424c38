import ProductIntelligence.Enterprise.Enforcement
import ProductIntelligence.Enterprise.Serving
import ProductIntelligence.Logic.Unwinding

/-!
# Tenants do not see each other

The records of all tenants share one table, and every other key of the store carries a tenant.
What a tenant sees of the store is its own records, index, audit log and counters.  As long as
no key takes the place of another, the calls of other tenants leave that view alone, and the
answers to its own calls depend on nothing else.

## Main definitions

* `EnterpriseCall`, `EnterpriseApp.answer` — the calls: requests to the enterprise API and
  requests that pass through quota enforcement.
* `EnterpriseCall.byTenant` — whose call it is.
* `SameView` — two stores that look alike to a tenant.
* `issuedPrefixes` — the prefixes of the keys that a run issues.

## Main results

* `unwinding` — the view is kept by the calls of others and decides the answers to its own.
* `serve_revokeApiKey_foreign` — another tenant's prefix is answered as one that nobody has.
* `tenant_noninterference` — two runs with the same calls by a tenant give it the same answers.

## References

`backend/app/api/enterprise.py`, `backend/app/repositories/api_key_repository.py`,
`backend/app/repositories/audit_repository.py`, `backend/app/repositories/quota_repository.py`.
-/

namespace ProductIntelligence

open Effects

/-! ### Calls -/

/-- A call on a deployment: a request to the enterprise API, or one that passes through the
enforcement of the quota. -/
inductive EnterpriseCall
  | api (request : EnterpriseRequest)
  | metered (header : Option Text) (now : Time)
  deriving DecidableEq

/-- A call and what the server's clock shows when it arrives. -/
structure TimedCall where
  clock : Time
  call : EnterpriseCall
  deriving DecidableEq

/-- The key presented with a request; a bootstrap needs none. -/
def EnterpriseRequest.header : EnterpriseRequest → Option Text
  | .createOrganization _ _ _ => none
  | .listOrganizations header => header
  | .createApiKey header _ _ _ _ => header
  | .listApiKeys header => header
  | .revokeApiKey header _ _ => header
  | .listAudit header _ => header
  | .getUsage header _ => header

/-- The presented key is one of the tenant's, active or not. -/
def EnterpriseStore.presents (hashKey : Text → Text) (s : EnterpriseStore) (tenantId : UUID)
    (header : Option Text) : Bool :=
  match s.apiKey (keyPrefix (header.getD [])) with
  | none => false
  | some key => header.getD [] ≠ [] ∧ hashKey (header.getD []) = key.keyHash ∧
      key.tenantId = tenantId

/-- The call is the tenant's: it presents one of its keys, or it is the bootstrap that creates
the tenant. -/
def EnterpriseCall.byTenant (hashKey : Text → Text) (tenantId : UUID) (s : EnterpriseStore) :
    EnterpriseCall → Bool
  | .api (.createOrganization _ draw _) => draw.tenantId = tenantId
  | .api request => s.presents hashKey tenantId request.header
  | .metered header _ => s.presents hashKey tenantId header

/-- What a call is answered: a response, or the context that enforcement lets through. -/
abbrev CallAnswer := Answer EnterpriseResponse ⊕ Answer AuthContext

namespace EnterpriseApp

/-- The answer to a call and the store it leaves. -/
def answer (app : EnterpriseApp) (s : EnterpriseStore) (call : TimedCall) :
    CallAnswer × EnterpriseStore :=
  let now : EnterpriseStore := { s with clock := call.clock }
  match call.call with
  | .api request => ((app.serve now request).map .inl id)
  | .metered header time =>
    (((app.metered header time).run (EnterpriseStore.exec app.order) now).map .inr id)

end EnterpriseApp

/-- What of an answer is compared: all of it, but for the list of organizations, which is no
tenant's. -/
def EnterpriseCall.seen : EnterpriseCall → CallAnswer → Option CallAnswer
  | .api (.listOrganizations _), _ => none
  | _, answer => some answer

/-- The calls of a tenant in a run from the empty store, each with what is seen of its
answer. -/
def tenantExchanges (app : EnterpriseApp) (tenantId : UUID) (calls : List TimedCall) :
    List (TimedCall × Option CallAnswer) :=
  exchanges app.answer (fun s call => call.call.byTenant app.hashKey tenantId s)
    (fun call => call.call.seen) .empty calls

/-! ### The prefixes of issued keys -/

/-- The prefix of the key that an answer reveals. -/
def CallAnswer.issuedPrefix : CallAnswer → Option Text
  | .inl (.ok response) => response.rawKey.map keyPrefix
  | _ => none

/-- The prefixes of the keys that a run issues. -/
def issuedPrefixes (app : EnterpriseApp) : EnterpriseStore → List TimedCall → List Text
  | _, [] => []
  | s, call :: calls =>
    (CallAnswer.issuedPrefix (app.answer s call).1).toList ++
      issuedPrefixes app (app.answer s call).2 calls

/-- The key that the call issues, if it does, takes no other's place. -/
def IssuesFresh (app : EnterpriseApp) (s : EnterpriseStore) (call : TimedCall) : Prop :=
  ∀ lookupPrefix ∈ CallAnswer.issuedPrefix (app.answer s call).1, s.apiKey lookupPrefix = none

/-! ### What a tenant sees of the store -/

/-- The tenant of a counter. -/
def CounterKey.tenantId : CounterKey → UUID
  | .daily tenantId _ => tenantId
  | .minute tenantId _ => tenantId

/-- **Two stores look alike to a tenant**: they have the same records of the tenant, the same
index, audit log and counters. -/
structure SameView (tenantId : UUID) (s s' : EnterpriseStore) : Prop where
  records : ∀ lookupPrefix, ((s.apiKey lookupPrefix).filter fun key => key.tenantId = tenantId) =
    (s'.apiKey lookupPrefix).filter fun key => key.tenantId = tenantId
  index : s.tenantKeys tenantId = s'.tenantKeys tenantId
  audit : s.audit tenantId = s'.audit tenantId
  counters : ∀ key : CounterKey, key.tenantId = tenantId → s.counters key = s'.counters key

/-- The index of each tenant leads to records of that tenant. -/
def Indexed (s : EnterpriseStore) : Prop :=
  ∀ tenantId, ∀ lookupPrefix ∈ s.tenantKeys tenantId,
    ∃ key, s.apiKey lookupPrefix = some key ∧ key.tenantId = tenantId

variable {app : EnterpriseApp} {tenantId : UUID} {s s' : EnterpriseStore}

namespace SameView

theorem refl (tenantId : UUID) (s : EnterpriseStore) : SameView tenantId s s :=
  ⟨fun _ => rfl, rfl, rfl, fun _ _ => rfl⟩

theorem symm (h : SameView tenantId s s') : SameView tenantId s' s :=
  ⟨fun lookupPrefix => (h.records lookupPrefix).symm, h.index.symm, h.audit.symm,
    fun key hkey => (h.counters key hkey).symm⟩

theorem trans {s'' : EnterpriseStore} (h : SameView tenantId s s')
    (h' : SameView tenantId s' s'') : SameView tenantId s s'' :=
  ⟨fun lookupPrefix => (h.records lookupPrefix).trans (h'.records lookupPrefix),
    h.index.trans h'.index, h.audit.trans h'.audit,
    fun key hkey => (h.counters key hkey).trans (h'.counters key hkey)⟩

/-! #### What others write is not seen -/

/-- Saving a record of another tenant where no record of this one is. -/
theorem saveApiKey_of_ne {key : ApiKey} (hne : key.tenantId ≠ tenantId)
    (hplace : ∀ found, s.apiKey key.lookupPrefix = some found → found.tenantId ≠ tenantId) :
    SameView tenantId (s.saveApiKey key) s where
  records := by
    intro lookupPrefix
    by_cases hpre : lookupPrefix = key.lookupPrefix
    · subst hpre
      have hnone : (s.apiKey key.lookupPrefix).filter (fun key => key.tenantId = tenantId) =
          none := by
        rw [Option.filter_eq_none_iff]
        intro found hfound
        simpa using hplace found hfound
      rw [EnterpriseStore.apiKey_saveApiKey_self, hnone, Option.filter_some,
        if_neg (by simpa using hne)]
    · rw [EnterpriseStore.apiKey_saveApiKey_of_ne _ _ hpre]
  index := rfl
  audit := rfl
  counters := fun _ _ => rfl

/-- Creating a key of another tenant under a prefix that is free. -/
theorem createApiKey_of_ne {key : ApiKey} (hne : key.tenantId ≠ tenantId)
    (hfree : s.apiKey key.lookupPrefix = none) : SameView tenantId (s.createApiKey key) s where
  records := (saveApiKey_of_ne hne (by simp [hfree])).records
  index := Function.update_of_ne hne.symm _ _
  audit := rfl
  counters := fun _ _ => rfl

/-- An event of another tenant. -/
theorem appendAudit_of_ne {event : AuditEvent} (hne : event.tenantId ≠ tenantId) :
    SameView tenantId (s.appendAudit event) s where
  records := fun _ => rfl
  index := rfl
  audit := Function.update_of_ne hne.symm _ _
  counters := fun _ _ => rfl

/-- A counter of another tenant. -/
theorem countUp_of_ne {key : CounterKey} (hne : key.tenantId ≠ tenantId) (seconds : Time) :
    SameView tenantId (s.countUp key seconds) s where
  records := fun _ => rfl
  index := rfl
  audit := rfl
  counters := by
    intro other hother
    have hdiff : other ≠ key := fun h => hne (h ▸ hother)
    exact Function.update_of_ne hdiff _ _

/-! #### What the tenant reads and writes depends on its view -/

/-- A record of the tenant is found in both stores. -/
theorem apiKey_eq {lookupPrefix : Text} {key : ApiKey} (h : SameView tenantId s s')
    (hkey : s.apiKey lookupPrefix = some key) (htenant : key.tenantId = tenantId) :
    s'.apiKey lookupPrefix = some key := by
  have hrecord := h.records lookupPrefix
  rw [hkey, Option.filter_some, if_pos (by simpa using htenant)] at hrecord
  exact (Option.filter_eq_some_iff.1 hrecord.symm).1

/-- The listing is the same where the index leads to the tenant's records. -/
theorem listing_eq (h : SameView tenantId s s') (hindexed : Indexed s) (order : SetOrder) :
    s.listing order tenantId = s'.listing order tenantId := by
  unfold EnterpriseStore.listing EnterpriseStore.stored
  rw [← h.index]
  refine List.filterMap_congr fun lookupPrefix hlookup => ?_
  obtain ⟨key, hkey, htenant⟩ := hindexed tenantId lookupPrefix ((order.perm _).mem_iff.1 hlookup)
  rw [hkey, h.apiKey_eq hkey htenant]

theorem counter_eq (h : SameView tenantId s s') (hclock : s.clock = s'.clock) {key : CounterKey}
    (htenant : key.tenantId = tenantId) : s.counter key = s'.counter key := by
  rw [EnterpriseStore.counter, EnterpriseStore.counter, h.counters key htenant, hclock]

theorem nextCount_eq (h : SameView tenantId s s') (hclock : s.clock = s'.clock)
    {key : CounterKey} (htenant : key.tenantId = tenantId) :
    s.nextCount key = s'.nextCount key := by
  rw [EnterpriseStore.nextCount, EnterpriseStore.nextCount, h.counter_eq hclock htenant]

theorem saveApiKey (h : SameView tenantId s s') (key : ApiKey) :
    SameView tenantId (s.saveApiKey key) (s'.saveApiKey key) where
  records := by
    intro lookupPrefix
    by_cases hpre : lookupPrefix = key.lookupPrefix
    · subst hpre
      rw [EnterpriseStore.apiKey_saveApiKey_self, EnterpriseStore.apiKey_saveApiKey_self]
    · rw [EnterpriseStore.apiKey_saveApiKey_of_ne _ _ hpre,
        EnterpriseStore.apiKey_saveApiKey_of_ne _ _ hpre, h.records]
  index := h.index
  audit := h.audit
  counters := h.counters

theorem createApiKey (h : SameView tenantId s s') {key : ApiKey}
    (htenant : key.tenantId = tenantId) :
    SameView tenantId (s.createApiKey key) (s'.createApiKey key) where
  records := (h.saveApiKey key).records
  index := by
    subst htenant
    unfold EnterpriseStore.createApiKey
    dsimp only
    rw [Function.update_self, Function.update_self, h.index]
  audit := h.audit
  counters := h.counters

theorem appendAudit (h : SameView tenantId s s') {event : AuditEvent}
    (htenant : event.tenantId = tenantId) :
    SameView tenantId (s.appendAudit event) (s'.appendAudit event) where
  records := h.records
  index := h.index
  audit := by
    subst htenant
    unfold EnterpriseStore.appendAudit
    dsimp only
    rw [Function.update_self, Function.update_self, h.audit]
  counters := h.counters

theorem countUp (h : SameView tenantId s s') (hclock : s.clock = s'.clock) {key : CounterKey}
    (htenant : key.tenantId = tenantId) (seconds : Time) :
    SameView tenantId (s.countUp key seconds) (s'.countUp key seconds) where
  records := h.records
  index := h.index
  audit := h.audit
  counters := by
    intro other hother
    unfold EnterpriseStore.countUp
    dsimp only
    by_cases heq : other = key
    · subst heq
      rw [Function.update_self, Function.update_self, hclock, h.nextCount_eq hclock htenant]
    · rw [Function.update_of_ne heq, Function.update_of_ne heq, h.counters other hother]

end SameView

/-! ### Whose call it is -/

/-- Who presents a key of the tenant is answered the same from stores that look alike to it. -/
theorem authenticated_eq_of_presents {header : Option Text} (h : SameView tenantId s s')
    (hpresents : s.presents app.hashKey tenantId header = true) :
    s.authenticated app.hashKey header = s'.authenticated app.hashKey header := by
  unfold EnterpriseStore.presents at hpresents
  split at hpresents
  · cases hpresents
  · rename_i key hkey
    have htenant : key.tenantId = tenantId := (of_decide_eq_true hpresents).2.2
    unfold EnterpriseStore.authenticated
    rw [hkey, h.apiKey_eq hkey htenant]

theorem authorized_eq_of_presents {header : Option Text} (h : SameView tenantId s s')
    (hpresents : s.presents app.hashKey tenantId header = true) (permission : Permission) :
    s.authorized app.hashKey permission header = s'.authorized app.hashKey permission header := by
  rw [EnterpriseStore.authorized, EnterpriseStore.authorized,
    authenticated_eq_of_presents h hpresents]

/-- Who authenticates acts for the tenant exactly when the key presented is one of its. -/
theorem presents_iff_of_authenticated {header : Option Text} {context : AuthContext}
    (h : s.authenticated app.hashKey header = .ok context) :
    s.presents app.hashKey tenantId header = true ↔ context.tenantId = tenantId := by
  obtain ⟨raw, key, rfl, hne, hkey, -, hhash, rfl⟩ := (authenticated_eq_ok _ _).1 h
  unfold EnterpriseStore.presents
  rw [Option.getD_some, hkey]
  dsimp only
  rw [decide_eq_true_iff]
  exact ⟨fun h => h.2.2, fun h => ⟨hne, hhash, h⟩⟩

theorem presents_iff_of_authorized {header : Option Text} {context : AuthContext}
    {permission : Permission} (h : s.authorized app.hashKey permission header = .ok context) :
    s.presents app.hashKey tenantId header = true ↔ context.tenantId = tenantId :=
  presents_iff_of_authenticated ((authorized_eq_ok _ _).1 h).1

/-! ### What a call changes -/

theorem Indexed.createApiKey {key : ApiKey} (h : Indexed s)
    (hfree : s.apiKey key.lookupPrefix = none) : Indexed (s.createApiKey key) := by
  -- a free prefix is in no index, so every record an index leads to is still there
  have hkept : ∀ tenantId, ∀ lookupPrefix ∈ s.tenantKeys tenantId,
      ∃ found, (s.saveApiKey key).apiKey lookupPrefix = some found ∧
        found.tenantId = tenantId := by
    intro tenantId lookupPrefix hlookup
    obtain ⟨found, hfound, htenant⟩ := h tenantId lookupPrefix hlookup
    have hne : lookupPrefix ≠ key.lookupPrefix := by
      rintro rfl
      rw [hfree] at hfound
      cases hfound
    exact ⟨found, by rw [EnterpriseStore.apiKey_saveApiKey_of_ne _ _ hne, hfound], htenant⟩
  intro tenantId lookupPrefix hlookup
  unfold EnterpriseStore.createApiKey at hlookup
  dsimp only at hlookup
  by_cases htenant : tenantId = key.tenantId
  · subst htenant
    rw [Function.update_self, mem_sadd] at hlookup
    rcases hlookup with rfl | hold
    · exact ⟨key, EnterpriseStore.apiKey_saveApiKey_self s key, rfl⟩
    · exact hkept _ lookupPrefix hold
  · rw [Function.update_of_ne htenant] at hlookup
    exact hkept tenantId lookupPrefix hlookup

theorem Indexed.revoke {lookupPrefix : Text} {key : ApiKey} (h : Indexed s)
    (hkey : s.apiKey lookupPrefix = some key) : Indexed (s.saveApiKey key.revoke) := by
  obtain rfl := EnterpriseStore.lookupPrefix_eq hkey
  intro tenantId other hother
  obtain ⟨found, hfound, htenant⟩ := h tenantId other hother
  by_cases hpre : other = key.lookupPrefix
  · subst hpre
    obtain rfl : key = found := Option.some.inj (hkey.symm.trans hfound)
    exact ⟨key.revoke, EnterpriseStore.apiKey_saveApiKey_self s key.revoke, htenant⟩
  · exact ⟨found, by rw [EnterpriseStore.apiKey_saveApiKey_of_ne s key.revoke hpre, hfound],
      htenant⟩

/-- A request that puts no key in another's place keeps the indexes. -/
theorem Indexed.serve {request : EnterpriseRequest} (h : Indexed s)
    (hfresh : ∀ lookupPrefix ∈ CallAnswer.issuedPrefix (.inl (app.serve s request).1),
      s.apiKey lookupPrefix = none) : Indexed (app.serve s request).2 := by
  have hserved := served_serve app s request
  revert hserved hfresh
  generalize (app.serve s request).1 = answer
  generalize (app.serve s request).2 = after
  intro hfresh hserved
  cases hserved with
  | refused e => exact h
  | answered response hreads hsecret => exact h
  | bootstrapped name draw owner =>
    have hbootstrap : Indexed (s.bootstrap name draw) := h
    exact hbootstrap.createApiKey (hfresh _ rfl)
  | issued header name role draw event context hcontext hrole =>
    exact h.createApiKey (hfresh _ rfl)
  | revoked header lookupPrefix event context key hcontext hkey htenant => exact h.revoke hkey

/-- A request that is not the tenant's, and puts no key in another's place, is not seen. -/
theorem SameView.serve_other {request : EnterpriseRequest}
    (hother : EnterpriseCall.byTenant app.hashKey tenantId s (.api request) = false)
    (hfresh : ∀ lookupPrefix ∈ CallAnswer.issuedPrefix (.inl (app.serve s request).1),
      s.apiKey lookupPrefix = none) : SameView tenantId (app.serve s request).2 s := by
  have hserved := served_serve app s request
  revert hserved hfresh
  generalize (app.serve s request).1 = answer
  generalize (app.serve s request).2 = after
  intro hfresh hserved
  cases hserved with
  | refused e => exact .refl tenantId s
  | answered response hreads hsecret => exact .refl tenantId s
  | bootstrapped name draw owner =>
    have hne : draw.tenantId ≠ tenantId := of_decide_eq_false hother
    have hbootstrap : SameView tenantId (s.bootstrap name draw) s :=
      ⟨fun _ => rfl, rfl, rfl, fun _ _ => rfl⟩
    have hcreated : SameView tenantId
        ((s.bootstrap name draw).createApiKey (app.ownerKey draw owner)) (s.bootstrap name draw) :=
      SameView.createApiKey_of_ne hne (hfresh _ rfl)
    exact hcreated.trans hbootstrap
  | issued header name role draw event context hcontext hrole =>
    have hne : context.tenantId ≠ tenantId := by
      intro heq
      have hmine := (presents_iff_of_authorized hcontext).2 heq
      exact Bool.false_ne_true (hother.symm.trans hmine)
    exact (SameView.appendAudit_of_ne hne).trans
      (SameView.createApiKey_of_ne hne (hfresh _ rfl))
  | revoked header lookupPrefix event context key hcontext hkey htenant =>
    have hne : context.tenantId ≠ tenantId := by
      intro heq
      have hmine := (presents_iff_of_authorized hcontext).2 heq
      exact Bool.false_ne_true (hother.symm.trans hmine)
    have hforeign : key.tenantId ≠ tenantId := htenant ▸ hne
    obtain rfl := EnterpriseStore.lookupPrefix_eq hkey
    refine (SameView.appendAudit_of_ne hne).trans (SameView.saveApiKey_of_ne hforeign ?_)
    intro found hfound
    obtain rfl : key = found := Option.some.inj (hkey.symm.trans hfound)
    exact hforeign

/-- **The tenant's own requests** are answered the same from stores that look alike to it, and
leave stores that look alike to it. -/
theorem SameView.serve_own {request : EnterpriseRequest} (h : SameView tenantId s s')
    (hclock : s.clock = s'.clock) (hindexed : Indexed s)
    (hmine : EnterpriseCall.byTenant app.hashKey tenantId s (.api request) = true) :
    EnterpriseCall.seen (.api request) (.inl (app.serve s request).1) =
        EnterpriseCall.seen (.api request) (.inl (app.serve s' request).1) ∧
      SameView tenantId (app.serve s request).2 (app.serve s' request).2 := by
  cases request with
  | createOrganization name draw key =>
    have htenant : draw.tenantId = tenantId := of_decide_eq_true hmine
    have hbootstrap : SameView tenantId (s.bootstrap name draw) (s'.bootstrap name draw) :=
      ⟨h.records, h.index, h.audit, h.counters⟩
    exact ⟨rfl, hbootstrap.createApiKey htenant⟩
  | listOrganizations header =>
    replace hmine : s.presents app.hashKey tenantId header = true := hmine
    refine ⟨rfl, ?_⟩
    rw [app.serve_listOrganizations, app.serve_listOrganizations,
      ← authorized_eq_of_presents h hmine]
    split <;> exact h
  | createApiKey header name role draw event =>
    replace hmine : s.presents app.hashKey tenantId header = true := hmine
    rw [app.serve_createApiKey, app.serve_createApiKey, ← authorized_eq_of_presents h hmine]
    split
    · exact ⟨rfl, h⟩
    · rename_i context hcontext
      have htenant := (presents_iff_of_authorized hcontext).1 hmine
      split
      · exact ⟨rfl, (h.createApiKey htenant).appendAudit htenant⟩
      · exact ⟨rfl, h⟩
  | listApiKeys header =>
    replace hmine : s.presents app.hashKey tenantId header = true := hmine
    rw [app.serve_listApiKeys, app.serve_listApiKeys, ← authorized_eq_of_presents h hmine]
    split
    · exact ⟨rfl, h⟩
    · rename_i context hcontext
      obtain rfl := (presents_iff_of_authorized hcontext).1 hmine
      rw [h.listing_eq hindexed]
      exact ⟨rfl, h⟩
  | revokeApiKey header lookupPrefix event =>
    replace hmine : s.presents app.hashKey tenantId header = true := hmine
    rw [app.serve_revokeApiKey, app.serve_revokeApiKey, ← authorized_eq_of_presents h hmine]
    split
    · exact ⟨rfl, h⟩
    · rename_i context hcontext
      obtain rfl := (presents_iff_of_authorized hcontext).1 hmine
      rw [← h.records lookupPrefix]
      split
      · exact ⟨rfl, h⟩
      · rename_i key hkey
        exact ⟨rfl, (h.saveApiKey key.revoke).appendAudit rfl⟩
  | listAudit header limit =>
    replace hmine : s.presents app.hashKey tenantId header = true := hmine
    rw [app.serve_listAudit, app.serve_listAudit, ← authorized_eq_of_presents h hmine]
    split
    · exact ⟨rfl, h⟩
    · rename_i context hcontext
      obtain rfl := (presents_iff_of_authorized hcontext).1 hmine
      rw [h.audit]
      split <;> exact ⟨rfl, h⟩
  | getUsage header now =>
    replace hmine : s.presents app.hashKey tenantId header = true := hmine
    rw [app.serve_getUsage, app.serve_getUsage, ← authorized_eq_of_presents h hmine]
    split
    · exact ⟨rfl, h⟩
    · rename_i context hcontext
      obtain rfl := (presents_iff_of_authorized hcontext).1 hmine
      rw [h.counter_eq hclock rfl]
      exact ⟨rfl, h⟩

/-- Enforcing the quota of another tenant is not seen. -/
theorem SameView.metered_other {header : Option Text} {now : Time}
    (hother : s.presents app.hashKey tenantId header = false) :
    SameView tenantId ((app.metered header now).run (EnterpriseStore.exec app.order) s).2 s := by
  rw [run_metered]
  split
  · exact .refl tenantId s
  · rename_i context hcontext
    have hne : context.tenantId ≠ tenantId := by
      intro heq
      have hmine := (presents_iff_of_authenticated hcontext).2 heq
      exact Bool.false_ne_true (hother.symm.trans hmine)
    have hdaily : (CounterKey.daily context.tenantId (day now)).tenantId ≠ tenantId := hne
    have hminute : (CounterKey.minute context.tenantId (minute now)).tenantId ≠ tenantId := hne
    exact (SameView.countUp_of_ne hminute _).trans (SameView.countUp_of_ne hdaily _)

/-- Enforcing the quota of the tenant is answered the same from stores that look alike to it. -/
theorem SameView.metered_own {header : Option Text} {now : Time} (h : SameView tenantId s s')
    (hclock : s.clock = s'.clock) (hmine : s.presents app.hashKey tenantId header = true) :
    ((app.metered header now).run (EnterpriseStore.exec app.order) s).1 =
        ((app.metered header now).run (EnterpriseStore.exec app.order) s').1 ∧
      SameView tenantId ((app.metered header now).run (EnterpriseStore.exec app.order) s).2
        ((app.metered header now).run (EnterpriseStore.exec app.order) s').2 := by
  rw [run_metered, run_metered, ← authenticated_eq_of_presents h hmine]
  split
  · exact ⟨rfl, h⟩
  · rename_i context hcontext
    obtain rfl := (presents_iff_of_authenticated hcontext).1 hmine
    have hcounted : SameView context.tenantId
        (s.countUp (.daily context.tenantId (day now)) dailyTtlSeconds)
        (s'.countUp (.daily context.tenantId (day now)) dailyTtlSeconds) :=
      h.countUp hclock rfl dailyTtlSeconds
    refine ⟨?_, hcounted.countUp hclock rfl minuteTtlSeconds⟩
    dsimp only
    rw [h.nextCount_eq hclock rfl, hcounted.nextCount_eq hclock rfl]

/-! ### Runs -/

/-- What two runs keep between them: they look alike to the tenant, and the indexes of both lead
to records. -/
def LookAlike (tenantId : UUID) (s s' : EnterpriseStore) : Prop :=
  SameView tenantId s s' ∧ Indexed s ∧ Indexed s'

/-- A call that puts no key in another's place keeps the indexes. -/
theorem Indexed.answer {call : TimedCall} (h : Indexed s) (hfresh : IssuesFresh app s call) :
    Indexed (app.answer s call).2 := by
  obtain ⟨clock, call⟩ := call
  have hnow : Indexed { s with clock := clock } := h
  cases call with
  | api request => exact hnow.serve hfresh
  | metered header now =>
    unfold EnterpriseApp.answer
    dsimp only
    rw [run_metered]
    split
    · exact hnow
    · exact hnow

/-- **Keys in places of their own are an unwinding** for each tenant. -/
theorem unwinding (app : EnterpriseApp) (tenantId : UUID) :
    Unwinding app.answer (fun s call => call.call.byTenant app.hashKey tenantId s)
      (fun call => call.call.seen) (IssuesFresh app) (LookAlike tenantId) where
  symm := fun ⟨h, hs, hs'⟩ => ⟨h.symm, hs', hs⟩
  other := by
    rintro s s' ⟨clock, call⟩ ⟨h, hs, hs'⟩ hfresh hother
    have hnow : SameView tenantId { s with clock := clock } s' :=
      ⟨h.records, h.index, h.audit, h.counters⟩
    refine ⟨?_, hs.answer hfresh, hs'⟩
    cases call with
    | api request =>
      have hserved : SameView tenantId (app.serve { s with clock := clock } request).2
          { s with clock := clock } := SameView.serve_other hother hfresh
      exact hserved.trans hnow
    | metered header now =>
      have hmetered : SameView tenantId ((app.metered header now).run
          (EnterpriseStore.exec app.order) { s with clock := clock }).2 { s with clock := clock } :=
        SameView.metered_other hother
      exact hmetered.trans hnow
  own := by
    rintro s s' ⟨clock, call⟩ ⟨h, hs, hs'⟩ hfresh hfresh' hmine -
    have hnow : SameView tenantId { s with clock := clock } { s' with clock := clock } :=
      ⟨h.records, h.index, h.audit, h.counters⟩
    have hkept := hs.answer hfresh
    have hkept' := hs'.answer hfresh'
    cases call with
    | api request =>
      obtain ⟨hanswer, hview⟩ := hnow.serve_own rfl hs hmine
      exact ⟨hanswer, hview, hkept, hkept'⟩
    | metered header now =>
      obtain ⟨hanswer, hview⟩ := hnow.metered_own rfl hmine
      refine ⟨?_, hview, hkept, hkept'⟩
      exact congrArg (fun answer => some (Sum.inr answer)) hanswer

/-- Every prefix in use was so before the call or is issued by it. -/
theorem stored_answer {call : TimedCall} {lookupPrefix : Text} {key : ApiKey}
    (h : (app.answer s call).2.apiKey lookupPrefix = some key) :
    (∃ found, s.apiKey lookupPrefix = some found) ∨
      lookupPrefix ∈ CallAnswer.issuedPrefix (app.answer s call).1 := by
  obtain ⟨clock, call⟩ := call
  have hsaved : ∀ (s : EnterpriseStore) (key' : ApiKey),
      (s.saveApiKey key').apiKey lookupPrefix = some key →
        lookupPrefix = key'.lookupPrefix ∨ s.apiKey lookupPrefix = some key := by
    intro s key' hkey
    by_cases hpre : lookupPrefix = key'.lookupPrefix
    · exact .inl hpre
    · exact .inr ((EnterpriseStore.apiKey_saveApiKey_of_ne s key' hpre).symm.trans hkey)
  cases call with
  | api request =>
    have hserved := served_serve app { s with clock := clock } request
    unfold EnterpriseApp.answer at h ⊢
    dsimp only at h ⊢
    revert h hserved
    generalize app.serve { s with clock := clock } request = outcome
    obtain ⟨answer, after⟩ := outcome
    intro h hserved
    cases hserved with
    | refused e => exact .inl ⟨key, h⟩
    | answered response hreads hsecret => exact .inl ⟨key, h⟩
    | bootstrapped name draw owner =>
      rcases hsaved _ _ h with rfl | hold
      · exact .inr rfl
      · exact .inl ⟨key, hold⟩
    | issued header name role draw event context hcontext hrole =>
      rcases hsaved _ _ h with rfl | hold
      · exact .inr rfl
      · exact .inl ⟨key, hold⟩
    | revoked header target event context found hcontext hfound htenant =>
      rcases hsaved _ _ h with rfl | hold
      · have hown := EnterpriseStore.lookupPrefix_eq hfound
        exact .inl ⟨found, hown ▸ hfound⟩
      · exact .inl ⟨key, hold⟩
  | metered header now =>
    unfold EnterpriseApp.answer at h
    dsimp only at h
    rw [run_metered] at h
    split at h
    · exact .inl ⟨key, h⟩
    · exact .inl ⟨key, h⟩

/-- When all issued prefixes are distinct, no key of the run takes the place of another. -/
theorem stepsMeet_issuesFresh {calls : List TimedCall}
    (hnew : ∀ lookupPrefix ∈ issuedPrefixes app s calls, s.apiKey lookupPrefix = none)
    (hdistinct : (issuedPrefixes app s calls).Nodup) :
    StepsMeet app.answer (IssuesFresh app) s calls := by
  induction calls generalizing s with
  | nil => trivial
  | cons call calls ih =>
    rw [issuedPrefixes] at hnew hdistinct
    obtain ⟨-, hrest, hapart⟩ := List.nodup_append.1 hdistinct
    have hfresh : IssuesFresh app s call := fun lookupPrefix hissued =>
      hnew lookupPrefix (List.mem_append_left _ (Option.mem_toList.2 hissued))
    refine ⟨hfresh, ih ?_ hrest⟩
    intro lookupPrefix hlater
    -- a prefix issued later is neither in use before this call nor issued by it
    by_contra hused
    obtain ⟨key, hkey⟩ := Option.ne_none_iff_exists'.1 hused
    rcases stored_answer hkey with ⟨found, hfound⟩ | hissued
    · rw [hnew lookupPrefix (List.mem_append_right _ hlater)] at hfound
      cases hfound
    · exact hapart _ (Option.mem_toList.2 hissued) _ hlater rfl

theorem lookAlike_empty (tenantId : UUID) : LookAlike tenantId .empty .empty := by
  have hindexed : Indexed .empty := by
    intro other lookupPrefix hlookup
    cases hlookup
  exact ⟨.refl tenantId .empty, hindexed, hindexed⟩

/-- The prefix of another tenant's key is answered as one under which nobody has a key. -/
theorem serve_revokeApiKey_foreign {header : Option Text} {lookupPrefix : Text}
    (hcaller : s.authorized app.hashKey .manageApiKeys header =
      s'.authorized app.hashKey .manageApiKeys header)
    (hforeign : ∀ context key, s.authorized app.hashKey .manageApiKeys header = .ok context →
      s.apiKey lookupPrefix = some key → key.tenantId ≠ context.tenantId)
    (hnobody : s'.apiKey lookupPrefix = none) (event : EventDraw) :
    (app.serve s (.revokeApiKey header lookupPrefix event)).1 =
      (app.serve s' (.revokeApiKey header lookupPrefix event)).1 := by
  rw [app.serve_revokeApiKey, app.serve_revokeApiKey, ← hcaller, hnobody]
  split
  · rfl
  · rename_i context hcontext
    have hnone : (s.apiKey lookupPrefix).filter (fun key => key.tenantId = context.tenantId) =
        none := by
      rw [Option.filter_eq_none_iff]
      intro key hkey
      simpa using hforeign context key hcontext hkey
    rw [hnone]
    rfl

/-- **Tenants do not interfere**: two runs whose issued prefixes are distinct and in which a
tenant makes the same calls give it the same answers, whatever the others do; and it cannot tell
another tenant's prefix from one that nobody has. -/
theorem tenant_noninterference (app : EnterpriseApp) (tenantId : UUID)
    (calls calls' : List TimedCall) (hdistinct : (issuedPrefixes app .empty calls).Nodup)
    (hdistinct' : (issuedPrefixes app .empty calls').Nodup)
    (hsame : (tenantExchanges app tenantId calls).map Prod.fst =
      (tenantExchanges app tenantId calls').map Prod.fst) :
    tenantExchanges app tenantId calls = tenantExchanges app tenantId calls' ∧
    ∀ s s' header lookupPrefix event,
      s.authorized app.hashKey .manageApiKeys header =
        s'.authorized app.hashKey .manageApiKeys header →
      (∀ context key, s.authorized app.hashKey .manageApiKeys header = .ok context →
        s.apiKey lookupPrefix = some key → key.tenantId ≠ context.tenantId) →
      s'.apiKey lookupPrefix = none →
      (app.serve s (.revokeApiKey header lookupPrefix event)).1 =
        (app.serve s' (.revokeApiKey header lookupPrefix event)).1 := by
  have hfree : ∀ calls, ∀ lookupPrefix ∈ issuedPrefixes app .empty calls,
      EnterpriseStore.empty.apiKey lookupPrefix = none := fun _ _ _ => rfl
  refine ⟨?_, ?_⟩
  · exact (unwinding app tenantId).exchanges_eq (lookAlike_empty tenantId)
      (stepsMeet_issuesFresh (hfree calls) hdistinct)
      (stepsMeet_issuesFresh (hfree calls') hdistinct') hsame
  · intro s s' header lookupPrefix event hcaller hforeign hnobody
    exact serve_revokeApiKey_foreign hcaller hforeign hnobody event

/-! ### A tenant and its neighbour -/

namespace Neighbours

/-- A deployment that keeps raw keys as they are. -/
def deployment : EnterpriseApp := ⟨id, .insertion, 3, 2⟩

/-- The token of the tenant's key. -/
def token : Text := "AAAAAAAAbbbbbbbbbbbbbbbbbbbbbbbb".toList

/-- The token of its neighbour's key. -/
def otherToken : Text := "DDDDDDDDcccccccccccccccccccccccc".toList

/-- The bootstrap of the tenant. -/
def bootstrap : TimedCall :=
  ⟨0, .api (.createOrganization ownerName ⟨1, 10, 0, 0⟩ ⟨token, 100, 0⟩)⟩

/-- What the tenant asks afterwards: an enforced request, its usage and its keys. -/
def later : List TimedCall :=
  [⟨5, .metered (some (generateRawKey token)) 5⟩,
    ⟨6, .api (.getUsage (some (generateRawKey token)) 6)⟩,
    ⟨7, .api (.listApiKeys (some (generateRawKey token)))⟩]

/-- What its neighbour does in between: it joins, is counted and tries to revoke the tenant's
key. -/
def meanwhile : List TimedCall :=
  [⟨1, .api (.createOrganization ownerName ⟨2, 20, 1, 1⟩ ⟨otherToken, 200, 1⟩)⟩,
    ⟨2, .metered (some (generateRawKey otherToken)) 2⟩,
    ⟨3, .api (.revokeApiKey (some (generateRawKey otherToken)) (keyPrefix (generateRawKey token))
      ⟨300, 3⟩)⟩]

end Neighbours

/-- The tenant is answered the same with a neighbour as without. -/
theorem neighbour_not_seen :
    tenantExchanges Neighbours.deployment 10 (Neighbours.bootstrap :: Neighbours.later) =
      tenantExchanges Neighbours.deployment 10
        (Neighbours.bootstrap :: (Neighbours.meanwhile ++ Neighbours.later)) :=
  (tenant_noninterference Neighbours.deployment 10 (Neighbours.bootstrap :: Neighbours.later)
    (Neighbours.bootstrap :: (Neighbours.meanwhile ++ Neighbours.later))
    (by decide +kernel) (by decide +kernel) (by decide +kernel)).1

end ProductIntelligence
