import Mathlib.Logic.Relation
import ProductIntelligence.Enterprise.Authentication
import ProductIntelligence.Enterprise.Serving

/-!
# Keys that issue keys

A caller may issue a key, whose holder may issue another.  In any run of requests from the
empty store the rights of a key bound those of every key down the chain: the tenant is the
caller's, and the role is one that the caller's role covers.

## Main definitions

* `Returns`, `Obtained` — a request returns a key, and a run does.
* `Issues` — in a run, one key issues another.
* `ApiKey.Within` — the rights of a key lie within those of another.

## Main results

* `ApiKey.Within.of_chain` — so they do along any chain of keys.
* `exists_of_newly_revoked` — who revokes a key.
* `exists_obtained_of_authenticates` — what authenticates was obtained in the run.
* `no_privilege_escalation` — the three together.

## References

`backend/app/api/enterprise.py`, `backend/app/dependencies/enterprise.py`,
`backend/app/models/role.py`.
-/

namespace ProductIntelligence

open Relation

variable {app : EnterpriseApp} {s : EnterpriseStore} {request : EnterpriseRequest}

/-! ### Obtaining keys -/

/-- A request returns a key: the raw key is in the answer, and its record in the store. -/
def Returns (app : EnterpriseApp) (s : EnterpriseStore) (request : EnterpriseRequest)
    (issued : IssuedKey) : Prop :=
  (∃ response, (app.serve s request).1 = .ok response ∧
    response.rawKey = some issued.rawKey) ∧
  (app.serve s request).2.apiKey (keyPrefix issued.rawKey) = some issued.key

/-- Some request of a run returns the key. -/
def Obtained (app : EnterpriseApp) (requests : List EnterpriseRequest) (issued : IssuedKey) :
    Prop :=
  ∃ before request after, requests = before ++ request :: after ∧
    Returns app (app.serveAll before .empty) request issued

/-- In a run one key issues another: a request to create a key authenticates as the first and
returns the second. -/
def Issues (app : EnterpriseApp) (requests : List EnterpriseRequest)
    (issuer issued : ApiKey) : Prop :=
  ∃ before header name role draw event after rawKey,
    requests = before ++ .createApiKey header name role draw event :: after ∧
    (app.serveAll before .empty).Authenticates app.hashKey header issuer ∧
    Returns app (app.serveAll before .empty) (.createApiKey header name role draw event)
      ⟨rawKey, issued⟩

/-- The owner key of a bootstrap is returned. -/
theorem returns_ownerKey (name : Name) (draw : OrganizationDraw) (key : KeyDraw) :
    Returns app s (.createOrganization name draw key)
      ⟨generateRawKey key.token, app.ownerKey draw key⟩ :=
  ⟨⟨_, rfl, rfl⟩, EnterpriseStore.apiKey_saveApiKey_self _ (app.ownerKey draw key)⟩

/-- The key of an accepted request is returned. -/
theorem returns_issuedKey {header : Option Text} {name : Name} {role : Role} {draw : KeyDraw}
    {event : EventDraw} {context : AuthContext}
    (hcontext : s.authorized app.hashKey .manageApiKeys header = .ok context)
    (hrole : rolePermissions role ⊆ rolePermissions context.role) :
    Returns app s (.createApiKey header name role draw event)
      ⟨generateRawKey draw.token, app.issuedKey context name role draw⟩ := by
  unfold Returns
  rw [app.serve_createApiKey, hcontext]
  dsimp only
  rw [if_pos hrole]
  exact ⟨⟨_, rfl, rfl⟩,
    EnterpriseStore.apiKey_saveApiKey_self _ (app.issuedKey context name role draw)⟩

/-- A request to create a key returns only a key of the caller, with a role that the caller's
covers. -/
theorem eq_issuedKey_of_returns {header : Option Text} {name : Name} {role : Role}
    {draw : KeyDraw} {event : EventDraw} {issued : IssuedKey}
    (h : Returns app s (.createApiKey header name role draw event) issued) :
    ∃ context, s.authorized app.hashKey .manageApiKeys header = .ok context ∧
      rolePermissions role ⊆ rolePermissions context.role ∧
      issued = ⟨generateRawKey draw.token, app.issuedKey context name role draw⟩ := by
  obtain ⟨⟨response, hanswer, hraw⟩, hstored⟩ := h
  rw [app.serve_createApiKey] at hanswer hstored
  split at hanswer
  · cases hanswer
  · rename_i context hcontext
    rw [hcontext] at hstored
    dsimp only at hstored
    split at hanswer
    · rename_i hrole
      rw [if_pos hrole] at hstored
      obtain rfl := Except.ok.inj hanswer
      obtain ⟨rawKey, key⟩ := issued
      obtain rfl : generateRawKey draw.token = rawKey := Option.some.inj hraw
      have hself := EnterpriseStore.apiKey_saveApiKey_self s (app.issuedKey context name role draw)
      refine ⟨context, hcontext, hrole, ?_⟩
      rw [Option.some.inj (hself.symm.trans hstored)]
    · cases hanswer

/-! ### Chains of keys -/

/-- The rights of a key lie within those of another: the same organization and tenant, and no
permission that the other lacks. -/
structure ApiKey.Within (key other : ApiKey) : Prop where
  organizationId : key.organizationId = other.organizationId
  tenantId : key.tenantId = other.tenantId
  permissions : rolePermissions key.role ⊆ rolePermissions other.role

namespace ApiKey.Within

theorem refl (key : ApiKey) : key.Within key := ⟨rfl, rfl, Finset.Subset.refl _⟩

theorem trans {key other third : ApiKey} (h : key.Within other) (h' : other.Within third) :
    key.Within third :=
  ⟨h.organizationId.trans h'.organizationId, h.tenantId.trans h'.tenantId,
    h.permissions.trans h'.permissions⟩

variable {requests : List EnterpriseRequest} {issuer issued : ApiKey}

/-- A caller issues only within its rights. -/
theorem of_issues (h : Issues app requests issuer issued) : issued.Within issuer := by
  obtain ⟨before, header, name, role, draw, event, after, rawKey, -, hissuer, hreturns⟩ := h
  obtain ⟨context, hcontext, hrole, heq⟩ := eq_issuedKey_of_returns hreturns
  obtain ⟨raw, hraw, -, hkey, -, -⟩ := hissuer
  obtain ⟨caller, ⟨raw', hraw', -, hcaller, -, -⟩, rfl⟩ :=
    exists_authenticates_of_authorized hcontext
  -- the header leads to one record, which is the issuer's and the caller's
  obtain rfl : raw = raw' := Option.some.inj (hraw.symm.trans hraw')
  obtain rfl : issuer = caller := Option.some.inj (hkey.symm.trans hcaller)
  obtain rfl : issued = app.issuedKey issuer.context name role draw := congrArg IssuedKey.key heq
  exact ⟨rfl, rfl, hrole⟩

/-- **Rights never grow along a chain of keys.** -/
theorem of_chain (h : ReflTransGen (Issues app requests) issuer issued) :
    issued.Within issuer := by
  induction h with
  | refl => exact refl issuer
  | tail _ hlast ih => exact (of_issues hlast).trans ih

end ApiKey.Within

/-! ### Revoking -/

/-- The record under a prefix once a key is saved: that key, or what was there. -/
theorem apiKey_saveApiKey_cases {key found : ApiKey} {lookupPrefix : Text}
    (h : (s.saveApiKey key).apiKey lookupPrefix = some found) :
    (found = key ∧ lookupPrefix = key.lookupPrefix) ∨ s.apiKey lookupPrefix = some found := by
  by_cases hpre : lookupPrefix = key.lookupPrefix
  · subst hpre
    rw [EnterpriseStore.apiKey_saveApiKey_self] at h
    exact .inl ⟨(Option.some.inj h).symm, rfl⟩
  · rw [EnterpriseStore.apiKey_saveApiKey_of_ne _ _ hpre] at h
    exact .inr h

/-- **Who revokes a key**: the flag of a record is set only by a revocation that authenticates
as a key of the same tenant. -/
theorem exists_of_newly_revoked {lookupPrefix : Text} {key key' : ApiKey}
    (hbefore : s.apiKey lookupPrefix = some key) (hactive : key.revoked = false)
    (hafter : (app.serve s request).2.apiKey lookupPrefix = some key')
    (hrevoked : key'.revoked = true) :
    ∃ header event caller, request = .revokeApiKey header lookupPrefix event ∧
      s.Authenticates app.hashKey header caller ∧ caller.tenantId = key.tenantId := by
  have hsame : ¬ s.apiKey lookupPrefix = some key' := by
    intro h
    obtain rfl : key = key' := Option.some.inj (hbefore.symm.trans h)
    rw [hactive] at hrevoked
    cases hrevoked
  have hserved := served_serve app s request
  revert hafter hserved
  generalize (app.serve s request).1 = answer
  generalize (app.serve s request).2 = s'
  intro hafter hserved
  cases hserved with
  | refused e => exact absurd hafter hsame
  | answered response hreads hsecret => exact absurd hafter hsame
  | bootstrapped name draw owner =>
    rcases apiKey_saveApiKey_cases hafter with ⟨rfl, -⟩ | hold
    · cases hrevoked
    · exact absurd hold hsame
  | issued header name role draw event context hcontext hrole =>
    rcases apiKey_saveApiKey_cases hafter with ⟨rfl, -⟩ | hold
    · cases hrevoked
    · exact absurd hold hsame
  | revoked header target event context found hcontext hfound htenant =>
    rcases apiKey_saveApiKey_cases hafter with ⟨-, hpre⟩ | hold
    · have hown := EnterpriseStore.lookupPrefix_eq hfound
      obtain rfl : lookupPrefix = target := hpre.trans hown
      obtain rfl : key = found := Option.some.inj (hbefore.symm.trans hfound)
      obtain ⟨caller, hcaller, rfl⟩ := exists_authenticates_of_authorized hcontext
      exact ⟨header, event, caller, rfl, hcaller, htenant.symm⟩
    · exact absurd hold hsame

/-! ### What authenticates -/

/-- Every stored record is, up to its flag, that of a key the run returned. -/
def HoldsObtained (app : EnterpriseApp) (requests : List EnterpriseRequest)
    (s : EnterpriseStore) : Prop :=
  ∀ lookupPrefix key, s.apiKey lookupPrefix = some key →
    ∃ issued, Obtained app requests issued ∧ keyPrefix issued.rawKey = lookupPrefix ∧
      app.hashKey issued.rawKey = key.keyHash ∧ (key = issued.key ∨ key = issued.key.revoke)

/-- A longer run returns all that a shorter one does. -/
theorem Obtained.append {requests later : List EnterpriseRequest} {issued : IssuedKey}
    (h : Obtained app requests issued) : Obtained app (requests ++ later) issued := by
  obtain ⟨before, request, after, rfl, hreturns⟩ := h
  exact ⟨before, request, after ++ later, by simp, hreturns⟩

/-- The last request of a run may return a key. -/
theorem Returns.obtained {requests : List EnterpriseRequest} {issued : IssuedKey}
    (h : Returns app (app.serveAll requests .empty) request issued) :
    Obtained app (requests ++ [request]) issued :=
  ⟨requests, request, [], rfl, h⟩

/-- One more request keeps every record that of a returned key. -/
theorem HoldsObtained.serve {requests : List EnterpriseRequest}
    (h : HoldsObtained app requests (app.serveAll requests .empty))
    (request : EnterpriseRequest) :
    HoldsObtained app (requests ++ [request])
      (app.serve (app.serveAll requests .empty) request).2 := by
  set s := app.serveAll requests .empty with hs
  have hold : HoldsObtained app (requests ++ [request]) s := by
    intro lookupPrefix key hkey
    obtain ⟨issued, hobtained, hrest⟩ := h lookupPrefix key hkey
    exact ⟨issued, hobtained.append, hrest⟩
  have hreturned : ∀ issued, Returns app s request issued →
      Obtained app (requests ++ [request]) issued := fun issued => Returns.obtained
  have hserved := served_serve app s request
  revert hserved
  generalize (app.serve s request).1 = answer
  generalize (app.serve s request).2 = s'
  intro hserved
  cases hserved with
  | refused e => exact hold
  | answered response hreads hsecret => exact hold
  | bootstrapped name draw owner =>
    intro lookupPrefix key hkey
    rcases apiKey_saveApiKey_cases hkey with ⟨rfl, rfl⟩ | hkey
    · exact ⟨_, hreturned _ (returns_ownerKey name draw owner), rfl, rfl, .inl rfl⟩
    · exact hold lookupPrefix key hkey
  | issued header name role draw event context hcontext hrole =>
    intro lookupPrefix key hkey
    rcases apiKey_saveApiKey_cases hkey with ⟨rfl, rfl⟩ | hkey
    · exact ⟨_, hreturned _ (returns_issuedKey hcontext hrole), rfl, rfl, .inl rfl⟩
    · exact hold lookupPrefix key hkey
  | revoked header target event context found hcontext hfound htenant =>
    intro lookupPrefix key hkey
    rcases apiKey_saveApiKey_cases hkey with ⟨rfl, rfl⟩ | hkey
    · obtain ⟨issued, hobtained, hpre, hhash, hflag⟩ := hold target found hfound
      have hown := EnterpriseStore.lookupPrefix_eq hfound
      refine ⟨issued, hobtained, hpre.trans hown.symm, hhash, .inr ?_⟩
      rcases hflag with rfl | rfl <;> rfl
    · exact hold lookupPrefix key hkey

theorem holdsObtained_serveAll (requests : List EnterpriseRequest) :
    HoldsObtained app requests (app.serveAll requests .empty) := by
  -- by induction on the run, its last request last
  induction requests using List.reverseRecOn with
  | nil => intro lookupPrefix key hkey; cases hkey
  | append_singleton requests request ih =>
    have hstep := ih.serve request
    rw [EnterpriseApp.serveAll, List.foldl_append]
    exact hstep

/-- **What authenticates was obtained in the run**, with a raw key of the same opening and the
same hash as the one presented. -/
theorem exists_obtained_of_authenticates {requests : List EnterpriseRequest}
    {header : Option Text} {key : ApiKey}
    (h : (app.serveAll requests .empty).Authenticates app.hashKey header key) :
    ∃ raw issued, header = some raw ∧ Obtained app requests issued ∧ issued.key = key ∧
      keyPrefix issued.rawKey = keyPrefix raw ∧ app.hashKey issued.rawKey = app.hashKey raw := by
  obtain ⟨raw, hraw, -, hkey, hactive, hhash⟩ := h
  obtain ⟨issued, hobtained, hpre, hissued, hflag⟩ := holdsObtained_serveAll requests _ _ hkey
  refine ⟨raw, issued, hraw, hobtained, ?_, hpre, hissued.trans hhash.symm⟩
  rcases hflag with rfl | rfl
  · rfl
  · cases hactive

/-! ### No privilege escalation -/

/-- **No privilege escalation**, in any run of requests.  Along a chain of keys, each issued to
a caller that authenticated as the one before, the organization and the tenant stay and no
permission is gained; what authenticates as a key of the chain is a raw key that the run
returned; a key is revoked only by a key of its own tenant; and a request refused for lack of
permission changes nothing at all. -/
theorem no_privilege_escalation (app : EnterpriseApp) (requests : List EnterpriseRequest) :
    (∀ key issued, ReflTransGen (Issues app requests) key issued → issued.Within key) ∧
    (∀ header key, (app.serveAll requests .empty).Authenticates app.hashKey header key →
      ∃ raw issued, header = some raw ∧ Obtained app requests issued ∧ issued.key = key ∧
        keyPrefix issued.rawKey = keyPrefix raw ∧
        app.hashKey issued.rawKey = app.hashKey raw) ∧
    ∀ before request after, requests = before ++ request :: after →
      let s := app.serveAll before .empty
      (∀ lookupPrefix key key', s.apiKey lookupPrefix = some key → key.revoked = false →
        (app.serve s request).2.apiKey lookupPrefix = some key' → key'.revoked = true →
        ∃ header event caller, request = .revokeApiKey header lookupPrefix event ∧
          s.Authenticates app.hashKey header caller ∧ caller.tenantId = key.tenantId) ∧
      ∀ message, (app.serve s request).1 = .error (.authorization message) →
        (app.serve s request).2 = s :=
  ⟨fun _ _ => ApiKey.Within.of_chain, fun _ _ => exists_obtained_of_authenticates,
    fun _ _ _ _ => ⟨fun _ _ _ => exists_of_newly_revoked, fun _ => eq_of_error⟩⟩

end ProductIntelligence
