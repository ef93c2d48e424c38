import ProductIntelligence.Enterprise.Api

/-!
# What a request does

Each request is answered from what it reads; four of the seven write nothing whatever they
answer, and no request writes when it is refused.

## Main definitions

* `EnterpriseStore.bootstrap` — the store after an organization is created.
* `EnterpriseStore.Authenticates` — the header of a request authenticates as a key.
* `Served` — what serving a request does: nothing, a bootstrap, an issue or a revocation.
* `EnterpriseApp.serveAll` — the store after some requests.

## Main results

* `serve_createApiKey`, `serve_revokeApiKey` and the like — the answer to each request.
* `served_serve` — serving a request does one of four things.
* `eq_of_error` — a request that is refused writes nothing.

## References

`backend/app/api/enterprise.py`.
-/

namespace ProductIntelligence

open Effects Program

/-- The organization a bootstrap creates. -/
def newOrganization (name : Name) (draw : OrganizationDraw) : Organization :=
  ⟨draw.organizationId, name, draw.organizationCreatedAt⟩

/-- Its default tenant. -/
def defaultTenant (draw : OrganizationDraw) : Tenant :=
  ⟨draw.tenantId, draw.organizationId, "default".toList, draw.tenantCreatedAt⟩

/-- The store after an organization and its default tenant are created. -/
def EnterpriseStore.bootstrap (s : EnterpriseStore) (name : Name) (draw : OrganizationDraw) :
    EnterpriseStore :=
  { s with
    organizations :=
      Function.update s.organizations draw.organizationId (some (newOrganization name draw))
    organizationIds := sadd draw.organizationId s.organizationIds
    tenants := Function.update s.tenants draw.tenantId (some (defaultTenant draw))
    tenantIds := Function.update s.tenantIds draw.organizationId
      (sadd draw.tenantId (s.tenantIds draw.organizationId)) }

/-- The request's header authenticates as a key: it leads to that key's record, which is active
and carries the header's hash. -/
def EnterpriseStore.Authenticates (hashKey : Text → Text) (s : EnterpriseStore)
    (header : Option Text) (key : ApiKey) : Prop :=
  ∃ raw, header = some raw ∧ raw ≠ [] ∧ s.apiKey (keyPrefix raw) = some key ∧
    key.revoked = false ∧ hashKey raw = key.keyHash

/-- Whoever passes the guard authenticates as a key of theirs. -/
theorem exists_authenticates_of_authorized {hashKey : Text → Text} {s : EnterpriseStore}
    {permission : Permission} {header : Option Text} {context : AuthContext}
    (h : s.authorized hashKey permission header = .ok context) :
    ∃ key, s.Authenticates hashKey header key ∧ key.context = context := by
  rw [authorized_eq_ok, authenticated_eq_ok] at h
  obtain ⟨⟨raw, key, hraw, hne, hkey, hactive, hhash, hcontext⟩, -⟩ := h
  exact ⟨key, ⟨raw, hraw, hne, hkey, hactive, hhash⟩, hcontext⟩

namespace EnterpriseApp

variable (app : EnterpriseApp) (s : EnterpriseStore)

/-- The record of the owner key that a bootstrap issues. -/
def ownerKey (draw : OrganizationDraw) (key : KeyDraw) : ApiKey :=
  newApiKey app.hashKey draw.organizationId draw.tenantId ownerName .owner key

/-- The record of the key that a caller issues. -/
def issuedKey (context : AuthContext) (name : Name) (role : Role) (key : KeyDraw) : ApiKey :=
  newApiKey app.hashKey context.organizationId context.tenantId name role key

/-! ### The answer to each request -/

/-- A bootstrap always succeeds. -/
theorem serve_createOrganization (name : Name) (draw : OrganizationDraw) (key : KeyDraw) :
    app.serve s (.createOrganization name draw key) =
      (.ok (.organizationCreated (newOrganization name draw) (defaultTenant draw)
          (.ofApiKey (app.ownerKey draw key)) (generateRawKey key.token)),
        (s.bootstrap name draw).createApiKey (app.ownerKey draw key)) := rfl

/-- An issue succeeds for a role that the caller's role covers. -/
theorem serve_createApiKey (header : Option Text) (name : Name) (role : Role) (key : KeyDraw)
    (event : EventDraw) :
    app.serve s (.createApiKey header name role key event) =
      match s.authorized app.hashKey .manageApiKeys header with
      | .error e => (.error e, s)
      | .ok context =>
        if rolePermissions role ⊆ rolePermissions context.role then
          (.ok (.apiKeyCreated (.ofApiKey (app.issuedKey context name role key))
              (generateRawKey key.token)),
            (s.createApiKey (app.issuedKey context name role key)).appendAudit
              (issuedEvent context (app.issuedKey context name role key) event))
        else (.error (escalation context role), s) := by
  rw [serve, respond, run_guarded]
  cases s.authorized app.hashKey .manageApiKeys header with
  | error e => rfl
  | ok context =>
    dsimp only
    split
    · rename_i hrole
      exact run_createApiKeyEndpoint app.hashKey app.order s name role key event context hrole
    · rename_i hrole
      rw [createApiKeyEndpoint, if_pos hrole]
      rfl

/-- A listing shows the caller's tenant's keys. -/
theorem serve_listApiKeys (header : Option Text) :
    app.serve s (.listApiKeys header) =
      match s.authorized app.hashKey .manageApiKeys header with
      | .error e => (.error e, s)
      | .ok context =>
        (.ok (.apiKeys ((s.listing app.order context.tenantId).map .ofApiKey)), s) := by
  rw [serve, respond, run_guarded]
  cases s.authorized app.hashKey .manageApiKeys header with
  | error e => rfl
  | ok context =>
    dsimp only
    rw [run_bind, run_listByTenant]
    rfl

/-- A revocation succeeds for a key of the caller's tenant. -/
theorem serve_revokeApiKey (header : Option Text) (lookupPrefix : Text) (event : EventDraw) :
    app.serve s (.revokeApiKey header lookupPrefix event) =
      match s.authorized app.hashKey .manageApiKeys header with
      | .error e => (.error e, s)
      | .ok context =>
        match (s.apiKey lookupPrefix).filter fun key => key.tenantId = context.tenantId with
        | none => (.error (keyNotFound lookupPrefix), s)
        | some key =>
          (.ok (.apiKeyRevoked (.ofApiKey key.revoke)),
            (s.saveApiKey key.revoke).appendAudit
              (revokedEvent context lookupPrefix event)) := by
  rw [serve, respond, run_guarded]
  cases s.authorized app.hashKey .manageApiKeys header with
  | error e => rfl
  | ok context =>
    dsimp only
    cases hkey : s.apiKey lookupPrefix with
    | none => exact run_revokeApiKeyEndpoint_notFound app.order s (by simp [hkey]) event
    | some key =>
      rw [Option.filter_some]
      by_cases htenant : key.tenantId = context.tenantId
      · rw [if_pos (decide_eq_true htenant)]
        exact run_revokeApiKeyEndpoint app.order s hkey htenant event
      · rw [if_neg (by simpa using htenant)]
        refine run_revokeApiKeyEndpoint_notFound app.order s ?_ event
        intro other hother
        rw [hkey] at hother
        cases hother
        exact htenant

/-- The audit log shows the caller's tenant's events. -/
theorem serve_listAudit (header : Option Text) (limit : ℤ) :
    app.serve s (.listAudit header limit) =
      match s.authorized app.hashKey .viewAudit header with
      | .error e => (.error e, s)
      | .ok context =>
        if isIndex (limit - 1) then
          (.ok (.audit (listRange 0 (limit - 1) (s.audit context.tenantId))), s)
        else (.error .response, s) := by
  rw [serve, respond, run_guarded]
  cases s.authorized app.hashKey .viewAudit header with
  | error e => rfl
  | ok context =>
    dsimp only
    rw [run_bind, run_listForTenant]
    cases isIndex (limit - 1) with
    | false => rfl
    | true => rfl

/-- The usage shows the caller's tenant's requests of the day. -/
theorem serve_getUsage (header : Option Text) (now : Time) :
    app.serve s (.getUsage header now) =
      match s.authorized app.hashKey .viewUsage header with
      | .error e => (.error e, s)
      | .ok context =>
        (.ok (.usage ⟨context.tenantId,
          ((s.counter (.daily context.tenantId (day now))).map Counter.count).getD 0,
          app.dailyRequestQuota, app.rateLimitPerMinute⟩), s) := by
  rw [serve, respond, run_guarded]
  cases s.authorized app.hashKey .viewUsage header with
  | error e => rfl
  | ok context => rfl

theorem run_getOrganizations (order : SetOrder) (ids : List UUID) :
    (OrganizationRepository.getEach ids).run (EnterpriseStore.exec order) s =
      (ids.filterMap s.organizations, s) := by
  induction ids with
  | nil => rfl
  | cons id rest ih =>
    rw [OrganizationRepository.getEach, perform_bind, run_request, run_bind]
    show (_ ++ ((OrganizationRepository.getEach rest).run (EnterpriseStore.exec order) s).1,
      ((OrganizationRepository.getEach rest).run (EnterpriseStore.exec order) s).2) = _
    rw [ih]
    cases horganization : s.organizations id with
    | none => simp [EnterpriseStore.exec, horganization]
    | some organization => simp [EnterpriseStore.exec, horganization]

/-- An owner sees every organization. -/
theorem serve_listOrganizations (header : Option Text) :
    app.serve s (.listOrganizations header) =
      match s.authorized app.hashKey .manageOrganization header with
      | .error e => (.error e, s)
      | .ok _ =>
        (.ok (.organizations
          ((app.order.arrange s.organizationIds).filterMap s.organizations)), s) := by
  rw [serve, respond, run_guarded]
  cases s.authorized app.hashKey .manageOrganization header with
  | error e => rfl
  | ok context =>
    dsimp only
    rw [OrganizationRepository.listOrganizations, perform_bind, request_bind, run_request,
      run_bind, run_getOrganizations]
    rfl

end EnterpriseApp

/-! ### What serving does -/

/-- The request only reads. -/
def EnterpriseRequest.reads : EnterpriseRequest → Bool
  | .listOrganizations _ => true
  | .listApiKeys _ => true
  | .listAudit _ _ => true
  | .getUsage _ _ => true
  | _ => false

/-- The raw key that a response reveals. -/
def EnterpriseResponse.rawKey : EnterpriseResponse → Option Text
  | .organizationCreated _ _ _ key => some key
  | .apiKeyCreated _ key => some key
  | _ => none

/-- Serving a request refuses it, answers it from what is stored, creates an organization,
issues a key or revokes one. -/
inductive Served (app : EnterpriseApp) (s : EnterpriseStore) :
    EnterpriseRequest → Answer EnterpriseResponse → EnterpriseStore → Prop
  | refused (request : EnterpriseRequest) (e : EnterpriseException) :
      Served app s request (.error e) s
  | answered (request : EnterpriseRequest) (response : EnterpriseResponse)
      (hreads : request.reads = true) (hsecret : response.rawKey = none) :
      Served app s request (.ok response) s
  | bootstrapped (name : Name) (draw : OrganizationDraw) (key : KeyDraw) :
      Served app s (.createOrganization name draw key)
        (.ok (.organizationCreated (newOrganization name draw) (defaultTenant draw)
          (.ofApiKey (app.ownerKey draw key)) (generateRawKey key.token)))
        ((s.bootstrap name draw).createApiKey (app.ownerKey draw key))
  | issued (header : Option Text) (name : Name) (role : Role) (key : KeyDraw) (event : EventDraw)
      (context : AuthContext)
      (hcontext : s.authorized app.hashKey .manageApiKeys header = .ok context)
      (hrole : rolePermissions role ⊆ rolePermissions context.role) :
      Served app s (.createApiKey header name role key event)
        (.ok (.apiKeyCreated (.ofApiKey (app.issuedKey context name role key))
          (generateRawKey key.token)))
        ((s.createApiKey (app.issuedKey context name role key)).appendAudit
          (issuedEvent context (app.issuedKey context name role key) event))
  | revoked (header : Option Text) (lookupPrefix : Text) (event : EventDraw)
      (context : AuthContext) (key : ApiKey)
      (hcontext : s.authorized app.hashKey .manageApiKeys header = .ok context)
      (hkey : s.apiKey lookupPrefix = some key) (htenant : key.tenantId = context.tenantId) :
      Served app s (.revokeApiKey header lookupPrefix event)
        (.ok (.apiKeyRevoked (.ofApiKey key.revoke)))
        ((s.saveApiKey key.revoke).appendAudit (revokedEvent context lookupPrefix event))

/-- **What a request does**, whatever it is and whoever makes it. -/
theorem served_serve (app : EnterpriseApp) (s : EnterpriseStore) (request : EnterpriseRequest) :
    Served app s request (app.serve s request).1 (app.serve s request).2 := by
  cases request with
  | createOrganization name draw key => exact .bootstrapped name draw key
  | listOrganizations header =>
    rw [app.serve_listOrganizations]
    split
    · exact .refused _ _
    · exact .answered _ _ rfl rfl
  | createApiKey header name role key event =>
    rw [app.serve_createApiKey]
    split
    · exact .refused _ _
    · rename_i context hcontext
      split
      · rename_i hrole
        exact .issued header name role key event context hcontext hrole
      · exact .refused _ _
  | listApiKeys header =>
    rw [app.serve_listApiKeys]
    split
    · exact .refused _ _
    · exact .answered _ _ rfl rfl
  | revokeApiKey header lookupPrefix event =>
    rw [app.serve_revokeApiKey]
    split
    · exact .refused _ _
    · rename_i context hcontext
      split
      · exact .refused _ _
      · rename_i key hkey
        rw [Option.filter_eq_some_iff] at hkey
        exact .revoked header lookupPrefix event context key hcontext hkey.1 (by simpa using hkey.2)
  | listAudit header limit =>
    rw [app.serve_listAudit]
    split
    · exact .refused _ _
    · split
      · exact .answered _ _ rfl rfl
      · exact .refused _ _
  | getUsage header now =>
    rw [app.serve_getUsage]
    split
    · exact .refused _ _
    · exact .answered _ _ rfl rfl

/-- A request that is refused writes nothing. -/
theorem eq_of_error {app : EnterpriseApp} {s : EnterpriseStore} {request : EnterpriseRequest}
    {e : EnterpriseException} (h : (app.serve s request).1 = .error e) :
    (app.serve s request).2 = s := by
  have hserved := served_serve app s request
  rw [h] at hserved
  generalize (app.serve s request).2 = s' at hserved
  cases hserved
  rfl

/-- The store after some requests, the first of them first. -/
def EnterpriseApp.serveAll (app : EnterpriseApp) (requests : List EnterpriseRequest)
    (s : EnterpriseStore) : EnterpriseStore :=
  requests.foldl (fun s request => (app.serve s request).2) s

end ProductIntelligence
