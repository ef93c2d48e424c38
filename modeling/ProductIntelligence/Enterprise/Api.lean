import ProductIntelligence.Enterprise.Repositories

/-!
# The enterprise API

Authentication, the permission guard and the endpoints.  A request is answered by a program
over the store; what it draws at random or reads off the clock is part of the request.

## Main definitions

* `AuthenticationService` — resolving a raw key, and issuing one.
* `requirePermission`, `EnterpriseRequest`, `EnterpriseApp.respond` — the guard, the requests
  and how each is answered.
* `EnterpriseStore.authenticated`, `EnterpriseStore.authorized` — the answers of authentication
  and of the guard, as functions of the store.

## Main results

* `authenticated_eq_ok` — which raw keys authenticate, and as whom.
* `run_guarded`, `run_createApiKeyEndpoint`, `run_revokeApiKeyEndpoint` — what the endpoints do to
  the store.

## References

`backend/app/services/enterprise/authentication_service.py`,
`backend/app/dependencies/enterprise.py`, `backend/app/api/enterprise.py`,
`backend/app/schemas/enterprise.py`.
-/

namespace ProductIntelligence

open Effects Program

/-- The errors of the enterprise layer, by their status. -/
inductive EnterpriseException
  /-- `AuthenticationException`, 401. -/
  | authentication (message : Text)
  /-- `AuthorizationException`, 403. -/
  | authorization (message : Text)
  /-- `ResourceNotFoundException`, 404. -/
  | resourceNotFound (message : Text)
  /-- `QuotaExceededException`, 429. -/
  | quotaExceeded (message : Text)
  /-- `AssertionError`. -/
  | assertion
  /-- `ResponseError` of Redis. -/
  | response
  deriving DecidableEq

/-- What a program of the enterprise layer answers. -/
abbrev Answer (α : Type) := Except EnterpriseException α

/-! ### Authentication -/

/-- What is drawn for a new key. -/
structure KeyDraw where
  token : Text
  id : UUID
  createdAt : Time
  deriving DecidableEq

/-- The record of a new key. -/
def newApiKey (hashKey : Text → Text) (organizationId tenantId : UUID) (name : Name) (role : Role)
    (draw : KeyDraw) : ApiKey where
  id := draw.id
  organizationId := organizationId
  tenantId := tenantId
  name := name
  role := role
  lookupPrefix := keyPrefix (generateRawKey draw.token)
  keyHash := hashKey (generateRawKey draw.token)
  revoked := false
  createdAt := draw.createdAt

/-- The answer to a request without a key. -/
def noKey : EnterpriseException := .authentication "No API key was provided.".toList

/-- The answer to a request whose key is not accepted. -/
def invalidKey : EnterpriseException :=
  .authentication "The API key is invalid or has been revoked.".toList

namespace AuthenticationService

/-- `authenticate`: look up the record by the prefix and compare the hashes. -/
def authenticate (hashKey : Text → Text) (rawKey : Option Text) :
    EnterpriseProgram (Answer AuthContext) :=
  if rawKey.getD [] = [] then return .error noKey
  else do
    match ← ApiKeyRepository.getByPrefix (keyPrefix (rawKey.getD [])) with
    | none => return .error invalidKey
    | some key =>
      if key.revoked then return .error invalidKey
      else if hashKey (rawKey.getD []) ≠ key.keyHash then return .error invalidKey
      else return .ok key.context

/-- `create_api_key`: the stored record and the raw key. -/
def createApiKey (hashKey : Text → Text) (organizationId tenantId : UUID) (name : Name)
    (role : Role) (draw : KeyDraw) : EnterpriseProgram (ApiKey × Text) := do
  let key := newApiKey hashKey organizationId tenantId name role draw
  ApiKeyRepository.create key
  return (key, generateRawKey draw.token)

end AuthenticationService

/-! ### The guard -/

/-- `require_permission`: authenticate, then check the role. -/
def requirePermission (hashKey : Text → Text) (permission : Permission) (header : Option Text) :
    EnterpriseProgram (Answer AuthContext) := do
  match ← AuthenticationService.authenticate hashKey header with
  | .error e => return .error e
  | .ok context =>
    if roleHasPermission context.role permission then return .ok context
    else return .error (.authorization ("Role '".toList ++ context.role.value ++
      "' lacks the '".toList ++ permission.value ++ "' permission.".toList))

/-- An endpoint behind the guard. -/
def guarded {α : Type} (hashKey : Text → Text) (permission : Permission) (header : Option Text)
    (endpoint : AuthContext → EnterpriseProgram (Answer α)) : EnterpriseProgram (Answer α) := do
  match ← requirePermission hashKey permission header with
  | .error e => return .error e
  | .ok context => endpoint context

/-! ### The endpoints -/

/-- The view of a key: its metadata. -/
structure ApiKeyInfo where
  id : UUID
  tenantId : UUID
  name : Name
  role : Text
  lookupPrefix : Text
  revoked : Bool
  createdAt : Time
  deriving DecidableEq

/-- `from_api_key`. -/
def ApiKeyInfo.ofApiKey (key : ApiKey) : ApiKeyInfo where
  id := key.id
  tenantId := key.tenantId
  name := key.name
  role := key.role.value
  lookupPrefix := key.lookupPrefix
  revoked := key.revoked
  createdAt := key.createdAt

/-- A tenant's usage and its limits. -/
structure UsageResponse where
  tenantId : UUID
  requestsToday : ℕ
  dailyRequestQuota : ℕ
  rateLimitPerMinute : ℕ
  deriving DecidableEq

/-- What the endpoints return.  The views of organizations, tenants and audit events have the
fields of the records. -/
inductive EnterpriseResponse
  | organizationCreated (organization : Organization) (tenant : Tenant) (apiKey : ApiKeyInfo)
    (key : Text)
  | organizations (organizations : List Organization)
  | apiKeyCreated (apiKey : ApiKeyInfo) (key : Text)
  | apiKeys (apiKeys : List ApiKeyInfo)
  | apiKeyRevoked (apiKey : ApiKeyInfo)
  | audit (events : List AuditEvent)
  | usage (response : UsageResponse)
  deriving DecidableEq

/-- What is drawn for a new audit event. -/
structure EventDraw where
  id : UUID
  createdAt : Time
  deriving DecidableEq

/-- The requests: the header with the raw key, the body, and what the request draws. -/
inductive EnterpriseRequest
  | createOrganization (name : Name) (draw : OrganizationDraw) (key : KeyDraw)
  | listOrganizations (header : Option Text)
  | createApiKey (header : Option Text) (name : Name) (role : Role) (key : KeyDraw)
    (event : EventDraw)
  | listApiKeys (header : Option Text)
  | revokeApiKey (header : Option Text) (lookupPrefix : Text) (event : EventDraw)
  | listAudit (header : Option Text) (limit : ℤ)
  | getUsage (header : Option Text) (now : Time)
  deriving DecidableEq

/-- The name of the bootstrap key. -/
def ownerName : Name := ⟨"owner".toList, by decide⟩

/-- `create_organization`: the bootstrap, which is open. -/
def createOrganizationEndpoint (hashKey : Text → Text) (name : Name) (draw : OrganizationDraw)
    (keyDraw : KeyDraw) : EnterpriseProgram (Answer EnterpriseResponse) := do
  let (organization, tenant) ← OrganizationRepository.createOrganization name draw
  let (key, rawKey) ← AuthenticationService.createApiKey hashKey organization.id tenant.id
    ownerName .owner keyDraw
  return .ok (.organizationCreated organization tenant (.ofApiKey key) rawKey)

/-- The event of an issued key. -/
def issuedEvent (context : AuthContext) (key : ApiKey) (draw : EventDraw) : AuditEvent where
  id := draw.id
  tenantId := context.tenantId
  actor := context.apiKeyPrefix
  action := "create_api_key".toList
  resource := some key.lookupPrefix
  metadata := [("role".toList, key.role.value)]
  createdAt := draw.createdAt

/-- The event of a revoked key. -/
def revokedEvent (context : AuthContext) (lookupPrefix : Text) (draw : EventDraw) :
    AuditEvent where
  id := draw.id
  tenantId := context.tenantId
  actor := context.apiKeyPrefix
  action := "revoke_api_key".toList
  resource := some lookupPrefix
  metadata := []
  createdAt := draw.createdAt

/-- The answer to a caller who asks for a role above its own. -/
def escalation (context : AuthContext) (role : Role) : EnterpriseException :=
  .authorization ("Role '".toList ++ context.role.value ++
    "' cannot create a key with the higher role '".toList ++ role.value ++ "'.".toList)

/-- `create_api_key`: a key of the caller's tenant whose role the caller's role covers. -/
def createApiKeyEndpoint (hashKey : Text → Text) (name : Name) (role : Role) (keyDraw : KeyDraw)
    (eventDraw : EventDraw) (context : AuthContext) :
    EnterpriseProgram (Answer EnterpriseResponse) :=
  if ¬ rolePermissions role ⊆ rolePermissions context.role then
    return .error (escalation context role)
  else do
    let (key, rawKey) ← AuthenticationService.createApiKey hashKey context.organizationId
      context.tenantId name role keyDraw
    AuditRepository.append (issuedEvent context key eventDraw)
    return .ok (.apiKeyCreated (.ofApiKey key) rawKey)

/-- The answer for a prefix under which the caller's tenant has no key. -/
def keyNotFound (lookupPrefix : Text) : EnterpriseException :=
  .resourceNotFound ("API key '".toList ++ lookupPrefix ++ "' was not found.".toList)

/-- `revoke_api_key`: only a key of the caller's tenant. -/
def revokeApiKeyEndpoint (lookupPrefix : Text) (eventDraw : EventDraw) (context : AuthContext) :
    EnterpriseProgram (Answer EnterpriseResponse) := do
  match ← ApiKeyRepository.getByPrefix lookupPrefix with
  | none => return .error (keyNotFound lookupPrefix)
  | some existing =>
    if existing.tenantId ≠ context.tenantId then return .error (keyNotFound lookupPrefix)
    else do
      match ← ApiKeyRepository.revoke lookupPrefix with
      | none => return .error .assertion
      | some revoked =>
        AuditRepository.append (revokedEvent context lookupPrefix eventDraw)
        return .ok (.apiKeyRevoked (.ofApiKey revoked))

/-- A deployment: the hash of raw keys, the order of sets and the configured limits. -/
structure EnterpriseApp where
  hashKey : Text → Text
  order : SetOrder
  dailyRequestQuota : ℕ
  rateLimitPerMinute : ℕ

namespace EnterpriseApp

/-- How a request is answered. -/
def respond (app : EnterpriseApp) :
    EnterpriseRequest → EnterpriseProgram (Answer EnterpriseResponse)
  | .createOrganization name draw key => createOrganizationEndpoint app.hashKey name draw key
  | .listOrganizations header =>
    guarded app.hashKey .manageOrganization header fun _ => do
      let organizations ← OrganizationRepository.listOrganizations
      return .ok (.organizations organizations)
  | .createApiKey header name role key event =>
    guarded app.hashKey .manageApiKeys header
      (createApiKeyEndpoint app.hashKey name role key event)
  | .listApiKeys header =>
    guarded app.hashKey .manageApiKeys header fun context => do
      let keys ← ApiKeyRepository.listByTenant context.tenantId
      return .ok (.apiKeys (keys.map .ofApiKey))
  | .revokeApiKey header lookupPrefix event =>
    guarded app.hashKey .manageApiKeys header (revokeApiKeyEndpoint lookupPrefix event)
  | .listAudit header limit =>
    guarded app.hashKey .viewAudit header fun context => do
      match ← AuditRepository.listForTenant context.tenantId limit with
      | none => return .error .response
      | some events => return .ok (.audit events)
  | .getUsage header now =>
    guarded app.hashKey .viewUsage header fun context => do
      let requestsToday ← QuotaRepository.usage context.tenantId now
      return .ok (.usage ⟨context.tenantId, requestsToday, app.dailyRequestQuota,
        app.rateLimitPerMinute⟩)

/-- A request served from end to end: the answer and the store it leaves. -/
def serve (app : EnterpriseApp) (s : EnterpriseStore) (request : EnterpriseRequest) :
    Answer EnterpriseResponse × EnterpriseStore :=
  (app.respond request).run (EnterpriseStore.exec app.order) s

end EnterpriseApp

/-! ### What the endpoints do -/

section Runs

variable (hashKey : Text → Text) (order : SetOrder) (s : EnterpriseStore)

/-- What authentication answers for a raw key. -/
def EnterpriseStore.authenticated (rawKey : Option Text) : Answer AuthContext :=
  if rawKey.getD [] = [] then .error noKey
  else
    match s.apiKey (keyPrefix (rawKey.getD [])) with
    | none => .error invalidKey
    | some key =>
      if key.revoked then .error invalidKey
      else if hashKey (rawKey.getD []) ≠ key.keyHash then .error invalidKey
      else .ok key.context

/-- What the guard answers for a raw key. -/
def EnterpriseStore.authorized (permission : Permission) (header : Option Text) :
    Answer AuthContext :=
  match s.authenticated hashKey header with
  | .error e => .error e
  | .ok context =>
    if roleHasPermission context.role permission then .ok context
    else .error (.authorization ("Role '".toList ++ context.role.value ++
      "' lacks the '".toList ++ permission.value ++ "' permission.".toList))

/-- Authentication only reads. -/
theorem run_authenticate (rawKey : Option Text) :
    (AuthenticationService.authenticate hashKey rawKey).run (EnterpriseStore.exec order) s =
      (s.authenticated hashKey rawKey, s) := by
  unfold AuthenticationService.authenticate EnterpriseStore.authenticated
  by_cases hempty : rawKey.getD [] = []
  · rw [if_pos hempty, if_pos hempty]
    rfl
  · rw [if_neg hempty, if_neg hempty, ApiKeyRepository.getByPrefix, perform_bind, run_request]
    dsimp only [EnterpriseStore.exec]
    cases s.apiKey (keyPrefix (rawKey.getD [])) with
    | none => rfl
    | some key =>
      dsimp only
      split
      · rfl
      · split <;> rfl

/-- **Which raw keys authenticate**: those whose prefix leads to an active record of their
hash, and as whoever that record is for. -/
theorem authenticated_eq_ok {rawKey : Option Text} {context : AuthContext} :
    s.authenticated hashKey rawKey = .ok context ↔
      ∃ raw key, rawKey = some raw ∧ raw ≠ [] ∧ s.apiKey (keyPrefix raw) = some key ∧
        key.revoked = false ∧ hashKey raw = key.keyHash ∧ key.context = context := by
  unfold EnterpriseStore.authenticated
  constructor
  · intro h
    split at h
    · cases h
    · rename_i hne
      obtain ⟨raw, rfl⟩ : ∃ raw, rawKey = some raw := by
        cases rawKey with
        | none => exact absurd rfl hne
        | some raw => exact ⟨raw, rfl⟩
      split at h
      · cases h
      · rename_i key hkey
        split at h
        · cases h
        · rename_i hactive
          split at h
          · cases h
          · rename_i hhash
            exact ⟨raw, key, rfl, hne, hkey, by simpa using hactive, by simpa using hhash,
              Except.ok.inj h⟩
  · rintro ⟨raw, key, rfl, hne, hkey, hactive, hhash, rfl⟩
    simp [hne, hkey, hactive, hhash]

/-- Who passes the guard: an authenticated caller whose role has the permission. -/
theorem authorized_eq_ok {permission : Permission} {header : Option Text}
    {context : AuthContext} :
    s.authorized hashKey permission header = .ok context ↔
      s.authenticated hashKey header = .ok context ∧
        roleHasPermission context.role permission = true := by
  unfold EnterpriseStore.authorized
  cases s.authenticated hashKey header with
  | error e => simp
  | ok caller =>
    by_cases hrole : roleHasPermission caller.role permission = true
    · simp only [hrole, if_true, Except.ok.injEq]
      exact ⟨fun h => ⟨h, h ▸ hrole⟩, And.left⟩
    · simp only [hrole]
      constructor
      · intro h
        cases h
      · rintro ⟨h, hpermission⟩
        cases h
        exact absurd hpermission hrole

theorem run_requirePermission (permission : Permission) (header : Option Text) :
    (requirePermission hashKey permission header).run (EnterpriseStore.exec order) s =
      (s.authorized hashKey permission header, s) := by
  unfold requirePermission EnterpriseStore.authorized
  rw [run_bind, run_authenticate]
  cases s.authenticated hashKey header with
  | error e => rfl
  | ok context =>
    dsimp only
    split <;> rfl

/-- Behind the guard an endpoint runs for the caller the guard lets through. -/
theorem run_guarded {α : Type} (permission : Permission) (header : Option Text)
    (endpoint : AuthContext → EnterpriseProgram (Answer α)) :
    (guarded hashKey permission header endpoint).run (EnterpriseStore.exec order) s =
      match s.authorized hashKey permission header with
      | .error e => (.error e, s)
      | .ok context => (endpoint context).run (EnterpriseStore.exec order) s := by
  unfold guarded
  rw [run_bind, run_requirePermission]
  cases s.authorized hashKey permission header with
  | error e => rfl
  | ok context => rfl

/-- The service stores the record of the key it returns. -/
theorem run_createApiKey (organizationId tenantId : UUID) (name : Name) (role : Role)
    (draw : KeyDraw) :
    (AuthenticationService.createApiKey hashKey organizationId tenantId name role draw).run
        (EnterpriseStore.exec order) s =
      let key := newApiKey hashKey organizationId tenantId name role draw
      ((key, generateRawKey draw.token), s.createApiKey key) := rfl

/-- Issuing a key saves its record and records the event. -/
theorem run_createApiKeyEndpoint (name : Name) (role : Role) (keyDraw : KeyDraw)
    (eventDraw : EventDraw) (context : AuthContext)
    (hrole : rolePermissions role ⊆ rolePermissions context.role) :
    (createApiKeyEndpoint hashKey name role keyDraw eventDraw context).run
        (EnterpriseStore.exec order) s =
      let key := newApiKey hashKey context.organizationId context.tenantId name role keyDraw
      (.ok (.apiKeyCreated (.ofApiKey key) (generateRawKey keyDraw.token)),
        (s.createApiKey key).appendAudit (issuedEvent context key eventDraw)) := by
  rw [createApiKeyEndpoint, if_neg (not_not_intro hrole), run_bind, run_createApiKey]
  dsimp only
  rw [run_bind, run_append]
  rfl

/-- A prefix under which the caller's tenant has no key is answered the same whether another
tenant has one or nobody. -/
theorem run_revokeApiKeyEndpoint_notFound {lookupPrefix : Text} {context : AuthContext}
    (h : ∀ key, s.apiKey lookupPrefix = some key → key.tenantId ≠ context.tenantId)
    (eventDraw : EventDraw) :
    (revokeApiKeyEndpoint lookupPrefix eventDraw context).run (EnterpriseStore.exec order) s =
      (.error (keyNotFound lookupPrefix), s) := by
  rw [revokeApiKeyEndpoint, ApiKeyRepository.getByPrefix, perform_bind, run_request]
  dsimp only [EnterpriseStore.exec]
  cases hkey : s.apiKey lookupPrefix with
  | none => rfl
  | some key =>
    dsimp only
    rw [if_pos (h key hkey)]
    rfl

/-- Revoking a key of the caller's tenant sets its flag and records the event. -/
theorem run_revokeApiKeyEndpoint {lookupPrefix : Text} {context : AuthContext} {key : ApiKey}
    (hkey : s.apiKey lookupPrefix = some key) (htenant : key.tenantId = context.tenantId)
    (eventDraw : EventDraw) :
    (revokeApiKeyEndpoint lookupPrefix eventDraw context).run (EnterpriseStore.exec order) s =
      (.ok (.apiKeyRevoked (.ofApiKey key.revoke)),
        (s.saveApiKey key.revoke).appendAudit (revokedEvent context lookupPrefix eventDraw)) := by
  rw [revokeApiKeyEndpoint, ApiKeyRepository.getByPrefix, perform_bind, run_request]
  dsimp only [EnterpriseStore.exec]
  rw [hkey]
  dsimp only
  rw [if_neg (not_not_intro htenant), run_bind, run_revoke, hkey, Option.map_some]
  dsimp only
  rw [run_bind, run_append, EnterpriseStore.revokeApiKey, hkey]
  rfl

end Runs

end ProductIntelligence
