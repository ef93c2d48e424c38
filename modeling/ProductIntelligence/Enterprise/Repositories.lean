import ProductIntelligence.Enterprise.Store

/-!
# The repositories of the enterprise layer

Each repository method is a program that issues the commands of the source, in its order.
What is random or read off the clock, an id, a token, a time, is an argument.

## Main definitions

* `ApiKeyRepository`, `AuditRepository`, `OrganizationRepository`, `QuotaRepository` — the
  methods of each.
* `stored` — the records under some prefixes.

## Main results

* `run_listByTenant`, `run_revoke`, `run_append`, `run_create`, `run_listForTenant` — what each
  method does to the store.

## References

`backend/app/repositories/api_key_repository.py`, `backend/app/repositories/audit_repository.py`,
`backend/app/repositories/organization_repository.py`,
`backend/app/repositories/quota_repository.py`.
-/

namespace ProductIntelligence

open Effects Program

/-- Programs over the enterprise store. -/
abbrev EnterpriseProgram (α : Type) := Program EnterpriseStore.Reply α

/-- Issue one Redis command. -/
abbrev send (c : EnterpriseStore.Command) : EnterpriseProgram (EnterpriseStore.Reply c) :=
  perform c

/-! ### API keys -/

namespace ApiKeyRepository

/-- `create`: the record, then the tenant's index. -/
def create (key : ApiKey) : EnterpriseProgram Unit := do
  send (.setApiKey key)
  send (.saddTenantKey key.tenantId key.lookupPrefix)

/-- `get_by_prefix`. -/
def getByPrefix (lookupPrefix : Text) : EnterpriseProgram (Option ApiKey) :=
  send (.getApiKey lookupPrefix)

/-- The loop of `list_by_tenant`. -/
def getEach : List Text → EnterpriseProgram (List ApiKey)
  | [] => return []
  | lookupPrefix :: rest => do
    let key ← getByPrefix lookupPrefix
    let keys ← getEach rest
    return key.toList ++ keys

/-- `list_by_tenant`. -/
def listByTenant (tenantId : UUID) : EnterpriseProgram (List ApiKey) := do
  let prefixes ← send (.smembersTenantKeys tenantId)
  getEach prefixes

/-- `revoke`: save the record with its flag set. -/
def revoke (lookupPrefix : Text) : EnterpriseProgram (Option ApiKey) := do
  match ← getByPrefix lookupPrefix with
  | none => return none
  | some key =>
    send (.setApiKey { key with revoked := true })
    return some { key with revoked := true }

end ApiKeyRepository

/-! ### Audit -/

/-- `MAX_EVENTS_PER_TENANT`. -/
def maxEventsPerTenant : ℕ := 1000

namespace AuditRepository

/-- `append`: newest first, and no more than the cap. -/
def append (event : AuditEvent) : EnterpriseProgram Unit := do
  send (.lpushAudit event.tenantId event)
  send (.ltrimAudit event.tenantId 0 (maxEventsPerTenant - 1 : ℕ))

/-- `list_for_tenant`; nothing where Redis refuses the range. -/
def listForTenant (tenantId : UUID) (limit : ℤ) : EnterpriseProgram (Option (List AuditEvent)) :=
  send (.lrangeAudit tenantId 0 (limit - 1))

end AuditRepository

/-! ### Organizations -/

/-- What is drawn for a new organization and its default tenant. -/
structure OrganizationDraw where
  organizationId : UUID
  tenantId : UUID
  organizationCreatedAt : Time
  tenantCreatedAt : Time
  deriving DecidableEq

namespace OrganizationRepository

/-- `create_organization`: the organization and its default tenant. -/
def createOrganization (name : Name) (draw : OrganizationDraw) :
    EnterpriseProgram (Organization × Tenant) := do
  let organization : Organization := ⟨draw.organizationId, name, draw.organizationCreatedAt⟩
  let tenant : Tenant :=
    ⟨draw.tenantId, organization.id, "default".toList, draw.tenantCreatedAt⟩
  send (.setOrganization organization)
  send (.saddOrganization organization.id)
  send (.setTenant tenant)
  send (.saddTenant tenant.organizationId tenant.id)
  return (organization, tenant)

/-- The loop of `list_organizations`. -/
def getEach : List UUID → EnterpriseProgram (List Organization)
  | [] => return []
  | id :: rest => do
    let organization ← send (.getOrganization id)
    let organizations ← getEach rest
    return organization.toList ++ organizations

/-- `list_organizations`. -/
def listOrganizations : EnterpriseProgram (List Organization) := do
  let ids ← send .smembersOrganizations
  getEach ids

end OrganizationRepository

/-! ### Quotas -/

/-- The UTC day of a time. -/
def day (now : Time) : ℤ := ⌊now / 86400⌋

/-- The clock minute of a time. -/
def minute (now : Time) : ℤ := ⌊now / 60⌋

/-- `_DAILY_TTL_SECONDS`. -/
def dailyTtlSeconds : Time := 2 * 24 * 60 * 60

/-- `_MINUTE_TTL_SECONDS`. -/
def minuteTtlSeconds : Time := 120

namespace QuotaRepository

/-- `hit`: count one request for the day and for the minute. -/
def hit (tenantId : UUID) (now : Time) : EnterpriseProgram (ℕ × ℕ) := do
  let daily ← send (.incr (.daily tenantId (day now)))
  send (.expire (.daily tenantId (day now)) dailyTtlSeconds)
  let perMinute ← send (.incr (.minute tenantId (minute now)))
  send (.expire (.minute tenantId (minute now)) minuteTtlSeconds)
  return (daily, perMinute)

/-- `usage`: today's count. -/
def usage (tenantId : UUID) (now : Time) : EnterpriseProgram ℕ := do
  let count ← send (.getCounter (.daily tenantId (day now)))
  return count.getD 0

end QuotaRepository

/-! ### What the methods do -/

variable (order : SetOrder) (s : EnterpriseStore)

/-- The records under some prefixes. -/
def EnterpriseStore.stored (s : EnterpriseStore) (prefixes : List Text) : List ApiKey :=
  prefixes.filterMap s.apiKey

/-- The records of a tenant, as a listing returns them. -/
def EnterpriseStore.listing (order : SetOrder) (s : EnterpriseStore) (tenantId : UUID) :
    List ApiKey :=
  s.stored (order.arrange (s.tenantKeys tenantId))

/-- A listed record is stored under its own prefix. -/
theorem EnterpriseStore.apiKey_of_mem_listing {order : SetOrder} {s : EnterpriseStore}
    {tenantId : UUID} {key : ApiKey} (h : key ∈ s.listing order tenantId) :
    s.apiKey key.lookupPrefix = some key := by
  obtain ⟨lookupPrefix, -, hkey⟩ := List.mem_filterMap.1 h
  rw [EnterpriseStore.lookupPrefix_eq hkey, hkey]

/-- A record that the index of a tenant leads to is listed. -/
theorem EnterpriseStore.mem_listing (order : SetOrder) {s : EnterpriseStore} {tenantId : UUID}
    {lookupPrefix : Text} {key : ApiKey} (hindex : lookupPrefix ∈ s.tenantKeys tenantId)
    (hkey : s.apiKey lookupPrefix = some key) : key ∈ s.listing order tenantId :=
  List.mem_filterMap.2 ⟨lookupPrefix, (order.perm _).mem_iff.2 hindex, hkey⟩

theorem run_getEach (prefixes : List Text) :
    (ApiKeyRepository.getEach prefixes).run (EnterpriseStore.exec order) s =
      (s.stored prefixes, s) := by
  induction prefixes with
  | nil => rfl
  | cons lookupPrefix rest ih =>
    rw [ApiKeyRepository.getEach, ApiKeyRepository.getByPrefix, perform_bind, run_request, run_bind]
    show (_ ++ ((ApiKeyRepository.getEach rest).run (EnterpriseStore.exec order) s).1,
      ((ApiKeyRepository.getEach rest).run (EnterpriseStore.exec order) s).2) = _
    rw [ih]
    cases hkey : s.apiKey lookupPrefix with
    | none => simp [EnterpriseStore.stored, EnterpriseStore.exec, hkey]
    | some key => simp [EnterpriseStore.stored, EnterpriseStore.exec, hkey]

/-- A listing reads the records of the tenant's index. -/
theorem run_listByTenant (tenantId : UUID) :
    (ApiKeyRepository.listByTenant tenantId).run (EnterpriseStore.exec order) s =
      (s.listing order tenantId, s) :=
  run_getEach order s _

/-- The store after a key is created. -/
def EnterpriseStore.createApiKey (s : EnterpriseStore) (key : ApiKey) : EnterpriseStore :=
  { s.saveApiKey key with
    tenantKeys := Function.update s.tenantKeys key.tenantId
      (sadd key.lookupPrefix (s.tenantKeys key.tenantId)) }

/-- Creating a key saves its record and adds it to the tenant's index. -/
theorem run_create (key : ApiKey) :
    (ApiKeyRepository.create key).run (EnterpriseStore.exec order) s =
      ((), s.createApiKey key) := rfl

/-- A key with its flag set. -/
def ApiKey.revoke (key : ApiKey) : ApiKey := { key with revoked := true }

/-- The store after the key of a prefix is revoked. -/
def EnterpriseStore.revokeApiKey (s : EnterpriseStore) (lookupPrefix : Text) : EnterpriseStore :=
  match s.apiKey lookupPrefix with
  | none => s
  | some key => s.saveApiKey key.revoke

/-- Revoking a key sets the flag of its record, if there is one. -/
theorem run_revoke (lookupPrefix : Text) :
    (ApiKeyRepository.revoke lookupPrefix).run (EnterpriseStore.exec order) s =
      ((s.apiKey lookupPrefix).map ApiKey.revoke, s.revokeApiKey lookupPrefix) := by
  rw [ApiKeyRepository.revoke, ApiKeyRepository.getByPrefix, perform_bind, run_request]
  show (match s.apiKey lookupPrefix with
    | none => (pure none : EnterpriseProgram (Option ApiKey))
    | some key => _).run (EnterpriseStore.exec order) s = _
  unfold EnterpriseStore.revokeApiKey
  cases s.apiKey lookupPrefix with
  | none => rfl
  | some key => rfl

/-- The store after an event is recorded. -/
def EnterpriseStore.appendAudit (s : EnterpriseStore) (event : AuditEvent) : EnterpriseStore :=
  { s with
    audit := Function.update s.audit event.tenantId
      ((event :: s.audit event.tenantId).take maxEventsPerTenant) }

/-- Recording an event puts it first and drops those beyond the cap. -/
theorem run_append (event : AuditEvent) :
    (AuditRepository.append event).run (EnterpriseStore.exec order) s =
      ((), s.appendAudit event) := by
  have hrange : listRange 0 ((maxEventsPerTenant - 1 : ℕ) : ℤ) (event :: s.audit event.tenantId) =
      (event :: s.audit event.tenantId).take maxEventsPerTenant := listRange_zero _ _
  show ((), ({ s with
    audit := Function.update (Function.update s.audit event.tenantId
      (event :: s.audit event.tenantId)) event.tenantId (listRange 0 _
        (Function.update s.audit event.tenantId (event :: s.audit event.tenantId)
          event.tenantId)) } : EnterpriseStore)) = _
  rw [Function.update_self, Function.update_idem, hrange]
  rfl

/-- Listing events takes a range from the head of the tenant's log. -/
theorem run_listForTenant (tenantId : UUID) (limit : ℤ) :
    (AuditRepository.listForTenant tenantId limit).run (EnterpriseStore.exec order) s =
      (if isIndex (limit - 1) then some (listRange 0 (limit - 1) (s.audit tenantId)) else none,
        s) := rfl

end ProductIntelligence
