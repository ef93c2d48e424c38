import Mathlib.Data.Finset.Insert
import ProductIntelligence.Jobs.Job
import ProductIntelligence.Text.Unicode

/-!
# Roles and records of the enterprise layer

The permissions a role grants, and the records the enterprise layer stores: organizations,
tenants, API keys and audit events.  A raw key is never stored, only its hash and its first
twelve characters, under which the record is found again.

## Main definitions

* `Permission`, `Role`, `rolePermissions` — what a role may do.
* `ApiKey`, `AuthContext`, `AuditEvent`, `Organization`, `Tenant` — the records.
* `generateRawKey`, `keyPrefix` — a raw key and its visible part.

## References

`backend/app/models/role.py`, `backend/app/models/api_key.py`,
`backend/app/models/audit_event.py`, `backend/app/models/organization.py`,
`backend/app/services/enterprise/api_keys.py`.
-/

namespace ProductIntelligence

/-! ### Roles -/

/-- A capability an endpoint can require. -/
inductive Permission
  | manageOrganization
  | manageApiKeys
  | viewAudit
  | viewUsage
  | write
  | read
  deriving DecidableEq

/-- The role of an API key. -/
inductive Role
  | owner
  | admin
  | member
  | viewer
  deriving DecidableEq

/-- The text of a permission. -/
def Permission.value : Permission → Text
  | .manageOrganization => "manage_organization".toList
  | .manageApiKeys => "manage_api_keys".toList
  | .viewAudit => "view_audit".toList
  | .viewUsage => "view_usage".toList
  | .write => "write".toList
  | .read => "read".toList

/-- The text of a role. -/
def Role.value : Role → Text
  | .owner => "owner".toList
  | .admin => "admin".toList
  | .member => "member".toList
  | .viewer => "viewer".toList

/-- Every permission there is. -/
def allPermissions : Finset Permission :=
  {.manageOrganization, .manageApiKeys, .viewAudit, .viewUsage, .write, .read}

/-- `ROLE_PERMISSIONS`. -/
def rolePermissions : Role → Finset Permission
  | .viewer => {.read}
  | .member => {.read, .write}
  | .admin => {.read, .write, .manageApiKeys, .viewAudit, .viewUsage}
  | .owner => allPermissions

/-- `role_has_permission`. -/
def roleHasPermission (role : Role) (permission : Permission) : Bool :=
  permission ∈ rolePermissions role

/-! ### Raw keys -/

/-- `generate_raw_key`: the random token behind a fixed opening. -/
def generateRawKey (token : Text) : Text := "pik_".toList ++ token

/-- `key_prefix`: the visible part of a raw key. -/
def keyPrefix (rawKey : Text) : Text := rawKey.take 12

theorem generateRawKey_ne_nil (token : Text) : generateRawKey token ≠ [] := by
  intro h
  cases h

/-! ### Records -/

/-- A name of one to two hundred characters. -/
abbrev Name := {text : Text // text ≠ [] ∧ text.length ≤ 200}

/-- A stored API key. -/
structure ApiKey where
  id : UUID
  organizationId : UUID
  tenantId : UUID
  name : Name
  role : Role
  lookupPrefix : Text
  keyHash : Text
  revoked : Bool
  createdAt : Time
  deriving DecidableEq

/-- The identity behind a request. -/
structure AuthContext where
  organizationId : UUID
  tenantId : UUID
  role : Role
  apiKeyId : UUID
  apiKeyPrefix : Text
  deriving DecidableEq

/-- The identity a stored key stands for. -/
def ApiKey.context (key : ApiKey) : AuthContext where
  organizationId := key.organizationId
  tenantId := key.tenantId
  role := key.role
  apiKeyId := key.id
  apiKeyPrefix := key.lookupPrefix

/-- An entry of an audit log. -/
structure AuditEvent where
  id : UUID
  tenantId : UUID
  actor : Text
  action : Text
  resource : Option Text
  metadata : List (Text × Text)
  createdAt : Time
  deriving DecidableEq

/-- An account. -/
structure Organization where
  id : UUID
  name : Name
  createdAt : Time
  deriving DecidableEq

/-- An isolation boundary within an organization. -/
structure Tenant where
  id : UUID
  organizationId : UUID
  name : Text
  createdAt : Time
  deriving DecidableEq

end ProductIntelligence
