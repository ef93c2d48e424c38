import Mathlib.Data.Rat.Floor
import ProductIntelligence.Enterprise.Records
import ProductIntelligence.Lists.Keyed
import ProductIntelligence.Logic.Program

/-!
# The Redis structures of the enterprise layer

The keys the enterprise repositories use, as one store.  Each Redis command is one atomic
transition.  A set is kept in the order its members were added; the order in which `SMEMBERS`
returns them is left open.

## Main definitions

* `EnterpriseStore` — the store.
* `EnterpriseStore.Command`, `EnterpriseStore.exec` — the commands and what they do.
* `EnterpriseStore.apiKey` — the record under a prefix.
* `SetOrder` — an order in which the members of a set are returned.

## Main results

* `apiKey_saveApiKey_self`, `apiKey_saveApiKey_of_ne` — what saving a record changes.

## References

`backend/app/repositories/api_key_repository.py`, `backend/app/repositories/audit_repository.py`,
`backend/app/repositories/organization_repository.py`,
`backend/app/repositories/quota_repository.py`.
-/

namespace ProductIntelligence

open Effects

/-! ### Redis values -/

/-- `SADD`: a member is added once. -/
def sadd {α : Type} [DecidableEq α] (a : α) (l : List α) : List α := if a ∈ l then l else l ++ [a]

@[simp] theorem mem_sadd {α : Type} [DecidableEq α] {a b : α} {l : List α} :
    b ∈ sadd a l ↔ b = a ∨ b ∈ l := by
  unfold sadd
  split
  · rename_i h
    exact ⟨.inr, fun hb => hb.elim (fun hb => hb ▸ h) id⟩
  · rw [List.mem_append, List.mem_singleton, or_comm]

theorem nodup_sadd {α : Type} [DecidableEq α] {a : α} {l : List α} (h : l.Nodup) :
    (sadd a l).Nodup := by
  unfold sadd
  split
  · exact h
  · rename_i ha
    exact h.append (List.nodup_singleton a) (by simpa using ha)

/-- `LRANGE`: both ends count, and a negative index counts from the end. -/
def listRange {α : Type} (start stop : ℤ) (l : List α) : List α :=
  let first := if start < 0 then max 0 (start + l.length) else start
  let last := if stop < 0 then stop + l.length else stop
  if first ≤ last then (l.drop first.toNat).take (last - first + 1).toNat else []

/-- An index that Redis reads: an integer of 64 bits. -/
def isIndex (n : ℤ) : Bool := -9223372036854775808 ≤ n && n ≤ 9223372036854775807

/-- From the head, a range takes as many as it is long. -/
theorem listRange_zero {α : Type} (n : ℕ) (l : List α) : listRange 0 n l = l.take (n + 1) := by
  have hn : ¬ (n : ℤ) < 0 := by omega
  have hlength : ((n : ℤ) - 0 + 1).toNat = n + 1 := by omega
  simp [listRange, hn]

/-- An order in which the members of a set are returned. -/
structure SetOrder where
  arrange : {α : Type} → List α → List α
  perm : ∀ {α : Type} (l : List α), (arrange l).Perm l

/-- The order in which they were added. -/
def SetOrder.insertion : SetOrder := ⟨fun l => l, fun l => List.Perm.refl l⟩

/-- A counter and the time at which it expires. -/
structure Counter where
  count : ℕ
  expiresAt : Option Time
  deriving DecidableEq

/-- The counter has not expired. -/
def Counter.live (counter : Counter) (clock : Time) : Bool :=
  match counter.expiresAt with
  | none => true
  | some deadline => clock < deadline

/-- The keys of the request counters: a tenant and a day, or a tenant and a minute. -/
inductive CounterKey
  | daily (tenantId : UUID) (day : ℤ)
  | minute (tenantId : UUID) (minute : ℤ)
  deriving DecidableEq

/-! ### The store -/

/-- The store: `organization:{id}`, `organizations`, `tenant:{id}`,
`organization:{id}:tenants`, `apikey:prefix:{prefix}`, `tenant:{id}:apikeys`,
`tenant:{id}:audit`, newest first, the request counters and the server's clock. -/
structure EnterpriseStore where
  organizations : UUID → Option Organization
  organizationIds : List UUID
  tenants : UUID → Option Tenant
  tenantIds : UUID → List UUID
  apiKeys : List ApiKey
  tenantKeys : UUID → List Text
  audit : UUID → List AuditEvent
  counters : CounterKey → Option Counter
  clock : Time

namespace EnterpriseStore

/-- An empty store. -/
def empty : EnterpriseStore where
  organizations := fun _ => none
  organizationIds := []
  tenants := fun _ => none
  tenantIds := fun _ => []
  apiKeys := []
  tenantKeys := fun _ => []
  audit := fun _ => []
  counters := fun _ => none
  clock := 0

/-- The record under a prefix. -/
def apiKey (s : EnterpriseStore) (lookupPrefix : Text) : Option ApiKey :=
  Keyed.lookup ApiKey.lookupPrefix lookupPrefix s.apiKeys

/-- `_save`: the record goes under its prefix, whatever was there. -/
def saveApiKey (s : EnterpriseStore) (key : ApiKey) : EnterpriseStore :=
  { s with apiKeys := Keyed.update ApiKey.lookupPrefix key.lookupPrefix (fun _ => key) s.apiKeys }

/-- The counter of a key, unless it has expired. -/
def counter (s : EnterpriseStore) (key : CounterKey) : Option Counter :=
  (s.counters key).filter fun counter => counter.live s.clock

/-- The commands the repositories issue. -/
inductive Command
  | setOrganization (organization : Organization)
  | getOrganization (id : UUID)
  | saddOrganization (id : UUID)
  | smembersOrganizations
  | setTenant (tenant : Tenant)
  | saddTenant (organizationId tenantId : UUID)
  | setApiKey (key : ApiKey)
  | getApiKey (lookupPrefix : Text)
  | saddTenantKey (tenantId : UUID) (lookupPrefix : Text)
  | smembersTenantKeys (tenantId : UUID)
  | lpushAudit (tenantId : UUID) (event : AuditEvent)
  | ltrimAudit (tenantId : UUID) (start stop : ℤ)
  | lrangeAudit (tenantId : UUID) (start stop : ℤ)
  | incr (key : CounterKey)
  | expire (key : CounterKey) (seconds : Time)
  | getCounter (key : CounterKey)

/-- What each command replies; nothing, for a range whose ends are no indices. -/
abbrev Reply : Command → Type
  | .getOrganization _ => Option Organization
  | .smembersOrganizations => List UUID
  | .getApiKey _ => Option ApiKey
  | .smembersTenantKeys _ => List Text
  | .lrangeAudit _ _ _ => Option (List AuditEvent)
  | .incr _ => ℕ
  | .getCounter _ => Option ℕ
  | _ => Unit

/-- What each command does. -/
def exec (order : SetOrder) : Handler Reply EnterpriseStore
  | .setOrganization organization, s =>
    ((), { s with
      organizations := Function.update s.organizations organization.id (some organization) })
  | .getOrganization id, s => (s.organizations id, s)
  | .saddOrganization id, s => ((), { s with organizationIds := sadd id s.organizationIds })
  | .smembersOrganizations, s => (order.arrange s.organizationIds, s)
  | .setTenant tenant, s =>
    ((), { s with tenants := Function.update s.tenants tenant.id (some tenant) })
  | .saddTenant organizationId tenantId, s =>
    ((), { s with
      tenantIds := Function.update s.tenantIds organizationId
        (sadd tenantId (s.tenantIds organizationId)) })
  | .setApiKey key, s => ((), s.saveApiKey key)
  | .getApiKey lookupPrefix, s => (s.apiKey lookupPrefix, s)
  | .saddTenantKey tenantId lookupPrefix, s =>
    ((), { s with
      tenantKeys := Function.update s.tenantKeys tenantId
        (sadd lookupPrefix (s.tenantKeys tenantId)) })
  | .smembersTenantKeys tenantId, s => (order.arrange (s.tenantKeys tenantId), s)
  | .lpushAudit tenantId event, s =>
    ((), { s with audit := Function.update s.audit tenantId (event :: s.audit tenantId) })
  | .ltrimAudit tenantId start stop, s =>
    ((), { s with
      audit := Function.update s.audit tenantId (listRange start stop (s.audit tenantId)) })
  | .lrangeAudit tenantId start stop, s =>
    (if isIndex start && isIndex stop then some (listRange start stop (s.audit tenantId)) else none,
      s)
  | .incr key, s =>
    -- a counter that has expired is counted anew, without a deadline
    let counter : Counter := match s.counter key with
      | some counter => { counter with count := counter.count + 1 }
      | none => ⟨1, none⟩
    (counter.count, { s with counters := Function.update s.counters key (some counter) })
  | .expire key seconds, s =>
    ((), { s with
      counters := Function.update s.counters key
        ((s.counter key).map fun counter =>
          { counter with expiresAt := some (s.clock + seconds) }) })
  | .getCounter key, s => ((s.counter key).map Counter.count, s)

/-! ### Records -/

theorem preserves_key (key : ApiKey) :
    Keyed.Preserves ApiKey.lookupPrefix key.lookupPrefix fun _ => key := fun _ _ => rfl

/-- A record is found under its own prefix. -/
theorem lookupPrefix_eq {s : EnterpriseStore} {lookupPrefix : Text} {key : ApiKey}
    (h : s.apiKey lookupPrefix = some key) : key.lookupPrefix = lookupPrefix := by
  simpa using List.find?_some h

@[simp] theorem apiKey_saveApiKey_self (s : EnterpriseStore) (key : ApiKey) :
    (s.saveApiKey key).apiKey key.lookupPrefix = some key :=
  Keyed.lookup_update_self (preserves_key key) s.apiKeys

theorem apiKey_saveApiKey_of_ne (s : EnterpriseStore) (key : ApiKey) {lookupPrefix : Text}
    (h : lookupPrefix ≠ key.lookupPrefix) :
    (s.saveApiKey key).apiKey lookupPrefix = s.apiKey lookupPrefix :=
  Keyed.lookup_update_of_ne (preserves_key key) h s.apiKeys

/-- Saving a record that is there already changes nothing. -/
theorem saveApiKey_eq_self {s : EnterpriseStore} {key : ApiKey}
    (h : s.apiKey key.lookupPrefix = some key) : s.saveApiKey key = s := by
  have hkeys := Keyed.update_eq_self (f := fun _ => key) h rfl
  cases s
  simpa [saveApiKey] using hkeys

end EnterpriseStore

end ProductIntelligence
