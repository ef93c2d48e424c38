import ProductIntelligence.Enterprise.Store
import ProductIntelligence.Logic.Keyspace
import ProductIntelligence.Queue.Redis
import ProductIntelligence.Recommendation.Cache

/-!
# What is kept under each key

The queue, the enterprise repositories, the analytics and the cache of recommendations each have
keys of their own.  Every command looks at the contents of a few keys and replaces one; what it
replies is read off these contents.

## Main definitions

* `Redis.Key`, `Redis.Cell`, `Redis.content`, `Redis.access` — the keys of the queue, what may be
  kept there, what is, and how commands reach it.
* `EnterpriseStore.Key`, `AnalyticsStore.Key` and so on — the same for the other stores.

## Main results

* `Redis.serves`, `EnterpriseStore.serves`, `AnalyticsStore.serves`, `CacheStore.serves` — **each
  store answers commands by the contents of their keys**.

## References

`backend/app/queue/redis_queue.py`, `backend/app/repositories/organization_repository.py`,
`backend/app/repositories/api_key_repository.py`, `backend/app/repositories/audit_repository.py`,
`backend/app/repositories/quota_repository.py`, `backend/app/repositories/analytics_repository.py`,
`backend/app/repositories/recommendation_cache_repository.py`.
-/

namespace ProductIntelligence

open Effects

/-! ### The queue -/

namespace Redis

variable {P : Type}

/-- The keys of the queue. -/
inductive Key
  | pending
  | processing
  | delayed
  | deadLetter
  | job (jobId : UUID)
  | productJob (productId : UUID)
  deriving DecidableEq

/-- The key of a list. -/
def Key.ofList : ListKey → Key
  | .pending => .pending
  | .deadLetter => .deadLetter

/-- What may be kept: a list, a hash, a sorted set, the record of a job, or a text. -/
inductive Cell (P : Type)
  | list (ids : List UUID)
  | hash (entries : List (UUID × Time))
  | sortedSet (entries : List (UUID × Time))
  | record (job : Job P)
  | text (jobId : UUID)

namespace Cell

/-- Lists. -/
def lists : Format (List UUID) (Cell P) := ⟨.list, fun | .list ids => some ids | _ => none, fun _ => rfl⟩

/-- Hashes. -/
def hashes : Format (List (UUID × Time)) (Cell P) :=
  ⟨.hash, fun | .hash entries => some entries | _ => none, fun _ => rfl⟩

/-- Sorted sets. -/
def sortedSets : Format (List (UUID × Time)) (Cell P) :=
  ⟨.sortedSet, fun | .sortedSet entries => some entries | _ => none, fun _ => rfl⟩

/-- Records of jobs. -/
def records : Format (Job P) (Cell P) :=
  ⟨.record, fun | .record job => some job | _ => none, fun _ => rfl⟩

/-- Texts. -/
def texts : Format UUID (Cell P) := ⟨.text, fun | .text jobId => some jobId | _ => none, fun _ => rfl⟩

end Cell

/-- What is kept under a key. -/
def content (r : Redis P) : Key → Option (Cell P)
  | .pending => pack Cell.lists r.pending
  | .processing => pack Cell.hashes r.processing
  | .delayed => pack Cell.sortedSets r.delayed
  | .deadLetter => pack Cell.lists r.deadLetter
  | .job jobId => (r.jobs jobId).map Cell.records.write
  | .productJob productId => (r.productJob productId).map Cell.texts.write

/-- How commands reach the keys. -/
def access (P : Type) : Access (@Reply P) Time Key (Cell P) where
  reads
    | .time | .setJob _ | .setProductJob _ _ => []
    | .getJob id => [.job id]
    | .getProductJob productId => [.productJob productId]
    | .rpush key _ => [.ofList key]
    | .lpop => [.pending]
    | .lrange => [.deadLetter]
    | .hset _ _ | .hdel _ | .hgetall => [.processing]
    | .zadd _ _ | .zrem _ | .zrangebyscore _ _ => [.delayed]
  writes
    | .time | .getJob _ | .getProductJob _ | .lrange | .hgetall | .zrangebyscore _ _ => none
    | .setJob job => some (.job job.jobId)
    | .setProductJob productId _ => some (.productJob productId)
    | .rpush key _ => some (.ofList key)
    | .lpop => some .pending
    | .hset _ _ | .hdel _ => some .processing
    | .zadd _ _ | .zrem _ => some .delayed
  act
    | clock, .time, _ => some (clock, none)
    | _, .setJob job, _ => some ((), some (Cell.records.write job))
    | _, .setProductJob _ jobId, _ => some ((), some (Cell.texts.write jobId))
    | _, .getJob _, contents => do
      let job ← single Cell.records (contents.headD none)
      pure (job, none)
    | _, .getProductJob _, contents => do
      let jobId ← single Cell.texts (contents.headD none)
      pure (jobId, none)
    | _, .rpush _ id, contents => do
      let ids ← unpack Cell.lists (contents.headD none)
      pure ((), pack Cell.lists (ids ++ [id]))
    | _, .lpop, contents => do
      let ids ← unpack Cell.lists (contents.headD none)
      pure (ids.head?, pack Cell.lists ids.tail)
    | _, .lrange, contents => do
      let ids ← unpack Cell.lists (contents.headD none)
      pure (ids, none)
    | _, .hset id value, contents => do
      let entries ← unpack Cell.hashes (contents.headD none)
      pure ((), pack Cell.hashes (ProductIntelligence.hset id value entries))
    | _, .hdel id, contents => do
      let entries ← unpack Cell.hashes (contents.headD none)
      pure ((keys entries).count id, pack Cell.hashes (ProductIntelligence.hdel id entries))
    | _, .hgetall, contents => do
      let entries ← unpack Cell.hashes (contents.headD none)
      pure (entries, none)
    | _, .zadd id score, contents => do
      let entries ← unpack Cell.sortedSets (contents.headD none)
      pure ((), pack Cell.sortedSets (ProductIntelligence.zadd id score entries))
    | _, .zrem id, contents => do
      let entries ← unpack Cell.sortedSets (contents.headD none)
      pure ((keys entries).count id, pack Cell.sortedSets (ProductIntelligence.hdel id entries))
    | _, .zrangebyscore lo hi, contents => do
      let entries ← unpack Cell.sortedSets (contents.headD none)
      pure (ProductIntelligence.zrangebyscore lo hi entries, none)

/-- **The queue answers commands by the contents of their keys.** -/
theorem serves : (access P).Serves exec content clock where
  act c r := by
    cases c with
    | rpush key id => cases key <;> simp [access, exec, content, Key.ofList]
    | _ => simp [access, exec, content]
  frame c r key hkey := by
    cases c with
    | setJob job =>
      cases key with
      | job jobId =>
        have hne : jobId ≠ job.jobId := fun h => hkey (congrArg (some ∘ Key.job) h.symm)
        exact congrArg (Option.map _) (Function.update_of_ne hne _ _)
      | _ => rfl
    | setProductJob productId jobId =>
      cases key with
      | productJob own =>
        have hne : own ≠ productId := fun h => hkey (congrArg (some ∘ Key.productJob) h.symm)
        exact congrArg (Option.map _) (Function.update_of_ne hne _ _)
      | _ => rfl
    | rpush list id => cases list <;> cases key <;> first | rfl | exact absurd rfl hkey
    | lpop | hset | hdel | zadd | zrem => cases key <;> first | rfl | exact absurd rfl hkey
    | _ => rfl
  clock c r := by
    cases c with
    | rpush key id => cases key <;> rfl
    | _ => rfl

end Redis

/-! ### The enterprise repositories -/

namespace EnterpriseStore

/-- The keys of the enterprise repositories. -/
inductive Key
  | organizations
  | organization (organizationId : UUID)
  | organizationTenants (organizationId : UUID)
  | tenant (tenantId : UUID)
  | tenantApiKeys (tenantId : UUID)
  | tenantAudit (tenantId : UUID)
  | apiKey (lookupPrefix : Text)
  | counter (key : CounterKey)
  deriving DecidableEq

/-- What may be kept: a record, a set, a list, or a number with its deadline. -/
inductive Cell
  | organization (organization : Organization)
  | tenant (tenant : Tenant)
  | apiKey (key : ApiKey)
  | idSet (ids : List UUID)
  | textSet (texts : List Text)
  | events (events : List AuditEvent)
  | counter (counter : Counter)

namespace Cell

/-- Records of organizations. -/
def organizations : Format Organization Cell :=
  ⟨.organization, fun | .organization o => some o | _ => none, fun _ => rfl⟩

/-- Records of tenants. -/
def tenants : Format Tenant Cell :=
  ⟨.tenant, fun | .tenant t => some t | _ => none, fun _ => rfl⟩

/-- Records of API keys. -/
def apiKeys : Format ApiKey Cell := ⟨.apiKey, fun | .apiKey key => some key | _ => none, fun _ => rfl⟩

/-- Sets of ids. -/
def idSets : Format (List UUID) Cell := ⟨.idSet, fun | .idSet ids => some ids | _ => none, fun _ => rfl⟩

/-- Sets of texts. -/
def textSets : Format (List Text) Cell :=
  ⟨.textSet, fun | .textSet texts => some texts | _ => none, fun _ => rfl⟩

/-- Lists of audit events. -/
def eventLists : Format (List AuditEvent) Cell :=
  ⟨.events, fun | .events l => some l | _ => none, fun _ => rfl⟩

/-- Counters. -/
def counters : Format Counter Cell :=
  ⟨.counter, fun | .counter c => some c | _ => none, fun _ => rfl⟩

end Cell

/-- What is kept under a key. -/
def content (s : EnterpriseStore) : Key → Option Cell
  | .organizations => pack Cell.idSets s.organizationIds
  | .organization organizationId => (s.organizations organizationId).map Cell.organizations.write
  | .organizationTenants organizationId => pack Cell.idSets (s.tenantIds organizationId)
  | .tenant tenantId => (s.tenants tenantId).map Cell.tenants.write
  | .tenantApiKeys tenantId => pack Cell.textSets (s.tenantKeys tenantId)
  | .tenantAudit tenantId => pack Cell.eventLists (s.audit tenantId)
  | .apiKey lookupPrefix => (s.apiKey lookupPrefix).map Cell.apiKeys.write
  | .counter key => (s.counters key).map Cell.counters.write

/-- A counter, unless it has expired. -/
def current (clock : Time) (counter : Option Counter) : Option Counter :=
  counter.filter fun counter => counter.live clock

/-- How commands reach the keys. -/
def access (order : SetOrder) : Access Reply Time Key Cell where
  reads
    | .setOrganization _ | .setTenant _ | .setApiKey _ => []
    | .getOrganization id => [.organization id]
    | .saddOrganization _ | .smembersOrganizations => [.organizations]
    | .saddTenant organizationId _ => [.organizationTenants organizationId]
    | .getApiKey lookupPrefix => [.apiKey lookupPrefix]
    | .saddTenantKey tenantId _ | .smembersTenantKeys tenantId => [.tenantApiKeys tenantId]
    | .lpushAudit tenantId _ | .ltrimAudit tenantId _ _ | .lrangeAudit tenantId _ _ =>
      [.tenantAudit tenantId]
    | .incr key | .expire key _ | .getCounter key => [.counter key]
  writes
    | .getOrganization _ | .smembersOrganizations | .getApiKey _ | .smembersTenantKeys _
    | .lrangeAudit _ _ _ | .getCounter _ => none
    | .setOrganization organization => some (.organization organization.id)
    | .saddOrganization _ => some .organizations
    | .setTenant tenant => some (.tenant tenant.id)
    | .saddTenant organizationId _ => some (.organizationTenants organizationId)
    | .setApiKey key => some (.apiKey key.lookupPrefix)
    | .saddTenantKey tenantId _ => some (.tenantApiKeys tenantId)
    | .lpushAudit tenantId _ | .ltrimAudit tenantId _ _ => some (.tenantAudit tenantId)
    | .incr key | .expire key _ => some (.counter key)
  act
    | _, .setOrganization organization, _ => some ((), some (Cell.organizations.write organization))
    | _, .getOrganization _, contents => do
      let organization ← single Cell.organizations (contents.headD none)
      pure (organization, none)
    | _, .saddOrganization id, contents => do
      let ids ← unpack Cell.idSets (contents.headD none)
      pure ((), pack Cell.idSets (sadd id ids))
    | _, .smembersOrganizations, contents => do
      let ids ← unpack Cell.idSets (contents.headD none)
      pure (order.arrange ids, none)
    | _, .setTenant tenant, _ => some ((), some (Cell.tenants.write tenant))
    | _, .saddTenant _ tenantId, contents => do
      let ids ← unpack Cell.idSets (contents.headD none)
      pure ((), pack Cell.idSets (sadd tenantId ids))
    | _, .setApiKey key, _ => some ((), some (Cell.apiKeys.write key))
    | _, .getApiKey _, contents => do
      let key ← single Cell.apiKeys (contents.headD none)
      pure (key, none)
    | _, .saddTenantKey _ lookupPrefix, contents => do
      let texts ← unpack Cell.textSets (contents.headD none)
      pure ((), pack Cell.textSets (sadd lookupPrefix texts))
    | _, .smembersTenantKeys _, contents => do
      let texts ← unpack Cell.textSets (contents.headD none)
      pure (order.arrange texts, none)
    | _, .lpushAudit _ event, contents => do
      let events ← unpack Cell.eventLists (contents.headD none)
      pure ((), pack Cell.eventLists (event :: events))
    | _, .ltrimAudit _ start stop, contents => do
      let events ← unpack Cell.eventLists (contents.headD none)
      pure ((), pack Cell.eventLists (listRange start stop events))
    | _, .lrangeAudit _ start stop, contents => do
      let events ← unpack Cell.eventLists (contents.headD none)
      pure (if isIndex start && isIndex stop then some (listRange start stop events) else none, none)
    | clock, .incr _, contents => do
      let counter ← single Cell.counters (contents.headD none)
      let counter : Counter := match current clock counter with
        | some counter => { counter with count := counter.count + 1 }
        | none => ⟨1, none⟩
      pure (counter.count, some (Cell.counters.write counter))
    | clock, .expire _ seconds, contents => do
      let counter ← single Cell.counters (contents.headD none)
      pure ((), ((current clock counter).map fun counter =>
        { counter with expiresAt := some (clock + seconds) }).map Cell.counters.write)
    | clock, .getCounter _, contents => do
      let counter ← single Cell.counters (contents.headD none)
      pure ((current clock counter).map Counter.count, none)

/-- **The enterprise repositories answer commands by the contents of their keys.** -/
theorem serves (order : SetOrder) : (access order).Serves (exec order) content clock where
  act c s := by
    cases c with
    | incr key =>
      simp only [access, exec, content, counter, List.map_cons, List.map_nil, List.headD_cons,
        single_map, Option.bind_some, Function.update_self, Option.map_some]
      rfl
    | _ => simp [access, exec, content, counter, current]
  frame c s key hkey := by
    cases c with
    | setOrganization organization =>
      cases key with
      | organization id =>
        have hne : id ≠ organization.id := fun h => hkey (congrArg (some ∘ Key.organization) h.symm)
        exact congrArg (Option.map _) (Function.update_of_ne hne _ _)
      | _ => rfl
    | setTenant tenant =>
      cases key with
      | tenant id =>
        have hne : id ≠ tenant.id := fun h => hkey (congrArg (some ∘ Key.tenant) h.symm)
        exact congrArg (Option.map _) (Function.update_of_ne hne _ _)
      | _ => rfl
    | setApiKey apiKey =>
      cases key with
      | apiKey lookupPrefix =>
        have hne : lookupPrefix ≠ apiKey.lookupPrefix :=
          fun h => hkey (congrArg (some ∘ Key.apiKey) h.symm)
        exact congrArg (Option.map _) (s.apiKey_saveApiKey_of_ne apiKey hne)
      | _ => rfl
    | saddOrganization id => cases key <;> first | rfl | exact absurd rfl hkey
    | saddTenant organizationId tenantId =>
      cases key with
      | organizationTenants id =>
        have hne : id ≠ organizationId :=
          fun h => hkey (congrArg (some ∘ Key.organizationTenants) h.symm)
        exact congrArg (pack _) (Function.update_of_ne hne _ _)
      | _ => rfl
    | saddTenantKey tenantId lookupPrefix =>
      cases key with
      | tenantApiKeys id =>
        have hne : id ≠ tenantId := fun h => hkey (congrArg (some ∘ Key.tenantApiKeys) h.symm)
        exact congrArg (pack _) (Function.update_of_ne hne _ _)
      | _ => rfl
    | lpushAudit tenantId | ltrimAudit tenantId =>
      cases key with
      | tenantAudit id =>
        have hne : id ≠ tenantId := fun h => hkey (congrArg (some ∘ Key.tenantAudit) h.symm)
        exact congrArg (pack _) (Function.update_of_ne hne _ _)
      | _ => rfl
    | incr own | expire own =>
      cases key with
      | counter key =>
        have hne : key ≠ own := fun h => hkey (congrArg (some ∘ Key.counter) h.symm)
        exact congrArg (Option.map _) (Function.update_of_ne hne _ _)
      | _ => rfl
    | _ => rfl
  clock c s := by
    cases c <;> rfl

end EnterpriseStore

/-! ### Analytics -/

namespace AnalyticsStore

/-- The keys of the analytics. -/
inductive Key
  | tally (key : TallyKey)
  | sum (day : Date)
  deriving DecidableEq

/-- What may be kept: a count or a sum with its deadline. -/
inductive Cell
  | tally (bucket : Bucket ℕ)
  | sum (bucket : Bucket ℚ)

namespace Cell

/-- Counts. -/
def tallies : Format (Bucket ℕ) Cell := ⟨.tally, fun | .tally b => some b | _ => none, fun _ => rfl⟩

/-- Sums. -/
def sums : Format (Bucket ℚ) Cell := ⟨.sum, fun | .sum b => some b | _ => none, fun _ => rfl⟩

end Cell

/-- What is kept under a key. -/
def content (s : AnalyticsStore) : Key → Option Cell
  | .tally key => (s.tallies key).map Cell.tallies.write
  | .sum day => (s.sums day).map Cell.sums.write

/-- How commands reach the keys. -/
def access : Access Reply Time Key Cell where
  reads
    | .incr key | .expireTally key _ => [.tally key]
    | .incrByFloat day _ | .expireSum day _ => [.sum day]
    | .mgetTallies keys => keys.map .tally
    | .mgetSums days => days.map .sum
  writes
    | .incr key | .expireTally key _ => some (.tally key)
    | .incrByFloat day _ | .expireSum day _ => some (.sum day)
    | .mgetTallies _ | .mgetSums _ => none
  act
    | clock, .incr _, contents => do
      let bucket ← single Cell.tallies (contents.headD none)
      let bucket := Bucket.plus 1 (Bucket.current clock bucket)
      pure (bucket.value, some (Cell.tallies.write bucket))
    | clock, .incrByFloat _ amount, contents => do
      let bucket ← single Cell.sums (contents.headD none)
      let bucket := Bucket.plus amount (Bucket.current clock bucket)
      pure (bucket.value, some (Cell.sums.write bucket))
    | clock, .expireTally _ seconds, contents => do
      let bucket ← single Cell.tallies (contents.headD none)
      pure ((), ((Bucket.current clock bucket).map (Bucket.expiring (clock + seconds))).map
        Cell.tallies.write)
    | clock, .expireSum _ seconds, contents => do
      let bucket ← single Cell.sums (contents.headD none)
      pure ((), ((Bucket.current clock bucket).map (Bucket.expiring (clock + seconds))).map
        Cell.sums.write)
    | clock, .mgetTallies _, contents => do
      let buckets ← contents.mapM (single Cell.tallies)
      pure (buckets.map fun bucket => (Bucket.current clock bucket).map Bucket.value, none)
    | clock, .mgetSums _, contents => do
      let buckets ← contents.mapM (single Cell.sums)
      pure (buckets.map fun bucket => (Bucket.current clock bucket).map Bucket.value, none)

/-- **The analytics answer commands by the contents of their keys.** -/
theorem serves : access.Serves exec content clock where
  act c s := by
    cases c with
    | mgetTallies keys =>
      have hread : (keys.map Key.tally).map s.content =
          keys.map fun key => (s.tallies key).map Cell.tallies.write := List.map_map
      simp only [access, hread, mapM_single_map]
      simp [exec, tally]
    | mgetSums days =>
      have hread : (days.map Key.sum).map s.content =
          days.map fun day => (s.sums day).map Cell.sums.write := List.map_map
      simp only [access, hread, mapM_single_map]
      simp [exec, sum]
    | _ => simp [access, exec, content, tally, sum]
  frame c s key hkey := by
    cases c with
    | incr own | expireTally own =>
      cases key with
      | tally key =>
        have hne : key ≠ own := fun h => hkey (congrArg (some ∘ Key.tally) h.symm)
        exact congrArg (Option.map _) (Function.update_of_ne hne _ _)
      | _ => rfl
    | incrByFloat own | expireSum own =>
      cases key with
      | sum day =>
        have hne : day ≠ own := fun h => hkey (congrArg (some ∘ Key.sum) h.symm)
        exact congrArg (Option.map _) (Function.update_of_ne hne _ _)
      | _ => rfl
    | _ => rfl
  clock c s := by
    cases c <;> rfl

end AnalyticsStore

/-! ### Cached recommendations -/

namespace CacheStore

/-- Entries with their deadlines. -/
def cells : Format (Bucket (RecommendationResult UUID)) (Bucket (RecommendationResult UUID)) :=
  ⟨fun bucket => bucket, some, fun _ => rfl⟩

/-- What is kept for a product. -/
def content (s : CacheStore UUID) (productId : UUID) : Option (Bucket (RecommendationResult UUID)) :=
  (s.entries productId).map cells.write

/-- How commands reach the keys; a command that is refused writes nothing. -/
def access : Access (@Reply UUID) Time UUID (Bucket (RecommendationResult UUID)) where
  reads
    | .get productId => [productId]
    | .setEx _ _ _ => []
  writes
    | .get _ => none
    | .setEx productId _ seconds => if 0 < seconds then some productId else none
  act
    | clock, .get _, contents => do
      let bucket ← single cells (contents.headD none)
      pure ((Bucket.current clock bucket).map Bucket.value, none)
    | clock, .setEx _ result seconds, _ =>
      if 0 < seconds then some (.ok (), some (cells.write ⟨result, some (clock + seconds)⟩))
      else some (.error (), none)

/-- **The cache answers commands by the contents of their keys.** -/
theorem serves : access.Serves exec content clock where
  act c s := by
    cases c with
    | get productId => simp [access, exec, content, entry]
    | setEx productId result seconds =>
      by_cases hseconds : 0 < seconds <;> simp [access, exec, content, hseconds]
  frame c s key hkey := by
    cases c with
    | get productId => rfl
    | setEx productId result seconds =>
      by_cases hseconds : 0 < seconds
      · have hne : key ≠ productId := fun h => hkey (by simp [access, hseconds, h])
        simp only [exec, if_pos hseconds]
        exact congrArg (Option.map _) (Function.update_of_ne hne _ _)
      · simp only [exec, if_neg hseconds]
  clock c s := by
    cases c with
    | get productId => rfl
    | setEx productId result seconds => by_cases hseconds : 0 < seconds <;> simp [exec, hseconds]

end CacheStore

end ProductIntelligence
