import ProductIntelligence.Storage.Contents
import ProductIntelligence.Storage.Keys

/-!
# One Redis database

The queue, the enterprise repositories, the analytics and the cache of recommendations share one
Redis database, and nothing but the texts of their keys keeps them apart.  Here the models of these
stores, each of which has been looked at on its own, are put into one database.

## Main definitions

* `Stores`, `Stores.exec` — the four stores side by side, and the commands of all.
* `Stores.Key.redisKey`, `Stores.name` — the key of each store as it is written.
* `runShared` — a program on the shared database.

## Main results

* `name_injective` — no two keys have one name, unless the queue shadows API keys.
* `shared_iff` — **every program runs on the shared database as it does on separate stores exactly
  when the queue does not shadow API keys**.

## References

`backend/app/queue/redis_queue.py`, `backend/app/repositories/organization_repository.py`,
`backend/app/repositories/api_key_repository.py`, `backend/app/repositories/audit_repository.py`,
`backend/app/repositories/quota_repository.py`, `backend/app/repositories/analytics_repository.py`,
`backend/app/repositories/recommendation_cache_repository.py`.
-/

namespace ProductIntelligence

open Effects Access

variable {P : Type}

/-- The four stores. -/
abbrev Stores (P : Type) : Type := ((Redis P × EnterpriseStore) × AnalyticsStore) × CacheStore UUID

namespace Stores

/-- The commands of all stores. -/
abbrev Command (P : Type) : Type :=
  ((Redis.Command P ⊕ EnterpriseStore.Command) ⊕ AnalyticsStore.Command) ⊕ CacheStore.Command UUID

/-- What each command replies. -/
abbrev Reply : Command P → Type :=
  AddReply (AddReply (AddReply (@Redis.Reply P) EnterpriseStore.Reply) AnalyticsStore.Reply)
    (@CacheStore.Reply UUID)

/-- What each command does, in its own store. -/
def exec (order : SetOrder) : Handler (@Reply P) (Stores P) :=
  addHandler (addHandler (addHandler Redis.exec (EnterpriseStore.exec order)) AnalyticsStore.exec)
    CacheStore.exec

/-- The keys of all stores. -/
abbrev Key : Type := ((Redis.Key ⊕ EnterpriseStore.Key) ⊕ AnalyticsStore.Key) ⊕ UUID

/-- What may be kept in all of them. -/
abbrev Cell (P : Type) : Type :=
  ((Redis.Cell P ⊕ EnterpriseStore.Cell) ⊕ AnalyticsStore.Cell) ⊕ Bucket (RecommendationResult UUID)

/-- What is kept under a key. -/
def content : Stores P → Key → Option (Cell P) :=
  addContent (addContent (addContent Redis.content EnterpriseStore.content) AnalyticsStore.content)
    CacheStore.content

/-- The clocks of the stores; that of the queue is read by its clients. -/
def clock : Stores P → ((Time × Time) × Time) × Time :=
  addClock (addClock (addClock Redis.clock EnterpriseStore.clock) AnalyticsStore.clock)
    CacheStore.clock

/-- How commands reach the keys. -/
def access (order : SetOrder) :
    Access (@Reply P) (((Time × Time) × Time) × Time) Key (Cell P) :=
  (((Redis.access P).add (EnterpriseStore.access order)).add AnalyticsStore.access).add
    CacheStore.access

/-- **The stores answer commands by the contents of their keys.** -/
theorem serves (order : SetOrder) :
    (access (P := P) order).Serves (exec order) content clock :=
  ((Redis.serves.add (EnterpriseStore.serves order)).add AnalyticsStore.serves).add
    CacheStore.serves

/-! ### Names -/

/-- The day number of January 1, 1970, from which the request counters count. -/
def epochOrdinal : ℤ := 719163

/-- Each key among those of the database. -/
def Key.redisKey : Key → RedisKey
  | .inl (.inl (.inl .pending)) => .pending
  | .inl (.inl (.inl .processing)) => .processing
  | .inl (.inl (.inl .delayed)) => .delayed
  | .inl (.inl (.inl .deadLetter)) => .deadLetter
  | .inl (.inl (.inl (.job jobId))) => .job jobId
  | .inl (.inl (.inl (.productJob productId))) => .productJob productId
  | .inl (.inl (.inr .organizations)) => .organizations
  | .inl (.inl (.inr (.organization organizationId))) => .organization organizationId
  | .inl (.inl (.inr (.organizationTenants organizationId))) => .organizationTenants organizationId
  | .inl (.inl (.inr (.tenant tenantId))) => .tenant tenantId
  | .inl (.inl (.inr (.tenantApiKeys tenantId))) => .tenantApiKeys tenantId
  | .inl (.inl (.inr (.tenantAudit tenantId))) => .tenantAudit tenantId
  | .inl (.inl (.inr (.apiKey lookupPrefix))) => .apiKey lookupPrefix
  | .inl (.inl (.inr (.counter (.daily tenantId day)))) => .quotaDaily tenantId (epochOrdinal + day)
  | .inl (.inl (.inr (.counter (.minute tenantId minute)))) =>
    .quotaMinute tenantId (epochOrdinal * 1440 + minute)
  | .inl (.inr (.tally (.count event day))) => .analyticsCount event day.val
  | .inl (.inr (.tally (.latencyCount day))) => .latencyCount day.val
  | .inl (.inr (.sum day)) => .latencySum day.val
  | .inr productId => .recommendationCache productId

/-- The key of a store that is the given one. -/
def Key.ofRedisKey : RedisKey → Option Key
  | .pending => some (.inl (.inl (.inl .pending)))
  | .processing => some (.inl (.inl (.inl .processing)))
  | .delayed => some (.inl (.inl (.inl .delayed)))
  | .deadLetter => some (.inl (.inl (.inl .deadLetter)))
  | .job jobId => some (.inl (.inl (.inl (.job jobId))))
  | .productJob productId => some (.inl (.inl (.inl (.productJob productId))))
  | .organizations => some (.inl (.inl (.inr .organizations)))
  | .organization organizationId => some (.inl (.inl (.inr (.organization organizationId))))
  | .organizationTenants organizationId =>
    some (.inl (.inl (.inr (.organizationTenants organizationId))))
  | .tenant tenantId => some (.inl (.inl (.inr (.tenant tenantId))))
  | .tenantApiKeys tenantId => some (.inl (.inl (.inr (.tenantApiKeys tenantId))))
  | .tenantAudit tenantId => some (.inl (.inl (.inr (.tenantAudit tenantId))))
  | .apiKey lookupPrefix => some (.inl (.inl (.inr (.apiKey lookupPrefix))))
  | .quotaDaily tenantId day =>
    some (.inl (.inl (.inr (.counter (.daily tenantId (day - epochOrdinal))))))
  | .quotaMinute tenantId minute =>
    some (.inl (.inl (.inr (.counter (.minute tenantId (minute - epochOrdinal * 1440))))))
  | .analyticsCount event day =>
    if h : 1 ≤ day ∧ day ≤ maxOrdinal then some (.inl (.inr (.tally (.count event ⟨day, h⟩))))
    else none
  | .latencyCount day =>
    if h : 1 ≤ day ∧ day ≤ maxOrdinal then some (.inl (.inr (.tally (.latencyCount ⟨day, h⟩))))
    else none
  | .latencySum day =>
    if h : 1 ≤ day ∧ day ≤ maxOrdinal then some (.inl (.inr (.sum ⟨day, h⟩))) else none
  | .recommendationCache productId => some (.inr productId)

theorem ofRedisKey_redisKey (key : Key) : Key.ofRedisKey key.redisKey = some key := by
  rcases key with ((key | key) | key) | productId
  · cases key <;> rfl
  · cases key with
    | counter key =>
      cases key with
      | daily tenantId day =>
        have hday : epochOrdinal + day - epochOrdinal = day := add_sub_cancel_left _ _
        simp only [Key.redisKey, Key.ofRedisKey, hday]
      | minute tenantId minute =>
        have hminute : epochOrdinal * 1440 + minute - epochOrdinal * 1440 = minute :=
          add_sub_cancel_left _ _
        simp only [Key.redisKey, Key.ofRedisKey, hminute]
    | _ => rfl
  · cases key with
    | tally key =>
      cases key with
      | count event day => exact dif_pos day.property
      | latencyCount day => exact dif_pos day.property
    | sum day => exact dif_pos day.property
  · rfl

/-- No two keys are the same. -/
theorem redisKey_injective : Function.Injective Key.redisKey := by
  intro key key' h
  have hkey := congrArg Key.ofRedisKey h
  rw [ofRedisKey_redisKey, ofRedisKey_redisKey] at hkey
  exact Option.some.inj hkey

/-- The name of a key in the database of a queue. -/
def name (queueName : Text) (key : Key) : Text := key.redisKey.render queueName

/-- **No two keys have one name**, unless the queue shadows API keys. -/
theorem name_injective {queueName : Text} (h : ¬ ShadowsApiKeys queueName) :
    Function.Injective (name queueName) :=
  ((RedisKey.render_injective_iff queueName).2 h).comp redisKey_injective

/-! ### Programs on the database -/

/-- A database: a content under each name, or none. -/
abbrev Database (P : Type) : Type := Text → Option (Cell P)

/-- The database holds what the stores have. -/
def HeldIn (queueName : Text) (stores : Stores P) (db : Database P) : Prop :=
  Holds (name queueName) stores.content db

/-- Run a program on the database; a command that meets a content of the wrong type fails. -/
def runShared (order : SetOrder) (queueName : Text) {α : Type} (clock : ((Time × Time) × Time) × Time)
    (p : Program (@Reply P) α) (db : Database P) : Option (α × Database P) :=
  (access order).runOn (name queueName) clock p db

/-- Every program does on the database what it does on the stores, and leaves there what it leaves
in the stores. -/
def RunsAsSeparate (P : Type) (order : SetOrder) (queueName : Text) : Prop :=
  ∀ (α : Type) (p : Program (@Reply P) α) (stores : Stores P) (db : Database P),
    HeldIn queueName stores db → ∃ db',
      runShared order queueName stores.clock p db = some ((p.run (exec order) stores).1, db') ∧
      HeldIn queueName (p.run (exec order) stores).2 db'

/-- Nothing is kept. -/
def empty : Stores P := (((.empty, .empty), .empty), ⟨fun _ => none, 0⟩)

theorem content_empty (key : Key) : (empty : Stores P).content key = none := by
  rcases key with ((key | key) | key) | productId
  · cases key <;> rfl
  · cases key <;> rfl
  · cases key <;> rfl
  · rfl

/-- Queue a job, and look up an API key. -/
def queueThenLookup (jobId : UUID) (lookupPrefix : Text) : Program (@Reply P) (Option ApiKey) :=
  .request (.inl (.inl (.inl (.rpush .pending jobId)))) fun _ =>
    .request (.inl (.inl (.inr (.getApiKey lookupPrefix)))) .done

/-- If the pending jobs are under the name of the API key, the lookup fails. -/
theorem runShared_queueThenLookup (order : SetOrder) {queueName lookupPrefix : Text}
    (h : RedisKey.pending.render queueName = (RedisKey.apiKey lookupPrefix).render queueName)
    (clock : ((Time × Time) × Time) × Time) :
    runShared order queueName clock (queueThenLookup (P := P) 0 lookupPrefix) (fun _ => none) =
      none := by
  -- the list of pending jobs is what the lookup finds
  have hfound : Function.update (fun _ => none : Database P) (RedisKey.pending.render queueName)
      (some (.inl (.inl (.inl (.list [0]))))) ((RedisKey.apiKey lookupPrefix).render queueName) =
        some (.inl (.inl (.inl (.list [0])))) := by
    rw [h, Function.update_self]
  unfold runShared queueThenLookup
  rw [runOn_of_act (access order) (name queueName) rfl]
  have hwrong : ∀ found : Option (Cell P), found = some (.inl (.inl (.inl (.list [0])))) →
      (access order).act clock (.inl (.inl (.inr (.getApiKey lookupPrefix)))) [found] = none := by
    rintro _ rfl
    rfl
  exact runOn_of_act_eq_none (access order) (name queueName) (hwrong _ hfound)

/-- **Every program runs on the shared database as it does on separate stores exactly when the queue
does not shadow API keys.** -/
theorem shared_iff (P : Type) (order : SetOrder) (queueName : Text) :
    RunsAsSeparate P order queueName ↔ ¬ ShadowsApiKeys queueName := by
  constructor
  · rintro hseparate ⟨rest, hrest⟩
    have hsame : RedisKey.pending.render queueName =
        (RedisKey.apiKey (rest ++ "pending".toList)).render queueName := by
      show queueName ++ ":pending".toList = "apikey:prefix:".toList ++ (rest ++ "pending".toList)
      rw [← List.append_assoc, hrest, List.append_assoc]
      rfl
    obtain ⟨db', hrun, -⟩ := hseparate _ (queueThenLookup 0 (rest ++ "pending".toList)) empty
      (fun _ => none) fun key => (content_empty key).symm
    rw [runShared_queueThenLookup order hsame] at hrun
    cases hrun
  · intro hshadows α p stores db hdb
    obtain ⟨db', hrun, hholds, -⟩ := (serves order).run (name_injective hshadows) p hdb
    exact ⟨db', hrun, hholds⟩

end Stores

end ProductIntelligence
