import ProductIntelligence.Enterprise.Serving

/-!
# A command that fails half-way

A request to create or revoke a key writes the record, the tenant's index and the audit log by
separate commands, and nothing is undone when one of them fails.

## Main definitions

* `Unchanged` — the same raw keys are accepted, the same keys listed and the same events
  recorded.
* `CreationAtomic`, `RevocationAtomic` — a request that ends in an error leaves the store
  unchanged, and one that succeeds takes its full effect.
* `CreationSpared`, `RevocationSpared` — the failure, if any, comes before the first write that
  can be noticed.

## Main results

* `attempt_guarded`, `attempt_createApiKeyEndpoint`, `attempt_revokeApiKeyEndpoint` — what is
  left at each point of failure.
* `atomic_iff_spared` — when the two requests are atomic.

## References

`backend/app/api/enterprise.py`, `backend/app/repositories/api_key_repository.py`,
`backend/app/repositories/audit_repository.py`.
-/

namespace ProductIntelligence

open Effects Program

/-! ### Atomicity -/

/-- A raw key is accepted. -/
def EnterpriseStore.Accepts (hashKey : Text → Text) (s : EnterpriseStore) (raw : Text) : Prop :=
  ∃ context, s.authenticated hashKey (some raw) = .ok context

/-- Exactly the same raw keys are accepted, the same keys listed and the same events recorded. -/
structure Unchanged (app : EnterpriseApp) (s s' : EnterpriseStore) : Prop where
  accepts : ∀ raw, s'.Accepts app.hashKey raw ↔ s.Accepts app.hashKey raw
  listing : ∀ tenantId, (s'.listing app.order tenantId).Perm (s.listing app.order tenantId)
  audit : ∀ tenantId, s'.audit tenantId = s.audit tenantId

namespace EnterpriseApp

variable (app : EnterpriseApp) (s : EnterpriseStore)

/-- A request whose command of the given number, if any, fails: its answer, unless it failed,
and the store it leaves. -/
def attempt (request : EnterpriseRequest) (failure : Option ℕ) :
    Option (Answer EnterpriseResponse) × EnterpriseStore :=
  (app.respond request).attempt (EnterpriseStore.exec app.order) failure s

/-- A request to create a key is **atomic**: when it succeeds the key is accepted and listed and
one event records it, and otherwise nothing has changed. -/
def CreationAtomic (header : Option Text) (name : Name) (role : Role) (draw : KeyDraw)
    (event : EventDraw) (failure : Option ℕ) : Prop :=
  match app.attempt s (.createApiKey header name role draw event) failure with
  | (some (.ok _), s') => ∃ context,
      s.authorized app.hashKey .manageApiKeys header = .ok context ∧
      let key := app.issuedKey context name role draw
      s'.Accepts app.hashKey (generateRawKey draw.token) ∧
        key ∈ s'.listing app.order context.tenantId ∧
        s'.audit context.tenantId =
          (issuedEvent context key event :: s.audit context.tenantId).take maxEventsPerTenant
  | (_, s') => Unchanged app s s'

/-- A request to revoke a key is **atomic**: when it succeeds no raw key is accepted for it, it
is listed as revoked and one event records it, and otherwise nothing has changed. -/
def RevocationAtomic (header : Option Text) (lookupPrefix : Text) (event : EventDraw)
    (failure : Option ℕ) : Prop :=
  match app.attempt s (.revokeApiKey header lookupPrefix event) failure with
  | (some (.ok _), s') => ∃ context key,
      s.authorized app.hashKey .manageApiKeys header = .ok context ∧
        s.apiKey lookupPrefix = some key ∧
        (∀ raw, keyPrefix raw = lookupPrefix → ¬ s'.Accepts app.hashKey raw) ∧
        key.revoke ∈ s'.listing app.order context.tenantId ∧
        s'.audit context.tenantId =
          (revokedEvent context lookupPrefix event :: s.audit context.tenantId).take
            maxEventsPerTenant
  | (_, s') => Unchanged app s s'

/-- The failure spares a creation: the caller is refused, or the failing command is the lookup
of the caller or the first write, or all five succeed. -/
def CreationSpared (header : Option Text) (role : Role) (failure : Option ℕ) : Prop :=
  ∀ context, s.authorized app.hashKey .manageApiKeys header = .ok context →
    rolePermissions role ⊆ rolePermissions context.role → ∀ n ∈ failure, n ≤ 1 ∨ 5 ≤ n

/-- Nobody can notice that the key of a prefix is revoked: it was already, or no raw key was
accepted for it and no index leads to it. -/
def Unnoticed (lookupPrefix : Text) (key : ApiKey) : Prop :=
  key.revoked = true ∨
    (∀ raw, raw ≠ [] → keyPrefix raw = lookupPrefix → app.hashKey raw ≠ key.keyHash) ∧
      ∀ tenantId, lookupPrefix ∉ s.tenantKeys tenantId

/-- The failure spares a revocation: the caller is refused, or the failing command is one of the
three lookups or the first write, or it comes after a write that nobody can notice, or all six
succeed and the index of the tenant leads to the key. -/
def RevocationSpared (header : Option Text) (lookupPrefix : Text) (failure : Option ℕ) : Prop :=
  ∀ context key, s.authorized app.hashKey .manageApiKeys header = .ok context →
    s.apiKey lookupPrefix = some key → key.tenantId = context.tenantId →
    match failure with
    | none => lookupPrefix ∈ s.tenantKeys context.tenantId
    | some n => n ≤ 3 ∨ n = 4 ∧ app.Unnoticed s lookupPrefix key ∨
        6 ≤ n ∧ lookupPrefix ∈ s.tenantKeys context.tenantId

end EnterpriseApp

/-! ### What is left at each point of failure -/

section Attempts

variable (hashKey : Text → Text) (order : SetOrder) (s : EnterpriseStore)

/-- The guard issues one command, unless there is no key to look up. -/
theorem attempt_guarded {α : Type} (permission : Permission) (header : Option Text)
    (endpoint : AuthContext → EnterpriseProgram (Answer α)) (failure : Option ℕ) :
    (guarded hashKey permission header endpoint).attempt (EnterpriseStore.exec order) failure s =
      match s.authorized hashKey permission header with
      | .error e => (if header.getD [] ≠ [] ∧ failure = some 0 then none else some (.error e), s)
      | .ok context =>
        if failure = some 0 then (none, s)
        else (endpoint context).attempt (EnterpriseStore.exec order) (failure.map Nat.pred) s := by
  unfold guarded requirePermission AuthenticationService.authenticate
    EnterpriseStore.authorized EnterpriseStore.authenticated
  by_cases hempty : header.getD [] = []
  · simp [hempty]
  · rw [if_neg hempty, if_neg hempty, ApiKeyRepository.getByPrefix, perform_bind, request_bind,
      request_bind]
    rcases failure with _ | _ | n
    all_goals
      simp only [attempt, EnterpriseStore.exec]
      cases s.apiKey (keyPrefix (header.getD [])) with
      | none => simp [hempty]
      | some key =>
        cases hrevoked : key.revoked
        · by_cases hhash : hashKey (header.getD []) = key.keyHash
          · by_cases hrole : roleHasPermission key.context.role permission = true
            · simp [hrevoked, hhash, hrole]
            · simp [hempty, hrevoked, hhash, hrole]
          · simp [hempty, hrevoked, hhash]
        · simp [hempty, hrevoked]

/-- The store after an event is pushed and before the log is trimmed. -/
def EnterpriseStore.pushAudit (s : EnterpriseStore) (event : AuditEvent) : EnterpriseStore :=
  { s with
    audit := Function.update s.audit event.tenantId (event :: s.audit event.tenantId) }

/-- Trimming what was pushed records the event. -/
theorem exec_ltrim_pushAudit (event : AuditEvent) :
    (EnterpriseStore.exec order (.ltrimAudit event.tenantId 0 (maxEventsPerTenant - 1 : ℕ))
      (s.pushAudit event)).2 = s.appendAudit event := by
  have hrun := congrArg Prod.snd (run_append order s event)
  exact hrun

/-- A creation stores the record, adds it to the index, pushes the event and trims the log. -/
theorem attempt_createApiKeyEndpoint (name : Name) (role : Role) (draw : KeyDraw)
    (event : EventDraw) (context : AuthContext)
    (hrole : rolePermissions role ⊆ rolePermissions context.role) (failure : Option ℕ) :
    (createApiKeyEndpoint hashKey name role draw event context).attempt
        (EnterpriseStore.exec order) failure s =
      let key := newApiKey hashKey context.organizationId context.tenantId name role draw
      let recorded := issuedEvent context key event
      match failure with
      | some 0 => (none, s)
      | some 1 => (none, s.saveApiKey key)
      | some 2 => (none, s.createApiKey key)
      | some 3 => (none, (s.createApiKey key).pushAudit recorded)
      | _ => (some (.ok (.apiKeyCreated (.ofApiKey key) (generateRawKey draw.token))),
          (s.createApiKey key).appendAudit recorded) := by
  rw [createApiKeyEndpoint, if_neg (not_not_intro hrole)]
  dsimp only
  rw [← exec_ltrim_pushAudit order]
  rcases failure with _ | _ | _ | _ | _ | n
  all_goals rfl

/-- A revocation looks the key up twice, stores its record, pushes the event and trims the
log. -/
theorem attempt_revokeApiKeyEndpoint {lookupPrefix : Text} {context : AuthContext} {key : ApiKey}
    (hkey : s.apiKey lookupPrefix = some key) (htenant : key.tenantId = context.tenantId)
    (event : EventDraw) (failure : Option ℕ) :
    (revokeApiKeyEndpoint lookupPrefix event context).attempt (EnterpriseStore.exec order)
        failure s =
      let recorded := revokedEvent context lookupPrefix event
      match failure with
      | some 0 => (none, s)
      | some 1 => (none, s)
      | some 2 => (none, s)
      | some 3 => (none, s.saveApiKey key.revoke)
      | some 4 => (none, (s.saveApiKey key.revoke).pushAudit recorded)
      | _ => (some (.ok (.apiKeyRevoked (.ofApiKey key.revoke))),
          (s.saveApiKey key.revoke).appendAudit recorded) := by
  have hown : ¬ key.tenantId ≠ context.tenantId := not_not_intro htenant
  dsimp only
  rw [← exec_ltrim_pushAudit order, revokeApiKeyEndpoint, ApiKeyRepository.getByPrefix,
    perform_bind]
  rcases failure with _ | _ | _ | _ | _ | _ | n
  all_goals
    simp only [attempt, EnterpriseStore.exec, hkey, if_neg hown,
      ApiKeyRepository.revoke, ApiKeyRepository.getByPrefix, perform_bind, request_bind]
  all_goals rfl

/-- Where the caller's tenant has no key under the prefix, only one lookup is made. -/
theorem attempt_revokeApiKeyEndpoint_notFound {lookupPrefix : Text} {context : AuthContext}
    (h : ∀ key, s.apiKey lookupPrefix = some key → key.tenantId ≠ context.tenantId)
    (event : EventDraw) (failure : Option ℕ) :
    ((revokeApiKeyEndpoint lookupPrefix event context).attempt (EnterpriseStore.exec order)
        failure s).2 = s ∧
      ∀ response, ((revokeApiKeyEndpoint lookupPrefix event context).attempt
        (EnterpriseStore.exec order) failure s).1 ≠ some (.ok response) := by
  rw [revokeApiKeyEndpoint, ApiKeyRepository.getByPrefix, perform_bind]
  rcases failure with _ | _ | n
  all_goals
    simp only [attempt, EnterpriseStore.exec]
    cases hkey : s.apiKey lookupPrefix with
    | none => simp
    | some key => simp [h key hkey]

end Attempts

/-! ### What can be noticed -/

variable {app : EnterpriseApp} {s s' : EnterpriseStore}

theorem Unchanged.refl (app : EnterpriseApp) (s : EnterpriseStore) : Unchanged app s s :=
  ⟨fun _ => Iff.rfl, fun _ => .refl _, fun _ => rfl⟩

/-- A raw key is accepted that leads to an active record of its hash. -/
theorem accepts_of_apiKey {raw : Text} {key : ApiKey} (hne : raw ≠ [])
    (hkey : s.apiKey (keyPrefix raw) = some key) (hactive : key.revoked = false)
    (hhash : app.hashKey raw = key.keyHash) : s.Accepts app.hashKey raw :=
  ⟨key.context, (authenticated_eq_ok _ _).2 ⟨raw, key, rfl, hne, hkey, hactive, hhash, rfl⟩⟩

/-- What an accepted raw key leads to. -/
theorem exists_of_accepts {raw : Text} (h : s.Accepts app.hashKey raw) :
    ∃ key, raw ≠ [] ∧ s.apiKey (keyPrefix raw) = some key ∧ key.revoked = false ∧
      app.hashKey raw = key.keyHash := by
  obtain ⟨context, hcontext⟩ := h
  obtain ⟨raw', key, hraw, hne, hkey, hactive, hhash, -⟩ := (authenticated_eq_ok _ _).1 hcontext
  cases hraw
  exact ⟨key, hne, hkey, hactive, hhash⟩

/-- An event pushed is noticed. -/
theorem not_unchanged_of_pushAudit (haudit : s'.audit = s.audit) (event : AuditEvent) :
    ¬ Unchanged app s (s'.pushAudit event) := by
  intro h
  have hlog : (s'.pushAudit event).audit event.tenantId = event :: s.audit event.tenantId := by
    rw [← haudit]
    exact Function.update_self ..
  rw [h.audit event.tenantId] at hlog
  exact absurd (congrArg List.length hlog) (by simp)

/-- A key is revoked unnoticed exactly when it was revoked before, or no raw key was accepted
for it and no index leads to it. -/
theorem unchanged_revoke_iff {lookupPrefix : Text} {key : ApiKey}
    (hkey : s.apiKey lookupPrefix = some key) :
    Unchanged app s (s.saveApiKey key.revoke) ↔ app.Unnoticed s lookupPrefix key := by
  obtain rfl := EnterpriseStore.lookupPrefix_eq hkey
  have hself : (s.saveApiKey key.revoke).apiKey key.lookupPrefix = some key.revoke :=
    EnterpriseStore.apiKey_saveApiKey_self s key.revoke
  have hother : ∀ lookupPrefix, lookupPrefix ≠ key.lookupPrefix →
      (s.saveApiKey key.revoke).apiKey lookupPrefix = s.apiKey lookupPrefix :=
    fun lookupPrefix hne => EnterpriseStore.apiKey_saveApiKey_of_ne s key.revoke hne
  constructor
  · intro h
    cases hactive : key.revoked with
    | true => exact .inl hactive
    | false =>
      refine .inr ⟨?_, ?_⟩
      · -- a raw key of this hash was accepted and is no longer
        intro raw hne hpre hhash
        have hbefore : s.Accepts app.hashKey raw :=
          accepts_of_apiKey hne (by rw [hpre]; exact hkey) hactive hhash
        obtain ⟨found, -, hfound, hstill, -⟩ := exists_of_accepts ((h.accepts raw).2 hbefore)
        rw [hpre, hself] at hfound
        cases hfound
        cases hstill
      · -- the listing shows the key as revoked, where it was active
        intro tenantId hindex
        have hlisted : key.revoke ∈ (s.saveApiKey key.revoke).listing app.order tenantId :=
          EnterpriseStore.mem_listing app.order hindex hself
        have hbefore := EnterpriseStore.apiKey_of_mem_listing
          ((h.listing tenantId).mem_iff.1 hlisted)
        have hsame : key = key.revoke := Option.some.inj (hkey.symm.trans hbefore)
        rw [hsame] at hactive
        cases hactive
  · rintro (hrevoked | ⟨hhash, hindex⟩)
    · have hsame : key.revoke = key := by
        unfold ApiKey.revoke
        rw [← hrevoked]
      rw [hsame, EnterpriseStore.saveApiKey_eq_self hkey]
      exact .refl app s
    · refine ⟨?_, ?_, fun _ => rfl⟩
      · intro raw
        by_cases hpre : keyPrefix raw = key.lookupPrefix
        · constructor
          · intro haccepts
            obtain ⟨found, -, hfound, hactive, -⟩ := exists_of_accepts haccepts
            rw [hpre, hself] at hfound
            cases hfound
            cases hactive
          · intro haccepts
            obtain ⟨found, hne, hfound, -, hfoundHash⟩ := exists_of_accepts haccepts
            rw [hpre, hkey] at hfound
            cases hfound
            exact absurd hfoundHash (hhash raw hne hpre)
        · unfold EnterpriseStore.Accepts EnterpriseStore.authenticated
          rw [Option.getD_some, hother _ hpre]
      · intro tenantId
        refine .of_eq (List.filterMap_congr fun lookupPrefix hlookup => hother _ ?_)
        rintro rfl
        exact hindex tenantId ((app.order.perm _).mem_iff.1 hlookup)

/-! ### Creations -/

section Creations

variable {header : Option Text} {name : Name} {role : Role} {draw : KeyDraw} {event : EventDraw}
  {failure : Option ℕ}

/-- A creation that does not succeed has to leave the store unchanged. -/
theorem creationAtomic_iff_unchanged {answer : Option (Answer EnterpriseResponse)}
    (hattempt : app.attempt s (.createApiKey header name role draw event) failure = (answer, s'))
    (hanswer : ∀ response, answer ≠ some (.ok response)) :
    app.CreationAtomic s header name role draw event failure ↔ Unchanged app s s' := by
  unfold EnterpriseApp.CreationAtomic
  rw [hattempt]
  rcases answer with _ | e | response
  · exact Iff.rfl
  · exact Iff.rfl
  · exact absurd rfl (hanswer response)

/-- A creation that is refused writes nothing. -/
theorem creationAtomic_of_refused
    (hrefused : ∀ context, s.authorized app.hashKey .manageApiKeys header = .ok context →
      ¬ rolePermissions role ⊆ rolePermissions context.role) :
    app.CreationAtomic s header name role draw event failure := by
  have hattempt := attempt_guarded app.hashKey app.order s .manageApiKeys header
    (createApiKeyEndpoint app.hashKey name role draw event) failure
  cases hcontext : s.authorized app.hashKey .manageApiKeys header with
  | error e =>
    rw [hcontext] at hattempt
    refine (creationAtomic_iff_unchanged hattempt ?_).2 (.refl app s)
    intro response
    split <;> simp
  | ok context =>
    rw [hcontext] at hattempt
    dsimp only at hattempt
    rw [createApiKeyEndpoint, if_pos (hrefused context hcontext), pure_eq_done,
      attempt_done] at hattempt
    split at hattempt
    · exact (creationAtomic_iff_unchanged hattempt (by simp)).2 (.refl app s)
    · exact (creationAtomic_iff_unchanged hattempt (by simp)).2 (.refl app s)

/-- Once the record of the issued key is stored, the raw key is accepted. -/
theorem accepts_issuedKey {context : AuthContext}
    (hstored : s'.apiKey = (s.saveApiKey (app.issuedKey context name role draw)).apiKey) :
    s'.Accepts app.hashKey (generateRawKey draw.token) :=
  accepts_of_apiKey (generateRawKey_ne_nil _)
    ((congrFun hstored _).trans (EnterpriseStore.apiKey_saveApiKey_self s _)) rfl rfl

/-- A creation whose commands all succeed is atomic. -/
theorem creationAtomic_of_done {context : AuthContext} {response : EnterpriseResponse}
    (hcontext : s.authorized app.hashKey .manageApiKeys header = .ok context)
    (hattempt : app.attempt s (.createApiKey header name role draw event) failure =
      (some (.ok response), (s.createApiKey (app.issuedKey context name role draw)).appendAudit
        (issuedEvent context (app.issuedKey context name role draw) event))) :
    app.CreationAtomic s header name role draw event failure := by
  unfold EnterpriseApp.CreationAtomic
  rw [hattempt]
  refine ⟨context, hcontext, accepts_issuedKey rfl, ?_, Function.update_self ..⟩
  refine EnterpriseStore.mem_listing app.order ?_
    (EnterpriseStore.apiKey_saveApiKey_self s (app.issuedKey context name role draw))
  unfold EnterpriseStore.appendAudit EnterpriseStore.createApiKey
  dsimp only
  rw [show (app.issuedKey context name role draw).tenantId = context.tenantId from rfl,
    Function.update_self]
  exact mem_sadd.2 (.inl rfl)

/-- When a creation is atomic that may be carried out. -/
theorem creationAtomic_iff_of_accepted {context : AuthContext}
    (hfresh : ¬ s.Accepts app.hashKey (generateRawKey draw.token))
    (hcontext : s.authorized app.hashKey .manageApiKeys header = .ok context)
    (hrole : rolePermissions role ⊆ rolePermissions context.role) :
    app.CreationAtomic s header name role draw event failure ↔
      ∀ n ∈ failure, n ≤ 1 ∨ 5 ≤ n := by
  have hattempt := attempt_guarded app.hashKey app.order s .manageApiKeys header
    (createApiKeyEndpoint app.hashKey name role draw event) failure
  rw [hcontext] at hattempt
  dsimp only at hattempt
  rw [attempt_createApiKeyEndpoint app.hashKey app.order s name role draw event context
    hrole] at hattempt
  have hhalf : ∀ s' : EnterpriseStore,
      s'.apiKey = (s.saveApiKey (app.issuedKey context name role draw)).apiKey →
        ¬ Unchanged app s s' := fun s' heq h => hfresh ((h.accepts _).1 (accepts_issuedKey heq))
  rcases failure with _ | _ | _ | _ | _ | _ | n
  · exact iff_of_true (creationAtomic_of_done hcontext hattempt) (by simp)
  · rw [creationAtomic_iff_unchanged hattempt (by simp)]
    exact iff_of_true (.refl app s) (by simp)
  · rw [creationAtomic_iff_unchanged hattempt (by simp)]
    exact iff_of_true (.refl app s) (by simp)
  · rw [creationAtomic_iff_unchanged hattempt (by simp)]
    exact iff_of_false (hhalf _ rfl) (by simp)
  · rw [creationAtomic_iff_unchanged hattempt (by simp)]
    exact iff_of_false (hhalf _ rfl) (by simp)
  · rw [creationAtomic_iff_unchanged hattempt (by simp)]
    exact iff_of_false (hhalf _ rfl) (by simp)
  · exact iff_of_true (creationAtomic_of_done hcontext hattempt) (by simp)

/-- **When a creation is atomic.** -/
theorem creationAtomic_iff_spared (hfresh : ¬ s.Accepts app.hashKey (generateRawKey draw.token)) :
    app.CreationAtomic s header name role draw event failure ↔
      app.CreationSpared s header role failure := by
  by_cases haccepted : ∃ context, s.authorized app.hashKey .manageApiKeys header = .ok context ∧
      rolePermissions role ⊆ rolePermissions context.role
  · obtain ⟨context, hcontext, hrole⟩ := haccepted
    rw [creationAtomic_iff_of_accepted hfresh hcontext hrole]
    constructor
    · intro h _ _ _
      exact h
    · intro h
      exact h context hcontext hrole
  · have hrefused : ∀ context, s.authorized app.hashKey .manageApiKeys header = .ok context →
        ¬ rolePermissions role ⊆ rolePermissions context.role :=
      fun context hcontext hrole => haccepted ⟨context, hcontext, hrole⟩
    exact iff_of_true (creationAtomic_of_refused hrefused)
      fun context hcontext hrole => absurd hrole (hrefused context hcontext)

end Creations

/-! ### Revocations -/

section Revocations

variable {header : Option Text} {lookupPrefix : Text} {event : EventDraw} {failure : Option ℕ}

/-- A revocation that does not succeed has to leave the store unchanged. -/
theorem revocationAtomic_iff_unchanged {answer : Option (Answer EnterpriseResponse)}
    (hattempt : app.attempt s (.revokeApiKey header lookupPrefix event) failure = (answer, s'))
    (hanswer : ∀ response, answer ≠ some (.ok response)) :
    app.RevocationAtomic s header lookupPrefix event failure ↔ Unchanged app s s' := by
  unfold EnterpriseApp.RevocationAtomic
  rw [hattempt]
  rcases answer with _ | e | response
  · exact Iff.rfl
  · exact Iff.rfl
  · exact absurd rfl (hanswer response)

/-- A revocation that is refused writes nothing. -/
theorem revocationAtomic_of_refused
    (hrefused : ∀ context key, s.authorized app.hashKey .manageApiKeys header = .ok context →
      s.apiKey lookupPrefix = some key → key.tenantId ≠ context.tenantId) :
    app.RevocationAtomic s header lookupPrefix event failure := by
  have hattempt := attempt_guarded app.hashKey app.order s .manageApiKeys header
    (revokeApiKeyEndpoint lookupPrefix event) failure
  cases hcontext : s.authorized app.hashKey .manageApiKeys header with
  | error e =>
    rw [hcontext] at hattempt
    refine (revocationAtomic_iff_unchanged hattempt ?_).2 (.refl app s)
    intro response
    split <;> simp
  | ok context =>
    rw [hcontext] at hattempt
    dsimp only at hattempt
    split at hattempt
    · exact (revocationAtomic_iff_unchanged hattempt (by simp)).2 (.refl app s)
    · obtain ⟨hleft, hanswer⟩ := attempt_revokeApiKeyEndpoint_notFound app.order s
        (fun key => hrefused context key hcontext) event (failure.map Nat.pred)
      refine (revocationAtomic_iff_unchanged hattempt hanswer).2 ?_
      rw [hleft]
      exact .refl app s

/-- When every command of a revocation succeeds, only the listing depends on the index. -/
theorem revocationAtomic_iff_of_done {context : AuthContext} {key : ApiKey}
    {response : EnterpriseResponse}
    (hcontext : s.authorized app.hashKey .manageApiKeys header = .ok context)
    (hkey : s.apiKey lookupPrefix = some key)
    (hattempt : app.attempt s (.revokeApiKey header lookupPrefix event) failure =
      (some (.ok response), (s.saveApiKey key.revoke).appendAudit
        (revokedEvent context lookupPrefix event))) :
    app.RevocationAtomic s header lookupPrefix event failure ↔
      lookupPrefix ∈ s.tenantKeys context.tenantId := by
  have hown := EnterpriseStore.lookupPrefix_eq hkey
  have hstored : (s.saveApiKey key.revoke).apiKey lookupPrefix = some key.revoke := by
    rw [← hown]
    exact EnterpriseStore.apiKey_saveApiKey_self s key.revoke
  unfold EnterpriseApp.RevocationAtomic
  rw [hattempt]
  constructor
  · rintro ⟨caller, found, hcaller, hfound, -, hlisted, -⟩
    obtain rfl : context = caller := Except.ok.inj (hcontext.symm.trans hcaller)
    obtain rfl : key = found := Option.some.inj (hkey.symm.trans hfound)
    obtain ⟨listed, hindex, hrecord⟩ := List.mem_filterMap.1 hlisted
    have hpre := EnterpriseStore.lookupPrefix_eq hrecord
    rw [← hown.symm.trans hpre] at hindex
    exact (app.order.perm _).mem_iff.1 hindex
  · intro hindex
    refine ⟨context, key, hcontext, hkey, ?_,
      EnterpriseStore.mem_listing app.order hindex hstored, Function.update_self ..⟩
    rintro raw rfl haccepts
    obtain ⟨found, -, hfound, hactive, -⟩ := exists_of_accepts haccepts
    obtain rfl : key.revoke = found := Option.some.inj (hstored.symm.trans hfound)
    cases hactive

/-- When a revocation is atomic that may be carried out. -/
theorem revocationAtomic_iff_of_accepted {context : AuthContext} {key : ApiKey}
    (hcontext : s.authorized app.hashKey .manageApiKeys header = .ok context)
    (hkey : s.apiKey lookupPrefix = some key) (htenant : key.tenantId = context.tenantId) :
    app.RevocationAtomic s header lookupPrefix event failure ↔
      match failure with
      | none => lookupPrefix ∈ s.tenantKeys context.tenantId
      | some n => n ≤ 3 ∨ n = 4 ∧ app.Unnoticed s lookupPrefix key ∨
          6 ≤ n ∧ lookupPrefix ∈ s.tenantKeys context.tenantId := by
  have hattempt := attempt_guarded app.hashKey app.order s .manageApiKeys header
    (revokeApiKeyEndpoint lookupPrefix event) failure
  rw [hcontext] at hattempt
  dsimp only at hattempt
  rw [attempt_revokeApiKeyEndpoint app.order s hkey htenant event] at hattempt
  rcases failure with _ | _ | _ | _ | _ | _ | _ | n
  · exact revocationAtomic_iff_of_done hcontext hkey hattempt
  · rw [revocationAtomic_iff_unchanged hattempt (by simp)]
    exact iff_of_true (.refl app s) (by simp)
  · rw [revocationAtomic_iff_unchanged hattempt (by simp)]
    exact iff_of_true (.refl app s) (by simp)
  · rw [revocationAtomic_iff_unchanged hattempt (by simp)]
    exact iff_of_true (.refl app s) (by simp)
  · rw [revocationAtomic_iff_unchanged hattempt (by simp)]
    exact iff_of_true (.refl app s) (by simp)
  · rw [revocationAtomic_iff_unchanged hattempt (by simp)]
    refine (unchanged_revoke_iff hkey).trans ⟨fun h => .inr (.inl ⟨rfl, h⟩), ?_⟩
    rintro (h | ⟨-, h⟩ | ⟨h, -⟩)
    · omega
    · exact h
    · omega
  · rw [revocationAtomic_iff_unchanged hattempt (by simp)]
    have haudit : (s.saveApiKey key.revoke).audit = s.audit := rfl
    exact iff_of_false (not_unchanged_of_pushAudit haudit _) (by simp)
  · refine (revocationAtomic_iff_of_done hcontext hkey hattempt).trans ⟨fun h => .inr (.inr ⟨by omega, h⟩), ?_⟩
    rintro (h | ⟨h, -⟩ | ⟨-, h⟩)
    · omega
    · omega
    · exact h

/-- **When a revocation is atomic.** -/
theorem revocationAtomic_iff_spared :
    app.RevocationAtomic s header lookupPrefix event failure ↔
      app.RevocationSpared s header lookupPrefix failure := by
  by_cases haccepted : ∃ context key,
      s.authorized app.hashKey .manageApiKeys header = .ok context ∧
        s.apiKey lookupPrefix = some key ∧ key.tenantId = context.tenantId
  · obtain ⟨context, key, hcontext, hkey, htenant⟩ := haccepted
    rw [revocationAtomic_iff_of_accepted hcontext hkey htenant]
    constructor
    · intro h caller found hcaller hfound _
      obtain rfl : context = caller := Except.ok.inj (hcontext.symm.trans hcaller)
      obtain rfl : key = found := Option.some.inj (hkey.symm.trans hfound)
      exact h
    · intro h
      exact h context key hcontext hkey htenant
  · have hrefused : ∀ context key,
        s.authorized app.hashKey .manageApiKeys header = .ok context →
          s.apiKey lookupPrefix = some key → key.tenantId ≠ context.tenantId :=
      fun context key hcontext hkey htenant => haccepted ⟨context, key, hcontext, hkey, htenant⟩
    exact iff_of_true (revocationAtomic_of_refused hrefused)
      fun context key hcontext hkey htenant => absurd htenant (hrefused context key hcontext hkey)

end Revocations

/-! ### Both requests -/

/-- **When the two requests are atomic**, in any store and whichever command fails: exactly when
the failure spares them.  For a creation the raw key it draws must not be one that is accepted
already. -/
theorem atomic_iff_spared (app : EnterpriseApp) (s : EnterpriseStore) (header : Option Text)
    (failure : Option ℕ) :
    (∀ name role draw event, ¬ s.Accepts app.hashKey (generateRawKey draw.token) →
      (app.CreationAtomic s header name role draw event failure ↔
        app.CreationSpared s header role failure)) ∧
    ∀ lookupPrefix event,
      (app.RevocationAtomic s header lookupPrefix event failure ↔
        app.RevocationSpared s header lookupPrefix failure) :=
  ⟨fun _ _ _ _ hfresh => creationAtomic_iff_spared hfresh,
    fun _ _ => revocationAtomic_iff_spared⟩

/-! ### A log that cannot be written -/

namespace HalfDone

/-- A deployment that keeps raw keys as they are. -/
def deployment : EnterpriseApp := ⟨id, .insertion, 0, 0⟩

/-- The token of the owner's key. -/
def ownerToken : Text := "AAAAAAAAbbbbbbbbbbbbbbbbbbbbbbbb".toList

/-- The store after a bootstrap. -/
def store : EnterpriseStore :=
  deployment.serveAll [.createOrganization ownerName ⟨1, 10, 0, 0⟩ ⟨ownerToken, 100, 0⟩] .empty

/-- The token of the key that is asked for. -/
def draw : KeyDraw := ⟨"DDDDDDDDcccccccccccccccccccccccc".toList, 200, 0⟩

/-- The raw key of the draw is not accepted yet. -/
theorem not_accepts : ¬ store.Accepts deployment.hashKey (generateRawKey draw.token) := by
  have hrejected : store.authenticated id (some (generateRawKey draw.token)) =
      .error invalidKey := by
    decide +kernel
  rintro ⟨context, hcontext⟩
  exact absurd (hcontext.symm.trans hrejected) (by simp)

/-- The owner's key is authorized to manage keys. -/
theorem owner_authorized :
    store.authorized deployment.hashKey .manageApiKeys (some (generateRawKey ownerToken)) =
      .ok ⟨1, 10, .owner, 100, keyPrefix (generateRawKey ownerToken)⟩ := by
  decide +kernel

end HalfDone

/-- A failure of the first write spares the creation, and the revocation of the owner's key is
spared by a failure of its first write and by none. -/
theorem requests_spared :
    HalfDone.deployment.CreationAtomic HalfDone.store
      (some (generateRawKey HalfDone.ownerToken)) ownerName .member HalfDone.draw ⟨300, 0⟩
      (some 1) ∧
    HalfDone.deployment.RevocationAtomic HalfDone.store
      (some (generateRawKey HalfDone.ownerToken))
      (keyPrefix (generateRawKey HalfDone.ownerToken)) ⟨300, 0⟩ (some 3) ∧
    HalfDone.deployment.RevocationAtomic HalfDone.store
      (some (generateRawKey HalfDone.ownerToken))
      (keyPrefix (generateRawKey HalfDone.ownerToken)) ⟨300, 0⟩ none := by
  refine ⟨?_, ?_, ?_⟩
  · refine ((atomic_iff_spared HalfDone.deployment HalfDone.store _ (some 1)).1 _ _ _ _
      HalfDone.not_accepts).2 ?_
    intro context hcontext hrole n hn
    cases hn
    exact .inl le_rfl
  · refine ((atomic_iff_spared HalfDone.deployment HalfDone.store _ (some 3)).2 _ _).2 ?_
    intro context key hcontext hkey htenant
    exact .inl le_rfl
  · refine ((atomic_iff_spared HalfDone.deployment HalfDone.store _ none).2 _ _).2 ?_
    intro context key hcontext hkey htenant
    -- the caller is the owner, whose tenant lists the key
    have hcaller := HalfDone.owner_authorized.symm.trans hcontext
    cases hcaller
    have hlisted : keyPrefix (generateRawKey HalfDone.ownerToken) ∈
        HalfDone.store.tenantKeys 10 := by decide +kernel
    exact hlisted

/-- The owner asks for a key and its event cannot be pushed: the request ends in an error, and
the key is accepted all the same. -/
theorem creation_half_done :
    (HalfDone.deployment.attempt HalfDone.store
      (.createApiKey (some (generateRawKey HalfDone.ownerToken)) ownerName .member HalfDone.draw
        ⟨300, 0⟩) (some 3)).1 = none ∧
    ¬ HalfDone.deployment.CreationAtomic HalfDone.store
      (some (generateRawKey HalfDone.ownerToken)) ownerName .member HalfDone.draw ⟨300, 0⟩
      (some 3) := by
  refine ⟨by decide +kernel, ?_⟩
  rw [creationAtomic_iff_spared HalfDone.not_accepts]
  intro hspared
  have hlate := hspared _ HalfDone.owner_authorized (by decide) 3 rfl
  omega

end ProductIntelligence
