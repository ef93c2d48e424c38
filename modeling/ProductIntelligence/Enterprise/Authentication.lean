import ProductIntelligence.Enterprise.Api

/-!
# Which keys authenticate

Keys are created and revoked, over any tenants and in any order.  The component is there to
keep a list of keys: the ones returned so far, each with a flag that says whether it was
revoked.  A record is stored under the first twelve characters of its raw key, so a second
key with the same opening takes the place of the first.

## Main definitions

* `KeyCall`, `KeyCall.program`, `afterCalls` — the calls, and the store after some of them.
* `IssuedKey`, `issuedKeys` — the keys as their holders know them.
* `Exact` — authentication and the listings say what the list of keys says.
* `HoldsKeys` — the store holds every key of the list under its prefix, and nothing else.

## Main results

* `holdsKeys_afterCalls` — with distinct prefixes the store holds the list.
* `exact_iff_prefixes_distinct` — when authentication and the listings are exact.

## References

`backend/app/services/enterprise/authentication_service.py`,
`backend/app/repositories/api_key_repository.py`,
`backend/app/services/enterprise/api_keys.py`.
-/

namespace ProductIntelligence

open Effects Program

/-! ### Calls -/

/-- A call that changes the keys. -/
inductive KeyCall
  | create (organizationId tenantId : UUID) (name : Name) (role : Role) (draw : KeyDraw)
  | revoke (lookupPrefix : Text)

/-- The program of a call. -/
def KeyCall.program (hashKey : Text → Text) : KeyCall → EnterpriseProgram Unit
  | .create organizationId tenantId name role draw => do
    let _ ← AuthenticationService.createApiKey hashKey organizationId tenantId name role draw
    return ()
  | .revoke lookupPrefix => do
    let _ ← ApiKeyRepository.revoke lookupPrefix
    return ()

/-- The store after some calls, the first of them first. -/
def afterCalls (hashKey : Text → Text) (order : SetOrder) (calls : List KeyCall)
    (s : EnterpriseStore) : EnterpriseStore :=
  calls.foldl (fun s call => ((call.program hashKey).run (EnterpriseStore.exec order) s).2) s

/-! ### The keys as their holders know them -/

/-- A returned raw key and what it stands for. -/
structure IssuedKey where
  rawKey : Text
  key : ApiKey
  deriving DecidableEq

/-- The key that a creation returns. -/
def IssuedKey.new (hashKey : Text → Text) (organizationId tenantId : UUID) (name : Name)
    (role : Role) (draw : KeyDraw) : IssuedKey where
  rawKey := generateRawKey draw.token
  key := newApiKey hashKey organizationId tenantId name role draw

/-- Set the flag of a key with the given prefix. -/
def IssuedKey.revokeIf (lookupPrefix : Text) (issued : IssuedKey) : IssuedKey :=
  if issued.key.lookupPrefix = lookupPrefix then { issued with key := issued.key.revoke }
  else issued

/-- What a call does to the list of keys. -/
def KeyCall.updateKeys (hashKey : Text → Text) (keys : List IssuedKey) :
    KeyCall → List IssuedKey
  | .create organizationId tenantId name role draw =>
    keys ++ [IssuedKey.new hashKey organizationId tenantId name role draw]
  | .revoke lookupPrefix => keys.map (IssuedKey.revokeIf lookupPrefix)

/-- The keys returned by some calls, with their flags. -/
def issuedKeys (hashKey : Text → Text) (calls : List KeyCall) : List IssuedKey :=
  calls.foldl (KeyCall.updateKeys hashKey) []

/-- **Exactness**: a raw key authenticates exactly when it was returned and not revoked since,
and as whoever it was created for; a tenant's listing is its keys. -/
def Exact (hashKey : Text → Text) (order : SetOrder) (s : EnterpriseStore)
    (keys : List IssuedKey) : Prop :=
  (∀ rawKey context,
    ((AuthenticationService.authenticate hashKey (some rawKey)).run (EnterpriseStore.exec order)
        s).1 = .ok context ↔
      ∃ issued ∈ keys, issued.rawKey = rawKey ∧ issued.key.revoked = false ∧
        issued.key.context = context) ∧
    ∀ tenantId,
      (((ApiKeyRepository.listByTenant tenantId).run (EnterpriseStore.exec order) s).1).Perm
        ((keys.filter fun issued => issued.key.tenantId = tenantId).map IssuedKey.key)

/-! ### What the store holds -/

variable {hashKey : Text → Text} {order : SetOrder}

/-- The record of a key carries the prefix and the hash of its raw key. -/
def IssuedKey.Genuine (hashKey : Text → Text) (issued : IssuedKey) : Prop :=
  issued.rawKey ≠ [] ∧ issued.key.lookupPrefix = keyPrefix issued.rawKey ∧
    issued.key.keyHash = hashKey issued.rawKey

/-- The store holds the keys of the list: each under its prefix and in its tenant's index. -/
structure HoldsKeys (s : EnterpriseStore) (keys : List IssuedKey) : Prop where
  apiKey_iff : ∀ lookupPrefix key, s.apiKey lookupPrefix = some key ↔
    ∃ issued ∈ keys, issued.key = key ∧ key.lookupPrefix = lookupPrefix
  nodup_tenantKeys : ∀ tenantId, (s.tenantKeys tenantId).Nodup
  mem_tenantKeys : ∀ tenantId lookupPrefix, lookupPrefix ∈ s.tenantKeys tenantId ↔
    ∃ issued ∈ keys, issued.key.tenantId = tenantId ∧ issued.key.lookupPrefix = lookupPrefix

theorem genuine_new (organizationId tenantId : UUID) (name : Name) (role : Role)
    (draw : KeyDraw) :
    (IssuedKey.new hashKey organizationId tenantId name role draw).Genuine hashKey :=
  ⟨generateRawKey_ne_nil draw.token, rfl, rfl⟩

/-- Revoking changes nothing but the flag. -/
theorem revokeIf_frame (lookupPrefix : Text) (issued : IssuedKey) :
    (issued.revokeIf lookupPrefix).rawKey = issued.rawKey ∧
      (issued.revokeIf lookupPrefix).key.lookupPrefix = issued.key.lookupPrefix ∧
      (issued.revokeIf lookupPrefix).key.keyHash = issued.key.keyHash ∧
      (issued.revokeIf lookupPrefix).key.tenantId = issued.key.tenantId := by
  unfold IssuedKey.revokeIf
  split <;> exact ⟨rfl, rfl, rfl, rfl⟩

/-- Every key of the list is genuine. -/
theorem genuine_issuedKeys (hashKey : Text → Text) (calls : List KeyCall) :
    ∀ issued ∈ issuedKeys hashKey calls, issued.Genuine hashKey := by
  suffices h : ∀ keys : List IssuedKey, (∀ issued ∈ keys, issued.Genuine hashKey) →
      ∀ issued ∈ calls.foldl (KeyCall.updateKeys hashKey) keys, issued.Genuine hashKey from
    h [] (by simp)
  induction calls with
  | nil => exact fun _ hkeys => hkeys
  | cons call calls ih =>
    intro keys hkeys
    refine ih _ ?_
    cases call with
    | create organizationId tenantId name role draw =>
      intro issued hissued
      rcases List.mem_append.1 hissued with h | h
      · exact hkeys issued h
      · rw [List.mem_singleton.1 h]
        exact genuine_new organizationId tenantId name role draw
    | revoke lookupPrefix =>
      intro issued hissued
      obtain ⟨before, hbefore, rfl⟩ := List.mem_map.1 hissued
      obtain ⟨hraw, hpre, hhash, -⟩ := revokeIf_frame lookupPrefix before
      obtain ⟨hne, hp, hh⟩ := hkeys before hbefore
      exact ⟨by rw [hraw]; exact hne, by rw [hpre, hraw, hp], by rw [hhash, hraw, hh]⟩

/-- The record under each prefix after one is revoked. -/
theorem apiKey_revokeApiKey (s : EnterpriseStore) (revoked lookupPrefix : Text) :
    (s.revokeApiKey revoked).apiKey lookupPrefix =
      if lookupPrefix = revoked then (s.apiKey revoked).map ApiKey.revoke
      else s.apiKey lookupPrefix := by
  unfold EnterpriseStore.revokeApiKey
  cases hkey : s.apiKey revoked with
  | none =>
    dsimp only
    split
    · rename_i heq
      rw [heq, hkey]
      rfl
    · rfl
  | some key =>
    have hown := EnterpriseStore.lookupPrefix_eq hkey
    dsimp only
    split
    · rename_i heq
      rw [heq, ← hown]
      exact EnterpriseStore.apiKey_saveApiKey_self s key.revoke
    · rename_i hne
      refine EnterpriseStore.apiKey_saveApiKey_of_ne s key.revoke ?_
      rw [← hown] at hne
      exact hne

/-- Revoking a key leaves the indexes alone. -/
@[simp] theorem tenantKeys_revokeApiKey (s : EnterpriseStore) (lookupPrefix : Text) :
    (s.revokeApiKey lookupPrefix).tenantKeys = s.tenantKeys := by
  unfold EnterpriseStore.revokeApiKey
  split <;> rfl

/-- What holds of an element of a list with one more element. -/
theorem exists_mem_concat {α : Type*} {p : α → Prop} {l : List α} {a : α} :
    (∃ b ∈ l ++ [a], p b) ↔ (∃ b ∈ l, p b) ∨ p a := by
  simp [or_and_right, exists_or]

/-- A new key under a prefix of its own is held with the others. -/
theorem HoldsKeys.create {s : EnterpriseStore} {keys : List IssuedKey} (h : HoldsKeys s keys)
    {issued : IssuedKey}
    (hfresh : ∀ other ∈ keys, other.key.lookupPrefix ≠ issued.key.lookupPrefix) :
    HoldsKeys (s.createApiKey issued.key) (keys ++ [issued]) where
  apiKey_iff := by
    intro lookupPrefix key
    show (s.saveApiKey issued.key).apiKey lookupPrefix = some key ↔ _
    rw [exists_mem_concat]
    by_cases hpre : lookupPrefix = issued.key.lookupPrefix
    · subst hpre
      rw [EnterpriseStore.apiKey_saveApiKey_self]
      constructor
      · intro hkey
        cases hkey
        exact .inr ⟨rfl, rfl⟩
      · rintro (⟨other, hother, rfl, heq⟩ | ⟨rfl, -⟩)
        · exact absurd heq (hfresh other hother)
        · rfl
    · rw [EnterpriseStore.apiKey_saveApiKey_of_ne _ _ hpre, h.apiKey_iff]
      refine (or_iff_left ?_).symm
      rintro ⟨rfl, heq⟩
      exact hpre heq.symm
  nodup_tenantKeys := by
    intro tenantId
    unfold EnterpriseStore.createApiKey
    dsimp only
    by_cases htenant : tenantId = issued.key.tenantId
    · subst htenant
      rw [Function.update_self]
      exact nodup_sadd (h.nodup_tenantKeys _)
    · rw [Function.update_of_ne htenant]
      exact h.nodup_tenantKeys tenantId
  mem_tenantKeys := by
    intro tenantId lookupPrefix
    unfold EnterpriseStore.createApiKey
    dsimp only
    rw [exists_mem_concat]
    by_cases htenant : tenantId = issued.key.tenantId
    · subst htenant
      rw [Function.update_self, mem_sadd, h.mem_tenantKeys, or_comm]
      refine or_congr_right ⟨?_, ?_⟩
      · rintro rfl
        exact ⟨rfl, rfl⟩
      · rintro ⟨-, hpre⟩
        exact hpre.symm
    · rw [Function.update_of_ne htenant, h.mem_tenantKeys]
      refine (or_iff_left ?_).symm
      rintro ⟨hown, -⟩
      exact htenant hown.symm

/-- Revoking a key sets the flag in the store and in the list alike. -/
theorem HoldsKeys.revoke {s : EnterpriseStore} {keys : List IssuedKey} (h : HoldsKeys s keys)
    (revoked : Text) :
    HoldsKeys (s.revokeApiKey revoked) (keys.map (IssuedKey.revokeIf revoked)) where
  apiKey_iff := by
    intro lookupPrefix key
    rw [apiKey_revokeApiKey]
    split
    · rename_i heq
      subst heq
      simp only [Option.map_eq_some_iff, h.apiKey_iff, List.mem_map]
      constructor
      · rintro ⟨_, ⟨issued, hissued, rfl, hpre⟩, rfl⟩
        refine ⟨_, ⟨issued, hissued, rfl⟩, ?_, hpre⟩
        rw [IssuedKey.revokeIf, if_pos hpre]
      · rintro ⟨_, ⟨issued, hissued, rfl⟩, rfl, hpre⟩
        rw [(revokeIf_frame lookupPrefix issued).2.1] at hpre
        refine ⟨issued.key, ⟨issued, hissued, rfl, hpre⟩, ?_⟩
        rw [IssuedKey.revokeIf, if_pos hpre]
    · rename_i hne
      simp only [h.apiKey_iff, List.mem_map]
      constructor
      · rintro ⟨issued, hissued, rfl, hpre⟩
        refine ⟨_, ⟨issued, hissued, rfl⟩, ?_, hpre⟩
        rw [IssuedKey.revokeIf, if_neg (hpre ▸ hne)]
      · rintro ⟨_, ⟨issued, hissued, rfl⟩, rfl, hpre⟩
        rw [(revokeIf_frame revoked issued).2.1] at hpre
        refine ⟨issued, hissued, ?_, ?_⟩
        · rw [IssuedKey.revokeIf, if_neg (hpre ▸ hne)]
        · rw [(revokeIf_frame revoked issued).2.1, hpre]
  nodup_tenantKeys := by
    intro tenantId
    rw [tenantKeys_revokeApiKey]
    exact h.nodup_tenantKeys tenantId
  mem_tenantKeys := by
    intro tenantId lookupPrefix
    rw [tenantKeys_revokeApiKey, h.mem_tenantKeys]
    simp only [List.mem_map]
    constructor
    · rintro ⟨issued, hissued, hown, hpre⟩
      obtain ⟨-, hsame, -, htenant⟩ := revokeIf_frame revoked issued
      exact ⟨_, ⟨issued, hissued, rfl⟩, htenant.trans hown, hsame.trans hpre⟩
    · rintro ⟨_, ⟨issued, hissued, rfl⟩, hown, hpre⟩
      obtain ⟨-, hsame, -, htenant⟩ := revokeIf_frame revoked issued
      exact ⟨issued, hissued, htenant.symm.trans hown, hsame.symm.trans hpre⟩

theorem holdsKeys_empty : HoldsKeys EnterpriseStore.empty [] where
  apiKey_iff := by simp [EnterpriseStore.apiKey, EnterpriseStore.empty, Keyed.lookup]
  nodup_tenantKeys := fun _ => List.nodup_nil
  mem_tenantKeys := by simp [EnterpriseStore.empty]

/-- **With distinct prefixes the store holds the list of keys**, after any calls. -/
theorem holdsKeys_afterCalls (hashKey : Text → Text) (order : SetOrder) (calls : List KeyCall)
    (hdistinct : ((issuedKeys hashKey calls).map fun issued => issued.key.lookupPrefix).Nodup) :
    HoldsKeys (afterCalls hashKey order calls EnterpriseStore.empty)
      (issuedKeys hashKey calls) := by
  -- by induction on the calls, the last one last
  induction calls using List.reverseRecOn with
  | nil => exact holdsKeys_empty
  | append_singleton calls call ih =>
    rw [issuedKeys, List.foldl_append] at hdistinct ⊢
    rw [afterCalls, List.foldl_append]
    cases call with
    | create organizationId tenantId name role draw =>
      rw [List.foldl_cons, List.foldl_nil, KeyCall.updateKeys, List.map_append,
        List.nodup_append] at hdistinct
      have hfresh : ∀ other ∈ issuedKeys hashKey calls, other.key.lookupPrefix ≠
          (IssuedKey.new hashKey organizationId tenantId name role draw).key.lookupPrefix :=
        fun other hother => hdistinct.2.2 _ (List.mem_map_of_mem hother) _ (by simp)
      exact (ih hdistinct.1).create hfresh
    | revoke lookupPrefix =>
      have hbefore : ((issuedKeys hashKey calls).map
          fun issued => issued.key.lookupPrefix).Nodup := by
        rw [List.foldl_cons, List.foldl_nil, KeyCall.updateKeys, List.map_map] at hdistinct
        have hsame : (fun issued : IssuedKey => issued.key.lookupPrefix) ∘
            IssuedKey.revokeIf lookupPrefix = fun issued => issued.key.lookupPrefix :=
          funext fun issued => (revokeIf_frame lookupPrefix issued).2.1
        rwa [hsame] at hdistinct
      have hstep := (ih hbefore).revoke lookupPrefix
      rw [List.foldl_cons, List.foldl_nil, KeyCall.program, run_bind, run_revoke]
      exact hstep

/-! ### Exactness -/

/-- The listing of a tenant whose keys the store holds, when no prefix is used twice. -/
theorem listing_perm {s : EnterpriseStore} {keys : List IssuedKey} (h : HoldsKeys s keys)
    (hdistinct : (keys.map fun issued => issued.key.lookupPrefix).Nodup) (tenantId : UUID) :
    (s.listing order tenantId).Perm
      ((keys.filter fun issued => issued.key.tenantId = tenantId).map IssuedKey.key) := by
  set own := keys.filter fun issued => issued.key.tenantId = tenantId
  -- the index holds the prefixes of the tenant's keys
  have hindex : (s.tenantKeys tenantId).Perm (own.map fun issued => issued.key.lookupPrefix) := by
    refine (List.perm_ext_iff_of_nodup (h.nodup_tenantKeys tenantId)
      (hdistinct.sublist (List.filter_sublist.map _))).2 ?_
    intro lookupPrefix
    rw [h.mem_tenantKeys]
    simp [and_assoc]
  -- and under each of them is the record of the key
  have hrecords : (own.map fun issued => issued.key.lookupPrefix).filterMap s.apiKey =
      own.map IssuedKey.key := by
    rw [List.filterMap_map, ← List.filterMap_eq_map]
    refine List.filterMap_congr fun issued hissued => ?_
    exact (h.apiKey_iff _ _).2 ⟨issued, List.mem_of_mem_filter hissued, rfl, rfl⟩
  rw [EnterpriseStore.listing, EnterpriseStore.stored, ← hrecords]
  exact ((order.perm _).trans hindex).filterMap _

/-- **When authentication and the listings are exact**: after any calls that returned distinct
raw keys, exactly when no two of the keys open with the same twelve characters. -/
theorem exact_iff_prefixes_distinct (hinjective : Function.Injective hashKey) (order : SetOrder)
    (calls : List KeyCall)
    (hraw : ((issuedKeys hashKey calls).map IssuedKey.rawKey).Nodup) :
    Exact hashKey order (afterCalls hashKey order calls EnterpriseStore.empty)
        (issuedKeys hashKey calls) ↔
      ((issuedKeys hashKey calls).map fun issued => keyPrefix issued.rawKey).Nodup := by
  have hgenuine := genuine_issuedKeys hashKey calls
  have hprefixes : (issuedKeys hashKey calls).map (fun issued => keyPrefix issued.rawKey) =
      (issuedKeys hashKey calls).map fun issued => issued.key.lookupPrefix :=
    List.map_congr_left fun issued hissued => (hgenuine issued hissued).2.1.symm
  rw [hprefixes]
  set s := afterCalls hashKey order calls EnterpriseStore.empty with hs
  set keys := issuedKeys hashKey calls with hkeys
  constructor
  · rintro ⟨-, hlisting⟩
    -- a listing shows every key of the tenant, so each is still under its prefix
    have hstored : ∀ issued ∈ keys, s.apiKey issued.key.lookupPrefix = some issued.key := by
      intro issued hissued
      have hperm := hlisting issued.key.tenantId
      rw [run_listByTenant] at hperm
      have hlisted : issued.key ∈ s.listing order issued.key.tenantId :=
        hperm.mem_iff.2 (List.mem_map_of_mem (List.mem_filter.2 ⟨hissued, by simp⟩))
      exact EnterpriseStore.apiKey_of_mem_listing hlisted
    refine List.Nodup.map_on ?_ hraw.of_map
    intro issued hissued other hother heq
    have hsame : issued.key = other.key := by
      have h := hstored issued hissued
      rw [heq, hstored other hother] at h
      exact (Option.some.inj h).symm
    refine List.inj_on_of_nodup_map hraw hissued hother (hinjective ?_)
    rw [← (hgenuine issued hissued).2.2, ← (hgenuine other hother).2.2, hsame]
  · intro hdistinct
    have hholds := holdsKeys_afterCalls hashKey order calls hdistinct
    refine ⟨?_, ?_⟩
    · intro rawKey context
      rw [run_authenticate, authenticated_eq_ok]
      constructor
      · rintro ⟨raw, key, hsome, -, hkey, hactive, hhash, rfl⟩
        obtain ⟨issued, hissued, rfl, -⟩ := (hholds.apiKey_iff _ _).1 hkey
        rw [(hgenuine issued hissued).2.2] at hhash
        refine ⟨issued, hissued, ?_, hactive, rfl⟩
        rw [← hinjective hhash, Option.some.inj hsome]
      · rintro ⟨issued, hissued, rfl, hactive, rfl⟩
        obtain ⟨hne, hpre, hhash⟩ := hgenuine issued hissued
        exact ⟨issued.rawKey, issued.key, rfl, hne,
          (hholds.apiKey_iff _ _).2 ⟨issued, hissued, rfl, hpre⟩, hactive, hhash.symm, rfl⟩
    · intro tenantId
      rw [run_listByTenant]
      exact listing_perm hholds hdistinct tenantId

/-! ### Two keys with one opening -/

namespace SameOpening

/-- A key for one tenant, then one for another, whose tokens differ after eight characters. -/
def calls : List KeyCall :=
  [.create 1 10 ownerName .admin ⟨"AAAAAAAAbbbbbbbbbbbbbbbbbbbbbbbb".toList, 100, 0⟩,
    .create 2 20 ownerName .viewer ⟨"AAAAAAAAcccccccccccccccccccccccc".toList, 200, 0⟩]

/-- The first of the two raw keys. -/
def first : Text := generateRawKey "AAAAAAAAbbbbbbbbbbbbbbbbbbbbbbbb".toList

end SameOpening

/-- Of two keys with the same opening the first is neither accepted nor listed: its tenant's
listing shows the key of the other tenant. -/
theorem first_key_lost :
    ((issuedKeys id SameOpening.calls).map IssuedKey.rawKey).Nodup ∧
    ((AuthenticationService.authenticate id (some SameOpening.first)).run
      (EnterpriseStore.exec .insertion)
      (afterCalls id .insertion SameOpening.calls EnterpriseStore.empty)).1 = .error invalidKey ∧
    ((((ApiKeyRepository.listByTenant 10).run (EnterpriseStore.exec .insertion)
      (afterCalls id .insertion SameOpening.calls EnterpriseStore.empty)).1).map ApiKey.tenantId =
        [20]) ∧
    ¬ Exact id .insertion (afterCalls id .insertion SameOpening.calls EnterpriseStore.empty)
      (issuedKeys id SameOpening.calls) := by
  have hlost : ((AuthenticationService.authenticate id (some SameOpening.first)).run
      (EnterpriseStore.exec .insertion)
      (afterCalls id .insertion SameOpening.calls EnterpriseStore.empty)).1 =
        .error invalidKey := by
    decide +kernel
  refine ⟨by decide +kernel, hlost, by decide +kernel, ?_⟩
  rintro ⟨hauthenticate, -⟩
  have hfound : ∃ issued ∈ issuedKeys id SameOpening.calls,
      issued.rawKey = SameOpening.first ∧ issued.key.revoked = false := by
    decide +kernel
  obtain ⟨issued, hissued, hraw, hactive⟩ := hfound
  have hok := (hauthenticate SameOpening.first issued.key.context).2
    ⟨issued, hissued, hraw, hactive, rfl⟩
  rw [hlost] at hok
  cases hok

namespace TwoTenants

/-- A key for each of two tenants, the first of which is then revoked. -/
def calls : List KeyCall :=
  [.create 1 10 ownerName .admin ⟨"AAAAAAAAbbbbbbbbbbbbbbbbbbbbbbbb".toList, 100, 0⟩,
    .create 2 20 ownerName .viewer ⟨"DDDDDDDDcccccccccccccccccccccccc".toList, 200, 0⟩,
    .revoke "pik_AAAAAAAA".toList]

end TwoTenants

/-- Two keys with different openings are told apart. -/
theorem two_keys_exact :
    Exact id .insertion (afterCalls id .insertion TwoTenants.calls EnterpriseStore.empty)
      (issuedKeys id TwoTenants.calls) :=
  (exact_iff_prefixes_distinct Function.injective_id .insertion TwoTenants.calls
    (by decide +kernel)).2 (by decide +kernel)

end ProductIntelligence
