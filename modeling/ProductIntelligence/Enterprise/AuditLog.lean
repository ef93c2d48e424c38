import ProductIntelligence.Enterprise.Repositories

/-!
# The audit log

Appending an event puts it at the head of its tenant's list and trims the list to the cap, so a
list holds the newest events of its tenant.  `AuditRepository.list_for_tenant` asks for the
indices 0 to `limit - 1` of it.  An end below zero counts from the other side: a limit of zero
reads the whole list, and a negative one all but the last events of it.

## Main definitions

* `AuditRepository.appendEach` — a run of appends.
* `newest` — the events of a tenant, newest first.
* `KeepsNewest` — a listing returns the newest events, whatever other tenants append.

## Main results

* `audit_appendEach` — what a run of appends leaves in the log of a tenant.
* `keepsNewest_iff` — **exactly which limits return the newest events**.

## References

`backend/app/repositories/audit_repository.py`, `backend/app/api/enterprise.py`.
-/

namespace ProductIntelligence

open Effects Program

/-! ### What the log holds -/

/-- The events of a tenant, newest first. -/
def newest (tenantId : UUID) (events : List AuditEvent) : List AuditEvent :=
  (events.filter fun event => event.tenantId = tenantId).reverse

theorem newest_concat (tenantId : UUID) (events : List AuditEvent) (event : AuditEvent) :
    newest tenantId (events ++ [event]) =
      if event.tenantId = tenantId then event :: newest tenantId events
      else newest tenantId events := by
  unfold newest
  rw [List.filter_append, List.reverse_append, List.filter_singleton]
  by_cases h : event.tenantId = tenantId <;> simp [h]

/-- Trimming before a push is the same as trimming after it only. -/
theorem take_cons_take {α : Type} (a : α) (l : List α) (n : ℕ) :
    (a :: l.take n).take n = (a :: l).take n := by
  cases n with
  | zero => rfl
  | succ n => rw [List.take_succ_cons, List.take_succ_cons, List.take_take, min_eq_left n.le_succ]

/-- Several appends, the first of them first. -/
def AuditRepository.appendEach : List AuditEvent → EnterpriseProgram Unit
  | [] => return ()
  | event :: events => do
    append event
    appendEach events

theorem run_appendEach (order : SetOrder) (s : EnterpriseStore) (events : List AuditEvent) :
    (AuditRepository.appendEach events).run (EnterpriseStore.exec order) s =
      ((), events.foldl EnterpriseStore.appendAudit s) := by
  induction events generalizing s with
  | nil => rfl
  | cons event events ih =>
    rw [AuditRepository.appendEach, run_bind, run_append]
    exact ih (s.appendAudit event)

/-- An append changes the log of its tenant only. -/
theorem audit_appendAudit (s : EnterpriseStore) (event : AuditEvent) (tenantId : UUID) :
    (s.appendAudit event).audit tenantId =
      if event.tenantId = tenantId then (event :: s.audit tenantId).take maxEventsPerTenant
      else s.audit tenantId := by
  unfold EnterpriseStore.appendAudit
  split
  · rename_i h
    subst h
    exact Function.update_self ..
  · rename_i h
    exact Function.update_of_ne (fun heq => h heq.symm) ..

/-- **The log of a tenant holds its newest events**, as many as the cap allows. -/
theorem audit_appendEach (events : List AuditEvent) (tenantId : UUID) :
    (events.foldl EnterpriseStore.appendAudit .empty).audit tenantId =
      (newest tenantId events).take maxEventsPerTenant := by
  induction events using List.reverseRecOn with
  | nil => rfl
  | append_singleton events event ih =>
    rw [List.foldl_concat, audit_appendAudit, ih, newest_concat]
    split
    · exact take_cons_take ..
    · rfl

/-! ### What a limit reads -/

/-- A range from the head up to a limit.  Below zero the limit counts from the end. -/
theorem listRange_limit {α : Type} (limit : ℤ) (l : List α) :
    listRange 0 (limit - 1) l =
      l.take (if 0 < limit then limit.toNat else (limit + l.length).toNat) := by
  by_cases hpos : 0 < limit
  · obtain ⟨n, hn⟩ : ∃ n : ℕ, limit - 1 = n := ⟨(limit - 1).toNat, by omega⟩
    have hlimit : limit.toNat = n + 1 := by omega
    rw [if_pos hpos, hn, listRange_zero, hlimit]
  · have hneg : limit - 1 < 0 := by omega
    rw [if_neg hpos]
    simp only [listRange, hneg, if_true, lt_irrefl, if_false, List.drop_zero, Int.toNat_zero]
    split
    · congr 1
      omega
    · have hnone : (limit + l.length).toNat = 0 := by omega
      rw [hnone, List.take_zero]

/-- Some appends, then a listing. -/
def AuditRepository.appendAndList (events : List AuditEvent) (tenantId : UUID) (limit : ℤ) :
    EnterpriseProgram (Option (List AuditEvent)) := do
  appendEach events
  listForTenant tenantId limit

/-- What a tenant's listing returns after some appends. -/
def listedAfter (order : SetOrder) (events : List AuditEvent) (tenantId : UUID) (limit : ℤ) :
    Option (List AuditEvent) :=
  ((AuditRepository.appendAndList events tenantId limit).run (EnterpriseStore.exec order) .empty).1

theorem listedAfter_eq (order : SetOrder) (events : List AuditEvent) (tenantId : UUID)
    (limit : ℤ) :
    listedAfter order events tenantId limit =
      if isIndex (limit - 1) then
        some (listRange 0 (limit - 1) ((newest tenantId events).take maxEventsPerTenant))
      else none := by
  unfold listedAfter AuditRepository.appendAndList
  rw [run_bind, run_appendEach, run_listForTenant, audit_appendEach]

/-- A listing returns the newest events of the tenant, up to the limit and the cap, and another
tenant's append changes nothing about it. -/
def KeepsNewest (order : SetOrder) (events : List AuditEvent) (tenantId : UUID) (limit : ℤ) :
    Prop :=
  let mine := newest tenantId events
  listedAfter order events tenantId limit =
      some (mine.take (min (min (max limit 0).toNat maxEventsPerTenant) mine.length)) ∧
    ∀ event, event.tenantId ≠ tenantId →
      listedAfter order (events ++ [event]) tenantId limit = listedAfter order events tenantId limit

/-- **Exactly which limits return the newest events**: positive ones that Redis reads, and those
so far below zero that nothing is left. -/
theorem keepsNewest_iff (order : SetOrder) (events : List AuditEvent) (tenantId : UUID)
    (limit : ℤ) :
    KeepsNewest order events tenantId limit ↔
      isIndex (limit - 1) ∧
        (0 < limit ∨ (min maxEventsPerTenant (newest tenantId events).length : ℕ) + limit ≤ 0) := by
  have hother : ∀ event : AuditEvent, event.tenantId ≠ tenantId →
      listedAfter order (events ++ [event]) tenantId limit =
        listedAfter order events tenantId limit := by
    intro event hne
    rw [listedAfter_eq, listedAfter_eq, newest_concat, if_neg hne]
  have hlength : ((newest tenantId events).take maxEventsPerTenant).length =
      min maxEventsPerTenant (newest tenantId events).length := List.length_take ..
  unfold KeepsNewest
  rw [and_iff_left hother, listedAfter_eq]
  by_cases hindex : isIndex (limit - 1) = true
  · rw [if_pos hindex, and_iff_right hindex, listRange_limit, hlength, List.take_take,
      Option.some_inj, List.take_eq_take_iff]
    split <;> omega
  · rw [if_neg hindex]
    exact iff_of_false (by simp) fun h => hindex h.1

/-- The first event of tenant 1. -/
def firstEvent : AuditEvent := ⟨7, 1, "pik_a".toList, "first".toList, none, [], 0⟩

/-- A limit of zero returns what there is. -/
theorem limit_zero_lists_everything : ¬ KeepsNewest .insertion [firstEvent] 1 0 := by
  intro h
  have hlisted : listedAfter .insertion [firstEvent] 1 0 = some [firstEvent] := by
    rw [listedAfter_eq]
    decide
  rw [KeepsNewest, hlisted] at h
  exact absurd h.1 (by decide)

end ProductIntelligence
