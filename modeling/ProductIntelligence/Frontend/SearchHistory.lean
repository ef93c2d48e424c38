import ProductIntelligence.Lists.MoveToFront
import ProductIntelligence.Products.Double
import ProductIntelligence.Text.JavaScript

/-!
# Search history

The front end keeps the searches that were run, newest first, and the filters that were saved under
a name.  A search that is run again moves to the front; the oldest one is dropped when there are too
many.  A filter that is saved again under the same name, whatever its case, replaces the earlier one.

An operation is given the identifier and the time that it would make.  The store is kept in the
browser's storage between sessions, which is not part of the model.

## Main definitions

* `sameSearch` — two entries are for the same search.
* `SearchHistoryState`, `Action`, `perform`, `run` — the store, its operations and their runs.
* `recorded` — what a run records.
* `WellFormed log state` — the history is a part of the log, newest first, and bounded; neither a
  search nor a name is in the store twice.
* `PutsFirst` — what recording does to the searches there are.

## Main results

* `WellFormed.perform` — every operation keeps the store well-formed.
* `searchHistory_wellFormed` — **every run does, and recording drops nothing but the oldest search
  of a full history**.

## References

`frontend/src/features/search/search-history.ts`.
-/

namespace ProductIntelligence
namespace Frontend

open JavaScript MoveToFront

/-! ### Searches -/

/-- `SearchMode`. -/
inductive SearchMode
  | text
  | image
  | hybrid
  deriving DecidableEq

/-- `SearchFilterSnapshot`. -/
structure SearchFilterSnapshot where
  topK : Double
  brand : Text
  category : Text
  minPrice : Text
  maxPrice : Text

/-- `Omit<SearchHistoryEntry, "id" | "at">`. -/
structure NewEntry where
  mode : SearchMode
  query : Text
  imageName : Option Text
  filters : SearchFilterSnapshot
  resultCount : ℕ
  latencyMs : Double

/-- `SearchHistoryEntry`, with its time of recording. -/
structure SearchHistoryEntry extends NewEntry where
  id : Text
  recordedAt : ℕ

/-- `x === y` for numbers. -/
def strictEquals : Double → Double → Bool
  | .finite x, .finite y => x = y
  | .infinity negative, .infinity negative' => negative = negative'
  | .finite _, .infinity _ => false
  | .finite _, .nan => false
  | .infinity _, .finite _ => false
  | .infinity _, .nan => false
  | .nan, _ => false

/-- `sameSearch`. -/
def sameSearch (a : SearchHistoryEntry) (b : NewEntry) : Bool :=
  a.mode = b.mode && a.query = b.query && a.imageName = b.imageName &&
    strictEquals a.filters.topK b.filters.topK && a.filters.brand = b.filters.brand &&
    a.filters.category = b.filters.category && a.filters.minPrice = b.filters.minPrice &&
    a.filters.maxPrice = b.filters.maxPrice

theorem strictEquals_iff {x y : Double} : strictEquals x y ↔ x = y ∧ x ≠ .nan := by
  cases x <;> cases y <;> simp [strictEquals]

/-- What is compared of a search. -/
def NewEntry.search (entry : NewEntry) : SearchMode × Text × Option Text × Double × List Text :=
  (entry.mode, entry.query, entry.imageName, entry.filters.topK,
    [entry.filters.brand, entry.filters.category, entry.filters.minPrice, entry.filters.maxPrice])

/-- Entries are for the same search if they agree on what is compared of it. -/
theorem sameSearch_iff {a : SearchHistoryEntry} {b : NewEntry} :
    sameSearch a b ↔ a.search = b.search ∧ b.filters.topK ≠ .nan := by
  unfold sameSearch NewEntry.search
  simp only [Bool.and_eq_true, decide_eq_true_eq, strictEquals_iff, Prod.mk.injEq,
    List.cons.injEq, and_true]
  constructor
  · rintro ⟨⟨⟨⟨⟨⟨⟨hmode, hquery⟩, himage⟩, htop, hnan⟩, hbrand⟩, hcategory⟩, hmin⟩, hmax⟩
    exact ⟨⟨hmode, hquery, himage, htop, hbrand, hcategory, hmin, hmax⟩, htop ▸ hnan⟩
  · rintro ⟨⟨hmode, hquery, himage, htop, hbrand, hcategory, hmin, hmax⟩, hnan⟩
    exact ⟨⟨⟨⟨⟨⟨⟨hmode, hquery⟩, himage⟩, htop, htop ▸ hnan⟩, hbrand⟩, hcategory⟩, hmin⟩, hmax⟩

theorem sameSearch_comm (a b : SearchHistoryEntry) :
    sameSearch a b.toNewEntry = sameSearch b a.toNewEntry := by
  rw [Bool.eq_iff_iff, sameSearch_iff, sameSearch_iff, eq_comm (a := b.search)]
  refine and_congr_right fun hsearch => ?_
  have htop : a.filters.topK = b.filters.topK := congrArg (fun search => search.2.2.2.1) hsearch
  rw [htop]

/-! ### The store -/

/-- `SavedFilter`. -/
structure SavedFilter where
  id : Text
  name : Text
  filters : SearchFilterSnapshot

/-- `MAX_HISTORY`. -/
def maxHistory : ℕ := 20

/-- `SearchHistoryState`. -/
structure SearchHistoryState where
  history : List SearchHistoryEntry
  saved : List SavedFilter

namespace SearchHistoryState

/-- The store at first. -/
def empty : SearchHistoryState := ⟨[], []⟩

/-- `record`, with the new identifier and the time. -/
def record (state : SearchHistoryState) (entry : NewEntry) (newId : Text) (now : ℕ) :
    SearchHistoryState :=
  let deduped := state.history.filter fun e => !sameSearch e entry
  let next : SearchHistoryEntry := { entry with id := newId, recordedAt := now }
  { state with history := (next :: deduped).take maxHistory }

/-- `clearHistory`. -/
def clearHistory (state : SearchHistoryState) : SearchHistoryState := { state with history := [] }

/-- `removeEntry`. -/
def removeEntry (state : SearchHistoryState) (id : Text) : SearchHistoryState :=
  { state with history := state.history.filter fun e => e.id ≠ id }

/-- `saveFilter`, with the new identifier. -/
def saveFilter (state : SearchHistoryState) (name : Text) (filters : SearchFilterSnapshot)
    (newId : Text) : SearchHistoryState :=
  let trimmed := trim name
  if trimmed = [] then state
  else
    let withoutSameName := state.saved.filter fun f => toLowerCase f.name ≠ toLowerCase trimmed
    { state with saved := { id := newId, name := trimmed, filters } :: withoutSameName }

/-- `removeSavedFilter`. -/
def removeSavedFilter (state : SearchHistoryState) (id : Text) : SearchHistoryState :=
  { state with saved := state.saved.filter fun f => f.id ≠ id }

end SearchHistoryState

/-- An operation of the store, with the identifier and the time that it makes. -/
inductive Action
  | record (entry : NewEntry) (newId : Text) (now : ℕ)
  | clearHistory
  | removeEntry (id : Text)
  | saveFilter (name : Text) (filters : SearchFilterSnapshot) (newId : Text)
  | removeSavedFilter (id : Text)

/-- What an operation does. -/
def perform (state : SearchHistoryState) : Action → SearchHistoryState
  | .record entry newId now => state.record entry newId now
  | .clearHistory => state.clearHistory
  | .removeEntry id => state.removeEntry id
  | .saveFilter name filters newId => state.saveFilter name filters newId
  | .removeSavedFilter id => state.removeSavedFilter id

/-- The store after a run. -/
def run (actions : List Action) : SearchHistoryState := actions.foldl perform .empty

/-- The entry that an operation records. -/
def Action.entry? : Action → Option SearchHistoryEntry
  | .record entry newId now => some { entry with id := newId, recordedAt := now }
  | .clearHistory => none
  | .removeEntry _ => none
  | .saveFilter _ _ _ => none
  | .removeSavedFilter _ => none

/-- The entries that a run records, in its order. -/
def recorded (actions : List Action) : List SearchHistoryEntry := actions.filterMap Action.entry?

/-! ### Well-formed stores -/

/-- The history is a part of the log, newest first, bounded, and has no search twice. -/
structure WellFormedHistory (log history : List SearchHistoryEntry) : Prop where
  bounded : history.length ≤ maxHistory
  newestFirst : history.Sublist log.reverse
  distinct : history.Pairwise fun a b => ¬ sameSearch a b.toNewEntry

/-- Two filters have the same name but for its case. -/
def sameName (f g : SavedFilter) : Bool := toLowerCase f.name = toLowerCase g.name

/-- Every saved filter has a name, which is trimmed, and no two have the same. -/
structure WellFormedSaved (saved : List SavedFilter) : Prop where
  named : ∀ f ∈ saved, trim f.name = f.name ∧ f.name ≠ []
  distinct : saved.Pairwise fun f g => ¬ sameName f g

/-- A store that is well-formed after what was recorded. -/
structure WellFormed (log : List SearchHistoryEntry) (state : SearchHistoryState) : Prop where
  history : WellFormedHistory log state.history
  saved : WellFormedSaved state.saved

namespace WellFormedHistory

variable {log history : List SearchHistoryEntry}

/-- What remains after entries are removed is well-formed. -/
theorem sublist (h : WellFormedHistory log history) {rest : List SearchHistoryEntry}
    (hrest : rest.Sublist history) : WellFormedHistory log rest where
  bounded := hrest.length_le.trans h.bounded
  newestFirst := hrest.trans h.newestFirst
  distinct := h.distinct.sublist hrest

/-- What is recorded is the newest entry of the log. -/
theorem moveToFront (h : WellFormedHistory log history) (next : SearchHistoryEntry) :
    WellFormedHistory (log ++ [next])
      ((moveToFront (fun a b => sameSearch a b.toNewEntry) next history).take maxHistory) where
  bounded := List.length_take_le _ _
  newestFirst := by
    rw [List.reverse_append]
    exact (List.take_sublist _ _).trans (sublist_moveToFront h.newestFirst next)
  distinct := (pairwise_moveToFront sameSearch_comm h.distinct next).sublist (List.take_sublist _ _)

/-- By a clock that does not go back, the times of the history do not increase. -/
theorem pairwise_recordedAt (h : WellFormedHistory log history)
    (hclock : log.Pairwise fun a b => a.recordedAt ≤ b.recordedAt) :
    history.Pairwise fun a b => b.recordedAt ≤ a.recordedAt :=
  (List.pairwise_reverse.2 hclock).sublist h.newestFirst

end WellFormedHistory

namespace WellFormedSaved

variable {saved : List SavedFilter}

theorem sublist (h : WellFormedSaved saved) {rest : List SavedFilter}
    (hrest : rest.Sublist saved) : WellFormedSaved rest where
  named := fun f hf => h.named f (hrest.subset hf)
  distinct := h.distinct.sublist hrest

theorem moveToFront (h : WellFormedSaved saved) {f : SavedFilter}
    (hf : trim f.name = f.name ∧ f.name ≠ []) : WellFormedSaved (moveToFront sameName f saved) where
  named := forall_mem_moveToFront hf h.named
  distinct := pairwise_moveToFront (fun f g => by simp only [sameName, eq_comm]) h.distinct f

end WellFormedSaved

theorem record_history (state : SearchHistoryState) (entry : NewEntry) (newId : Text) (now : ℕ) :
    (state.record entry newId now).history =
      (moveToFront (fun a b => sameSearch a b.toNewEntry)
        { entry with id := newId, recordedAt := now } state.history).take maxHistory := rfl

/-- A filter is saved under a name that is not blank. -/
theorem saveFilter_eq (state : SearchHistoryState) (name : Text) (filters : SearchFilterSnapshot)
    (newId : Text) :
    state.saveFilter name filters newId = state ∨
      trim name ≠ [] ∧ state.saveFilter name filters newId =
        { state with saved := moveToFront sameName ⟨newId, trim name, filters⟩ state.saved } := by
  unfold SearchHistoryState.saveFilter
  by_cases hblank : trim name = []
  · exact Or.inl (if_pos hblank)
  · refine Or.inr ⟨hblank, ?_⟩
    simp only [if_neg hblank, moveToFront, sameName, decide_not]

/-- **Every operation keeps the store well-formed.** -/
theorem WellFormed.perform {log : List SearchHistoryEntry} {state : SearchHistoryState}
    (h : WellFormed log state) (action : Action) :
    WellFormed (log ++ action.entry?.toList) (perform state action) := by
  cases action with
  | record entry newId now =>
    refine ⟨?_, h.saved⟩
    rw [Frontend.perform, record_history]
    exact h.history.moveToFront _
  | clearHistory =>
    rw [Action.entry?, Option.toList_none, List.append_nil]
    exact ⟨h.history.sublist (List.nil_sublist _), h.saved⟩
  | removeEntry id =>
    rw [Action.entry?, Option.toList_none, List.append_nil]
    exact ⟨h.history.sublist List.filter_sublist, h.saved⟩
  | saveFilter name filters newId =>
    rw [Action.entry?, Option.toList_none, List.append_nil]
    rcases saveFilter_eq state name filters newId with hsame | ⟨hname, hsaved⟩
    · rw [Frontend.perform, hsame]
      exact h
    · rw [Frontend.perform, hsaved]
      exact ⟨h.history, h.saved.moveToFront ⟨trim_trim name, hname⟩⟩
  | removeSavedFilter id =>
    rw [Action.entry?, Option.toList_none, List.append_nil]
    exact ⟨h.history, h.saved.sublist List.filter_sublist⟩

theorem recorded_cons (action : Action) (actions : List Action) :
    recorded (action :: actions) = action.entry?.toList ++ recorded actions := by
  cases action <;> rfl

/-- So does a run. -/
theorem WellFormed.foldl {log : List SearchHistoryEntry} {state : SearchHistoryState}
    (h : WellFormed log state) (actions : List Action) :
    WellFormed (log ++ recorded actions) (actions.foldl Frontend.perform state) := by
  induction actions generalizing log state with
  | nil =>
    rw [recorded, List.filterMap_nil, List.append_nil]
    exact h
  | cons action actions ih =>
    rw [recorded_cons, ← List.append_assoc]
    exact ih (h.perform action)

theorem wellFormed_empty : WellFormed [] .empty where
  history := ⟨Nat.zero_le _, List.Sublist.refl _, List.Pairwise.nil⟩
  saved := ⟨List.forall_mem_nil _, List.Pairwise.nil⟩

theorem wellFormed_run (actions : List Action) : WellFormed (recorded actions) (run actions) :=
  wellFormed_empty.foldl actions

/-- An entry is put first, and drops nothing for another search but the last of a full history. -/
structure PutsFirst (next : SearchHistoryEntry) (before after : List SearchHistoryEntry) :
    Prop where
  first : after.head? = some next
  dropped : ∀ e ∈ before, ¬ sameSearch e next.toNewEntry → e ∉ after →
    before.length = maxHistory ∧ before.getLast? = some e

theorem putsFirst_record {state : SearchHistoryState} (hbounded : state.history.length ≤ maxHistory)
    (entry : NewEntry) (newId : Text) (now : ℕ) :
    PutsFirst { entry with id := newId, recordedAt := now } state.history
      (perform state (.record entry newId now)).history where
  first := rfl
  dropped := by
    intro e he hsame hdropped
    rw [perform, record_history] at hdropped
    exact getLast?_of_not_mem_take hbounded he hsame hdropped

/-- **The store is well-formed after every run, and recording a search puts it first and drops none
but the oldest search of a full history.** -/
theorem searchHistory_wellFormed (actions : List Action) :
    WellFormed (recorded actions) (run actions) ∧
      ∀ entry newId now,
        PutsFirst { entry with id := newId, recordedAt := now } (run actions).history
          (perform (run actions) (.record entry newId now)).history := by
  have h := wellFormed_run actions
  exact ⟨h, fun entry newId now => putsFirst_record h.history.bounded entry newId now⟩

end Frontend
end ProductIntelligence
