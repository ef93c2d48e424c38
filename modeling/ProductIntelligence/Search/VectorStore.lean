import ProductIntelligence.Lists.Keyed
import ProductIntelligence.Lists.TopK
import ProductIntelligence.Search.Filters
import ProductIntelligence.Search.Results

/-!
# The vector store

Two collections of points, one for image vectors and one for text vectors.  A point is
stored under its product id, so storing it again replaces it.  A search returns the best
points that match the filter; how ties are broken is left open.

## Main definitions

* `StoredPoint`, `Collection`, `VectorStore` — points, tables of points, and the two of them.
* `Collection.upsert`, `Collection.retrieve` — storing and reading a point.
* `ExactIndex` — a search that returns the exact nearest points.
* `ExactIndex.ofSimilarity` — the one that sorts all points.

## Main results

* `retrieve_upsert_self`, `retrieve_upsert_of_ne`, `upsert_eq_self` — what storing a point
  changes.
* `nodup_nearest`, `card_found` — the points a search returns.

## References

`backend/app/services/vectorstore/base.py`, `backend/app/services/vectorstore/qdrant_store.py`.
-/

namespace ProductIntelligence

open Ranking

variable {ι V : Type} [DecidableEq ι]

/-! ### Collections -/

/-- A point of a collection. -/
structure StoredPoint (ι V : Type) where
  productId : ι
  vector : V
  metadata : Payload
  deriving DecidableEq

/-- A collection: points with distinct product ids. -/
structure Collection (ι V : Type) where
  points : List (StoredPoint ι V)
  nodup : (points.map StoredPoint.productId).Nodup

/-- The collection of no points. -/
def Collection.empty : Collection ι V := ⟨[], List.nodup_nil⟩

omit [DecidableEq ι] in
theorem preserves_const (point : StoredPoint ι V) :
    Keyed.Preserves StoredPoint.productId point.productId fun _ => point :=
  fun _ _ => rfl

/-- Store a point, replacing the one with its id. -/
def Collection.upsert (collection : Collection ι V) (point : StoredPoint ι V) :
    Collection ι V where
  points := Keyed.update StoredPoint.productId point.productId (fun _ => point) collection.points
  nodup := Keyed.nodup_keys_update (preserves_const point) collection.nodup

/-- The point stored under an id. -/
def Collection.retrieve (collection : Collection ι V) (productId : ι) :
    Option (StoredPoint ι V) :=
  Keyed.lookup StoredPoint.productId productId collection.points

@[simp] theorem retrieve_upsert_self (collection : Collection ι V) (point : StoredPoint ι V) :
    (collection.upsert point).retrieve point.productId = some point :=
  Keyed.lookup_update_self (preserves_const point) _

theorem retrieve_upsert_of_ne (collection : Collection ι V) (point : StoredPoint ι V)
    {productId : ι} (h : productId ≠ point.productId) :
    (collection.upsert point).retrieve productId = collection.retrieve productId :=
  Keyed.lookup_update_of_ne (preserves_const point) h _

/-- Storing a point that is already there changes nothing. -/
theorem upsert_eq_self {collection : Collection ι V} {point : StoredPoint ι V}
    (h : collection.retrieve point.productId = some point) :
    collection.upsert point = collection := by
  have hpoints := Keyed.update_eq_self (f := fun _ => point) h rfl
  cases collection
  simpa [Collection.upsert] using hpoints

/-- Storing a point leaves every entry as it was exactly when it was already there. -/
theorem retrieve_upsert_eq_iff {collection : Collection ι V} {point : StoredPoint ι V} :
    (∀ productId, (collection.upsert point).retrieve productId =
      collection.retrieve productId) ↔ collection.retrieve point.productId = some point := by
  constructor
  · intro h
    rw [← h, retrieve_upsert_self]
  · intro h productId
    rw [upsert_eq_self h]

/-- The two collections. -/
structure VectorStore (ι V : Type) where
  image : Collection ι V
  text : Collection ι V

/-! ### Searching -/

/-- The points a filter lets through, scored against a query. -/
def Collection.candidates (similarity : V → V → ℚ) (collection : Collection ι V) (query : V)
    (filters : Option ProductFilters) : List (NearestNeighbor ι) :=
  (collection.points.filter fun point =>
      ∀ f ∈ filters, (buildFilter f).Matches point.metadata).map fun point =>
    { productId := point.productId
      score := similarity query point.vector
      metadata := point.metadata }

omit [DecidableEq ι] in
theorem nodup_candidates (similarity : V → V → ℚ) (collection : Collection ι V) (query : V)
    (filters : Option ProductFilters) :
    ((collection.candidates similarity query filters).map NearestNeighbor.productId).Nodup := by
  rw [Collection.candidates, List.map_map]
  exact collection.nodup.sublist (List.filter_sublist.map _)

/-- A search that returns the exact nearest points. -/
structure ExactIndex (ι V : Type) where
  similarity : V → V → ℚ
  nearest : Collection ι V → V → ℕ → Option ProductFilters → List (NearestNeighbor ι)
  isTopK : ∀ collection query topK filters,
    IsTopK NearestNeighbor.score topK
      (collection.candidates similarity query filters) (nearest collection query topK filters)

/-- The search that ranks every point. -/
def ExactIndex.ofSimilarity (similarity : V → V → ℚ) : ExactIndex ι V where
  similarity := similarity
  nearest := fun collection query topK filters =>
    (rank NearestNeighbor.score (collection.candidates similarity query filters)).take topK
  isTopK := fun _ _ _ _ => isTopK_take_rank _ _ _

section ExactIndex

variable (index : ExactIndex ι V) (collection : Collection ι V) (query : V)
  (filters : Option ProductFilters)

/-- The ids of the points a filter lets through. -/
def Collection.matching (collection : Collection ι V) (filters : Option ProductFilters) :
    Finset ι :=
  ((collection.points.filter fun point =>
    ∀ f ∈ filters, (buildFilter f).Matches point.metadata).map StoredPoint.productId).toFinset

theorem toFinset_candidates :
    ((collection.candidates index.similarity query filters).map
      NearestNeighbor.productId).toFinset = collection.matching filters := by
  rw [Collection.candidates, List.map_map]
  rfl

omit [DecidableEq ι] in
theorem nodup_nearest (topK : ℕ) :
    ((index.nearest collection query topK filters).map NearestNeighbor.productId).Nodup :=
  (index.isTopK collection query topK filters).nodup_map
    (nodup_candidates index.similarity collection query filters)

/-- The ids a search returns. -/
def ExactIndex.found (topK : ℕ) : Finset ι :=
  ((index.nearest collection query topK filters).map NearestNeighbor.productId).toFinset

/-- A search returns ids of matching points. -/
theorem found_subset (topK : ℕ) :
    index.found collection query filters topK ⊆ collection.matching filters := by
  rw [← toFinset_candidates index collection query filters]
  intro productId h
  unfold ExactIndex.found at h
  rw [List.mem_toFinset] at h ⊢
  exact List.map_subset _ (index.isTopK collection query topK filters).subperm.subset h

/-- A search returns as many points as match, up to the number asked for. -/
theorem card_found (topK : ℕ) :
    (index.found collection query filters topK).card =
      min topK (collection.matching filters).card := by
  rw [← toFinset_candidates index collection query filters, ExactIndex.found,
    Keyed.card_keys (nodup_nearest index collection query filters topK),
    Keyed.card_keys (nodup_candidates index.similarity collection query filters)]
  exact (index.isTopK collection query topK filters).length_eq

end ExactIndex

end ProductIntelligence
