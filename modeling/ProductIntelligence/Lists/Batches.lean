import Mathlib.Data.List.Forall2
import Mathlib.Tactic.Common
import ProductIntelligence.Logic.Fallible

/-!
# Handling a list in batches

A list is cut into chunks of a given size, the last of which may be shorter, each chunk is handled
as a whole by a step that may fail and change a state, and the outputs are put together again.
When a chunk is handled as its elements are, so is the list, whatever the size of the chunks.

## Main definitions

* `chunks size l` — the slices of `l` from the starts of a `range`.
* `inBatches run size l` — handle chunk after chunk, until one fails.
* `Elementwise alone inputs outcome` — the outcome is what handling each input alone comes to.
* `Pointwise run` — a batch yields, for each of its elements, what that element determines.

## Main results

* `flatten_chunks`, `ne_nil_of_mem_chunks` — the chunks make up the list, and none is empty.
* `Elementwise.bind`, `Elementwise.congr` — two steps one after the other, and another way to
  handle one input.
* `Pointwise.elementwise` — a pointwise function that is guarded by one error.
* `elementwise_inBatches` — **batches of any size are handled as their elements are**.
-/

namespace Batches

variable {α β γ ε σ : Type}

/-! ### Chunks -/

/-- `range(0, n, size)`, for a positive size. -/
def starts (size n : ℕ) : List ℕ := List.range' 0 ((n + size - 1) / size) size

/-- The slices `l[start : start + size]`. -/
def chunks (size : ℕ) (l : List α) : List (List α) :=
  (starts size l.length).map fun start => (l.drop start).take size

/-- The first start is zero, and the others are those of what is left, moved on by one size. -/
theorem starts_succ {size n : ℕ} (hsize : 0 < size) (hn : 0 < n) :
    starts size n = 0 :: (starts size (n - size)).map (size + ·) := by
  have hcount : (n + size - 1) / size = (n - size + size - 1) / size + 1 := by
    by_cases hle : n ≤ size
    · rw [Nat.sub_eq_zero_of_le hle, Nat.zero_add, Nat.div_eq_of_lt (by omega : size - 1 < size)]
      exact Nat.div_eq_of_lt_le (by omega) (by omega)
    · rw [← Nat.add_div_right _ hsize]
      congr 1
      omega
  unfold starts
  rw [hcount, List.range'_succ, List.map_add_range', Nat.zero_add, Nat.add_zero]

theorem chunks_nil (size : ℕ) : chunks size ([] : List α) = [] := by
  have hcount : (0 + size - 1) / size = 0 := by
    rcases Nat.eq_zero_or_pos size with rfl | hsize
    · rfl
    · exact Nat.div_eq_of_lt (by omega)
  unfold chunks starts
  rw [List.length_nil, hcount]
  rfl

/-- The first chunk, and the chunks of what is left. -/
theorem chunks_of_ne_nil {size : ℕ} (hsize : 0 < size) {l : List α} (hl : l ≠ []) :
    chunks size l = l.take size :: chunks size (l.drop size) := by
  unfold chunks
  rw [starts_succ hsize (List.length_pos_of_ne_nil hl), List.map_cons, List.drop_zero,
    List.map_map, List.length_drop]
  congr 1
  refine List.map_congr_left fun start _ => ?_
  rw [Function.comp_apply, List.drop_drop]

/-- Induction that takes one chunk at a time off the list. -/
@[elab_as_elim]
theorem drop_induction {size : ℕ} (hsize : 0 < size) {motive : List α → Prop}
    (nil : motive []) (drop : ∀ l, l ≠ [] → motive (l.drop size) → motive l) (l : List α) :
    motive l := by
  induction hn : l.length using Nat.strongRecOn generalizing l with
  | _ n ih =>
    by_cases hl : l = []
    · rw [hl]
      exact nil
    · have hpos := List.length_pos_of_ne_nil hl
      refine drop l hl (ih (l.drop size).length ?_ (l.drop size) rfl)
      rw [List.length_drop]
      omega

/-- Put together, the chunks are the list. -/
theorem flatten_chunks {size : ℕ} (hsize : 0 < size) (l : List α) :
    (chunks size l).flatten = l := by
  induction l using drop_induction hsize with
  | nil =>
    rw [chunks_nil]
    rfl
  | drop l hl ih => rw [chunks_of_ne_nil hsize hl, List.flatten_cons, ih, List.take_append_drop]

/-- No chunk is empty. -/
theorem ne_nil_of_mem_chunks {size : ℕ} (hsize : 0 < size) {l chunk : List α}
    (h : chunk ∈ chunks size l) : chunk ≠ [] := by
  induction l using drop_induction hsize with
  | nil =>
    rw [chunks_nil] at h
    cases h
  | drop l hl ih =>
    rw [chunks_of_ne_nil hsize hl] at h
    rcases List.mem_cons.1 h with rfl | h
    · exact fun htake => (List.take_eq_nil_iff.1 htake).elim (Nat.ne_of_gt hsize) hl
    · exact ih h

/-! ### The loop over the chunks -/

/-- Handle one chunk after the other and extend the results by its outputs, until one fails. -/
def extendAll (run : List α → σ → Except ε (List β) × σ) :
    List (List α) → List β → σ → Except ε (List β) × σ
  | [], results, s => (.ok results, s)
  | chunk :: rest, results, s =>
    match run chunk s with
    | (.ok outputs, s) => extendAll run rest (results ++ outputs) s
    | (.error e, s) => (.error e, s)

/-- Handle a list in chunks of a size. -/
def inBatches (run : List α → σ → Except ε (List β) × σ) (size : ℕ) (l : List α) :
    σ → Except ε (List β) × σ :=
  extendAll run (chunks size l) []

/-! ### Element by element -/

/-- The outcome of handling inputs together is what handling each alone comes to: it is a success
exactly if each is one, with their outputs in order, and an error that one of them ends in
otherwise. -/
structure Elementwise (alone : α → Except ε (List β)) (inputs : List α)
    (outcome : Except ε (List β)) : Prop where
  ok_iff : ∀ outputs, outcome = .ok outputs ↔
    List.Forall₂ (fun a b => alone a = .ok [b]) inputs outputs
  of_error : ∀ e, outcome = .error e → ∃ a ∈ inputs, alone a = .error e

variable {alone : α → Except ε (List β)} {inputs : List α} {outcome : Except ε (List β)}
  {outputs : List β} {e : ε}

theorem elementwise_ok : Elementwise alone inputs (.ok outputs) ↔
    List.Forall₂ (fun a b => alone a = .ok [b]) inputs outputs := by
  refine ⟨fun h => (h.ok_iff outputs).1 rfl, fun h => ⟨fun outputs' => ⟨?_, fun h' => ?_⟩, ?_⟩⟩
  · intro heq
    cases heq
    exact h
  · -- an input that succeeds has one output only
    have hunique : Relator.RightUnique fun a b => alone a = .ok [b] := by
      intro a b b' hb hb'
      cases hb.symm.trans hb'
      rfl
    rw [hunique.forall₂ h h']
  · intro e heq
    cases heq

theorem elementwise_error :
    Elementwise alone inputs (.error e) ↔ ∃ a ∈ inputs, alone a = .error e := by
  refine ⟨fun h => h.of_error e rfl, fun ⟨a, ha, hfail⟩ => ⟨fun outputs => ⟨?_, fun h => ?_⟩, ?_⟩⟩
  · intro heq
    cases heq
  · obtain ⟨i, hi, rfl⟩ := List.mem_iff_getElem.1 ha
    have hok := h.get hi (h.length_eq ▸ hi)
    cases hfail.symm.trans hok
  · intro e' heq
    cases heq
    exact ⟨a, ha, hfail⟩

/-- Another way to handle one input, with the same outcome. -/
theorem Elementwise.congr {alone' : α → Except ε (List β)} (h : Elementwise alone inputs outcome)
    (halone : ∀ a, Elementwise alone [a] (alone' a)) : Elementwise alone' inputs outcome := by
  cases outcome with
  | ok outputs =>
    refine elementwise_ok.2 ((elementwise_ok.1 h).imp fun a b hab => ?_)
    exact ((halone a).ok_iff [b]).2 (.cons hab .nil)
  | error e =>
    obtain ⟨a, ha, hfail⟩ := elementwise_error.1 h
    refine elementwise_error.2 ⟨a, ha, ?_⟩
    -- the other way cannot succeed, and fails as this one does
    cases hother : alone' a with
    | ok outputs =>
      cases ((halone a).ok_iff outputs).1 hother with
      | cons hab _ => cases hfail.symm.trans hab
    | error e' =>
      obtain ⟨a', ha', hfail'⟩ := (halone a).of_error e' hother
      obtain rfl := List.mem_singleton.1 ha'
      cases hfail.symm.trans hfail'
      rfl

/-- Elements related through the elements of a list between. -/
theorem forall₂_trans {R : α → γ → Prop} {S : γ → β → Prop} {T : α → β → Prop}
    (hT : ∀ a c b, R a c → S c b → T a b) {as : List α} {cs : List γ} {bs : List β}
    (h : List.Forall₂ R as cs) (h' : List.Forall₂ S cs bs) : List.Forall₂ T as bs := by
  induction h generalizing bs with
  | nil =>
    cases h'
    exact .nil
  | cons hac _ ih =>
    cases h' with
    | cons hcb hrest => exact .cons (hT _ _ _ hac hcb) (ih hrest)

/-- Two steps, the second of which handles the outputs of the first.  There are some of these if
there are inputs. -/
theorem Elementwise.bind {first : α → Except ε (List γ)} {middle : Except ε (List γ)}
    {second : List γ → Except ε (List β)} (h : Elementwise first inputs middle)
    (hsecond : ∀ cs, (inputs ≠ [] → cs ≠ []) → Elementwise (fun c => second [c]) cs (second cs)) :
    Elementwise (fun a => first a >>= second) inputs (middle >>= second) := by
  cases middle with
  | error e =>
    obtain ⟨a, ha, hfail⟩ := elementwise_error.1 h
    exact elementwise_error.2 ⟨a, ha, by rw [hfail]; rfl⟩
  | ok cs =>
    have hfirst := elementwise_ok.1 h
    have hsome : inputs ≠ [] → cs ≠ [] := by
      rintro hinputs rfl
      exact hinputs (List.forall₂_nil_right_iff.1 hfirst)
    have hrest := hsecond cs hsome
    change Elementwise _ inputs (second cs)
    cases hcs : second cs with
    | ok outputs =>
      rw [hcs] at hrest
      refine elementwise_ok.2 (forall₂_trans (fun a c b hac hcb => ?_) hfirst
        (elementwise_ok.1 hrest))
      rw [hac]
      exact hcb
    | error e =>
      rw [hcs] at hrest
      obtain ⟨c, hc, hfail⟩ := elementwise_error.1 hrest
      obtain ⟨i, hi, rfl⟩ := List.mem_iff_getElem.1 hc
      have hlen := hfirst.length_eq
      refine elementwise_error.2 ⟨inputs[i], List.getElem_mem (hlen ▸ hi), ?_⟩
      have hac : first inputs[i] = .ok [cs[i]] := hfirst.get (hlen ▸ hi) hi
      rw [hac]
      exact hfail

/-- Each output is changed by a function. -/
theorem Elementwise.map (h : Elementwise alone inputs outcome) (g : β → γ) :
    Elementwise (fun a => alone a >>= fun outputs => .ok (outputs.map g)) inputs
      (outcome >>= fun outputs => .ok (outputs.map g)) := by
  refine h.bind fun outputs _ => elementwise_ok.2 ?_
  rw [List.forall₂_map_right_iff]
  exact List.forall₂_same.2 fun b _ => rfl

/-! ### Pointwise functions -/

/-- What a batch yields is, for each of its elements, what that element determines; it fails
exactly if one of them determines nothing. -/
def Pointwise (run : List α → Except ε (List β)) : Prop :=
  ∃ one : α → Option β, ∀ batch, batch ≠ [] → (run batch).toOption = batch.mapM one

theorem pointwise_mapM (f : α → Except ε β) : Pointwise (List.mapM f) := by
  refine ⟨fun a => (f a).toOption, fun batch hbatch => ?_⟩
  clear hbatch
  induction batch with
  | nil => rfl
  | cons a batch ih =>
    rw [List.mapM_cons, List.mapM_cons, ← ih]
    cases f a with
    | error e => rfl
    | ok b =>
      cases batch.mapM f with
      | error e => rfl
      | ok bs => rfl

/-- **A pointwise function whose errors are replaced by one** handles a batch element by
element. -/
theorem Pointwise.elementwise {κ : Type} {run : List α → Except κ (List β)} (h : Pointwise run)
    (e : ε) {batch : List α} (hbatch : batch ≠ []) :
    Elementwise (fun a => (run [a]).mapError fun _ => e) batch
      ((run batch).mapError fun _ => e) := by
  obtain ⟨one, hone⟩ := h
  have hbatch := hone batch hbatch
  have hsingle : ∀ a, (run [a]).toOption = (one a).map fun b => [b] := by
    intro a
    rw [hone [a] (List.cons_ne_nil a []), List.mapM_cons]
    cases one a with
    | none => rfl
    | some b => rfl
  cases hrun : run batch with
  | ok outputs =>
    rw [hrun] at hbatch
    refine elementwise_ok.2 ((Option.forall₂_of_mapM hbatch.symm).imp fun a b hab => ?_)
    have hok : run [a] = .ok [b] := Except.toOption_eq_some.1 (by rw [hsingle, hab]; rfl)
    rw [hok]
    rfl
  | error e' =>
    rw [hrun] at hbatch
    obtain ⟨a, ha, hnone⟩ := Option.exists_eq_none_of_mapM hbatch.symm
    obtain ⟨e'', hfail⟩ := Except.toOption_eq_none.1 (by rw [hsingle, hnone]; rfl)
    refine elementwise_error.2 ⟨a, ha, ?_⟩
    rw [hfail]
    rfl

/-! ### Batches of any size -/

variable {run : List α → σ → Except ε (List β) × σ}

/-- The loop, when the inputs `done` have been handled with the outputs `results`. -/
theorem elementwise_extendAll {cs : List (List α)}
    (h : ∀ chunk ∈ cs, ∀ s, Elementwise alone chunk (run chunk s).1) {done : List α}
    {results : List β} (hdone : Elementwise alone done (.ok results)) (s : σ) :
    Elementwise alone (done ++ cs.flatten) (extendAll run cs results s).1 := by
  induction cs generalizing done results s with
  | nil =>
    rw [List.flatten_nil, List.append_nil]
    exact hdone
  | cons chunk cs ih =>
    have hchunk := h chunk (List.mem_cons_self ..) s
    have hrest := fun c hc => h c (List.mem_cons_of_mem chunk hc)
    unfold extendAll
    cases hrun : run chunk s with
    | mk result s' =>
      rw [hrun] at hchunk
      cases result with
      | ok outputs =>
        rw [List.flatten_cons, ← List.append_assoc]
        refine ih hrest (elementwise_ok.2 ?_) s'
        exact List.rel_append (elementwise_ok.1 hdone) (elementwise_ok.1 hchunk)
      | error e =>
        obtain ⟨a, ha, hfail⟩ := elementwise_error.1 hchunk
        exact elementwise_error.2 ⟨a, by simp [ha], hfail⟩

/-- **Batches of any size are handled as their elements are**, from any state. -/
theorem elementwise_inBatches {size : ℕ} (hsize : 0 < size)
    (h : ∀ chunk, chunk ≠ [] → ∀ s, Elementwise alone chunk (run chunk s).1) (l : List α) (s : σ) :
    Elementwise alone l (inBatches run size l s).1 := by
  have hchunks : ∀ chunk ∈ chunks size l, ∀ s, Elementwise alone chunk (run chunk s).1 :=
    fun chunk hchunk => h chunk (ne_nil_of_mem_chunks hsize hchunk)
  have hloop := elementwise_extendAll hchunks (elementwise_ok.2 .nil) s
  rw [List.nil_append, flatten_chunks hsize] at hloop
  exact hloop

end Batches
