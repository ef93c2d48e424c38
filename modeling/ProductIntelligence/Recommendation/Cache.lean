import ProductIntelligence.Analytics.Buckets
import ProductIntelligence.Logic.Interleaving
import ProductIntelligence.Logic.Reach
import ProductIntelligence.Products.ProcessUpload
import ProductIntelligence.Recommendation.Engine

/-!
# Cached recommendations

A worker that has processed a product computes its recommendations once and keeps them in Redis for
some time.  A request for recommendations with the defaults is answered from there; every other
request, and every request that finds nothing, is answered by the engine.  Nothing removes what is
kept before its time, whatever happens to the index meanwhile.

## Main definitions

* `CacheStore`, `CacheStore.exec` — the cache, and what its commands do.
* `Moment`, `CacheWorld` — the clock and the index at one time; the cache and the moments so far.
* `CachedRecommendations.warm`, `serve` — the warm-up of a worker, and a request for
  recommendations.
* `Prompt` — a warm-up keeps what it has computed within a given time.
* `Owes`, `CacheSound` — the entry of a product was computed for it, not too long ago.

## Main results

* `run_serve` — what a request is answered that runs alone.
* `run_serve_warmed` — a warm-up is served until its time is over.
* `cache_sound` — in every state each entry was computed by the engine.
* `served_fresh` — **how old an answer can be**: every request is answered by the engine as the index
  is then, unless it asks for the defaults; those may be older, by at most the time to live and the
  delay of a warm-up.

## References

`backend/app/repositories/recommendation_cache_repository.py`, `backend/app/api/products.py`,
`backend/app/workers/product_worker.py`.
-/

namespace ProductIntelligence

open Effects Program

variable {ι V ε κ : Type}

/-! ### The cache -/

/-- The keys `recommendation_cache:{product_id}` and the server's clock. -/
structure CacheStore (ι : Type) where
  entries : ι → Option (Bucket (RecommendationResult ι))
  clock : Time

namespace CacheStore

/-- The entry of a product, unless it has expired. -/
def entry (store : CacheStore ι) (productId : ι) : Option (Bucket (RecommendationResult ι)) :=
  Bucket.current store.clock (store.entries productId)

/-- The commands the repository issues. -/
inductive Command (ι : Type)
  | get (productId : ι)
  | setEx (productId : ι) (result : RecommendationResult ι) (seconds : ℤ)

/-- What each command replies. -/
abbrev Reply : Command ι → Type
  | .get _ => Option (RecommendationResult ι)
  | .setEx .. => Except Unit Unit

/-- What each command does.  A time to live that is not positive is refused. -/
def exec [DecidableEq ι] : Handler (@Reply ι) (CacheStore ι)
  | .get productId, store => ((store.entry productId).map Bucket.value, store)
  | .setEx productId result seconds, store =>
    if 0 < seconds then
      (.ok (), { store with
        entries := Function.update store.entries productId
          (some ⟨result, some (store.clock + seconds)⟩) })
    else (.error (), store)

end CacheStore

/-! ### The world -/

/-- The clock and the index at one time. -/
structure Moment (ι V : Type) where
  clock : Time
  index : VectorStore ι V

/-- What is cached, the present and the moments before it, the last one first. -/
structure CacheWorld (ι V : Type) where
  cache : ι → Option (Bucket (RecommendationResult ι))
  present : Moment ι V
  past : List (Moment ι V)

namespace CacheWorld

/-- The moments so far, the present first. -/
def moments (world : CacheWorld ι V) : List (Moment ι V) := world.present :: world.past

/-- The cache now. -/
def store (world : CacheWorld ι V) : CacheStore ι := ⟨world.cache, world.present.clock⟩

/-- Time passes, and the index becomes another one. -/
def pass (world : CacheWorld ι V) (moment : Moment ι V) : CacheWorld ι V :=
  { world with present := moment, past := world.moments }

/-- Nothing is cached. -/
def init (moment : Moment ι V) : CacheWorld ι V := ⟨fun _ => none, moment, []⟩

end CacheWorld

/-- `int(...)` of a number: towards zero. -/
def truncate (x : ℚ) : ℤ := if 0 ≤ x then ⌊x⌋ else ⌈x⌉

/-- The cache of recommendations: how long it keeps them. -/
structure RecommendationCacheRepository where
  ttlSeconds : ℚ

/-- The engine and the cache, as workers and requests have them. -/
structure CachedRecommendations (ι V ε : Type) where
  engine : RecommendationEngineService ι V ε
  repository : RecommendationCacheRepository

/-- What workers and requests ask: the engine for recommendations, and Redis for the entry of a
product or to keep one for a number of seconds. -/
inductive CacheCommand (ι : Type)
  | recommend (productId : ι) (recommendationType : RecommendationType) (topK : Option ℕ)
  | get (productId : ι)
  | setEx (productId : ι) (result : RecommendationResult ι) (seconds : ℤ)

/-- The answer of the engine. -/
abbrev Recommended (ι ε : Type) := Except (AppException ι ε) (RecommendationResult ι)

namespace CacheCommand

/-- What each command replies; the engine's answer goes with the moment it was computed in. -/
abbrev Reply (ι V ε : Type) : CacheCommand ι → Type
  | .recommend .. => Moment ι V × Recommended ι ε
  | .get _ => Option (RecommendationResult ι)
  | .setEx .. => Except Unit Unit

/-- What each command does. -/
def exec [DecidableEq ι] (service : CachedRecommendations ι V ε) :
    Handler (Reply ι V ε) (CacheWorld ι V)
  | .recommend productId recommendationType topK, world =>
    ((world.present,
      service.engine.recommend world.present.index productId recommendationType topK none), world)
  | .get productId, world => ((CacheStore.exec (.get productId) world.store).1, world)
  | .setEx productId result seconds, world =>
    let (reply, store) := CacheStore.exec (.setEx productId result seconds) world.store
    (reply, { world with cache := store.entries })

end CacheCommand

/-! ### Warm-ups and requests -/

/-- What runs side by side: the warm-up of a product, and a request for recommendations. -/
inductive CacheTask (ι : Type)
  | warm (productId : ι)
  | serve (productId : ι) (recommendationType : RecommendationType) (topK : Option ℕ)

/-- Programs over the world. -/
abbrev CacheProgram (ι V ε α : Type) := Program (CacheCommand.Reply ι V ε) α

namespace RecommendationCacheRepository

variable (repository : RecommendationCacheRepository)

/-- The seconds an entry is kept. -/
def seconds : ℤ := truncate repository.ttlSeconds

/-- `get`: the cached recommendations for a product. -/
def get (productId : ι) : CacheProgram ι V ε (Option (RecommendationResult ι)) :=
  perform (R := CacheCommand.Reply ι V ε) (.get productId)

/-- `set`: cache recommendations for a product. -/
def set (productId : ι) (result : RecommendationResult ι) : CacheProgram ι V ε (Except Unit Unit) :=
  perform (R := CacheCommand.Reply ι V ε) (.setEx productId result repository.seconds)

end RecommendationCacheRepository

namespace CachedRecommendations

variable (service : CachedRecommendations ι V ε)

/-- The engine computes recommendations; the moment it does so in goes with them. -/
def recommend (productId : ι) (recommendationType : RecommendationType) (topK : Option ℕ) :
    CacheProgram ι V ε (Moment ι V × Recommended ι ε) :=
  perform (R := CacheCommand.Reply ι V ε) (.recommend productId recommendationType topK)

/-- `_warm_recommendation_cache`: whatever fails in it is passed over. -/
def warm (productId : ι) : CacheProgram ι V ε Unit := do
  match (← recommend productId .similar none).2 with
  | .error _ => pure ()
  | .ok result =>
    let _ ← service.repository.set productId result
    pure ()

/-- `get_recommendations`: only a request with the defaults looks into the cache. -/
def serve (productId : ι) (recommendationType : RecommendationType) (topK : Option ℕ) :
    CacheProgram ι V ε (Recommended ι ε) := do
  let result ←
    if recommendationType = .similar ∧ topK = none then RecommendationCacheRepository.get productId
    else pure none
  match result with
  | some result => pure (.ok result)
  | none => Prod.snd <$> recommend productId recommendationType topK

/-- What a task does; only a request has an answer. -/
def body : CacheTask ι → CacheProgram ι V ε (Option (Recommended ι ε))
  | .warm productId => do
    service.warm productId
    pure none
  | .serve productId recommendationType topK => do
    let answer ← serve productId recommendationType topK
    pure (some answer)

/-- What a warm-up asks. -/
theorem warm_eq (productId : ι) :
    service.warm productId = .request (.recommend productId .similar none) fun reply =>
      match reply.2 with
      | .error _ => .done ()
      | .ok result =>
        .request (.setEx productId result service.repository.seconds) fun _ => .done () := rfl

/-- What a request with the defaults asks. -/
theorem serve_default (productId : ι) :
    (serve productId .similar none : CacheProgram ι V ε _) = .request (.get productId) fun result =>
      match result with
      | some result => .done (.ok result)
      | none => .request (.recommend productId .similar none) fun reply => .done reply.2 := by
  unfold serve
  rw [if_pos ⟨rfl, rfl⟩]
  show Program.request _ _ = _
  congr 1
  funext result
  cases result <;> rfl

/-- What any other request asks. -/
theorem serve_custom (productId : ι) {recommendationType : RecommendationType} {topK : Option ℕ}
    (h : ¬ (recommendationType = .similar ∧ topK = none)) :
    (serve productId recommendationType topK : CacheProgram ι V ε _) =
      .request (.recommend productId recommendationType topK) fun reply => .done reply.2 := by
  unfold serve
  rw [if_neg h]
  rfl

variable [DecidableEq ι]

/-- The entry of a product answers a request with the defaults. -/
def Hits (world : CacheWorld ι V) (productId : ι) (recommendationType : RecommendationType)
    (topK : Option ℕ) (result : RecommendationResult ι) : Prop :=
  recommendationType = .similar ∧ topK = none ∧
    (world.store.entry productId).map Bucket.value = some result

/-- **A request that runs alone** is answered from the cache, or else by the engine; it leaves
everything as it is. -/
theorem run_serve (world : CacheWorld ι V) (productId : ι)
    (recommendationType : RecommendationType) (topK : Option ℕ) :
    (∃ result, Hits world productId recommendationType topK result ∧
        (serve productId recommendationType topK).run (CacheCommand.exec service) world =
          (.ok result, world)) ∨
      ((∀ result, ¬ Hits world productId recommendationType topK result) ∧
        (serve productId recommendationType topK).run (CacheCommand.exec service) world =
          (service.engine.recommend world.present.index productId recommendationType topK none,
            world)) := by
  by_cases hdefault : recommendationType = .similar ∧ topK = none
  · obtain ⟨rfl, rfl⟩ := hdefault
    rw [serve_default, run_request]
    dsimp only [CacheCommand.exec, CacheStore.exec]
    cases hentry : (world.store.entry productId).map Bucket.value with
    | none =>
      refine .inr ⟨fun result hhits => ?_, rfl⟩
      cases hentry.symm.trans hhits.2.2
    | some result => exact .inl ⟨result, ⟨rfl, rfl, hentry⟩, rfl⟩
  · rw [serve_custom productId hdefault]
    exact .inr ⟨fun result hhits => hdefault ⟨hhits.1, hhits.2.1⟩, rfl⟩

/-- **A warm-up is served until its time is over**, whatever becomes of the index. -/
theorem run_serve_warmed {world : CacheWorld ι V} {productId : ι}
    {result : RecommendationResult ι} {moment : Moment ι V}
    (hresult : service.engine.recommend world.present.index productId .similar none none =
      .ok result) (hclock : moment.clock < world.present.clock + service.repository.seconds)
    (hseconds : 0 < service.repository.seconds) :
    ((serve productId .similar none).run (CacheCommand.exec service)
      (((service.warm productId).run (CacheCommand.exec service) world).2.pass moment)).1 =
        .ok result := by
  set bucket : Bucket (RecommendationResult ι) :=
    ⟨result, some (world.present.clock + service.repository.seconds)⟩
  have hwarm : ((service.warm productId).run (CacheCommand.exec service) world).2 =
      { world with cache := Function.update world.cache productId (some bucket) } := by
    rw [warm_eq, run_request]
    dsimp only [CacheCommand.exec]
    rw [hresult]
    dsimp only [run_request, CacheCommand.exec, CacheStore.exec]
    rw [if_pos hseconds]
    rfl
  have hlive : Bucket.current moment.clock (some bucket) = some bucket :=
    Option.filter_some_pos (decide_eq_true hclock)
  have hhits : Hits ((⟨Function.update world.cache productId (some bucket), world.present,
      world.past⟩ : CacheWorld ι V).pass moment) productId .similar none result := by
    refine ⟨rfl, rfl, ?_⟩
    show (Bucket.current moment.clock (Function.update world.cache productId _ productId)).map
      Bucket.value = _
    rw [Function.update_self, hlive]
    rfl
  rw [hwarm]
  rcases service.run_serve _ productId .similar none with ⟨result', hhits', hrun⟩ | ⟨hmiss, -⟩
  · rw [hrun]
    exact congrArg Except.ok (Option.some.inj (hhits'.2.2.symm.trans hhits.2.2))
  · exact absurd hhits (hmiss result)

end CachedRecommendations

/-! ### How far a task has come -/

/-- What a task has been told last. -/
inductive CacheProgress (ι V ε : Type)
  | begun
  | missed
  | hit (result : RecommendationResult ι)
  | computed (moment : Moment ι V) (answer : Recommended ι ε)

/-- The progress that a reply makes. -/
def CacheProgress.next (progress : CacheProgress ι V ε) :
    (command : CacheCommand ι) → CacheCommand.Reply ι V ε command → CacheProgress ι V ε
  | .recommend .., (moment, answer) => .computed moment answer
  | .get _, some result => .hit result
  | .get _, none => .missed
  | .setEx .., _ => progress

namespace CacheTask

/-- The question a task may put to the engine. -/
def query : CacheTask ι → ι × RecommendationType × Option ℕ
  | .warm productId => (productId, .similar, none)
  | .serve productId recommendationType topK => (productId, recommendationType, topK)

/-- What a task may ask next: a warm-up keeps only what the engine has answered it. -/
inductive MayIssue (seconds : ℤ) : CacheTask ι → CacheProgress ι V ε → CacheCommand ι → Prop
  | recommend (task : CacheTask ι) (progress : CacheProgress ι V ε) :
      MayIssue seconds task progress
        (.recommend task.query.1 task.query.2.1 task.query.2.2)
  | get (productId : ι) (progress : CacheProgress ι V ε) :
      MayIssue seconds (.serve productId .similar none) progress (.get productId)
  | setEx (productId : ι) (moment : Moment ι V) (result : RecommendationResult ι) :
      MayIssue seconds (.warm productId) (.computed moment (.ok result))
        (.setEx productId result seconds)

/-- What a task returns: a request, what it has been told last. -/
inductive Returns : CacheTask ι → Option (Recommended ι ε) → CacheProgress ι V ε → Prop
  | warm (productId : ι) (progress : CacheProgress ι V ε) :
      Returns (.warm productId) none progress
  | hit (productId : ι) (result : RecommendationResult ι) :
      Returns (.serve productId .similar none) (some (.ok result)) (.hit result)
  | computed (productId : ι) (recommendationType : RecommendationType) (topK : Option ℕ)
      (moment : Moment ι V) (answer : Recommended ι ε) :
      Returns (.serve productId recommendationType topK) (some answer) (.computed moment answer)

end CacheTask

namespace CachedRecommendations

variable (service : CachedRecommendations ι V ε)

/-- **The discipline of warm-ups and requests.** -/
def caching : Discipline (CacheCommand.Reply ι V ε) (CacheTask ι × CacheProgress ι V ε) where
  allows g command := g.1.MayIssue service.repository.seconds g.2 command
  expects _ _ _ := True
  next g command reply := (g.1, g.2.next command reply)

/-- **Every task keeps to it.** -/
theorem obeys_body (task : CacheTask ι) :
    (service.body task).Obeys service.caching (fun b g => task.Returns b g.2) (task, .begun) := by
  cases task with
  | warm productId =>
    show (service.warm productId >>= fun _ => pure none).Obeys _ _ _
    rw [warm_eq]
    refine ⟨.recommend (.warm productId) .begun, fun (moment, answer) _ => ?_⟩
    cases answer with
    | error e => exact .warm productId _
    | ok result => exact ⟨.setEx productId moment result, fun _ _ => .warm productId _⟩
  | serve productId recommendationType topK =>
    show (serve productId recommendationType topK >>= fun answer => pure (some answer)).Obeys _ _ _
    by_cases hdefault : recommendationType = .similar ∧ topK = none
    · obtain ⟨rfl, rfl⟩ := hdefault
      rw [serve_default]
      refine ⟨.get productId .begun, fun reply _ => ?_⟩
      cases reply with
      | some result => exact .hit productId result
      | none =>
        exact ⟨.recommend (.serve productId .similar none) .missed,
          fun reply _ => .computed productId .similar none reply.1 reply.2⟩
    · rw [serve_custom productId hdefault]
      exact ⟨.recommend (.serve productId recommendationType topK) .begun,
        fun reply _ => .computed productId recommendationType topK reply.1 reply.2⟩

end CachedRecommendations

/-! ### The system -/

/-- A state of the world and the tasks in progress. -/
abbrev CacheConfig (ι V ε κ : Type) :=
  Config (CacheCommand.Reply ι V ε) (CacheWorld ι V) κ (CacheTask ι) (Option (Recommended ι ε))

/-- The progress of a session. -/
def cacheProgressOf (service : CachedRecommendations ι V ε)
    (s : Session (CacheCommand.Reply ι V ε) (CacheTask ι) (Option (Recommended ι ε))) :
    CacheProgress ι V ε :=
  (s.ghost service.caching fun task => (task, .begun)).2

/-- A session is about its own task. -/
theorem ghost_fst (service : CachedRecommendations ι V ε)
    (s : Session (CacheCommand.Reply ι V ε) (CacheTask ι) (Option (Recommended ι ε))) :
    (s.ghost service.caching fun task => (task, .begun)).1 = s.op := by
  obtain ⟨op, rest, exchanges⟩ := s
  induction exchanges with
  | nil => rfl
  | cons x exchanges ih => exact ih

namespace CachedRecommendations

variable [DecidableEq ι] (service : CachedRecommendations ι V ε)

/-- Any number of workers and requests, while time passes and the index changes. -/
def cacheMachine : Machine (CacheCommand.Reply ι V ε) (CacheWorld ι V) (CacheTask ι)
    (Option (Recommended ι ε)) (Moment ι V) where
  handler := CacheCommand.exec service
  body := service.body
  env moment world := some (world.pass moment)

/-- A warm-up keeps what it has computed before `slack` has passed. -/
def Prompt (slack : Time) (cfg : CacheConfig ι V ε κ)
    (l : Label κ (CacheTask ι) (Moment ι V)) : Prop :=
  ∀ client s moment answer, l = .exec client → cfg.sessions client = some s →
    cacheProgressOf service s = .computed moment answer →
      cfg.store.present.clock ≤ moment.clock + slack

/-- The entry was computed for its product in one of the moments so far, and expires in time. -/
def Owes (slack : Time) (world : CacheWorld ι V) (productId : ι)
    (bucket : Bucket (RecommendationResult ι)) : Prop :=
  0 < service.repository.seconds ∧ ∃ moment ∈ world.moments, ∃ deadline,
    service.engine.recommend moment.index productId .similar none none = .ok bucket.value ∧
    bucket.expiresAt = some deadline ∧
    deadline ≤ moment.clock + slack + service.repository.seconds

/-- The answer was computed by the engine in one of the moments so far. -/
def Accounts (world : CacheWorld ι V) (task : CacheTask ι) (moment : Moment ι V)
    (answer : Recommended ι ε) : Prop :=
  moment ∈ world.moments ∧
    service.engine.recommend moment.index task.query.1 task.query.2.1 task.query.2.2 none = answer

/-- What every state keeps to: tasks are disciplined, entries are as old as they may be, and what
a task has been told by the engine was computed by it. -/
structure CacheSound (slack : Time) (cfg : CacheConfig ι V ε κ) : Prop where
  obeying : cfg.Obeying service.caching (fun task => (task, .begun)) fun task b g => task.Returns b g.2
  entries : ∀ productId bucket, cfg.store.cache productId = some bucket →
    service.Owes slack cfg.store productId bucket
  computed : ∀ client s moment answer, cfg.sessions client = some s →
    cacheProgressOf service s = .computed moment answer →
      service.Accounts cfg.store s.op moment answer

/-- What a permitted command does to the world: nothing, or it keeps what its task was told. -/
theorem exec_cases {task : CacheTask ι} {progress : CacheProgress ι V ε} {command : CacheCommand ι}
    (h : task.MayIssue service.repository.seconds progress command) (world : CacheWorld ι V) :
    (CacheCommand.exec service command world).2 = world ∨
      ∃ productId moment result, task = .warm productId ∧ progress = .computed moment (.ok result) ∧
        0 < service.repository.seconds ∧
        (CacheCommand.exec service command world).2 = { world with
          cache := Function.update world.cache productId
            (some ⟨result, some (world.present.clock + service.repository.seconds)⟩) } := by
  cases h with
  | recommend => exact .inl rfl
  | get => exact .inl rfl
  | setEx productId moment result =>
    by_cases hseconds : 0 < service.repository.seconds
    · refine .inr ⟨productId, moment, result, rfl, rfl, hseconds, ?_⟩
      simp only [CacheCommand.exec, CacheStore.exec, if_pos hseconds]
      rfl
    · left
      simp only [CacheCommand.exec, CacheStore.exec, if_neg hseconds]
      rfl

/-- No command makes time pass. -/
theorem moments_exec (command : CacheCommand ι) (world : CacheWorld ι V) :
    (CacheCommand.exec service command world).2.moments = world.moments := by
  cases command with
  | recommend => rfl
  | get => rfl
  | setEx => rfl

/-- The engine's reply was computed in the present. -/
theorem accounts_next {task : CacheTask ι} {progress : CacheProgress ι V ε}
    {command : CacheCommand ι} (h : task.MayIssue service.repository.seconds progress command)
    {world : CacheWorld ι V} {moment : Moment ι V} {answer : Recommended ι ε}
    (hold : progress = .computed moment answer → service.Accounts world task moment answer)
    (hnext : progress.next command (CacheCommand.exec service command world).1 =
      .computed moment answer) : service.Accounts world task moment answer := by
  cases h with
  | recommend =>
    cases hnext
    exact ⟨List.mem_cons_self, rfl⟩
  | get productId =>
    simp only [CacheCommand.exec, CacheStore.exec] at hnext
    cases hentry : (world.store.entry productId).map Bucket.value with
    | none =>
      rw [hentry] at hnext
      cases hnext
    | some result =>
      rw [hentry] at hnext
      cases hnext
  | setEx => exact hold hnext

namespace CacheSound

variable {service} [DecidableEq κ] {slack : Time} {cfg cfg' : CacheConfig ι V ε κ}

omit [DecidableEq κ] in
/-- Nothing is cached and nobody has begun. -/
theorem init (moment : Moment ι V) :
    service.CacheSound slack (⟨.init moment, fun _ => none, []⟩ : CacheConfig ι V ε κ) := by
  constructor
  · intro _ _ h
    cases h
  · intro _ _ h
    cases h
  · intro _ _ _ _ h
    cases h

/-- A task begins. -/
theorem start (h : service.CacheSound slack cfg) (client : κ) (task : CacheTask ι) :
    service.CacheSound slack (service.cacheMachine.started cfg client task) where
  obeying := h.obeying.started (service.obeys_body task)
  entries := h.entries
  computed := by
    intro k t moment answer ht hprogress
    rcases Config.of_put_sessions ht with ⟨rfl, rfl⟩ | ⟨-, hold⟩
    · cases hprogress
    · exact h.computed k t moment answer hold hprogress

omit [DecidableEq κ] in
/-- What a task asks next is what it may ask. -/
theorem mayIssue (h : service.CacheSound slack cfg) {client : κ} {task : CacheTask ι}
    {command : CacheCommand ι}
    {next : CacheCommand.Reply ι V ε command → CacheProgram ι V ε (Option (Recommended ι ε))}
    {exchanges : List (Exchange (CacheCommand.Reply ι V ε))}
    (hi : cfg.sessions client = some ⟨task, .request command next, exchanges⟩) :
    task.MayIssue service.repository.seconds
      (cacheProgressOf service ⟨task, .request command next, exchanges⟩) command := by
  have hmay : (Session.ghost service.caching (fun task => (task, .begun))
      ⟨task, .request command next, exchanges⟩).1.MayIssue service.repository.seconds
        (cacheProgressOf service ⟨task, .request command next, exchanges⟩) command :=
    (h.obeying client _ hi).1
  rwa [ghost_fst] at hmay

/-- A task gets a reply. -/
theorem answer (h : service.CacheSound slack cfg) {client : κ} {task : CacheTask ι}
    {command : CacheCommand ι}
    {next : CacheCommand.Reply ι V ε command → CacheProgram ι V ε (Option (Recommended ι ε))}
    {exchanges : List (Exchange (CacheCommand.Reply ι V ε))}
    (hi : cfg.sessions client = some ⟨task, .request command next, exchanges⟩)
    (hprompt : service.Prompt slack cfg (.exec client)) :
    service.CacheSound slack
      (service.cacheMachine.answered cfg client task command next exchanges) := by
  have hmay := h.mayIssue hi
  have hmoments := service.moments_exec command cfg.store
  constructor
  · exact h.obeying.answered hi trivial
  · intro productId bucket hbucket
    rcases service.exec_cases hmay cfg.store with hsame | ⟨own, moment, result, rfl, hprogress,
      hseconds, hkept⟩
    · obtain ⟨hseconds, moment, hmoment, deadline, hrest⟩ :=
        h.entries productId bucket (hsame ▸ hbucket)
      exact ⟨hseconds, moment, hmoments ▸ hmoment, deadline, hrest⟩
    · have hbucket : Function.update cfg.store.cache own _ productId = some bucket :=
        (congrArg (fun world => CacheWorld.cache world productId) hkept).symm.trans hbucket
      by_cases hown : productId = own
      · -- the entry that is written was computed for its product
        subst hown
        rw [Function.update_self] at hbucket
        cases hbucket
        obtain ⟨hmoment, hanswer⟩ := h.computed client _ moment (.ok result) hi hprogress
        have hpresent := hprompt client _ moment (.ok result) rfl hi hprogress
        refine ⟨hseconds, moment, hmoments ▸ hmoment, _, hanswer, rfl, ?_⟩
        exact add_le_add hpresent le_rfl
      · rw [Function.update_of_ne hown] at hbucket
        obtain ⟨hseconds, moment, hmoment, deadline, hrest⟩ := h.entries productId bucket hbucket
        exact ⟨hseconds, moment, hmoments ▸ hmoment, deadline, hrest⟩
  · intro k t moment answer ht hprogress
    have haccounts : service.Accounts cfg.store t.op moment answer := by
      rcases Config.of_put_sessions ht with ⟨rfl, rfl⟩ | ⟨-, hold⟩
      · exact service.accounts_next hmay (h.computed _ _ moment answer hi) hprogress
      · exact h.computed k t moment answer hold hprogress
    exact ⟨hmoments ▸ haccounts.1, haccounts.2⟩

/-- A task returns. -/
theorem finish (h : service.CacheSound slack cfg) (client : κ) (task : CacheTask ι)
    (b : Option (Recommended ι ε)) : service.CacheSound slack (cfg.finish client task b) where
  obeying := h.obeying.finish
  entries := h.entries
  computed k t moment answer ht := h.computed k t moment answer (Config.of_ended_sessions ht).2

/-- A task is abandoned. -/
theorem abort (h : service.CacheSound slack cfg) (client : κ) :
    service.CacheSound slack
      { cfg with sessions := Function.update cfg.sessions client none } where
  obeying k t ht := h.obeying k t (Config.of_ended_sessions ht).2
  entries := h.entries
  computed k t moment answer ht := h.computed k t moment answer (Config.of_ended_sessions ht).2

omit [DecidableEq κ] in
/-- Time passes. -/
theorem pass (h : service.CacheSound slack cfg) (moment : Moment ι V) :
    service.CacheSound slack { cfg with store := cfg.store.pass moment } where
  obeying := h.obeying
  entries productId bucket hbucket := by
    obtain ⟨hseconds, computed, hmoment, hrest⟩ := h.entries productId bucket hbucket
    exact ⟨hseconds, computed, List.mem_cons_of_mem _ hmoment, hrest⟩
  computed client s computed answer hs hprogress := by
    obtain ⟨hmoment, hanswer⟩ := h.computed client s computed answer hs hprogress
    exact ⟨List.mem_cons_of_mem _ hmoment, hanswer⟩

/-- **Every prompt move keeps it.** -/
theorem step (h : service.CacheSound slack cfg) {l : Label κ (CacheTask ι) (Moment ι V)}
    (hprompt : service.Prompt slack cfg l) (hstep : service.cacheMachine.step cfg l = some cfg') :
    service.CacheSound slack cfg' := by
  refine Machine.step_rule hstep (fun client task _ _ => h.start client task) ?_
    (fun _ client s b hI _ _ => hI.finish client s.op b) (fun client _ _ _ => h.abort client) ?_
  · intro k task command next exchanges hl hi
    subst hl
    exact h.answer hi hprompt
  · intro moment world _ hpass
    cases hpass
    exact h.pass moment

end CacheSound

variable [DecidableEq κ]

/-- The states that workers and requests reach from an empty cache. -/
def ReachesCache (slack : Time) (moment : Moment ι V) (cfg : CacheConfig ι V ε κ) : Prop :=
  Reach service.cacheMachine.step (service.Prompt slack) ⟨.init moment, fun _ => none, []⟩ cfg

variable {service}

/-- **In every state each entry was computed by the engine** for its product. -/
theorem cache_sound {slack : Time} {moment : Moment ι V} {cfg : CacheConfig ι V ε κ}
    (h : service.ReachesCache slack moment cfg) : service.CacheSound slack cfg :=
  h.invariant (.init moment) fun _ _ _ hsound hprompt hstep => hsound.step hprompt hstep

/-- **How old an answer can be.**  A request that is answered now is answered by the engine as the
index is now, or it asks for the defaults and is answered as the engine has answered in one of the
moments so far, less than the time to live and the delay of a warm-up ago; then it is a success. -/
theorem served_fresh {slack : Time} {moment : Moment ι V} {cfg cfg' : CacheConfig ι V ε κ}
    (h : service.ReachesCache slack moment cfg) {client : κ} {productId : ι}
    {recommendationType : RecommendationType} {topK : Option ℕ} {answer : Recommended ι ε}
    {log : List (Event (CacheCommand.Reply ι V ε) κ (CacheTask ι) (Option (Recommended ι ε)))}
    (hstep : service.cacheMachine.step cfg (.exec client) = some cfg')
    (hlog : cfg'.log =
      .returned client (.serve productId recommendationType topK) (some answer) :: log) :
    answer = service.engine.recommend cfg.store.present.index productId recommendationType topK
        none ∨
      (recommendationType = .similar ∧ topK = none ∧ ∃ computed ∈ cfg.store.moments, ∃ result,
        answer = .ok result ∧
        service.engine.recommend computed.index productId .similar none none = .ok result ∧
        cfg.store.present.clock < computed.clock + slack + service.repository.seconds ∧
        0 < service.repository.seconds) := by
  have hsound := cache_sound h
  obtain ⟨command, next, exchanges, hi, hrest⟩ := Machine.returned_of_step_exec hstep hlog
  have hmay := hsound.mayIssue hi
  have hobeys := (hsound.obeying client _ hi).2
  -- the request returns what its last reply makes of it
  have hrest : next (CacheCommand.exec service command cfg.store).1 = .done (some answer) := hrest
  have hreturns := hobeys (CacheCommand.exec service command cfg.store).1 trivial
  rw [hrest] at hreturns
  have hreturns : (CacheTask.serve productId recommendationType topK).Returns (some answer)
    ((cacheProgressOf service ⟨.serve productId recommendationType topK, .request command next,
      exchanges⟩).next command (CacheCommand.exec service command cfg.store).1) := hreturns
  generalize cacheProgressOf service _ = progress at hmay hreturns
  cases hmay with
  | recommend =>
    cases hreturns
    exact .inl rfl
  | get =>
    have hentry : (CacheCommand.exec service (.get productId) cfg.store).1 =
        (cfg.store.store.entry productId).map Bucket.value := rfl
    rw [hentry] at hreturns
    cases hbucket : cfg.store.store.entry productId with
    | none =>
      rw [hbucket] at hreturns
      cases hreturns
    | some bucket =>
      rw [hbucket] at hreturns
      cases hreturns
      obtain ⟨hstored, hlive⟩ := Option.filter_eq_some_iff.1 hbucket
      obtain ⟨hseconds, computed, hmoment, deadline, hanswer, hdeadline, hage⟩ :=
        hsound.entries productId bucket hstored
      refine .inr ⟨rfl, rfl, computed, hmoment, bucket.value, rfl, hanswer, ?_, hseconds⟩
      have hbefore : cfg.store.present.clock < deadline := by
        unfold Bucket.live at hlive
        rw [hdeadline] at hlive
        exact of_decide_eq_true hlive
      exact lt_of_lt_of_le hbefore hage

end CachedRecommendations

/-! ### A shoe that is no longer indexed -/

namespace CachedShoe

/-- The engine with its default settings, and a cache that keeps entries for an hour. -/
def service : CachedRecommendations ℕ Unit Unit where
  engine :=
    { hybridSearch := OneShoe.hybridSearch
      recommendationScorer := ⟨1 / 2, 1 / 5, 1 / 5, 1 / 10⟩
      reranker := OneShoe.hybridSearch.reranker
      topK := 10
      diversityEnabled := true
      rerankingEnabled := false
      rerankerTopN := 50 }
  repository := ⟨3600⟩

/-- The shoe in a collection. -/
def shoe : StoredPoint ℕ Unit :=
  ⟨7, (), vectorMetadata OneShoe.product
    ⟨"a.png".toList, "b.png".toList, "image/png".toList, 1, 0⟩ ⟨ProductAttributes.empty, [], 0⟩⟩

/-- The shoe is indexed, and later nothing is. -/
def indexed : Moment ℕ Unit := ⟨0, ⟨Collection.empty.upsert shoe, Collection.empty.upsert shoe⟩⟩

def emptied : Moment ℕ Unit := ⟨3599, ⟨Collection.empty, Collection.empty⟩⟩

def first : Fin 2 := ⟨0, Nat.zero_lt_two⟩
def second : Fin 2 := ⟨1, Nat.one_lt_two⟩

/-- The next move is prompt. -/
def isPrompt (cfg : CacheConfig ℕ Unit Unit (Fin 2)) :
    Label (Fin 2) (CacheTask ℕ) (Moment ℕ Unit) → Bool
  | .exec client =>
    match cfg.sessions client with
    | some s =>
      match cacheProgressOf service s with
      | .computed moment _ => cfg.store.present.clock ≤ moment.clock + 1
      | _ => true
    | none => true
  | _ => true

theorem prompt_of_isPrompt {cfg : CacheConfig ℕ Unit Unit (Fin 2)}
    {l : Label (Fin 2) (CacheTask ℕ) (Moment ℕ Unit)} (h : isPrompt cfg l = true) :
    service.Prompt 1 cfg l := by
  rintro client s moment answer rfl hs hprogress
  simp only [isPrompt, hs, hprogress] at h
  exact of_decide_eq_true h

/-- The client's request for recommendations for the shoe is answered next. -/
def answers (cfg : CacheConfig ℕ Unit Unit (Fin 2)) (result : RecommendationResult ℕ) : Prop :=
  ∃ cfg' log, service.cacheMachine.step cfg (.exec second) = some cfg' ∧
    cfg'.log = .returned second (.serve 7 .similar none) (some (.ok result)) :: log

/-- What it is answered. -/
def answered (cfg : CacheConfig ℕ Unit Unit (Fin 2)) : Option (RecommendationResult ℕ) :=
  match service.cacheMachine.step cfg (.exec second) with
  | some cfg' =>
    match cfg'.log with
    | .returned client (.serve 7 .similar none) (some (.ok result)) :: _ =>
      if client = second then some result else none
    | _ => none
  | none => none

theorem answers_of_answered {cfg : CacheConfig ℕ Unit Unit (Fin 2)}
    {result : RecommendationResult ℕ} (h : answered cfg = some result) : answers cfg result := by
  unfold answered at h
  split at h
  · next cfg' hstep =>
    split at h
    · next client answer log hlog =>
      split at h
      · next hclient =>
        cases h
        subst hclient
        exact ⟨cfg', log, hstep, hlog⟩
      · cases h
    · cases h
  · cases h

/-- The warm-up of the shoe is served when the shoe is no longer indexed, a second before its time is
over. -/
theorem served_fresh_shoe : ∃ (cfg : CacheConfig ℕ Unit Unit (Fin 2)) (computed : Moment ℕ Unit)
    (result : RecommendationResult ℕ), answers cfg result ∧
      cfg.store.present.index.image.retrieve 7 = none ∧ computed ∈ cfg.store.moments ∧
      service.engine.recommend computed.index 7 .similar none none = .ok result ∧
      cfg.store.present.clock < computed.clock + 1 + service.repository.seconds := by
  obtain ⟨cfg, hreach, hfinal⟩ := exists_reach_of_runLabels service.cacheMachine.step isPrompt
    (⟨.init indexed, fun _ => none, []⟩ : CacheConfig ℕ Unit Unit (Fin 2))
    [.start first (.warm 7), .exec first, .exec first, .env emptied,
      .start second (.serve 7 .similar none)]
    (fun cfg => (answered cfg).isSome && (cfg.store.present.index.image.retrieve 7).isNone &&
      (cfg.store.present.index.text.retrieve 7).isNone)
    (by decide +kernel)
  rw [Bool.and_eq_true, Bool.and_eq_true] at hfinal
  obtain ⟨⟨hanswered, himage⟩, htext⟩ := hfinal
  obtain ⟨result, hresult⟩ := Option.isSome_iff_exists.1 hanswered
  obtain ⟨cfg', log, hstep, hlog⟩ := answers_of_answered hresult
  have hreach : service.ReachesCache 1 indexed cfg := hreach.mono fun _ _ => prompt_of_isPrompt
  have himage := Option.isNone_iff_eq_none.1 himage
  have htext := Option.isNone_iff_eq_none.1 htext
  rcases CachedRecommendations.served_fresh hreach hstep hlog with hnow | hcached
  · -- the engine knows nothing of the shoe any more
    have hunknown : service.engine.recommend cfg.store.present.index 7 .similar none none =
        .error (.notFound 7) := by
      unfold RecommendationEngineService.recommend RecommendationEngineService.targetMetadata
      rw [himage, htext]
      rfl
    cases hnow.trans hunknown
  · obtain ⟨-, -, computed, hcomputed, result', hanswer, hengine, hage, -⟩ := hcached
    cases hanswer
    exact ⟨cfg, computed, result, answers_of_answered hresult, himage, hcomputed, hengine, hage⟩

end CachedShoe

end ProductIntelligence
