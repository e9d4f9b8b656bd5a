import WayBalancer.ActiveHealthSpec
import WayBalancer.CacheExpiry
import WayBalancer.CacheRuns
import WayBalancer.PolicyCompile
/-!
# CacheBinding — which requests a listener's cache is asked about

A route names the cache policy its responses may be stored under; `resolve_listener_http_cache_policy`
(`binaries/lb-dataplane/src/workspace_serve/http_cache_scopes.rs`) makes of the policies of a listener's routes the one policy
of the listener, and the connection loop asks that cache about every request it did not refuse before, whatever route the
request matched.  So a route that names no policy is cached under its neighbour's (`unbound_route_uncached_iff`).
-/
namespace WayBalancer

open Str

inductive CacheScopeError
  | policy (error : PolicyCompileError)
  | store (error : HttpCacheStoreError)
deriving DecidableEq, Repr

section
variable (config : WorkspaceConfig) (listener : ListenerResourceConfig)

def findHttpCachePolicy (name : Text) : Except PolicyCompileError (Text × HttpCacheResourceConfig) :=
  (policyOr (findPolicy config.policies.httpCaches name)
    (lit "listener " ++ listener.name ++ lit " references unknown http cache policy " ++ name)).map (fun spec => (name, spec))

def routeCachePolicyNames : List Text :=
  ((listener.routes.filterMap (fun routeName => (config.findRoute routeName).bind (·.policies.cachePolicy))).insertionSort
    (· ≤ ·)).dedup

def resolveListenerHttpCachePolicy : Except PolicyCompileError (Option (Text × HttpCacheResourceConfig)) :=
  match listener.policies.cachePolicy with
  | some cachePolicyName => (findHttpCachePolicy config listener cachePolicyName).map some
  | none => match routeCachePolicyNames config listener with
    | []                => .ok none
    | [cachePolicyName] => (findHttpCachePolicy config listener cachePolicyName).map some
    | _                 => .error (.message (lit "listener " ++ listener.name ++ lit
        " references multiple route-level http cache policies, which serve mode does not support on a single listener"))

def HttpCacheResourceConfig.storeConfig (policy : HttpCacheResourceConfig) : HttpCacheStoreConfig :=
  match policy.storage with
  | .memory maxEntries maxBytes => ⟨maxEntries.toNat, maxBytes.toNat, policy.maxObjectBytes.toNat⟩

def buildHttpCacheStore (policy : HttpCacheResourceConfig) : Except HttpCacheStoreError HttpCacheStore :=
  HttpCacheStore.new policy.storeConfig

/-- The protocols whose listeners have a cache. -/
def ListenerResourceConfig.cachesResponses (listener : ListenerResourceConfig) : Bool :=
  listener.listenerClass == .publicSurface && (listener.protocol == .http1 || listener.protocol == .https)

/-- The cache a listener is compiled with: its policy and a store of its own. -/
def compileHttpCacheScope : Except CacheScopeError (Option (HttpCacheResourceConfig × HttpCacheStore)) :=
  if listener.cachesResponses then
    match resolveListenerHttpCachePolicy config listener with
    | .error error            => .error (.policy error)
    | .ok none                => .ok none
    | .ok (some (_, policy)) => match buildHttpCacheStore policy with
      | .error error => .error (.store error)
      | .ok store    => .ok (some (policy, store))
  else .ok none

end

def cacheLog (parseHttpDate : Text → Option ℕ) (metadataSize maxBodyBytes : ℕ) (steps : List CacheStep) :
    Option (HttpCacheResourceConfig × HttpCacheStore) → List CacheEvent
  | none                 => []
  | some (policy, store) => ((SharedCache.new store).run parseHttpDate policy metadataSize maxBodyBytes steps).log

/-! ## What a listener without a policy of its own is compiled with -/

section
variable {config : WorkspaceConfig} {listener : ListenerResourceConfig}

def BoundByRoute (config : WorkspaceConfig) (listener : ListenerResourceConfig) (policy : HttpCacheResourceConfig) : Prop :=
  ∃ routeName ∈ listener.routes, ∃ route name, config.findRoute routeName = some route ∧
    route.policies.cachePolicy = some name ∧ findPolicy config.policies.httpCaches name = some policy

theorem mem_routeCachePolicyNames {name : Text} : name ∈ routeCachePolicyNames config listener ↔
    ∃ routeName ∈ listener.routes, ∃ route, config.findRoute routeName = some route ∧ route.policies.cachePolicy = some name := by
  simp only [routeCachePolicyNames, List.mem_dedup, List.mem_insertionSort, List.mem_filterMap, Option.bind_eq_some_iff]

theorem findHttpCachePolicy_ok {name : Text} {found : Text × HttpCacheResourceConfig} :
    findHttpCachePolicy config listener name = .ok found ↔ found.1 = name ∧
      findPolicy config.policies.httpCaches name = some found.2 := by
  obtain ⟨found, policy⟩ := found
  unfold findHttpCachePolicy policyOr
  cases findPolicy config.policies.httpCaches name with
  | none => simp [Except.map]
  | some spec => simp [Except.map, eq_comm]

/-- The policy of a listener without one of its own is that of its routes that name one, all of them the same. -/
theorem resolveListenerHttpCachePolicy_ok (hown : listener.policies.cachePolicy = none)
    {resolved : Option (Text × HttpCacheResourceConfig)} (h : resolveListenerHttpCachePolicy config listener = .ok resolved)
    {policy : HttpCacheResourceConfig} : BoundByRoute config listener policy ↔ resolved.map (·.2) = some policy := by
  unfold resolveListenerHttpCachePolicy at h
  rw [hown] at h
  have hbou : BoundByRoute config listener policy ↔ ∃ name ∈ routeCachePolicyNames config listener,
      findPolicy config.policies.httpCaches name = some policy := by
    simp only [mem_routeCachePolicyNames]
    constructor
    · rintro ⟨rn, hrt, route, name, hf, hn, hpol⟩
      exact ⟨name, ⟨rn, hrt, route, hf, hn⟩, hpol⟩
    · rintro ⟨name, ⟨rn, hrt, route, hf, hn⟩, hpol⟩
      exact ⟨rn, hrt, route, name, hf, hn, hpol⟩
  rw [hbou]
  match hns : routeCachePolicyNames config listener with
  | [] =>
    rw [hns] at h
    cases h
    simp
  | [name] =>
    rw [hns] at h
    obtain ⟨found, hfd, rfl⟩ := Proc.except_map_ok.1 h
    obtain ⟨-, hpol⟩ := findHttpCachePolicy_ok.1 hfd
    simp [hpol]
  | _ :: _ :: _ =>
    rw [hns] at h
    cases h

/-- What compiling gave: no cache where the protocol has none or no route names a policy, and otherwise the routes' policy
with an empty store of its size. -/
theorem compileHttpCacheScope_ok (hown : listener.policies.cachePolicy = none)
    {scope : Option (HttpCacheResourceConfig × HttpCacheStore)} (h : compileHttpCacheScope config listener = .ok scope) :
    (scope = none ∧ (listener.cachesResponses = true → ∀ policy, ¬ BoundByRoute config listener policy)) ∨
      ∃ policy store, scope = some (policy, store) ∧ listener.cachesResponses = true ∧
        HttpCacheStore.new policy.storeConfig = .ok store ∧ ∀ other, BoundByRoute config listener other ↔ other = policy := by
  unfold compileHttpCacheScope at h
  cases hcac : listener.cachesResponses with
  | false =>
    rw [hcac] at h
    cases h
    exact .inl ⟨rfl, by simp⟩
  | true =>
    rw [hcac] at h
    rcases hres : resolveListenerHttpCachePolicy config listener with error | _ | ⟨name, policy⟩
    · rw [hres] at h
      cases h
    · rw [hres] at h
      cases h
      refine .inl ⟨rfl, fun _ policy hbou => ?_⟩
      cases (resolveListenerHttpCachePolicy_ok hown hres).1 hbou
    · simp only [hres] at h
      cases hsto : buildHttpCacheStore policy with
      | error error => rw [hsto] at h; cases h
      | ok store =>
        rw [hsto] at h
        cases h
        refine .inr ⟨policy, store, rfl, rfl, hsto, fun other => ?_⟩
        rw [resolveListenerHttpCachePolicy_ok hown hres]
        simp [eq_comm]

end

/-! ## A store that takes nothing -/

section
variable (parseHttpDate : Text → Option ℕ) (policy : HttpCacheResourceConfig) (metadataSize maxBodyBytes : ℕ)

def Storable : Prop :=
  ∃ response relay now fill relay' entry,
    buildCacheableResponseEntry parseHttpDate policy maxBodyBytes (lit "GET") response
      (normalizeResponseHeaders response.headers true response.bodyKind) now relay = (.ok fill, relay') ∧
    fill.entry = some entry ∧ entry.estimatedSize metadataSize ≤ policy.maxObjectBytes.toNat

structure SharedCache.Idle (c : SharedCache) : Prop where
  objects : c.store.config.maxObjectBytes = policy.maxObjectBytes.toNat
  held : ∀ key, c.store.state.entries.get? key = none
  fetching : ∀ fetch ∈ c.fetching, fetch.staleFallback = none ∧ fetch.revalidationEntry = none
  log : c.log = []

end

section
variable {parseHttpDate : Text → Option ℕ} {policy : HttpCacheResourceConfig} {metadataSize maxBodyBytes : ℕ} {c : SharedCache}

theorem buildCacheableResponseEntry_get {method : Text} (hm : eqIgnoreCase method (lit "GET") = true)
    (response : Http1ResponseHead) (headers : List HttpHeader) (now : ℕ) :
    buildCacheableResponseEntry parseHttpDate policy maxBodyBytes method response headers now =
      buildCacheableResponseEntry parseHttpDate policy maxBodyBytes (lit "GET") response headers now := by
  have hget : eqIgnoreCase (lit "GET") (lit "GET") = true := by decide
  unfold buildCacheableResponseEntry cacheFillHead
  rw [hm, hget]

variable {store : HttpCacheStore}

variable {now : ℕ}

theorem lookup_none {key : HttpCacheKey} (h : store.state.entries.get? key = none) : (store.lookup now key).1 = none := by
  unfold HttpCacheStore.lookup
  rw [h]

theorem held_none_step (metadataSize : ℕ) (op : CacheOp) (hop : ∀ now key entry, op ≠ .insert now key entry)
    (h : ∀ key, store.state.entries.get? key = none) (key : HttpCacheKey) :
    (store.step metadataSize op).state.entries.get? key = none := by
  cases hg : (store.step metadataSize op).state.entries.get? key with
  | none => rfl
  | some r =>
    rcases held_step metadataSize store op hg with ⟨r₀, hg₀⟩ | ⟨now, entry, -, e, -⟩
    · rw [h] at hg₀
      cases hg₀
    · exact absurd e (hop now key entry)

theorem SharedCache.Idle.ask (hc : c.Idle policy) (request : Http1RequestHead) (now : ℕ) : (c.ask policy request now).Idle policy := by
  unfold SharedCache.ask resolveCacheRequest
  cases hkey : cacheLookupKey policy request with
  | error why => exact ⟨hc.objects, hc.held, hc.fetching, hc.log⟩
  | ok key =>
    dsimp only
    rw [lookup_none (hc.held key)]
    refine ⟨(congrArg _ (step_frame 0 c.store (.lookup now key)).1).trans hc.objects,
      held_none_step 0 (.lookup now key) (by simp) hc.held, fun fetch hf => ?_, hc.log⟩
    rcases List.mem_append.1 hf with hf | hf
    · exact hc.fetching fetch hf
    · cases List.mem_singleton.1 hf
      exact ⟨rfl, rfl⟩

theorem insert_too_large {key : HttpCacheKey} {entry : HttpCacheEntry}
    (h : store.config.maxObjectBytes < entry.estimatedSize metadataSize) :
    (∃ error, (store.insert metadataSize now key entry).1 = .error error) ∧
      (store.insert metadataSize now key entry).2.state = store.state ∧
      (store.insert metadataSize now key entry).2.config = store.config := by
  unfold HttpCacheStore.insert
  cases entry.validate with
  | error e => exact ⟨⟨e, rfl⟩, rfl, rfl⟩
  | ok u =>
    simp only [h, if_true]
    exact ⟨⟨_, rfl⟩, trivial, trivial⟩

theorem SharedCache.Idle.answer (hn : ¬ Storable parseHttpDate policy metadataSize maxBodyBytes) (hc : c.Idle policy)
    {fetch : CacheFetch} (hf : fetch.staleFallback = none ∧ fetch.revalidationEntry = none) (response : Http1ResponseHead)
    (relay : Relay) : (c.answer parseHttpDate policy metadataSize maxBodyBytes fetch response relay).Idle policy := by
  unfold SharedCache.answer
  rw [hf.1, hf.2]
  dsimp only [Option.filter_none]
  unfold SharedCache.fill
  rcases hfi : buildCacheableResponseEntry parseHttpDate policy maxBodyBytes fetch.request.method response
    (normalizeResponseHeaders response.headers true response.bodyKind) fetch.now relay with ⟨_ | ⟨_ | entry, out⟩, relay'⟩
  · exact hc
  · exact hc
  · obtain ⟨hm, -⟩ := cacheFillHead_some (buildCacheableResponseEntry_entry hfi rfl).1
    rw [buildCacheableResponseEntry_get hm] at hfi
    have hlar : c.store.config.maxObjectBytes < entry.estimatedSize metadataSize := by
      rw [hc.objects]
      by_contra hle
      exact hn ⟨response, relay, fetch.now, _, _, entry, hfi, rfl, Nat.le_of_not_lt hle⟩
    obtain ⟨⟨error, herr⟩, hsta, hcfg⟩ :=
      insert_too_large hlar
    dsimp only
    unfold SharedCache.put
    rw [herr]
    exact ⟨(congrArg _ hcfg).trans hc.objects, fun key => by rw [hsta]; exact hc.held key, hc.fetching, hc.log⟩

theorem SharedCache.Idle.finish (hc : c.Idle policy) (i : ℕ) {ending : SharedCache → CacheFetch → SharedCache}
    (hend : ∀ {c : SharedCache} {fetch : CacheFetch}, c.Idle policy →
      fetch.staleFallback = none ∧ fetch.revalidationEntry = none → (ending c fetch).Idle policy) :
    (c.finish i ending).Idle policy := by
  unfold SharedCache.finish
  cases hi : c.fetching[i]? with
  | none => exact hc
  | some fetch =>
    refine hend ⟨hc.objects, hc.held, fun other ho => ?_, hc.log⟩ (hc.fetching fetch (List.mem_of_getElem? hi))
    exact hc.fetching other (List.mem_of_mem_eraseIdx ho)

theorem SharedCache.Idle.step (hn : ¬ Storable parseHttpDate policy metadataSize maxBodyBytes) (hc : c.Idle policy)
    (s : CacheStep) : (c.step parseHttpDate policy metadataSize maxBodyBytes s).Idle policy := by
  cases s with
  | ask request now => exact hc.ask request now
  | answer i resp relay => exact hc.finish i (fun hc hf => hc.answer hn hf resp relay)
  | failure i =>
    refine hc.finish i (fun {c fetch} hc hf => ?_)
    unfold SharedCache.abandon
    rw [hf.1]
    exact hc
  | maintain m =>
    refine ⟨(congrArg _ (step_frame metadataSize c.store m.op).1).trans hc.objects,
      held_none_step metadataSize m.op (fun now key entry e => ?_) hc.held, hc.fetching, hc.log⟩
    cases m <;> cases e

theorem SharedCache.Idle.run (hn : ¬ Storable parseHttpDate policy metadataSize maxBodyBytes) :
    ∀ (steps : List CacheStep) {c : SharedCache}, c.Idle policy →
      (c.run parseHttpDate policy metadataSize maxBodyBytes steps).Idle policy
  | [], _, hc => hc
  | s :: steps, _, hc => SharedCache.Idle.run hn steps (hc.step hn s)

theorem SharedCache.idle_new (h : HttpCacheStore.new policy.storeConfig = .ok store) : (SharedCache.new store).Idle policy := by
  obtain ⟨-, rfl⟩ := HttpCacheStore.new_ok h
  refine ⟨?_, fun _ => rfl, by simp [SharedCache.new], rfl⟩
  cases policy.storage
  rfl

/-! ## A store that takes something -/

theorem insert_into_empty (metadataSize : ℕ) (store : HttpCacheStore) (hcfg : store.config.validate = .ok ())
    (hemp : store.state = ⟨.empty, 0, 0⟩) (now : ℕ) (key : HttpCacheKey) (entry : HttpCacheEntry) (hv : entry.validate = .ok ())
    (hs : entry.estimatedSize metadataSize ≤ store.config.maxObjectBytes) :
    (∃ result, (store.insert metadataSize now key entry).1 = .ok result) ∧
      ∃ r, (store.insert metadataSize now key entry).2.state.entries.get? key = some r ∧ r.entry = entry := by
  obtain ⟨hent, -, -, hobj⟩ := HttpCacheStoreConfig.validate_ok.1 hcfg
  have hsta : (removeFromState ⟨.empty, 0, 0⟩ key).2 = ⟨.empty, 0, 0⟩ := rfl
  have hwit : overBounds store.config (insertRecord ⟨.empty, 0, 0⟩ now key entry (entry.estimatedSize metadataSize)) = false := by
    refine overBounds_false.2 ⟨?_, ?_⟩
    · have hp := (insertRecord_perm ⟨.empty, 0, 0⟩ now key entry (entry.estimatedSize metadataSize)).length_eq
      have hone : (insertRecord ⟨.empty, 0, 0⟩ now key entry (entry.estimatedSize metadataSize)).entries.size = 1 := hp
      omega
    · have hle : Word.satAdd 0 (entry.estimatedSize metadataSize) ≤ 0 + entry.estimatedSize metadataSize := Nat.min_le_left _ _
      exact le_trans hle (by omega)
  unfold HttpCacheStore.insert
  simp only [hemp, hv, if_neg (Nat.not_lt.2 hs), evict_of_within hwit]
  refine ⟨⟨_, rfl⟩, ⟨entry, entry.estimatedSize metadataSize, 0, durationTick now, now⟩, ?_, rfl⟩
  unfold insertRecord
  rw [hsta, SortedMap.get?_insert, if_pos rfl]

theorem lookupOutcome_some (policy : HttpCacheResourceConfig) (key : HttpCacheKey) (found : HttpCacheLookup) :
    (∃ outcome reason, lookupOutcome policy key (some found) = .cacheHit found.entry outcome reason) ∨
      ∃ revalidationEntry reason, lookupOutcome policy key (some found) = .fetch key (some found.entry) revalidationEntry reason := by
  simp only [lookupOutcome]
  split_ifs with hfre hsta hrev herr
  · exact .inl ⟨_, _, rfl⟩
  · exact .inl ⟨_, _, rfl⟩
  · exact .inr ⟨_, _, rfl⟩
  · exact .inr ⟨_, _, rfl⟩
  · -- neither fresh nor stale in one of the two ways
    exfalso
    cases hf : found.freshness with
    | fresh => exact hfre hf
    | staleWhileRevalidate => exact hsta ⟨hf, by simpa using hrev⟩
    | staleIfError => exact herr hf

/-- What a run left for a key: an entry that can be served at a time, and nobody on the way to the origin. -/
def SharedCache.Holds (c : SharedCache) (key : HttpCacheKey) (now : ℕ) : Prop :=
  c.fetching = [] ∧ ∃ r, c.store.state.entries.get? key = some r ∧ (r.entry.metadata.freshness now).isSome = true

theorem holds_after_fill (hsto : Storable parseHttpDate policy metadataSize maxBodyBytes)
    (hnew : HttpCacheStore.new policy.storeConfig = .ok store) {g : Http1RequestHead} {key : HttpCacheKey}
    (hget : eqIgnoreCase g.method (lit "GET") = true) (hkey : cacheLookupKey policy g = .ok key) :
    ∃ now response relay, ((SharedCache.new store).run parseHttpDate policy metadataSize maxBodyBytes
      [.ask g now, .answer 0 response relay]).Holds key now := by
  obtain ⟨response, relay, now, ⟨_, bodyRelayed⟩, relay', entry, hf, rfl, hs⟩ := hsto
  obtain ⟨hcfg, rfl⟩ := HttpCacheStore.new_ok hnew
  refine ⟨now, response, relay, ?_⟩
  have hobj : policy.storeConfig.maxObjectBytes = policy.maxObjectBytes.toNat := by
    cases policy.storage
    rfl
  have hder := cacheFillHead_some (buildCacheableResponseEntry_entry hf rfl).1
  obtain ⟨-, -, ⟨code, -, hmet⟩, -⟩ := hder
  obtain ⟨_, -, _, -, hspa⟩ := deriveCacheMetadata_some hmet
  rw [← buildCacheableResponseEntry_get hget] at hf
  -- the lookup misses, and only the counters have moved
  generalize hst : (⟨policy.storeConfig, ⟨.empty, 0, 0⟩, ⟨0, 0, 0, 0, 0, 0, 0⟩, []⟩ : HttpCacheStore) = store
  have hm : (SharedCache.new store).ask policy g now =
      ⟨(store.lookup now key).2, [⟨g, key, none, none, now, none⟩], fun _ => none, []⟩ := by
    unfold SharedCache.ask resolveCacheRequest
    rw [hkey]
    dsimp only
    rw [lookup_none (by rw [← hst]; rfl)]
    rfl
  obtain ⟨⟨rr, hok⟩, r, hr, rfl⟩ := insert_into_empty metadataSize (store.lookup now key).2
    (by rw [← hst]; exact hcfg) (by rw [← hst]; rfl) now key entry hspa.valid
    (by rw [← hst]; exact le_of_le_of_eq hs hobj.symm)
  unfold SharedCache.run
  rw [List.foldl_cons, List.foldl_cons, List.foldl_nil]
  change SharedCache.Holds (SharedCache.step _ _ _ _ ((SharedCache.new store).ask policy g now) _) key now
  rw [hm]
  unfold SharedCache.step SharedCache.finish
  dsimp only [List.getElem?_cons_zero, List.eraseIdx_cons_zero]
  unfold SharedCache.answer SharedCache.fill
  dsimp only [Option.filter_none]
  rw [hf]
  dsimp only
  unfold SharedCache.put
  dsimp only
  rw [hok]
  exact ⟨rfl, r, hr, HttpCacheMetadata.freshness_isSome.2 hspa.servable⟩

/-- A request looked up under a held key is answered from the store, at once or when the origin fails. -/
theorem SharedCache.Holds.logged (parseHttpDate : Text → Option ℕ) (metadataSize maxBodyBytes : ℕ) {key : HttpCacheKey}
    (hc : c.Holds key now) {r : Http1RequestHead} (hkey : cacheLookupKey policy r = .ok key) :
    ∃ event ∈ (c.run parseHttpDate policy metadataSize maxBodyBytes [.ask r now, .failure 0]).log, event.request = r := by
  obtain ⟨hfet, record, hrec, hfre⟩ := hc
  obtain ⟨freshness, hf⟩ := Option.isSome_iff_exists.1 hfre
  have hfd : (c.store.lookup now key).1 = some ⟨record.entry, freshness⟩ := by
    rw [lookup_of_get? hrec, hf, Option.map_some]
  unfold SharedCache.run
  rcases lookupOutcome_some policy key ⟨record.entry, freshness⟩ with ⟨o, why, hout⟩ | ⟨reval, why, hout⟩
  · have hask : c.ask policy r now =
        ⟨(c.store.lookup now key).2, c.fetching, c.origins, c.log ++ [.hit r record.entry (c.origins key)]⟩ := by
      unfold SharedCache.ask resolveCacheRequest
      simp only [hkey, hfd, hout]
      rfl
    change ∃ event ∈ (SharedCache.finish (c.ask policy r now) 0 SharedCache.abandon).log, _
    rw [hask]
    rw [hfet]
    exact ⟨.hit r record.entry (c.origins key), List.mem_append_right _ List.mem_cons_self, rfl⟩
  · have hask : c.ask policy r now =
        ⟨(c.store.lookup now key).2, [⟨r, key, some record.entry, reval, now, c.origins key⟩], c.origins, c.log⟩ := by
      unfold SharedCache.ask resolveCacheRequest
      simp only [hkey, hfd, hout, hfet]
      rfl
    change ∃ event ∈ (SharedCache.finish (c.ask policy r now) 0 SharedCache.abandon).log, _
    rw [hask]
    exact ⟨.substituted r record.entry, List.mem_append_right _ List.mem_cons_self, rfl⟩

end

/-! ## Requests of routes without a policy -/

section
variable (parseHttpDate : Text → Option ℕ) (metadataSize maxBodyBytes : ℕ) (config : WorkspaceConfig)
  (listener : ListenerResourceConfig) (Admitted : Http1RequestHead → Prop)

def RouteUnbound (r : Http1RequestHead) : Prop :=
  ∃ m route, r.route = some m ∧ config.findRoute m.label = some route ∧ route.policies.cachePolicy = none

def LookedUp (policy : HttpCacheResourceConfig) (r : Http1RequestHead) (key : HttpCacheKey) : Prop :=
  requestMethodIsCacheLookupEligible policy r.method = true ∧ r.bodyKind = .none ∧
    requestStorageKey policy.toHttpCachePolicyConfig r.cacheRequest policy.varyHeaders = some key

/-- In no run over the requests that get as far as the cache is one of a route without a policy answered from the store or its
response stored. -/
def UnboundUncached (scope : Option (HttpCacheResourceConfig × HttpCacheStore)) : Prop :=
  ∀ r, Admitted r → RouteUnbound config r → ∀ steps : List CacheStep, (∀ s ∈ steps, s.From Admitted) →
    ∀ event ∈ cacheLog parseHttpDate metadataSize maxBodyBytes steps scope, event.request ≠ r

/-- **A listener's routes without a cache policy stay uncached** exactly where the listener has no cache, or its cache stores
nothing, or no request of such a route shares its key with a `GET`, as a `GET` does with itself. -/
theorem unbound_route_uncached_iff (hown : listener.policies.cachePolicy = none)
    (scope : Option (HttpCacheResourceConfig × HttpCacheStore)) (hscope : compileHttpCacheScope config listener = .ok scope) :
    UnboundUncached parseHttpDate metadataSize maxBodyBytes config Admitted scope ↔
      listener.cachesResponses = false ∨ ∀ policy, BoundByRoute config listener policy →
        ¬ Storable parseHttpDate policy metadataSize maxBodyBytes ∨
        ∀ r g key, Admitted r → RouteUnbound config r → Admitted g → eqIgnoreCase g.method (lit "GET") = true →
          LookedUp policy r key → ¬ LookedUp policy g key := by
  rcases compileHttpCacheScope_ok hown hscope with ⟨rfl, hn⟩ | ⟨policy, store, rfl, hcac, hnew, hbou⟩
  · refine ⟨fun _ => ?_, fun _ r _ _ steps _ event heve => by cases heve⟩
    cases hcac : listener.cachesResponses with
    | false => exact .inl rfl
    | true => exact .inr (fun policy hp => absurd hp (hn hcac policy))
  · have hpol : BoundByRoute config listener policy := (hbou policy).2 rfl
    constructor
    · intro hunc
      refine .inr fun other hoth => ?_
      obtain rfl := (hbou other).1 hoth
      by_cases hsto : Storable parseHttpDate other metadataSize maxBodyBytes
      · refine .inr fun r g key hr hunb hg hget hrk hgk => ?_
        obtain ⟨now, resp, relay, hhol⟩ := holds_after_fill hsto hnew hget (cacheLookupKey_ok.2 hgk)
        obtain ⟨event, heve, hreq⟩ := hhol.logged parseHttpDate metadataSize maxBodyBytes (cacheLookupKey_ok.2 hrk)
        refine hunc r hr hunb ([.ask g now, .answer 0 resp relay] ++ [.ask r now, .failure 0]) ?_ event ?_ hreq
        · simp only [List.cons_append, List.nil_append, List.forall_mem_cons, CacheStep.From]
          exact ⟨hg, trivial, hr, trivial, by simp⟩
        · change event ∈ ((SharedCache.new store).run parseHttpDate other metadataSize maxBodyBytes (_ ++ _)).log
          rw [SharedCache.run_append]
          exact heve
      · exact .inl hsto
    · intro hc r hr hunb steps hste event heve hreq
      rcases hc with hc | hc
      · rw [hcac] at hc
        cases hc
      rcases hc policy hpol with hn | hapa
      · have hi := SharedCache.Idle.run hn steps (SharedCache.idle_new hnew)
        change event ∈ ((SharedCache.new store).run parseHttpDate policy metadataSize maxBodyBytes steps).log at heve
        rw [hi.log] at heve
        cases heve
      · have htra : ((SharedCache.new store).run parseHttpDate policy metadataSize maxBodyBytes steps).Traced policy Admitted :=
          SharedCache.Traced.run steps (SharedCache.traced_new hnew) hste
        have hkey : ∃ key, cacheLookupKey policy r = .ok key ∧ ∃ o : CacheOrigin, o.Of policy Admitted key := by
          have hone := htra.log event heve
          rw [← hreq]
          cases event with
          | hit request entry origin =>
            obtain ⟨-, key, o, hk, -, hof⟩ := hone
            exact ⟨key, hk, o, hof⟩
          | substituted request entry => exact hone
          | stored request entry => exact hone
        obtain ⟨key, hk, o, hof⟩ := hkey
        exact hapa r o.request key hr hunb hof.admitted hof.method (cacheLookupKey_ok.1 hk) (cacheLookupKey_ok.1 hof.keyed)

end

/-! ### A cached route beside an uncached one -/

/-- Two routes on one listener, of which only `/new` names a cache policy. -/
def mixedWorkspace : WorkspaceConfig where
  listeners := [storeListener .http1]
  routes := [storeRoute (lit "all") (lit "/") [lit "stable"],
    { storeRoute (lit "new") (lit "/new") [lit "stable"] with policies := { cachePolicy := some (lit "pages") } }]
  upstreamClusters := [{ webBackends with name := lit "stable" }]
  policies := { httpCaches := [⟨lit "pages", {}⟩] }

/-- A request for the account page, which the route without a policy leads to. -/
def accountRequest : Http1RequestHead where
  method := lit "GET"
  target := lit "/account"
  version := .http1
  headers := [⟨lit "host", lit "a"⟩]
  bodyKind := .none
  keepAlive := true
  route := some ⟨lit "all", lit "/"⟩
  http10 := false

def accountResponse : Http1ResponseHead where
  version := .http1
  status := 200
  reason := lit "OK"
  headers := [⟨lit "content-length", lit "2"⟩]
  bodyKind := .contentLength 2
  keepAlive := true

def accountEntry : HttpCacheEntry where
  metadata := ⟨200, 0, 60 * 10 ^ 9, some (90 * 10 ^ 9), some (120 * 10 ^ 9), none, none⟩
  headers := [⟨utf8 (lit "content-length"), utf8 (lit "2")⟩]
  body := utf8 (lit "hi")

def mixedStore : HttpCacheStore := ⟨⟨10000, 67108864, 1048576⟩, ⟨.empty, 0, 0⟩, ⟨0, 0, 0, 0, 0, 0, 0⟩, []⟩

def accountSteps : List CacheStep :=
  [.ask accountRequest 0, .answer 0 accountResponse ⟨⟨[], utf8 (lit "hi")⟩, ⟨[], none⟩⟩, .ask accountRequest 1]

/-- The account page, of a route without a cache policy, is stored, and the next request for it answered from the store. -/
theorem account_cached :
    mixedWorkspace.validate (fun _ => none) = .ok () ∧ (storeListener .http1).policies.cachePolicy = none ∧
    (∃ rules, compileRouteRules (fun _ => none) mixedWorkspace.routes = .ok rules ∧
      accountRequest.route = matchRoute accountRequest.target (some (lit "a")) (some accountRequest.method) rules) ∧
    RouteUnbound mixedWorkspace accountRequest ∧
    compileHttpCacheScope mixedWorkspace (storeListener .http1) = .ok (some ({}, mixedStore)) ∧
    cacheLog (fun _ => none) 128 1048576 accountSteps (some ({}, mixedStore)) =
      [.stored accountRequest accountEntry, .hit accountRequest accountEntry (some ⟨accountRequest, accountResponse.headers⟩)] := by
  refine ⟨rfl, rfl, ⟨_, rfl, by decide +kernel⟩, ⟨_, _, rfl, rfl, rfl⟩, rfl, by decide +kernel⟩

/-- A listener none of whose routes names a policy caches nothing. -/
theorem store_uncached :
    UnboundUncached (fun _ => none) 128 1048576 (storeWorkspace [lit "canary"]) (fun _ => True) none := by
  refine (unbound_route_uncached_iff (fun _ => none) 128 1048576 (storeWorkspace [lit "canary"]) (storeListener .http1)
    (fun _ => True) rfl none rfl).2 (.inr fun policy hbou => ?_)
  obtain ⟨routeName, hrt, route, name, hf, hn, -⟩ := hbou
  exfalso
  have hrts : routeName = lit "all" ∨ routeName = lit "new" := by simpa [storeListener] using hrt
  rcases hrts with rfl | rfl <;> cases hf <;> cases hn

end WayBalancer
