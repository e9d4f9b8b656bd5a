import WayBalancer.CacheLookup
import WayBalancer.CacheLru
/-!
# CacheRuns — a listener's cache under all of its connections

Every connection of a listener asks one store: a request is looked up (`resolve_cache_request`), goes to the origin where the
lookup says so, and comes back to the store with the origin's answer (`process_uncached_request`), at the time it was looked
up at.  Between the two, other connections do the same, and the store is purged.  A run is a list of such steps.  Beside the
store a run keeps where each entry comes from: the request it was fetched for and the headers of its response, which a
revalidation hands on (`SharedCache.Traced`).
-/
namespace WayBalancer

open Str

structure CacheOrigin where
  request : Http1RequestHead
  headers : List HttpHeader
deriving DecidableEq, Repr

structure CacheFetch where
  request : Http1RequestHead
  key : HttpCacheKey
  staleFallback : Option HttpCacheEntry
  revalidationEntry : Option HttpCacheEntry
  now : ℕ
  origin : Option CacheOrigin

/-- What a run did for a request: answered it from the store, answered it with an entry in place of what the origin said,
or stored an entry. -/
inductive CacheEvent
  | hit (request : Http1RequestHead) (entry : HttpCacheEntry) (origin : Option CacheOrigin)
  | substituted (request : Http1RequestHead) (entry : HttpCacheEntry)
  | stored (request : Http1RequestHead) (entry : HttpCacheEntry)
deriving DecidableEq, Repr

def CacheEvent.request : CacheEvent → Http1RequestHead
  | .hit request _ _         => request
  | .substituted request _   => request
  | .stored request _        => request

structure SharedCache where
  store : HttpCacheStore
  fetching : List CacheFetch
  origins : HttpCacheKey → Option CacheOrigin
  log : List CacheEvent

def SharedCache.new (store : HttpCacheStore) : SharedCache := ⟨store, [], fun _ => none, []⟩

inductive CacheMaintenance
  | remove (key : HttpCacheKey)
  | purgePathPrefix (path : Text)
  | applyInvalidationEvent (event : HttpCacheInvalidationEvent)
  | purgeExpired (now : ℕ)

def CacheMaintenance.op : CacheMaintenance → CacheOp
  | .remove key                   => .remove key
  | .purgePathPrefix path         => .purgePathPrefix path
  | .applyInvalidationEvent event => .applyInvalidationEvent event
  | .purgeExpired now             => .purgeExpired now

/-- A step of a run: a request is looked up, a fetch gets its response head and the streams its body is relayed between, a
fetch fails before anything was sent to its client, or the store is purged. -/
inductive CacheStep
  | ask (request : Http1RequestHead) (now : ℕ)
  | answer (i : ℕ) (response : Http1ResponseHead) (relay : Relay)
  | failure (i : ℕ)
  | maintain (m : CacheMaintenance)

namespace SharedCache

section
variable (parseHttpDate : Text → Option ℕ) (policy : HttpCacheResourceConfig) (metadataSize maxBodyBytes : ℕ)

variable (c : SharedCache)

def ask (request : Http1RequestHead) (now : ℕ) : SharedCache :=
  let store := (resolveCacheRequest policy request now c.store).2
  match (resolveCacheRequest policy request now c.store).1 with
  | .bypass _ => { c with store }
  | .cacheHit entry _ _ =>
    { c with store, log := c.log ++ [.hit request entry ((cacheLookupKey policy request).toOption.bind c.origins)] }
  | .fetch key staleFallback revalidationEntry _ =>
    { c with store, fetching := c.fetching ++ [⟨request, key, staleFallback, revalidationEntry, now, c.origins key⟩] }

variable (fetch : CacheFetch)

def put (entry : HttpCacheEntry) (origin : Option CacheOrigin) : SharedCache :=
  let store := (c.store.insert metadataSize fetch.now fetch.key entry).2
  match (c.store.insert metadataSize fetch.now fetch.key entry).1 with
  | .ok _ =>
    { c with store, origins := Function.update c.origins fetch.key origin, log := c.log ++ [.stored fetch.request entry] }
  | .error _ => { c with store }

def substitute (entry : HttpCacheEntry) : SharedCache :=
  { c with log := c.log ++ [.substituted fetch.request entry] }

def confirm (staleEntry : HttpCacheEntry) (headers : List HttpHeader) : SharedCache :=
  let refreshed := (refreshRevalidatedEntry parseHttpDate policy staleEntry headers fetch.now).getD staleEntry
  (c.put metadataSize fetch refreshed fetch.origin).substitute fetch refreshed

def fill (response : Http1ResponseHead) (headers : List HttpHeader) (relay : Relay) : SharedCache :=
  match (buildCacheableResponseEntry parseHttpDate policy maxBodyBytes fetch.request.method response headers fetch.now relay).1 with
  | .ok ⟨some entry, _⟩ => c.put metadataSize fetch entry (some ⟨fetch.request, headers⟩)
  | _                   => c

def answer (response : Http1ResponseHead) (relay : Relay) : SharedCache :=
  let headers := normalizeResponseHeaders response.headers true response.bodyKind
  match fetch.revalidationEntry.filter (fun _ => response.status == 304),
      fetch.staleFallback.filter (fun _ => isStaleIfErrorResponseStatus response.status) with
  | some staleEntry, _    => c.confirm parseHttpDate policy metadataSize fetch staleEntry headers
  | none, some staleEntry => c.substitute fetch staleEntry
  | none, none            => c.fill parseHttpDate policy metadataSize maxBodyBytes fetch response headers relay

def abandon : SharedCache :=
  match fetch.staleFallback with
  | none            => c
  | some staleEntry => c.substitute fetch staleEntry

def finish (i : ℕ) (ending : SharedCache → CacheFetch → SharedCache) : SharedCache :=
  match c.fetching[i]? with
  | none       => c
  | some fetch => ending { c with fetching := c.fetching.eraseIdx i } fetch

def step (c : SharedCache) : CacheStep → SharedCache
  | .ask request now         => c.ask policy request now
  | .answer i response relay =>
    c.finish i (fun c fetch => c.answer parseHttpDate policy metadataSize maxBodyBytes fetch response relay)
  | .failure i               => c.finish i abandon
  | .maintain m              => { c with store := c.store.step metadataSize m.op }

def run (steps : List CacheStep) : SharedCache :=
  steps.foldl (step parseHttpDate policy metadataSize maxBodyBytes) c

end

end SharedCache

/-! ## What a step does -/

variable {k : HttpCacheKey} {r : CacheRecord}

theorem held_step (metadataSize : ℕ) (store : HttpCacheStore) (op : CacheOp)
    (h : (store.step metadataSize op).state.entries.get? k = some r) :
    (∃ r₀, store.state.entries.get? k = some r₀) ∨
      ∃ now entry result, op = .insert now k entry ∧ (store.insert metadataSize now k entry).1 = .ok result := by
  rcases step_record h with ⟨-, hg⟩ | ⟨hu, hus⟩
  · exact .inl ⟨r, hg⟩
  · cases hus with
    | hit now r₀ hop hg hf ht hs => exact .inl ⟨r₀, hg⟩
    | inserted now entry hop ht hs =>
      subst hop
      refine .inr ⟨now, entry, ?_⟩
      cases hr : (store.insert metadataSize now k entry).1 with
      | ok result => exact ⟨result, rfl, rfl⟩
      | error e => simp [usedKey, hr] at hu

variable {store : HttpCacheStore}

theorem held_lookup {now : ℕ} {key : HttpCacheKey} (h : (store.lookup now key).2.state.entries.get? k = some r) :
    ∃ r₀, store.state.entries.get? k = some r₀ := by
  rcases held_step 0 store (.lookup now key) h with hg | ⟨_, _, _, hop, -⟩
  · exact hg
  · cases hop

theorem held_of_lookup {now : ℕ} {key : HttpCacheKey} {entry : HttpCacheEntry}
    (h : (store.lookup now key).1.map (·.entry) = some entry) :
    ∃ r₀, store.state.entries.get? key = some r₀ ∧ r₀.entry = entry := by
  unfold HttpCacheStore.lookup at h
  cases hr : store.state.entries.get? key with
  | none => simp [hr] at h
  | some r =>
    cases hf : r.entry.metadata.freshness now with
    | none => simp [hr, hf] at h
    | some freshness =>
      simp only [hr, hf, Option.map_some, Option.some.injEq] at h
      exact ⟨r, rfl, h⟩

/-! ## Where the entries come from -/

section
variable (policy : HttpCacheResourceConfig) (Admitted : Http1RequestHead → Prop)

/-- An origin of the entry under a key: an admitted `GET` with that key, and a response without an unsafe `Vary`. -/
structure CacheOrigin.Of (key : HttpCacheKey) (o : CacheOrigin) : Prop where
  admitted : Admitted o.request
  keyed : cacheLookupKey policy o.request = .ok key
  method : eqIgnoreCase o.request.method (lit "GET") = true
  vary : responseHasUnsafeVary o.headers = false

/-- What a fetch carries: its request was looked up under its key, and an entry it took along has an origin. -/
structure CacheFetch.Traced (fetch : CacheFetch) : Prop where
  admitted : Admitted fetch.request
  keyed : cacheLookupKey policy fetch.request = .ok fetch.key
  sourced : fetch.staleFallback.isSome = true ∨ fetch.revalidationEntry.isSome = true →
    ∃ o, fetch.origin = some o ∧ o.Of policy Admitted fetch.key

/-- What an event says of its request: it was looked up, and an entry that answered it has an origin under its key; only a
`GET`'s response is stored, or an entry with an origin. -/
def CacheEvent.Traced : CacheEvent → Prop
  | .hit request _ origin  => Admitted request ∧ ∃ key o, cacheLookupKey policy request = .ok key ∧ origin = some o ∧
      o.Of policy Admitted key
  | .substituted request _ => ∃ key, cacheLookupKey policy request = .ok key ∧ ∃ o : CacheOrigin, o.Of policy Admitted key
  | .stored request _      => ∃ key, cacheLookupKey policy request = .ok key ∧ ∃ o : CacheOrigin, o.Of policy Admitted key

/-- **The invariant of a run**: every entry held, taken along or sent has an origin. -/
structure SharedCache.Traced (c : SharedCache) : Prop where
  held : ∀ key r, c.store.state.entries.get? key = some r → ∃ o, c.origins key = some o ∧ o.Of policy Admitted key
  fetching : ∀ fetch ∈ c.fetching, fetch.Traced policy Admitted
  log : ∀ event ∈ c.log, event.Traced policy Admitted

/-- A step whose request, where it brings one, is admitted. -/
def CacheStep.From : CacheStep → Prop
  | .ask request _ => Admitted request
  | _              => True

end

section
variable {parseHttpDate : Text → Option ℕ} {policy : HttpCacheResourceConfig} {Admitted : Http1RequestHead → Prop}
  {metadataSize maxBodyBytes : ℕ} {c : SharedCache}

theorem SharedCache.traced_new {config : HttpCacheStoreConfig} (h : HttpCacheStore.new config = .ok store) :
    (SharedCache.new store).Traced policy Admitted := by
  obtain ⟨-, rfl⟩ := HttpCacheStore.new_ok h
  refine ⟨fun key r hr => ?_, by simp [SharedCache.new], by simp [SharedCache.new]⟩
  cases hr

section
variable (hc : c.Traced policy Admitted)
include hc

theorem SharedCache.Traced.ask {request : Http1RequestHead} (hr : Admitted request) (now : ℕ) :
    (c.ask policy request now).Traced policy Admitted := by
  unfold SharedCache.ask resolveCacheRequest
  cases hkey : cacheLookupKey policy request with
  | error why => exact ⟨hc.held, hc.fetching, hc.log⟩
  | ok key =>
    have hh : ∀ k r, (c.store.lookup now key).2.state.entries.get? k = some r → ∃ o, c.origins k = some o ∧ o.Of policy Admitted k := by
      intro k r hg
      obtain ⟨r₀, hg₀⟩ := held_lookup hg
      exact hc.held k r₀ hg₀
    have hfd : ∀ entry, (c.store.lookup now key).1.map (·.entry) = some entry →
        ∃ o, c.origins key = some o ∧ o.Of policy Admitted key := by
      intro entry he
      obtain ⟨r₀, hg₀, -⟩ := held_of_lookup he
      exact hc.held key r₀ hg₀
    dsimp only
    cases hout : lookupOutcome policy key (c.store.lookup now key).1 with
    | bypass why => exact ⟨hh, hc.fetching, hc.log⟩
    | cacheHit entry oo why =>
      obtain ⟨o, ho, hof⟩ := hfd entry (lookupOutcome_hit hout)
      refine ⟨hh, hc.fetching, fun event he => ?_⟩
      rcases List.mem_append.1 he with he | he
      · exact hc.log event he
      · cases List.mem_singleton.1 he
        exact ⟨hr, key, o, hkey, ho, hof⟩
    | fetch key' staleFallback revalidationEntry why =>
      obtain ⟨rfl, hsta, hrev⟩ := lookupOutcome_fetch hout
      refine ⟨hh, fun fetch hf => ?_, hc.log⟩
      rcases List.mem_append.1 hf with hf | hf
      · exact hc.fetching fetch hf
      · cases List.mem_singleton.1 hf
        refine ⟨hr, hkey, fun hs => ?_⟩
        rcases hs with hs | hs
        · obtain ⟨entry, he⟩ := Option.isSome_iff_exists.1 hs
          exact hfd entry (hsta entry he)
        · obtain ⟨entry, he⟩ := Option.isSome_iff_exists.1 hs
          exact hfd entry (hrev entry he)

theorem SharedCache.Traced.put {fetch : CacheFetch} (hf : fetch.Traced policy Admitted)
    (entry : HttpCacheEntry) {o : CacheOrigin} (ho : o.Of policy Admitted fetch.key) :
    (c.put metadataSize fetch entry (some o)).Traced policy Admitted := by
  have hh : ∀ {k r}, (c.store.insert metadataSize fetch.now fetch.key entry).2.state.entries.get? k = some r →
      (∃ r₀, c.store.state.entries.get? k = some r₀) ∨
        (k = fetch.key ∧ ∃ rr, (c.store.insert metadataSize fetch.now fetch.key entry).1 = .ok rr) := by
    intro k r hg
    rcases held_step metadataSize c.store (.insert fetch.now fetch.key entry) hg with hg | ⟨_, _, rr, hop, hok⟩
    · exact .inl hg
    · cases hop
      exact .inr ⟨rfl, rr, hok⟩
  unfold SharedCache.put
  cases hins : (c.store.insert metadataSize fetch.now fetch.key entry).1 with
  | ok rr =>
    refine ⟨fun k r hg => ?_, hc.fetching, fun event he => ?_⟩
    · by_cases hk : k = fetch.key
      · subst hk
        exact ⟨o, Function.update_self .., ho⟩
      · rcases hh hg with ⟨r₀, hg₀⟩ | ⟨e, -⟩
        · obtain ⟨o', ho', hof⟩ := hc.held k r₀ hg₀
          exact ⟨o', (Function.update_of_ne hk ..).trans ho', hof⟩
        · exact absurd e hk
    · rcases List.mem_append.1 he with he | he
      · exact hc.log event he
      · cases List.mem_singleton.1 he
        exact ⟨fetch.key, hf.keyed, o, ho⟩
  | error e =>
    refine ⟨fun k r hg => ?_, hc.fetching, hc.log⟩
    rcases hh hg with ⟨r₀, hg₀⟩ | ⟨-, rr, hok⟩
    · exact hc.held k r₀ hg₀
    · rw [hins] at hok
      cases hok

theorem SharedCache.Traced.substitute {fetch : CacheFetch} (hf : fetch.Traced policy Admitted)
    (entry : HttpCacheEntry) {o : CacheOrigin} (ho : o.Of policy Admitted fetch.key) :
    (c.substitute fetch entry).Traced policy Admitted := by
  refine ⟨hc.held, hc.fetching, fun event he => ?_⟩
  rcases List.mem_append.1 he with he | he
  · exact hc.log event he
  · cases List.mem_singleton.1 he
    exact ⟨fetch.key, hf.keyed, o, ho⟩

theorem SharedCache.Traced.erase (i : ℕ) : { c with fetching := c.fetching.eraseIdx i }.Traced policy Admitted :=
  ⟨hc.held, fun fetch hf => hc.fetching fetch (List.mem_of_mem_eraseIdx hf), hc.log⟩

theorem SharedCache.Traced.fill {fetch : CacheFetch} (hf : fetch.Traced policy Admitted)
    (response : Http1ResponseHead) (headers : List HttpHeader) (relay : Relay) :
    (c.fill parseHttpDate policy metadataSize maxBodyBytes fetch response headers relay).Traced policy Admitted := by
  unfold SharedCache.fill
  rcases hfi : buildCacheableResponseEntry parseHttpDate policy maxBodyBytes fetch.request.method response headers fetch.now
    relay with ⟨_ | ⟨_ | entry, out⟩, relay'⟩
  · exact hc
  · exact hc
  · obtain ⟨hhead, -⟩ := buildCacheableResponseEntry_entry hfi rfl
    obtain ⟨hm, hcac, -⟩ := cacheFillHead_some hhead
    refine hc.put hf entry ⟨hf.admitted, hf.keyed, hm, ?_⟩
    unfold responseIsCacheable at hcac
    split_ifs at hcac
    simpa using hcac

theorem SharedCache.Traced.answer {fetch : CacheFetch} (hf : fetch.Traced policy Admitted)
    (response : Http1ResponseHead) (relay : Relay) :
    (c.answer parseHttpDate policy metadataSize maxBodyBytes fetch response relay).Traced policy Admitted := by
  unfold SharedCache.answer
  split
  · rename_i staleEntry _ hrev
    have hs : fetch.revalidationEntry.isSome = true := by
      cases he : fetch.revalidationEntry with
      | none => rw [he] at hrev; cases hrev
      | some e => rfl
    obtain ⟨o, ho, hof⟩ := hf.sourced (.inr hs)
    unfold SharedCache.confirm
    rw [ho]
    exact (hc.put hf _ hof).substitute hf _ hof
  · rename_i staleEntry _ hsta
    have hs : fetch.staleFallback.isSome = true := by
      cases he : fetch.staleFallback with
      | none => rw [he] at hsta; cases hsta
      | some e => rfl
    obtain ⟨o, -, hof⟩ := hf.sourced (.inl hs)
    exact hc.substitute hf _ hof
  · exact hc.fill hf _ _ _

theorem SharedCache.Traced.abandon {fetch : CacheFetch} (hf : fetch.Traced policy Admitted) :
    (c.abandon fetch).Traced policy Admitted := by
  unfold SharedCache.abandon
  cases hsta : fetch.staleFallback with
  | none => exact hc
  | some staleEntry =>
    obtain ⟨o, -, hof⟩ := hf.sourced (.inl (by rw [hsta]; rfl))
    exact hc.substitute hf staleEntry hof

theorem SharedCache.Traced.finish (i : ℕ) {ending : SharedCache → CacheFetch → SharedCache}
    (hend : ∀ {c : SharedCache} {fetch : CacheFetch}, c.Traced policy Admitted → fetch.Traced policy Admitted →
      (ending c fetch).Traced policy Admitted) : (c.finish i ending).Traced policy Admitted := by
  unfold SharedCache.finish
  cases hi : c.fetching[i]? with
  | none => exact hc
  | some fetch => exact hend (hc.erase i) (hc.fetching fetch (List.mem_of_getElem? hi))

/-- **Every step keeps the origins.** -/
theorem SharedCache.Traced.step {s : CacheStep} (hs : s.From Admitted) :
    (c.step parseHttpDate policy metadataSize maxBodyBytes s).Traced policy Admitted := by
  cases s with
  | ask request now => exact hc.ask hs now
  | answer i resp relay => exact hc.finish i (fun hc hf => hc.answer hf resp relay)
  | failure i => exact hc.finish i (fun hc hf => hc.abandon hf)
  | maintain m =>
    refine ⟨fun k r hg => ?_, hc.fetching, hc.log⟩
    rcases held_step metadataSize c.store m.op hg with ⟨r₀, hg₀⟩ | ⟨_, _, _, hop, -⟩
    · exact hc.held k r₀ hg₀
    · cases m <;> cases hop

end

theorem SharedCache.run_append (c : SharedCache) (steps steps' : List CacheStep) :
    c.run parseHttpDate policy metadataSize maxBodyBytes (steps ++ steps') =
      (c.run parseHttpDate policy metadataSize maxBodyBytes steps).run parseHttpDate policy metadataSize maxBodyBytes steps' :=
  List.foldl_append

theorem SharedCache.Traced.run : ∀ (steps : List CacheStep) {c : SharedCache}, c.Traced policy Admitted →
    (∀ s ∈ steps, s.From Admitted) →
    (c.run parseHttpDate policy metadataSize maxBodyBytes steps).Traced policy Admitted
  | [], _, hc, _ => hc
  | s :: steps, _, hc, hste =>
    SharedCache.Traced.run steps (hc.step (hste s List.mem_cons_self)) (fun s' hs' => hste s' (List.mem_cons_of_mem s hs'))

end

end WayBalancer
