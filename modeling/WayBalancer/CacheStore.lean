import WayBalancer.CacheEntry
import WayBalancer.SortedMap
/-!
# CacheStore — the bounded cache store

`HttpCacheStore` of `crates/runtime/src/http_cache.rs` with every operation that touches its entries: lookups, which drop
what has expired, insertions, which evict down to the bounds, removals and the three purges.  Byte accounting is
incremental and saturating, as in the source.  A store in use is a run of `CacheOp`s from `HttpCacheStore.new`.
-/
namespace WayBalancer

open Str Word
open Crlf (Bytes)

structure CacheRecord where
  entry : HttpCacheEntry
  size : ℕ
  insertedSequence : ℕ
  lastAccessedTick : ℕ
  lastAccessedAt : ℕ
deriving DecidableEq, Repr

structure CacheStoreState where
  entries : SortedMap HttpCacheKey CacheRecord
  totalBytes : ℕ
  nextSequence : ℕ

/-- The counters of a store; each wraps at 64 bits. -/
structure CacheCounters where
  hits : ℕ
  misses : ℕ
  inserts : ℕ
  replaces : ℕ
  evictions : ℕ
  expirations : ℕ
  rejectedInserts : ℕ
deriving DecidableEq, Repr

structure HttpCacheStore where
  config : HttpCacheStoreConfig
  state : CacheStoreState
  counters : CacheCounters
  appliedInvalidations : List (Text × Text)

def HttpCacheStore.new (config : HttpCacheStoreConfig) : Except HttpCacheStoreError HttpCacheStore :=
  match config.validate with
  | .error e => .error e
  | .ok ()   => .ok ⟨config, ⟨.empty, 0, 0⟩, ⟨0, 0, 0, 0, 0, 0, 0⟩, []⟩

theorem HttpCacheStore.new_ok {config : HttpCacheStoreConfig} {store : HttpCacheStore} (h : HttpCacheStore.new config = .ok store) :
    config.validate = .ok () ∧ store = ⟨config, ⟨.empty, 0, 0⟩, ⟨0, 0, 0, 0, 0, 0, 0⟩, []⟩ := by
  unfold HttpCacheStore.new at h
  split at h
  · cases h
  · rename_i hv
    cases h
    exact ⟨hv, rfl⟩

/-! ## Removal and eviction -/

variable (s : CacheStoreState)

def CacheStoreState.without (key : HttpCacheKey) (record : CacheRecord) : CacheStoreState :=
  { s with entries := s.entries.erase key, totalBytes := s.totalBytes - record.size }

def removeFromState (key : HttpCacheKey) : Option HttpCacheEntry × CacheStoreState :=
  match s.entries.get? key with
  | some record => (some record.entry, s.without key record)
  | none        => (none, s)

/-- What eviction goes by: the last access in whole milliseconds, then the order of insertion. -/
def CacheRecord.age (r : CacheRecord) : ℕ ×ₗ ℕ := toLex (r.lastAccessedTick, r.insertedSequence)

def oldestEntry : Option (HttpCacheKey × CacheRecord) :=
  s.entries.entries.argmin (fun e => e.2.age)

def oldestEntryKey : Option HttpCacheKey := (oldestEntry s).map (·.1)

theorem oldestEntryKey_get? {s : CacheStoreState} {key : HttpCacheKey} (h : oldestEntryKey s = some key) :
    ∃ record, oldestEntry s = some (key, record) ∧ s.entries.get? key = some record := by
  obtain ⟨⟨k, record⟩, he, rfl⟩ := Option.map_eq_some_iff.1 h
  exact ⟨record, he, SortedMap.get?_eq_some.2 (List.argmin_mem he)⟩

/-- Whether a state is over its bounds: the condition of the eviction loop. -/
def overBounds (config : HttpCacheStoreConfig) (s : CacheStoreState) : Bool :=
  config.maxEntries < s.entries.size || config.maxBytes < s.totalBytes

theorem size_without {s : CacheStoreState} {key : HttpCacheKey} {record : CacheRecord}
    (h : s.entries.get? key = some record) : s.entries.size = (s.without key record).entries.size + 1 := by
  have hp := (SortedMap.erase_perm h).length_eq
  simpa [SortedMap.size, CacheStoreState.without] using hp

/-- Removes the oldest entry while the state is over its bounds; returns how many went. -/
def evictUntilWithinBounds (config : HttpCacheStoreConfig) (s : CacheStoreState) : ℕ × CacheStoreState :=
  if overBounds config s then
    match _hk : oldestEntryKey s with
    | none     => (0, s)
    | some key =>
      match hr : s.entries.get? key with
      | some record =>
        let rest := evictUntilWithinBounds config (s.without key record)
        (rest.1 + 1, rest.2)
      -- the loop would turn in place; an oldest key is always a stored one
      | none => evictUntilWithinBounds config s
  else (0, s)
termination_by s.entries.size
decreasing_by
  · have hs := size_without hr
    omega
  · obtain ⟨record, -, hg⟩ := oldestEntryKey_get? _hk
    rw [hr] at hg
    cases hg

/-! ## The operations -/

structure HttpCacheLookup where
  entry : HttpCacheEntry
  freshness : HttpCacheFreshness
deriving DecidableEq, Repr

variable (store : HttpCacheStore) (now : ℕ)

def HttpCacheStore.lookup (key : HttpCacheKey) : Option HttpCacheLookup × HttpCacheStore :=
  let c := store.counters
  match store.state.entries.get? key with
  | none => (none, { store with counters := { c with misses := wrapAdd c.misses 1 } })
  | some record =>
    match record.entry.metadata.freshness now with
    | none => (none, { store with
        state := store.state.without key record
        counters := { c with expirations := wrapAdd c.expirations 1, misses := wrapAdd c.misses 1 } })
    | some freshness => (some ⟨record.entry, freshness⟩, { store with
        state := { store.state with
          entries := store.state.entries.modify key
            (fun r => { r with lastAccessedTick := durationTick now, lastAccessedAt := now }) }
        counters := { c with hits := wrapAdd c.hits 1 } })

structure HttpCacheInsertResult where
  replaced : Bool
  evictedEntries : ℕ
deriving DecidableEq, Repr

/-- The state an insertion hands to eviction: the old record under the key gone, the new one in. -/
def insertRecord (key : HttpCacheKey) (entry : HttpCacheEntry) (size : ℕ) : CacheStoreState :=
  let s := (removeFromState s key).2
  { entries := s.entries.insert key ⟨entry, size, s.nextSequence, durationTick now, now⟩
    totalBytes := satAdd s.totalBytes size
    nextSequence := satAdd s.nextSequence 1 }

variable (metadataSize : ℕ)

def HttpCacheStore.insert (store : HttpCacheStore) (now : ℕ) (key : HttpCacheKey) (entry : HttpCacheEntry) :
    Except HttpCacheStoreError HttpCacheInsertResult × HttpCacheStore :=
  let c := store.counters
  match entry.validate with
  | .error e => (.error e, store)
  | .ok () =>
    let size := entry.estimatedSize metadataSize
    if store.config.maxObjectBytes < size then
      (.error (.objectTooLarge size store.config.maxObjectBytes),
        { store with counters := { c with rejectedInserts := wrapAdd c.rejectedInserts 1 } })
    else
      let replaced := (store.state.entries.get? key).isSome
      let (evicted, state) := evictUntilWithinBounds store.config (insertRecord store.state now key entry size)
      (.ok ⟨replaced, evicted⟩, { store with
        state := state
        counters := { c with
          replaces := if replaced then wrapAdd c.replaces 1 else c.replaces
          inserts := if replaced then c.inserts else wrapAdd c.inserts 1
          evictions := wrapAdd c.evictions evicted } })

def HttpCacheStore.remove (key : HttpCacheKey) : Option HttpCacheEntry × HttpCacheStore :=
  let (removed, state) := removeFromState store.state key
  (removed, { store with state := state })

def removeAll (keys : List HttpCacheKey) : CacheStoreState :=
  keys.foldl (fun s key => (removeFromState s key).2) s

def purgePathPrefixFromState (pathPrefix : Text) : ℕ × CacheStoreState :=
  let keysToRemove := s.entries.keys.filter (fun key => storageKeyMatchesPathPrefix key pathPrefix)
  (keysToRemove.length, removeAll s keysToRemove)

def HttpCacheStore.purgePathPrefix (pathPrefix : Text) : ℕ × HttpCacheStore :=
  let (purged, state) := purgePathPrefixFromState store.state pathPrefix
  (purged, { store with state := state })

def HttpCacheStore.purgeExpired : ℕ × HttpCacheStore :=
  let c := store.counters
  let keysToRemove := (store.state.entries.entries.filter (fun e => e.2.entry.metadata.expiresAt ≤ now)).map (·.1)
  (keysToRemove.length, { store with
    state := removeAll store.state keysToRemove
    counters := { c with expirations := wrapAdd c.expirations keysToRemove.length } })

/-! ## Invalidation events -/

inductive HttpCacheInvalidationTarget
  | exactKey (key : HttpCacheKey)
  | pathPrefix (path : Text)

structure HttpCacheInvalidationEvent where
  eventId : Text
  scope : Text
  issuer : Text
  target : HttpCacheInvalidationTarget

inductive HttpCacheInvalidationError
  | emptyEventId
  | eventIdTooLong
  | emptyScope
  | scopeTooLong
  | emptyIssuer
  | issuerTooLong
  | invalidPathPrefix
deriving DecidableEq, Repr

inductive HttpCacheInvalidationApplyResult
  | applied (purgedEntries : ℕ)
  | duplicate
deriving DecidableEq, Repr

def invalidationMaxEventIdLen : ℕ := 256

def invalidationMaxScopeLen : ℕ := 128

def invalidationMaxIssuerLen : ℕ := 128

def invalidationMaxPathPrefixLen : ℕ := 512

def validateInvalidationTarget : HttpCacheInvalidationTarget → Except HttpCacheInvalidationError Unit
  | .exactKey _ => .ok ()
  | .pathPrefix path =>
    if (trim path).isEmpty || decide (invalidationMaxPathPrefixLen < byteLen path) || !(lit "/").isPrefixOf path ||
        path.contains '?' || path.contains '#' then .error .invalidPathPrefix
    else .ok ()

def validateInvalidationEvent (event : HttpCacheInvalidationEvent) : Except HttpCacheInvalidationError Unit :=
  if (trim event.eventId).isEmpty then .error .emptyEventId
  else if invalidationMaxEventIdLen < byteLen event.eventId then .error .eventIdTooLong
  else if (trim event.scope).isEmpty then .error .emptyScope
  else if invalidationMaxScopeLen < byteLen event.scope then .error .scopeTooLong
  else if (trim event.issuer).isEmpty then .error .emptyIssuer
  else if invalidationMaxIssuerLen < byteLen event.issuer then .error .issuerTooLong
  else validateInvalidationTarget event.target

def applyInvalidationTarget : HttpCacheInvalidationTarget → ℕ × CacheStoreState
  | .exactKey key =>
    let (removed, s) := removeFromState s key
    (if removed.isSome then 1 else 0, s)
  | .pathPrefix path => purgePathPrefixFromState s path

/-- An event is applied once: the last 256 applied are remembered by issuer and id. -/
def HttpCacheStore.applyInvalidationEvent (event : HttpCacheInvalidationEvent) :
    Except HttpCacheInvalidationError HttpCacheInvalidationApplyResult × HttpCacheStore :=
  match validateInvalidationEvent event with
  | .error e => (.error e, store)
  | .ok () =>
    if store.appliedInvalidations.contains (event.issuer, event.eventId) then (.ok .duplicate, store)
    else
      let (purged, state) := applyInvalidationTarget store.state event.target
      let applied := store.appliedInvalidations ++ [(event.issuer, event.eventId)]
      (.ok (.applied purged), { store with
        state := state
        appliedInvalidations := applied.drop (applied.length - 256) })

/-! ## Runs -/

inductive CacheOp
  | lookup (now : ℕ) (key : HttpCacheKey)
  | insert (now : ℕ) (key : HttpCacheKey) (entry : HttpCacheEntry)
  | remove (key : HttpCacheKey)
  | purgePathPrefix (path : Text)
  | applyInvalidationEvent (event : HttpCacheInvalidationEvent)
  | purgeExpired (now : ℕ)

def HttpCacheStore.step (store : HttpCacheStore) : CacheOp → HttpCacheStore
  | .lookup now key               => (store.lookup now key).2
  | .insert now key entry         => (store.insert metadataSize now key entry).2
  | .remove key                   => (store.remove key).2
  | .purgePathPrefix path         => (store.purgePathPrefix path).2
  | .applyInvalidationEvent event => (store.applyInvalidationEvent event).2
  | .purgeExpired now             => (store.purgeExpired now).2

def HttpCacheStore.run (store : HttpCacheStore) (ops : List CacheOp) : HttpCacheStore :=
  ops.foldl (HttpCacheStore.step metadataSize) store

def usedKey (store : HttpCacheStore) : CacheOp → Option HttpCacheKey
  | .lookup now key       => if (store.lookup now key).1.isSome then some key else none
  | .insert now key entry => match (store.insert metadataSize now key entry).1 with
    | .ok _    => some key
    | .error _ => none
  | _ => none

def CacheStoreState.accessed (key : HttpCacheKey) : CacheStoreState :=
  { s with entries := s.entries.modify key (fun r => { r with lastAccessedTick := durationTick now, lastAccessedAt := now }) }

inductive StepEffect (metadataSize : ℕ) (store : HttpCacheStore) (op : CacheOp) : CacheStoreState → Prop
  | hit (now : ℕ) (key : HttpCacheKey) (r : CacheRecord) (hop : op = .lookup now key)
      (hr : store.state.entries.get? key = some r) (hf : (r.entry.metadata.freshness now).isSome = true)
      (hu : usedKey metadataSize store op = some key) : StepEffect metadataSize store op (store.state.accessed now key)
  | inserted (now : ℕ) (key : HttpCacheKey) (entry : HttpCacheEntry) (hop : op = .insert now key entry)
      (hsize : entry.estimatedSize metadataSize ≤ store.config.maxObjectBytes)
      (hu : usedKey metadataSize store op = some key) :
      StepEffect metadataSize store op (evictUntilWithinBounds store.config
        (insertRecord store.state now key entry (entry.estimatedSize metadataSize))).2
  | removed (keys : List HttpCacheKey) (hu : usedKey metadataSize store op = none) :
      StepEffect metadataSize store op (removeAll store.state keys)

variable (store : HttpCacheStore)

theorem step_effect_lookup (now : ℕ) (key : HttpCacheKey) :
    StepEffect metadataSize store (.lookup now key) (store.lookup now key).2.state := by
  cases hr : store.state.entries.get? key with
  | none =>
    have hl : store.lookup now key = (none, (store.lookup now key).2) := by simp [HttpCacheStore.lookup, hr]
    have hs : (store.lookup now key).2.state = removeAll store.state [] := by simp [HttpCacheStore.lookup, hr, removeAll]
    rw [hs]
    exact .removed [] (by rw [usedKey, hl]; rfl)
  | some r =>
    cases hf : r.entry.metadata.freshness now with
    | none =>
      have hl : store.lookup now key = (none, (store.lookup now key).2) := by simp [HttpCacheStore.lookup, hr, hf]
      have hs : (store.lookup now key).2.state = removeAll store.state [key] := by
        simp [HttpCacheStore.lookup, hr, hf, removeAll, removeFromState]
      rw [hs]
      exact .removed [key] (by rw [usedKey, hl]; rfl)
    | some f =>
      have hl : store.lookup now key = (some ⟨r.entry, f⟩, (store.lookup now key).2) := by
        simp [HttpCacheStore.lookup, hr, hf]
      have hs : (store.lookup now key).2.state = store.state.accessed now key := by
        simp [HttpCacheStore.lookup, hr, hf, CacheStoreState.accessed]
      rw [hs]
      exact .hit now key r rfl hr (by rw [hf]; rfl) (by rw [usedKey, hl]; rfl)

theorem step_effect_insert (now : ℕ) (key : HttpCacheKey) (entry : HttpCacheEntry) :
    StepEffect metadataSize store (.insert now key entry) (store.insert metadataSize now key entry).2.state := by
  cases hv : entry.validate with
  | error e =>
    have hi : store.insert metadataSize now key entry = (.error e, store) := by simp [HttpCacheStore.insert, hv]
    rw [hi]
    exact .removed [] (by rw [usedKey, hi])
  | ok u =>
    by_cases hsize : store.config.maxObjectBytes < entry.estimatedSize metadataSize
    · have hi : (store.insert metadataSize now key entry).1 =
          .error (.objectTooLarge (entry.estimatedSize metadataSize) store.config.maxObjectBytes) := by
        simp [HttpCacheStore.insert, hv, hsize]
      have hs : (store.insert metadataSize now key entry).2.state = removeAll store.state [] := by
        simp [HttpCacheStore.insert, hv, hsize, removeAll]
      rw [hs]
      exact .removed [] (by rw [usedKey, hi])
    · have hs : (store.insert metadataSize now key entry).2.state = (evictUntilWithinBounds store.config
          (insertRecord store.state now key entry (entry.estimatedSize metadataSize))).2 := by
        simp [HttpCacheStore.insert, hv, hsize]
      rw [hs]
      refine .inserted now key entry rfl (Nat.le_of_not_lt hsize) ?_
      simp [usedKey, HttpCacheStore.insert, hv, hsize]

/-- **What a call does to the entries**: an access recorded, an insertion and the eviction after it, or the removal of a
list of keys, which may be empty. -/
theorem step_effect (op : CacheOp) : StepEffect metadataSize store op (store.step metadataSize op).state := by
  cases op with
  | lookup now key => exact step_effect_lookup metadataSize store now key
  | insert now key entry => exact step_effect_insert metadataSize store now key entry
  | remove key => exact .removed [key] rfl
  | purgePathPrefix path => exact .removed _ rfl
  | purgeExpired now => exact .removed _ rfl
  | applyInvalidationEvent event =>
    have hke : ∃ keys, (store.applyInvalidationEvent event).2.state = removeAll store.state keys := by
      unfold HttpCacheStore.applyInvalidationEvent
      split
      · exact ⟨[], rfl⟩
      · split
        · exact ⟨[], rfl⟩
        · cases event.target with
          | exactKey key => exact ⟨[key], rfl⟩
          | pathPrefix path => exact ⟨_, rfl⟩
    obtain ⟨keys, hk⟩ := hke
    rw [HttpCacheStore.step, hk]
    exact .removed keys rfl

theorem step_frame (op : CacheOp) : (store.step metadataSize op).config = store.config ∧
    ((store.step metadataSize op).appliedInvalidations = store.appliedInvalidations ∨ ∃ event, op = .applyInvalidationEvent event) := by
  cases op with
  | lookup now key =>
    simp only [HttpCacheStore.step, HttpCacheStore.lookup]; split <;> [exact ⟨rfl, .inl rfl⟩; split <;> exact ⟨rfl, .inl rfl⟩]
  | insert now key entry =>
    simp only [HttpCacheStore.step, HttpCacheStore.insert]; split <;> [exact ⟨rfl, .inl rfl⟩; split <;> exact ⟨rfl, .inl rfl⟩]
  | remove key => exact ⟨rfl, .inl rfl⟩
  | purgePathPrefix path => exact ⟨rfl, .inl rfl⟩
  | applyInvalidationEvent event =>
    refine ⟨?_, .inr ⟨event, rfl⟩⟩
    simp only [HttpCacheStore.step, HttpCacheStore.applyInvalidationEvent]; split <;> [rfl; split <;> rfl]
  | purgeExpired now => exact ⟨rfl, .inl rfl⟩

end WayBalancer
