import WayBalancer.CacheLookup
import WayBalancer.CachePurge
import WayBalancer.ConfigPolicyValidator
import WayBalancer.UpstreamHealth
/-!
# CacheExpiry — how long an entry lives, and what takes it out before

`derive_cache_metadata` (`cache_headers_and_freshness.rs`) sets the deadlines of an entry, lookups and `purge_expired`
(`crates/runtime/src/http_cache.rs`) read them, and an invalidation event takes entries out before.  The validator of the
policies bounds no window, so a deadline can lie past the largest `Duration` (`derivedMetadata_sound_iff`).
-/
namespace WayBalancer

open Str Word

variable {m : HttpCacheMetadata} {now : ℕ} {store : HttpCacheStore} {key : HttpCacheKey} {record : CacheRecord}

/-! ## Deadlines -/

theorem HttpCacheMetadata.validate_ok : m.validate = .ok () ↔ m.storedAt ≤ m.freshUntil ∧
    (∀ t ∈ m.staleWhileRevalidateUntil, m.freshUntil ≤ t) ∧ ∀ t ∈ m.staleIfErrorUntil, m.freshUntil ≤ t := by
  unfold HttpCacheMetadata.validate
  cases m.staleWhileRevalidateUntil <;> cases m.staleIfErrorUntil <;> simp <;> split_ifs <;> simp_all

theorem HttpCacheMetadata.freshness_isSome : (m.freshness now).isSome = true ↔ now < m.expiresAt := by
  unfold HttpCacheMetadata.freshness
  by_cases hexp : m.expiresAt ≤ now
  · simp [hexp]
  · have hone : m.isFresh now = true ∨ m.allowsStaleWhileRevalidate now = true ∨ m.allowsStaleIfError now = true := by
      revert hexp
      unfold HttpCacheMetadata.isFresh HttpCacheMetadata.allowsStaleWhileRevalidate HttpCacheMetadata.allowsStaleIfError
        HttpCacheMetadata.expiresAt
      cases m.staleWhileRevalidateUntil <;> cases m.staleIfErrorUntil <;> simp
      all_goals omega
    split_ifs <;> simp_all

theorem freshUntil_le_expiresAt (hv : m.validate = .ok ()) : m.freshUntil ≤ m.expiresAt := by
  obtain ⟨-, hrev, herr⟩ := HttpCacheMetadata.validate_ok.1 hv
  unfold HttpCacheMetadata.expiresAt
  cases hr : m.staleWhileRevalidateUntil with
  | none =>
    cases he : m.staleIfErrorUntil with
    | none => exact Nat.le_refl _
    | some b => exact herr b he
  | some a =>
    cases m.staleIfErrorUntil with
    | none => exact hrev a hr
    | some b => exact le_max_of_le_left (hrev a hr)

theorem freshness_eq_fresh (hv : m.validate = .ok ()) : m.freshness now = some .fresh ↔ now < m.freshUntil := by
  have hle := freshUntil_le_expiresAt hv
  unfold HttpCacheMetadata.freshness HttpCacheMetadata.isFresh
  split_ifs with hexp hfre <;> simp_all
  omega

theorem get?_purgeExpired (hg : store.state.entries.get? key = some record) :
    (store.purgeExpired now).2.state.entries.get? key = some record ↔ now < record.entry.metadata.expiresAt := by
  have hmem := SortedMap.get?_eq_some.1 hg
  have hk : key ∈ (store.state.entries.entries.filter (fun e => e.2.entry.metadata.expiresAt ≤ now)).map (·.1) ↔
      record.entry.metadata.expiresAt ≤ now := by
    constructor
    · intro h
      obtain ⟨⟨k, r⟩, he, rfl⟩ := List.mem_map.1 h
      obtain ⟨hr, hexp⟩ := List.mem_filter.1 he
      rw [SortedMap.eq_of_mem hmem hr]
      exact of_decide_eq_true hexp
    · intro h
      exact List.mem_map.2 ⟨_, List.mem_filter.2 ⟨hmem, decide_eq_true h⟩, rfl⟩
  change (removeAll store.state _).entries.get? key = _ ↔ _
  rw [entries_removeAll, SortedMap.get?_filterKeys, hg]
  simp [hk]

theorem lookup_of_get? (hg : store.state.entries.get? key = some record) :
    (store.lookup now key).1 = (record.entry.metadata.freshness now).map (HttpCacheLookup.mk record.entry) := by
  unfold HttpCacheStore.lookup
  cases hf : record.entry.metadata.freshness now <;> simp [hg, hf]

/-- Metadata a store accepts, with deadlines that are `Duration`s: an addition past the largest of these panics. -/
def HttpCacheMetadata.Sound (m : HttpCacheMetadata) : Prop :=
  m.validate = .ok () ∧ m.freshUntil ≤ durationMax ∧ m.expiresAt ≤ durationMax

/-- The longest a response is fresh under a policy. -/
def HttpCacheResourceConfig.longestTtlSecs (policy : HttpCacheResourceConfig) : ℕ :=
  if policy.honorCacheControl then policy.maxTtlSecs else policy.defaultTtlSecs

section
variable {parseHttpDate : Text → Option ℕ} {policy : HttpCacheResourceConfig} {headers : List HttpHeader} {status : ℕ}
  {w : CacheFreshnessWindows}

theorem freshnessWindows_some (h : freshnessWindows parseHttpDate policy headers = some w) :
    ∃ fresh ≤ policy.longestTtlSecs, ∃ revalidate ≤ policy.staleWhileRevalidateSecs, ∃ error ≤ policy.staleIfErrorSecs,
      w = ⟨fresh, durationIfNonZero revalidate, durationIfNonZero error⟩ := by
  unfold freshnessWindows at h
  unfold HttpCacheResourceConfig.longestTtlSecs
  split_ifs at h ⊢
  · obtain ⟨directives, -, h⟩ := Option.bind_eq_some_iff.1 h
    split_ifs at h
    obtain ⟨age, -, h⟩ := Option.bind_eq_some_iff.1 h
    obtain ⟨fresh, -, h⟩ := Option.bind_eq_some_iff.1 h
    cases h
    exact ⟨_, Nat.min_le_right _ _, _, Nat.min_le_right _ _, _, Nat.min_le_right _ _, rfl⟩
  · cases h
    exact ⟨_, Nat.le_refl _, _, Nat.le_refl _, _, Nat.le_refl _, rfl⟩

/-- Valid metadata of an entry that can be served now, for a fresh and a stale span. -/
structure HttpCacheMetadata.Spans (m : HttpCacheMetadata) (now fresh stale : ℕ) : Prop where
  valid : m.validate = .ok ()
  servable : now < m.expiresAt
  freshUntil : m.freshUntil = now + fromSecs fresh
  expiresAt : m.expiresAt = now + fromSecs fresh + fromSecs stale

theorem deriveCacheMetadata_spans {fresh revalidate error : ℕ} (hw : freshnessWindows parseHttpDate policy headers =
      some ⟨fresh, durationIfNonZero revalidate, durationIfNonZero error⟩)
    (h : deriveCacheMetadata parseHttpDate policy headers status now = some m) :
    m.Spans now fresh (max revalidate error) := by
  unfold deriveCacheMetadata at h
  rw [hw, Option.bind_eq_bind, Option.bind_some] at h
  split_ifs at h with hz
  have hpos : ¬ (fresh = 0 ∧ revalidate = 0 ∧ error = 0) := by simpa [durationIfNonZero] using hz
  have hexp : m.expiresAt = now + fromSecs fresh + fromSecs (max revalidate error) := by
    cases h
    by_cases hr0 : revalidate = 0 <;> by_cases he0 : error = 0 <;>
      simp [HttpCacheMetadata.expiresAt, durationIfNonZero, fromSecs, hr0, he0]
  refine ⟨?_, ?_, ?_, hexp⟩
  · cases h
    exact HttpCacheMetadata.validate_ok.2 ⟨by simp, by simp, by simp⟩
  · rw [hexp]
    unfold fromSecs
    omega
  · cases h
    rfl

theorem deriveCacheMetadata_some (h : deriveCacheMetadata parseHttpDate policy headers status now = some m) :
    ∃ fresh ≤ policy.longestTtlSecs, ∃ stale ≤ max policy.staleWhileRevalidateSecs policy.staleIfErrorSecs,
      m.Spans now fresh stale := by
  obtain ⟨w, hw, -⟩ := Option.bind_eq_some_iff.1 h
  obtain ⟨fresh, hfre, revalidate, hr, error, he, rfl⟩ := freshnessWindows_some hw
  exact ⟨fresh, hfre, _, max_le_max hr he, deriveCacheMetadata_spans hw h⟩

/-- A `Cache-Control` line that asks for the largest number of seconds there is. -/
def longestMaxAge : List HttpHeader := [⟨lit "Cache-Control", lit "max-age=18446744073709551615"⟩]

theorem freshnessWindows_longest (hmax : policy.maxTtlSecs ≤ u64Max) :
    freshnessWindows parseHttpDate policy longestMaxAge = some ⟨policy.longestTtlSecs,
      durationIfNonZero policy.staleWhileRevalidateSecs, durationIfNonZero policy.staleIfErrorSecs⟩ := by
  have hpar : parseCacheControl longestMaxAge = some { maxAge := some u64Max } := by decide +kernel
  have hpra : hasPragmaNoCache longestMaxAge = false := by decide +kernel
  have hage : ageSecs longestMaxAge = some 0 := by decide +kernel
  unfold freshnessWindows HttpCacheResourceConfig.longestTtlSecs
  split_ifs
  · simp [deriveFreshnessWindowsFromOrigin, hpar, hpra, hage, freshnessSecs, hmax]
  · rfl

/-- **Deadlines are in order and representable exactly where the longest ones a policy gives are representable.** -/
theorem derivedMetadata_sound_iff (parseHttpDate : Text → Option ℕ) (policy : HttpCacheResourceConfig)
    (hmax : policy.maxTtlSecs ≤ u64Max) (now : ℕ) (hnow : now ≤ durationMax) :
    ((∀ headers status m, deriveCacheMetadata parseHttpDate policy headers status now = some m → m.Sound) ∧
      ∀ entry headers e, refreshRevalidatedEntry parseHttpDate policy entry headers now = some e → e.metadata.Sound) ↔
    now + fromSecs policy.longestTtlSecs + fromSecs (max policy.staleWhileRevalidateSecs policy.staleIfErrorSecs) ≤
      durationMax := by
  constructor
  · rintro ⟨hder, -⟩
    have hw := @freshnessWindows_longest parseHttpDate policy hmax
    cases hm : deriveCacheMetadata parseHttpDate policy longestMaxAge 200 now with
    | some m =>
      rw [← (deriveCacheMetadata_spans hw hm).expiresAt]
      exact (hder _ _ m hm).2.2
    | none =>
      -- empty windows: nothing is derived
      have hz : policy.longestTtlSecs = 0 ∧ policy.staleWhileRevalidateSecs = 0 ∧ policy.staleIfErrorSecs = 0 := by
        simpa [deriveCacheMetadata, hw, durationIfNonZero] using hm
      obtain ⟨hfre, hrev, herr⟩ := hz
      rw [hfre, hrev, herr]
      exact hnow
  · intro hfit
    have hsou : ∀ headers status m, deriveCacheMetadata parseHttpDate policy headers status now = some m → m.Sound := by
      intro headers status m h
      obtain ⟨fresh, hfre, stale, hsta, hspa⟩ := deriveCacheMetadata_some h
      have hunt := hspa.freshUntil
      have hexp := hspa.expiresAt
      unfold fromSecs at *
      exact ⟨hspa.valid, by omega, by omega⟩
    refine ⟨hsou, fun entry headers e h => ?_⟩
    obtain ⟨m, hm, h⟩ := Option.bind_eq_some_iff.1 h
    cases h
    exact hsou _ _ m hm

theorem derivedMetadata_sound_default : ∃ m, deriveCacheMetadata (fun _ => none) {} longestMaxAge 200 0 = some m ∧ m.Sound :=
  ⟨_, rfl, ((derivedMetadata_sound_iff (fun _ => none) {} (by decide) 0 (by decide)).2 (by decide)).1 longestMaxAge 200 _ rfl⟩

/-- The validator sets no bound on `max_ttl_secs`. -/
theorem derivedMetadata_overflows :
    let policy : HttpCacheResourceConfig := { maxTtlSecs := u64Max }
    validateHttpCachePolicy (lit "policies.http_caches[0]") ⟨lit "a", policy⟩ = [] ∧
      ∃ m, deriveCacheMetadata (fun _ => none) policy longestMaxAge 200 (10 ^ 9) = some m ∧ durationMax < m.freshUntil :=
  ⟨by decide +kernel, _, rfl, by decide +kernel⟩

end

/-! ## Invalidation events -/

variable {metadataSize : ℕ} {events : List (Text × Text)} {event : HttpCacheInvalidationEvent}

def appliedBy (store : HttpCacheStore) : CacheOp → List (Text × Text)
  | .applyInvalidationEvent event => match (store.applyInvalidationEvent event).1 with
    | .ok (.applied _) => [(event.issuer, event.eventId)]
    | _                => []
  | _ => []

def appliedEvents (metadataSize : ℕ) (store : HttpCacheStore) : List CacheOp → List (Text × Text)
  | []        => []
  | op :: ops => appliedBy store op ++ appliedEvents metadataSize (store.step metadataSize op) ops

/-- What a store keeps of the events applied so far. -/
structure Remembers (store : HttpCacheStore) (events : List (Text × Text)) : Prop where
  recent : store.appliedInvalidations = events.rtake 256
  distinct : store.appliedInvalidations.Nodup

theorem rtake_sublist {α : Type} (n : ℕ) (l : List α) : (l.rtake n).Sublist l := List.drop_sublist _ _

theorem rtake_rtake_append {α : Type} (n : ℕ) (l : List α) (x : α) : (l.rtake n ++ [x]).rtake n = (l ++ [x]).rtake n := by
  simp only [List.rtake_eq_reverse_take_reverse, List.reverse_append, List.reverse_reverse, List.reverse_singleton,
    List.singleton_append]
  cases n with
  | zero => rfl
  | succ n => simp [List.take_take]

theorem applyInvalidationEvent_known (hv : validateInvalidationEvent event = .ok ())
    (h : (event.issuer, event.eventId) ∈ store.appliedInvalidations) :
    store.applyInvalidationEvent event = (.ok .duplicate, store) := by
  unfold HttpCacheStore.applyInvalidationEvent
  simp [hv, h]

theorem applyInvalidationEvent_new (hv : validateInvalidationEvent event = .ok ())
    (h : (event.issuer, event.eventId) ∉ store.appliedInvalidations) :
    store.applyInvalidationEvent event = (.ok (.applied (applyInvalidationTarget store.state event.target).1), { store with
        state := (applyInvalidationTarget store.state event.target).2
        appliedInvalidations := (store.appliedInvalidations ++ [(event.issuer, event.eventId)]).rtake 256 }) := by
  unfold HttpCacheStore.applyInvalidationEvent
  simp [hv, h, List.rtake]

theorem Remembers.apply (hs : Remembers store events) (event : HttpCacheInvalidationEvent) :
    Remembers (store.applyInvalidationEvent event).2 (events ++ appliedBy store (.applyInvalidationEvent event)) := by
  cases hv : validateInvalidationEvent event with
  | error e =>
    have h : store.applyInvalidationEvent event = (.error e, store) := by simp [HttpCacheStore.applyInvalidationEvent, hv]
    simpa [appliedBy, h] using hs
  | ok u =>
    by_cases hmem : (event.issuer, event.eventId) ∈ store.appliedInvalidations
    · simpa [appliedBy, applyInvalidationEvent_known hv hmem] using hs
    · have hnew := applyInvalidationEvent_new hv hmem
      have hby : appliedBy store (.applyInvalidationEvent event) = [(event.issuer, event.eventId)] := by
        simp only [appliedBy, hnew]
      have hnd := List.nodup_append.2 ⟨hs.distinct, List.nodup_singleton (event.issuer, event.eventId),
        fun a ha b hb hab => hmem (List.mem_singleton.1 hb ▸ hab ▸ ha)⟩
      rw [hby, hnew]
      constructor
      · simp only
        rw [hs.recent, rtake_rtake_append]
      · simp only
        exact (rtake_sublist 256 _).nodup hnd

theorem Remembers.step (hs : Remembers store events) (op : CacheOp) :
    Remembers (store.step metadataSize op) (events ++ appliedBy store op) := by
  rcases (step_frame metadataSize store op).2 with hk | ⟨event, rfl⟩
  · cases op with
    | applyInvalidationEvent event => exact hs.apply event
    | _ =>
      change Remembers _ (events ++ [])
      rw [List.append_nil]
      exact ⟨hk.trans hs.recent, hk ▸ hs.distinct⟩
  · exact hs.apply event

theorem Remembers.run : ∀ (ops : List CacheOp) {store : HttpCacheStore} {events : List (Text × Text)},
    Remembers store events → Remembers (store.run metadataSize ops) (events ++ appliedEvents metadataSize store ops)
  | [], _, _, hs => by simpa [appliedEvents, HttpCacheStore.run] using hs
  | op :: ops, store, events, hs => by
    rw [appliedEvents, ← List.append_assoc]
    exact Remembers.run ops (hs.step op)

theorem applyInvalidationTarget_removes {s : CacheStoreState} {target : HttpCacheInvalidationTarget} :
    (applyInvalidationTarget s target).2.entries.entries.Sublist s.entries.entries ∧
      (applyInvalidationTarget s target).1 + (applyInvalidationTarget s target).2.entries.size = s.entries.size := by
  cases target with
  | exactKey key =>
    constructor
    · change (removeFromState s key).2.entries.entries.Sublist _
      rw [entries_removeFromState]
      exact List.filter_sublist
    · cases hg : s.entries.get? key with
      | none => simp [applyInvalidationTarget, removeFromState, hg]
      | some record =>
        rw [size_without hg]
        simp [applyInvalidationTarget, removeFromState, hg, Nat.add_comm]
  | pathPrefix path =>
    let store : HttpCacheStore := { pairStore with state := s }
    refine ⟨?_, purgePathPrefix_count store path⟩
    change (store.purgePathPrefix path).2.state.entries.entries.Sublist _
    rw [entries_purgePathPrefix]
    exact List.filter_sublist

/-- **An event is applied once** while it is among the last 256 applied, and reports what it removes. -/
theorem invalidation_applied_once (metadataSize : ℕ) (config : HttpCacheStoreConfig) (store₀ : HttpCacheStore)
    (hnew : HttpCacheStore.new config = .ok store₀) (ops : List CacheOp) (event : HttpCacheInvalidationEvent)
    (hv : validateInvalidationEvent event = .ok ()) :
    let store := store₀.run metadataSize ops
    let recent := (appliedEvents metadataSize store₀ ops).rtake 256
    let out := store.applyInvalidationEvent event
    recent.Nodup ∧ ((event.issuer, event.eventId) ∈ recent → out = (.ok .duplicate, store)) ∧
      ((event.issuer, event.eventId) ∉ recent → ∃ purged, out.1 = .ok (.applied purged) ∧
        out.2.state.entries.entries.Sublist store.state.entries.entries ∧
        purged + out.2.state.entries.size = store.state.entries.size) := by
  intro store recent out
  obtain ⟨-, rfl⟩ := HttpCacheStore.new_ok hnew
  have hs : Remembers store (appliedEvents metadataSize _ ops) := @Remembers.run metadataSize ops _ [] ⟨rfl, List.nodup_nil⟩
  have hrec : store.appliedInvalidations = recent := hs.recent
  refine ⟨hrec ▸ hs.distinct, fun hmem => applyInvalidationEvent_known hv (hrec ▸ hmem), fun hmem => ?_⟩
  have hout : out = _ := applyInvalidationEvent_new hv (hrec ▸ hmem)
  rw [hout]
  exact ⟨_, rfl, applyInvalidationTarget_removes⟩

theorem invalidation_applied_once_again :
    let event : HttpCacheInvalidationEvent := ⟨lit "1", lit "s", lit "i", .pathPrefix (lit "/")⟩
    let store := pairStore.run 0 [.applyInvalidationEvent event]
    store.applyInvalidationEvent event = (.ok .duplicate, store) :=
  (invalidation_applied_once 0 ⟨2, 100, 50⟩ pairStore (by rfl) [.applyInvalidationEvent _] _ (by decide)).2.1
    (by decide +kernel)

end WayBalancer
