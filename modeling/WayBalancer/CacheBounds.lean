import WayBalancer.CacheStore
/-!
# CacheBounds — the bounds of the cache store hold on every run

The tracked bytes never exceed the sum of the stored sizes, so eviction can always bring a state within its bounds: once
nothing is left, nothing is tracked.  They equal that sum as long as the addition of an insertion cannot saturate, which
it cannot where `maxBytes + maxObjectBytes` is a 64-bit number.
-/
namespace WayBalancer

open Word

variable {s : CacheStoreState} {config : HttpCacheStoreConfig} {P : CacheStoreState → Prop} {store : HttpCacheStore}

def storedBytes (s : CacheStoreState) : ℕ := (s.entries.entries.map (fun e => e.2.size)).sum

/-- **The byte accounting of a state**: no object over its limit, and the tracked bytes at most the stored ones, equal to
them where no insertion can saturate. -/
structure Accounted (config : HttpCacheStoreConfig) (s : CacheStoreState) : Prop where
  objects : ∀ e ∈ s.entries.entries, e.2.size ≤ config.maxObjectBytes
  atMost : s.totalBytes ≤ storedBytes s
  exact : config.maxBytes + config.maxObjectBytes ≤ u64Max → s.totalBytes = storedBytes s

/-! ## Removals -/

theorem storedBytes_without {key : HttpCacheKey} {record : CacheRecord} (h : s.entries.get? key = some record) :
    storedBytes s = record.size + storedBytes (s.without key record) := by
  unfold storedBytes
  rw [((SortedMap.erase_perm h).map (fun e => e.2.size)).sum_eq]
  rfl

theorem Accounted.without {key : HttpCacheKey} {record : CacheRecord} (hs : Accounted config s)
    (h : s.entries.get? key = some record) : Accounted config (s.without key record) := by
  have hsum := storedBytes_without h
  have hle := hs.atMost
  have htot : (s.without key record).totalBytes = s.totalBytes - record.size := rfl
  refine ⟨fun e he => hs.objects e (SortedMap.mem_erase.1 he).1, by omega, fun hc => ?_⟩
  have heq := hs.exact hc
  omega

theorem removeFromState_keeps (hP : ∀ s key record, s.entries.get? key = some record → P s → P (s.without key record))
    (hs : P s) (key : HttpCacheKey) : P (removeFromState s key).2 := by
  unfold removeFromState
  split
  · rename_i record hr
    exact hP s key record hr hs
  · exact hs

theorem removeAll_keeps (hP : ∀ s key record, s.entries.get? key = some record → P s → P (s.without key record)) :
    ∀ (keys : List HttpCacheKey) {s : CacheStoreState}, P s → P (removeAll s keys)
  | [], _, hs => hs
  | key :: keys, _, hs => removeAll_keeps hP keys (removeFromState_keeps hP hs key)

theorem evict_of_within (h : overBounds config s = false) : evictUntilWithinBounds config s = (0, s) := by
  unfold evictUntilWithinBounds
  rw [h]
  rfl

theorem evict_of_over {key : HttpCacheKey} {record : CacheRecord} (h : overBounds config s = true)
    (ho : oldestEntry s = some (key, record)) :
    evictUntilWithinBounds config s =
      ((evictUntilWithinBounds config (s.without key record)).1 + 1, (evictUntilWithinBounds config (s.without key record)).2) := by
  have hk : oldestEntryKey s = some key := by rw [oldestEntryKey, ho]; rfl
  have hg : s.entries.get? key = some record := SortedMap.get?_eq_some.2 (List.argmin_mem ho)
  conv_lhs => unfold evictUntilWithinBounds
  rw [if_pos h]
  split
  · simp_all
  · rename_i key' hk'
    rw [hk] at hk'
    cases hk'
    split
    · rename_i record' hg'
      rw [hg] at hg'
      cases hg'
      rfl
    · rename_i hg'
      rw [hg] at hg'
      cases hg'

/-- **The eviction loop**: what every removal keeps holds at its end, and it stops within the bounds or with nothing
left. -/
theorem evict_keeps {config : HttpCacheStoreConfig}
    (hP : ∀ s key record, s.entries.get? key = some record → P s → P (s.without key record)) {s : CacheStoreState} (hs : P s) :
    P (evictUntilWithinBounds config s).2 ∧ (overBounds config (evictUntilWithinBounds config s).2 = false ∨
        (evictUntilWithinBounds config s).2.entries.entries = []) ∧
      (evictUntilWithinBounds config s).1 + (evictUntilWithinBounds config s).2.entries.size = s.entries.size := by
  cases hov : overBounds config s with
  | false =>
    rw [evict_of_within hov]
    exact ⟨hs, .inl hov, Nat.zero_add _⟩
  | true =>
    cases ho : oldestEntry s with
    | none =>
      have hnil : s.entries.entries = [] := List.argmin_eq_none.1 ho
      have he : evictUntilWithinBounds config s = (0, s) := by
        unfold evictUntilWithinBounds
        rw [if_pos hov]
        split
        · rfl
        · rename_i key hk
          rw [oldestEntryKey, ho] at hk
          cases hk
      rw [he]
      exact ⟨hs, .inr hnil, Nat.zero_add _⟩
    | some e =>
      obtain ⟨key, record⟩ := e
      have hg : s.entries.get? key = some record := SortedMap.get?_eq_some.2 (List.argmin_mem ho)
      have hsi := size_without hg
      obtain ⟨hk, hend, hcnt⟩ := evict_keeps hP (hP s key record hg hs)
      rw [evict_of_over hov ho]
      exact ⟨hk, hend, by simp only; omega⟩
termination_by s.entries.size

/-! ## Insertion -/

theorem get?_removeFromState {key : HttpCacheKey} : (removeFromState s key).2.entries.get? key = none := by
  unfold removeFromState
  split
  · exact (SortedMap.get?_erase _ _ _).trans (if_pos rfl)
  · assumption

def newRecord (s : CacheStoreState) (now : ℕ) (entry : HttpCacheEntry) (size : ℕ) : CacheRecord :=
  ⟨entry, size, s.nextSequence, durationTick now, now⟩

section
variable (s : CacheStoreState)

theorem nextSequence_removeFromState (key : HttpCacheKey) : (removeFromState s key).2.nextSequence = s.nextSequence := by
  unfold removeFromState
  split <;> rfl

theorem insertRecord_perm (now : ℕ) (key : HttpCacheKey) (entry : HttpCacheEntry) (size : ℕ) :
    (insertRecord s now key entry size).entries.entries.Perm
      ((key, newRecord s now entry size) :: (removeFromState s key).2.entries.entries) := by
  have hp := SortedMap.insert_perm (removeFromState s key).2.entries key
    ⟨entry, size, (removeFromState s key).2.nextSequence, durationTick now, now⟩
  rw [SortedMap.erase_of_none get?_removeFromState] at hp
  rw [newRecord, ← nextSequence_removeFromState s key]
  exact hp

theorem storedBytes_insertRecord (now : ℕ) (key : HttpCacheKey) (entry : HttpCacheEntry) (size : ℕ) :
    storedBytes (insertRecord s now key entry size) = size + storedBytes (removeFromState s key).2 := by
  unfold storedBytes
  rw [((insertRecord_perm s now key entry size).map (fun e => e.2.size)).sum_eq]
  rfl

theorem totalBytes_removeFromState (key : HttpCacheKey) : (removeFromState s key).2.totalBytes ≤ s.totalBytes := by
  unfold removeFromState
  split
  · exact Nat.sub_le _ _
  · exact le_refl _

end

theorem Accounted.insertRecord (hs : Accounted config s) (hb : s.totalBytes ≤ config.maxBytes) (now : ℕ) (key : HttpCacheKey)
    (entry : HttpCacheEntry) {size : ℕ} (hsi : size ≤ config.maxObjectBytes) :
    Accounted config (insertRecord s now key entry size) := by
  have hr : Accounted config (removeFromState s key).2 := removeFromState_keeps (fun _ _ _ hg h => h.without hg) hs key
  have hle := hr.atMost
  have htot := totalBytes_removeFromState s key
  have hsum := storedBytes_insertRecord s now key entry size
  have ht : (WayBalancer.insertRecord s now key entry size).totalBytes = satAdd (removeFromState s key).2.totalBytes size := rfl
  refine ⟨fun e he => ?_, ?_, fun hc => ?_⟩
  · rcases List.mem_cons.1 (((insertRecord_perm s now key entry size).mem_iff).1 he) with rfl | he
    · exact hsi
    · exact hr.objects e he
  · rw [ht, hsum]
    unfold satAdd
    omega
  · have hex := hr.exact hc
    rw [ht, hsum, satAdd_of_le (by omega)]
    omega

/-! ## Every run -/

/-- **The bounds of a store**: its accounting, its bytes and its entry count. -/
structure Bounded (store : HttpCacheStore) : Prop where
  accounted : Accounted store.config store.state
  bytes : store.state.totalBytes ≤ store.config.maxBytes
  entries : store.state.entries.size ≤ store.config.maxEntries

theorem overBounds_false : overBounds config s = false ↔ s.entries.size ≤ config.maxEntries ∧ s.totalBytes ≤ config.maxBytes := by
  simp [overBounds]

theorem evict_bounded (hs : Accounted config s) : Accounted config (evictUntilWithinBounds config s).2 ∧
      (evictUntilWithinBounds config s).2.totalBytes ≤ config.maxBytes ∧
      (evictUntilWithinBounds config s).2.entries.size ≤ config.maxEntries := by
  obtain ⟨hk, hend, -⟩ := evict_keeps (P := Accounted config) (fun _ _ _ hg h => h.without hg) hs
  refine ⟨hk, ?_⟩
  rcases hend with hw | hnil
  · exact (overBounds_false.1 hw).symm
  · have hle := hk.atMost
    unfold storedBytes at hle
    rw [hnil] at hle
    exact ⟨Nat.le_trans hle (Nat.zero_le _), by unfold SortedMap.size; rw [hnil]; exact Nat.zero_le _⟩

theorem bounded_new (h : HttpCacheStore.new config = .ok store) : Bounded store ∧ store.config = config := by
  obtain ⟨-, rfl⟩ := HttpCacheStore.new_ok h
  exact ⟨⟨⟨fun e he => (List.not_mem_nil he).elim, le_refl _, fun _ => rfl⟩, Nat.zero_le _, Nat.zero_le _⟩, rfl⟩

theorem accessed_sizes (s : CacheStoreState) (now : ℕ) (key : HttpCacheKey) :
    (s.accessed now key).entries.entries.map (fun e => e.2.size) = s.entries.entries.map (fun e => e.2.size) :=
  s.entries.map_modify key _ (fun _ r => r.size) (fun _ _ => rfl)

theorem Accounted.accessed (hs : Accounted config s) (now : ℕ) (key : HttpCacheKey) : Accounted config (s.accessed now key) := by
  have hsiz := accessed_sizes s now key
  have hobj : ∀ n ∈ (s.accessed now key).entries.entries.map (fun e => e.2.size), n ≤ config.maxObjectBytes := by
    rw [hsiz]
    intro n hn
    obtain ⟨e, he, rfl⟩ := List.mem_map.1 hn
    exact hs.objects e he
  refine ⟨fun e he => hobj _ (List.mem_map.2 ⟨e, he, rfl⟩), ?_, fun hx => ?_⟩
  · exact Nat.le_trans hs.atMost (Nat.le_of_eq (congrArg List.sum hsiz.symm))
  · exact (hs.exact hx).trans (congrArg List.sum hsiz.symm)

theorem bounded_step (metadataSize : ℕ) (hs : Bounded store) (op : CacheOp) : Bounded (store.step metadataSize op) := by
  obtain ⟨hacc, hb, he⟩ := hs
  have heff := step_effect metadataSize store op
  have hcfg := (step_frame metadataSize store op).1
  suffices h : Accounted store.config (store.step metadataSize op).state ∧
      (store.step metadataSize op).state.totalBytes ≤ store.config.maxBytes ∧
      (store.step metadataSize op).state.entries.size ≤ store.config.maxEntries by
    rw [← hcfg] at h
    exact ⟨h.1, h.2.1, h.2.2⟩
  generalize (store.step metadataSize op).state = s' at heff
  cases heff with
  | hit now key r hop hr hf hu =>
    have hlen := congrArg List.length (accessed_sizes store.state now key)
    rw [List.length_map, List.length_map] at hlen
    exact ⟨hacc.accessed now key, hb, Nat.le_trans (Nat.le_of_eq hlen) he⟩
  | inserted now key entry hop hsi hu => exact evict_bounded (hacc.insertRecord hb now key entry hsi)
  | removed keys hu =>
    refine removeAll_keeps (P := fun s => Accounted store.config s ∧ s.totalBytes ≤ store.config.maxBytes ∧
      s.entries.size ≤ store.config.maxEntries) (fun s key record hg hs => ⟨hs.1.without hg, ?_, ?_⟩) keys ⟨hacc, hb, he⟩
    · exact Nat.le_trans (Nat.sub_le _ _) hs.2.1
    · have hsi := size_without hg
      omega

theorem bounded_run (metadataSize : ℕ) : ∀ (ops : List CacheOp) {store : HttpCacheStore}, Bounded store →
    Bounded (store.run metadataSize ops)
  | [], _, hs => hs
  | op :: ops, _, hs => bounded_run metadataSize ops (bounded_step metadataSize hs op)

theorem run_config {metadataSize : ℕ} : ∀ (ops : List CacheOp) (store : HttpCacheStore),
    (store.run metadataSize ops).config = store.config
  | [], _ => rfl
  | op :: ops, store => (run_config ops _).trans (step_frame metadataSize store op).1

variable {entry : HttpCacheEntry}

theorem insert_fresh (metadataSize : ℕ) (store : HttpCacheStore) (now : ℕ) (key : HttpCacheKey) (hv : entry.validate = .ok ())
    (hobj : entry.estimatedSize metadataSize ≤ store.config.maxObjectBytes) (hmax : store.config.maxBytes = u64Max)
    (hr : store.state.entries.size < store.config.maxEntries) (hnew : store.state.entries.get? key = none) :
    (store.insert metadataSize now key entry).2.config = store.config ∧
    (store.insert metadataSize now key entry).2.state = insertRecord store.state now key entry (entry.estimatedSize metadataSize) ∧
    (store.insert metadataSize now key entry).2.state.entries.size = store.state.entries.size + 1 ∧
    storedBytes (store.insert metadataSize now key entry).2.state = entry.estimatedSize metadataSize + storedBytes store.state := by
  have hrem : (removeFromState store.state key).2 = store.state := by rw [removeFromState, hnew]
  have hlen : (insertRecord store.state now key entry (entry.estimatedSize metadataSize)).entries.size =
      store.state.entries.size + 1 := by
    have hp := (insertRecord_perm store.state now key entry (entry.estimatedSize metadataSize)).length_eq
    rw [hrem] at hp
    exact hp
  have hin : overBounds store.config (insertRecord store.state now key entry (entry.estimatedSize metadataSize)) = false :=
    overBounds_false.2 ⟨by omega, by rw [hmax]; exact Nat.min_le_right _ _⟩
  have hins : (store.insert metadataSize now key entry).2.state =
      insertRecord store.state now key entry (entry.estimatedSize metadataSize) := by
    simp only [HttpCacheStore.insert, hv, if_neg (Nat.not_lt.2 hobj), evict_of_within hin]
  refine ⟨(step_frame metadataSize store (.insert now key entry)).1, hins, by rw [hins, hlen], ?_⟩
  rw [hins, storedBytes_insertRecord, hrem]

/-- Two entries whose sizes do not add up to a 64-bit number are both stored where `maxBytes` is the largest one, and
counted as less than they are. -/
theorem total_lt_of_two {metadataSize z : ℕ} (hv : entry.validate = .ok ()) (hz : entry.estimatedSize metadataSize = z)
    (hle : z ≤ u64Max) (ho : u64Max < z + z) (hnew : HttpCacheStore.new ⟨2, u64Max, u64Max⟩ = .ok store)
    {a b : HttpCacheKey} (hab : b ≠ a) :
    (store.run metadataSize [.insert 0 a entry, .insert 0 b entry]).state.totalBytes <
      storedBytes (store.run metadataSize [.insert 0 a entry, .insert 0 b entry]).state := by
  cases hnew
  have hobj : entry.estimatedSize metadataSize ≤ u64Max := by rw [hz]; exact hle
  obtain ⟨hc₁, hs₁, hn₁, hb₁⟩ := insert_fresh metadataSize
    ⟨⟨2, u64Max, u64Max⟩, ⟨.empty, 0, 0⟩, ⟨0, 0, 0, 0, 0, 0, 0⟩, []⟩ 0 a hv hobj rfl (by decide) rfl
  show ((HttpCacheStore.insert metadataSize _ 0 a entry).2.insert metadataSize 0 b entry).2.state.totalBytes <
    storedBytes ((HttpCacheStore.insert metadataSize _ 0 a entry).2.insert metadataSize 0 b entry).2.state
  generalize (HttpCacheStore.insert metadataSize ⟨⟨2, u64Max, u64Max⟩, ⟨.empty, 0, 0⟩, ⟨0, 0, 0, 0, 0, 0, 0⟩, []⟩ 0
    a entry).2 = store₁ at hc₁ hs₁ hn₁ hb₁
  have hget : store₁.state.entries.get? b = none := by
    rw [hs₁]
    exact (SortedMap.get?_insert _ _ _ _).trans (if_neg hab)
  obtain ⟨-, hs₂, -, hb₂⟩ := insert_fresh metadataSize store₁ 0 b hv (by rw [hc₁]; exact hobj) (by rw [hc₁])
    (by rw [hn₁, hc₁]; decide) hget
  have htot : (insertRecord store₁.state 0 b entry (entry.estimatedSize metadataSize)).totalBytes ≤ u64Max :=
    Nat.min_le_right _ _
  rw [hb₂, hs₂, hz]
  rw [hz] at htot
  omega

def hugeEntry : HttpCacheEntry := ⟨⟨200, 0, 1, none, none, none, none⟩, [], List.replicate (2 ^ 63 - 1) 0⟩

theorem hugeEntry_size : hugeEntry.estimatedSize 256 = 2 ^ 63 + 255 := by
  unfold HttpCacheEntry.estimatedSize
  have hb : hugeEntry.body.length = 2 ^ 63 - 1 := List.length_replicate
  rw [hb]
  have hm : hugeEntry.metadata = ⟨200, 0, 1, none, none, none, none⟩ := rfl
  have hh : hugeEntry.headers = [] := rfl
  decide

end WayBalancer
