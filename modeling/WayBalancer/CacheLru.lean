import WayBalancer.CacheBounds
import WayBalancer.Recency
/-!
# CacheLru — which entries an insertion evicts

The uses of a run, its insertions and its lookups that hit, order the stored keys by last use.  Eviction goes by the last
access in whole milliseconds and then by the order of insertion, which a lookup does not renew.  So long as no lookup ties
with the access of an entry inserted later, the two orders agree (`Ranked`), and an insertion drops the least recently used
keys until the new entry fits.
-/
namespace WayBalancer

open Word Recency
open HttpCacheStore (new new_ok)
open SortedMap (get?_eq_none get?_eq_some mem_erase)

variable {k : HttpCacheKey} {r : CacheRecord} {config : HttpCacheStoreConfig}

/-! ## Uses -/

def uses (metadataSize : ℕ) (store : HttpCacheStore) : List CacheOp → List HttpCacheKey
  | []        => []
  | op :: ops => (usedKey metadataSize store op).toList ++ uses metadataSize (store.step metadataSize op) ops

def lruOrder (metadataSize : ℕ) (store : HttpCacheStore) (ops : List CacheOp) : List HttpCacheKey :=
  (recency (uses metadataSize store ops)).filter
    (fun k => ((store.run metadataSize ops).state.entries.get? k).isSome)

def opTime : CacheOp → Option ℕ
  | .lookup now _   => some now
  | .insert now _ _ => some now
  | _               => none

/-- What eviction needs of a call to see uses in their order: a hit does not share its millisecond with the last access
of an entry inserted later, and an insertion has a number of its own. -/
def KeepsRank (store : HttpCacheStore) : CacheOp → Prop
  | .lookup now key => ∀ hit ∈ store.state.entries.entries, hit.1 = key → (hit.2.entry.metadata.freshness now).isSome = true →
      ∀ e ∈ store.state.entries.entries, hit.2.insertedSequence < e.2.insertedSequence →
        e.2.lastAccessedTick ≠ durationTick now
  | .insert _ _ _ => store.state.nextSequence < u64Max
  | _ => True

instance (store : HttpCacheStore) : DecidablePred (KeepsRank store)
  | .lookup now key => inferInstanceAs (Decidable (∀ hit ∈ store.state.entries.entries, hit.1 = key →
      (hit.2.entry.metadata.freshness now).isSome = true → ∀ e ∈ store.state.entries.entries,
        hit.2.insertedSequence < e.2.insertedSequence → e.2.lastAccessedTick ≠ durationTick now))
  | .insert _ _ _             => inferInstanceAs (Decidable (store.state.nextSequence < u64Max))
  | .remove _                 => .isTrue trivial
  | .purgePathPrefix _        => .isTrue trivial
  | .applyInvalidationEvent _ => .isTrue trivial
  | .purgeExpired _           => .isTrue trivial

def RunMeets (P : HttpCacheStore → CacheOp → Prop) (metadataSize : ℕ) : HttpCacheStore → List CacheOp → Prop
  | _, []            => True
  | store, op :: ops => P store op ∧ RunMeets P metadataSize (store.step metadataSize op) ops

instance instDecidableRunMeets {P : HttpCacheStore → CacheOp → Prop} [∀ store, DecidablePred (P store)] (metadataSize : ℕ) :
    ∀ (ops : List CacheOp) (store : HttpCacheStore), Decidable (RunMeets P metadataSize store ops)
  | [], _         => .isTrue trivial
  | op :: ops, store =>
    haveI := instDecidableRunMeets (P := P) metadataSize ops (store.step metadataSize op)
    inferInstanceAs (Decidable (P store op ∧ RunMeets P metadataSize (store.step metadataSize op) ops))

/-! ## The specification of an insertion -/

def keptBytes (s : CacheStoreState) (keep : List HttpCacheKey) : ℕ :=
  (keep.map (fun k => ((s.entries.get? k).map (·.size)).getD 0)).sum

/-- Whether a new entry fits beside the listed ones. -/
def fitsBeside (config : HttpCacheStoreConfig) (s : CacheStoreState) (size : ℕ) (keep : List HttpCacheKey) : Bool :=
  keep.length + 1 ≤ config.maxEntries && size + keptBytes s keep ≤ config.maxBytes

/-- **An insertion by least recent use**: the entry is stored under its key, and of the other keys exactly the shortest
prefix of `order` goes that lets it fit; every other entry stays as it is. -/
structure InsertsLru (config : HttpCacheStoreConfig) (before after : CacheStoreState) (order : List HttpCacheKey)
    (key : HttpCacheKey) (entry : HttpCacheEntry) (size : ℕ) : Prop where
  stored : ∃ r, after.entries.get? key = some r ∧ r.entry = entry ∧ r.size = size
  evicted : ∃ n ≤ order.length, fitsBeside config before size (order.drop n) = true ∧
    (∀ j < n, fitsBeside config before size (order.drop j) = false) ∧
    ∀ k, k ≠ key → after.entries.get? k = if k ∈ order.take n then none else before.entries.get? k

/-! ## Eviction of a ranked state -/

def recordsFit (config : HttpCacheStoreConfig) (l : List (HttpCacheKey × CacheRecord)) : Bool :=
  l.length ≤ config.maxEntries && (l.map (fun e => e.2.size)).sum ≤ config.maxBytes

/-- **Eviction of a state whose records are listed by age drops the shortest prefix of that list.** -/
theorem evict_ranked (config : HttpCacheStoreConfig) : ∀ {l : List (HttpCacheKey × CacheRecord)} {s : CacheStoreState},
    l.Pairwise (fun a b => a.2.age < b.2.age) → s.entries.entries.Perm l → s.totalBytes = storedBytes s →
    (evictUntilWithinBounds config s).2.entries.entries.Perm (shortestDrop (recordsFit config) l)
  | [], s, _, hp, _ => by
    obtain ⟨hk, -⟩ := evict_keeps (P := fun s => s.entries.entries = []) (fun s key record hg hs => by
        rw [get?_eq_some, hs] at hg
        cases hg) (List.perm_nil.1 hp)
    rw [hk]
    exact List.Perm.nil
  | (key, record) :: l, s, hl, hp, ht => by
    obtain ⟨hhead, hta⟩ := List.pairwise_cons.1 hl
    have hf : recordsFit config ((key, record) :: l) = !overBounds config s := by
      have hsum : ((key, record) :: l |>.map (fun e => e.2.size)).sum = s.totalBytes := by
        rw [ht]
        exact ((hp.map (fun e => e.2.size)).sum_eq).symm
      have hlen : ((key, record) :: l).length = s.entries.size := hp.length_eq.symm
      unfold recordsFit overBounds
      rw [hsum, hlen, Bool.not_or, ← decide_not, ← decide_not]
      simp only [Nat.not_lt]
    cases ho : overBounds config s with
    | false =>
      rw [evict_of_within ho, shortestDrop, hf, ho]
      exact hp
    | true =>
      have hold : oldestEntry s = some (key, record) := argmin_eq_head hp (fun b hb => hhead b hb)
      have hg : s.entries.get? key = some record := get?_eq_some.2 (List.argmin_mem hold)
      have hperm : (s.without key record).entries.entries.Perm l :=
        List.Perm.cons_inv ((SortedMap.erase_perm hg).symm.trans hp)
      have htot : (s.without key record).totalBytes = storedBytes (s.without key record) := by
        have hsum := storedBytes_without hg
        show s.totalBytes - record.size = _
        omega
      rw [evict_of_over ho hold, shortestDrop, hf, ho]
      exact evict_ranked config hta hperm htot

/-! ## What a call leaves of the records -/

variable {s : CacheStoreState}

theorem evict_subset : (∀ e ∈ (evictUntilWithinBounds config s).2.entries.entries, e ∈ s.entries.entries) ∧
      (evictUntilWithinBounds config s).2.nextSequence = s.nextSequence :=
  (evict_keeps (P := fun t => (∀ e ∈ t.entries.entries, e ∈ s.entries.entries) ∧
    t.nextSequence = s.nextSequence) (fun _ _ _ _ ht => ⟨fun _ he => ht.1 _ (mem_erase.1 he).1, ht.2⟩)
    ⟨fun _ he => he, rfl⟩).1

theorem removeAll_subset {keys : List HttpCacheKey} :
    (∀ e ∈ (removeAll s keys).entries.entries, e ∈ s.entries.entries) ∧ (removeAll s keys).nextSequence = s.nextSequence :=
  removeAll_keeps (P := fun t => (∀ e ∈ t.entries.entries, e ∈ s.entries.entries) ∧ t.nextSequence = s.nextSequence)
    (fun _ _ _ _ ht => ⟨fun _ he => ht.1 _ (mem_erase.1 he).1, ht.2⟩) keys ⟨fun _ he => he, rfl⟩

theorem mem_removeFromState {key : HttpCacheKey} {e : HttpCacheKey × CacheRecord} :
    e ∈ (removeFromState s key).2.entries.entries ↔ e ∈ s.entries.entries ∧ e.1 ≠ key := by
  unfold removeFromState
  split
  · exact mem_erase
  · rename_i hn
    refine ⟨fun he => ⟨he, ?_⟩, fun he => he.1⟩
    rintro rfl
    exact get?_eq_none.1 hn e.2 he

/-- The record a use leaves under its key: accessed now, with the number it had or the next one. -/
inductive UsedRecord (store : HttpCacheStore) (op : CacheOp) (k : HttpCacheKey) (r : CacheRecord) : Prop
  | hit (now : ℕ) (r₀ : CacheRecord) (hop : op = .lookup now k) (hg : store.state.entries.get? k = some r₀)
      (hf : (r₀.entry.metadata.freshness now).isSome = true) (ht : r.lastAccessedTick = durationTick now)
      (hs : r.insertedSequence = r₀.insertedSequence)
  | inserted (now : ℕ) (entry : HttpCacheEntry) (hop : op = .insert now k entry)
      (ht : r.lastAccessedTick = durationTick now) (hs : r.insertedSequence = store.state.nextSequence)

variable {metadataSize : ℕ} {store : HttpCacheStore}

/-- **A record after a call** is the one from before, or its key's was used. -/
theorem step_record {op : CacheOp} (h : (store.step metadataSize op).state.entries.get? k = some r) :
    (usedKey metadataSize store op ≠ some k ∧ store.state.entries.get? k = some r) ∨
      (usedKey metadataSize store op = some k ∧ UsedRecord store op k r) := by
  have heff := step_effect metadataSize store op
  generalize (store.step metadataSize op).state = s' at heff h
  cases heff with
  | hit now key r₀ hop hr hf hu =>
    rw [CacheStoreState.accessed, SortedMap.get?_modify] at h
    by_cases hk : k = key
    · subst hk
      rw [if_pos rfl, hr] at h
      cases h
      exact .inr ⟨hu, .hit now r₀ hop hr hf rfl rfl⟩
    · rw [if_neg hk] at h
      exact .inl ⟨fun e => hk (Option.some.inj (e.symm.trans hu)), h⟩
  | inserted now key entry hop hs hu =>
    have hin := evict_subset.1 _ (get?_eq_some.1 h)
    rcases List.mem_cons.1 (((insertRecord_perm _ now key entry _).mem_iff).1 hin) with he | he
    · cases he
      exact .inr ⟨hu, .inserted now entry hop rfl rfl⟩
    · obtain ⟨hmem, hne⟩ := mem_removeFromState.1 he
      exact .inl ⟨fun e => hne (Option.some.inj (e.symm.trans hu)), get?_eq_some.2 hmem⟩
  | removed keys hu =>
    refine .inl ⟨by rw [hu]; simp, ?_⟩
    exact get?_eq_some.2 (removeAll_subset.1 _ (get?_eq_some.1 h))

theorem step_nextSequence {op : CacheOp} (hop : KeepsRank store op) :
    store.state.nextSequence ≤ (store.step metadataSize op).state.nextSequence ∧
      ∀ now k entry, op = .insert now k entry → usedKey metadataSize store op = some k →
        (store.step metadataSize op).state.nextSequence = store.state.nextSequence + 1 := by
  have heff := step_effect metadataSize store op
  generalize (store.step metadataSize op).state = s' at heff
  cases heff with
  | hit now key r hl hr hf hu => exact ⟨le_refl _, fun now' k entry h _ => by rw [hl] at h; cases h⟩
  | inserted now key entry hi hs hu =>
    have hlt : store.state.nextSequence < u64Max := by rw [hi] at hop; exact hop
    have hseq : (evictUntilWithinBounds store.config (insertRecord store.state now key entry
        (entry.estimatedSize metadataSize))).2.nextSequence = store.state.nextSequence + 1 := by
      rw [evict_subset.2]
      show satAdd (removeFromState store.state key).2.nextSequence 1 = _
      rw [nextSequence_removeFromState, satAdd_of_le (by omega)]
    rw [hseq]
    exact ⟨Nat.le_succ _, fun _ _ _ _ _ => rfl⟩
  | removed keys hu =>
    rw [removeAll_subset.2]
    exact ⟨le_refl _, fun _ _ _ _ h => by rw [hu] at h; cases h⟩

/-! ## Age is recency -/

theorem age_lt {a b : CacheRecord} : a.age < b.age ↔ a.lastAccessedTick < b.lastAccessedTick ∨
    a.lastAccessedTick = b.lastAccessedTick ∧ a.insertedSequence < b.insertedSequence := Prod.Lex.toLex_lt_toLex

/-- **The records of a store rank by age as their keys by last use**, up to the time `now`. -/
structure Ranked (store : HttpCacheStore) (order : List HttpCacheKey) (now : ℕ) : Prop where
  nodup : order.Nodup
  complete : ∀ k r, store.state.entries.get? k = some r → k ∈ order
  byAge : order.Pairwise (fun a b => ∀ ra rb, store.state.entries.get? a = some ra → store.state.entries.get? b = some rb →
    ra.age < rb.age)
  ticks : ∀ k r, store.state.entries.get? k = some r → r.lastAccessedTick ≤ durationTick now
  numbered : ∀ k r, store.state.entries.get? k = some r → r.insertedSequence < store.state.nextSequence
  distinct : ∀ a b ra rb, store.state.entries.get? a = some ra → store.state.entries.get? b = some rb → a ≠ b →
    ra.insertedSequence ≠ rb.insertedSequence

/-- The order of last use after a call. -/
def orderAfter (order : List HttpCacheKey) : Option HttpCacheKey → List HttpCacheKey
  | some k => touch order k
  | none   => order

section Step

variable {metadataSize : ℕ} {store : HttpCacheStore} {op : CacheOp} {order : List HttpCacheKey} {now : ℕ}

theorem mem_orderAfter {u : Option HttpCacheKey} : k ∈ orderAfter order u ↔ k ∈ order ∨ u = some k := by
  cases u with
  | none => simp [orderAfter]
  | some k₁ => simp [orderAfter, mem_touch, eq_comm]

theorem UsedRecord.tick (hr : UsedRecord store op k r) (now : ℕ) : r.lastAccessedTick = durationTick ((opTime op).getD now) := by
  cases hr with
  | hit t r₀ hl hg hf ht hs => rw [hl, ht]; rfl
  | inserted t entry hi ht hs => rw [hi, ht]; rfl

variable {k' : HttpCacheKey} {r' : CacheRecord}

section
variable (h : Ranked store order now)
include h

theorem Ranked.used_distinct (hr : UsedRecord store op k r)
    (hr' : store.state.entries.get? k' = some r') (hk : k' ≠ k) : r'.insertedSequence ≠ r.insertedSequence := by
  cases hr with
  | hit t r₀ hl hg hf ht hs => rw [hs]; exact h.distinct k' k r' r₀ hr' hg hk
  | inserted t entry hi ht hs => rw [hs]; exact Nat.ne_of_lt (h.numbered k' r' hr')

theorem Ranked.used_youngest (hop : KeepsRank store op) (hT : ∀ t, opTime op = some t → now ≤ t)
    (hr : UsedRecord store op k r) (hr' : store.state.entries.get? k' = some r') (hk : k' ≠ k) : r'.age < r.age := by
  have hti := h.ticks k' r' hr'
  rw [age_lt]
  cases hr with
  | hit t r₀ hl hg hf ht hs =>
    have hle := Nat.le_trans hti (durationTick_mono (hT t (by rw [hl]; rfl)))
    rw [hl] at hop
    rcases Nat.lt_or_eq_of_le hle with hlt | heq
    · exact .inl (by rw [ht]; exact hlt)
    · refine .inr ⟨by rw [ht, heq], ?_⟩
      have hne := h.distinct k' k r' r₀ hr' hg hk
      have hnot : ¬ r₀.insertedSequence < r'.insertedSequence :=
        fun hlt => hop (k, r₀) (get?_eq_some.1 hg) rfl hf (k', r') (get?_eq_some.1 hr') hlt heq
      omega
  | inserted t entry hi ht hs =>
    have hle := Nat.le_trans hti (durationTick_mono (hT t (by rw [hi]; rfl)))
    have hseq := h.numbered k' r' hr'
    omega

theorem Ranked.unused_byAge {l : List HttpCacheKey} (hl : l.Sublist order) (hne : ∀ k ∈ l, usedKey metadataSize store op ≠ some k) :
    l.Pairwise (fun a b => ∀ ra rb, (store.step metadataSize op).state.entries.get? a = some ra →
      (store.step metadataSize op).state.entries.get? b = some rb → ra.age < rb.age) := by
  refine (h.byAge.sublist hl).imp_of_mem (fun {a b} ha hb hab ra rb hra hrb => ?_)
  obtain ⟨-, hra₀⟩ := (step_record hra).resolve_right (fun hu => hne a ha hu.1)
  obtain ⟨-, hrb₀⟩ := (step_record hrb).resolve_right (fun hu => hne b hb hu.1)
  exact hab ra rb hra₀ hrb₀

theorem Ranked.step_byAge (hop : KeepsRank store op) (hT : ∀ t, opTime op = some t → now ≤ t) :
    (orderAfter order (usedKey metadataSize store op)).Pairwise (fun a b => ∀ ra rb,
      (store.step metadataSize op).state.entries.get? a = some ra →
        (store.step metadataSize op).state.entries.get? b = some rb → ra.age < rb.age) := by
  cases hu : usedKey metadataSize store op with
  | none => exact h.unused_byAge (List.Sublist.refl _) (fun k _ => by rw [hu]; simp)
  | some k =>
    have hoth : ∀ a ∈ order.filter (· ≠ k), usedKey metadataSize store op ≠ some a := fun a ha e => by
      rw [hu] at e
      exact of_decide_eq_true (List.mem_filter.1 ha).2 (Option.some.inj e).symm
    refine List.pairwise_append.2 ⟨h.unused_byAge List.filter_sublist hoth, List.pairwise_singleton _ _, ?_⟩
    -- the used key comes last, with the youngest record
    intro a ha b hb ra rb hra hrb
    rw [List.mem_singleton.1 hb] at hrb
    obtain ⟨-, hra₀⟩ := (step_record hra).resolve_right (fun hu' => hoth a ha hu'.1)
    obtain ⟨-, hus⟩ := (step_record hrb).resolve_left (fun hn => hn.1 hu)
    exact h.used_youngest hop hT hus hra₀ (of_decide_eq_true (List.mem_filter.1 ha).2)

end

theorem Ranked.step (h : Ranked store order now) (hop : KeepsRank store op) (hT : ∀ t, opTime op = some t → now ≤ t) :
    Ranked (store.step metadataSize op) (orderAfter order (usedKey metadataSize store op)) ((opTime op).getD now) := by
  have hnow : now ≤ (opTime op).getD now := by
    cases ho : opTime op with
    | none => exact le_refl _
    | some t => exact hT t ho
  obtain ⟨hn, hn1⟩ := step_nextSequence hop
  refine ⟨?_, fun k r hr => mem_orderAfter.2 ?_, h.step_byAge hop hT, fun k r hr => ?_, fun k r hr => ?_,
    fun a b ra rb hra hrb hab => ?_⟩
  · cases usedKey metadataSize store op with
    | none => exact h.nodup
    | some k => exact touch_nodup h.nodup k
  · rcases step_record hr with ⟨-, hr₀⟩ | ⟨hu, -⟩
    · exact .inl (h.complete k r hr₀)
    · exact .inr hu
  · rcases step_record hr with ⟨-, hr₀⟩ | ⟨-, hus⟩
    · exact Nat.le_trans (h.ticks k r hr₀) (durationTick_mono hnow)
    · exact Nat.le_of_eq (hus.tick now)
  · rcases step_record hr with ⟨-, hr₀⟩ | ⟨hu, hus⟩
    · exact Nat.lt_of_lt_of_le (h.numbered k r hr₀) hn
    · cases hus with
      | hit t r₀ hl hg hf ht hs => rw [hs]; exact Nat.lt_of_lt_of_le (h.numbered k r₀ hg) hn
      | inserted t entry hi ht hs => rw [hs, hn1 t k entry hi hu]; exact Nat.lt_succ_self _
  · rcases step_record hra with ⟨-, hra₀⟩ | ⟨hua, husedA⟩ <;> rcases step_record hrb with ⟨-, hrb₀⟩ | ⟨hub, husedB⟩
    · exact h.distinct a b ra rb hra₀ hrb₀ hab
    · exact h.used_distinct husedB hra₀ hab
    · exact (h.used_distinct husedA hrb₀ hab.symm).symm
    · exact absurd (Option.some.inj (hua.symm.trans hub)) hab

end Step

theorem Ranked.run (metadataSize : ℕ) : ∀ (ops : List CacheOp) {store : HttpCacheStore} {order : List HttpCacheKey} {now : ℕ}
    (later : List ℕ), Ranked store order now → RunMeets KeepsRank metadataSize store ops →
    (now :: (ops.filterMap opTime ++ later)).Pairwise (· ≤ ·) →
    ∃ now', Ranked (store.run metadataSize ops) ((uses metadataSize store ops).foldl touch order) now' ∧
      (now' :: later).Pairwise (· ≤ ·)
  | [], store, order, now, later, h, _, ht => ⟨now, h, by simpa using ht⟩
  | op :: ops, store, order, now, later, h, hops, ht => by
    have hle : ∀ t, opTime op = some t → now ≤ t := by
      intro t hto
      refine (List.pairwise_cons.1 ht).1 t (List.mem_append_left _ ?_)
      exact List.mem_filterMap.2 ⟨op, by simp, hto⟩
    have ht' : ((opTime op).getD now :: (ops.filterMap opTime ++ later)).Pairwise (· ≤ ·) := by
      cases hto : opTime op with
      | none => rw [List.filterMap_cons_none hto] at ht; exact ht
      | some t => rw [List.filterMap_cons_some hto] at ht; exact (List.pairwise_cons.1 ht).2
    obtain ⟨now', hr, hl⟩ := Ranked.run metadataSize ops later (h.step hops.1 hle) hops.2 ht'
    refine ⟨now', ?_, hl⟩
    rw [uses, List.foldl_append]
    have hf : (usedKey metadataSize store op).toList.foldl touch order = orderAfter order (usedKey metadataSize store op) := by
      cases usedKey metadataSize store op <;> rfl
    rw [hf]
    exact hr

theorem RunMeets.snoc {P : HttpCacheStore → CacheOp → Prop} {metadataSize : ℕ} {op : CacheOp} :
    ∀ {ops : List CacheOp} {store : HttpCacheStore}, RunMeets P metadataSize store (ops ++ [op]) →
      RunMeets P metadataSize store ops ∧ P (store.run metadataSize ops) op
  | [], _, h => ⟨trivial, h.1⟩
  | _ :: _, _, h => ⟨⟨h.1, h.2.snoc.1⟩, h.2.snoc.2⟩

theorem ranked_new (h : new config = .ok store) : Ranked store [] 0 := by
  obtain ⟨-, rfl⟩ := new_ok h
  exact ⟨List.nodup_nil, fun _ _ h => (by cases h), .nil, fun _ _ h => (by cases h), fun _ _ h => (by cases h),
    fun _ _ _ _ h => (by cases h)⟩

/-! ## An insertion -/

section Insertion

variable {store : HttpCacheStore} {order : List HttpCacheKey} {now : ℕ} {key : HttpCacheKey} {entry : HttpCacheEntry} {size : ℕ}

def rankedRecords (store : HttpCacheStore) (order : List HttpCacheKey) (now : ℕ) (key : HttpCacheKey) (entry : HttpCacheEntry)
    (size : ℕ) : List (HttpCacheKey × CacheRecord) :=
  order.map (fun k => (k, (store.state.entries.get? k).getD (newRecord store.state now entry size))) ++
    [(key, newRecord store.state now entry size)]

/-- The keys of a store other than `key`, in the order of last use. -/
structure OthersByUse (store : HttpCacheStore) (key : HttpCacheKey) (order : List HttpCacheKey) : Prop where
  nodup : order.Nodup
  mem : ∀ k, k ∈ order ↔ k ≠ key ∧ (store.state.entries.get? k).isSome = true
  byAge : order.Pairwise (fun a b => ∀ ra rb, store.state.entries.get? a = some ra → store.state.entries.get? b = some rb →
    ra.age < rb.age)

theorem Ranked.others {R : List HttpCacheKey} (h : Ranked store R now) (key : HttpCacheKey) :
    OthersByUse store key ((R.filter (fun k => (store.state.entries.get? k).isSome)).filter (· ≠ key)) := by
  refine ⟨(h.nodup.filter _).filter _, fun k => ?_, (h.byAge.sublist List.filter_sublist).sublist List.filter_sublist⟩
  rw [List.mem_filter, List.mem_filter, decide_eq_true_eq]
  constructor
  · rintro ⟨⟨-, hs⟩, hk⟩
    exact ⟨hk, hs⟩
  · rintro ⟨hk, hs⟩
    obtain ⟨r, hr⟩ := Option.isSome_iff_exists.1 hs
    exact ⟨⟨h.complete k r hr, hs⟩, hk⟩

theorem OthersByUse.get? (ho : OthersByUse store key order) (hk : k ∈ order) :
    store.state.entries.get? k = some ((store.state.entries.get? k).getD (newRecord store.state now entry size)) := by
  obtain ⟨r, hr⟩ := Option.isSome_iff_exists.1 ((ho.mem k).1 hk).2
  rw [hr]
  rfl

theorem OthersByUse.perm (ho : OthersByUse store key order) :
    (insertRecord store.state now key entry size).entries.entries.Perm (rankedRecords store order now key entry size) := by
  refine (insertRecord_perm store.state now key entry size).trans ?_
  refine (List.Perm.cons _ ?_).trans (List.perm_append_singleton _ _).symm
  have hnd : (order.map (fun k => (k, (store.state.entries.get? k).getD (newRecord store.state now entry size)))).Nodup :=
    ho.nodup.map (fun a b h => (Prod.mk.inj h).1)
  refine (List.perm_ext_iff_of_nodup (SortedMap.entries_nodup _) hnd).2 (fun e => ?_)
  rw [mem_removeFromState, List.mem_map]
  constructor
  · rintro ⟨he, hk⟩
    have hg := get?_eq_some.2 he
    exact ⟨e.1, (ho.mem e.1).2 ⟨hk, by rw [hg]; rfl⟩, by rw [hg]; rfl⟩
  · rintro ⟨k, hk, rfl⟩
    exact ⟨get?_eq_some.1 (ho.get? hk), ((ho.mem k).1 hk).1⟩

theorem OthersByUse.ranked (ho : OthersByUse store key order)
    (hyou : ∀ k r, k ≠ key → store.state.entries.get? k = some r → r.age < (newRecord store.state now entry size).age) :
    (rankedRecords store order now key entry size).Pairwise (fun a b => a.2.age < b.2.age) := by
  refine List.pairwise_append.2 ⟨List.pairwise_map.2 ?_, List.pairwise_singleton _ _, fun a ha b hb => ?_⟩
  · exact ho.byAge.imp_of_mem (fun ha hb hab => hab _ _ (ho.get? ha) (ho.get? hb))
  · obtain ⟨k, hk, rfl⟩ := List.mem_map.1 ha
    rw [List.mem_singleton.1 hb]
    exact hyou k _ ((ho.mem k).1 hk).1 (ho.get? hk)

theorem recordsFit_drop (now : ℕ) (entry : HttpCacheEntry) (config : HttpCacheStoreConfig) {n : ℕ} (hn : n ≤ order.length)
    (ho : OthersByUse store key order) :
    recordsFit config ((rankedRecords store order now key entry size).drop n) = fitsBeside config store.state size (order.drop n) := by
  unfold rankedRecords
  rw [List.drop_append_of_le_length (by rw [List.length_map]; exact hn), ← List.map_drop]
  have hby : (((order.drop n).map (fun k => (k, (store.state.entries.get? k).getD
      (newRecord store.state now entry size))) ++ [(key, newRecord store.state now entry size)]).map (fun e => e.2.size)).sum =
      size + keptBytes store.state (order.drop n) := by
    rw [List.map_append, List.sum_append, List.map_map, Nat.add_comm]
    congr 1
    congr 1
    refine List.map_congr_left (fun k hk => ?_)
    have hg : store.state.entries.get? k = some ((store.state.entries.get? k).getD (newRecord store.state now entry size)) :=
      ho.get? (List.mem_of_mem_drop hk)
    rw [hg]
    rfl
  unfold recordsFit fitsBeside
  rw [hby]
  simp

theorem insert_ok_state {result : HttpCacheInsertResult} (h : (store.insert metadataSize now key entry).1 = .ok result) :
    entry.estimatedSize metadataSize ≤ store.config.maxObjectBytes ∧
    (store.insert metadataSize now key entry).2.state = (evictUntilWithinBounds store.config
      (insertRecord store.state now key entry (entry.estimatedSize metadataSize))).2 := by
  have heff := step_effect_insert metadataSize store now key entry
  generalize (store.insert metadataSize now key entry).2.state = s' at heff
  cases heff with
  | hit now' key' r hop hr hf hu => cases hop
  | inserted now' key' entry' hop hs hu =>
    cases hop
    exact ⟨hs, rfl⟩
  | removed keys hu =>
    rw [usedKey, h] at hu
    cases hu

theorem insertsLru_of_perm {after : CacheStoreState} (ho : OthersByUse store key order) {n : ℕ} (hn : n ≤ order.length)
    (hp : after.entries.entries.Perm ((rankedRecords store order now key entry size).drop n))
    (hf : fitsBeside config store.state size (order.drop n) = true)
    (hmin : ∀ j < n, fitsBeside config store.state size (order.drop j) = false) :
    InsertsLru config store.state after order key entry size := by
  unfold rankedRecords at hp
  rw [List.drop_append_of_le_length (by rw [List.length_map]; exact hn), ← List.map_drop] at hp
  refine ⟨⟨newRecord store.state now entry size, ?_, rfl, rfl⟩, n, hn, hf, hmin, fun k hk => ?_⟩
  · exact get?_eq_some.2 (hp.mem_iff.2 (List.mem_append_right _ (by simp)))
  · -- a key other than the new one is kept exactly when it is past the dropped prefix
    have hmem : ∀ r, (k, r) ∈ after.entries.entries ↔ k ∈ order.drop n ∧ store.state.entries.get? k = some r := by
      intro r
      rw [hp.mem_iff, List.mem_append, List.mem_singleton, List.mem_map]
      constructor
      · rintro (⟨k', hk', e⟩ | e)
        · cases e
          exact ⟨hk', ho.get? (List.mem_of_mem_drop hk')⟩
        · exact absurd (Prod.mk.inj e).1 hk
      · rintro ⟨hk', hg⟩
        exact .inl ⟨k, hk', by rw [hg]; rfl⟩
    have hspl : (order.take n ++ order.drop n).Nodup := by rw [List.take_append_drop]; exact ho.nodup
    split
    · rename_i ht
      refine get?_eq_none.2 (fun r hr => ?_)
      exact (List.nodup_append.1 hspl).2.2 k ht k ((hmem r).1 hr).1 rfl
    · rename_i ht
      cases hg : store.state.entries.get? k with
      | none => exact get?_eq_none.2 (fun r hr => by rw [((hmem r).1 hr).2] at hg; cases hg)
      | some r =>
        have hin : k ∈ order := (ho.mem k).2 ⟨hk, by rw [hg]; rfl⟩
        rw [← List.take_append_drop n order] at hin
        exact get?_eq_some.2 ((hmem r).2 ⟨(List.mem_append.1 hin).resolve_left ht, hg⟩)

/-- **Eviction after an insertion is by least recent use** where age follows use, the new record is the youngest and the
tracked bytes are the stored ones. -/
theorem OthersByUse.insertsLru (ho : OthersByUse store key order)
    (hyou : ∀ k r, k ≠ key → store.state.entries.get? k = some r → r.age < (newRecord store.state now entry size).age)
    (hexa : (insertRecord store.state now key entry size).totalBytes = storedBytes (insertRecord store.state now key entry size))
    (hent : config.maxEntries ≠ 0) (hs : size ≤ config.maxBytes) :
    InsertsLru config store.state (evictUntilWithinBounds config (insertRecord store.state now key entry size)).2 order key
      entry size := by
  have hevi := evict_ranked config (ho.ranked hyou) ho.perm hexa
  -- the new entry fits on its own, so the prefix dropped ends before it
  have halo : fitsBeside config store.state size (order.drop order.length) = true := by
    rw [List.drop_length]
    simp only [fitsBeside, keptBytes, List.length_nil, List.map_nil, List.sum_nil, Bool.and_eq_true, decide_eq_true_eq]
    omega
  have hlen : (rankedRecords store order now key entry size).length = order.length + 1 := by simp [rankedRecords]
  obtain ⟨n, hn, hd, hfit, hmin⟩ := shortestDrop_spec (recordsFit config) (rankedRecords store order now key entry size)
    ⟨order.length, by omega, by rw [recordsFit_drop now entry config (le_refl _) ho]; exact halo⟩
  have hn' : n ≤ order.length := by
    by_contra hgt
    have hbad := hmin order.length (by omega)
    rw [recordsFit_drop now entry config (le_refl _) ho, halo] at hbad
    cases hbad
  rw [hd] at hevi
  refine insertsLru_of_perm ho hn' hevi ?_ (fun j hj => ?_)
  · rw [← recordsFit_drop now entry config hn' ho]
    exact hfit
  · rw [← recordsFit_drop now entry config (by omega) ho]
    exact hmin j hj

end Insertion

/-- **Eviction is by least recent use on every run whose hits do not tie** in their millisecond with the last access of an
entry inserted later, as long as the insertion counter and the byte count do not saturate: the new entry is stored, and the
shortest prefix of the other keys, least recently used first, goes that lets it fit. -/
theorem insert_evicts_lru (metadataSize : ℕ) (config : HttpCacheStoreConfig) (store₀ : HttpCacheStore)
    (hnew : new config = .ok store₀) (hsat : config.maxBytes + config.maxObjectBytes ≤ u64Max)
    (ops : List CacheOp) (now : ℕ) (key : HttpCacheKey) (entry : HttpCacheEntry) (result : HttpCacheInsertResult)
    (htimes : ((ops ++ [CacheOp.insert now key entry]).filterMap opTime).Pairwise (· ≤ ·))
    (hrank : RunMeets KeepsRank metadataSize store₀ (ops ++ [.insert now key entry]))
    (hins : ((store₀.run metadataSize ops).insert metadataSize now key entry).1 = .ok result) :
    InsertsLru config (store₀.run metadataSize ops).state
      ((store₀.run metadataSize ops).insert metadataSize now key entry).2.state
      ((lruOrder metadataSize store₀ ops).filter (· ≠ key)) key entry (entry.estimatedSize metadataSize) := by
  obtain ⟨hb₀, hc₀⟩ := bounded_new hnew
  have hb := bounded_run metadataSize ops hb₀
  have hc : (store₀.run metadataSize ops).config = config := (run_config ops store₀).trans hc₀
  obtain ⟨hops, hl⟩ := hrank.snoc
  have htimes' : (0 :: (ops.filterMap opTime ++ [now])).Pairwise (· ≤ ·) := by
    rw [List.filterMap_append] at htimes
    exact List.pairwise_cons.2 ⟨fun _ _ => Nat.zero_le _, htimes⟩
  obtain ⟨now', hr, hle⟩ := Ranked.run metadataSize ops [now] (ranked_new hnew) hops htimes'
  have hnow : ∀ t, opTime (.insert now key entry) = some t → now' ≤ t := by
    intro t ht
    cases ht
    exact (List.pairwise_cons.1 hle).1 now (by simp)
  have ho := hr.others key
  obtain ⟨hs, hsta⟩ := insert_ok_state hins
  obtain ⟨hacc, hby, -⟩ := hb
  obtain ⟨hent, -, -, hobj⟩ := HttpCacheStoreConfig.validate_ok.1 (new_ok hnew).1
  rw [hc] at hs hacc hby
  rw [hsta, hc]
  refine ho.insertsLru (fun k r hk hg => ?_) ((hacc.insertRecord hby now key entry hs).exact hsat) hent (by omega)
  exact hr.used_youngest hl hnow (.inserted now entry rfl rfl rfl) hg hk

def smallEntry : HttpCacheEntry := ⟨⟨200, 0, 1000000000, none, none, none, none⟩, [], [1]⟩

/-- An empty store for two entries. -/
def pairStore : HttpCacheStore := ⟨⟨2, 100, 50⟩, ⟨.empty, 0, 0⟩, ⟨0, 0, 0, 0, 0, 0, 0⟩, []⟩

/-- Two insertions, a hit on the first, all in one millisecond: the next insertion evicts the entry just used and keeps
the one that was not. -/
theorem insert_evicts_recent :
    let ops : List CacheOp := [.insert 0 ⟨[65], by simp⟩ smallEntry, .insert 0 ⟨[66], by simp⟩ smallEntry,
      .lookup 0 ⟨[65], by simp⟩]
    new ⟨2, 100, 50⟩ = .ok pairStore ∧
    (((pairStore.run 8 ops).insert 8 0 ⟨[67], by simp⟩ smallEntry).1 = .ok ⟨false, 1⟩) ∧
    ¬ InsertsLru ⟨2, 100, 50⟩ (pairStore.run 8 ops).state ((pairStore.run 8 ops).insert 8 0 ⟨[67], by simp⟩ smallEntry).2.state
      ((lruOrder 8 pairStore ops).filter (· ≠ ⟨[67], by simp⟩)) ⟨[67], by simp⟩ smallEntry 9 := by
  intro ops
  refine ⟨rfl, by decide +kernel, fun h => ?_⟩
  obtain ⟨n, hn, hfit, -, hkeep⟩ := h.evicted
  have hord : (lruOrder 8 pairStore ops).filter (· ≠ ⟨[67], by simp⟩) =
      [⟨[66], by simp⟩, ⟨[65], by simp⟩] := by decide +kernel
  rw [hord] at hn hfit hkeep
  have hB := hkeep ⟨[66], by simp⟩ (by simp)
  have hs : (((pairStore.run 8 ops).insert 8 0 ⟨[67], by simp⟩ smallEntry).2.state.entries.get? ⟨[66], by simp⟩).isSome
      = true := by decide +kernel
  match n with
  | 0 => exact absurd hfit (by decide +kernel)
  | n + 1 =>
    rw [hB] at hs
    cases hs

theorem insert_evicts_lru_apart :
    InsertsLru ⟨2, 100, 50⟩ (pairStore.run 8 [.insert 0 ⟨[65], by simp⟩ smallEntry, .insert 0 ⟨[66], by simp⟩ smallEntry,
        .lookup 1000000 ⟨[65], by simp⟩]).state
      ((pairStore.run 8 [.insert 0 ⟨[65], by simp⟩ smallEntry, .insert 0 ⟨[66], by simp⟩ smallEntry,
        .lookup 1000000 ⟨[65], by simp⟩]).insert 8 1000000 ⟨[67], by simp⟩ smallEntry).2.state
      ((lruOrder 8 pairStore [.insert 0 ⟨[65], by simp⟩ smallEntry, .insert 0 ⟨[66], by simp⟩ smallEntry,
        .lookup 1000000 ⟨[65], by simp⟩]).filter (· ≠ ⟨[67], by simp⟩)) ⟨[67], by simp⟩ smallEntry
      (smallEntry.estimatedSize 8) :=
  insert_evicts_lru 8 ⟨2, 100, 50⟩ pairStore rfl (by decide) _ 1000000 _ smallEntry ⟨false, 1⟩ (by decide)
    (by decide +kernel) (by decide +kernel)

end WayBalancer
