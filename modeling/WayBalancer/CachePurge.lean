import WayBalancer.CacheKeySpec
import WayBalancer.CacheLru
/-!
# CachePurge — purging a path prefix

`purge_path_prefix` reads the path of each stored key off the key's first line and drops the keys whose line is the prefix
or continues it with a slash.  What it should drop are the entries whose canonical path lies in the prefix's subtree, and a
prefix names the same subtree with and without a trailing slash.  A run is followed with a note of the request each stored
key was built for, so the two can be compared.
-/
namespace WayBalancer

open Str

variable {k : HttpCacheKey} {p : Text} {metadataSize : ℕ}

inductive InvalidHttpCachePurgeRequest
  | emptyPathPrefix
  | pathPrefixTooLong
  | pathPrefixMustStartWithSlash
  | pathPrefixMustNotContainQuery
deriving DecidableEq, Repr

def validatePathPrefix (pathPrefix : Text) : Except InvalidHttpCachePurgeRequest Unit :=
  if (trim pathPrefix).isEmpty then .error .emptyPathPrefix
  else if byteLen pathPrefix > invalidationMaxPathPrefixLen then .error .pathPrefixTooLong
  else if pathPrefix.head? ≠ some '/' then .error .pathPrefixMustStartWithSlash
  else if pathPrefix.contains '?' || pathPrefix.contains '#' then .error .pathPrefixMustNotContainQuery
  else .ok ()

/-! ## The path line of a key -/

variable (policy : HttpCachePolicyConfig)

def HttpCachePolicyConfig.hasMoreLines : Bool :=
  policy.cacheKey.includeHost || policy.cacheKey.includeMethod || policy.cacheKey.query == .includeAll ||
    policy.authorization == .partition || !(selectedHeaderNames policy.cacheKey.headers []).isEmpty

/-- What a stored key was built for: the canonical path, and whether a line follows it. -/
structure KeyOrigin where
  path : Text
  more : Bool
deriving DecidableEq, Repr

def inLine (c : Char) : Bool := c != '\n' && c != '\x00'

variable (o : KeyOrigin)

def KeyOrigin.rest : Text := o.path.dropWhile inLine ++ if o.more then ['\n'] else []

/-- The path as its line in the key reads: up to a newline or a NUL, and without a carriage return where a line end
follows. -/
def KeyOrigin.line : Text :=
  if o.rest.head? = some '\n' then chomp (o.path.takeWhile inLine) else o.path.takeWhile inLine

def BuiltFor (k : HttpCacheKey) (o : KeyOrigin) : Prop :=
  ∃ policy r varyHeaders host target, requestStorageKey policy r varyHeaders = some k ∧
    canonicalParts r = .ok (host, target) ∧ o = ⟨target.path, policy.hasMoreLines⟩

theorem storedPath_line {a b : Text} (ha : ∀ c ∈ a, inLine c = true) (hb : b = [] ∨ (∃ t, b = '\n' :: t) ∨ ∃ t, b = '\x00' :: t) :
    storedPath (utf8 (lit "path=" ++ a ++ b)) = some (if b.head? = some '\n' then chomp a else a) := by
  have hnl : '\n' ∉ lit "path=" ++ a := by
    intro hm
    rcases List.mem_append.1 hm with hm | hm
    · exact absurd hm (by decide)
    · exact absurd (ha _ hm) (by decide)
  have hnul : ∀ c ∈ lit "path=" ++ a, c ≠ '\x00' := by
    rintro c hm rfl
    rcases List.mem_append.1 hm with hm | hm
    · exact absurd hm (by decide)
    · exact absurd (ha _ hm) (by decide)
  have hstr : ∀ t : Text, stripPrefix (lit "path=") (lit "path=" ++ t) = some t := fun t => by
    simp [stripPrefix]
  have hcho : chomp (lit "path=" ++ a) = lit "path=" ++ chomp a := by
    cases a with
    | nil => rfl
    | cons c a =>
      unfold chomp
      rw [List.getLast?_append_of_ne_nil _ (by simp)]
      split_ifs <;> rfl
  unfold storedPath
  rw [utf8_takeWhile_nul, fromUtf8_utf8, Option.bind_some, List.takeWhile_append_of_pos (by simpa using hnul)]
  rcases hb with rfl | ⟨t, rfl⟩ | ⟨t, rfl⟩
  · rw [List.takeWhile_nil, List.append_nil, lines_of_no_newline hnl (by simp [lit])]
    simp [List.findSome?, hstr]
  · rw [List.takeWhile_cons_of_pos (by decide), lines_append_newline hnl, hcho]
    simp [List.findSome?, hstr]
  · rw [List.takeWhile_cons_of_neg (by decide), List.append_nil, lines_of_no_newline hnl (by simp [lit])]
    simp [List.findSome?, hstr]

variable (r : HttpCacheRequest)

variable {target : CanonicalRequestTarget}

theorem primaryParts_cons {host : Text} : ∃ others, primaryParts policy r host target = (lit "path=", target.path) :: others ∧
      (others = [] ↔ policy.hasMoreLines = false) := by
  refine ⟨_, by rw [primaryParts, List.append_assoc, List.append_assoc, List.append_assoc, List.append_assoc]; rfl, ?_⟩
  simp [HttpCachePolicyConfig.hasMoreLines, and_assoc]

theorem dropWhile_inLine (q : Text) :
    q.dropWhile inLine = [] ∨ (∃ t, q.dropWhile inLine = '\n' :: t) ∨ ∃ t, q.dropWhile inLine = '\x00' :: t := by
  cases hq : q.dropWhile inLine with
  | nil => exact .inl rfl
  | cons c t =>
    have hc := List.head_dropWhile_not inLine (l := q) (by rw [hq]; simp)
    simp only [hq, List.head_cons, inLine] at hc
    by_cases h : c = '\n'
    · exact .inr (.inl ⟨t, by rw [h]⟩)
    · exact .inr (.inr ⟨t, by simp_all⟩)

/-- What follows the path in a key: a newline, or the end or a NUL where the path's line is the last one. -/
theorem keyText_path (varyHeaders : List Text) (host : Text) (target : CanonicalRequestTarget) : ∃ tail,
      joinParts (primaryParts policy r host target) ++ varySuffix r varyHeaders = lit "path=" ++ target.path ++ tail ∧
      ((policy.hasMoreLines = true ∧ ∃ t, tail = '\n' :: t) ∨ (policy.hasMoreLines = false ∧ Fields.EndsAt '\x00' tail)) := by
  obtain ⟨others, hc, hmo⟩ := primaryParts_cons policy r
  rw [hc]
  cases others with
  | nil =>
    refine ⟨varySuffix r varyHeaders, by simp [joinParts, joinWith, Fields.render], .inr ⟨hmo.1 rfl, ?_⟩⟩
    unfold varySuffix
    split_ifs
    · exact .inl rfl
    · exact .inr ⟨_, rfl⟩
  | cons part others =>
    refine ⟨'\n' :: (joinParts (part :: others) ++ varySuffix r varyHeaders), ?_, .inl ⟨?_, _, rfl⟩⟩
    · simp [joinParts, joinWith, Fields.render, List.intercalate_cons_cons, lit]
    · cases hm : policy.hasMoreLines with
      | true => rfl
      | false => cases hmo.2 hm

/-- **The path read off a built key is its path's line.** -/
theorem BuiltFor.storedPath_eq {o : KeyOrigin} (h : BuiltFor k o) : storedPath k.bytes = some o.line := by
  obtain ⟨policy, r, vh, host, target, hkey, hpar, rfl⟩ := h
  obtain ⟨host', target', hpar', -, hby⟩ := requestStorageKey_some hkey
  cases hpar.symm.trans hpar'
  obtain ⟨tail, ht, hta⟩ := keyText_path policy r vh host target
  have hspl : lit "path=" ++ target.path ++ tail =
      lit "path=" ++ target.path.takeWhile inLine ++ (target.path.dropWhile inLine ++ tail) := by
    rw [List.append_assoc, List.append_assoc, ← List.append_assoc (target.path.takeWhile inLine), List.takeWhile_append_dropWhile]
  have hin : ∀ c ∈ target.path.takeWhile inLine, inLine c = true := fun c hc => List.mem_takeWhile_imp hc
  have hr : (target.path.dropWhile inLine ++ tail = [] ∨ (∃ t, target.path.dropWhile inLine ++ tail = '\n' :: t) ∨
      ∃ t, target.path.dropWhile inLine ++ tail = '\x00' :: t) ∧
      ((target.path.dropWhile inLine ++ tail).head? = some '\n' ↔
        (KeyOrigin.rest ⟨target.path, policy.hasMoreLines⟩).head? = some '\n') := by
    unfold KeyOrigin.rest
    rcases dropWhile_inLine target.path with hd | ⟨t, hd⟩ | ⟨t, hd⟩ <;> simp only [hd]
    · rcases hta with ⟨hm, t, rfl⟩ | ⟨hm, rfl | ⟨t, rfl⟩⟩ <;> simp [hm]
    · simp
    · simp
  rw [hby, ht, hspl, storedPath_line hin hr.1, KeyOrigin.line]
  simp only [hr.2]

/-- The line is the path, or the path goes on behind it with something other than a slash. -/
theorem KeyOrigin.line_append : ∃ x, o.path = o.line ++ x ∧ x.head? ≠ some '/' := by
  have hp : o.path = o.path.takeWhile inLine ++ o.path.dropWhile inLine := List.takeWhile_append_dropWhile.symm
  have hr : (o.path.dropWhile inLine).head? ≠ some '/' := by
    rcases dropWhile_inLine o.path with hd | ⟨t, hd⟩ | ⟨t, hd⟩ <;> rw [hd] <;> simp
  unfold KeyOrigin.line
  split_ifs
  · unfold chomp
    split_ifs with hcr
    · have hne : o.path.takeWhile inLine ≠ [] := by rintro e; rw [e] at hcr; cases hcr
      have hl : (o.path.takeWhile inLine).getLast hne = '\r' := by
        rw [List.getLast?_eq_some_getLast hne] at hcr
        exact Option.some.inj hcr
      refine ⟨'\r' :: o.path.dropWhile inLine, ?_, by simp⟩
      conv => lhs; rw [hp, ← List.dropLast_append_getLast hne, hl]
      simp
    · exact ⟨_, hp, hr⟩
  · exact ⟨_, hp, hr⟩

theorem canonicalizeRequestTarget_slash {value : Text} (h : canonicalizeRequestTarget value = .ok target) :
    target.path.head? = some '/' := by
  obtain ⟨path, -, hhead, -, -, hp, -⟩ := canonicalizeRequestTarget_ok h
  obtain ⟨rest, rfl⟩ := List.head?_eq_some_iff.1 hhead
  exact canonicalizePercentEncoded_slash hp

/-! ## Subtrees -/

/-- `x` is `p`, or continues it with a slash. -/
def AtOrBelow (p x : Text) : Prop := x = p ∨ p ++ ['/'] <+: x

instance (p x : Text) : Decidable (AtOrBelow p x) := inferInstanceAs (Decidable (x = p ∨ p ++ ['/'] <+: x))

def subtreeBase (p : Text) : Text := if p.getLast? = some '/' then p.dropLast else p

/-- The path lies in the subtree the prefix names, with or without its trailing slash. -/
def InSubtree (p q : Text) : Prop := AtOrBelow (subtreeBase p) q

instance (p q : Text) : Decidable (InSubtree p q) := inferInstanceAs (Decidable (AtOrBelow (subtreeBase p) q))

theorem AtOrBelow.isPrefix {x : Text} (h : AtOrBelow p x) : p <+: x := by
  rcases h with rfl | hb
  · exact List.prefix_rfl
  · exact (List.prefix_append _ _).trans hb

theorem AtOrBelow.cut {x line : Text} (h : AtOrBelow p x) (hl : line <+: x) (hlen : p.length ≤ line.length) : AtOrBelow p line := by
  obtain ⟨y, rfl⟩ := List.prefix_of_prefix_length_le h.isPrefix hl hlen
  obtain ⟨z, rfl⟩ := hl
  cases y with
  | nil => exact .inl (List.append_nil p)
  | cons c y =>
    rcases h with e | hb
    · exact absurd e (by simp)
    · rw [List.append_assoc, List.prefix_append_right_inj, List.cons_append, List.cons_prefix_cons] at hb
      exact .inr ((List.prefix_append_right_inj p).2 (List.cons_prefix_cons.2 ⟨hb.1, List.nil_prefix⟩))

theorem matches_iff {o : KeyOrigin} (h : BuiltFor k o) (p : Text) :
    storageKeyMatchesPathPrefix k p = true ↔ p = lit "/" ∨ AtOrBelow p o.line := by
  have hbel : (stripPrefix p o.line).any (fun suffix => suffix.head? == some '/') = true ↔ p ++ ['/'] <+: o.line := by
    unfold stripPrefix
    split_ifs with hp
    · obtain ⟨t, ht⟩ := List.isPrefixOf_iff_prefix.1 hp
      rw [← ht, List.prefix_append_right_inj]
      cases t with
      | nil => simp
      | cons c t => simp [List.cons_prefix_cons, eq_comm (a := c)]
    · refine iff_of_false (by simp) (fun hb => hp (List.isPrefixOf_iff_prefix.2 ((List.prefix_append _ _).trans hb)))
  unfold storageKeyMatchesPathPrefix
  rw [h.storedPath_eq]
  simp only [Bool.or_eq_true, beq_iff_eq, hbel, AtOrBelow]
  tauto

/-- The entry's line tells whether its path lies in the prefix's subtree: a prefix with a trailing slash is found only in
itself and before a second slash, one without must not end where the line was cut. -/
def PurgeSafe (p : Text) (o : KeyOrigin) : Prop :=
  p = lit "/" ∨
    if p.getLast? = some '/' then o.path ≠ p.dropLast ∧ (p <+: o.path → AtOrBelow p o.line)
    else (InSubtree p o.path → p.length ≤ o.line.length) ∧ (o.line = p → o.path = p)

theorem inSubtree_root {q : Text} (hq : q.head? = some '/') : InSubtree (lit "/") q := by
  obtain ⟨t, rfl⟩ := List.head?_eq_some_iff.1 hq
  exact .inr ⟨t, rfl⟩

theorem purgeSafe_of_slash {o : KeyOrigin} (hp : p.getLast? = some '/') :
    (o.path ≠ p.dropLast ∧ (p <+: o.path → AtOrBelow p o.line)) ↔ (InSubtree p o.path ↔ AtOrBelow p o.line) := by
  obtain ⟨b, rfl⟩ : ∃ b, p = b ++ ['/'] := List.getLast?_eq_some_iff.1 hp
  obtain ⟨x, hx, -⟩ := o.line_append
  have hl : o.line <+: o.path := ⟨x, hx.symm⟩
  have hba : subtreeBase (b ++ ['/']) = b := by simp [subtreeBase]
  have hsub : AtOrBelow (b ++ ['/']) o.line → b ++ ['/'] <+: o.path := fun hat => hat.isPrefix.trans hl
  unfold InSubtree
  rw [hba, List.dropLast_concat]
  constructor
  · rintro ⟨hne, hbel⟩
    exact ⟨fun hin => hbel (hin.resolve_left hne), fun hat => .inr (hsub hat)⟩
  · intro hiff
    refine ⟨fun e => ?_, fun hb => hiff.1 (.inr hb)⟩
    have hlen := (hsub (hiff.1 (.inl e))).length_le
    rw [e, List.length_append, List.length_singleton] at hlen
    omega

theorem purgeSafe_of_no_slash {o : KeyOrigin} (hp : p.getLast? ≠ some '/') :
    ((InSubtree p o.path → p.length ≤ o.line.length) ∧ (o.line = p → o.path = p)) ↔ (InSubtree p o.path ↔ AtOrBelow p o.line) := by
  obtain ⟨x, hx, hsla⟩ := o.line_append
  have hl : o.line <+: o.path := ⟨x, hx.symm⟩
  have hba : subtreeBase p = p := if_neg hp
  unfold InSubtree
  rw [hba]
  constructor
  · rintro ⟨hlen, heq⟩
    refine ⟨fun hin => hin.cut hl (hlen hin), ?_⟩
    rintro (e | hb)
    · exact .inl (heq e)
    · exact .inr (hb.trans hl)
  · intro hiff
    refine ⟨fun hin => (hiff.1 hin).isPrefix.length_le, fun e => ?_⟩
    -- a path below the prefix goes on with a slash where the line ends
    refine (hiff.2 (.inl e)).resolve_right (fun hb => hsla ?_)
    rw [hx, e, List.prefix_append_right_inj] at hb
    obtain ⟨t, rfl⟩ := hb
    rfl

/-- **The prefix is safe for an entry exactly when the key's line decides as its path does.** -/
theorem purgeSafe_iff {o : KeyOrigin} (ho : o.path.head? = some '/') :
    PurgeSafe p o ↔ (InSubtree p o.path ↔ p = lit "/" ∨ AtOrBelow p o.line) := by
  unfold PurgeSafe
  by_cases hr : p = lit "/"
  · subst hr
    exact iff_of_true (.inl rfl) (iff_of_true (inSubtree_root ho) (.inl rfl))
  · simp only [hr, false_or]
    split_ifs with hp
    · exact purgeSafe_of_slash hp
    · exact purgeSafe_of_no_slash hp

/-! ## What a purge removes -/

theorem entries_removeFromState (s : CacheStoreState) (key : HttpCacheKey) :
    (removeFromState s key).2.entries = s.entries.erase key := by
  unfold removeFromState
  split
  · rfl
  · rename_i hn
    exact (SortedMap.erase_of_none hn).symm

theorem entries_removeAll : ∀ (keys : List HttpCacheKey) (s : CacheStoreState),
    (removeAll s keys).entries = s.entries.filterKeys (fun k => k ∉ keys)
  | [], s => SortedMap.entries_injective (by simp [removeAll, SortedMap.filterKeys])
  | key :: keys, s => by
    refine SortedMap.entries_injective ?_
    change (removeAll (removeFromState s key).2 keys).entries.entries = _
    rw [entries_removeAll keys, entries_removeFromState]
    simp only [SortedMap.filterKeys, SortedMap.erase, List.filter_filter]
    refine List.filter_congr (fun e _ => ?_)
    by_cases h : e.1 = key <;> simp [h]

variable (store : HttpCacheStore)

theorem entries_purgePathPrefix (p : Text) :
    (store.purgePathPrefix p).2.state.entries = store.state.entries.filterKeys (fun k => !storageKeyMatchesPathPrefix k p) := by
  refine SortedMap.entries_injective ?_
  change (removeAll store.state _).entries.entries = _
  rw [entries_removeAll]
  refine List.filter_congr (fun e he => ?_)
  have hmem : e.1 ∈ store.state.entries.keys := List.mem_map_of_mem he
  cases hm : storageKeyMatchesPathPrefix e.1 p <;> simp [hm, hmem]

theorem purgePathPrefix_count (p : Text) :
    (store.purgePathPrefix p).1 + (store.purgePathPrefix p).2.state.entries.size = store.state.entries.size := by
  rw [entries_purgePathPrefix]
  change ((store.state.entries.entries.map (·.1)).filter _).length + (store.state.entries.entries.filter _).length = _
  rw [List.filter_map, List.length_map]
  exact (List.length_eq_length_filter_add _).symm

/-! ## Runs that remember what their keys were built for -/

/-- A call on the store; what is inserted goes under the key of a request. -/
inductive CacheCall
  | insertFor (now : ℕ) (policy : HttpCachePolicyConfig) (r : HttpCacheRequest) (varyHeaders : List Text)
      (entry : HttpCacheEntry)
  | other (op : CacheOp) (h : ∀ now key entry, op ≠ .insert now key entry)

/-- The store, and for each key the origin of the entry last stored under it. -/
structure NotedStore where
  store : HttpCacheStore
  originOf : HttpCacheKey → Option KeyOrigin

def keyedOrigin (varyHeaders : List Text) : Option (HttpCacheKey × KeyOrigin) :=
  match requestStorageKey policy r varyHeaders, canonicalParts r with
  | some k, .ok (_, target) => some (k, ⟨target.path, policy.hasMoreLines⟩)
  | _, _                    => none

def NotedStore.step (metadataSize : ℕ) (s : NotedStore) : CacheCall → NotedStore
  | .other op _ => { s with store := s.store.step metadataSize op }
  | .insertFor now policy r varyHeaders entry =>
    match keyedOrigin policy r varyHeaders with
    | none => s
    | some (k, origin) =>
      let (result, store) := s.store.insert metadataSize now k entry
      match result with
      | .error _ => { s with store }
      | .ok _    => { store, originOf := Function.update s.originOf k (some origin) }

def NotedStore.run (metadataSize : ℕ) (s : NotedStore) (calls : List CacheCall) : NotedStore :=
  calls.foldl (NotedStore.step metadataSize) s

/-- Every stored key is noted, and was built for what is noted. -/
def NotedStore.Noted (s : NotedStore) : Prop :=
  ∀ k record, s.store.state.entries.get? k = some record → ∃ o, s.originOf k = some o ∧ BuiltFor k o

theorem keyedOrigin_builtFor {policy : HttpCachePolicyConfig} {r : HttpCacheRequest} {varyHeaders : List Text} {o : KeyOrigin}
    (h : keyedOrigin policy r varyHeaders = some (k, o)) : BuiltFor k o := by
  unfold keyedOrigin at h
  split at h
  · rename_i k' host target hkey hpar
    cases h
    exact ⟨policy, r, varyHeaders, host, target, hkey, hpar, rfl⟩
  · cases h

theorem step_stored {store : HttpCacheStore} {op : CacheOp} {record : CacheRecord}
    (hop : ∀ now entry, op ≠ .insert now k entry) (h : (store.step metadataSize op).state.entries.get? k = some record) :
    ∃ record₀, store.state.entries.get? k = some record₀ := by
  rcases step_record h with ⟨-, h₀⟩ | ⟨-, hu⟩
  · exact ⟨record, h₀⟩
  · cases hu with
    | hit now r₀ _ hg => exact ⟨r₀, hg⟩
    | inserted now entry he => exact absurd he (hop now entry)

theorem NotedStore.Noted.step {s : NotedStore} (hs : s.Noted) (call : CacheCall) : (s.step metadataSize call).Noted := by
  intro k record hk
  cases call with
  | other op hop =>
    obtain ⟨record₀, h₀⟩ := step_stored (fun now entry => hop now k entry) hk
    exact hs k record₀ h₀
  | insertFor now policy r vh entry =>
    cases ho : keyedOrigin policy r vh with
    | none =>
      simp only [NotedStore.step, ho] at hk ⊢
      exact hs k record hk
    | some keyed =>
      obtain ⟨k', o⟩ := keyed
      have hrec : (s.store.step metadataSize (.insert now k' entry)).state.entries.get? k = some record := by
        simp only [NotedStore.step, ho] at hk
        cases hi : (s.store.insert metadataSize now k' entry).1 <;> simp only [hi] at hk <;> exact hk
      simp only [NotedStore.step, ho]
      cases hi : (s.store.insert metadataSize now k' entry).1 with
      | error e =>
        rcases step_record hrec with ⟨-, h₀⟩ | ⟨hu, -⟩
        · exact hs k record h₀
        · simp [usedKey, hi] at hu
      | ok rr =>
        rcases step_record hrec with ⟨hu, h₀⟩ | ⟨hu, -⟩
        · have hne : k ≠ k' := by rintro rfl; simp [usedKey, hi] at hu
          obtain ⟨o₀, h₁, hb⟩ := hs k record h₀
          exact ⟨o₀, (Function.update_of_ne hne ..).trans h₁, hb⟩
        · have e : k' = k := by simpa [usedKey, hi] using hu
          subst e
          exact ⟨o, Function.update_self .., keyedOrigin_builtFor ho⟩

theorem NotedStore.Noted.run : ∀ (calls : List CacheCall) {s : NotedStore}, s.Noted → (s.run metadataSize calls).Noted
  | [], _, hs => hs
  | call :: calls, _, hs => NotedStore.Noted.run calls (hs.step call)

def NotedStore.new (config : HttpCacheStoreConfig) : Except HttpCacheStoreError NotedStore :=
  (HttpCacheStore.new config).map (fun store => { store, originOf := fun _ => none })

theorem NotedStore.Noted.new {config : HttpCacheStoreConfig} {s : NotedStore} (h : NotedStore.new config = .ok s) : s.Noted := by
  intro k record hk
  cases hn : HttpCacheStore.new config with
  | error e => rw [NotedStore.new, hn] at h; cases h
  | ok store =>
    rw [NotedStore.new, hn] at h
    cases h
    obtain ⟨-, rfl⟩ := HttpCacheStore.new_ok hn
    cases hk

/-- **The purge removes the subtree, nothing else, and counts what it removed.** -/
structure PurgeExact (s : NotedStore) (p : Text) : Prop where
  complete : ∀ k o, s.originOf k = some o → InSubtree p o.path → (s.store.purgePathPrefix p).2.state.entries.get? k = none
  unchanged : ∀ k, (∀ o, s.originOf k = some o → ¬ InSubtree p o.path) →
    (s.store.purgePathPrefix p).2.state.entries.get? k = s.store.state.entries.get? k
  count : (s.store.purgePathPrefix p).1 + (s.store.purgePathPrefix p).2.state.entries.size = s.store.state.entries.size

theorem get?_purgePathPrefix (p : Text) (k : HttpCacheKey) : (store.purgePathPrefix p).2.state.entries.get? k =
      if storageKeyMatchesPathPrefix k p then none else store.state.entries.get? k := by
  rw [entries_purgePathPrefix, SortedMap.get?_filterKeys]
  cases storageKeyMatchesPathPrefix k p <;> rfl

theorem BuiltFor.slash {o : KeyOrigin} (h : BuiltFor k o) : o.path.head? = some '/' := by
  obtain ⟨policy, r, vh, host, target, -, hpar, rfl⟩ := h
  exact canonicalizeRequestTarget_slash (canonicalParts_ok hpar).2

variable {s : NotedStore}

theorem NotedStore.Noted.safe_iff (hs : s.Noted) {record : CacheRecord} {o : KeyOrigin}
    (hk : s.store.state.entries.get? k = some record) (ho : s.originOf k = some o) (p : Text) :
    PurgeSafe p o ↔ (InSubtree p o.path ↔ storageKeyMatchesPathPrefix k p = true) := by
  obtain ⟨o', ho', hb⟩ := hs k record hk
  cases ho.symm.trans ho'
  rw [purgeSafe_iff hb.slash, matches_iff hb]

theorem purgeExact_iff (hs : s.Noted) (p : Text) :
    PurgeExact s p ↔ ∀ k record o, s.store.state.entries.get? k = some record → s.originOf k = some o → PurgeSafe p o := by
  constructor
  · intro hexa k record o hk ho
    have hget := get?_purgePathPrefix s.store p k
    rw [hk] at hget
    rw [hs.safe_iff hk ho]
    constructor
    · intro hin
      by_contra hm
      rw [if_neg hm, hexa.complete k o ho hin] at hget
      cases hget
    · intro hm
      by_contra hin
      rw [if_pos hm, hexa.unchanged k (fun o₁ h₁ => by cases ho.symm.trans h₁; exact hin), hk] at hget
      cases hget
  · intro hsa
    refine ⟨fun k o ho hin => ?_, fun k hout => ?_, purgePathPrefix_count s.store p⟩
    · rw [get?_purgePathPrefix]
      cases hk : s.store.state.entries.get? k with
      | none => exact ite_self _
      | some record => exact if_pos (((hs.safe_iff hk ho p).1 (hsa k record o hk ho)).1 hin)
    · rw [get?_purgePathPrefix]
      cases hk : s.store.state.entries.get? k with
      | none => exact ite_self _
      | some record =>
        obtain ⟨o, ho, -⟩ := hs k record hk
        exact if_neg (fun hm => hout o ho (((hs.safe_iff hk ho p).1 (hsa k record o hk ho)).2 hm))

/-- **A purge is exact precisely when the prefix is safe for every stored entry**, in every store reached by insertions of
built keys and any other calls. -/
theorem purgePathPrefix_exact_iff (metadataSize : ℕ) (config : HttpCacheStoreConfig) (s : NotedStore)
    (hnew : NotedStore.new config = .ok s) (calls : List CacheCall) (p : Text) :
    PurgeExact (s.run metadataSize calls) p ↔
      ∀ k record o, (s.run metadataSize calls).store.state.entries.get? k = some record →
        (s.run metadataSize calls).originOf k = some o → PurgeSafe p o :=
  purgeExact_iff (NotedStore.Noted.run calls (NotedStore.Noted.new hnew)) p

def storedOne (target : String) : NotedStore :=
  NotedStore.run 8 ⟨pairStore, fun _ => none⟩ [.insertFor 0 {} (requestFor "GET" target) [] smallEntry]

/-- The prefix `/a/` is accepted, and purges nothing of an entry stored for `/a/x`. -/
theorem purgePathPrefix_misses : NotedStore.new ⟨2, 100, 50⟩ = .ok ⟨pairStore, fun _ => none⟩ ∧
    validatePathPrefix (lit "/a/") = .ok () ∧ ((storedOne "/a/x").store.purgePathPrefix (lit "/a/")).1 = 0 ∧
    ¬ PurgeExact (storedOne "/a/x") (lit "/a/") := by
  refine ⟨rfl, by decide, by decide +kernel, fun h => ?_⟩
  have hk := h.complete ⟨utf8 (lit "path=/a/x\nhost=a\nquery="), by decide +kernel⟩ ⟨lit "/a/x", true⟩ (by decide +kernel)
    (by decide +kernel)
  exact absurd hk (by decide +kernel)

theorem purgePathPrefix_exact_bare : PurgeExact (storedOne "/a/x") (lit "/a") := by
  refine (purgePathPrefix_exact_iff 8 ⟨2, 100, 50⟩ ⟨pairStore, fun _ => none⟩ rfl
    [.insertFor 0 {} (requestFor "GET" "/a/x") [] smallEntry] (lit "/a")).2 (fun k record o hk ho => ?_)
  have hke : (storedOne "/a/x").store.state.entries.keys =
      [⟨utf8 (lit "path=/a/x\nhost=a\nquery="), by decide +kernel⟩] := by decide +kernel
  have hmem : k ∈ (storedOne "/a/x").store.state.entries.keys := List.mem_map_of_mem (SortedMap.get?_eq_some.1 hk)
  rw [hke, List.mem_singleton] at hmem
  subst hmem
  have hori : (storedOne "/a/x").originOf ⟨utf8 (lit "path=/a/x\nhost=a\nquery="), by decide +kernel⟩ =
      some ⟨lit "/a/x", true⟩ := by decide +kernel
  cases ho.symm.trans hori
  exact .inr (by decide +kernel)

end WayBalancer
