import WayBalancer.CacheKey
/-!
# CacheKeySpec — what equal storage keys say about their requests

A storage key is the UTF-8 of labelled lines, a NUL, and the labelled lines of the vary headers.  Values without the
delimiters are read back from it, so two requests with one key agree in every part the policy puts into the key.  The query
is the exception: a lone pair with neither name nor value renders as no query does.
-/
namespace WayBalancer

open Str
open List (append_inj' map_map mem_cons mem_map)

variable {k : HttpCacheKey} {r r' : HttpCacheRequest} {varyHeaders : List Text} {policy : HttpCachePolicyConfig}
  {host value : Text} {target target' : CanonicalRequestTarget} {hs : List HttpHeader} {part : Text × Text}

/-! ## The key as text -/

def varySuffix (r : HttpCacheRequest) (varyHeaders : List Text) : Text :=
  if varyHeaders.isEmpty then [] else '\x00' :: joinParts (varyParts r varyHeaders)

theorem HttpCacheKey.new_ok {bytes : Crlf.Bytes} (h : HttpCacheKey.new bytes = .ok k) : k.bytes = bytes := by
  unfold HttpCacheKey.new at h
  split at h
  · cases h
  · cases h; rfl

variable {m : HttpCacheKeyMaterial}

theorem HttpCacheKeyMaterial.storageKey_ok (h : m.storageKey = .ok k) :
    k.bytes = m.primary.bytes ++ m.secondary.elim [] (fun secondary => 0 :: secondary.bytes) := by
  rw [HttpCacheKey.new_ok h]
  cases m.secondary with
  | none => exact (List.append_nil _).symm
  | some secondary => rfl

theorem secondaryKey_ok {secondary : Option HttpCacheKey} (h : secondaryKey r varyHeaders = .ok secondary) :
    secondary.elim [] (fun secondary => 0 :: secondary.bytes) = utf8 (varySuffix r varyHeaders) := by
  unfold secondaryKey at h
  unfold varySuffix
  split_ifs at h ⊢ with hemp
  · cases h; rfl
  · cases hk : HttpCacheKey.new (utf8 (joinParts (varyParts r varyHeaders))) with
    | error e => rw [hk] at h; cases h
    | ok k =>
      rw [hk] at h
      cases h
      change 0 :: k.bytes = _
      rw [HttpCacheKey.new_ok hk]
      rfl

theorem buildHttpCacheKeyMaterial_some (h : buildHttpCacheKeyMaterial policy r varyHeaders = .ok (some m)) :
    ∃ host target, canonicalParts r = .ok (host, target) ∧ (policy.authorization = .bypass → r.authorizationHeader = none) ∧
      m.primary.bytes = utf8 (joinParts (primaryParts policy r host target)) ∧
      secondaryKey r varyHeaders = .ok m.secondary := by
  unfold buildHttpCacheKeyMaterial at h
  cases hpar : canonicalParts r with
  | error e => rw [hpar] at h; cases h
  | ok parts =>
    obtain ⟨host, target⟩ := parts
    simp only [hpar, bind, Except.bind] at h
    split_ifs at h with ha hcoo
    · cases h
    · cases h
    cases hs : secondaryKey r varyHeaders with
    | error e => rw [hs] at h; cases h
    | ok secondary =>
      cases hp : HttpCacheKey.new (utf8 (joinParts (primaryParts policy r host target))) with
      | error e => rw [hs, hp] at h; cases h
      | ok primary =>
        rw [hs, hp] at h
        cases h
        refine ⟨host, target, rfl, fun hb => ?_, HttpCacheKey.new_ok hp, rfl⟩
        rw [← Option.not_isSome_iff_eq_none]
        exact fun hso => ha ⟨hso, hb⟩

/-- **The storage key is text**: the primary lines, then the vary lines behind a NUL. -/
theorem requestStorageKey_some (h : requestStorageKey policy r varyHeaders = some k) :
    ∃ host target, canonicalParts r = .ok (host, target) ∧ (policy.authorization = .bypass → r.authorizationHeader = none) ∧
      k.bytes = utf8 (joinParts (primaryParts policy r host target) ++ varySuffix r varyHeaders) := by
  unfold requestStorageKey at h
  split at h
  · rename_i m hm
    obtain ⟨host, target, hpar, ha, hp, hsec⟩ := buildHttpCacheKeyMaterial_some hm
    refine ⟨host, target, hpar, ha, ?_⟩
    cases hk : m.storageKey with
    | error e => rw [hk] at h; cases h
    | ok k' =>
      rw [hk] at h
      cases h
      rw [HttpCacheKeyMaterial.storageKey_ok hk, utf8_append, hp, secondaryKey_ok hsec]
  · cases h

theorem canonicalParts_ok (h : canonicalParts r = .ok (host, target)) :
    (∃ hostHeader, extractHostHeader r.headers = some hostHeader ∧ canonicalizeHost hostHeader = .ok host) ∧
      canonicalizeRequestTarget r.target = .ok target := by
  unfold canonicalParts at h
  split at h
  · cases h
  rename_i hostHeader hh
  split at h
  · cases h
  rename_i host' hho
  split at h
  · cases h
  rename_i target' htgt
  split at h
  · split_ifs at h
    cases h
    exact ⟨⟨hostHeader, hh, hho⟩, htgt⟩
  · cases h
    exact ⟨⟨hostHeader, hh, hho⟩, htgt⟩

/-! ## Delimiters in the parts -/

def delimiters : Text := ['\n', '\x00', '\x1f']

/-- A request none of whose parts holds a delimiter. -/
def HttpCacheRequest.Plain (r : HttpCacheRequest) : Prop :=
  ∀ d ∈ delimiters, d ∉ r.method ∧ d ∉ r.target ∧ ∀ h ∈ r.headers, d ∉ h.value

instance (r : HttpCacheRequest) : Decidable r.Plain :=
  List.decidableBAll (fun d => d ∉ r.method ∧ d ∉ r.target ∧ ∀ h ∈ r.headers, d ∉ h.value) delimiters

section
variable {d : Char}

theorem mem_delimiters : d ∈ delimiters ↔ d = '\n' ∨ d = '\x00' ∨ d = '\x1f' := by simp [delimiters]

theorem delimiter_control (hd : d ∈ delimiters) : d.toNat < 32 := by
  rcases mem_delimiters.1 hd with rfl | rfl | rfl <;> decide

theorem delimiter_not_escape (hd : d ∈ delimiters) : d ∉ '/' :: '&' :: '=' :: ',' :: escapeChars := by
  rcases mem_delimiters.1 hd with rfl | rfl | rfl <;> decide

theorem mem_of_mem_lower_trim {s : Text} (hd : d.toNat < 32) (h : d ∈ lower (trim s)) : d ∈ s := by
  obtain ⟨c, hc, e⟩ := mem_map.1 h
  rw [← toLower_of_control hd e]
  exact mem_of_mem_trim hc

theorem mem_of_mem_canonicalizeHost (h : canonicalizeHost value = .ok host) (hd : d.toNat < 32) (hm : d ∈ host) : d ∈ value := by
  unfold canonicalizeHost at h
  dsimp only at h
  split_ifs at h <;> cases h
  · exact mem_of_mem_lower_trim hd (List.dropLast_subset _ hm)
  · exact mem_of_mem_lower_trim hd hm

theorem mem_of_mem_path (h : canonicalizeRequestTarget value = .ok target) (hd : d ∈ delimiters) (hm : d ∈ target.path) :
    d ∈ value := by
  have hesc := delimiter_not_escape hd
  have hlt := delimiter_control hd
  obtain ⟨path, -, -, hsub, -, hp, -⟩ := canonicalizeRequestTarget_ok h
  have hin : d ∈ path := mem_canonicalizePercentEncoded hp (by omega) (by simp_all) hm
  exact (mem_cons.1 (hsub hin)).resolve_left (by simp_all)

theorem mem_of_mem_canonicalQuery (h : canonicalizeRequestTarget value = .ok target) (hd : d ∈ delimiters)
    (hm : d ∈ target.canonicalQuery) : d ∈ value := by
  have hesc := delimiter_not_escape hd
  have hlt := delimiter_control hd
  obtain ⟨-, query, -, -, hsub, -, hque⟩ := canonicalizeRequestTarget_ok h
  rcases Fields.mem_intercalate hm with rfl | ⟨piece, hpie, hm⟩
  · exact absurd hd (by decide)
  obtain ⟨pair, hp, rfl⟩ := mem_map.1 hpie
  have hin : d ∈ query := by
    refine (canonicalizeQueryPairs_plain hque hp).2.2.2 d (by omega) (by simp_all) ?_
    rcases mem_renderPair hm with hm | rfl | hm
    · exact .inl hm
    · exact absurd hd (by decide)
    · exact .inr hm
  exact (mem_cons.1 (hsub hin)).resolve_left (by simp_all)

theorem mem_of_mem_canonicalValueList {name : Text} (hd : d.toNat < 32) (hv : value ∈ canonicalValueList hs name)
    (hm : d ∈ value) : ∃ h ∈ hs, d ∈ h.value := by
  have hv' := ((List.perm_insertionSort (· ≤ ·) _).mem_iff).1 hv
  obtain ⟨token, htok, rfl⟩ := mem_map.1 hv'
  obtain ⟨member, hmem, rfl⟩ := mem_map.1 (List.mem_of_mem_filter htok)
  obtain ⟨h, hh, hpie⟩ := List.mem_flatMap.1 hmem
  exact ⟨h, List.mem_of_mem_filter hh, (mem_splitOn hpie).2 (mem_of_mem_lower_trim hd hm)⟩

theorem mem_of_mem_canonicalHeaderValues {name : Text} (hd : d.toNat < 31) (hm : d ∈ canonicalHeaderValues hs name) :
    ∃ h ∈ hs, d ∈ h.value := by
  rcases Fields.mem_intercalate hm with rfl | ⟨value, hval, hm⟩
  · exact absurd hd (by decide)
  · exact mem_of_mem_canonicalValueList (by omega) hval hm

theorem authorizationPart_plain (r : HttpCacheRequest) (hd : d ∈ delimiters) : d ∉ r.authorizationPart := by
  have hp : d ∉ lit "0123456789abcdef" ∧ d ∉ lit "anonymous" := by
    rcases mem_delimiters.1 hd with rfl | rfl | rfl <;> decide
  unfold HttpCacheRequest.authorizationPart
  split
  · exact fun hm => hp.1 (mem_hexPadded hm)
  · exact hp.2

theorem primaryParts_plain (hr : r.Plain) (hpar : canonicalParts r = .ok (host, target)) (hd : d ∈ delimiters)
    (hlt : d.toNat < 31) (hp : part ∈ primaryParts policy r host target) : d ∉ part.2 := by
  obtain ⟨⟨hostHeader, hh, hho⟩, htgt⟩ := canonicalParts_ok hpar
  obtain ⟨hme, ht, hhs⟩ := hr d hd
  simp only [primaryParts, List.mem_append, List.mem_ite_nil_right, List.mem_singleton, mem_map] at hp
  rcases hp with ((((rfl | ⟨-, rfl⟩) | ⟨-, rfl⟩) | ⟨-, rfl⟩) | ⟨-, rfl⟩) | ⟨name, -, rfl⟩
  · exact fun hm => ht (mem_of_mem_path htgt hd hm)
  · obtain ⟨h, hf, rfl⟩ := Option.map_eq_some_iff.1 hh
    exact fun hm => hhs h (List.mem_of_find?_eq_some hf) (mem_of_mem_canonicalizeHost hho (by omega) hm)
  · intro hm
    obtain ⟨c, hc, e⟩ := mem_map.1 hm
    rw [toUpper_of_control (by omega) e] at hc
    exact hme (mem_of_mem_trim hc)
  · exact fun hm => ht (mem_of_mem_canonicalQuery htgt hd hm)
  · exact authorizationPart_plain r hd
  · intro hm
    obtain ⟨h, hin, hv⟩ := mem_of_mem_canonicalHeaderValues hlt hm
    exact hhs h hin hv

theorem varyParts_plain (hr : r.Plain) (hd : d ∈ delimiters) (hlt : d.toNat < 31) (hp : part ∈ varyParts r varyHeaders) :
    d ∉ part.2 := by
  obtain ⟨name, -, rfl⟩ := mem_map.1 hp
  intro hm
  obtain ⟨h, hin, hv⟩ := mem_of_mem_canonicalHeaderValues hlt hm
  exact (hr d hd).2.2 h hin hv

end

/-! ## Reading the parts back -/

/-- A query of one pair with neither name nor value, as of the target `/?=`. -/
def loneEmptyPair : List (Text × Text) := [([], [])]

theorem renderPair_eq (pair : Text × Text) :
    ∃ tail, Fields.EndsAt '=' tail ∧ renderPair pair = pair.1 ++ tail ∧ pair.2 = tail.drop 1 := by
  obtain ⟨name, value⟩ := pair
  cases value with
  | nil => exact ⟨[], .inl rfl, (List.append_nil _).symm, rfl⟩
  | cons c value => exact ⟨'=' :: c :: value, .inr ⟨_, rfl⟩, rfl, rfl⟩

theorem renderPair_inj {a b : Text × Text} (ha : '=' ∉ a.1) (hb : '=' ∉ b.1) (h : renderPair a = renderPair b) : a = b := by
  obtain ⟨x, hx, ex, e2⟩ := renderPair_eq a
  obtain ⟨y, hy, ey, f2⟩ := renderPair_eq b
  obtain ⟨hn, hxy⟩ := Fields.append_inj_of_stop ha hb hx hy (ex.symm.trans (h.trans ey))
  exact Prod.ext hn (by rw [e2, f2, hxy])

variable {query : Text}

theorem canonicalizeQueryPairs_render {pairs : List (Text × Text)} (h : canonicalizeQueryPairs query = .ok pairs)
    (hne : pairs ≠ loneEmptyPair) : (∀ p ∈ pairs.map renderPair, '&' ∉ p) ∧ pairs.map renderPair ≠ [[]] := by
  refine ⟨amp_notMem_renderPair h, fun hmap => hne ?_⟩
  obtain ⟨pair, rfl, hp⟩ := List.map_eq_singleton_iff.1 hmap
  have e : pair = ([], []) := renderPair_inj (canonicalizeQueryPairs_plain h (by simp)).1 (by simp) hp
  rw [e, loneEmptyPair]

theorem canonicalQuery_inj {query' : Text} (h : canonicalizeQueryPairs query = .ok target.queryPairs)
    (h' : canonicalizeQueryPairs query' = .ok target'.queryPairs) (hne : target.queryPairs ≠ loneEmptyPair)
    (hne' : target'.queryPairs ≠ loneEmptyPair) (e : target.canonicalQuery = target'.canonicalQuery) :
    target.queryPairs = target'.queryPairs := by
  obtain ⟨hamp, hl⟩ := canonicalizeQueryPairs_render h hne
  obtain ⟨hamp', hl'⟩ := canonicalizeQueryPairs_render h' hne'
  exact Fields.map_inj_on (fun a ha b hb => renderPair_inj (canonicalizeQueryPairs_plain h ha).1
    (canonicalizeQueryPairs_plain h' hb).1) (Fields.intercalate_inj hamp hamp' hl hl' e)

theorem canonicalHeaderValues_inj {hs' : List HttpHeader} {name : Text} (hp : ∀ h ∈ hs, '\x1f' ∉ h.value)
    (hp' : ∀ h ∈ hs', '\x1f' ∉ h.value) (e : canonicalHeaderValues hs name = canonicalHeaderValues hs' name) :
    canonicalValueList hs name = canonicalValueList hs' name := by
  have hne : ∀ {l : List HttpHeader}, canonicalValueList l name ≠ [[]] := by
    intro l hl
    have hnil : [] ∈ canonicalValueList l name := by rw [hl]; simp
    obtain ⟨token, htok, hlow⟩ := mem_map.1 (((List.perm_insertionSort (· ≤ ·) _).mem_iff).1 hnil)
    rw [List.map_eq_nil_iff.1 hlow] at htok
    simpa using List.of_mem_filter htok
  refine Fields.intercalate_inj ?_ ?_ hne hne e <;> intro value hv hm
  · obtain ⟨h, hin, hm⟩ := mem_of_mem_canonicalValueList (by decide) hv hm
    exact hp h hin hm
  · obtain ⟨h, hin, hm⟩ := mem_of_mem_canonicalValueList (by decide) hv hm
    exact hp' h hin hm

def HttpCacheRequest.authorizationPartition (r : HttpCacheRequest) : Option UInt64 :=
  r.authorizationHeader.map (fun header => stableHash (trim header.value))

theorem authorizationPart_inj (h : r.authorizationPart = r'.authorizationPart) :
    r.authorizationPartition = r'.authorizationPartition := by
  have hlen : ∀ value, stableHexHash value ≠ lit "anonymous" := fun value e => by
    have hl := congrArg List.length e
    rw [stableHexHash, length_hexPadded] at hl
    exact absurd hl (by decide)
  have hh : ∀ {v v'}, stableHexHash v = stableHexHash v' → stableHash v = stableHash v' := fun e =>
    UInt64.toNat_inj.1 (hexPadded_inj (UInt64.toNat_lt _) (UInt64.toNat_lt _) e)
  unfold HttpCacheRequest.authorizationPart at h
  unfold HttpCacheRequest.authorizationPartition
  cases ha : r.authorizationHeader with
  | none =>
    cases hb : r'.authorizationHeader with
    | none => rfl
    | some b => rw [ha, hb] at h; exact absurd h.symm (hlen _)
  | some a =>
    cases hb : r'.authorizationHeader with
    | none => rw [ha, hb] at h; exact absurd h (hlen _)
    | some b => rw [ha, hb] at h; exact congrArg some (hh h)

theorem primaryParts_labels (policy : HttpCachePolicyConfig) (r r' : HttpCacheRequest) (host host' : Text)
    (target target' : CanonicalRequestTarget) :
    (primaryParts policy r host target).map (·.1) = (primaryParts policy r' host' target').map (·.1) := by
  simp only [primaryParts, List.map_append, apply_ite (List.map _), List.map_cons, List.map_nil, map_map, Function.comp_def]

theorem varyParts_labels (r r' : HttpCacheRequest) (varyHeaders : List Text) :
    (varyParts r varyHeaders).map (·.1) = (varyParts r' varyHeaders).map (·.1) := by
  simp only [varyParts, map_map, Function.comp_def]

/-- Two requests, with the host and the target each of them names, agree in what the policy puts into the key. -/
structure SameCacheKeyParts (policy : HttpCachePolicyConfig) (varyHeaders : List Text) (r r' : HttpCacheRequest)
    (host host' : Text) (target target' : CanonicalRequestTarget) : Prop where
  path : target.path = target'.path
  query : policy.cacheKey.query = .includeAll → target.queryPairs ≠ loneEmptyPair → target'.queryPairs ≠ loneEmptyPair →
    target.queryPairs = target'.queryPairs
  method : policy.cacheKey.includeMethod = true → r.canonicalMethod = r'.canonicalMethod
  host : policy.cacheKey.includeHost = true → host = host'
  authorization : r.authorizationPartition = r'.authorizationPartition
  headers : ∀ name ∈ selectedHeaderNames policy.cacheKey.headers [],
    canonicalValueList r.headers name = canonicalValueList r'.headers name
  vary : ∀ name ∈ selectedHeaderNames varyHeaders [], canonicalValueList r.headers name = canonicalValueList r'.headers name

theorem optionalPart_inj {P : Prop} [Decidable P] {part' : Text × Text}
    (h : (if P then [part] else []) = if P then [part'] else []) (hP : P) : part.2 = part'.2 := by
  rw [if_pos hP, if_pos hP] at h
  rw [(List.cons.inj h).1]

theorem headerParts_inj {names : List Text} {label : Text → Text} {value value' : Text → Text}
    (h : names.map (fun name => (label name, value name)) = names.map (fun name => (label name, value' name))) :
    ∀ name ∈ names, value name = value' name := fun name hn => congrArg Prod.snd (List.map_inj_left.1 h name hn)

variable {host' : Text}

theorem primaryParts_inj (h : primaryParts policy r host target = primaryParts policy r' host' target') :
    target.path = target'.path ∧ (policy.cacheKey.includeHost = true → host = host') ∧
      (policy.cacheKey.includeMethod = true → r.canonicalMethod = r'.canonicalMethod) ∧
      (policy.cacheKey.query = .includeAll → target.canonicalQuery = target'.canonicalQuery) ∧
      (policy.authorization = .partition → r.authorizationPart = r'.authorizationPart) ∧
      ∀ name ∈ selectedHeaderNames policy.cacheKey.headers [],
        canonicalHeaderValues r.headers name = canonicalHeaderValues r'.headers name := by
  have hite : ∀ {P : Prop} [Decidable P] {a b : Text × Text}, (if P then [a] else []).length = (if P then [b] else []).length :=
    fun {P} _ {a b} => by split_ifs <;> rfl
  obtain ⟨h, hhs⟩ := append_inj' h (by rw [List.length_map, List.length_map])
  obtain ⟨h, ha⟩ := append_inj' h hite
  obtain ⟨h, hque⟩ := append_inj' h hite
  obtain ⟨h, hm⟩ := append_inj' h hite
  obtain ⟨h, hh⟩ := append_inj' h hite
  exact ⟨congrArg Prod.snd (List.cons.inj h).1, optionalPart_inj hh, optionalPart_inj hm, optionalPart_inj hque,
    optionalPart_inj ha, headerParts_inj hhs⟩

theorem keyText_inj (hr : r.Plain) (hr' : r'.Plain) (hp : canonicalParts r = .ok (host, target))
    (hp' : canonicalParts r' = .ok (host', target')) (h : joinParts (primaryParts policy r host target) ++ varySuffix r varyHeaders =
      joinParts (primaryParts policy r' host' target') ++ varySuffix r' varyHeaders) :
    primaryParts policy r host target = primaryParts policy r' host' target' ∧ varyParts r varyHeaders = varyParts r' varyHeaders := by
  have he : ∀ q : HttpCacheRequest, Fields.EndsAt '\x00' (varySuffix q varyHeaders) := fun q => by
    unfold varySuffix
    split_ifs
    · exact .inl rfl
    · exact .inr ⟨_, rfl⟩
  obtain ⟨hpr, hsuf⟩ := Fields.joined_inj (primaryParts_labels ..)
    (fun part hm => ⟨primaryParts_plain hr hp (by decide) (by decide) hm, primaryParts_plain hr hp (by decide) (by decide) hm⟩)
    (fun part hm => ⟨primaryParts_plain hr' hp' (by decide) (by decide) hm,
      primaryParts_plain hr' hp' (by decide) (by decide) hm⟩) (he r) (he r') h
  refine ⟨hpr, ?_⟩
  unfold varySuffix at hsuf
  split_ifs at hsuf with hemp
  · rw [List.isEmpty_iff.1 hemp]
    rfl
  · have hj : joinParts (varyParts r varyHeaders) ++ [] = joinParts (varyParts r' varyHeaders) ++ [] := by
      rw [(List.cons.inj hsuf).2]
    exact (Fields.joined_inj (varyParts_labels ..)
      (fun part hm => ⟨varyParts_plain hr (by decide) (by decide) hm, varyParts_plain hr (by decide) (by decide) hm⟩)
      (fun part hm => ⟨varyParts_plain hr' (by decide) (by decide) hm, varyParts_plain hr' (by decide) (by decide) hm⟩)
      (.inl rfl : Fields.EndsAt '\x00' []) (.inl rfl) hj).1

/-- **Two plain requests with one storage key agree in every part the policy puts into it.** -/
theorem storageKey_agrees (policy : HttpCachePolicyConfig) (varyHeaders : List Text) (r r' : HttpCacheRequest)
    (k : HttpCacheKey) (hr : r.Plain) (hr' : r'.Plain) (h : requestStorageKey policy r varyHeaders = some k)
    (h' : requestStorageKey policy r' varyHeaders = some k) :
    ∃ host host' target target', canonicalParts r = .ok (host, target) ∧ canonicalParts r' = .ok (host', target') ∧
      SameCacheKeyParts policy varyHeaders r r' host host' target target' := by
  obtain ⟨host, target, hp, ha, hk⟩ := requestStorageKey_some h
  obtain ⟨host', target', hp', ha', hk'⟩ := requestStorageKey_some h'
  obtain ⟨hpr, hv⟩ := keyText_inj hr hr' hp hp' (utf8_injective (hk.symm.trans hk'))
  obtain ⟨hpa, hh, hm, hque, hpart, hhs⟩ := primaryParts_inj hpr
  have hu : ∀ {q : HttpCacheRequest}, q.Plain → ∀ h ∈ q.headers, '\x1f' ∉ h.value := fun hq => (hq _ (by decide)).2.2
  refine ⟨host, host', target, target', hp, hp', ⟨hpa, fun hall hne hne' => ?_, hm, hh, ?_, fun name hn => ?_,
    fun name hn => ?_⟩⟩
  · obtain ⟨-, query, -, -, -, -, hq⟩ := canonicalizeRequestTarget_ok (canonicalParts_ok hp).2
    obtain ⟨-, query', -, -, -, -, hq'⟩ := canonicalizeRequestTarget_ok (canonicalParts_ok hp').2
    exact canonicalQuery_inj hq hq' hne hne' (hque hall)
  · cases hb : policy.authorization with
    | bypass => rw [HttpCacheRequest.authorizationPartition, HttpCacheRequest.authorizationPartition, ha hb, ha' hb]
    | partition => exact authorizationPart_inj (hpart hb)
  · exact canonicalHeaderValues_inj (hu hr) (hu hr') (hhs name hn)
  · exact canonicalHeaderValues_inj (hu hr) (hu hr') (headerParts_inj hv name hn)

def requestFor (method target : String) : HttpCacheRequest := ⟨lit method, lit target, [⟨lit "host", lit "a"⟩]⟩

theorem storageKey_agrees_reordered : ∃ host host' target target',
    canonicalParts (requestFor "GET" "/p?b=1&a") = .ok (host, target) ∧
      canonicalParts (requestFor "GET" "/p?a=&b=1") = .ok (host', target') ∧
      SameCacheKeyParts {} [lit "accept"] (requestFor "GET" "/p?b=1&a") (requestFor "GET" "/p?a=&b=1") host host'
        target target' :=
  storageKey_agrees {} [lit "accept"] _ _ ⟨utf8 (lit "path=/p\nhost=a\nquery=a&b=1\x00vary:accept="), by decide +kernel⟩
    (by decide +kernel) (by decide +kernel) (by decide +kernel) (by decide +kernel)

/-- Requests of two methods share a key where the policy leaves the method out, as it does by default, and requests with two
queries where it ignores the query; and a lone `=` for a query is keyed as none. -/
theorem storageKey_collides :
    let ignoring : HttpCachePolicyConfig := { cacheKey := { query := .ignoreAll } }
    ((requestFor "GET" "/").Plain ∧ (requestFor "HEAD" "/").Plain ∧ (requestStorageKey {} (requestFor "GET" "/") []).isSome ∧
      requestStorageKey {} (requestFor "GET" "/") [] = requestStorageKey {} (requestFor "HEAD" "/") [] ∧
      (requestFor "GET" "/").canonicalMethod ≠ (requestFor "HEAD" "/").canonicalMethod) ∧
    ((requestFor "GET" "/?a").Plain ∧ (requestFor "GET" "/?b").Plain ∧
      (requestStorageKey ignoring (requestFor "GET" "/?a") []).isSome ∧
      requestStorageKey ignoring (requestFor "GET" "/?a") [] = requestStorageKey ignoring (requestFor "GET" "/?b") [] ∧
      (canonicalizeRequestTarget (lit "/?a")).map (·.queryPairs) ≠ (canonicalizeRequestTarget (lit "/?b")).map (·.queryPairs)) ∧
    ((requestFor "GET" "/?=").Plain ∧ (requestFor "GET" "/").Plain ∧
      (requestStorageKey {} (requestFor "GET" "/?=") []).isSome ∧
      requestStorageKey {} (requestFor "GET" "/?=") [] = requestStorageKey {} (requestFor "GET" "/") [] ∧
      (canonicalizeRequestTarget (lit "/?=")).map (·.queryPairs) = .ok [([], [])] ∧
      (canonicalizeRequestTarget (lit "/")).map (·.queryPairs) = .ok []) := by
  decide +kernel

end WayBalancer
