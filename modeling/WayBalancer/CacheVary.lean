import WayBalancer.CacheRuns
import WayBalancer.ConfigPolicyValidator
import WayBalancer.HeadChars
/-!
# CacheVary — what `Vary` a shared cache honours

Whether a response may be stored is decided from its `Vary` (`response_has_unsafe_vary`), the key it is stored under from the
headers the policy lists, before the response is known.  A name that only the response gives is in no key: two requests that
differ in it share an entry (`vary_honoured_iff`).  Values are compared as the key compares them, by their lower-cased
members; compared as they stand, no name is safe.
-/
namespace WayBalancer

open Str
open HttpCacheStore (new)

/-! ## What the key reads of a request -/

/-- The key reads the method, the target, the host, the first authorization, whether there is a cookie, and the members of
the listed headers. -/
theorem requestStorageKey_congr {policy : HttpCachePolicyConfig} {varyHeaders : List Text} {r r' : HttpCacheRequest}
    (hm : r.method = r'.method) (htgt : r.target = r'.target)
    (hh : extractHostHeader r.headers = extractHostHeader r'.headers) (ha : r.authorizationHeader = r'.authorizationHeader)
    (hcoo : hasHeader r.headers (lit "cookie") = hasHeader r'.headers (lit "cookie"))
    (hkey : ∀ name ∈ selectedHeaderNames policy.cacheKey.headers [],
      canonicalValueList r.headers name = canonicalValueList r'.headers name)
    (hv : ∀ name ∈ selectedHeaderNames varyHeaders [], canonicalValueList r.headers name = canonicalValueList r'.headers name) :
    requestStorageKey policy r varyHeaders = requestStorageKey policy r' varyHeaders := by
  have hpar : canonicalParts r = canonicalParts r' := by
    unfold canonicalParts
    rw [hh, htgt]
  have hp : ∀ host target, primaryParts policy r host target = primaryParts policy r' host target := by
    intro host target
    unfold primaryParts HttpCacheRequest.canonicalMethod HttpCacheRequest.authorizationPart
    rw [hm, ha]
    congr 1
    refine List.map_congr_left fun name hn => ?_
    unfold canonicalHeaderValues
    rw [hkey name hn]
  have hsec : secondaryKey r varyHeaders = secondaryKey r' varyHeaders := by
    have hlin : varyParts r varyHeaders = varyParts r' varyHeaders := by
      refine List.map_congr_left fun name hn => ?_
      unfold canonicalHeaderValues
      rw [hv name hn]
    unfold secondaryKey
    rw [hlin]
  unfold requestStorageKey buildHttpCacheKeyMaterial
  simp only [hpar, ha, hcoo, hp, hsec]

theorem linesOf_lower {name name' : Text} (h : lower name = lower name') (hs : List HttpHeader) :
    linesOf hs name = linesOf hs name' := by
  unfold linesOf HttpHeader.isNamed eqIgnoreCase
  rw [h]

theorem canonicalValueList_congr {hs hs' : List HttpHeader} {name name' : Text} (h : tokensOf hs name = tokensOf hs' name') :
    canonicalValueList hs name = canonicalValueList hs' name' := by
  unfold canonicalValueList
  rw [h]

theorem tokensOf_lower (hs : List HttpHeader) {name name' : Text} (h : lower name = lower name') :
    tokensOf hs name = tokensOf hs name' := by
  unfold tokensOf membersOf
  rw [linesOf_lower h]

theorem tokensOf_append (hs hs' : List HttpHeader) (name : Text) :
    tokensOf (hs ++ hs') name = tokensOf hs name ++ tokensOf hs' name := by
  unfold tokensOf membersOf
  rw [linesOf_append, List.flatMap_append, List.map_append, List.filter_append]

theorem linesOf_line (name value : Text) : linesOf [⟨name, value⟩] name = [⟨name, value⟩] := by
  unfold linesOf HttpHeader.isNamed eqIgnoreCase
  simp only [beq_self_eq_true, List.filter_cons_of_pos, List.filter_nil]

theorem tokensOf_line (name value : Text) :
    tokensOf [⟨name, value⟩] name = ((value.splitOn ',').map trim).filter (fun t => !t.isEmpty) := by
  unfold tokensOf membersOf
  rw [linesOf_line, List.flatMap_singleton]

theorem length_canonicalValueList (hs : List HttpHeader) (name : Text) :
    (canonicalValueList hs name).length = (tokensOf hs name).length := by
  unfold canonicalValueList
  rw [List.length_insertionSort, List.length_map]

theorem mem_selectedHeaderNames {configured : List Text} {name : Text} :
    name ∈ selectedHeaderNames configured [] ↔ name ≠ [] ∧ ∃ c ∈ configured, lower (trim c) = name := by
  have hsrt := List.pairwise_insertionSort (· ≤ ·) ((configured.map (fun name => lower (trim name))).filter (fun name => !name.isEmpty))
  unfold selectedHeaderNames
  rw [List.append_nil, hsrt.destutter_eq_dedup, List.mem_dedup, List.mem_insertionSort, List.mem_filter, List.mem_map]
  constructor
  · rintro ⟨⟨c, hc, rfl⟩, hne⟩
    exact ⟨by simpa using hne, c, hc, rfl⟩
  · rintro ⟨hne, c, hc, rfl⟩
    exact ⟨⟨c, hc, rfl⟩, by simpa using hne⟩

/-! ## One more line -/

def Http1RequestHead.withLine (head : Http1RequestHead) (line : HttpHeader) : Http1RequestHead :=
  { head with headers := head.headers ++ [line] }

theorem Http1RequestHead.WellFormed.withLine {head : Http1RequestHead} (h : head.WellFormed) {line : HttpHeader}
    (hn : line.name.all isHttpTokenChar = true) (hval : line.value.all isHeaderValueChar = true) :
    (head.withLine line).WellFormed := by
  have hmem : ∀ l ∈ (head.withLine line).headers, l ∈ head.headers ∨ l = line := fun l hl => by
    simpa [Http1RequestHead.withLine] using hl
  refine ⟨h.method, h.target, fun l hl => ?_, fun l hl => ?_⟩
  · rcases hmem l hl with hl | rfl
    · exact h.names l hl
    · exact hn
  · rcases hmem l hl with hl | rfl
    · exact h.values l hl
    · exact hval

/-- A line in no listed header, or without members, changes no key; a cookie and an authorization would. -/
theorem cacheLookupKey_withLine {policy : HttpCacheResourceConfig} {head : Http1RequestHead} {key : HttpCacheKey}
    (hkey : cacheLookupKey policy head = .ok key) {line : HttpHeader} (hcoo : lower line.name ≠ lit "cookie")
    (ha : lower line.name ≠ lit "authorization")
    (hl : ∀ configured ∈ policy.varyHeaders ++ policy.cacheKey.headers, lower (trim configured) = lower line.name →
      tokensOf [line] line.name = []) :
    cacheLookupKey policy (head.withLine line) = .ok key := by
  obtain ⟨heli, hb, hsto⟩ := cacheLookupKey_ok.1 hkey
  refine cacheLookupKey_ok.2 ⟨heli, hb, ?_⟩
  rw [← hsto]
  have hnam : ∀ name, lower line.name ≠ lower name → line.isNamed name = false := by
    unfold HttpHeader.isNamed eqIgnoreCase
    simp
  have hval : ∀ name, (∃ configured ∈ policy.varyHeaders ++ policy.cacheKey.headers, lower (trim configured) = name) →
      canonicalValueList (head.headers ++ [line]) name = canonicalValueList head.headers name := by
    rintro name ⟨configured, hmem, rfl⟩
    refine canonicalValueList_congr ?_
    rw [tokensOf_append]
    suffices htok : tokensOf [line] (lower (trim configured)) = [] by rw [htok, List.append_nil]
    by_cases hs : lower (trim configured) = lower line.name
    · exact (tokensOf_lower [line] (by rw [lower_lower, hs])).trans (hl configured hmem hs)
    · have hlin : linesOf [line] (lower (trim configured)) = [] := by
        unfold linesOf
        rw [List.filter_cons_of_neg, List.filter_nil]
        rw [hnam _ (by rw [lower_lower]; exact Ne.symm hs)]
        decide
      unfold tokensOf
      rw [membersOf_of_lines_nil hlin]
      rfl
  obtain ⟨host, t, hpar, -⟩ := requestStorageKey_some hsto
  obtain ⟨⟨hostHeader, hh, -⟩, -⟩ := canonicalParts_ok hpar
  refine requestStorageKey_congr rfl rfl ?_ ?_ ?_ ?_ ?_
  · -- the first host stays the first
    obtain ⟨h, hf, -⟩ := Option.map_eq_some_iff.1 hh
    change (List.find? _ (head.headers ++ [line])).map _ = (List.find? _ head.headers).map _
    rw [List.find?_append]
    rw [show head.headers.find? (·.isNamed (lit "host")) = some h from hf]
    rfl
  · change List.find? _ (head.headers ++ [line]) = List.find? _ head.headers
    rw [List.find?_append, List.find?_singleton, hnam (lit "authorization") ha]
    simp
  · change List.any (head.headers ++ [line]) _ = List.any head.headers _
    rw [List.any_append, List.any_cons, hnam (lit "cookie") hcoo]
    simp
  · intro name hn
    obtain ⟨-, c, hc, e⟩ := mem_selectedHeaderNames.1 hn
    exact hval name ⟨c, List.mem_append_right _ hc, e⟩
  · intro name hn
    obtain ⟨-, c, hc, e⟩ := mem_selectedHeaderNames.1 hn
    exact hval name ⟨c, List.mem_append_left _ hc, e⟩

/-! ## What a served entry says about its requests -/

section
variable (parseHttpDate : Text → Option ℕ) (policy : HttpCacheResourceConfig) (metadataSize maxBodyBytes : ℕ)
  (store : HttpCacheStore)

/-- After some run over requests that were read, `resolve_cache_request` answers `request` with an entry of this origin. -/
def Served (request : Http1RequestHead) (origin : CacheOrigin) : Prop :=
  request.WellFormed ∧ ∃ steps now key entry outcome reason, (∀ s ∈ steps, s.From Http1RequestHead.WellFormed) ∧
    let c := (SharedCache.new store).run parseHttpDate policy metadataSize maxBodyBytes steps
    (resolveCacheRequest policy request now c.store).1 = .cacheHit entry outcome reason ∧
      cacheLookupKey policy request = .ok key ∧ c.origins key = some origin

variable {parseHttpDate policy metadataSize maxBodyBytes store}

theorem Served.of_key {request other : Http1RequestHead} {origin : CacheOrigin}
    (h : Served parseHttpDate policy metadataSize maxBodyBytes store request origin) (hoth : other.WellFormed)
    (hkey : cacheLookupKey policy other = cacheLookupKey policy request) :
    Served parseHttpDate policy metadataSize maxBodyBytes store other origin := by
  obtain ⟨-, steps, now, key, entry, o, why, hste, hhit, hk, ho⟩ := h
  refine ⟨hoth, steps, now, key, entry, o, why, hste, ?_, hkey.trans hk, ho⟩
  unfold resolveCacheRequest at hhit ⊢
  rwa [hkey]

theorem Served.origin {config : HttpCacheStoreConfig} (hsto : new config = .ok store)
    {request : Http1RequestHead} {origin : CacheOrigin}
    (h : Served parseHttpDate policy metadataSize maxBodyBytes store request origin) :
    ∃ key, cacheLookupKey policy request = .ok key ∧ origin.Of policy Http1RequestHead.WellFormed key := by
  obtain ⟨-, steps, now, key, entry, oo, why, hste, hhit, hk, ho⟩ := h
  have htra : ((SharedCache.new store).run parseHttpDate policy metadataSize maxBodyBytes steps).Traced policy
      Http1RequestHead.WellFormed := SharedCache.Traced.run steps (SharedCache.traced_new hsto) hste
  unfold resolveCacheRequest at hhit
  rw [hk] at hhit
  obtain ⟨r₀, hg, -⟩ := held_of_lookup (lookupOutcome_hit hhit)
  obtain ⟨o, ho', hof⟩ := htra.held key r₀ hg
  rw [ho'] at ho
  cases ho
  exact ⟨key, hk, hof⟩

theorem varyMember_safe {headers : List HttpHeader} (h : responseHasUnsafeVary headers = false) {name : Text}
    (hn : name ∈ varyMembers headers) : name ≠ [] ∧ lower name ≠ lit "cookie" ∧ lower name ≠ lit "authorization" := by
  have hmem := List.any_eq_false.1 h name hn
  simp only [Bool.or_eq_true, not_or, Bool.not_eq_true] at hmem
  obtain ⟨⟨hemp, -⟩, hall⟩ := hmem
  refine ⟨fun e => ?_, ?_, ?_⟩
  · rw [e] at hemp
    cases hemp
  · intro e
    rw [isDisallowedCacheVaryHeader, e] at hall
    exact absurd hall (by decide)
  · intro e
    rw [isDisallowedCacheVaryHeader, e] at hall
    exact absurd hall (by decide)

/-- The policy lists the header, in `vary_headers` or among the key's. -/
def Keyed (policy : HttpCacheResourceConfig) (name : Text) : Prop :=
  ∃ configured ∈ policy.varyHeaders ++ policy.cacheKey.headers, lower (trim configured) = lower name

instance (policy : HttpCacheResourceConfig) (name : Text) : Decidable (Keyed policy name) := by
  unfold Keyed
  infer_instance

theorem agree_of_keyed {a b : Http1RequestHead} {key : HttpCacheKey} (ha : a.WellFormed) (hb : b.WellFormed)
    (hka : cacheLookupKey policy a = .ok key) (hkb : cacheLookupKey policy b = .ok key) {name : Text} (hne : name ≠ [])
    (hkey : Keyed policy name) : canonicalValueList a.headers name = canonicalValueList b.headers name := by
  obtain ⟨-, -, hsa⟩ := cacheLookupKey_ok.1 hka
  obtain ⟨-, -, hsb⟩ := cacheLookupKey_ok.1 hkb
  obtain ⟨_, _, _, _, -, -, hs⟩ := storageKey_agrees _ _ _ _ key ha.plain hb.plain hsa hsb
  obtain ⟨cfg, hmem, e⟩ := hkey
  have hlow : lower name ≠ [] := by simpa [lower] using hne
  rw [canonicalValueList_congr (tokensOf_lower a.headers (lower_lower name).symm),
    canonicalValueList_congr (tokensOf_lower b.headers (lower_lower name).symm)]
  rcases List.mem_append.1 hmem with hmem | hmem
  · exact hs.vary _ (mem_selectedHeaderNames.2 ⟨hlow, cfg, hmem, e⟩)
  · exact hs.headers _ (mem_selectedHeaderNames.2 ⟨hlow, cfg, hmem, e⟩)

theorem linesOf_of_not_token {head : Http1RequestHead} (h : head.WellFormed) {name : Text}
    (hn : name.all isHttpTokenChar = false) : linesOf head.headers name = [] := by
  refine List.filter_eq_nil_iff.2 fun line hl hnam => ?_
  have hlow : lower line.name = lower name := by simpa [HttpHeader.isNamed, eqIgnoreCase] using hnam
  rw [← all_token_lower, ← hlow, all_token_lower, h.names line hl] at hn
  cases hn

/-- One more line of a `Vary` name leaves a served request served, where it has no members or the policy does not list it. -/
theorem Served.withLine {config : HttpCacheStoreConfig} (hsto : new config = .ok store)
    {request : Http1RequestHead} {origin : CacheOrigin}
    (h : Served parseHttpDate policy metadataSize maxBodyBytes store request origin) (name value : Text)
    (hn : name ∈ varyMembers origin.headers) (htok : name.all isHttpTokenChar = true)
    (hval : value.all isHeaderValueChar = true) (hl : Keyed policy name → tokensOf [⟨name, value⟩] name = []) :
    Served parseHttpDate policy metadataSize maxBodyBytes store (request.withLine ⟨name, value⟩) origin := by
  obtain ⟨key, hkey, hof⟩ := h.origin hsto
  obtain ⟨-, hcoo, ha⟩ := varyMember_safe hof.vary hn
  refine h.of_key (h.1.withLine htok hval) ?_
  rw [hkey]
  exact cacheLookupKey_withLine hkey hcoo ha (fun cfg hmem e => hl ⟨cfg, hmem, e⟩)

end

section
variable (parseHttpDate : Text → Option ℕ) (policy : HttpCacheResourceConfig) (metadataSize maxBodyBytes : ℕ)
  (store : HttpCacheStore)

/-- The requests an entry with these response headers is served to agree with the one it was fetched for, by some reading of
the lines of a name. -/
def VaryHonoured {α : Type} (reading : List HttpHeader → Text → α) (headers : List HttpHeader) : Prop :=
  ∀ request origin, Served parseHttpDate policy metadataSize maxBodyBytes store request origin → origin.headers = headers →
    ∀ name ∈ varyMembers headers, reading origin.request.headers name = reading request.headers name

def fieldValues (hs : List HttpHeader) (name : Text) : List Text := (linesOf hs name).map (·.value)

/-- **The `Vary` of a served response is honoured exactly where the policy lists its names**, values being compared as the
key compares them; as they stand they are never all compared. -/
theorem vary_honoured_iff (config : HttpCacheStoreConfig) (hstore : new config = .ok store)
    (headers : List HttpHeader)
    (hserved : ∃ request origin, Served parseHttpDate policy metadataSize maxBodyBytes store request origin ∧
      origin.headers = headers) :
    (VaryHonoured parseHttpDate policy metadataSize maxBodyBytes store canonicalValueList headers ↔
      ∀ name ∈ varyMembers headers, name.all isHttpTokenChar = true → Keyed policy name) ∧
    (VaryHonoured parseHttpDate policy metadataSize maxBodyBytes store fieldValues headers ↔
      ∀ name ∈ varyMembers headers, name.all isHttpTokenChar = false) := by
  obtain ⟨b, origin, hb, rfl⟩ := hserved
  refine ⟨⟨fun honoured name hn htok => ?_, fun hke request o hserved e name hn => ?_⟩,
    ⟨fun honoured name hn => ?_, fun hno request o hserved e name hn => ?_⟩⟩
  · -- a line more of an unlisted name is a member more, and the request is served as before
    by_contra hunk
    have hm := hb.withLine hstore name (lit "0") hn htok (by decide) (fun hk => absurd hk hunk)
    have hlen := congrArg List.length ((honoured _ _ hb rfl name hn).symm.trans (honoured _ _ hm rfl name hn))
    rw [length_canonicalValueList, length_canonicalValueList, Http1RequestHead.withLine, tokensOf_append,
      List.length_append] at hlen
    have hz : tokensOf [⟨name, lit "0"⟩] name = [lit "0"] := by
      rw [tokensOf_line]
      decide +kernel
    rw [hz] at hlen
    simp at hlen
  · obtain ⟨key, hkey, hof⟩ := hserved.origin hstore
    cases htok : name.all isHttpTokenChar with
    | false =>
      have ha := linesOf_of_not_token hof.admitted htok
      have hb := linesOf_of_not_token hserved.1 htok
      exact canonicalValueList_congr (tokensOf_congr (ha.trans hb.symm))
    | true =>
      exact agree_of_keyed hof.admitted hserved.1 hof.keyed hkey (varyMember_safe hof.vary (e ▸ hn)).1
        (hke name hn htok)
  · -- a line without a value is in no key
    by_contra htok
    rw [Bool.not_eq_false] at htok
    have hemp : tokensOf [⟨name, []⟩] name = [] := by
      rw [tokensOf_line]
      decide +kernel
    have hm := hb.withLine hstore name [] hn htok rfl (fun _ => hemp)
    have hlen := congrArg List.length ((honoured _ _ hb rfl name hn).symm.trans (honoured _ _ hm rfl name hn))
    unfold fieldValues at hlen
    rw [Http1RequestHead.withLine, linesOf_append, linesOf_line] at hlen
    simp at hlen
  · obtain ⟨key, hkey, hof⟩ := hserved.origin hstore
    have htok := hno name hn
    unfold fieldValues
    rw [linesOf_of_not_token hof.admitted htok, linesOf_of_not_token hserved.1 htok]

end

/-! ### A page in two languages -/

def pageRequest (language : String) : Http1RequestHead where
  method := lit "GET"
  target := lit "/page"
  version := .http1
  headers := [⟨lit "host", lit "a"⟩, ⟨lit "accept-language", lit language⟩]
  bodyKind := .none
  keepAlive := true
  route := none
  http10 := false

def pageResponse : Http1ResponseHead where
  version := .http1
  status := 200
  reason := lit "OK"
  headers := [⟨lit "vary", lit "Accept-Language"⟩, ⟨lit "content-length", lit "2"⟩]
  bodyKind := .contentLength 2
  keepAlive := true

def pageStore : HttpCacheStore := ⟨⟨10000, 67108864, 1048576⟩, ⟨.empty, 0, 0⟩, ⟨0, 0, 0, 0, 0, 0, 0⟩, []⟩

def pageSteps : List CacheStep := [.ask (pageRequest "en") 0, .answer 0 pageResponse ⟨⟨[], utf8 (lit "hi")⟩, ⟨[], none⟩⟩]

def pageOrigin : CacheOrigin := ⟨pageRequest "en", pageResponse.headers⟩

def pageEntry : HttpCacheEntry where
  metadata := ⟨200, 0, 60 * 10 ^ 9, some (90 * 10 ^ 9), some (120 * 10 ^ 9), none, none⟩
  headers := [⟨utf8 (lit "vary"), utf8 (lit "Accept-Language")⟩, ⟨utf8 (lit "content-length"), utf8 (lit "2")⟩]
  body := utf8 (lit "hi")

def pageKey : HttpCacheKey := ⟨utf8 (lit "path=/page\nhost=a\nquery="), by decide⟩

theorem page_served : Served (fun _ => none) {} 128 1048576 pageStore (pageRequest "fr") pageOrigin := by
  refine ⟨by decide +kernel, pageSteps, 1, pageKey, pageEntry, .hit, "fresh", ?_, ?_, ?_, ?_⟩
  · simp only [pageSteps, List.forall_mem_cons, CacheStep.From]
    exact ⟨by decide +kernel, trivial, by simp⟩
  · decide +kernel
  · decide +kernel
  · decide +kernel

/-- Under the default policy the page fetched for an English reader is served to a French one. -/
theorem page_vary_ignored :
    validateHttpCachePolicy (lit "policies.http_caches[0]") ⟨lit "pages", {}⟩ = [] ∧
    new ⟨10000, 67108864, 1048576⟩ = .ok pageStore ∧
    Served (fun _ => none) {} 128 1048576 pageStore (pageRequest "fr") pageOrigin ∧
    lit "Accept-Language" ∈ varyMembers pageOrigin.headers ∧
    canonicalValueList pageOrigin.request.headers (lit "Accept-Language") = [lit "en"] ∧
    canonicalValueList (pageRequest "fr").headers (lit "Accept-Language") = [lit "fr"] :=
  ⟨by decide +kernel, rfl, page_served, by decide +kernel, by decide +kernel, by decide +kernel⟩

theorem page_vary_not_honoured :
    ¬ VaryHonoured (fun _ => none) {} 128 1048576 pageStore canonicalValueList pageResponse.headers := by
  have h := (vary_honoured_iff (fun _ => none) {} 128 1048576 pageStore ⟨10000, 67108864, 1048576⟩ rfl pageResponse.headers
    ⟨pageRequest "fr", pageOrigin, page_served, rfl⟩).1
  rw [h]
  intro hkey
  exact absurd (hkey (lit "Accept-Language") (by decide +kernel) (by decide +kernel)) (by decide +kernel)

end WayBalancer
