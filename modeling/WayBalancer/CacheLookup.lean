import WayBalancer.CacheFreshness
import WayBalancer.CacheStore
import WayBalancer.ConfigPolicy
import WayBalancer.RelayBody
/-!
# CacheLookup — the shared cache before and behind an exchange

`resolve_cache_request` (`crates/runtime/src/http1_proxy/cache_lookup.rs`) decides whether a request is answered from the
store, and what it takes along to the origin where it is not; `build_cacheable_response_entry`
(`cache_fill_and_revalidation.rs`) decides whether the origin's answer becomes an entry, and `refresh_revalidated_entry`
(`cache_headers_and_freshness.rs`) what a `304` makes of the entry it confirms.  `httpdate`'s parser is a parameter.
-/
namespace WayBalancer

open Str
open Crlf (Bytes)

/-! ## Values of the `http` crate -/

def headerValueFromStr (value : Text) : Option Bytes :=
  if (utf8 value).all isHeaderValueByte then some (utf8 value) else none

/-- `HeaderName::from_bytes`: a token of at most 65535 bytes, in lower case. -/
def headerNameFromBytes (name : Text) : Option Bytes :=
  if !name.isEmpty && decide (byteLen name ≤ 65535) && name.all isHttpTokenChar then some (utf8 (lower name)) else none

def statusCodeFromU16 (status : UInt16) : Option ℕ :=
  if 100 ≤ status.toNat ∧ status.toNat ≤ 999 then some status.toNat else none

/-! ## Which requests are looked up -/

def HttpCacheMethodConfig.accepts (method : Text) : HttpCacheMethodConfig → Bool
  | .get  => eqIgnoreCase method (lit "GET")
  | .head => eqIgnoreCase method (lit "HEAD")

variable (policy : HttpCacheResourceConfig)

def requestMethodIsCacheLookupEligible (method : Text) : Bool :=
  policy.methods.any (HttpCacheMethodConfig.accepts method)

variable (request : Http1RequestHead)

def Http1RequestHead.cacheRequest : HttpCacheRequest :=
  ⟨request.method, request.target, request.headers⟩

def bypassReason : String :=
  if hasHeader request.headers (lit "cookie") then "request_cookie"
  else if hasHeader request.headers (lit "authorization") then "request_authorization"
  else "policy_bypass"

def cacheLookupKey : Except String HttpCacheKey :=
  if !requestMethodIsCacheLookupEligible policy request.method then .error "method_ineligible"
  else if request.bodyKind ≠ .none then .error "request_body"
  else match buildHttpCacheKeyMaterial policy.toHttpCachePolicyConfig request.cacheRequest policy.varyHeaders with
    | .ok (some material) => match material.storageKey with
      | .ok key  => .ok key
      | .error _ => .error "key_storage_error"
    | .ok none => .error (bypassReason request)
    | .error _ => .error "key_build_error"

theorem cacheLookupKey_ok {policy : HttpCacheResourceConfig} {request : Http1RequestHead} {key : HttpCacheKey} :
    cacheLookupKey policy request = .ok key ↔ requestMethodIsCacheLookupEligible policy request.method = true ∧
      request.bodyKind = .none ∧
      requestStorageKey policy.toHttpCachePolicyConfig request.cacheRequest policy.varyHeaders = some key := by
  unfold cacheLookupKey requestStorageKey
  cases requestMethodIsCacheLookupEligible policy request.method with
  | false => simp
  | true =>
    by_cases hb : request.bodyKind = .none
    · rcases buildHttpCacheKeyMaterial policy.toHttpCachePolicyConfig request.cacheRequest policy.varyHeaders with _ | _ | material
      · simp [hb]
      · simp [hb]
      · rcases hkey : material.storageKey with _ | key'
        · simp [hb, hkey, Except.toOption]
        · simp [hb, hkey, Except.toOption]
    · simp [hb]

/-! ## What a lookup decides -/

def shouldRevalidateEntry (entry : HttpCacheEntry) : Bool :=
  policy.revalidationEnabled && (entry.metadata.etag.isSome || entry.metadata.lastModified.isSome)

/-- `HttpCacheRequestOutcome`, as far as a hit reports it. -/
inductive HttpCacheRequestOutcome
  | hit
  | staleHit
deriving DecidableEq, Repr

inductive CacheRequestOutcome
  | cacheHit (entry : HttpCacheEntry) (outcome : HttpCacheRequestOutcome) (reason : String)
  | fetch (key : HttpCacheKey) (staleFallback revalidationEntry : Option HttpCacheEntry) (reason : String)
  | bypass (reason : String)
deriving DecidableEq

def lookupOutcome (key : HttpCacheKey) : Option HttpCacheLookup → CacheRequestOutcome
  | none        => .fetch key none none "miss"
  | some lookup =>
    if lookup.freshness = .fresh then .cacheHit lookup.entry .hit "fresh"
    else if lookup.freshness = .staleWhileRevalidate ∧ shouldRevalidateEntry policy lookup.entry = false then
      .cacheHit lookup.entry .staleHit "stale_while_revalidate"
    else if shouldRevalidateEntry policy lookup.entry then .fetch key (some lookup.entry) (some lookup.entry) "revalidation"
    else if lookup.freshness = .staleIfError then .fetch key (some lookup.entry) none "stale_if_error_revalidation"
    else .fetch key none none "miss"

def resolveCacheRequest (now : ℕ) (store : HttpCacheStore) : CacheRequestOutcome × HttpCacheStore :=
  match cacheLookupKey policy request with
  | .error reason => (.bypass reason, store)
  | .ok key       => (lookupOutcome policy key (store.lookup now key).1, (store.lookup now key).2)

/-! ## Which responses are stored -/

def disallowedCacheVaryHeaders : List Text :=
  ["authorization", "cookie", "set-cookie", "connection", "keep-alive", "proxy-authenticate", "proxy-authorization",
    "proxy-connection", "te", "trailer", "transfer-encoding", "upgrade", "forwarded", "x-forwarded-for",
    "x-forwarded-proto"].map lit

def isDisallowedCacheVaryHeader (header : Text) : Bool := disallowedCacheVaryHeaders.contains (lower header)

variable (headers : List HttpHeader)

def varyMembers : List Text := membersOf headers (lit "vary")

def responseHasUnsafeVary : Bool :=
  (varyMembers headers).any (fun value => value.isEmpty || value == lit "*" || isDisallowedCacheVaryHeader value)

def responseIsCacheable (status : UInt16) (headers : List HttpHeader) : Bool :=
  if !policy.cacheableStatusCodes.contains status then false
  else if !policy.allowSetCookieStorage && hasHeader headers (lit "set-cookie") then false
  else !responseHasUnsafeVary headers

/-- `Duration::from_secs`, in nanoseconds. -/
def fromSecs (seconds : ℕ) : ℕ := seconds * 10 ^ 9

def responseHeaderValue (name : Text) : Option Bytes :=
  (headers.find? (·.isNamed name)).bind (fun header => headerValueFromStr header.value)

def toCacheHeader (header : HttpHeader) : Option HttpCacheHeader := do
  let name ← headerNameFromBytes header.name
  let value ← headerValueFromStr header.value
  return ⟨name, value⟩

def toCacheHeaders : Option (List HttpCacheHeader) := headers.mapM toCacheHeader

section
variable (parseHttpDate : Text → Option ℕ) (policy : HttpCacheResourceConfig)

def freshnessWindows (headers : List HttpHeader) : Option CacheFreshnessWindows :=
  if policy.honorCacheControl then deriveFreshnessWindowsFromOrigin parseHttpDate policy.toHttpCachePolicyConfig headers
  else some {
    freshFor := policy.defaultTtlSecs
    staleWhileRevalidateFor := durationIfNonZero policy.staleWhileRevalidateSecs
    staleIfErrorFor := durationIfNonZero policy.staleIfErrorSecs }

def deriveCacheMetadata (headers : List HttpHeader) (status now : ℕ) : Option HttpCacheMetadata := do
  let freshness ← freshnessWindows parseHttpDate policy headers
  if freshness.freshFor = 0 ∧ freshness.staleWhileRevalidateFor = none ∧ freshness.staleIfErrorFor = none then none
  else
    let freshUntil := now + fromSecs freshness.freshFor
    return {
      status
      storedAt := now
      freshUntil
      staleWhileRevalidateUntil := freshness.staleWhileRevalidateFor.map (fun window => freshUntil + fromSecs window)
      staleIfErrorUntil := freshness.staleIfErrorFor.map (fun window => freshUntil + fromSecs window)
      etag := responseHeaderValue headers (lit "etag")
      lastModified := responseHeaderValue headers (lit "last-modified") }

def refreshRevalidatedEntry (staleEntry : HttpCacheEntry) (responseHeaders : List HttpHeader) (now : ℕ) :
    Option HttpCacheEntry := do
  let metadata ← deriveCacheMetadata parseHttpDate policy responseHeaders staleEntry.metadata.status now
  return { staleEntry with metadata := { metadata with
    etag := metadata.etag.or staleEntry.metadata.etag
    lastModified := metadata.lastModified.or staleEntry.metadata.lastModified } }

structure CacheFillAttempt where
  entry : Option HttpCacheEntry
  bodyRelayed : Bool
deriving DecidableEq, Repr

def CacheFillAttempt.skipped : CacheFillAttempt := ⟨none, false⟩

/-- What of an entry is settled before its body is read. -/
def cacheFillHead (method : Text) (status : UInt16) (headers : List HttpHeader) (now : ℕ) :
    Option (HttpCacheMetadata × List HttpCacheHeader) := do
  if !eqIgnoreCase method (lit "GET") || !responseIsCacheable policy status headers then none
  else
    let status ← statusCodeFromU16 status
    let metadata ← deriveCacheMetadata parseHttpDate policy headers status now
    let headers ← toCacheHeaders headers
    return (metadata, headers)

/-- `build_cacheable_response_entry`, between the upstream it reads and the client it writes to. -/
def buildCacheableResponseEntry (maxBodyBytes : ℕ) (method : Text) (response : Http1ResponseHead)
    (headers : List HttpHeader) (now : ℕ) : RelayProc CacheFillAttempt :=
  match cacheFillHead parseHttpDate policy method response.status headers now with
  | none                     => pure .skipped
  | some (metadata, headers) => match response.bodyKind with
    | .none => pure ⟨some ⟨metadata, headers, []⟩, true⟩
    | .contentLength length =>
      if length > policy.maxObjectBytes.toNat ∨ length > maxBodyBytes then pure .skipped
      else do
        let body ← relayContentLengthCollect .response length
        return ⟨some ⟨metadata, headers, body⟩, true⟩
    | .chunked        => pure .skipped
    | .closeDelimited => pure .skipped

end

def isStaleIfErrorResponseStatus (status : UInt16) : Bool := decide (500 ≤ status.toNat ∧ status.toNat ≤ 599)

/-! ## What a lookup and a fill say about their inputs -/

variable {entry : HttpCacheEntry} {reason : String}

theorem lookupOutcome_hit {policy : HttpCacheResourceConfig} {key : HttpCacheKey} {lookup : Option HttpCacheLookup}
    {outcome : HttpCacheRequestOutcome} (h : lookupOutcome policy key lookup = .cacheHit entry outcome reason) :
    lookup.map (·.entry) = some entry := by
  cases lookup with
  | none => cases h
  | some found =>
    simp only [lookupOutcome] at h
    split_ifs at h <;> cases h <;> rfl

theorem lookupOutcome_fetch {policy : HttpCacheResourceConfig} {key key' : HttpCacheKey} {lookup : Option HttpCacheLookup}
    {staleFallback revalidationEntry : Option HttpCacheEntry}
    (h : lookupOutcome policy key lookup = .fetch key' staleFallback revalidationEntry reason) :
    key' = key ∧ (∀ entry ∈ staleFallback, lookup.map (·.entry) = some entry) ∧
      (∀ entry ∈ revalidationEntry, lookup.map (·.entry) = some entry) := by
  cases lookup with
  | none =>
    cases h
    exact ⟨rfl, nofun, nofun⟩
  | some found =>
    simp only [lookupOutcome] at h
    split_ifs at h <;> cases h
    · exact ⟨rfl, fun _ he => he, fun _ he => he⟩
    · exact ⟨rfl, fun _ he => he, nofun⟩
    · exact ⟨rfl, nofun, nofun⟩

variable {parseHttpDate : Text → Option ℕ}

variable {method : Text}

theorem cacheFillHead_some {policy : HttpCacheResourceConfig} {status : UInt16} {headers : List HttpHeader} {now : ℕ}
    {filled : HttpCacheMetadata × List HttpCacheHeader}
    (h : cacheFillHead parseHttpDate policy method status headers now = some filled) :
    eqIgnoreCase method (lit "GET") = true ∧ responseIsCacheable policy status headers = true ∧
      (∃ code, statusCodeFromU16 status = some code ∧ deriveCacheMetadata parseHttpDate policy headers code now = some filled.1) ∧
      toCacheHeaders headers = some filled.2 := by
  unfold cacheFillHead at h
  split at h
  · cases h
  · rename_i hgua
    simp only [Bool.or_eq_true, Bool.not_eq_true', not_or, Bool.not_eq_false] at hgua
    simp only [Option.bind_eq_bind, Option.bind_eq_some_iff, Option.pure_def, Option.some.injEq] at h
    obtain ⟨code, hc, metadata, hmet, cached, hcac, rfl⟩ := h
    exact ⟨hgua.1, hgua.2, ⟨code, hc, hmet⟩, hcac⟩

/-- **A fill that made an entry** was a `GET`'s, of a response that may be stored. -/
theorem buildCacheableResponseEntry_entry {policy : HttpCacheResourceConfig} {maxBodyBytes : ℕ} {response : Http1ResponseHead}
    {headers : List HttpHeader} {now : ℕ} {s s' : Relay} {fill : CacheFillAttempt}
    (h : buildCacheableResponseEntry parseHttpDate policy maxBodyBytes method response headers now s = (.ok fill, s'))
    (he : fill.entry = some entry) :
    cacheFillHead parseHttpDate policy method response.status headers now = some (entry.metadata, entry.headers) ∧
      (entry.body = [] ∨ ∃ length, response.bodyKind = .contentLength length ∧ entry.body.length = length ∧
        length ≤ policy.maxObjectBytes.toNat) := by
  unfold buildCacheableResponseEntry at h
  rcases hhead : cacheFillHead parseHttpDate policy method response.status headers now with _ | ⟨metadata, cached⟩
  · rw [hhead] at h
    obtain ⟨rfl, -⟩ := h
    cases he
  rw [hhead] at h
  cases hk : response.bodyKind with
  | none =>
    simp only [hk, Proc.pure_ok] at h
    obtain ⟨rfl, -⟩ := h
    cases he
    exact ⟨rfl, .inl rfl⟩
  | contentLength length =>
    simp only [hk] at h
    split at h
    · obtain ⟨rfl, -⟩ := Proc.pure_ok.1 h
      cases he
    · obtain ⟨body, s₁, hb, h⟩ := Proc.bind_ok.1 h
      obtain ⟨rfl, -⟩ := Proc.pure_ok.1 h
      cases he
      exact ⟨rfl, .inr ⟨length, rfl, (relayContentLengthCollect_ok hb).1, by omega⟩⟩
  | chunked =>
    simp only [hk, Proc.pure_ok] at h
    obtain ⟨rfl, -⟩ := h
    cases he
  | closeDelimited =>
    simp only [hk, Proc.pure_ok] at h
    obtain ⟨rfl, -⟩ := h
    cases he

end WayBalancer
