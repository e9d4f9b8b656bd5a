import WayBalancer.CacheEntry
import WayBalancer.HttpHeaders
import WayBalancer.Fields
/-!
# CacheKey — the key a request's response is stored under

`build_http_cache_key_material` (`crates/runtime/src/http_cache.rs`): the canonical parts of a request, one labelled line
each, make the primary key; the values of the vary headers make the secondary one, and the storage key is the two with a NUL
between them.  The policy is that of `crates/config-model/src/policy.rs`, with the fields the cache's key and freshness read.
-/
namespace WayBalancer

open Str
open Crlf (Bytes)

inductive AuthorizationCacheBehaviorConfig
  | bypass
  | partition
deriving DecidableEq, Repr

inductive CacheQueryKeyBehaviorConfig
  | includeAll
  | ignoreAll
deriving DecidableEq, Repr

structure CacheKeyPolicyConfig where
  includeHost : Bool := true
  includeMethod : Bool := false
  query : CacheQueryKeyBehaviorConfig := .includeAll
  headers : List Text := []
deriving DecidableEq, Repr

structure HttpCachePolicyConfig where
  defaultTtlSecs : ℕ := 60
  maxTtlSecs : ℕ := 300
  staleWhileRevalidateSecs : ℕ := 30
  staleIfErrorSecs : ℕ := 60
  authorization : AuthorizationCacheBehaviorConfig := .bypass
  cacheKey : CacheKeyPolicyConfig := {}
deriving DecidableEq, Repr

structure HttpCacheRequest where
  method : Text
  target : Text
  headers : List HttpHeader
deriving DecidableEq, Repr

structure HttpCacheKeyMaterial where
  primary : HttpCacheKey
  secondary : Option HttpCacheKey

def HttpCacheKeyMaterial.storageKey (m : HttpCacheKeyMaterial) : Except HttpCacheStoreError HttpCacheKey :=
  HttpCacheKey.new (match m.secondary with
    | some secondary => m.primary.bytes ++ 0 :: secondary.bytes
    | none           => m.primary.bytes)

/-! ## The parts -/

def canonicalValueList (hs : List HttpHeader) (name : Text) : List Text :=
  ((tokensOf hs name).map lower).insertionSort (· ≤ ·)

def canonicalHeaderValues (hs : List HttpHeader) (name : Text) : Text :=
  joinWith (lit "\x1f") (canonicalValueList hs name)

def selectedHeaderNames (primary secondary : List Text) : List Text :=
  ((((primary ++ secondary).map (fun name => lower (trim name))).filter (fun name => !name.isEmpty)).insertionSort
    (· ≤ ·)).destutter (· ≠ ·)

/-- The hash of `stable_hex_hash`: 64-bit FNV-1a of the string's bytes. -/
def stableHash (value : Text) : UInt64 :=
  (utf8 value).foldl (fun hash byte => (hash ^^^ byte.toUInt64) * 1099511628211) 14695981039346656037

def stableHexHash (value : Text) : Text := hexPadded 16 (stableHash value).toNat

variable (r : HttpCacheRequest)

def HttpCacheRequest.authorizationHeader : Option HttpHeader :=
  r.headers.find? (·.isNamed (lit "authorization"))

def HttpCacheRequest.authorizationPart : Text :=
  match r.authorizationHeader with
  | some header => stableHexHash (trim header.value)
  | none        => lit "anonymous"

def HttpCacheRequest.canonicalMethod : Text := upper (trim r.method)

variable (policy : HttpCachePolicyConfig)

def primaryParts (r : HttpCacheRequest) (host : Text) (target : CanonicalRequestTarget) : List (Text × Text) :=
  [(lit "path=", target.path)] ++
  (if policy.cacheKey.includeHost then [(lit "host=", host)] else []) ++
  (if policy.cacheKey.includeMethod then [(lit "method=", r.canonicalMethod)] else []) ++
  (if policy.cacheKey.query = .includeAll then [(lit "query=", target.canonicalQuery)] else []) ++
  (if policy.authorization = .partition then [(lit "auth=", r.authorizationPart)] else []) ++
  (selectedHeaderNames policy.cacheKey.headers []).map (fun name =>
    (lit "hdr:" ++ name ++ lit "=", canonicalHeaderValues r.headers name))

def varyParts (varyHeaders : List Text) : List (Text × Text) :=
  (selectedHeaderNames varyHeaders []).map (fun name =>
    (lit "vary:" ++ name ++ lit "=", canonicalHeaderValues r.headers name))

def joinParts (parts : List (Text × Text)) : Text := joinWith (lit "\n") (parts.map Fields.render)

/-! ## The key -/

/-- The host and the target in canonical form, the errors in the order the code meets them. -/
def canonicalParts : Except HttpCacheStoreError (Text × CanonicalRequestTarget) :=
  match extractHostHeader r.headers with
  | none            => .error .missingHost
  | some hostHeader => match canonicalizeHost hostHeader with
    | .error e => .error (.invalidHost e)
    | .ok host => match canonicalizeRequestTarget r.target with
      | .error e   => .error (.invalidRequestTarget e)
      | .ok target => match target.authority with
        | some authority =>
          if authority ≠ host then .error (.hostAuthorityMismatch host authority) else .ok (host, target)
        | none => .ok (host, target)

def secondaryKey (varyHeaders : List Text) : Except HttpCacheStoreError (Option HttpCacheKey) :=
  if varyHeaders.isEmpty then .ok none
  else (HttpCacheKey.new (utf8 (joinParts (varyParts r varyHeaders)))).map some

def buildHttpCacheKeyMaterial (r : HttpCacheRequest) (varyHeaders : List Text) :
    Except HttpCacheStoreError (Option HttpCacheKeyMaterial) := do
  let (host, target) ← canonicalParts r
  if r.authorizationHeader.isSome ∧ policy.authorization = .bypass then return none
  if hasHeader r.headers (lit "cookie") then return none
  let secondary ← secondaryKey r varyHeaders
  let primary ← HttpCacheKey.new (utf8 (joinParts (primaryParts policy r host target)))
  return some { primary, secondary }

def requestStorageKey (r : HttpCacheRequest) (varyHeaders : List Text) : Option HttpCacheKey :=
  match buildHttpCacheKeyMaterial policy r varyHeaders with
  | .ok (some material) => material.storageKey.toOption
  | _                   => none

end WayBalancer
