import WayBalancer.HttpTarget
import WayBalancer.Crlf
/-!
# CacheEntry — cached responses and the keys they are stored under

`crates/runtime/src/http_cache.rs`: a key is a non-empty byte string, ordered as such; an entry carries its freshness
windows, and its size is an estimate in wrapping 64-bit arithmetic.  Times are in nanoseconds since the store's creation;
the size a metadata record takes in memory is the compiler's, so it is a parameter.
-/
namespace WayBalancer

open Str Word
open Crlf (Bytes)

inductive HttpCacheStoreError
  | zeroMaxEntries
  | zeroMaxBytes
  | zeroMaxObjectBytes
  | maxObjectBytesExceedsStoreBytes (maxObjectBytes maxBytes : ℕ)
  | emptyKey
  | freshnessBeforeStoredAt
  | staleWhileRevalidateBeforeFreshness
  | staleIfErrorBeforeFreshness
  | objectTooLarge (objectSize maxObjectBytes : ℕ)
  | missingHost
  | invalidRequestTarget (error : RequestTargetError)
  | invalidHost (error : RequestTargetError)
  | hostAuthorityMismatch (hostHeader targetAuthority : Text)
deriving DecidableEq, Repr

structure HttpCacheStoreConfig where
  maxEntries : ℕ
  maxBytes : ℕ
  maxObjectBytes : ℕ
deriving DecidableEq, Repr

def HttpCacheStoreConfig.validate (c : HttpCacheStoreConfig) : Except HttpCacheStoreError Unit :=
  if c.maxEntries = 0 then .error .zeroMaxEntries
  else if c.maxBytes = 0 then .error .zeroMaxBytes
  else if c.maxObjectBytes = 0 then .error .zeroMaxObjectBytes
  else if c.maxObjectBytes > c.maxBytes then .error (.maxObjectBytesExceedsStoreBytes c.maxObjectBytes c.maxBytes)
  else .ok ()

theorem HttpCacheStoreConfig.validate_ok {c : HttpCacheStoreConfig} :
    c.validate = .ok () ↔ c.maxEntries ≠ 0 ∧ c.maxBytes ≠ 0 ∧ c.maxObjectBytes ≠ 0 ∧ c.maxObjectBytes ≤ c.maxBytes := by
  unfold HttpCacheStoreConfig.validate
  split_ifs <;> simp_all

/-! ## Keys -/

structure HttpCacheKey where
  bytes : Bytes
  nonempty : bytes ≠ []

def HttpCacheKey.new (bytes : Bytes) : Except HttpCacheStoreError HttpCacheKey :=
  if h : bytes = [] then .error .emptyKey else .ok ⟨bytes, h⟩

/-- Keys are ordered as their byte strings. -/
def HttpCacheKey.codes (k : HttpCacheKey) : List ℕ := k.bytes.map UInt8.toNat

theorem HttpCacheKey.codes_injective : Function.Injective HttpCacheKey.codes := by
  rintro ⟨a, ha⟩ ⟨b, hb⟩ h
  have e : a = b := List.map_injective_iff.2 (fun x y hxy => UInt8.toNat_inj.1 hxy) h
  subst e
  rfl

instance : LinearOrder HttpCacheKey := LinearOrder.lift' HttpCacheKey.codes HttpCacheKey.codes_injective

/-! ## Entries -/

structure HttpCacheHeader where
  name : Bytes
  value : Bytes
deriving DecidableEq, Repr

def HttpCacheHeader.estimatedSize (h : HttpCacheHeader) : ℕ := wrapAdd h.name.length h.value.length

structure HttpCacheMetadata where
  status : ℕ
  storedAt : ℕ
  freshUntil : ℕ
  staleWhileRevalidateUntil : Option ℕ
  staleIfErrorUntil : Option ℕ
  etag : Option Bytes
  lastModified : Option Bytes
deriving DecidableEq, Repr

inductive HttpCacheFreshness
  | fresh
  | staleWhileRevalidate
  | staleIfError
deriving DecidableEq, Repr

namespace HttpCacheMetadata

variable (m : HttpCacheMetadata) (now : ℕ)

/-- The hard expiry deadline: the later stale deadline, or the freshness deadline where there is none. -/
def expiresAt : ℕ := match m.staleWhileRevalidateUntil, m.staleIfErrorUntil with
  | some a, some b => max a b
  | some a, none   => a
  | none, some b   => b
  | none, none     => m.freshUntil

def isFresh : Bool := now < m.freshUntil

def allowsStaleWhileRevalidate : Bool := m.staleWhileRevalidateUntil.any (fun deadline => now < deadline)

def allowsStaleIfError : Bool := m.staleIfErrorUntil.any (fun deadline => now < deadline)

def freshness : Option HttpCacheFreshness :=
  if m.expiresAt ≤ now then none
  else if m.isFresh now then some .fresh
  else if m.allowsStaleWhileRevalidate now then some .staleWhileRevalidate
  else if m.allowsStaleIfError now then some .staleIfError
  else none

def validate : Except HttpCacheStoreError Unit :=
  if m.freshUntil < m.storedAt then .error .freshnessBeforeStoredAt
  else if m.staleWhileRevalidateUntil.any (fun deadline => deadline < m.freshUntil) then
    .error .staleWhileRevalidateBeforeFreshness
  else if m.staleIfErrorUntil.any (fun deadline => deadline < m.freshUntil) then .error .staleIfErrorBeforeFreshness
  else .ok ()

def estimatedSize (metadataSize : ℕ) : ℕ :=
  wrapAdd (wrapAdd metadataSize ((m.etag.map List.length).getD 0)) ((m.lastModified.map List.length).getD 0)

end HttpCacheMetadata

structure HttpCacheEntry where
  metadata : HttpCacheMetadata
  headers : List HttpCacheHeader
  body : Bytes
deriving DecidableEq, Repr

def HttpCacheEntry.estimatedSize (metadataSize : ℕ) (e : HttpCacheEntry) : ℕ :=
  wrapAdd (wrapAdd (e.metadata.estimatedSize metadataSize)
    (e.headers.foldl (fun n h => wrapAdd n h.estimatedSize) 0)) e.body.length

def HttpCacheEntry.validate (e : HttpCacheEntry) : Except HttpCacheStoreError Unit := e.metadata.validate

/-- `duration_tick`: whole milliseconds, saturating. -/
def durationTick (value : ℕ) : ℕ := min (value / 1000000) u64Max

theorem durationTick_mono {a b : ℕ} (h : a ≤ b) : durationTick a ≤ durationTick b := by
  unfold durationTick
  omega

/-! ## The path of a stored key -/

/-- The path a storage key names: the first `path=` line of its text up to a NUL. -/
def storedPath (key : Bytes) : Option Text :=
  (fromUtf8 (key.takeWhile (· ≠ 0))).bind (fun primary => (lines primary).findSome? (stripPrefix (lit "path=")))

def storageKeyMatchesPathPrefix (key : HttpCacheKey) (pathPrefix : Text) : Bool :=
  match storedPath key.bytes with
  | none      => false
  | some path => path == pathPrefix || pathPrefix == lit "/" ||
      (stripPrefix pathPrefix path).any (fun suffix => suffix.head? == some '/')

end WayBalancer
