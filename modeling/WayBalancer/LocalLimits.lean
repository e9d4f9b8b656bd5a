import WayBalancer.FirstBest
import WayBalancer.IpAddr
import WayBalancer.SortedMap
/-!
# LocalLimits — the two limiters of a node

`crates/runtime/src/local_limits.rs`: a fixed-window rate limiter that keeps a bounded number of keys and evicts the one it has
not seen for longest, and a concurrency limiter whose leases give their place back when they are dropped.  Durations are in
nanoseconds.  Each call holds the limiter's lock from its first read to its last write, so calls are steps.
-/
namespace WayBalancer

open Str Word

/-! ## Scopes and keys -/

inductive LocalLimitScope
  | listener (name : Text)
  | route (name : Text)
  | routeDestination (route upstreamCluster : Text)
  | upstreamCluster (name : Text)
deriving DecidableEq, Repr

inductive LocalLimitKeyKind
  | global
  | sourceIp
  | routeName
  | upstreamCluster
deriving DecidableEq, Repr

structure LimitContext where
  sourceIp : Option IpAddr
  routeName : Option Text
  upstreamCluster : Option Text
deriving DecidableEq, Repr

inductive LocalLimitError
  | emptyScopeName
  | zeroRateLimit
  | zeroRateWindow
  | zeroConcurrencyLimit
  | zeroTrackedKeys
  | concurrencyLimitExceeded
  | stateSaturated
deriving DecidableEq, Repr

abbrev NormalizedLimitKey := Text

def maxNormalizedComponentLen : ℕ := 64

def normalizeComponentChar (c : Char) : Char :=
  if c.isAlphanum || (lit "-_.:").contains c then c.toLower else '_'

/-- Every character it keeps is one byte long, so the length the loop stops at is a number of characters. -/
def normalizeComponent (value : Text) : Text :=
  let normalized := ((trim value).take maxNormalizedComponentLen).map normalizeComponentChar
  if normalized.isEmpty then lit "missing" else normalized

def validateScope (scope : LocalLimitScope) : Except LocalLimitError Unit :=
  let valid := match scope with
    | .listener name | .route name | .upstreamCluster name => !(normalizeComponent name).isEmpty
    | .routeDestination route upstreamCluster =>
      !(normalizeComponent route).isEmpty && !(normalizeComponent upstreamCluster).isEmpty
  if valid then .ok () else .error .emptyScopeName

def scopeText : LocalLimitScope → Text
  | .listener name => lit "listener:" ++ normalizeComponent name
  | .route name => lit "route:" ++ normalizeComponent name
  | .routeDestination route upstreamCluster =>
    lit "route-destination:" ++ normalizeComponent route ++ lit ":" ++ normalizeComponent upstreamCluster
  | .upstreamCluster name => lit "upstream:" ++ normalizeComponent name

def keyValue (keyKind : LocalLimitKeyKind) (context : LimitContext) : Text :=
  match keyKind with
  | .global          => lit "global"
  | .sourceIp        => (context.sourceIp.map IpAddr.toText).getD (lit "missing")
  | .routeName       => (context.routeName.map normalizeComponent).getD (lit "missing")
  | .upstreamCluster => (context.upstreamCluster.map normalizeComponent).getD (lit "missing")

def normalizeLimitKey (scope : LocalLimitScope) (keyKind : LocalLimitKeyKind) (context : LimitContext) : NormalizedLimitKey :=
  scopeText scope ++ lit "|key:" ++ keyValue keyKind context

/-! ## The rate limiter -/

structure LocalRateLimitConfig where
  scope : LocalLimitScope
  keyKind : LocalLimitKeyKind
  requestsPerWindow : ℕ
  window : ℕ
  maxTrackedKeys : ℕ
deriving DecidableEq, Repr

def LocalRateLimitConfig.validate (config : LocalRateLimitConfig) : Except LocalLimitError Unit := do
  validateScope config.scope
  if config.requestsPerWindow = 0 then throw .zeroRateLimit
  if config.window = 0 then throw .zeroRateWindow
  if config.maxTrackedKeys = 0 then throw .zeroTrackedKeys

structure RateLimitDecision where
  allowed : Bool
  remaining : ℕ
  retryAfter : Option ℕ
deriving DecidableEq, Repr

structure RateWindowState where
  windowStarted : ℕ
  count : ℕ
  lastSeenTick : ℕ
deriving DecidableEq, Repr

/-- The two counters wrap at 64 bits. -/
structure LocalRateLimiter where
  config : LocalRateLimitConfig
  state : SortedMap NormalizedLimitKey RateWindowState
  allowedCount : ℕ
  rateLimitedCount : ℕ

/-- Milliseconds, as far as 64 bits hold them. -/
def LocalRateLimiter.durationTick (value : ℕ) : ℕ := min (value / 1000000) u64Max

/-- The key seen least recently goes, the first of them where there are several. -/
def evictOldestKey (state : SortedMap NormalizedLimitKey RateWindowState) : SortedMap NormalizedLimitKey RateWindowState :=
  match FirstBest.firstBest (fun e => OrderDual.toDual e.2.lastSeenTick) state.entries with
  | some oldest => state.erase oldest.1
  | none        => state

/-- The entry of a key seen now: a window that is over starts again. -/
def RateWindowState.seen (config : LocalRateLimitConfig) (now : ℕ) (entry : RateWindowState) : RateWindowState :=
  let entry := if config.window ≤ now - entry.windowStarted then { entry with windowStarted := now, count := 0 } else entry
  { entry with lastSeenTick := LocalRateLimiter.durationTick now }

/-- What `check` does with the entry of its key: a window that is full turns the request away. -/
def RateWindowState.serve (config : LocalRateLimitConfig) (now : ℕ) (entry : RateWindowState) :
    RateLimitDecision × RateWindowState :=
  let entry := entry.seen config now
  if config.requestsPerWindow ≤ entry.count then
    (⟨false, 0, some (config.window - (now - entry.windowStarted))⟩, entry)
  else
    let entry := { entry with count := entry.count + 1 }
    (⟨true, config.requestsPerWindow - entry.count, none⟩, entry)

namespace LocalRateLimiter

def new (config : LocalRateLimitConfig) : Except LocalLimitError LocalRateLimiter := do
  config.validate
  return ⟨config, .empty, 0, 0⟩

def keyOf (limiter : LocalRateLimiter) (context : LimitContext) : NormalizedLimitKey :=
  normalizeLimitKey limiter.config.scope limiter.config.keyKind context

def check (limiter : LocalRateLimiter) (now : ℕ) (context : LimitContext) :
    Except LocalLimitError RateLimitDecision × LocalRateLimiter :=
  let key := limiter.keyOf context
  let isNewKey := (limiter.state.get? key).isNone
  let state := if isNewKey ∧ limiter.state.size = limiter.config.maxTrackedKeys then evictOldestKey limiter.state
    else limiter.state
  if (state.get? key).isNone ∧ state.size = limiter.config.maxTrackedKeys then
    (.error .stateSaturated, { limiter with state, rateLimitedCount := wrapAdd limiter.rateLimitedCount 1 })
  else
    let entry := (state.get? key).getD ⟨now, 0, durationTick now⟩
    let (decision, entry) := entry.serve limiter.config now
    let limiter := { limiter with state := state.insert key entry }
    if decision.allowed then (.ok decision, { limiter with allowedCount := wrapAdd limiter.allowedCount 1 })
    else (.ok decision, { limiter with rateLimitedCount := wrapAdd limiter.rateLimitedCount 1 })

end LocalRateLimiter

/-! ## The concurrency limiter -/

structure LocalConcurrencyLimitConfig where
  scope : LocalLimitScope
  keyKind : LocalLimitKeyKind
  maxConcurrent : ℕ
  maxTrackedKeys : ℕ
deriving DecidableEq, Repr

def LocalConcurrencyLimitConfig.validate (config : LocalConcurrencyLimitConfig) : Except LocalLimitError Unit := do
  validateScope config.scope
  if config.maxConcurrent = 0 then throw .zeroConcurrencyLimit
  if config.maxTrackedKeys = 0 then throw .zeroTrackedKeys

/-- The counters wrap at 64 bits. -/
structure ConcurrencyState where
  counts : SortedMap NormalizedLimitKey ℕ
  activeConcurrency : ℕ
  acquiredCount : ℕ
  concurrencyRejectionCount : ℕ

structure LocalConcurrencyLimiter where
  config : LocalConcurrencyLimitConfig
  state : ConcurrencyState

/-- A lease knows its key, and the limiter it is from for as long as the limiter lives. -/
structure LocalConcurrencyLease where
  key : NormalizedLimitKey
deriving DecidableEq, Repr

namespace LocalConcurrencyLimiter

def new (config : LocalConcurrencyLimitConfig) : Except LocalLimitError LocalConcurrencyLimiter := do
  config.validate
  return ⟨config, ⟨.empty, 0, 0, 0⟩⟩

def keyOf (limiter : LocalConcurrencyLimiter) (context : LimitContext) : NormalizedLimitKey :=
  normalizeLimitKey limiter.config.scope limiter.config.keyKind context

def tryAcquire (limiter : LocalConcurrencyLimiter) (context : LimitContext) :
    Except LocalLimitError LocalConcurrencyLease × LocalConcurrencyLimiter :=
  let key := limiter.keyOf context
  let state := limiter.state
  let rejections := wrapAdd state.concurrencyRejectionCount 1
  if (state.counts.get? key).isNone ∧ state.counts.size = limiter.config.maxTrackedKeys then
    (.error .stateSaturated, { limiter with state := { state with concurrencyRejectionCount := rejections } })
  else
    let current := (state.counts.get? key).getD 0
    if limiter.config.maxConcurrent ≤ current then
      -- the entry that was looked up is in the map by now, with the count it had
      (.error .concurrencyLimitExceeded,
        { limiter with state :=
          { state with counts := state.counts.insert key current, concurrencyRejectionCount := rejections } })
    else
      (.ok ⟨key⟩,
        { limiter with state :=
          { state with
            counts := state.counts.insert key (current + 1)
            activeConcurrency := wrapAdd state.activeConcurrency 1
            acquiredCount := wrapAdd state.acquiredCount 1 } })

end LocalConcurrencyLimiter

/-- The drop of a lease whose limiter is still there. -/
def LocalConcurrencyLease.drop (lease : LocalConcurrencyLease) (state : ConcurrencyState) : ConcurrencyState :=
  match state.counts.get? lease.key with
  | none       => state
  | some count =>
    let count := count - 1
    { state with
      counts := if count = 0 then state.counts.erase lease.key else state.counts.insert lease.key count
      activeConcurrency := wrapAdd state.activeConcurrency u64Max }

end WayBalancer
