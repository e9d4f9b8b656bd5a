import WayBalancer.CacheLookup
import WayBalancer.DestinationPolicies
import WayBalancer.ForwardedHead
/-!
# DispatchSteps — one attempt at sending a request upstream

A turn of the loop of `process_uncached_request` in `crates/runtime/src/http1_proxy/cache_fill_and_revalidation.rs`, with the
functions it calls in `upstream_connection.rs`, `local_responses.rs`, `destination_policies.rs` and `upgrade_relay.rs`.  A `Session` is what the
connection loop keeps between requests: both byte streams, the upstream connection with its read buffer and stamps, and the
shared failure managers and cache.  What others do to the shared state, the clocks, and what the peers do are the
environment's.  The log records what the request asked the breaker, sent, read and had recorded; `foreign` and `owed` follow
the read buffer: how many of its first bytes no current connection sent, and how many requests on the current connection
still wait for their final response.
-/
namespace WayBalancer

open Str Crlf
open Proc (Turn bind_ok pure_ok skipIf)

/-! ## Errors -/

inductive DispatchError
  | connectTimeout (target : SocketAddr)
  | connect (target : SocketAddr) (source : String)
  | relay (error : Http1ProxyError)
deriving DecidableEq

def DispatchError.isIdleTimeout : DispatchError → Bool
  | .relay (.idleTimeout _) => true
  | _                       => false

def errorIsUpstreamPassiveFailure : DispatchError → Bool
  | .connectTimeout _           => true
  | .connect _ _                => true
  | .relay (.requestIo _)       => true
  | .relay (.parseResponse _)   => true
  | .relay (.idleTimeout stage) => stage == "response head"
  | .relay _                    => false

def errorAllowsStaleIfError : DispatchError → Bool
  | .connectTimeout _           => true
  | .connect _ _                => true
  | .relay (.parseResponse _)   => true
  | .relay (.requestIo _)       => true
  | .relay (.idleTimeout stage) => stage == "request body" || stage == "response head"
  | .relay _                    => false

/-- `http1_stale_reuse_retryable_response_error`; which texts are of the four kinds of I/O errors is a parameter. -/
def http1StaleReuseRetryableResponseError (connectionLost : String → Bool) : Http1ProxyError → Bool
  | .parseResponse .incompleteHead => true
  | .parseResponse (.io source)    => connectionLost source
  | _                              => false

def classifyHttp1ResponseFailure (status : UInt16) : Option UpstreamFailureClass :=
  if status = 503 then some .overloaded
  else if status = 501 ∨ status = 505 then some .permanent
  else if 500 ≤ status ∧ status ≤ 599 then some .temporary
  else none

/-! ## Requests that may be sent again -/

def requestMethodIsIdempotent (method : Text) : Bool :=
  [lit "GET", lit "HEAD", lit "OPTIONS", lit "TRACE", lit "PUT", lit "DELETE"].any (eqIgnoreCase method)

variable (headers : List HttpHeader)

def requestHasIdempotencyKeyOverride : Bool :=
  headers.any (fun header => (header.isNamed (lit "idempotency-key") || header.isNamed (lit "x-idempotency-key")) &&
    !(trim header.value).isEmpty)

variable (request : Http1RequestHead)

def requestIsSafeStaleReuseRetryCandidate : Bool :=
  request.bodyKind == .none && (requestMethodIsIdempotent request.method || requestHasIdempotencyKeyOverride request.headers)

/-! ## Heads written to the client -/

def applyHttp1HeaderMutation : HeaderMutationConfig → List HttpHeader
  | .set name value =>
    let normalized := (normalizeHttpHeaderName name).getD (lower name)
    headers.filter (fun header => !header.isNamed normalized) ++ [⟨normalized, value⟩]
  | .remove name    => headers.filter (fun header => !header.isNamed name)

def applyHttp1HeaderMutations (mutations : List HeaderMutationConfig) : List HttpHeader :=
  mutations.foldl applyHttp1HeaderMutation headers

def transformResponseHeaders (transform : Option ResponseTransformConfig) (headers : List HttpHeader) : List HttpHeader :=
  match transform with
  | none           => headers
  | some transform => applyHttp1HeaderMutations headers transform.headerMutations

variable (keepAlive : Bool)

def connectionClose : List HttpHeader :=
  if keepAlive then [] else [⟨lit "connection", lit "close"⟩]

def contentLengthLine (length : ℕ) : HttpHeader := ⟨lit "content-length", lit (toString length)⟩

def localResponseHeaders (body : Text) : List HttpHeader :=
  ⟨lit "content-type", lit "text/plain; charset=utf-8"⟩ :: connectionClose keepAlive ++ [contentLengthLine (byteLen body)]

def cachedResponseHeaders (entry : HttpCacheEntry) (transform : Option ResponseTransformConfig) : List HttpHeader :=
  transformResponseHeaders transform (entry.headers.map (fun header =>
    ⟨(fromUtf8 header.name).getD [], (TrustedClientIpPolicy.visibleAscii header.value).getD []⟩)) ++ connectionClose keepAlive

def hasNonChunkedTransferCoding : Bool :=
  (transferCodingTokens headers).any (fun token => !eqIgnoreCase token (lit "chunked"))

variable (response : Http1ResponseHead)

/-- Whether the body must be reframed for a client that cannot decode chunks. -/
def reframesForHttp10 : Bool :=
  request.http10 && (response.bodyKind == .chunked || response.bodyKind == .closeDelimited)

def downstreamResponseHeaders (transform : Option ResponseTransformConfig) (normalized : List HttpHeader) : List HttpHeader :=
  let headers := transformResponseHeaders transform normalized
  let reframed := if reframesForHttp10 request response then
    headers.filter (fun header => !header.isNamed (lit "transfer-encoding") && !header.isNamed (lit "trailer")) else headers
  reframed ++ connectionClose request.keepAlive

/-! ## Upgrades -/

def singleHeaderValue (name : Text) : Option Text :=
  match linesOf headers name with
  | [header] => some header.value
  | _        => none

def responseAcceptsRequestedUpgrade : UpgradeProtocolConfig → Bool
  | .websocket => headerValueContainsToken response.headers (lit "connection") (lit "upgrade") &&
      (singleHeaderValue response.headers (lit "upgrade")).any (fun value => eqIgnoreCase value (lit "websocket"))

variable (d : RelayDirection)

/-- `writer.shutdown`: it fails where the peer takes no more bytes. -/
def shutdownWriter : Proc Writer Http1ProxyError Unit := fun w =>
  match w.fault with
  | none   => (.ok (), w)
  | some f => if f.after = 0 then (.error (ioError d f.source), w) else (.ok (), w)

def tunnelReadError : Http1ProxyError → Http1ProxyError
  | .idleTimeout _ => .idleTimeout "upgrade tunnel"
  | error          => error

/-- A turn of `relay_upgrade_direction`. -/
def relayUpgradeTurn (_ : Unit) : RelayProc (Turn Unit Unit) := do
  let got ← onInput ((readSome d 8192).mapError tunnelReadError)
  if got.isEmpty then do
    onWriter (shutdownWriter d)
    return .done ()
  else do
    onWriter (writeAll d .data got)
    return .again ()

theorem relayUpgradeTurn_lt (u : Unit) (s : Relay) (u' : Unit) (s' : Relay) (h : relayUpgradeTurn d u s = (.ok (.again u'), s')) :
    (s'.input.stream.flatMap ReadEvent.bytes).length < (s.input.stream.flatMap ReadEvent.bytes).length := by
  simp only [relayUpgradeTurn, bind_ok, onInput_ok, Proc.mapError_ok] at h
  obtain ⟨got, _, ⟨i, hr, rfl⟩, h⟩ := h
  cases hemp : got.isEmpty with
  | true =>
    rw [hemp, if_pos rfl] at h
    simp only [bind_ok, pure_ok, reduceCtorEq, false_and, and_false, exists_false] at h
  | false =>
    rw [hemp, if_neg (by decide)] at h
    simp only [bind_ok, onWriter_ok, writeAll_ok, pure_ok] at h
    obtain ⟨_, _, ⟨w, ⟨-, rfl⟩, rfl⟩, -, rfl⟩ := h
    exact readSome_lt hr (by simpa using hemp)

def relayUpgradeDirection : RelayProc Unit :=
  Proc.loop (fun _ s => (s.input.stream.flatMap ReadEvent.bytes).length) (relayUpgradeTurn d) (relayUpgradeTurn_lt d) ()

structure Duplex where
  client : Input
  toClient : Writer
  upstream : Input
  toUpstream : Writer

namespace Duplex

def onRequest {α : Type} (x : RelayProc α) : Proc Duplex Http1ProxyError α :=
  x.focus (fun s => ⟨s.client, s.toUpstream⟩) (fun r s => { s with client := r.input, toUpstream := r.writer })

def onResponse {α : Type} (x : RelayProc α) : Proc Duplex Http1ProxyError α :=
  x.focus (fun s => ⟨s.upstream, s.toClient⟩) (fun r s => { s with upstream := r.input, toClient := r.writer })

end Duplex

/-- What is left in a read buffer goes to the other side first. -/
def flushBuffer : RelayProc Unit := do
  let s ← Proc.get
  skipIf s.input.buffer.isEmpty (do
    onWriter (writeAll d .data s.input.buffer)
    onInput (Proc.update (fun i => { i with buffer := [] })))

/-- `try_join!`: both directions have ended, or the failure that came first. -/
def joinDirections (requestFailsFirst : Bool) (request response : Except Http1ProxyError Unit) :
    Proc Duplex Http1ProxyError Unit :=
  match request, response with
  | .ok _, .ok _        => return ()
  | .error e, .ok _     => Proc.fail e
  | .ok _, .error e     => Proc.fail e
  | .error e, .error e' => Proc.fail (if requestFailsFirst then e else e')

/-- `relay_upgraded_streams`: what is buffered on both sides, then both directions.  The directions share no state, so each is run
to its end; of a failed tunnel nothing is used any more. -/
def relayUpgradedStreams (requestFailsFirst : Bool) : Proc Duplex Http1ProxyError Unit := do
  Duplex.onRequest (flushBuffer .request)
  Duplex.onResponse (flushBuffer .response)
  let request ← Proc.attempt (Duplex.onRequest (relayUpgradeDirection .request))
  let response ← Proc.attempt (Duplex.onResponse (relayUpgradeDirection .response))
  joinDirections requestFailsFirst request response

/-! ## Deadlines -/

def effectiveDestinationUpstreamTimeouts (base : ConnectionTimeouts) (destinationPolicy : Option RouteDestinationPolicyRuntime)
    (managers : FailureManagers) : ConnectionTimeouts :=
  match destinationPolicy with
  | none        => base
  | some policy =>
    if !policy.enforceTimeoutHierarchy then base
    else match destinationFailureManager (some policy) managers with
      | none         => base
      | some manager => { base with
          connectTimeout := manager.effectiveTimeout .connect, idleTimeout := manager.effectiveTimeout .idle }

def boundBy (manager : FailureManager) (category : TimeoutCategory) (elapsed : ℕ) (selected : ℕ × TimeoutCategory) :
    Except TimeoutCategory (ℕ × TimeoutCategory) :=
  let allowed := manager.effectiveTimeout category
  if allowed ≤ elapsed then .error category
  else if allowed - elapsed < selected.1 then .ok (allowed - elapsed, category)
  else .ok selected

def boundedDispatchTimeout (destinationPolicy : Option RouteDestinationPolicyRuntime) (managers : FailureManagers)
    (baseTimeout requestElapsed attemptElapsed : ℕ) : Except TimeoutCategory (ℕ × TimeoutCategory) :=
  match destinationPolicy with
  | none        => .ok (baseTimeout, .idle)
  | some policy =>
    if !policy.enforceTimeoutHierarchy then .ok (baseTimeout, .idle)
    else match destinationFailureManager (some policy) managers with
      | none         => .ok (baseTimeout, .idle)
      | some manager => (boundBy manager .request requestElapsed (baseTimeout, .idle)).bind (boundBy manager .attempt attemptElapsed)

/-! ## The session -/

structure UpstreamConnection where
  stream : List ReadEvent
  writer : Writer
deriving DecidableEq

inductive DispatchEvent
  | asked (retried allowed : Bool)
  | connected
  | sent (retried reused : Bool)
  | response (status : UInt16) (foreign owed : ℕ)
  | failure (cause : UpstreamFailureClass)
  | timeout (category : TimeoutCategory)
  | success
deriving DecidableEq

def DispatchEvent.isRecord : DispatchEvent → Bool
  | .failure _ => true
  | .timeout _ => true
  | .success   => true
  | _          => false

def DispatchEvent.isResponse : DispatchEvent → Bool
  | .response _ _ _ => true
  | _               => false

def DispatchEvent.isSent : DispatchEvent → Bool
  | .sent _ _ => true
  | _         => false

structure Session where
  client : Input
  toClient : Writer
  upstream : Option UpstreamConnection
  upstreamBuffer : Bytes
  activeUpstream : Option UpstreamTarget
  lastUpstreamActivity : Option ℕ
  upstreamConnectedAt : Option ℕ
  managers : FailureManagers
  store : Option HttpCacheStore
  foreign : ℕ
  owed : ℕ
  log : List DispatchEvent

abbrev Dispatch (α : Type) := Proc Session DispatchError α

namespace Session

/-- The connection in use; the code holds one wherever this is read. -/
def connection (s : Session) : UpstreamConnection := s.upstream.getD ⟨[], ⟨[], none⟩⟩

def requestSide (s : Session) : Relay := ⟨s.client, s.connection.writer⟩

def putRequestSide (r : Relay) (s : Session) : Session :=
  { s with client := r.input, upstream := some { s.connection with writer := r.writer } }

def responseSide (s : Session) : Relay := ⟨⟨s.connection.stream, s.upstreamBuffer⟩, s.toClient⟩

/-- Bytes are taken off the front of the read buffer, the foreign ones first. -/
def putResponseSide (r : Relay) (s : Session) : Session :=
  { s with
    upstream := some { s.connection with stream := r.input.stream }
    upstreamBuffer := r.input.buffer
    toClient := r.writer
    foreign := s.foreign - (s.responseSide.unread.length - r.unread.length) }

def duplex (s : Session) : Duplex := ⟨s.client, s.toClient, s.responseSide.input, s.connection.writer⟩

def putDuplex (t : Duplex) (s : Session) : Session :=
  { s with
    client := t.client, toClient := t.toClient, upstream := some ⟨t.upstream.stream, t.toUpstream⟩
    upstreamBuffer := t.upstream.buffer
    foreign := s.foreign - (s.responseSide.unread.length - t.upstream.unread.length) }

/-- `drop_upstream_connection`: the read buffer stays. -/
def dropUpstreamConnection (s : Session) : Session :=
  { s with lastUpstreamActivity := none, upstreamConnectedAt := none, upstream := none }

def connect (target : UpstreamTarget) (connectedAt : ℕ) (connection : UpstreamConnection) (s : Session) : Session :=
  { s with
    activeUpstream := some target, lastUpstreamActivity := some connectedAt, upstreamConnectedAt := some connectedAt
    upstream := some connection, foreign := s.upstreamBuffer.length, owed := 0 }

end Session

def upstreamConnectionReuseExpired (now : ℕ) (lastUpstreamActivity upstreamConnectedAt : Option ℕ) (reuseTimeout : ℕ) : Bool :=
  lastUpstreamActivity.all (fun lastUsedAt => decide (reuseTimeout ≤ now - lastUsedAt)) ||
    upstreamConnectedAt.all (fun connectedAt => decide (reuseTimeout ≤ now - connectedAt))

namespace Session

def connectedTo (target : UpstreamTarget) (s : Session) : Bool :=
  s.upstream.isSome && s.activeUpstream.any (fun active => decide (active.address = target.address ∧ active.name = target.name))

/-- Whether `ensure_upstream_connection` keeps the connection it finds. -/
def reusable (target : UpstreamTarget) (idleTimeout now : ℕ) (s : Session) : Bool :=
  s.connectedTo target && !upstreamConnectionReuseExpired now s.lastUpstreamActivity s.upstreamConnectedAt idleTimeout

end Session

/-! ## The environment -/

inductive ConnectOutcome
  | timedOut
  | failed (source : String)
  | connected (connection : UpstreamConnection)

structure Http3UpstreamResponse where
  status : UInt16
  reason : Text
  headers : List HttpHeader
  body : Bytes

/-- How a dispatch over HTTP/3 ends, and whether its request went out before it failed. -/
inductive Http3Outcome
  | gracefulDrain (sent : Bool)
  | failed (sent : Bool) (source : String)
  | answered (response : Http3UpstreamResponse)

def Http3Outcome.sent : Http3Outcome → Bool
  | .gracefulDrain sent => sent
  | .failed sent _      => sent
  | .answered _         => true

inductive DispatchStage
  | requestBody
  | responseHead
  | responseBody
deriving DecidableEq

/-- Where a dispatch reads a clock or turns to the shared state; each is passed at most once in an attempt. -/
inductive DispatchPoint
  | baseRequest
  | started
  | gate
  | reuse
  | connect
  | head
  | deadline (stage : DispatchStage) (category : TimeoutCategory)
  | recordDeadline (stage : DispatchStage)
  | requestBody
  | responseHead
  | retryRequest
  | retryBudget
  | delivery
deriving DecidableEq

/-- Everything a dispatch meets, by the attempt and the point where it meets it. -/
structure DispatchEnv where
  requestStarted : ℕ
  instant : Bool → DispatchPoint → ℕ
  wall : Bool → DispatchPoint → ℕ
  /-- What others did to the failure managers meanwhile. -/
  elsewhere : Bool → DispatchPoint → FailureManagers → FailureManagers
  connect : Bool → ConnectOutcome
  http3 : Http3Outcome
  storeElsewhere : HttpCacheStore → HttpCacheStore
  /-- Of two failing directions of a tunnel, whether the client's fails first. -/
  requestFailsFirst : Bool
  connectionLost : String → Bool
  /-- The text of an error, which one relabelled takes along. -/
  display : DispatchError → String

/-- What `process_uncached_request` is called with. -/
structure DispatchRequest where
  parser : HeadParser
  parseHttpDate : Text → Option ℕ
  metadataSize : ℕ
  limits : Http1Limits
  timeouts : ConnectionTimeouts
  responseCache : Option HttpCacheResourceConfig
  effectiveClientIp : IpAddr
  selectedUpstream : UpstreamTarget
  request : Http1RequestHead
  requestedUpgrade : Option UpgradeProtocolConfig
  destinationPolicy : Option RouteDestinationPolicyRuntime
  responseTransform : Option ResponseTransformConfig
  cacheLookupKey : Option HttpCacheKey
  staleFallback : Option HttpCacheEntry
  revalidationEntry : Option HttpCacheEntry
  now : ℕ

namespace DispatchRequest

def maxBodyBytes (d : DispatchRequest) : ℕ := d.limits.maxBodyBytes.toNat

/-- Once a head has gone out, no stale response can take its place. -/
def responseStartedError (d : DispatchRequest) (env : DispatchEnv) (error : DispatchError) : DispatchError :=
  if d.staleFallback.isSome && errorAllowsStaleIfError error then .relay (.responseIo (env.display error)) else error

def requestHead (d : DispatchRequest) : Bytes :=
  encodeRequestHead d.request.method d.request.target d.request.version
    (http1RequestHeaders d.request d.effectiveClientIp d.requestedUpgrade d.revalidationEntry)

end DispatchRequest

/-! ## Steps on the session -/

namespace Dispatch

def emit (event : DispatchEvent) : Dispatch Unit := Proc.update (fun s => { s with log := s.log ++ [event] })

def toUpstream {α : Type} (x : Proc Writer Http1ProxyError α) : Dispatch α :=
  ((onWriter x).focus Session.requestSide Session.putRequestSide).mapError .relay

def fromClient {α : Type} (x : RelayProc α) : Dispatch α :=
  (x.focus Session.requestSide Session.putRequestSide).mapError .relay

def fromUpstream {α : Type} (x : RelayProc α) : Dispatch α :=
  (x.focus Session.responseSide Session.putResponseSide).mapError .relay

def toClient (bytes : Bytes) : Dispatch Unit :=
  ((writeAll .response .data bytes).focus Session.toClient (fun w s => { s with toClient := w })).mapError .relay

def tunnel {α : Type} (x : Proc Duplex Http1ProxyError α) : Dispatch α :=
  (x.focus Session.duplex Session.putDuplex).mapError .relay

def dropUpstream : Dispatch Unit := Proc.update Session.dropUpstreamConnection

def writeLocalResponse (keepAlive : Bool) (status : UInt16) (body : Text) : Dispatch Unit := do
  toClient (encodeResponseHead .http1 status [] (localResponseHeaders keepAlive body))
  toClient (utf8 body)

def writeCachedResponse (requestMethod : Text) (keepAlive : Bool) (entry : HttpCacheEntry)
    (responseTransform : Option ResponseTransformConfig) : Dispatch Unit := do
  toClient (encodeResponseHead .http1 (UInt16.ofNat entry.metadata.status) []
    (cachedResponseHeaders keepAlive entry responseTransform))
  skipIf (eqIgnoreCase requestMethod (lit "HEAD")) (toClient entry.body)

section
variable (d : DispatchRequest) (env : DispatchEnv) (retried : Bool)

/-! ### The destination's failure manager -/

/-- Whether what a flag of the policy asks for reaches a manager: the policy holds the one it was compiled with. -/
def heeds (enforced : RouteDestinationPolicyRuntime → Bool) : Bool :=
  d.destinationPolicy.any (fun policy => enforced policy && policy.failureManager.isSome)

variable (point : DispatchPoint)

/-- A call on the managers, after what others did to them meanwhile. -/
def consult {α : Type} (f : ℕ → FailureManagers → α × FailureManagers) : Dispatch α := fun s =>
  let (answer, managers) := f (env.wall retried point) (env.elsewhere retried point s.managers)
  (.ok answer, { s with managers })

/-- A call that is logged where it reaches a manager. -/
def notify (enforced : RouteDestinationPolicyRuntime → Bool) (f : ℕ → FailureManagers → FailureManagers)
    (event : DispatchEvent) : Dispatch Unit := do
  consult env retried point (fun now managers => ((), f now managers))
  skipIf (!heeds d enforced) (emit event)

def recordTimeout (category : TimeoutCategory) : Dispatch Unit :=
  notify d env retried point (·.enforceTimeoutHierarchy)
    (fun now => recordDestinationTimeout d.destinationPolicy now category) (.timeout category)

def recordFailure (cause : UpstreamFailureClass) : Dispatch Unit :=
  notify d env retried point (·.enforceCircuitBreaker)
    (fun now => recordDestinationFailure d.destinationPolicy now cause) (.failure cause)

def recordSuccess : Dispatch Unit :=
  notify d env retried point (·.enforceCircuitBreaker) (fun _ => recordDestinationSuccess d.destinationPolicy) .success

/-- What a failed relay or tunnel is recorded as. -/
def recordRelayError (category : TimeoutCategory) (error : DispatchError) : Dispatch Unit :=
  if error.isIdleTimeout then recordTimeout d env retried point category else recordFailure d env retried point .temporary

def recordStatus (status : UInt16) : Dispatch Unit :=
  match classifyHttp1ResponseFailure status with
  | some cause => recordFailure d env retried point cause
  | none       => recordSuccess d env retried point

/-- The breaker's gate; an answer is logged where a breaker was asked. -/
def allowRequest : Dispatch Bool := do
  let allowed ← consult env retried .gate (fun now => allowDestinationRequest d.destinationPolicy now)
  skipIf (!heeds d (·.enforceCircuitBreaker)) (emit (.asked retried allowed))
  return allowed

/-- `allow_destination_retry`, without an endpoint whose ejection would refuse it. -/
def allowRetry (cause : UpstreamFailureClass) : Dispatch Bool :=
  consult env retried .retryRequest (fun now =>
    allowDestinationRetry d.destinationPolicy cause false now (env.wall retried .retryBudget))

/-! ### The connection -/

def connectUpstream : Dispatch Bool :=
  match env.connect retried with
  | .timedOut => do
    recordTimeout d env retried .connect .connect
    Proc.fail (.connectTimeout d.selectedUpstream.address)
  | .failed source => do
    recordFailure d env retried .connect .connect
    Proc.fail (.connect d.selectedUpstream.address source)
  | .connected connection => do
    Proc.update (Session.connect d.selectedUpstream (env.instant retried .connect) connection)
    emit .connected
    return false

variable (timeouts : ConnectionTimeouts)

/-- `ensure_upstream_connection`: whether an existing connection is reused.  An expired one is dropped with its stamps, one to
another target without. -/
def ensureUpstreamConnection : Dispatch Bool := do
  let s ← Proc.get
  if s.reusable d.selectedUpstream timeouts.idleTimeout (env.instant retried .reuse) then return true
  else do
    Proc.update (fun s => if s.connectedTo d.selectedUpstream then s.dropUpstreamConnection else { s with upstream := none })
    connectUpstream d env retried

def deadline (timeouts : ConnectionTimeouts) (stage : DispatchStage) : Dispatch (Except TimeoutCategory (ℕ × TimeoutCategory)) := do
  let s ← Proc.get
  return boundedDispatchTimeout d.destinationPolicy s.managers timeouts.idleTimeout
    (env.instant retried (.deadline stage .request) - env.requestStarted)
    (env.instant retried (.deadline stage .attempt) - env.instant retried .started)

/-! ### After the response head -/

inductive Exit
  | answered (status : UInt16)
  | retry
deriving DecidableEq

variable (response : Http1ResponseHead)

/-- A response without a body is complete with its head; one that is not final leaves its request waiting. -/
def settle : Dispatch Unit :=
  Proc.update (fun s => if 200 ≤ response.status then { s with owed := s.owed - 1 } else s)

/-- What becomes of the connection after an exchange. -/
def release (keepAlive : Bool) : Dispatch Unit :=
  if keepAlive then Proc.update (fun s => { s with lastUpstreamActivity := some (env.instant retried .delivery) })
  else dropUpstream

def insertEntry (entry : HttpCacheEntry) : Dispatch Unit :=
  match d.responseCache, d.cacheLookupKey with
  | some _, some key => Proc.update (fun s => { s with
      store := s.store.map (fun store => ((env.storeElsewhere store).insert d.metadataSize d.now key entry).2) })
  | _, _             => return ()

variable (headers : List HttpHeader)

def confirm (staleEntry : HttpCacheEntry) : Dispatch Exit := do
  let refreshed := (d.responseCache.bind (fun policy =>
    refreshRevalidatedEntry d.parseHttpDate policy staleEntry headers d.now)).getD staleEntry
  insertEntry d env refreshed
  writeCachedResponse d.request.method d.request.keepAlive refreshed d.responseTransform
  recordSuccess d env retried .delivery
  release env retried response.keepAlive
  return .answered response.status

def serveStale (staleEntry : HttpCacheEntry) : Dispatch Exit := do
  writeCachedResponse d.request.method d.request.keepAlive staleEntry d.responseTransform
  recordSuccess d env retried .delivery
  dropUpstream
  return .answered response.status

def fillRelay : RelayProc CacheFillAttempt :=
  match d.responseCache, d.cacheLookupKey with
  | some policy, some _ =>
    buildCacheableResponseEntry d.parseHttpDate policy d.maxBodyBytes d.request.method response headers d.now
  | _, _ => return .skipped

/-- The fill of the cache while the body is relayed; whether it was relayed. -/
def fillCache : Dispatch Bool := do
  let fill ← (fromUpstream (fillRelay d response headers)).mapError (d.responseStartedError env)
  fill.entry.elim (pure ()) (insertEntry d env)
  return fill.bodyRelayed

def responseRelay : RelayProc Unit :=
  if reframesForHttp10 d.request response then relayResponseBodyForHttp10 d.maxBodyBytes response.bodyKind
  else relayBody .response d.maxBodyBytes response.bodyKind

def relayResponse : Dispatch Unit := do
  match ← deadline d env retried timeouts .responseBody with
  | .error category => do
    recordTimeout d env retried (.recordDeadline .responseBody) category
    dropUpstream
    Proc.fail (.relay (.idleTimeout "response body"))
  | .ok (_, category) => do
    match ← Proc.attempt (fromUpstream (responseRelay d response)) with
    | .error error => do
      recordRelayError d env retried .delivery category error
      Proc.fail (d.responseStartedError env error)
    | .ok _ => return ()

def forward : Dispatch Exit := do
  toClient (encodeResponseHead response.version response.status response.reason
    (downstreamResponseHeaders d.request response d.responseTransform headers))
  let bodyRelayed ← fillCache d env response headers
  skipIf bodyRelayed (relayResponse d env retried timeouts response)
  skipIf (response.bodyKind == .none) (settle response)
  recordStatus d env retried .delivery response.status
  release env retried response.keepAlive
  return .answered response.status

def switchProtocols (upgrade : UpgradeProtocolConfig) (response : Http1ResponseHead) (headers : List HttpHeader) : Dispatch Exit := do
  if responseAcceptsRequestedUpgrade response upgrade then do
    toClient (encodeResponseHead response.version response.status response.reason (appendUpgradeHeaders headers response.headers))
    match ← Proc.attempt (tunnel (relayUpgradedStreams env.requestFailsFirst)) with
    | .error error => do
      recordRelayError d env retried .delivery .idle error
      Proc.fail error
    | .ok _ => do
      recordSuccess d env retried .delivery
      dropUpstream
      return .answered response.status
  else do
    dropUpstream
    Proc.fail (.relay (.parseResponse (.invalid "invalid upgrade response headers")))

def deliver : Dispatch Exit :=
  let headers := normalizeResponseHeaders response.headers true response.bodyKind
  match d.requestedUpgrade.filter (fun _ => response.status = 101) with
  | some upgrade => switchProtocols d env retried upgrade response headers
  | none => match d.revalidationEntry.filter (fun _ => response.status = 304) with
    | some staleEntry => confirm d env retried response headers staleEntry
    | none => match d.staleFallback.filter (fun _ => isStaleIfErrorResponseStatus response.status) with
      | some staleEntry => serveStale d env retried response staleEntry
      | none =>
        if d.request.http10 && hasNonChunkedTransferCoding response.headers then do
          dropUpstream
          Proc.fail (.relay (.parseResponse (.invalid "unsupported response transfer coding for HTTP/1.0 client")))
        else forward d env retried timeouts response headers

/-! ### An attempt -/

/-- The local answer to a deadline that has passed; the connection is kept. -/
def timedOut (stage : DispatchStage) (category : TimeoutCategory) : Dispatch Exit := do
  recordTimeout d env retried (.recordDeadline stage) category
  writeLocalResponse d.request.keepAlive 504 (lit "route destination timed out\n")
  return .answered 504

variable (mayRetry : Bool)

/-- A lost exchange, sent once more where the request, the connection and the destination's policy let it. -/
def retryOr (cause : UpstreamFailureClass) (error : DispatchError) : Dispatch Exit := do
  if mayRetry then do
    let allowed ← allowRetry d env retried cause
    if allowed then return .retry else Proc.fail error
  else Proc.fail error

def readResponse (category : TimeoutCategory) : Dispatch Exit := do
  match ← Proc.attempt (fromUpstream (onInput (readResponseHead d.parser d.limits d.request.method))) with
  | .ok response => do
    let s ← Proc.get
    emit (.response response.status s.foreign s.owed)
    skipIf (response.bodyKind != .none) (settle response)
    deliver d env retried timeouts response
  | .error (.relay (.idleTimeout stage)) => do
    recordTimeout d env retried .responseHead category
    dropUpstream
    Proc.fail (.relay (.idleTimeout stage))
  | .error error => do
    dropUpstream
    recordFailure d env retried .responseHead .temporary
    retryOr d env retried (mayRetry && match error with
      | .relay error => http1StaleReuseRetryableResponseError env.connectionLost error
      | _            => false) .temporary error

def awaitResponse : Dispatch Exit := do
  match ← deadline d env retried timeouts .responseHead with
  | .error category   => timedOut d env retried .responseHead category
  | .ok (_, category) => readResponse d env retried timeouts mayRetry category

def exchange : Dispatch Exit := do
  match ← deadline d env retried timeouts .requestBody with
  | .error category   => timedOut d env retried .requestBody category
  | .ok (_, category) => do
    match ← Proc.attempt (fromClient (relayBody .request d.maxBodyBytes d.request.bodyKind)) with
    | .error error => do
      recordRelayError d env retried .requestBody category error
      Proc.fail error
    | .ok _ => awaitResponse d env retried timeouts mayRetry

def send (reused : Bool) : Dispatch Exit := do
  let mayRetry := reused && !retried && requestIsSafeStaleReuseRetryCandidate d.request
  emit (.sent retried reused)
  Proc.update (fun s => { s with owed := s.owed + 1 })
  match ← Proc.attempt (toUpstream (writeAll .request .data d.requestHead)) with
  | .error error => do
    dropUpstream
    recordFailure d env retried .head .connect
    retryOr d env retried mayRetry .connect error
  | .ok _ => exchange d env retried timeouts mayRetry

def attempt : Dispatch Exit := do
  let allowed ← allowRequest d env retried
  if allowed then do
    let reused ← ensureUpstreamConnection d env retried timeouts
    send d env retried timeouts reused
  else do
    writeLocalResponse d.request.keepAlive 503 (lit "route destination circuit open\n")
    return .answered 503

end

end Dispatch
end WayBalancer
