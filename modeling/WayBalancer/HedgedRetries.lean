import WayBalancer.Dispatch
import WayBalancer.Hedging
/-!
# HedgedRetries — the attempts of an HTTP/2 stream and the retry budget

The attempts that `proxy_one_http2_stream` of `crates/runtime/src/http2_proxy/stream_forwarding.rs` sends for its destination.
Each retry asks the budget, but a hedged one is two attempts for one grant: `allow_hedge` is always true (`budget_covers_iff`).
-/
namespace WayBalancer

/-- An ask of the budget, at the managers as the other streams have left them. -/
structure RetryAsk where
  managers : FailureManagers
  ejected : Bool
  requestNow : ℕ
  retryNow : ℕ

inductive SendRound
  -- the breaker refuses, no client connects, or the request cannot be built
  | ended
  -- the client was not ready, or did not take the request
  | failed (hadPriorSuccessfulStream staleReuseRetryable : Bool) (ask : RetryAsk)
  | sent (hadPriorSuccessfulStream : Bool)

/-- A run of `dispatch_retry_response_attempt`, which may fail before its request is sent. -/
structure RetryAttempt where
  sends : Bool
  time : ℕ
  result : Except Unit Unit

structure RetryDispatch where
  primary : RetryAttempt
  hedge : RetryAttempt
  primarySeen : Bool
  primaryPolled : Bool

inductive AwaitedResponse
  -- the body could not be relayed, or the time is up
  | ended
  | answered
  | failed (staleReuseRetryable : Bool) (ask : RetryAsk) (retry : RetryDispatch)

/-- A gRPC response whose status is a failure. -/
structure GrpcFailure where
  cause : UpstreamFailureClass
  unaryGrpcRetrySafe : Bool
  ask : RetryAsk
  sends : Bool

structure Http2Stream where
  safeStaleReuseRetry : Bool
  rounds : List SendRound
  response : AwaitedResponse
  grpc : Option GrpcFailure

structure StreamTrace where
  attempts : ℕ
  grants : ℕ

/-- The attempts sent, and whether there is a response. -/
def dispatchRetryResponseWithOptionalHedge (hedgingPolicy : Option RequestHedgingPolicy) (retry : RetryDispatch) : ℕ × Bool :=
  match hedgingPolicy with
  | none        => (retry.primary.sends.toNat, retry.primary.result.isOk)
  | some policy =>
    let run := executeWithHedge policy true retry.primarySeen retry.primaryPolled retry.primary.time retry.hedge.time
      retry.primary.result retry.hedge.result
    ((run.launched.map fun attempt => if attempt.number = 1 then retry.primary.sends.toNat else retry.hedge.sends.toNat).sum,
      run.result.isOk)

section
variable (policy : RouteDestinationPolicyRuntime) (hedgingPolicy : Option RequestHedgingPolicy) (stream : Http2Stream)

def RetryAsk.granted (ask : RetryAsk) (cause : UpstreamFailureClass) : Bool :=
  (allowDestinationRetry (some policy) cause ask.ejected ask.requestNow ask.retryNow ask.managers).1

def Http2Stream.retriesStale (prior retried retryable : Bool) (ask : RetryAsk) : Bool :=
  prior && stream.safeStaleReuseRetry && !retried && retryable && ask.granted policy .temporary

/-- The grants and, where the request is sent, whether its client had served before and whether it is a retry. -/
def sendLoop : Bool → List SendRound → ℕ × Option (Bool × Bool)
  | _, [] | _, .ended :: _      => (0, none)
  | retried, .sent prior :: _ => (0, some (prior, retried))
  | retried, .failed prior retryable ask :: rounds =>
    if stream.retriesStale policy prior retried retryable ask then
      let (grants, sent) := sendLoop true rounds
      (grants + 1, sent)
    else (0, none)

/-- The further attempts and grants, and whether there is a response in the end. -/
def awaitResponse (prior retried : Bool) : StreamTrace × Bool :=
  match stream.response with
  | .ended                      => (⟨0, 0⟩, false)
  | .answered                   => (⟨0, 0⟩, true)
  | .failed retryable ask retry =>
    if stream.retriesStale policy prior retried retryable ask then
      let (attempts, answered) := dispatchRetryResponseWithOptionalHedge hedgingPolicy retry
      (⟨attempts, 1⟩, answered)
    else (⟨0, 0⟩, false)

def grpcRetry (answered : Bool) : StreamTrace :=
  match stream.grpc with
  | none         => ⟨0, 0⟩
  | some failure =>
    if answered && failure.unaryGrpcRetrySafe && failure.ask.granted policy failure.cause then ⟨failure.sends.toNat, 1⟩ else ⟨0, 0⟩

def proxyOneHttp2Stream : StreamTrace :=
  match sendLoop policy stream false stream.rounds with
  | (grants, none)                  => ⟨0, grants⟩
  | (grants, some (prior, retried)) =>
    let (retry, answered) := awaitResponse policy hedgingPolicy stream prior retried
    let grpc := grpcRetry policy stream answered
    ⟨1 + (retry.attempts + grpc.attempts), grants + (retry.grants + grpc.grants)⟩

/-- In every run, the attempts beyond the first of each stream are granted. -/
def BudgetCovers : Prop :=
  ∀ streams : List Http2Stream,
    let traces := streams.map (proxyOneHttp2Stream policy hedgingPolicy)
    (traces.map (·.attempts - 1)).sum ≤ (traces.map (·.grants)).sum

end

section
variable {policy : RouteDestinationPolicyRuntime} {hedgingPolicy : Option RequestHedgingPolicy} {stream : Http2Stream}

theorem dispatchRetry_le_one (h : ∀ p ∈ hedgingPolicy, p.enabled = false) (retry : RetryDispatch) :
    (dispatchRetryResponseWithOptionalHedge hedgingPolicy retry).1 ≤ 1 := by
  cases hedgingPolicy with
  | none => exact Bool.toNat_le _
  | some p => simpa [dispatchRetryResponseWithOptionalHedge, executeWithHedge, h p rfl, awaitPrimary] using Bool.toNat_le _

theorem grpcRetry_covered {answered : Bool} : (grpcRetry policy stream answered).attempts ≤ (grpcRetry policy stream answered).grants := by
  unfold grpcRetry
  split
  · exact le_rfl
  · split_ifs
    · exact Bool.toNat_le _
    · exact le_rfl

/-- A reused client fails before its response; the retry and its hedge are both sent. -/
def hedgedStream (hedgeDelay : ℕ) : Http2Stream where
  safeStaleReuseRetry := true
  rounds := [.sent true]
  response := .failed true ⟨fun _ => some (plainManager .closed), false, 0, 0⟩
    ⟨⟨true, hedgeDelay + 1, .ok ()⟩, ⟨true, 1, .ok ()⟩, false, false⟩
  grpc := none

variable (hb : policy.enforceRetryBudget = true)
include hb

theorem hedgedStream_trace {p : RequestHedgingPolicy} (hm : policy.failureManager ≠ none) (hp : p.enabled = true) :
    proxyOneHttp2Stream policy (some p) (hedgedStream p.hedgeDelay) = ⟨3, 1⟩ := by
  obtain ⟨key, hkey⟩ := Option.ne_none_iff_exists'.1 hm
  have hr : (plainManager .closed).allowRequest 0 = (true, plainManager .closed) := rfl
  have ha : ((plainManager .closed).allowRetry 0 .temporary).1.allowed = true := rfl
  have hg : (⟨fun _ => some (plainManager .closed), false, 0, 0⟩ : RetryAsk).granted policy .temporary = true := by
    cases hc : policy.enforceCircuitBreaker <;>
      simp [RetryAsk.granted, allowDestinationRetry, allowDestinationRequest, FailureManagers.ask, hkey, hb, hc, hr, ha]
  simp [proxyOneHttp2Stream, hedgedStream, sendLoop, awaitResponse, Http2Stream.retriesStale, hg, grpcRetry,
    dispatchRetryResponseWithOptionalHedge, executeWithHedge, afterFirst, hp]

variable (h : (∀ p ∈ hedgingPolicy, p.enabled = false) ∨ policy.failureManager = none)
include h

theorem awaitResponse_covered {prior retried : Bool} : (awaitResponse policy hedgingPolicy stream prior retried).1.attempts ≤
      (awaitResponse policy hedgingPolicy stream prior retried).1.grants := by
  unfold awaitResponse
  split
  · exact le_rfl
  · exact le_rfl
  · split_ifs with hg
    · rcases h with h | h
      · exact dispatchRetry_le_one h _
      · rw [Http2Stream.retriesStale, Bool.and_eq_true, RetryAsk.granted] at hg
        simp only [allowDestinationRetry, allowDestinationRequest, h, FailureManagers.ask, hb] at hg
        split_ifs at hg <;> simp at hg
    · exact le_rfl

theorem proxyOneHttp2Stream_covered :
    (proxyOneHttp2Stream policy hedgingPolicy stream).attempts - 1 ≤ (proxyOneHttp2Stream policy hedgingPolicy stream).grants := by
  unfold proxyOneHttp2Stream
  split
  · exact Nat.zero_le _
  · dsimp only
    rw [Nat.add_sub_cancel_left]
    exact (Nat.add_le_add (awaitResponse_covered hb h) grpcRetry_covered).trans (Nat.le_add_left _ _)

end

end WayBalancer
