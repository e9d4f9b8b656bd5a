import WayBalancer.Text
/-!
# CircuitBreaker — the breaker in front of an upstream

`CircuitBreaker` of `crates/runtime/src/failure_management.rs`: a record of three states and the counters they share, a
request's admission, and the two outcomes a request may report, in any state and as late as it likes.  Times are in
nanoseconds.
-/
namespace WayBalancer

open Str Word

inductive UpstreamFailureClass
  | connect
  | timeout
  | overloaded
  | temporary
  | permanent
deriving DecidableEq, Repr

def UpstreamFailureClass.countsTowardBreaker : UpstreamFailureClass → Bool
  | .permanent => false
  | _          => true

/-- The thresholds are 32-bit numbers. -/
structure CircuitBreakerPolicy where
  openFailureThreshold : ℕ
  openDuration : ℕ
  halfOpenSuccessThreshold : ℕ
  openFailureThreshold_le : openFailureThreshold ≤ u32Max
  halfOpenSuccessThreshold_le : halfOpenSuccessThreshold ≤ u32Max
deriving DecidableEq, Repr

inductive CircuitBreakerState
  | closed
  | opened
  | halfOpen
deriving DecidableEq, Repr

inductive FailureManagementError
  | zeroRetryWindow
  | zeroTimeout
  | invalidTimeoutOrder
  | invalidBreakerThreshold
deriving DecidableEq, Repr

inductive FailureManagementEventKind
  | breakerOpened
  | breakerHalfOpened
  | breakerClosed
deriving DecidableEq, Repr

structure FailureManagementEvent where
  kind : FailureManagementEventKind
  scope : Text
  detail : Text
deriving DecidableEq, Repr

structure CircuitBreakerRecord where
  state : CircuitBreakerState
  consecutiveFailures : ℕ
  halfOpenSuccesses : ℕ
  openedAt : ℕ
  halfOpenAdmitted : ℕ
  halfOpenWindowStarted : ℕ
deriving DecidableEq, Repr

/-- The two counters wrap at 64 bits; the events are the last `maxFailureEvents` ones. -/
structure CircuitBreaker where
  policy : CircuitBreakerPolicy
  record : CircuitBreakerRecord
  breakerStateChangeCount : ℕ
  breakerOpenRejectionCount : ℕ
  events : List FailureManagementEvent
deriving DecidableEq, Repr

def maxFailureEvents : ℕ := 64

namespace CircuitBreaker

def new (policy : CircuitBreakerPolicy) : Except FailureManagementError CircuitBreaker :=
  if policy.openFailureThreshold = 0 ∨ policy.halfOpenSuccessThreshold = 0 ∨ policy.openDuration = 0 then
    .error .invalidBreakerThreshold
  else .ok ⟨policy, ⟨.closed, 0, 0, 0, 0, 0⟩, 0, 0, []⟩

variable (b : CircuitBreaker)

def transition (newState : CircuitBreakerState) (kind : FailureManagementEventKind) (detail : String) : CircuitBreaker :=
  if b.record.state = newState then b
  else
    let events := if b.events.length = maxFailureEvents then b.events.tail else b.events
    { b with
      record := { b.record with state := newState }
      breakerStateChangeCount := wrapAdd b.breakerStateChangeCount 1
      events := events ++ [⟨kind, lit "upstream", lit detail⟩] }

variable (now : ℕ)

def armed : CircuitBreaker :=
  { b with record := { b.record with halfOpenAdmitted := 0, halfOpenWindowStarted := now } }

def rejected : CircuitBreaker :=
  { b with breakerOpenRejectionCount := wrapAdd b.breakerOpenRejectionCount 1 }

/-- The admission of a half-open breaker: a window is armed again after another cool-down, and admits as many probes as
successes are missing. -/
def admitProbe : Bool × CircuitBreaker :=
  let b := if b.policy.openDuration ≤ now - b.record.halfOpenWindowStarted then b.armed now else b
  let probeBudget := b.policy.halfOpenSuccessThreshold - b.record.halfOpenSuccesses
  if b.record.halfOpenAdmitted < probeBudget then
    (true, { b with record := { b.record with halfOpenAdmitted := b.record.halfOpenAdmitted + 1 } })
  else (false, b.rejected)

/-- The breaker once its cool-down, if it has elapsed, is over. -/
def cooledDown : CircuitBreaker :=
  if b.record.state = .opened ∧ b.policy.openDuration ≤ now - b.record.openedAt then
    (b.transition .halfOpen .breakerHalfOpened "breaker cool-down elapsed; allowing probe traffic").armed now
  else b

def allowRequest : Bool × CircuitBreaker :=
  let b := b.cooledDown now
  match b.record.state with
  | .opened   => (false, b.rejected)
  | .halfOpen => b.admitProbe now
  | .closed   => (true, b)

def recordSuccess : CircuitBreaker :=
  match b.record.state with
  | .closed   => { b with record := { b.record with consecutiveFailures := 0 } }
  | .opened   => b
  | .halfOpen =>
    let b := { b with record := { b.record with halfOpenSuccesses := satAdd32 b.record.halfOpenSuccesses 1 } }
    if b.policy.halfOpenSuccessThreshold ≤ b.record.halfOpenSuccesses then
      let b := b.transition .closed .breakerClosed "breaker recovered after successful half-open probes"
      { b with record := { b.record with consecutiveFailures := 0, halfOpenSuccesses := 0 } }
    else b

def recordFailure (failure : UpstreamFailureClass) : CircuitBreaker :=
  if failure.countsTowardBreaker then
    match b.record.state with
    | .closed =>
      let b := { b with record := { b.record with consecutiveFailures := satAdd32 b.record.consecutiveFailures 1 } }
      if b.policy.openFailureThreshold ≤ b.record.consecutiveFailures then
        let b := { b with record := { b.record with openedAt := now } }
        let b := b.transition .opened .breakerOpened "breaker opened after repeated upstream failures"
        { b with record := { b.record with halfOpenSuccesses := 0 } }
      else b
    | .halfOpen =>
      let b := { b with record := { b.record with openedAt := now } }
      let b := b.transition .opened .breakerOpened "breaker re-opened after failed half-open probe"
      { b with record := { b.record with consecutiveFailures := b.policy.openFailureThreshold, halfOpenSuccesses := 0 } }
    | .opened => { b with record := { b.record with openedAt := now } }
  else b

end CircuitBreaker

/-! ## Runs -/

inductive BreakerCall
  | allowRequest (now : ℕ)
  | recordSuccess
  | recordFailure (now : ℕ) (failure : UpstreamFailureClass)
deriving DecidableEq, Repr

/-- The time a call is made at; a success carries none. -/
def BreakerCall.time : BreakerCall → Option ℕ
  | .allowRequest now    => some now
  | .recordSuccess       => none
  | .recordFailure now _ => some now

def CircuitBreaker.step (b : CircuitBreaker) : BreakerCall → Bool × CircuitBreaker
  | .allowRequest now            => b.allowRequest now
  | .recordSuccess               => (false, b.recordSuccess)
  | .recordFailure now failure   => (false, b.recordFailure now failure)

def CircuitBreaker.run (b : CircuitBreaker) (calls : List BreakerCall) : CircuitBreaker :=
  calls.foldl (fun b call => (b.step call).2) b

end WayBalancer
