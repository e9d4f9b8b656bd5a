import WayBalancer.Upstream
/-!
# UpstreamHealth — the health of the endpoints of a registry

`crates/runtime/src/upstream_health.rs`: a health record per registered endpoint, moved by the signals of active probes and
of traffic and by the time that passes.  Durations are in nanoseconds.  A registry in use is a run of `HealthCall`s from
`UpstreamHealthRegistry.new`; each call holds the locks it needs to its end and is one step.
-/
namespace WayBalancer

open Str Word

/-! ## Policies, records and snapshots -/

structure EndpointHealthPolicy where
  degradedFailureThreshold : ℕ
  unhealthyFailureThreshold : ℕ
  ejectionFailureThreshold : ℕ
  recoverySuccessThreshold : ℕ
  ejectionDuration : ℕ
  warmupDuration : ℕ
  consecutivePassiveFailureEjectionThreshold : ℕ
  outlierWindowSize : ℕ
  successRateEjectionThresholdPercent : ℕ
  clusterEjectionBudgetPercent : ℕ
  slowStartMinWeightPercent : ℕ
deriving DecidableEq, Repr

def EndpointHealthPolicy.default : EndpointHealthPolicy where
  degradedFailureThreshold := 1
  unhealthyFailureThreshold := 2
  ejectionFailureThreshold := 3
  recoverySuccessThreshold := 2
  ejectionDuration := 30 * 10 ^ 9
  warmupDuration := 15 * 10 ^ 9
  consecutivePassiveFailureEjectionThreshold := 5
  outlierWindowSize := 20
  successRateEjectionThresholdPercent := 50
  clusterEjectionBudgetPercent := 50
  slowStartMinWeightPercent := 10

inductive ProtocolHealthClass
  | generic
  | http1
  | http2
  | grpc
  | tcp
deriving Repr

/-- The place of a class in the order of the enumeration. -/
def ProtocolHealthClass.rank : ProtocolHealthClass → ℕ
  | .generic => 0
  | .http1   => 1
  | .http2   => 2
  | .grpc    => 3
  | .tcp     => 4

theorem ProtocolHealthClass.rank_injective : Function.Injective ProtocolHealthClass.rank := by
  intro a b h
  cases a <;> cases b <;> first | rfl | cases h

instance : LinearOrder ProtocolHealthClass := LinearOrder.lift' ProtocolHealthClass.rank ProtocolHealthClass.rank_injective

inductive EndpointHealthStatus
  | healthy
  | degraded
  | unhealthy
  | ejected
  | warming
deriving DecidableEq, Repr

def EndpointHealthStatus.isAvailable : EndpointHealthStatus → Bool
  | .healthy | .degraded | .warming => true
  | .unhealthy | .ejected           => false

structure EndpointHealthSnapshot where
  status : EndpointHealthStatus
  activeFailures : ℕ
  passiveFailures : ℕ
  recoverySuccesses : ℕ
  effectiveWeight : ℕ
  remainingEjection : Option ℕ
  remainingWarmup : Option ℕ
  passiveFailuresByProtocol : SortedMap ProtocolHealthClass ℕ

structure EndpointHealthRecord where
  status : EndpointHealthStatus
  activeFailures : ℕ
  passiveFailures : ℕ
  recoverySuccesses : ℕ
  effectiveWeight : ℕ
  remainingEjection : ℕ
  warmupElapsed : ℕ
  nominalWeight : ℕ
  passiveFailuresByProtocol : SortedMap ProtocolHealthClass ℕ
  passiveResultsWindow : List Bool

def durationMax : ℕ := u64Max * 10 ^ 9 + 999999999

def asMillis (duration : ℕ) : ℕ := duration / 10 ^ 6

namespace EndpointHealthRecord

def fresh (status : EndpointHealthStatus) (effectiveWeight nominalWeight : ℕ) : EndpointHealthRecord :=
  ⟨status, 0, 0, 0, effectiveWeight, 0, 0, nominalWeight, .empty, []⟩

def new (e : UpstreamEndpoint) (policy : EndpointHealthPolicy) : EndpointHealthRecord :=
  let nominalWeight := e.metadata.weight.toNat
  if e.state.isReady ∧ policy.warmupDuration ≠ 0 then fresh .warming 1 nominalWeight
  else fresh .healthy nominalWeight nominalWeight

variable (r : EndpointHealthRecord) (policy : EndpointHealthPolicy)

def snapshot : EndpointHealthSnapshot where
  status := r.status
  activeFailures := r.activeFailures
  passiveFailures := r.passiveFailures
  recoverySuccesses := r.recoverySuccesses
  effectiveWeight := r.effectiveWeight
  remainingEjection := if r.remainingEjection = 0 then none else some r.remainingEjection
  -- a warm-up that is overdue has nothing left
  remainingWarmup := if r.status = .warming then some (policy.warmupDuration - r.warmupElapsed) else none
  passiveFailuresByProtocol := r.passiveFailuresByProtocol

def combinedFailures : ℕ := satAdd32 r.activeFailures r.passiveFailures

/-! ## What a signal and the time do to a record -/

def transitionOnFailures (forceEjection : Bool) : EndpointHealthRecord :=
  if r.status = .ejected then r
  else if forceEjection ∨ policy.ejectionFailureThreshold ≤ r.combinedFailures then
    { r with
      status := .ejected, remainingEjection := policy.ejectionDuration
      effectiveWeight := 0, recoverySuccesses := 0 }
  else if policy.unhealthyFailureThreshold ≤ r.combinedFailures then { r with status := .unhealthy, effectiveWeight := 0 }
  else if policy.degradedFailureThreshold ≤ r.combinedFailures then
    { r with status := .degraded, effectiveWeight := r.nominalWeight }
  else r

def incrementProtocolFailureCounter (protocol : ProtocolHealthClass) : EndpointHealthRecord :=
  let counter := (r.passiveFailuresByProtocol.get? protocol).getD 0
  { r with passiveFailuresByProtocol := r.passiveFailuresByProtocol.insert protocol (satAdd32 counter 1) }

def clearProtocolFailureCounter (protocol : ProtocolHealthClass) : EndpointHealthRecord :=
  { r with passiveFailuresByProtocol := r.passiveFailuresByProtocol.insert protocol 0 }

def refreshPassiveFailureAggregate : EndpointHealthRecord :=
  { r with passiveFailures := ((r.passiveFailuresByProtocol.entries.map (·.2)).max?).getD 0 }

def clearProtocolFailureState : EndpointHealthRecord :=
  { r with passiveFailuresByProtocol := r.passiveFailuresByProtocol.mapValues (fun _ _ => 0) }

/-- The window keeps the last `windowSize` results. -/
def pushPassiveResult (success : Bool) (windowSize : ℕ) : EndpointHealthRecord :=
  if windowSize = 0 then r
  else
    let window := r.passiveResultsWindow ++ [success]
    { r with passiveResultsWindow := window.drop (window.length - windowSize) }

/-- Every counter of failures and of recoveries at zero. -/
def cleared : EndpointHealthRecord :=
  { ({ r with activeFailures := 0, passiveFailures := 0 } : EndpointHealthRecord).clearProtocolFailureState with
    recoverySuccesses := 0 }

def transitionOnSuccess : EndpointHealthRecord :=
  match r.status with
  | .ejected            => r
  | .healthy | .warming => r.cleared
  | .degraded | .unhealthy =>
    let r := { r with recoverySuccesses := satAdd32 r.recoverySuccesses 1 }
    if r.recoverySuccesses < policy.recoverySuccessThreshold then r
    else if policy.warmupDuration = 0 then { r.cleared with status := .healthy, effectiveWeight := r.nominalWeight }
    else { r.cleared with status := .warming, warmupElapsed := 0, effectiveWeight := 1 }

def passiveFailureTriggersEjection : Bool :=
  if 0 < policy.consecutivePassiveFailureEjectionThreshold ∧
      policy.consecutivePassiveFailureEjectionThreshold ≤ r.passiveFailures then true
  else if policy.outlierWindowSize = 0 ∨ r.passiveResultsWindow.length < policy.outlierWindowSize then false
  else
    let successCount := r.passiveResultsWindow.count true % 2 ^ 32
    let observed := r.passiveResultsWindow.length % 2 ^ 32
    satMul32 successCount 100 < satMul32 policy.successRateEjectionThresholdPercent observed

end EndpointHealthRecord

/-- The casts to 16 bits keep the low bits. -/
def warmupWeight (nominalWeight warmupElapsed warmupDuration slowStartMinWeightPercent : ℕ) : ℕ :=
  if warmupDuration = 0 ∨ warmupDuration ≤ warmupElapsed then nominalWeight
  else
    let numerator := nominalWeight * asMillis warmupElapsed
    let denominator := max (asMillis warmupDuration) 1
    let progressiveWeight := numerator / denominator % 2 ^ 16
    let minWeight := max (satMul32 nominalWeight (max slowStartMinWeightPercent 1) / 100) 1 % 2 ^ 16
    min (max progressiveWeight minWeight) nominalWeight

inductive HealthSignal
  | activeSuccess
  | activeFailure
  | passiveSuccess (protocol : ProtocolHealthClass)
  | passiveFailure (protocol : ProtocolHealthClass)
deriving DecidableEq, Repr

namespace EndpointHealthRecord

variable (r : EndpointHealthRecord) (policy : EndpointHealthPolicy)

def notePassive (success : Bool) (protocol : ProtocolHealthClass) : EndpointHealthRecord :=
  let r := if success then r.clearProtocolFailureCounter protocol else r.incrementProtocolFailureCounter protocol
  r.refreshPassiveFailureAggregate.pushPassiveResult success policy.outlierWindowSize

def signalled : HealthSignal → EndpointHealthRecord
  | .activeFailure =>
    let r := { r with activeFailures := satAdd32 r.activeFailures 1, recoverySuccesses := 0 }
    r.transitionOnFailures policy false
  | .passiveFailure protocol =>
    let r := { r.notePassive policy false protocol with recoverySuccesses := 0 }
    r.transitionOnFailures policy (r.passiveFailureTriggersEjection policy)
  | .activeSuccess           => r.transitionOnSuccess policy
  | .passiveSuccess protocol => (r.notePassive policy true protocol).transitionOnSuccess policy

/-- An ejection that the budget does not admit. -/
def capped : EndpointHealthRecord :=
  { r with status := .unhealthy, remainingEjection := 0, effectiveWeight := 0 }

variable (elapsed : ℕ)

def ejectionExpires : Bool := r.status = .ejected ∧ r.remainingEjection ≤ elapsed

def warmedFor : ℕ := min (r.warmupElapsed + elapsed) durationMax

def warmupCompletes : Bool :=
  r.status = .warming ∧ policy.warmupDuration ≤ r.warmedFor elapsed

def advanced : EndpointHealthRecord :=
  match r.status with
  | .ejected =>
    if r.ejectionExpires elapsed then { r with remainingEjection := 0, status := .unhealthy }
    else { r with remainingEjection := r.remainingEjection - elapsed }
  | .warming =>
    if r.warmupCompletes policy elapsed then
      { r with warmupElapsed := r.warmedFor elapsed, status := .healthy, effectiveWeight := r.nominalWeight }
    else
      { r with
        warmupElapsed := r.warmedFor elapsed
        effectiveWeight :=
          warmupWeight r.nominalWeight (r.warmedFor elapsed) policy.warmupDuration policy.slowStartMinWeightPercent }
  | _ => r

end EndpointHealthRecord

/-! ## The registry -/

structure EndpointKey where
  cluster : UpstreamClusterName
  endpointId : UpstreamEndpointId
deriving Repr

theorem EndpointKey.toLex_injective :
    Function.Injective (fun k : EndpointKey => (toLex (k.cluster, k.endpointId) : UpstreamClusterName ×ₗ UpstreamEndpointId)) := by
  rintro ⟨c, e⟩ ⟨c', e'⟩ h
  obtain ⟨rfl, rfl⟩ := Prod.mk.inj (toLex.injective h)
  rfl

instance : LinearOrder EndpointKey :=
  LinearOrder.lift' (fun k : EndpointKey => (toLex (k.cluster, k.endpointId) : UpstreamClusterName ×ₗ UpstreamEndpointId))
    EndpointKey.toLex_injective

inductive UpstreamHealthError
  | registry (error : EndpointRegistryError)
  | inconsistentState (cluster : UpstreamClusterName) (endpointId : UpstreamEndpointId)
  | endpointNotTracked (cluster : UpstreamClusterName) (endpointId : UpstreamEndpointId)
deriving DecidableEq, Repr

inductive UpstreamHealthEventKind
  | degraded
  | unhealthy
  | ejected
  | warmupStarted
  | warmupCompleted
  | recoveryStarted
  | recovered
deriving DecidableEq, Repr

structure UpstreamHealthEvent where
  kind : UpstreamHealthEventKind
  clusterName : Text
  endpointId : Text
  detail : Text
deriving DecidableEq, Repr

def maxHealthEvents : ℕ := 64

def eventForTransition : EndpointHealthStatus → UpstreamHealthEventKind × String
  | .degraded  => (.degraded, "endpoint entered degraded health state")
  | .unhealthy => (.unhealthy, "endpoint became unhealthy and is excluded from traffic")
  | .ejected   => (.ejected, "endpoint was ejected after repeated failures")
  | .warming   => (.warmupStarted, "endpoint re-entered warm-up after recovery")
  | .healthy   => (.recovered, "endpoint recovered and is fully healthy")

/-- The counters of `MetricsState`; each wraps at 64 bits. -/
structure HealthCounters where
  activeSuccessCount : ℕ
  activeFailureCount : ℕ
  passiveSuccessCount : ℕ
  passiveFailureCount : ℕ
  stateChangeCount : ℕ
  ejectionCount : ℕ
deriving DecidableEq, Repr

structure UpstreamHealthRegistry where
  registry : EndpointRegistry
  policy : EndpointHealthPolicy
  records : SortedMap EndpointKey EndpointHealthRecord
  events : List UpstreamHealthEvent
  metrics : HealthCounters

def canApplyEjectionBudget (records : SortedMap EndpointKey EndpointHealthRecord) (key : EndpointKey)
    (policy : EndpointHealthPolicy) : Bool :=
  if 100 ≤ policy.clusterEjectionBudgetPercent then true
  else
    let ofCluster := records.entries.filter (fun e => e.1.cluster = key.cluster)
    let total := min ofCluster.length u64Max
    let ejected := min (ofCluster.countP (fun e => e.2.status = .ejected)) u64Max
    let allowed := satAdd (satMul total policy.clusterEjectionBudgetPercent) 99 / 100
    if total = 0 ∨ allowed = 0 then false
    else if (records.get? key).any (fun r => r.status = .ejected) then ejected ≤ allowed
    else ejected < allowed

namespace UpstreamHealthRegistry

def new (policy : EndpointHealthPolicy) : UpstreamHealthRegistry := ⟨.new, policy, .empty, [], ⟨0, 0, 0, 0, 0, 0⟩⟩

variable (s : UpstreamHealthRegistry)

def pushEvent (kind : UpstreamHealthEventKind) (key : EndpointKey) (detail : String) : UpstreamHealthRegistry :=
  let events := if s.events.length = maxHealthEvents then s.events.tail else s.events
  { s with events := events ++ [⟨kind, key.cluster.value, key.endpointId.value, lit detail⟩] }

variable (clusterName : UpstreamClusterName)

/-- The record of an endpoint that has been registered, with the event of its warm-up. -/
def track (e : UpstreamEndpoint) : UpstreamHealthRegistry :=
  let key : EndpointKey := ⟨clusterName, e.id⟩
  let record := EndpointHealthRecord.new e s.policy
  let s := { s with records := s.records.insert key record }
  if record.status = .warming then s.pushEvent .warmupStarted key "endpoint admitted in warm-up mode" else s

def insertCluster (s : UpstreamHealthRegistry) (c : UpstreamCluster) : Except UpstreamHealthError Unit × UpstreamHealthRegistry :=
  match s.registry.insertCluster c with
  | (.error error, registry) => (.error (.registry error), { s with registry })
  | (.ok (), registry)       => (.ok (), c.endpoints.foldl (fun s e => s.track c.name e) { s with registry })

def removeCluster (s : UpstreamHealthRegistry) (clusterName : UpstreamClusterName) :
    Option UpstreamCluster × UpstreamHealthRegistry :=
  let (removed, registry) := s.registry.removeCluster clusterName
  let records := if removed.isSome then s.records.filterKeys (fun key => key.cluster ≠ clusterName) else s.records
  (removed, { s with registry, records })

def insertEndpoint (s : UpstreamHealthRegistry) (clusterName : UpstreamClusterName) (e : UpstreamEndpoint) :
    Except UpstreamHealthError Unit × UpstreamHealthRegistry :=
  match s.registry.insertEndpoint clusterName e with
  | (.error error, registry) => (.error (.registry error), { s with registry })
  | (.ok (), registry)       => (.ok (), ({ s with registry } : UpstreamHealthRegistry).track clusterName e)

def removeEndpoint (s : UpstreamHealthRegistry) (clusterName : UpstreamClusterName) (endpointId : UpstreamEndpointId) :
    Except UpstreamHealthError UpstreamEndpoint × UpstreamHealthRegistry :=
  match s.registry.removeEndpoint clusterName endpointId with
  | (.error error, registry) => (.error (.registry error), { s with registry })
  | (.ok e, registry)        => (.ok e, { s with registry, records := s.records.erase ⟨clusterName, endpointId⟩ })

def setEndpointState (s : UpstreamHealthRegistry) (clusterName : UpstreamClusterName) (endpointId : UpstreamEndpointId)
    (state : EndpointState) : Except UpstreamHealthError Unit × UpstreamHealthRegistry :=
  match s.registry.setEndpointState clusterName endpointId state with
  | (.error error, registry) => (.error (.registry error), { s with registry })
  | (.ok (), registry)       => (.ok (), { s with registry })

variable (key : EndpointKey)

/-- The record a signal leaves in place of `r`: an ejection that is new has to fit the budget, counted with it. -/
def settled (r : EndpointHealthRecord) (signal : HealthSignal) : EndpointHealthRecord :=
  let updated := r.signalled s.policy signal
  if updated.status = .ejected ∧ r.status ≠ .ejected ∧ canApplyEjectionBudget (s.records.insert key updated) key s.policy = false
  then updated.capped
  else updated

variable (signal : HealthSignal)

/-- The lookups that follow the first one find the record it found. -/
def applySignal : Except UpstreamHealthError EndpointHealthSnapshot × UpstreamHealthRegistry :=
  match s.records.get? key with
  | none   => (.error (.endpointNotTracked key.cluster key.endpointId), s)
  | some r =>
    let current := s.settled key r signal
    let s := { s with records := s.records.insert key current }
    if r.status = current.status then (.ok (current.snapshot s.policy), s)
    else
      let ejection := if current.status = .ejected then 1 else 0
      let s := { s with
        metrics := { s.metrics with
          stateChangeCount := wrapAdd s.metrics.stateChangeCount 1
          ejectionCount := wrapAdd s.metrics.ejectionCount ejection } }
      let (kind, detail) := eventForTransition current.status
      (.ok (current.snapshot s.policy), s.pushEvent kind key detail)

/-- The counter of a signal, which a signal for an unknown endpoint moves too. -/
def counted : UpstreamHealthRegistry :=
  let m := s.metrics
  { s with
    metrics := match signal with
      | .activeSuccess    => { m with activeSuccessCount := wrapAdd m.activeSuccessCount 1 }
      | .activeFailure    => { m with activeFailureCount := wrapAdd m.activeFailureCount 1 }
      | .passiveSuccess _ => { m with passiveSuccessCount := wrapAdd m.passiveSuccessCount 1 }
      | .passiveFailure _ => { m with passiveFailureCount := wrapAdd m.passiveFailureCount 1 } }

/-- `note_active_success` and its siblings, told apart by the signal they apply. -/
def note : Except UpstreamHealthError EndpointHealthSnapshot × UpstreamHealthRegistry :=
  (s.counted signal).applySignal key signal

variable (endpointId : UpstreamEndpointId)

def noteActiveSuccess :=
  s.note ⟨clusterName, endpointId⟩ .activeSuccess

def noteActiveFailure :=
  s.note ⟨clusterName, endpointId⟩ .activeFailure

def notePassiveSuccessForProtocol (protocol : ProtocolHealthClass) :=
  s.note ⟨clusterName, endpointId⟩ (.passiveSuccess protocol)

def notePassiveFailureForProtocol (protocol : ProtocolHealthClass) :=
  s.note ⟨clusterName, endpointId⟩ (.passiveFailure protocol)

def notePassiveSuccess :=
  s.notePassiveSuccessForProtocol clusterName endpointId .generic

def notePassiveFailure :=
  s.notePassiveFailureForProtocol clusterName endpointId .generic

def keysWhere (p : EndpointHealthRecord → Bool) : List EndpointKey :=
  (s.records.entries.filter (fun e => p e.2)).map (·.1)

def advanceTime (elapsed : ℕ) : UpstreamHealthRegistry :=
  if elapsed = 0 then s
  else
    let ejectionExpirations := s.keysWhere (fun r => r.ejectionExpires elapsed)
    let warmupCompletions := s.keysWhere (fun r => r.warmupCompletes s.policy elapsed)
    let stateChanges := ejectionExpirations.length + warmupCompletions.length
    let s := { s with
      records := s.records.mapValues (fun _ r => r.advanced s.policy elapsed)
      metrics := { s.metrics with stateChangeCount := wrapAdd s.metrics.stateChangeCount stateChanges } }
    let s := ejectionExpirations.foldl
      (fun s key => s.pushEvent .recoveryStarted key "endpoint ejection expired and recovery checks may resume") s
    warmupCompletions.foldl
      (fun s key => s.pushEvent .warmupCompleted key "endpoint completed warm-up and is fully admitted") s

end UpstreamHealthRegistry

/-! ## What is read off the registry -/

inductive UpstreamClusterState
  | empty
  | unavailable (totalEndpoints : ℕ)
  | ready (totalEndpoints readyEndpoints : ℕ)
deriving DecidableEq, Repr

structure EndpointSelectionCandidate where
  clusterName : UpstreamClusterName
  endpointId : UpstreamEndpointId
  address : SocketAddr
  metadata : EndpointMetadata
  health : EndpointHealthSnapshot

namespace UpstreamHealthRegistry

variable (s : UpstreamHealthRegistry) (clusterName : UpstreamClusterName)

def recordOf (e : UpstreamEndpoint) : Except UpstreamHealthError EndpointHealthRecord :=
  match s.records.get? ⟨clusterName, e.id⟩ with
  | none   => .error (.inconsistentState clusterName e.id)
  | some r => .ok r

def clusterOf : Except UpstreamHealthError UpstreamCluster :=
  match s.registry.cluster clusterName with
  | none   => .error (.registry (.clusterNotFound clusterName))
  | some c => .ok c

def clusterState :
    Except UpstreamHealthError UpstreamClusterState := do
  let c ← s.clusterOf clusterName
  if c.endpoints.isEmpty then return .empty
  let records ← c.endpoints.mapM (s.recordOf clusterName)
  let ready := (c.endpoints.zip records).countP (fun (e, r) => e.state.isReady && r.status.isAvailable)
  return if ready = 0 then .unavailable c.endpoints.length else .ready c.endpoints.length ready

def endpointHealth (endpointId : UpstreamEndpointId) :
    Except UpstreamHealthError EndpointHealthSnapshot := do
  let c ← s.clusterOf clusterName
  match c.endpoint endpointId with
  | none   => .error (.endpointNotTracked clusterName endpointId)
  | some e => return (← s.recordOf clusterName e).snapshot s.policy

/-- The loop of `selection_candidates`, which looks up the records of ready endpoints only. -/
def candidatesAmong (s : UpstreamHealthRegistry) (clusterName : UpstreamClusterName) (includeUnhealthy : Bool) :
    List UpstreamEndpoint → Except UpstreamHealthError (List EndpointSelectionCandidate)
  | []        => .ok []
  | e :: rest =>
    if e.state.isReady then
      match s.recordOf clusterName e with
      | .error error => .error error
      | .ok r =>
        match s.candidatesAmong clusterName includeUnhealthy rest with
        | .error error => .error error
        | .ok candidates =>
          if r.status.isAvailable ∨ includeUnhealthy ∧ r.status = .unhealthy then
            .ok (⟨clusterName, e.id, e.address, e.metadata, r.snapshot s.policy⟩ :: candidates)
          else .ok candidates
    else s.candidatesAmong clusterName includeUnhealthy rest

def selectionCandidates (includeUnhealthy : Bool) : Except UpstreamHealthError (List EndpointSelectionCandidate) :=
  match s.clusterOf clusterName with
  | .error error => .error error
  | .ok c =>
    (s.candidatesAmong clusterName includeUnhealthy c.endpoints).map
      (List.insertionSort (fun left right => left.endpointId ≤ right.endpointId))

end UpstreamHealthRegistry

/-! ## Runs -/

inductive HealthCall
  | insertCluster (c : UpstreamCluster)
  | removeCluster (clusterName : UpstreamClusterName)
  | insertEndpoint (clusterName : UpstreamClusterName) (e : UpstreamEndpoint)
  | removeEndpoint (clusterName : UpstreamClusterName) (endpointId : UpstreamEndpointId)
  | setEndpointState (clusterName : UpstreamClusterName) (endpointId : UpstreamEndpointId) (state : EndpointState)
  | note (key : EndpointKey) (signal : HealthSignal)
  | advanceTime (elapsed : ℕ)

namespace UpstreamHealthRegistry

def step (s : UpstreamHealthRegistry) : HealthCall → UpstreamHealthRegistry
  | .insertCluster c                             => (s.insertCluster c).2
  | .removeCluster clusterName                   => (s.removeCluster clusterName).2
  | .insertEndpoint clusterName e                => (s.insertEndpoint clusterName e).2
  | .removeEndpoint clusterName endpointId       => (s.removeEndpoint clusterName endpointId).2
  | .setEndpointState clusterName endpointId st  => (s.setEndpointState clusterName endpointId st).2
  | .note key signal                             => (s.note key signal).2
  | .advanceTime elapsed                         => s.advanceTime elapsed

def run (s : UpstreamHealthRegistry) (calls : List HealthCall) : UpstreamHealthRegistry := calls.foldl step s

end UpstreamHealthRegistry

end WayBalancer
