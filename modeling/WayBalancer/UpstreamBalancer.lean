import WayBalancer.Proc
import WayBalancer.UpstreamHealth
/-!
# UpstreamBalancer — the choice of an endpoint

`crates/runtime/src/upstream_balancer.rs`: the candidates of a cluster, narrowed by locality, and one of them chosen by an
affinity key or by one of three algorithms.  The score of an affinity key and a candidate (a hash and a floating-point
logarithm) is a parameter; scores are compared by `total_cmp`, which is the order of an integer read off the bits.
-/
namespace WayBalancer

open Str Word

/-! ## Policies -/

inductive LoadBalancingAlgorithm
  | roundRobin
  | weightedRoundRobin
  | powerOfTwoChoices
deriving DecidableEq, Repr

inductive LocalityRoutingPolicy
  | disabled
  | preferLocality
  | preferZone
  | preferLocalityThenZone
deriving DecidableEq, Repr

inductive NoHealthyFallback
  | fail
  | includeUnhealthy
deriving DecidableEq, Repr

inductive AffinityFallbackPolicy
  | balanceHealthy
deriving DecidableEq, Repr

inductive AffinityPolicy
  | headerHash (headerName : Text) (fallback : AffinityFallbackPolicy)
  | cookieHash (cookieName : Text) (fallback : AffinityFallbackPolicy)
deriving DecidableEq, Repr

structure UpstreamSelectionPolicy where
  algorithm : LoadBalancingAlgorithm
  locality : LocalityRoutingPolicy
  noHealthyFallback : NoHealthyFallback
  affinity : Option AffinityPolicy
deriving DecidableEq, Repr

structure SelectionContext where
  preferredLocality : Option Text
  preferredZone : Option Text
  affinityKey : Option Text
  requestHash : UInt64
deriving DecidableEq, Repr

structure SelectedEndpoint where
  clusterName : UpstreamClusterName
  endpointId : UpstreamEndpointId
  address : SocketAddr
  effectiveWeight : ℕ
  healthStatus : EndpointHealthStatus
  localityMatched : Bool

inductive UpstreamSelectionError
  | health (error : UpstreamHealthError)
  | noEligibleEndpoints (cluster : UpstreamClusterName)
deriving DecidableEq, Repr

/-- How a selection ends without an endpoint: with an error, or by an index outside the candidates. -/
inductive SelectionFailure
  | error (error : UpstreamSelectionError)
  | panicked
deriving DecidableEq, Repr

/-! ## The state of a balancer -/

structure ClusterCursorKey where
  clusterName : UpstreamClusterName
  unhealthy : Bool
deriving Repr

theorem ClusterCursorKey.toLex_injective :
    Function.Injective (fun k : ClusterCursorKey => (toLex (k.clusterName, k.unhealthy) : UpstreamClusterName ×ₗ Bool)) := by
  rintro ⟨c, u⟩ ⟨c', u'⟩ h
  obtain ⟨rfl, rfl⟩ := Prod.mk.inj (toLex.injective h)
  rfl

instance : LinearOrder ClusterCursorKey :=
  LinearOrder.lift' (fun k : ClusterCursorKey => (toLex (k.clusterName, k.unhealthy) : UpstreamClusterName ×ₗ Bool))
    ClusterCursorKey.toLex_injective

structure WeightedState where
  totalWeight : ℤ
  currentWeights : SortedMap UpstreamEndpointId ℤ

def WeightedState.default : WeightedState := ⟨0, .empty⟩

/-- The counters of `MetricsState`; each wraps at 64 bits. -/
structure SelectionCounters where
  roundRobinSelectionCount : ℕ
  weightedRoundRobinSelectionCount : ℕ
  powerOfTwoSelectionCount : ℕ
  localityPreferenceHitCount : ℕ
  noHealthyEndpointCount : ℕ
  unhealthyFallbackSelectionCount : ℕ
  affinityHitCount : ℕ
  affinityFallbackCount : ℕ
deriving DecidableEq, Repr

structure UpstreamBalancer where
  roundRobinCursors : SortedMap ClusterCursorKey ℕ
  weightedStates : SortedMap ClusterCursorKey WeightedState
  metrics : SelectionCounters

def UpstreamBalancer.new : UpstreamBalancer := ⟨.empty, .empty, ⟨0, 0, 0, 0, 0, 0, 0, 0⟩⟩

abbrev Selecting (α : Type) := Proc UpstreamBalancer SelectionFailure α

def countSelection (f : SelectionCounters → SelectionCounters) : Selecting Unit :=
  Proc.update (fun b => { b with metrics := f b.metrics })

def countIf (c : Bool) (f : SelectionCounters → SelectionCounters) : Selecting Unit := if c then countSelection f else pure ()

/-! ## The candidates -/

variable (candidates : List EndpointSelectionCandidate)

def preferByField (predicate : EndpointSelectionCandidate → Bool) : List EndpointSelectionCandidate × Bool :=
  let filtered := candidates.filter predicate
  if filtered.isEmpty then (candidates, false) else (filtered, true)

/-- The candidates at a place, where one is preferred. -/
def preferPlace (place : EndpointSelectionCandidate → Option Text) :
    Option Text → List EndpointSelectionCandidate × Bool
  | none           => (candidates, false)
  | some preferred => preferByField candidates (fun c => place c = some preferred)

def applyLocalityPreference (policy : UpstreamSelectionPolicy) (context : SelectionContext) :
    List EndpointSelectionCandidate × Bool :=
  let byLocality := preferPlace candidates (·.metadata.locality) context.preferredLocality
  let byZone := preferPlace candidates (·.metadata.zone) context.preferredZone
  match policy.locality with
  | .disabled               => (candidates, false)
  | .preferLocality         => byLocality
  | .preferZone             => byZone
  | .preferLocalityThenZone => if byLocality.2 then byLocality else byZone

/-! ## The three algorithms -/

def selectRoundRobin (clusterName : UpstreamClusterName) (candidates : List EndpointSelectionCandidate) (fallbackUsed : Bool) :
    Selecting EndpointSelectionCandidate := do
  let key : ClusterCursorKey := ⟨clusterName, fallbackUsed⟩
  let b ← Proc.get
  let cursor := (b.roundRobinCursors.get? key).getD 0
  let next := (cursor + 1) % candidates.length
  Proc.update (fun b => { b with roundRobinCursors := b.roundRobinCursors.insert key next })
  Proc.okOr candidates[cursor % candidates.length]? .panicked

def weightIn (candidate : EndpointSelectionCandidate) : ℕ := max candidate.health.effectiveWeight 1

/-- One turn of the loop: the weight is added, and the candidate kept if it beats the best one so far. -/
def weightedTurn (acc : SortedMap UpstreamEndpointId ℤ × Option (EndpointSelectionCandidate × ℤ))
    (candidate : EndpointSelectionCandidate) : SortedMap UpstreamEndpointId ℤ × Option (EndpointSelectionCandidate × ℤ) :=
  let current := (acc.1.get? candidate.endpointId).getD 0 + weightIn candidate
  let best := match acc.2 with
    | none => some (candidate, current)
    | some (best, bestWeight) =>
      if bestWeight < current ∨ current = bestWeight ∧ candidate.endpointId < best.endpointId then some (candidate, current)
      else some (best, bestWeight)
  (acc.1.insert candidate.endpointId current, best)

def WeightedState.select (state : WeightedState) (candidates : List EndpointSelectionCandidate) :
    Option (EndpointSelectionCandidate × WeightedState) :=
  let totalWeight : ℤ := ((candidates.map weightIn).sum : ℕ)
  let kept := state.currentWeights.filterKeys (fun endpointId => candidates.any (fun c => c.endpointId = endpointId))
  let (weights, best) := candidates.foldl weightedTurn (kept, none)
  best.map (fun (c, _) => (c, ⟨totalWeight, weights.modify c.endpointId (· - totalWeight)⟩))

def selectWeightedRoundRobin (clusterName : UpstreamClusterName) (candidates : List EndpointSelectionCandidate)
    (fallbackUsed : Bool) : Selecting EndpointSelectionCandidate := do
  let key : ClusterCursorKey := ⟨clusterName, fallbackUsed⟩
  let b ← Proc.get
  let state := (b.weightedStates.get? key).getD .default
  let (selected, state) ← Proc.okOr (state.select candidates) .panicked
  Proc.update (fun b => { b with weightedStates := b.weightedStates.insert key state })
  return selected

def mix64 (value : UInt64) : UInt64 :=
  let value := value + 0x9e3779b97f4a7c15
  let value := (value ^^^ (value >>> 30)) * 0xbf58476d1ce4e5b9
  let value := (value ^^^ (value >>> 27)) * 0x94d049bb133111eb
  value ^^^ (value >>> 31)

def healthRank : EndpointHealthStatus → ℕ
  | .healthy   => 4
  | .warming   => 3
  | .degraded  => 2
  | .unhealthy => 1
  | .ejected   => 0

/-- What `compare_candidates` compares: the score, and the smaller identifier among equals. -/
def candidateScore (c : EndpointSelectionCandidate) : ℕ ×ₗ ℕ ×ₗ ℕ ×ₗ UpstreamEndpointIdᵒᵈ :=
  toLex (healthRank c.health.status, toLex (c.health.effectiveWeight, toLex (c.metadata.weight.toNat, OrderDual.toDual c.endpointId)))

/-- The second index, moved on where it is the first. -/
def secondIndex (first second length : ℕ) : ℕ := if second = first then (second + 1) % length else second

def selectPowerOfTwo (requestHash : UInt64) :
    Selecting EndpointSelectionCandidate := do
  if candidates.length = 1 then Proc.okOr candidates[0]? .panicked
  else
    let firstIndex := (mix64 requestHash).toNat % candidates.length
    let drawn := (mix64 (requestHash ^^^ 0x9e3779b97f4a7c15)).toNat % candidates.length
    let first ← Proc.okOr candidates[firstIndex]? .panicked
    let second ← Proc.okOr candidates[secondIndex firstIndex drawn candidates.length]? .panicked
    return if candidateScore first < candidateScore second then second else first

/-! ## Affinity -/

/-- The place of negative infinity in the order of `total_cmp`. -/
def negInfinity : ℤ := -2 ^ 63 + 0x000FFFFFFFFFFFFF

section Affinity

variable (affinityScore : Text → EndpointSelectionCandidate → ℤ)

def affinityTurn (affinityKey : Text) (best : EndpointSelectionCandidate × ℤ) (candidate : EndpointSelectionCandidate) :
    EndpointSelectionCandidate × ℤ :=
  let score := affinityScore affinityKey candidate
  if best.2 < score ∨ score = best.2 ∧ candidate.endpointId < best.1.endpointId then (candidate, score) else best

/-- The best candidate so far is the first one until another beats it. -/
def selectAffinityCandidate (affinityKey : Text) : List EndpointSelectionCandidate → Option EndpointSelectionCandidate
  | []                 => none
  | candidate :: rest =>
    some ((candidate :: rest).foldl (affinityTurn affinityScore affinityKey) (candidate, negInfinity)).1

variable (registry : UpstreamHealthRegistry) (clusterName : UpstreamClusterName)

def candidatesFrom (includeUnhealthy : Bool) : Selecting (List EndpointSelectionCandidate) :=
  Proc.ofExcept ((registry.selectionCandidates clusterName includeUnhealthy).mapError (fun e => .error (.health e)))

/-- The preferred candidate, if it is one of the eligible ones. -/
def takePreferred (eligible : List EndpointSelectionCandidate) (preferred : EndpointSelectionCandidate) :
    Selecting (Option EndpointSelectionCandidate) :=
  match eligible.find? (fun c => c.endpointId = preferred.endpointId) with
  | some selected => do
    countSelection (fun m => { m with affinityHitCount := wrapAdd m.affinityHitCount 1 })
    return some selected
  | none => do
    -- the only fallback there is: the algorithm chooses
    countSelection (fun m => { m with affinityFallbackCount := wrapAdd m.affinityFallbackCount 1 })
    return none

variable (policy : UpstreamSelectionPolicy) (context : SelectionContext)

def trySelectAffinityCandidate (eligible : List EndpointSelectionCandidate) : Selecting (Option EndpointSelectionCandidate) :=
  match policy.affinity, context.affinityKey with
  | some _, some affinityKey => do
    let all ← candidatesFrom registry clusterName true
    match selectAffinityCandidate affinityScore affinityKey (applyLocalityPreference all policy context).1 with
    | none           => return none
    | some preferred => takePreferred eligible preferred
  | _, _ => pure none

variable (candidates : List EndpointSelectionCandidate) (fallbackUsed : Bool)

def selectByAlgorithm : Selecting EndpointSelectionCandidate := do
  match policy.algorithm with
  | .roundRobin =>
    countSelection (fun m => { m with roundRobinSelectionCount := wrapAdd m.roundRobinSelectionCount 1 })
    selectRoundRobin clusterName candidates fallbackUsed
  | .weightedRoundRobin =>
    countSelection (fun m => { m with weightedRoundRobinSelectionCount := wrapAdd m.weightedRoundRobinSelectionCount 1 })
    selectWeightedRoundRobin clusterName candidates fallbackUsed
  | .powerOfTwoChoices =>
    countSelection (fun m => { m with powerOfTwoSelectionCount := wrapAdd m.powerOfTwoSelectionCount 1 })
    selectPowerOfTwo candidates context.requestHash

/-- The candidates to choose from, and whether unhealthy ones are among them. -/
def eligibleCandidates : Selecting (List EndpointSelectionCandidate × Bool) := do
  let candidates ← candidatesFrom registry clusterName false
  if candidates.isEmpty then
    countSelection (fun m => { m with noHealthyEndpointCount := wrapAdd m.noHealthyEndpointCount 1 })
    if policy.noHealthyFallback = .includeUnhealthy then
      return (← candidatesFrom registry clusterName true, true)
    else return (candidates, false)
  else return (candidates, false)

/-- Affinity first, then the algorithm. -/
def selectAmong :
    Selecting EndpointSelectionCandidate := do
  match ← trySelectAffinityCandidate affinityScore registry clusterName policy context candidates with
  | some selected => pure selected
  | none          => selectByAlgorithm clusterName policy context candidates fallbackUsed

def selectFrom :
    Selecting SelectedEndpoint := do
  let near := applyLocalityPreference candidates policy context
  countIf near.2 (fun m => { m with localityPreferenceHitCount := wrapAdd m.localityPreferenceHitCount 1 })
  let selected ← selectAmong affinityScore registry clusterName policy context near.1 fallbackUsed
  countIf fallbackUsed (fun m => { m with unhealthyFallbackSelectionCount := wrapAdd m.unhealthyFallbackSelectionCount 1 })
  return ⟨selected.clusterName, selected.endpointId, selected.address, selected.health.effectiveWeight,
    selected.health.status, near.2⟩

def selectEndpoint : Selecting SelectedEndpoint := do
  let (candidates, fallbackUsed) ← eligibleCandidates registry clusterName policy
  Proc.ensure (!candidates.isEmpty) (.error (.noEligibleEndpoints clusterName))
  selectFrom affinityScore registry clusterName policy context candidates fallbackUsed

end Affinity

end WayBalancer
