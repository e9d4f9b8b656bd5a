import WayBalancer.FirstBest
import WayBalancer.UpstreamBalancer
/-!
# RouteBackendPool — the backends of a route

`RouteBackendPool` of `crates/runtime/src/upstream_balancer.rs`: a single cluster with its registry and balancer, or
destinations that share a route by weight.  A destination that cannot serve a call is passed over for the next one in an
order that starts with the destination whose turn it is.
-/
namespace WayBalancer

open Str Word

/-! ## Pools -/

structure SinglePool where
  clusterName : UpstreamClusterName
  registry : UpstreamHealthRegistry
  balancer : UpstreamBalancer
  selectionPolicy : UpstreamSelectionPolicy

structure WeightedRouteDestination where
  weight : UInt16
  pool : SinglePool

/-- The counters saturate at 64 bits. -/
structure RouteDestinationWeightedState where
  totalWeight : ℤ
  currentWeights : SortedMap UpstreamClusterName ℤ
  weightedRouteSelectionCount : ℕ
  routeDestinationFallbackCount : ℕ
  routeDestinationSelectionCounts : SortedMap UpstreamClusterName ℕ

def RouteDestinationWeightedState.default : RouteDestinationWeightedState := ⟨0, .empty, 0, 0, .empty⟩

structure WeightedPool where
  destinations : List WeightedRouteDestination
  state : RouteDestinationWeightedState
  nonempty : destinations ≠ []
  weight_ne_zero : ∀ d ∈ destinations, d.weight ≠ 0

inductive RouteBackendPool
  | single (pool : SinglePool)
  | weighted (pool : WeightedPool)

def WeightedPool.clusterName (p : WeightedPool) : UpstreamClusterName := (p.destinations.head p.nonempty).pool.clusterName

def RouteBackendPool.clusterName : RouteBackendPool → UpstreamClusterName
  | .single p   => p.clusterName
  | .weighted p => p.clusterName

def SinglePool.fromCluster (c : UpstreamCluster) (healthPolicy : EndpointHealthPolicy) (selectionPolicy : UpstreamSelectionPolicy) :
    Except UpstreamHealthError SinglePool :=
  match (UpstreamHealthRegistry.new healthPolicy).insertCluster c with
  | (.error error, _)  => .error error
  | (.ok (), registry) => .ok ⟨c.name, registry, .new, selectionPolicy⟩

inductive RouteBackendPoolBuildError
  | emptyDestinations
  | zeroWeightDestination (clusterName : Text)
  | nestedWeightedDestination
deriving DecidableEq, Repr

/-- The destinations, each checked for its weight and then for its pool. -/
def checkedDestinations : List (UInt16 × RouteBackendPool) →
    Except RouteBackendPoolBuildError { l : List WeightedRouteDestination // ∀ d ∈ l, d.weight ≠ 0 }
  | [] => .ok ⟨[], nofun⟩
  | (weight, pool) :: rest =>
    if h : weight = 0 then .error (.zeroWeightDestination pool.clusterName.value)
    else match pool with
      | .weighted _ => .error .nestedWeightedDestination
      | .single pool => match checkedDestinations rest with
        | .error error => .error error
        | .ok ⟨l, hl⟩  => .ok ⟨⟨weight, pool⟩ :: l, List.forall_mem_cons.2 ⟨h, hl⟩⟩

def byClusterName (left right : WeightedRouteDestination) : Prop := left.pool.clusterName ≤ right.pool.clusterName

instance : DecidableRel byClusterName := fun left right => inferInstanceAs (Decidable (left.pool.clusterName ≤ right.pool.clusterName))

def fromWeightedDestinations (destinations : List (UInt16 × RouteBackendPool)) : Except RouteBackendPoolBuildError WeightedPool :=
  match checkedDestinations destinations with
  | .error error => .error error
  | .ok ⟨l, hl⟩  =>
    if h : l = [] then .error .emptyDestinations
    else .ok {
      destinations := l.insertionSort byClusterName
      state := .default
      nonempty := fun e => h (List.nil_perm.1 (e ▸ List.perm_insertionSort byClusterName l))
      weight_ne_zero := fun d hd => hl d ((List.perm_insertionSort byClusterName l).mem_iff.1 hd) }

/-! ## The order of the destinations -/

structure RouteShare where
  clusterName : UpstreamClusterName
  weight : ℕ
deriving DecidableEq, Repr

def WeightedRouteDestination.share (d : WeightedRouteDestination) : RouteShare := ⟨d.pool.clusterName, d.weight.toNat⟩

variable (weights : SortedMap UpstreamClusterName ℤ)

def weightUnder (s : RouteShare) : ℤ := (weights.get? s.clusterName).getD 0

/-- One turn of `best_weighted_route_destination_index`, over the destinations with their indices. -/
def bestTurn (best : Option (RouteShare × ℕ)) (next : RouteShare × ℕ) : Option (RouteShare × ℕ) :=
  match best with
  | none      => some next
  | some best =>
    if weightUnder weights best.1 < weightUnder weights next.1 ∨
        weightUnder weights next.1 = weightUnder weights best.1 ∧ next.1.clusterName < best.1.clusterName then some next
    else some best

def bestWeightedRouteDestinationIndex (shares : List RouteShare) (weights : SortedMap UpstreamClusterName ℤ) :
    Option (RouteShare × ℕ) :=
  shares.zipIdx.foldl (bestTurn weights) none

/-- `Iterator::max_by`: the last of the greatest. -/
def maxBy {α κ : Type} [LinearOrder κ] (key : α → κ) (l : List α) : Option α :=
  l.foldl (fun best a => match best with
    | none   => some a
    | some m => if key a < key m then some m else some a) none

/-- The greatest weight, then the smallest name, then the smallest index. -/
def fallbackRank (next : RouteShare × ℕ) : ℤ ×ₗ UpstreamClusterNameᵒᵈ ×ₗ ℕᵒᵈ :=
  toLex (weightUnder weights next.1, toLex (OrderDual.toDual next.1.clusterName, OrderDual.toDual next.2))

/-- The fallbacks, at most `k` of them, behind what is already in order. -/
def fallbackOrder (shares : List RouteShare) (totalWeight : ℤ) : ℕ → List ℕ → SortedMap UpstreamClusterName ℤ → List ℕ
  | 0, order, _ => order
  | k + 1, order, weights =>
    match maxBy (fallbackRank weights) (shares.zipIdx.filter (fun next => !order.contains next.2)) with
    | none      => order
    | some next =>
      fallbackOrder shares totalWeight k (order ++ [next.2]) (weights.modify next.1.clusterName (· - totalWeight))

def addWeights (shares : List RouteShare) (weights : SortedMap UpstreamClusterName ℤ) : SortedMap UpstreamClusterName ℤ :=
  shares.foldl (fun weights s => weights.insert s.clusterName (weightUnder weights s + s.weight)) weights

def selectWeightedRouteDestinationOrder (shares : List RouteShare) (state : RouteDestinationWeightedState) :
    List ℕ × RouteDestinationWeightedState :=
  let kept := state.currentWeights.filterKeys (fun clusterName => shares.any (fun s => s.clusterName = clusterName))
  let totalWeight : ℤ := ((shares.map (·.weight)).sum : ℕ)
  let added := addWeights shares kept
  match bestWeightedRouteDestinationIndex shares added with
  | none      => ([], { state with totalWeight, currentWeights := added })
  | some best =>
    let weights := added.modify best.1.clusterName (· - totalWeight)
    (fallbackOrder shares totalWeight (shares.length - 1) [best.2] weights, { state with totalWeight, currentWeights := weights })

/-! ## Selecting a backend -/

structure SelectedRouteBackend where
  clusterName : UpstreamClusterName
  endpointId : UpstreamEndpointId
  upstreamName : Text
  address : SocketAddr

section Selection

variable (affinityScore : Text → EndpointSelectionCandidate → ℤ)

def SinglePool.selectBackend (p : SinglePool) (context : SelectionContext) :
    Except SelectionFailure SelectedRouteBackend × SinglePool :=
  match selectEndpoint affinityScore p.registry p.clusterName p.selectionPolicy context p.balancer with
  | (.error error, balancer) => (.error error, { p with balancer })
  | (.ok selected, balancer) =>
    (.ok ⟨p.clusterName, selected.endpointId, p.clusterName.value ++ ':' :: selected.endpointId.value, selected.address⟩,
      { p with balancer })

namespace WeightedPool

variable (p : WeightedPool)

def mapPools (f : ℕ → SinglePool → SinglePool) : WeightedPool where
  destinations := p.destinations.mapIdx (fun i d => { d with pool := f i d.pool })
  state := p.state
  nonempty := fun e => p.nonempty (List.mapIdx_eq_nil_iff.1 e)
  weight_ne_zero := by
    intro d hd
    obtain ⟨i, hi, rfl⟩ := List.mem_mapIdx.1 hd
    exact p.weight_ne_zero p.destinations[i] (List.getElem_mem hi)

def withPool (index : ℕ) (pool : SinglePool) : WeightedPool :=
  p.mapPools (fun i old => if i = index then pool else old)

def countSelected (selectionRank : ℕ) (clusterName : UpstreamClusterName) : WeightedPool :=
  let st := p.state
  let counter := (st.routeDestinationSelectionCounts.get? clusterName).getD 0
  { p with
    state := { st with
      weightedRouteSelectionCount := satAdd st.weightedRouteSelectionCount 1
      routeDestinationFallbackCount :=
        if 0 < selectionRank then satAdd st.routeDestinationFallbackCount 1 else st.routeDestinationFallbackCount
      routeDestinationSelectionCounts := st.routeDestinationSelectionCounts.insert clusterName (satAdd counter 1) } }

def tryInOrder (context : SelectionContext) : ℕ → List ℕ → Option UpstreamSelectionError → WeightedPool →
    Except SelectionFailure SelectedRouteBackend × WeightedPool
  | _, [], lastError, p => (.error (.error (lastError.getD (.noEligibleEndpoints p.clusterName))), p)
  | selectionRank, index :: rest, _, p =>
    match p.destinations[index]? with
    | none   => (.error .panicked, p)
    | some d =>
      match d.pool.selectBackend affinityScore context with
      | (.ok selected, pool) => (.ok selected, (p.withPool index pool).countSelected selectionRank d.pool.clusterName)
      | (.error .panicked, pool) => (.error .panicked, p.withPool index pool)
      | (.error (.error (.noEligibleEndpoints _)), pool) =>
        tryInOrder context (selectionRank + 1) rest (some (.noEligibleEndpoints d.pool.clusterName)) (p.withPool index pool)
      | (.error (.error error), pool) => tryInOrder context (selectionRank + 1) rest (some error) (p.withPool index pool)

def shares : List RouteShare := p.destinations.map (·.share)

def selectBackend (context : SelectionContext) : Except SelectionFailure SelectedRouteBackend × WeightedPool :=
  let (order, state) := selectWeightedRouteDestinationOrder p.shares p.state
  tryInOrder affinityScore context 0 order none { p with state }

end WeightedPool

def RouteBackendPool.selectBackendWithContext (context : SelectionContext) :
    RouteBackendPool → Except SelectionFailure SelectedRouteBackend × RouteBackendPool
  | .single p   => let (result, p) := p.selectBackend affinityScore context; (result, .single p)
  | .weighted p => let (result, p) := p.selectBackend affinityScore context; (result, .weighted p)

end Selection

end WayBalancer
