import WayBalancer.Proc
import WayBalancer.UpstreamHealth
/-!
# Discovery — reconciling what is advertised with what is registered

`crates/runtime/src/discovery.rs`: a reconciler keeps, for every source, the endpoints of its last snapshot.  A snapshot
installs what is new or changed, hands an endpoint over to another source that still advertises it, and lets the others
drain; time removes what has drained for the grace period.  Both calls work on the registry step by step, and what was
done before a failure stays done.  Telemetry is left out.
-/
namespace WayBalancer

open Str Word

inductive DiscoveryProviderKind
  | dnsAaaa
  | dnsSrv
  | kubernetesEndpointSlice
  | consulLike
deriving DecidableEq, Repr

def DiscoveryProviderKind.hasMonotonicGenerations : DiscoveryProviderKind → Bool
  | .kubernetesEndpointSlice => false
  | _                        => true

def DiscoveryProviderKind.rank : DiscoveryProviderKind → ℕ
  | .dnsAaaa                 => 0
  | .dnsSrv                  => 1
  | .kubernetesEndpointSlice => 2
  | .consulLike              => 3

theorem DiscoveryProviderKind.rank_injective : Function.Injective DiscoveryProviderKind.rank := by
  intro a b h
  cases a <;> cases b <;> first | rfl | cases h

structure DiscoverySourceId where
  provider : DiscoveryProviderKind
  sourceName : Text
  clusterName : UpstreamClusterName
deriving Repr

def DiscoverySourceId.fields (source : DiscoverySourceId) : ℕ ×ₗ Text ×ₗ UpstreamClusterName :=
  toLex (source.provider.rank, toLex (source.sourceName, source.clusterName))

theorem DiscoverySourceId.fields_injective : Function.Injective DiscoverySourceId.fields := by
  rintro ⟨p, n, c⟩ ⟨p', n', c'⟩ h
  obtain ⟨hp, hr⟩ := Prod.mk.inj (toLex.injective h)
  obtain ⟨rfl, rfl⟩ := Prod.mk.inj (toLex.injective hr)
  cases DiscoveryProviderKind.rank_injective hp
  rfl

instance : LinearOrder DiscoverySourceId := LinearOrder.lift' DiscoverySourceId.fields DiscoverySourceId.fields_injective

structure DiscoveryEndpoint where
  endpointId : UpstreamEndpointId
  address : SocketAddr
  zone : Option Text
  locality : Option Text
  weight : UInt16
deriving DecidableEq, Repr

def DiscoveryEndpoint.intoUpstreamEndpoint (endpoint : DiscoveryEndpoint) (state : EndpointState) :
    Except UpstreamModelError UpstreamEndpoint :=
  UpstreamEndpoint.new endpoint.endpointId endpoint.address state ⟨endpoint.zone, endpoint.locality, endpoint.weight⟩

/-- A snapshot of a source; how long it is valid is not read here. -/
structure DiscoverySnapshot where
  source : DiscoverySourceId
  generation : ℕ
  endpoints : List DiscoveryEndpoint
deriving Repr

structure DiscoveryReconcileOutcome where
  inserted : ℕ := 0
  updated : ℕ := 0
  markedDraining : ℕ := 0
  removedAfterDrain : ℕ := 0
  lifecycleWarming : ℕ := 0
  lifecycleActive : ℕ := 0
  lifecycleDraining : ℕ := 0
  lifecycleDrained : ℕ := 0
  lifecycleRemoved : ℕ := 0
  staleGenerationRejected : Bool := false
deriving DecidableEq, Repr

inductive DiscoveryReconcileError
  | healthRegistry (error : UpstreamHealthError)
  | invalidEndpoint (error : UpstreamModelError)
deriving DecidableEq, Repr

/-- "Already gone" is success: the cluster or endpoint may have been removed by config. -/
def ignoreMissingEndpoint {α : Type} : Except UpstreamHealthError α → Except UpstreamHealthError Unit
  | .ok _                                     => .ok ()
  | .error (.endpointNotTracked _ _)          => .ok ()
  | .error (.registry (.endpointNotFound _ _)) => .ok ()
  | .error (.registry (.clusterNotFound _))   => .ok ()
  | .error error                              => .error error

/-! ## Lifecycles -/

inductive LifecycleState
  | warming
  | active
  | draining
  | drained
  | removed
deriving DecidableEq, Repr

namespace LifecycleState

/-- The transitions of `LifecycleStateMachine`; none where the source refuses one. -/
def activate : LifecycleState → Option LifecycleState
  | .warming | .active => some .active
  | _                  => none

def startDraining : LifecycleState → Option LifecycleState
  | .warming | .active | .draining => some .draining
  | _                              => none

def markDrained : LifecycleState → Option LifecycleState
  | .draining | .drained => some .drained
  | _                    => none

end LifecycleState

/-! ## The reconciler -/

structure SourceEndpoints where
  table : SortedMap UpstreamEndpointId DiscoveryEndpoint
  keyed : ∀ {id endpoint}, table.get? id = some endpoint → endpoint.endpointId = id

namespace SourceEndpoints

def empty : SourceEndpoints := ⟨.empty, fun h => by cases h⟩

def get? (endpoints : SourceEndpoints) (endpointId : UpstreamEndpointId) : Option DiscoveryEndpoint :=
  endpoints.table.get? endpointId

end SourceEndpoints

/-- The endpoints of a snapshot that have passed their checks, each with what is to be registered for it. -/
structure NextEndpoints where
  table : SortedMap UpstreamEndpointId (DiscoveryEndpoint × UpstreamEndpoint)
  ready : ∀ {id entry}, table.get? id = some entry →
    entry.1.endpointId = id ∧ entry.1.intoUpstreamEndpoint .ready = .ok entry.2

def NextEndpoints.endpoints (next : NextEndpoints) : SourceEndpoints where
  table := next.table.mapValues (fun _ entry => entry.1)
  keyed := fun {id endpoint} h => by
    rw [SortedMap.get?_mapValues] at h
    obtain ⟨entry, hentry, rfl⟩ := Option.map_eq_some_iff.1 h
    exact (next.ready hentry).1

/-- The draining deadlines and the lifecycles are kept under cluster and endpoint. -/
structure DiscoveryMembershipReconciler where
  drainGrace : ℕ
  now : ℕ := 0
  activeEndpointsBySource : SortedMap DiscoverySourceId SourceEndpoints := .empty
  drainingDeadlines : SortedMap EndpointKey ℕ := .empty
  endpointLifecycle : SortedMap EndpointKey LifecycleState := .empty
  appliedGenerations : SortedMap DiscoverySourceId ℕ := .empty

/-- What a call works on: both stores, what it reports, and the endpoints whose lifecycle it still has to record. -/
structure DiscoveryCall where
  reconciler : DiscoveryMembershipReconciler
  registry : UpstreamHealthRegistry
  outcome : DiscoveryReconcileOutcome := {}
  activatedEndpointIds : List UpstreamEndpointId := []
  drainingEndpointIds : List UpstreamEndpointId := []

abbrev Reconciling := Proc DiscoveryCall DiscoveryReconcileError

/-- The definition of an endpoint by another source of the same cluster, the first by its identifier. -/
def otherSourceDefinition (active : SortedMap DiscoverySourceId SourceEndpoints) (source : DiscoverySourceId)
    (endpointId : UpstreamEndpointId) : Option DiscoveryEndpoint :=
  (active.entries.filter (fun entry => entry.1 ≠ source ∧ entry.1.clusterName = source.clusterName)).findSome?
    (fun entry => entry.2.get? endpointId)

namespace DiscoveryCall

def onRegistry {α : Type} (operation : UpstreamHealthRegistry → Except UpstreamHealthError α × UpstreamHealthRegistry)
    (result : Except UpstreamHealthError α → Except UpstreamHealthError Unit) : Reconciling Unit := fun call =>
  let (outcome, registry) := operation call.registry
  ((result outcome).mapError .healthRegistry, { call with registry })

def removeEndpoint (clusterName : UpstreamClusterName) (endpointId : UpstreamEndpointId) : Reconciling Unit :=
  onRegistry (fun registry => registry.removeEndpoint clusterName endpointId) ignoreMissingEndpoint

def insertEndpoint (clusterName : UpstreamClusterName) (endpoint : UpstreamEndpoint) : Reconciling Unit :=
  onRegistry (fun registry => registry.insertEndpoint clusterName endpoint) id

def setEndpointDraining (clusterName : UpstreamClusterName) (endpointId : UpstreamEndpointId) : Reconciling Unit :=
  onRegistry (fun registry => registry.setEndpointState clusterName endpointId .draining) ignoreMissingEndpoint

variable (key : EndpointKey) (call : DiscoveryCall)

def forgetDeadline : DiscoveryCall :=
  { call with reconciler := { call.reconciler with drainingDeadlines := call.reconciler.drainingDeadlines.erase key } }

def startDeadline : DiscoveryCall :=
  let deadline := min (call.reconciler.now + call.reconciler.drainGrace) durationMax
  { call with reconciler :=
      { call.reconciler with drainingDeadlines := call.reconciler.drainingDeadlines.insert key deadline } }

def activated (endpointId : UpstreamEndpointId) (call : DiscoveryCall) : DiscoveryCall :=
  { call with activatedEndpointIds := call.activatedEndpointIds ++ [endpointId] }

def count (f : DiscoveryReconcileOutcome → DiscoveryReconcileOutcome) (call : DiscoveryCall) : DiscoveryCall :=
  { call with outcome := f call.outcome }

/-- An endpoint put in place of what the registry may have under its identifier. -/
def install (clusterName : UpstreamClusterName) (endpointId : UpstreamEndpointId) (inRegistry : Bool)
    (endpoint : UpstreamEndpoint) : Reconciling Unit := do
  if inRegistry then removeEndpoint clusterName endpointId
  insertEndpoint clusterName endpoint
  Proc.update (activated endpointId)

def countAdvertised (wasPrevious : Bool) : DiscoveryCall → DiscoveryCall :=
  count (fun outcome =>
    if wasPrevious then { outcome with updated := outcome.updated + 1 }
    else { outcome with inserted := outcome.inserted + 1 })

variable (source : DiscoverySourceId)

def advertise (previous : SourceEndpoints) (entry : UpstreamEndpointId × DiscoveryEndpoint × UpstreamEndpoint) :
    Reconciling Unit :=
  let (endpointId, endpoint, upstreamEndpoint) := entry
  if previous.get? endpointId = some endpoint then pure ()
  else do
    let call ← Proc.get
    let key : EndpointKey := ⟨source.clusterName, endpointId⟩
    let wasDraining := (call.reconciler.drainingDeadlines.get? key).isSome
    Proc.update (forgetDeadline key)
    let otherDefinition := otherSourceDefinition call.reconciler.activeEndpointsBySource source endpointId
    let wasPrevious := (previous.get? endpointId).isSome
    let inRegistry := wasDraining || wasPrevious || otherDefinition.isSome
    -- another source has installed an identical endpoint: only track membership
    let step : Reconciling Unit :=
      if otherDefinition = some endpoint ∧ !wasDraining ∧ !wasPrevious then pure ()
      else install source.clusterName endpointId inRegistry upstreamEndpoint
    step
    Proc.update (countAdvertised wasPrevious)

def withdraw (entry : UpstreamEndpointId × DiscoveryEndpoint) : Reconciling Unit := do
  let (removedId, removed) := entry
  let call ← Proc.get
  match otherSourceDefinition call.reconciler.activeEndpointsBySource source removedId with
  | some other =>
    -- still advertised by another source: keep it under that source's definition
    if other = removed then pure ()
    else do
      let adopted ← Proc.ofExcept ((other.intoUpstreamEndpoint .ready).mapError .invalidEndpoint)
      install source.clusterName removedId true adopted
  | none => do
    setEndpointDraining source.clusterName removedId
    Proc.update (startDeadline ⟨source.clusterName, removedId⟩)
    Proc.update (fun call => { call with drainingEndpointIds := call.drainingEndpointIds ++ [removedId] })
    Proc.update (count (fun outcome => { outcome with markedDraining := outcome.markedDraining + 1 }))

def recordEndpointActivated : DiscoveryCall :=
  let machine := (call.reconciler.endpointLifecycle.get? key).getD .warming
  { call with
    reconciler := { call.reconciler with
      endpointLifecycle := call.reconciler.endpointLifecycle.insert key (machine.activate.getD .active) }
    outcome := { call.outcome with
      lifecycleWarming := call.outcome.lifecycleWarming + 1
      lifecycleActive := call.outcome.lifecycleActive + 1 } }

def recordEndpointDraining : DiscoveryCall :=
  let machine := (call.reconciler.endpointLifecycle.get? key).getD .active
  { call with
    reconciler := { call.reconciler with
      endpointLifecycle := call.reconciler.endpointLifecycle.insert key (machine.startDraining.getD .removed) }
    outcome := { call.outcome with lifecycleDraining := call.outcome.lifecycleDraining + 1 } }

def recordEndpointDrained : DiscoveryCall :=
  match call.reconciler.endpointLifecycle.get? key with
  | none => call
  | some machine =>
    { call with
      reconciler := { call.reconciler with
        endpointLifecycle := call.reconciler.endpointLifecycle.insert key (machine.markDrained.getD .removed) }
      outcome := if machine.markDrained.isSome then
          { call.outcome with lifecycleDrained := call.outcome.lifecycleDrained + 1 }
        else call.outcome }

def recordEndpointRemoved : DiscoveryCall :=
  if (call.reconciler.endpointLifecycle.get? key).isSome then
    { call with
      reconciler := { call.reconciler with endpointLifecycle := call.reconciler.endpointLifecycle.erase key }
      outcome := { call.outcome with lifecycleRemoved := call.outcome.lifecycleRemoved + 1 } }
  else call

def withSource (generation : ℕ) (endpoints : SourceEndpoints) (call : DiscoveryCall) : DiscoveryCall :=
  { call with reconciler := { call.reconciler with
    activeEndpointsBySource := call.reconciler.activeEndpointsBySource.insert source endpoints
    appliedGenerations := call.reconciler.appliedGenerations.insert source generation } }

def commit (generation : ℕ) (endpoints : SourceEndpoints) (call : DiscoveryCall) : DiscoveryCall :=
  let call := withSource source generation endpoints call
  let call := call.activatedEndpointIds.foldl (fun call id => recordEndpointActivated ⟨source.clusterName, id⟩ call) call
  call.drainingEndpointIds.foldl (fun call id => recordEndpointDraining ⟨source.clusterName, id⟩ call) call

end DiscoveryCall

namespace DiscoverySnapshot

/-- An endpoint with what is to be registered for it, under its identifier. -/
def prepare (endpoint : DiscoveryEndpoint) : Except UpstreamModelError (UpstreamEndpointId × DiscoveryEndpoint × UpstreamEndpoint) :=
  (endpoint.intoUpstreamEndpoint .ready).map (fun upstreamEndpoint => (endpoint.endpointId, endpoint, upstreamEndpoint))

theorem prepare_ok {endpoint : DiscoveryEndpoint} {entry : UpstreamEndpointId × DiscoveryEndpoint × UpstreamEndpoint} :
    prepare endpoint = .ok entry ↔ endpoint.intoUpstreamEndpoint .ready = .ok entry.2.2 ∧ entry.1 = endpoint.endpointId ∧
      entry.2.1 = endpoint := by
  rw [prepare, Proc.except_map_ok]
  constructor
  · rintro ⟨ue, hrea, rfl⟩
    exact ⟨hrea, rfl, rfl⟩
  · rintro ⟨hrea, hid, hown⟩
    exact ⟨entry.2.2, hrea, Prod.ext hid.symm (Prod.ext hown.symm rfl)⟩

theorem ready_of_prepared {endpoints : List DiscoveryEndpoint}
    {entries : List (UpstreamEndpointId × DiscoveryEndpoint × UpstreamEndpoint)} (h : endpoints.mapM prepare = .ok entries)
    {id : UpstreamEndpointId} {entry : DiscoveryEndpoint × UpstreamEndpoint}
    (hentry : (SortedMap.ofList entries).get? id = some entry) :
    entry.1.endpointId = id ∧ entry.1.intoUpstreamEndpoint .ready = .ok entry.2 := by
  have hpre : ∀ e ∈ entries, ∃ endpoint, prepare endpoint = .ok e :=
    Proc.forall_of_mapM_ok (fun endpoint e he => ⟨endpoint, he⟩) h
  obtain ⟨endpoint, hp⟩ := hpre _ (SortedMap.mem_of_get?_ofList hentry)
  obtain ⟨hrea, hid, rfl⟩ := prepare_ok.1 hp
  exact ⟨hid.symm, hrea⟩

/-- Every endpoint is checked before the registry is touched; of two with one identifier the later stays. -/
def validated (snapshot : DiscoverySnapshot) : Except UpstreamModelError NextEndpoints :=
  match h : snapshot.endpoints.mapM prepare with
  | .error error => .error error
  | .ok entries  => .ok { table := .ofList entries, ready := ready_of_prepared h }

theorem prepared_endpoints {endpoints : List DiscoveryEndpoint}
    {entries : List (UpstreamEndpointId × DiscoveryEndpoint × UpstreamEndpoint)} (h : endpoints.mapM prepare = .ok entries) :
    entries.map (·.2.1) = endpoints ∧ entries.map (·.1) = endpoints.map (·.endpointId) := by
  have hall := Proc.except_mapM_ok.1 h
  clear h
  induction hall with
  | nil => exact ⟨rfl, rfl⟩
  | cons hentry _ ih =>
    obtain ⟨-, hid, hown⟩ := prepare_ok.1 hentry
    rw [List.map_cons, List.map_cons, ih.1, ih.2, hid, hown]
    exact ⟨rfl, rfl⟩

theorem validated_ok {snapshot : DiscoverySnapshot} {next : NextEndpoints} (h : snapshot.validated = .ok next) :
    (∀ {id endpoint}, next.endpoints.get? id = some endpoint → endpoint ∈ snapshot.endpoints) ∧
      ∀ endpoint ∈ snapshot.endpoints, (next.endpoints.get? endpoint.endpointId).isSome = true := by
  unfold validated at h
  split at h
  · cases h
  · rename_i entries hpre
    cases h
    obtain ⟨hown, hids⟩ := prepared_endpoints hpre
    have hget : ∀ id, (NextEndpoints.endpoints { table := .ofList entries, ready := ready_of_prepared hpre }).get? id =
        ((SortedMap.ofList entries).get? id).map (·.1) := fun id => SortedMap.get?_mapValues _ _ _
    refine ⟨fun {id endpoint} hep => ?_, fun endpoint hep => ?_⟩
    · rw [hget, Option.map_eq_some_iff] at hep
      obtain ⟨found, hfd, rfl⟩ := hep
      rw [← hown]
      exact List.mem_map.2 ⟨_, SortedMap.mem_of_get?_ofList hfd, rfl⟩
    · rw [hget, Option.isSome_map, ← SortedMap.mem_keys, SortedMap.mem_keys_ofList, hids]
      exact List.mem_map_of_mem hep

end DiscoverySnapshot

namespace DiscoveryMembershipReconciler

variable (reconciler : DiscoveryMembershipReconciler)

def isStale (snapshot : DiscoverySnapshot) : Bool :=
  snapshot.source.provider.hasMonotonicGenerations &&
    (reconciler.appliedGenerations.get? snapshot.source).any (fun applied => snapshot.generation < applied)

def previousOf (source : DiscoverySourceId) : SourceEndpoints :=
  (reconciler.activeEndpointsBySource.get? source).getD .empty

def applySnapshot (snapshot : DiscoverySnapshot) (nextEndpoints : NextEndpoints) : Reconciling Unit := do
  let previous := reconciler.previousOf snapshot.source
  Proc.forEach (DiscoveryCall.advertise snapshot.source previous) nextEndpoints.table.entries
  Proc.forEach (DiscoveryCall.withdraw snapshot.source)
    (previous.table.entries.filter (fun entry => (nextEndpoints.table.get? entry.1).isNone))
  Proc.update (DiscoveryCall.commit snapshot.source snapshot.generation nextEndpoints.endpoints)

def reconcileSnapshot (registry : UpstreamHealthRegistry) (snapshot : DiscoverySnapshot) :
    Except DiscoveryReconcileError DiscoveryReconcileOutcome × DiscoveryMembershipReconciler × UpstreamHealthRegistry :=
  if reconciler.isStale snapshot then (.ok { staleGenerationRejected := true }, reconciler, registry)
  else match snapshot.validated with
    | .error error => (.error (.invalidEndpoint error), reconciler, registry)
    | .ok nextEndpoints =>
      let (result, call) := reconciler.applySnapshot snapshot nextEndpoints { reconciler, registry }
      (result.map (fun _ => call.outcome), call.reconciler, call.registry)

/-- One turn of the loop over the expired deadlines; the deadline is forgotten first. -/
def expire (key : EndpointKey) : Reconciling Unit := do
  Proc.update (DiscoveryCall.forgetDeadline key)
  Proc.update (DiscoveryCall.recordEndpointDrained key)
  DiscoveryCall.removeEndpoint key.cluster key.endpointId
  Proc.update (DiscoveryCall.recordEndpointRemoved key)
  Proc.update (DiscoveryCall.count (fun outcome => { outcome with removedAfterDrain := outcome.removedAfterDrain + 1 }))

def expired (now : ℕ) : List EndpointKey :=
  (reconciler.drainingDeadlines.entries.filter (fun entry => entry.2 ≤ now)).map (·.1)

def advanceTime (registry : UpstreamHealthRegistry) (elapsed : ℕ) :
    Except DiscoveryReconcileError DiscoveryReconcileOutcome × DiscoveryMembershipReconciler × UpstreamHealthRegistry :=
  let now := min (reconciler.now + elapsed) durationMax
  let (result, call) := Proc.forEach expire (reconciler.expired now) { reconciler := { reconciler with now }, registry }
  (result.map (fun _ => call.outcome), call.reconciler, call.registry)

end DiscoveryMembershipReconciler

end WayBalancer
