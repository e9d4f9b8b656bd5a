import WayBalancer.ServeRoutes
import WayBalancer.UpstreamSelection
/-!
# ActiveHealth — the health ticks of a listener

`active_health.rs` of `binaries/lb-dataplane/src/workspace_serve`: a task beside a public listener advances the time of the
pools its routes use and probes their endpoints.  The compiler builds a cluster's pool once for a listener, so the routes that
use a cluster share its health registry; the task tells pools apart by the names of their clusters, joined by commas.  What a
tick does to the clusters of the pools it takes up is said pool by pool (`TurnOf`).
-/
namespace WayBalancer

open Str
open List (append_assoc append_nil count_eq_zero filterMap_append flatten foldl_cons mem_cons mem_map)

variable {n : UpstreamClusterName}

/-! ## The proxy configurations -/

/-- `ManagedProxyConfig`, of which the task reads the backend pools by the labels of their routes. -/
inductive ManagedProxyPools
  | http1 (routeBackendPools : SortedMap Text RouteBackendPool)
  | http2 (routeBackendPools : SortedMap Text RouteBackendPool)
  | https (http1 http2 : SortedMap Text RouteBackendPool)
  | http3 (http1 : SortedMap Text RouteBackendPool)

def ManagedProxyPools.routePools : ManagedProxyPools → List (Text × RouteBackendPool)
  | .http1 pools | .http2 pools | .http3 pools => pools.entries
  | .https first second                        => first.entries ++ second.entries

/-- The public arms of `compile_workspace_runtime_with_telemetry`, as far as the pools go. -/
def compilePublicProxy (config : WorkspaceConfig) (listener : ListenerResourceConfig) (compiledRoutes : List RoutePrefixRule) :
    Except ServeCompileError ManagedProxyPools :=
  let unsupported (protocol : Text) : Except ServeCompileError ManagedProxyPools :=
    .error (.message (lit "listener " ++ listener.name ++ lit " uses unsupported public protocol " ++ protocol ++
      lit " in serve mode"))
  match listener.protocol with
  | .http1 => (compileHttp1RouteBackends config listener compiledRoutes).map (fun out => .http1 (.ofList out.1.routeBackendPools))
  | .http2 => (compileHttp2RouteBackends config listener compiledRoutes).map (fun out => .http2 (.ofList out.1.routeBackendPools))
  | .https => (compileHttp1RouteBackends config listener compiledRoutes).map (fun out =>
      .https (.ofList out.1.routeBackendPools) (.ofList out.1.routeBackendPools))
  | .http3 => (compileHttp1RouteBackends config listener compiledRoutes).map (fun out => .http3 (.ofList out.1.routeBackendPools))
  | .tcp   => unsupported (lit "Tcp")
  | .auto  => unsupported (lit "Auto")

/-! ## Probing a pool -/

/-- The registries behind the pools of a listener: every pool that holds a cluster holds the same one. -/
abbrev HealthRegistries := UpstreamClusterName → UpstreamHealthRegistry

structure ActiveProbeTarget where
  endpointId : UpstreamEndpointId
  address : SocketAddr
  health : EndpointHealthSnapshot

/-- What a tick does to a cluster: it advances the registry, to what it then holds, and it probes an endpoint. -/
inductive ProbeEvent
  | advanced (clusterName : UpstreamClusterName) (elapsed : ℕ) (registry : UpstreamHealthRegistry)
  | probed (clusterName : UpstreamClusterName) (endpointId : UpstreamEndpointId) (success : Bool)

structure ProbeState where
  registries : HealthRegistries
  probes : ℕ
  trace : List ProbeEvent

structure HealthNote where
  clusterName : UpstreamClusterName
  endpointId : UpstreamEndpointId
  signal : HealthSignal

def HealthNote.apply (registries : HealthRegistries) (note : HealthNote) : HealthRegistries :=
  Function.update registries note.clusterName
    ((registries note.clusterName).note ⟨note.clusterName, note.endpointId⟩ note.signal).2

/-- Whether the probes of a tick connect in time, and what requests note while a probe is awaited, by the number of the probe. -/
structure ProbeOutcomes where
  connects : ℕ → Bool
  meanwhile : ℕ → List HealthNote

/-- The pool's targets in one cluster, each with the name of the cluster, which the source does not keep. -/
def clusterProbeTargets (registries : HealthRegistries) (clusterName : UpstreamClusterName) :
    Except UpstreamHealthError (List (UpstreamClusterName × ActiveProbeTarget)) :=
  ((registries clusterName).selectionCandidates clusterName true).map
    (List.map (fun candidate => (clusterName, ⟨candidate.endpointId, candidate.address, candidate.health⟩)))

def advanceCluster (elapsed : ℕ) (s : ProbeState) (clusterName : UpstreamClusterName) : ProbeState :=
  let registry := (s.registries clusterName).advanceTime elapsed
  { s with
    registries := Function.update s.registries clusterName registry
    trace := s.trace ++ [.advanced clusterName elapsed registry] }

/-- `note_endpoint_across_weighted_destinations`: the first destination that has the endpoint among its targets is noted. -/
def noteEndpointAcrossDestinations (registries : HealthRegistries) (endpointId : UpstreamEndpointId) (signal : HealthSignal) :
    List UpstreamClusterName → HealthRegistries
  | [] => registries
  | clusterName :: rest =>
    match clusterProbeTargets registries clusterName with
    | .error _    => registries
    | .ok targets =>
      if targets.any (fun target => target.2.endpointId = endpointId) then HealthNote.apply registries ⟨clusterName, endpointId, signal⟩
      else noteEndpointAcrossDestinations registries endpointId signal rest

namespace RouteBackendPool

def clusterNames : RouteBackendPool → List UpstreamClusterName
  | .single p   => [p.clusterName]
  | .weighted p => p.destinations.map (·.pool.clusterName)

def advanceTime (elapsed : ℕ) (s : ProbeState) : RouteBackendPool → ProbeState
  | .single p   => advanceCluster elapsed s p.clusterName
  | .weighted p => p.destinations.foldl (fun s d => advanceCluster elapsed s d.pool.clusterName) s

def activeProbeTargets (registries : HealthRegistries) :
    RouteBackendPool → Except UpstreamHealthError (List (UpstreamClusterName × ActiveProbeTarget))
  | .single p   => clusterProbeTargets registries p.clusterName
  | .weighted p => (p.destinations.mapM (fun d => clusterProbeTargets registries d.pool.clusterName)).map flatten

/-- `note_active_success` and `note_active_failure`, whose results the task ignores. -/
def noteActive (registries : HealthRegistries) (endpointId : UpstreamEndpointId) (signal : HealthSignal) :
    RouteBackendPool → HealthRegistries
  | .single p   => HealthNote.apply registries ⟨p.clusterName, endpointId, signal⟩
  | .weighted p => noteEndpointAcrossDestinations registries endpointId signal (p.destinations.map (·.pool.clusterName))

end RouteBackendPool

section
variable (outcomes : ProbeOutcomes) (elapsed : ℕ)

def probeTarget (pool : RouteBackendPool) (s : ProbeState) (target : UpstreamClusterName × ActiveProbeTarget) : ProbeState :=
  let registries := (outcomes.meanwhile s.probes).foldl HealthNote.apply s.registries
  let success := outcomes.connects s.probes
  { registries := pool.noteActive registries target.2.endpointId (if success then .activeSuccess else .activeFailure)
    probes := s.probes + 1
    trace := s.trace ++ [.probed target.1 target.2.endpointId success] }

def probePool (s : ProbeState) (pool : RouteBackendPool) : ProbeState :=
  let s := pool.advanceTime elapsed s
  match pool.activeProbeTargets s.registries with
  | .error _    => s
  | .ok targets => targets.foldl (probeTarget outcomes pool) s

/-! ## Ticks -/

def scopeKey (clusterNames : List Text) : Text := joinWith (lit ",") clusterNames

def RouteBackendPool.key (pool : RouteBackendPool) : Text := scopeKey (pool.clusterNames.map (·.value))

def insertPool (poolsByScope : SortedMap Text RouteBackendPool) (pool : RouteBackendPool) : SortedMap Text RouteBackendPool :=
  match poolsByScope.get? pool.key with
  | some _ => poolsByScope
  | none   => poolsByScope.insert pool.key pool

def poolsByScope : ManagedProxyPools → SortedMap Text RouteBackendPool
  | .http3 _ => .empty
  | proxy    => (proxy.routePools.map (·.2)).foldl insertPool .empty

def collectActiveProbePools (proxy : ManagedProxyPools) : List RouteBackendPool := (poolsByScope proxy).entries.map (·.2)

/-- `start_managed_listener` spawns the task for every listener but an HTTP/3 one. -/
def ManagedProxyPools.hasProbeTask : ManagedProxyPools → Bool
  | .http3 _ => false
  | _        => true

/-- A tick of `run_active_health_probe_loop`, and nothing where there is no such task. -/
def healthTick (proxy : ManagedProxyPools) (registries : HealthRegistries) : ProbeState :=
  if proxy.hasProbeTask then (collectActiveProbePools proxy).foldl (probePool outcomes elapsed) ⟨registries, 0, []⟩
  else ⟨registries, 0, []⟩

end

/-! ## Runs -/

inductive HealthStep
  | tick (outcomes : ProbeOutcomes) (elapsed : ℕ)
  | note (note : HealthNote)

def healthStep (proxy : ManagedProxyPools) (registries : HealthRegistries) : HealthStep → HealthRegistries
  | .tick outcomes elapsed => (healthTick outcomes elapsed proxy registries).registries
  | .note note             => note.apply registries

def RouteBackendPool.singles : RouteBackendPool → List SinglePool
  | .single p   => [p]
  | .weighted p => p.destinations.map (·.pool)

def ManagedProxyPools.registries (proxy : ManagedProxyPools) : HealthRegistries := fun clusterName =>
  match (proxy.routePools.flatMap (·.2.singles)).find? (fun p => p.clusterName = clusterName) with
  | some p => p.registry
  | none   => .new .default

def healthRun (proxy : ManagedProxyPools) (steps : List HealthStep) : HealthRegistries :=
  steps.foldl (healthStep proxy) proxy.registries

/-! ## What a turn does -/

def ProbeEvent.advanceOf (n : UpstreamClusterName) : ProbeEvent → Option (ℕ × UpstreamHealthRegistry)
  | .advanced clusterName elapsed registry => if clusterName = n then some (elapsed, registry) else none
  | .probed _ _ _                          => none

def ProbeEvent.probeOf (n : UpstreamClusterName) : ProbeEvent → Option UpstreamEndpointId
  | .advanced _ _ _                  => none
  | .probed clusterName endpointId _ => if clusterName = n then some endpointId else none

@[simp] theorem ProbeEvent.advanceOf_advanced (n m : UpstreamClusterName) (elapsed : ℕ) (registry : UpstreamHealthRegistry) :
    (ProbeEvent.advanced m elapsed registry).advanceOf n = if m = n then some (elapsed, registry) else none := rfl

@[simp] theorem ProbeEvent.probeOf_probed (n m : UpstreamClusterName) (endpointId : UpstreamEndpointId) (success : Bool) :
    (ProbeEvent.probed m endpointId success).probeOf n = if m = n then some endpointId else none := rfl

/-- The cluster's registry is advanced by the elapsed time and no more, and every endpoint of it that is ready and not ejected
then is probed once. -/
def TimedAndProbedOnce (trace : List ProbeEvent) (n : UpstreamClusterName) (elapsed : ℕ) : Prop :=
  ∃ registry, trace.filterMap (·.advanceOf n) = [(elapsed, registry)] ∧
    ∀ c, registry.registry.cluster n = some c → ∀ e ∈ c.endpoints, registry.ReadyAs n (· ≠ .ejected) e →
      (trace.filterMap (·.probeOf n)).count e.id = 1

structure TurnOf (names : List UpstreamClusterName) (elapsed : ℕ) (turn : List ProbeEvent) : Prop where
  advances : ∀ n, (turn.filterMap (·.advanceOf n)).length = names.count n
  absent : ∀ n, n ∉ names → turn.filterMap (·.probeOf n) = []
  once : ∀ n, names.count n = 1 → TimedAndProbedOnce turn n elapsed

theorem TurnOf.nil (elapsed : ℕ) : TurnOf [] elapsed [] :=
  ⟨fun _ => rfl, fun _ _ => rfl, fun n h => by cases h⟩

theorem TurnOf.append {names names' : List UpstreamClusterName} {elapsed : ℕ} {turn turn' : List ProbeEvent}
    (h : TurnOf names elapsed turn) (h' : TurnOf names' elapsed turn') : TurnOf (names ++ names') elapsed (turn ++ turn') where
  advances n := by rw [filterMap_append, List.length_append, h.advances, h'.advances, List.count_append]
  absent n hn := by
    rw [List.mem_append, not_or] at hn
    rw [filterMap_append, h.absent n hn.1, h'.absent n hn.2, append_nil]
  once n hn := by
    rw [List.count_append] at hn
    -- one of the two parts does not take the cluster up
    rcases Nat.eq_zero_or_pos (names.count n) with hz | hpos
    · obtain ⟨reg, hadv, hprb⟩ := h'.once n (by omega)
      have hno := List.length_eq_zero_iff.1 ((h.advances n).trans hz)
      refine ⟨reg, by rw [filterMap_append, hno, hadv, List.nil_append], ?_⟩
      rw [filterMap_append, h.absent n (count_eq_zero.1 hz)]
      exact hprb
    · obtain ⟨reg, hadv, hprb⟩ := h.once n (by omega)
      have hz : names'.count n = 0 := by omega
      have hno := List.length_eq_zero_iff.1 ((h'.advances n).trans hz)
      refine ⟨reg, by rw [filterMap_append, hno, hadv, append_nil], ?_⟩
      rw [filterMap_append, h'.absent n (count_eq_zero.1 hz), append_nil]
      exact hprb

/-! ### Registries that know their clusters -/

/-- The registry has the cluster of its name, with a record for each of its endpoints. -/
def Known (registries : HealthRegistries) (n : UpstreamClusterName) : Prop :=
  (registries n).Tracked ∧ ∃ c, (registries n).registry.cluster n = some c

theorem Known.update {registries : HealthRegistries} (h : Known registries n) {m : UpstreamClusterName}
    {registry : UpstreamHealthRegistry} (htr : (registries m).Tracked → registry.Tracked)
    (hreg : registry.registry = (registries m).registry) : Known (Function.update registries m registry) n := by
  by_cases hm : n = m
  · subst hm
    unfold Known
    rw [Function.update_self, hreg]
    exact ⟨htr h.1, h.2⟩
  · unfold Known
    rw [Function.update_of_ne hm]
    exact h

theorem Known.apply {registries : HealthRegistries} (h : Known registries n) (note : HealthNote) : Known (note.apply registries) n :=
  h.update (fun ht => ht.note _ _) ((registries note.clusterName).note_frame).2

theorem Known.notes : ∀ (notes : List HealthNote) {registries : HealthRegistries}, Known registries n →
    Known (notes.foldl HealthNote.apply registries) n
  | [], _, h            => h
  | note :: notes, _, h => Known.notes notes (h.apply note)

theorem Known.across {registries : HealthRegistries} (h : Known registries n) {endpointId : UpstreamEndpointId}
    {signal : HealthSignal} : ∀ names : List UpstreamClusterName,
      Known (noteEndpointAcrossDestinations registries endpointId signal names) n
  | [] => h
  | m :: rest => by
    rw [noteEndpointAcrossDestinations]
    split
    · exact h
    · split
      · exact h.apply _
      · exact Known.across h rest

theorem Known.noteActive {registries : HealthRegistries} (h : Known registries n) (pool : RouteBackendPool)
    (endpointId : UpstreamEndpointId) (signal : HealthSignal) : Known (pool.noteActive registries endpointId signal) n := by
  cases pool with
  | single p   => exact h.apply _
  | weighted p => exact h.across _

/-! ### Advancing a pool -/

theorem RouteBackendPool.advanceTime_eq (pool : RouteBackendPool) (elapsed : ℕ) (s : ProbeState) :
    pool.advanceTime elapsed s = pool.clusterNames.foldl (advanceCluster elapsed) s := by
  cases pool with
  | single p   => rfl
  | weighted p => exact List.foldl_map.symm

/-- The clusters are advanced in turn.  A cluster that is named once is left as its one advance leaves it. -/
theorem advanceClusters_spec {elapsed : ℕ} : ∀ (names : List UpstreamClusterName) (s : ProbeState),
    ∃ turn, (names.foldl (advanceCluster elapsed) s).trace = s.trace ++ turn ∧
      (names.foldl (advanceCluster elapsed) s).probes = s.probes ∧
      (∀ n, Known s.registries n → Known (names.foldl (advanceCluster elapsed) s).registries n) ∧
      (∀ n, n ∉ names → (names.foldl (advanceCluster elapsed) s).registries n = s.registries n) ∧
      (∀ n, (turn.filterMap (·.advanceOf n)).length = names.count n ∧ turn.filterMap (·.probeOf n) = []) ∧
      ∀ n, names.count n = 1 → turn.filterMap (·.advanceOf n) = [(elapsed, (names.foldl (advanceCluster elapsed) s).registries n)]
  | [], s => ⟨[], (append_nil _).symm, rfl, fun _ h => h, fun _ _ => rfl, fun _ => ⟨rfl, rfl⟩, fun _ h => by cases h⟩
  | m :: rest, s => by
    obtain ⟨turn, htra, hprb, hkn, hfr, hcnt, ho⟩ := advanceClusters_spec rest (advanceCluster elapsed s m)
    refine ⟨.advanced m elapsed ((s.registries m).advanceTime elapsed) :: turn, ?_, hprb, fun n hn => ?_, fun n hn => ?_,
      fun n => ?_, fun n hn => ?_⟩
    · rw [foldl_cons, htra]
      simp only [advanceCluster, append_assoc, List.singleton_append]
    · exact hkn n (hn.update (fun ht => ht.advanceTime elapsed) ((s.registries m).advanceTime_frame elapsed).2)
    · rw [mem_cons, not_or] at hn
      rw [foldl_cons, hfr n hn.2]
      exact Function.update_of_ne hn.1 _ _
    · obtain ⟨hlen, hno⟩ := hcnt n
      refine ⟨?_, hno⟩
      by_cases hm : m = n
      · subst hm
        simp [hlen]
      · simp [hm, hlen]
    · by_cases hm : m = n
      · subst hm
        rw [List.count_cons_self, Nat.add_eq_right] at hn
        have hr : turn.filterMap (·.advanceOf m) = [] := List.length_eq_zero_iff.1 ((hcnt m).1.trans hn)
        rw [foldl_cons, hfr m (count_eq_zero.1 hn)]
        simp [hr, advanceCluster]
      · rw [List.count_cons_of_ne (fun e => hm (by simpa using e))] at hn
        rw [foldl_cons, ← ho n hn]
        simp [hm]

/-! ### The targets of a pool -/

theorem UpstreamHealthRegistry.candidatesAmong_ids {s : UpstreamHealthRegistry} {inc : Bool} :
    ∀ {es : List UpstreamEndpoint} {l : List EndpointSelectionCandidate}, s.candidatesAmong n inc es = .ok l →
      (l.map (·.endpointId)).Sublist (es.map (·.id))
  | [], l, h => by
    cases h
    exact .slnil
  | e :: es, l, h => by
    rw [candidatesAmong] at h
    split at h
    · cases hrec : s.recordOf n e with
      | error error => rw [hrec] at h; cases h
      | ok r =>
        cases hr : s.candidatesAmong n inc es with
        | error error => rw [hrec, hr] at h; cases h
        | ok rest =>
          rw [hrec, hr] at h
          have ih := candidatesAmong_ids hr
          dsimp only at h
          split at h
          · cases h
            exact ih.cons_cons _
          · cases h
            exact ih.cons _
    · exact (candidatesAmong_ids h).cons _

/-- An endpoint of the cluster has the identifier, is ready and is not ejected. -/
def Serves (registries : HealthRegistries) (endpointId : UpstreamEndpointId) (n : UpstreamClusterName) : Prop :=
  ∃ c, (registries n).registry.cluster n = some c ∧ ∃ e ∈ c.endpoints, e.id = endpointId ∧ (registries n).ReadyAs n (· ≠ .ejected) e

/-- A cluster that is known has targets, and they are its endpoints that serve, each of them once. -/
theorem Known.targets {registries : HealthRegistries} (h : Known registries n) :
    ∃ targets, clusterProbeTargets registries n = .ok targets ∧ (∀ target ∈ targets, target.1 = n) ∧
      (targets.map (·.2.endpointId)).Nodup ∧
      ∀ endpointId, endpointId ∈ targets.map (·.2.endpointId) ↔ Serves registries endpointId n := by
  obtain ⟨htr, c, hc⟩ := h
  obtain ⟨l, hl, hmem⟩ := htr.selectionCandidates_ok hc true
  refine ⟨_, by rw [clusterProbeTargets, hl]; rfl, ?_, ?_, fun endpointId => ?_⟩
  · intro target htgt
    obtain ⟨cand, -, rfl⟩ := mem_map.1 htgt
    rfl
  · simp only [UpstreamHealthRegistry.selectionCandidates, UpstreamHealthRegistry.clusterOf, hc] at hl
    cases hamo : (registries n).candidatesAmong n true c.endpoints with
    | error error => rw [hamo] at hl; cases hl
    | ok unsorted =>
      rw [hamo] at hl
      cases hl
      have hsub := UpstreamHealthRegistry.candidatesAmong_ids hamo
      rw [List.map_map]
      exact ((List.perm_insertionSort _ unsorted).map _).nodup_iff.2 (hsub.nodup c.distinct)
  · have hpas : ∀ status, UpstreamHealthRegistry.Passes true status ↔ status ≠ .ejected := by
      intro status
      cases status <;> simp [UpstreamHealthRegistry.Passes, EndpointHealthStatus.isAvailable]
    rw [List.map_map, mem_map]
    constructor
    · rintro ⟨x, hx, rfl⟩
      obtain ⟨e, he, ⟨hrea, r, hr, hst⟩, _, _, rfl⟩ := (hmem x).1 hx
      exact ⟨c, hc, e, he, rfl, hrea, r, hr, (hpas _).1 hst⟩
    · rintro ⟨c', hc', e, he, rfl, hrea, r, hr, hst⟩
      cases hc.symm.trans hc'
      exact ⟨_, (hmem _).2 ⟨e, he, ⟨hrea, r, hr, (hpas _).2 hst⟩, r, hr, rfl⟩, rfl⟩

theorem RouteBackendPool.activeProbeTargets_spec {registries : HealthRegistries} (pool : RouteBackendPool)
    (h : ∀ n ∈ pool.clusterNames, Known registries n) :
    ∃ targets, pool.activeProbeTargets registries = .ok targets ∧
      (∀ n, n ∉ pool.clusterNames → targets.filter (fun target => target.1 = n) = []) ∧
      ∀ n, pool.clusterNames.count n = 1 → clusterProbeTargets registries n = .ok (targets.filter (fun target => target.1 = n)) := by
  have hl : ∀ names : List UpstreamClusterName, (∀ n ∈ names, Known registries n) →
      ∃ targets, names.mapM (clusterProbeTargets registries) = .ok targets ∧
        (∀ n, n ∉ names → targets.flatten.filter (fun target => target.1 = n) = []) ∧
        ∀ n, names.count n = 1 → clusterProbeTargets registries n = .ok (targets.flatten.filter (fun target => target.1 = n)) := by
    intro names hns
    induction names with
    | nil => exact ⟨[], rfl, fun _ _ => rfl, fun _ hn => by cases hn⟩
    | cons m rest ih =>
      obtain ⟨targets, hok, hoth, ho⟩ := ih (fun n hn => hns n (List.mem_cons_of_mem _ hn))
      obtain ⟨first, hfir, hof, -⟩ := (hns m List.mem_cons_self).targets
      refine ⟨first :: targets, ?_, fun n hn => ?_, fun n hn => ?_⟩
      · rw [List.mapM_cons, hfir, hok]
        rfl
      · rw [mem_cons, not_or] at hn
        rw [List.flatten_cons, List.filter_append, hoth n hn.2, append_nil, List.filter_eq_nil_iff]
        intro target htgt
        simpa [hof target htgt] using Ne.symm hn.1
      · rw [List.flatten_cons, List.filter_append]
        by_cases hm : m = n
        · subst hm
          rw [List.count_cons_self, Nat.add_eq_right] at hn
          rw [hoth m (count_eq_zero.1 hn), append_nil, hfir, List.filter_eq_self.2]
          intro target htgt
          simpa using hof target htgt
        · rw [List.count_cons_of_ne (fun e => hm (by simpa using e))] at hn
          have hno : first.filter (fun target => target.1 = n) = [] := by
            rw [List.filter_eq_nil_iff]
            intro target htgt
            simpa [hof target htgt] using hm
          rw [ho n hn, hno, List.nil_append]
  cases pool with
  | single p =>
    obtain ⟨targets, hok, hoth, ho⟩ := hl [p.clusterName] h
    obtain ⟨first, hfir, -⟩ := (h p.clusterName (List.mem_singleton.2 rfl)).targets
    have hf : targets.flatten = first := by
      rw [List.mapM_cons, hfir] at hok
      cases hok
      exact append_nil first
    rw [hf] at hoth ho
    exact ⟨first, hfir, hoth, ho⟩
  | weighted p =>
    obtain ⟨targets, hok, hoth, ho⟩ := hl (RouteBackendPool.weighted p).clusterNames h
    rw [clusterNames, List.mapM_map] at hok
    refine ⟨targets.flatten, ?_, hoth, ho⟩
    exact congrArg (Except.map flatten) hok

/-! ### Probing -/

theorem probeTargets_spec {outcomes : ProbeOutcomes} {pool : RouteBackendPool} :
    ∀ {targets : List (UpstreamClusterName × ActiveProbeTarget)} {s : ProbeState},
      ∃ turn, (targets.foldl (probeTarget outcomes pool) s).trace = s.trace ++ turn ∧
        (∀ n, Known s.registries n → Known (targets.foldl (probeTarget outcomes pool) s).registries n) ∧
        ∀ n, turn.filterMap (·.advanceOf n) = [] ∧
          turn.filterMap (·.probeOf n) = (targets.filter (fun target => target.1 = n)).map (·.2.endpointId)
  | [], s => ⟨[], (append_nil _).symm, fun _ h => h, fun _ => ⟨rfl, rfl⟩⟩
  | target :: rest, s => by
    obtain ⟨turn, htra, hkn, heve⟩ := probeTargets_spec
    refine ⟨.probed target.1 target.2.endpointId (outcomes.connects s.probes) :: turn, ?_, fun n hn => ?_, fun n => ?_⟩
    · rw [foldl_cons, htra]
      simp only [probeTarget, append_assoc, List.singleton_append]
    · exact hkn n ((Known.notes _ hn).noteActive _ _ _)
    · obtain ⟨hadv, hprb⟩ := heve n
      refine ⟨hadv, ?_⟩
      by_cases hn : target.1 = n
      · simp [hn, hprb]
      · simp [hn, hprb]

theorem probePool_spec {outcomes : ProbeOutcomes} {elapsed : ℕ} {s : ProbeState} {pool : RouteBackendPool}
    (h : ∀ n ∈ pool.clusterNames, Known s.registries n) :
    ∃ turn, (probePool outcomes elapsed s pool).trace = s.trace ++ turn ∧ TurnOf pool.clusterNames elapsed turn ∧
      ∀ n, Known s.registries n → Known (probePool outcomes elapsed s pool).registries n := by
  obtain ⟨advances, hadv, -, hkn, -, hcnt, hl⟩ := advanceClusters_spec pool.clusterNames s
  rw [← pool.advanceTime_eq] at hadv hkn hl
  have hkn' : ∀ n ∈ pool.clusterNames, Known (pool.advanceTime elapsed s).registries n := fun n hn => hkn n (h n hn)
  obtain ⟨targets, htar, hoth, ho⟩ := pool.activeProbeTargets_spec hkn'
  obtain ⟨probes, hprb, hk, heve⟩ := probeTargets_spec
  have hrun : probePool outcomes elapsed s pool = targets.foldl (probeTarget outcomes pool) (pool.advanceTime elapsed s) := by
    simp only [probePool, htar]
  refine ⟨advances ++ probes, by rw [hrun, hprb, hadv, append_assoc], ⟨fun n => ?_, fun n hn => ?_, fun n hn => ?_⟩,
    fun n hn => hrun ▸ hk n (hkn n hn)⟩
  · rw [filterMap_append, (heve n).1, append_nil, (hcnt n).1]
  · rw [filterMap_append, (hcnt n).2, (heve n).2, hoth n hn]
    rfl
  · have hmem : n ∈ pool.clusterNames := List.count_pos_iff.1 (by omega)
    obtain ⟨listed, hlis, -, hnd, hsv⟩ := (hkn' n hmem).targets
    refine ⟨(pool.advanceTime elapsed s).registries n, ?_, fun c hc e he hre => ?_⟩
    · rw [filterMap_append, (heve n).1, append_nil, hl n hn]
    · rw [filterMap_append, (hcnt n).2, (heve n).2]
      cases (ho n hn).symm.trans hlis
      exact List.count_eq_one_of_mem hnd ((hsv e.id).2 ⟨c, hc, e, he, rfl, hre⟩)

theorem probePools_spec (outcomes : ProbeOutcomes) (elapsed : ℕ) : ∀ (pools : List RouteBackendPool) {s : ProbeState},
    (∀ pool ∈ pools, ∀ n ∈ pool.clusterNames, Known s.registries n) →
    ∃ turn, (pools.foldl (probePool outcomes elapsed) s).trace = s.trace ++ turn ∧
      TurnOf (pools.flatMap RouteBackendPool.clusterNames) elapsed turn ∧
      ∀ n, Known s.registries n → Known (pools.foldl (probePool outcomes elapsed) s).registries n
  | [], s, _ => ⟨[], (append_nil _).symm, .nil elapsed, fun _ h => h⟩
  | pool :: rest, s, h => by
    obtain ⟨first, hfir, ht, hkn⟩ := probePool_spec (h pool List.mem_cons_self)
    obtain ⟨later, hlat, htur, hk⟩ := probePools_spec outcomes elapsed rest (fun pool' hp' n hn =>
      hkn n (h pool' (List.mem_cons_of_mem _ hp') n hn))
    refine ⟨first ++ later, ?_, ?_, fun n hn => hk n (hkn n hn)⟩
    · rw [foldl_cons, hlat, hfir, append_assoc]
    · exact ht.append htur

end WayBalancer
