import WayBalancer.ConfigAccepted
import WayBalancer.RouteBackendPool
/-!
# ServeRoutes — the backends of a listener's routes

`compile_routes.rs` of `binaries/lb-dataplane/src/workspace_serve`, by which the dataplane resolves the routes a listener names,
their destinations and the clusters of these.  It looks names up as they are written, where the validator looks them up without
the white space around them, and it builds a pool once per cluster.
-/
namespace WayBalancer

open Str Word
open List (cons_ne_nil find?_some forall_mem_cons map_cons mem_map mem_singleton)
open Proc (except_bind_ok except_mapError_ok)

inductive UpstreamTransport
  | http1
  | http2
  | http3
deriving DecidableEq, Repr

structure UpstreamTarget where
  name : Text
  address : SocketAddr
  transport : UpstreamTransport
deriving DecidableEq, Repr

def UpstreamTarget.new (name : Text) (address : SocketAddr) : UpstreamTarget := ⟨name, address, .http1⟩

/-- `Http1RouteUpstream` and `Http2RouteUpstream`. -/
structure RouteUpstream where
  routeLabel : Text
  upstream : UpstreamTarget
deriving DecidableEq, Repr

inductive ServeCompileError
  | message (text : Text)
  | upstreamModel (error : UpstreamModelError)
  | upstreamHealth (error : UpstreamHealthError)
  | backendPool (error : RouteBackendPoolBuildError)
deriving DecidableEq, Repr

def orMessage {α : Type} (found : Option α) (text : Text) : Except ServeCompileError α :=
  match found with
  | some a => .ok a
  | none   => .error (.message text)

/-! ## Pools -/

def routeBackendWarmupDuration : ℕ := 10 ^ 9

def LoadBalancingAlgorithmConfig.into : LoadBalancingAlgorithmConfig → LoadBalancingAlgorithm
  | .roundRobin         => .roundRobin
  | .weightedRoundRobin => .weightedRoundRobin
  | .powerOfTwoChoices  => .powerOfTwoChoices

def LocalityRoutingConfig.into : LocalityRoutingConfig → LocalityRoutingPolicy
  | .disabled               => .disabled
  | .preferLocality         => .preferLocality
  | .preferZone             => .preferZone
  | .preferLocalityThenZone => .preferLocalityThenZone

def NoHealthyFallbackConfig.into : NoHealthyFallbackConfig → NoHealthyFallback
  | .fail             => .fail
  | .includeUnhealthy => .includeUnhealthy

def AffinityFallbackConfig.into : AffinityFallbackConfig → AffinityFallbackPolicy
  | .balanceHealthy => .balanceHealthy

def AffinityPolicyConfig.into : AffinityPolicyConfig → AffinityPolicy
  | .headerHash headerName fallback => .headerHash headerName fallback.into
  | .cookieHash cookieName fallback => .cookieHash cookieName fallback.into

def UpstreamTrafficPolicyConfig.into (policy : UpstreamTrafficPolicyConfig) : UpstreamSelectionPolicy where
  algorithm := policy.algorithm.into
  locality := policy.locality.into
  noHealthyFallback := policy.noHealthyFallback.into
  affinity := policy.affinity.map AffinityPolicyConfig.into

def UpstreamEndpointConfig.metadata (endpoint : UpstreamEndpointConfig) : EndpointMetadata :=
  ⟨endpoint.zone, endpoint.locality, endpoint.weight⟩

def compilePoolEndpoint (endpoint : UpstreamEndpointConfig) : Except ServeCompileError UpstreamEndpoint := do
  let id ← (UpstreamEndpointId.new endpoint.id).mapError .upstreamModel
  (UpstreamEndpoint.new id endpoint.address endpoint.state.into endpoint.metadata).mapError .upstreamModel

def compileRouteBackendPool (cluster : UpstreamClusterConfig) : Except ServeCompileError SinglePool := do
  let clusterName ← (UpstreamClusterName.new cluster.name).mapError .upstreamModel
  let endpoints ← cluster.endpoints.mapM compilePoolEndpoint
  let clusterModel ← (UpstreamCluster.new clusterName endpoints).mapError .upstreamModel
  (SinglePool.fromCluster clusterModel { EndpointHealthPolicy.default with warmupDuration := routeBackendWarmupDuration }
    cluster.trafficPolicy.into).mapError .upstreamHealth

/-! ## Routes -/

abbrev PoolsByCluster := SortedMap Text SinglePool

def takePool (pools : PoolsByCluster) (cluster : UpstreamClusterConfig) : Except ServeCompileError (SinglePool × PoolsByCluster) :=
  match pools.get? cluster.name with
  | some pool => .ok (pool, pools)
  | none      => do
    let pool ← compileRouteBackendPool cluster
    return (pool, pools.insert cluster.name pool)

def WorkspaceConfig.findRoute (config : WorkspaceConfig) (name : Text) : Option RouteConfig :=
  config.routes.find? (fun route => route.name = name)

def WorkspaceConfig.findCluster (config : WorkspaceConfig) (name : Text) : Option UpstreamClusterConfig :=
  config.upstreamClusters.find? (fun cluster => cluster.name = name)

def clusterUpstreams (route : RouteConfig) (cluster : UpstreamClusterConfig) : List RouteUpstream :=
  cluster.endpoints.map (fun endpoint =>
    ⟨route.name, .new (cluster.name ++ ':' :: endpoint.id) endpoint.address⟩)

section
variable (config : WorkspaceConfig)

/-- The loop over the destinations of a route: its upstreams, its pools with their weights, and the pools built so far. -/
def compileDestinations (route : RouteConfig) : List RouteDestinationConfig → PoolsByCluster →
    Except ServeCompileError (List RouteUpstream × List (UInt16 × RouteBackendPool) × PoolsByCluster)
  | [], pools => .ok ([], [], pools)
  | destination :: rest, pools => do
    let cluster ← orMessage (config.findCluster destination.upstreamCluster)
      (lit "route " ++ route.name ++ lit " references unknown upstream cluster " ++ destination.upstreamCluster)
    if cluster.endpoints.isEmpty then
      .error (.message (lit "upstream cluster " ++ cluster.name ++ lit " must declare at least one endpoint"))
    else do
      let (pool, pools) ← takePool pools cluster
      let (upstreams, destinations, pools) ← compileDestinations route rest pools
      return (clusterUpstreams route cluster ++ upstreams, (destination.weight, .single pool) :: destinations, pools)

/-- The pool of the one destination, or a pool that shares the route among several. -/
def combineDestinations : List (UInt16 × RouteBackendPool) → Except ServeCompileError RouteBackendPool
  | [(_, pool)]  => .ok pool
  | destinations => ((fromWeightedDestinations destinations).mapError .backendPool).map .weighted

structure RouteBackends where
  routeRules : List RoutePrefixRule
  routeUpstreams : List RouteUpstream
  routeBackendPools : List (Text × RouteBackendPool)

/-- The loop over the routes a listener names. -/
def compileListenerRoutes (listener : ListenerResourceConfig) (compiledRoutes : List RoutePrefixRule) :
    List Text → PoolsByCluster → Except ServeCompileError RouteBackends
  | [], _ => .ok ⟨[], [], []⟩
  | routeName :: rest, pools => do
    let route ← orMessage (config.findRoute routeName)
      (lit "listener " ++ listener.name ++ lit " references unknown route " ++ routeName)
    let compiledRoute ← orMessage (compiledRoutes.find? (fun compiled => compiled.label = routeName))
      (lit "compiled route " ++ routeName ++ lit " is missing")
    let (upstreams, destinations, pools) ← compileDestinations config route route.normalizedDestinations pools
    let pool ← combineDestinations destinations
    let backends ← compileListenerRoutes listener compiledRoutes rest pools
    return ⟨compiledRoute :: backends.routeRules, upstreams ++ backends.routeUpstreams,
      (route.name, pool) :: backends.routeBackendPools⟩

/-- The backends and the first upstream of them. -/
def compileRouteBackends (listener : ListenerResourceConfig) (compiledRoutes : List RoutePrefixRule) :
    Except ServeCompileError (RouteBackends × UpstreamTarget) := do
  let backends ← compileListenerRoutes config listener compiledRoutes listener.routes .empty
  let primaryUpstream ← orMessage (backends.routeUpstreams.head?.map (·.upstream))
    (lit "public listener " ++ listener.name ++ lit " must reference at least one route")
  return (backends, primaryUpstream)

def compileHttp1RouteBackends := compileRouteBackends config

/-- `compile_http2_route_backends`, which is the same but for the type of its upstreams. -/
def compileHttp2RouteBackends := compileRouteBackends config

end

/-! ## What compiles -/

theorem orMessage_ok {α : Type} {found : Option α} {text : Text} {a : α} : orMessage found text = .ok a ↔ found = some a := by
  cases found <;> simp [orMessage]

theorem validateEndpointUniqueness_of_nodup : ∀ {endpoints : List UpstreamEndpoint} {seen : List UpstreamEndpointId},
    (endpoints.map (·.id)).Nodup → (∀ id ∈ seen, id ∉ endpoints.map (·.id)) → validateEndpointUniqueness seen endpoints = .ok ()
  | [], _, _, _ => rfl
  | endpoint :: rest, seen, hnd, hs => by
    obtain ⟨hfre, hnd⟩ := List.nodup_cons.1 hnd
    rw [validateEndpointUniqueness, endpoint.validate_eq]
    rw [if_neg (fun hmem => hs _ (List.contains_iff_mem.1 hmem) List.mem_cons_self)]
    refine validateEndpointUniqueness_of_nodup hnd (fun id hid hmem => ?_)
    rcases List.mem_cons.1 hid with rfl | hid
    · exact hfre hmem
    · exact hs id hid (List.mem_cons_of_mem _ hmem)

theorem UpstreamEndpoint.new_ok_iff {id : UpstreamEndpointId} {address : SocketAddr} {state : EndpointState}
    {metadata : EndpointMetadata} :
    (∃ endpoint, UpstreamEndpoint.new id address state metadata = .ok endpoint) ↔ validateEndpoint address metadata = .ok () := by
  unfold UpstreamEndpoint.new
  split
  · rename_i e h
    simp [h]
  · rename_i h
    exact ⟨fun _ => h, fun _ => ⟨_, rfl⟩⟩

theorem UpstreamEndpoint.new_id {id : UpstreamEndpointId} {address : SocketAddr} {state : EndpointState}
    {metadata : EndpointMetadata} {endpoint : UpstreamEndpoint} (h : UpstreamEndpoint.new id address state metadata = .ok endpoint) :
    endpoint.id = id := by
  unfold UpstreamEndpoint.new at h
  split at h
  · cases h
  · cases h
    rfl

theorem UpstreamEndpointId.new_of_nonblank {value : Text} (h : (trim value).isEmpty = false) :
    UpstreamEndpointId.new value = .ok ⟨value, h⟩ := dif_pos h

theorem compilePoolEndpoint_ok {endpoint : UpstreamEndpointConfig} {compiled : UpstreamEndpoint}
    (h : compilePoolEndpoint endpoint = .ok compiled) :
    compiled.id.value = endpoint.id ∧ validateEndpoint endpoint.address endpoint.metadata = .ok () := by
  obtain ⟨id, hid, hcmp⟩ := except_bind_ok.1 h
  rw [except_mapError_ok] at hid hcmp
  unfold UpstreamEndpointId.new at hid
  split at hid
  · cases hid
    exact ⟨congrArg (·.value) (UpstreamEndpoint.new_id hcmp), UpstreamEndpoint.new_ok_iff.1 ⟨_, hcmp⟩⟩
  · cases hid

theorem compilePoolEndpoint_ok_iff {endpoint : UpstreamEndpointConfig} (hid : (trim endpoint.id).isEmpty = false) :
    (∃ compiled, compilePoolEndpoint endpoint = .ok compiled) ↔ validateEndpoint endpoint.address endpoint.metadata = .ok () := by
  constructor
  · rintro ⟨compiled, h⟩
    exact (compilePoolEndpoint_ok h).2
  · intro hval
    obtain ⟨compiled, hcmp⟩ := (@UpstreamEndpoint.new_ok_iff ⟨endpoint.id, hid⟩ endpoint.address endpoint.state.into
      endpoint.metadata).2 hval
    refine ⟨compiled, except_bind_ok.2 ⟨⟨endpoint.id, hid⟩, ?_, except_mapError_ok.2 hcmp⟩⟩
    rw [UpstreamEndpointId.new_of_nonblank hid]
    rfl

theorem compilePoolEndpoint_ids {endpoints : List UpstreamEndpointConfig} {compiled : List UpstreamEndpoint}
    (h : List.Forall₂ (fun x y => compilePoolEndpoint x = .ok y) endpoints compiled) :
    compiled.map (·.id.value) = endpoints.map (·.id) := by
  induction h with
  | nil => rfl
  | cons hx _ ih => rw [map_cons, map_cons, (compilePoolEndpoint_ok hx).1, ih]

/-- Every address and every description of the endpoints is one an endpoint can have. -/
def UpstreamClusterConfig.EndpointsValid (cluster : UpstreamClusterConfig) : Prop :=
  ∀ endpoint ∈ cluster.endpoints, validateEndpoint endpoint.address endpoint.metadata = .ok ()

theorem compileRouteBackendPool_ok_iff {cluster : UpstreamClusterConfig} (hnam : cluster.Named) :
    (∃ pool, compileRouteBackendPool cluster = .ok pool) ↔ cluster.EndpointsValid := by
  constructor
  · rintro ⟨pool, h⟩ endpoint hep
    obtain ⟨clusterName, -, h⟩ := except_bind_ok.1 h
    obtain ⟨endpoints, heps, -⟩ := except_bind_ok.1 h
    exact (compilePoolEndpoint_ok_iff (hnam.endpoints_nonblank endpoint hep)).1 (Proc.exists_mapM_ok.1 ⟨endpoints, heps⟩ endpoint hep)
  · intro hval
    obtain ⟨endpoints, heps⟩ := Proc.exists_mapM_ok.2 (fun endpoint hep =>
      (compilePoolEndpoint_ok_iff (hnam.endpoints_nonblank endpoint hep)).2 (hval endpoint hep))
    -- the compiled endpoints keep the identifiers, which are distinct
    have hids := compilePoolEndpoint_ids (Proc.except_mapM_ok.1 heps)
    have hdis : (endpoints.map (·.id)).Nodup := by
      refine List.Nodup.of_map (fun id : UpstreamEndpointId => id.value) ?_
      rw [List.map_map]
      exact (congrArg List.Nodup hids).mpr hnam.endpoints_distinct
    have hcl : ∃ clusterModel, UpstreamCluster.new ⟨cluster.name, hnam.nonblank⟩ endpoints = .ok clusterModel := by
      have huni := @validateEndpointUniqueness_of_nodup endpoints [] hdis (fun _ hid => (by cases hid))
      unfold UpstreamCluster.new
      split
      · rename_i e he
        rw [huni] at he
        cases he
      · exact ⟨_, rfl⟩
    obtain ⟨clusterModel, hclusterModel⟩ := hcl
    refine ⟨_, except_bind_ok.2 ⟨⟨cluster.name, hnam.nonblank⟩, except_mapError_ok.2 (dif_pos hnam.nonblank),
      except_bind_ok.2 ⟨endpoints, heps, except_bind_ok.2
        ⟨clusterModel, except_mapError_ok.2 hclusterModel, except_mapError_ok.2 rfl⟩⟩⟩⟩

/-! ## Names that resolve -/

section
variable {config : WorkspaceConfig} {parseCidr : Text → Option IpNet}

theorem find?_name {α : Type} {name : α → Text} {xs : List α} (hnd : (xs.map name).Nodup) {x : α} (hx : x ∈ xs) :
    xs.find? (fun y => name y = name x) = some x := by
  obtain ⟨y, hy⟩ := Option.isSome_iff_exists.1 (List.find?_isSome.2 ⟨x, hx, by simp⟩ :
    (xs.find? (fun y => decide (name y = name x))).isSome = true)
  have hn : name y = name x := by simpa using find?_some hy
  rw [hy, List.inj_on_of_nodup_map hnd (List.mem_of_find?_eq_some hy) hx hn]

/-- The pools built so far are those that would be built now. -/
def PoolsOf (config : WorkspaceConfig) (pools : PoolsByCluster) : Prop :=
  ∀ name pool, pools.get? name = some pool →
    ∃ cluster, config.findCluster name = some cluster ∧ compileRouteBackendPool cluster = .ok pool

theorem findCluster_name {name : Text} {cluster : UpstreamClusterConfig} (h : config.findCluster name = some cluster) :
    cluster ∈ config.upstreamClusters ∧ cluster.name = name :=
  ⟨List.mem_of_find?_eq_some h, by simpa using find?_some h⟩

variable {pools : PoolsByCluster}

theorem takePool_ok (hpoo : PoolsOf config pools) {name : Text} {cluster : UpstreamClusterConfig}
    (hcl : config.findCluster name = some cluster) :
    ((∃ taken, takePool pools cluster = .ok taken) ↔ ∃ pool, compileRouteBackendPool cluster = .ok pool) ∧
      ∀ taken, takePool pools cluster = .ok taken → PoolsOf config taken.2 := by
  have hn := (findCluster_name hcl).2
  unfold takePool
  cases hget : pools.get? cluster.name with
  | some pool =>
    obtain ⟨cluster', hcl', hp⟩ := hpoo _ pool hget
    rw [hn, hcl] at hcl'
    cases hcl'
    refine ⟨⟨fun _ => ⟨pool, hp⟩, fun _ => ⟨_, rfl⟩⟩, fun taken htak => ?_⟩
    cases htak
    exact hpoo
  | none =>
    refine ⟨⟨fun ⟨taken, htak⟩ => ?_, fun ⟨pool, hp⟩ => ?_⟩, fun taken htak => ?_⟩
    · obtain ⟨pool, hp, -⟩ := except_bind_ok.1 htak
      exact ⟨pool, hp⟩
    · exact ⟨_, except_bind_ok.2 ⟨pool, hp, rfl⟩⟩
    · obtain ⟨pool, hp, htak⟩ := except_bind_ok.1 htak
      cases htak
      intro name' pool' hget'
      have hins : (pools.insert cluster.name pool).get? name' = some pool' := hget'
      rw [SortedMap.get?_insert] at hins
      split at hins
      · rename_i hs
        cases hins
        rw [hs, hn]
        exact ⟨cluster, hcl, hp⟩
      · exact hpoo name' pool' hins

/-- A destination whose cluster is there under the name as written, with endpoints a pool can be built of. -/
def WorkspaceConfig.Serves (config : WorkspaceConfig) (destination : RouteDestinationConfig) : Prop :=
  ∃ cluster ∈ config.upstreamClusters, cluster.name = destination.upstreamCluster ∧ cluster.endpoints ≠ [] ∧ cluster.EndpointsValid

theorem compileDestinations_cons {route : RouteConfig} {destination : RouteDestinationConfig}
    {rest : List RouteDestinationConfig} {out : List RouteUpstream × List (UInt16 × RouteBackendPool) × PoolsByCluster} :
    compileDestinations config route (destination :: rest) pools = .ok out ↔
      ∃ cluster, config.findCluster destination.upstreamCluster = some cluster ∧ cluster.endpoints ≠ [] ∧
        ∃ taken, takePool pools cluster = .ok taken ∧ ∃ more, compileDestinations config route rest taken.2 = .ok more ∧
          (clusterUpstreams route cluster ++ more.1, (destination.weight, .single taken.1) :: more.2.1, more.2.2) = out := by
  rw [compileDestinations]
  simp only [except_bind_ok, Proc.ite_error_ok, orMessage_ok, List.isEmpty_iff, pure, Except.pure, Except.ok.injEq, ne_eq]

theorem compileDestinations_ok (hacc : config.Accepted parseCidr) {route : RouteConfig} :
    ∀ {destinations : List RouteDestinationConfig} {pools : PoolsByCluster}, PoolsOf config pools →
      ((∃ out, compileDestinations config route destinations pools = .ok out) ↔
        ∀ destination ∈ destinations, config.Serves destination) ∧
      ∀ upstreams weighted pools', compileDestinations config route destinations pools = .ok (upstreams, weighted, pools') →
        PoolsOf config pools' ∧ weighted.map (·.1) = destinations.map (·.weight) ∧
          (∀ entry ∈ weighted, ∃ pool, entry.2 = .single pool) ∧ (destinations ≠ [] → upstreams ≠ [])
  | [], pools, hpoo => by
    refine ⟨⟨fun _ _ hmem => (by cases hmem), fun _ => ⟨_, rfl⟩⟩, fun upstreams weighted pools' h => ?_⟩
    cases h
    exact ⟨hpoo, rfl, fun _ hmem => (by cases hmem), fun hne => absurd rfl hne⟩
  | destination :: rest, pools, hpoo => by
    refine ⟨⟨?_, fun hsv => ?_⟩, fun upstreams weighted pools' h => ?_⟩
    · rintro ⟨out, hout⟩
      obtain ⟨cluster, hcl, hne, taken, htak, more, hm, -⟩ := compileDestinations_cons.1 hout
      obtain ⟨hmem, hn⟩ := findCluster_name hcl
      obtain ⟨hbui, hkee⟩ := takePool_ok hpoo hcl
      refine forall_mem_cons.2 ⟨⟨cluster, hmem, hn, hne, ?_⟩, ?_⟩
      · exact (compileRouteBackendPool_ok_iff (hacc.clusters cluster hmem)).1 (hbui.1 ⟨taken, htak⟩)
      · exact (compileDestinations_ok hacc (hkee taken htak)).1.1 ⟨more, hm⟩
    · obtain ⟨⟨cluster, hmem, hn, hne, hval⟩, hr⟩ := forall_mem_cons.1 hsv
      have hcl : config.findCluster destination.upstreamCluster = some cluster := by
        rw [← hn]
        exact find?_name hacc.clusters_distinct hmem
      obtain ⟨hbui, hkee⟩ := takePool_ok hpoo hcl
      obtain ⟨taken, htak⟩ := hbui.2 ((compileRouteBackendPool_ok_iff (hacc.clusters cluster hmem)).2 hval)
      obtain ⟨more, hm⟩ := (compileDestinations_ok hacc (hkee taken htak)).1.2 hr
      exact ⟨_, compileDestinations_cons.2 ⟨cluster, hcl, hne, taken, htak, more, hm, rfl⟩⟩
    · obtain ⟨cluster, hcl, hne, taken, htak, more, hm, hout⟩ := compileDestinations_cons.1 h
      cases hout
      obtain ⟨hpoo', hwts, hs, -⟩ := (compileDestinations_ok hacc ((takePool_ok hpoo hcl).2 taken htak)).2 more.1 more.2.1 more.2.2 hm
      refine ⟨hpoo', by rw [map_cons, map_cons, hwts], forall_mem_cons.2 ⟨⟨taken.1, rfl⟩, hs⟩, ?_⟩
      intro _ hnil
      exact hne (List.map_eq_nil_iff.1 (List.append_eq_nil_iff.1 hnil).1)

theorem checkedDestinations_ok : ∀ {destinations : List (UInt16 × RouteBackendPool)},
    (∀ entry ∈ destinations, entry.1 ≠ 0 ∧ ∃ pool, entry.2 = .single pool) →
      ∃ l, checkedDestinations destinations = .ok l ∧ l.1.length = destinations.length
  | [], _ => ⟨_, rfl, rfl⟩
  | (weight, pool) :: rest, h => by
    obtain ⟨⟨hwt, single, hs⟩, hr⟩ := forall_mem_cons.1 h
    obtain ⟨⟨l, hl⟩, hrun, hlen⟩ := checkedDestinations_ok hr
    dsimp only at hs hwt
    rw [checkedDestinations, dif_neg hwt, hs]
    simp only [hrun]
    exact ⟨_, rfl, congrArg Nat.succ hlen⟩

theorem combineDestinations_ok {destinations : List (UInt16 × RouteBackendPool)} (hne : destinations ≠ [])
    (h : ∀ entry ∈ destinations, entry.1 ≠ 0 ∧ ∃ pool, entry.2 = .single pool) :
    ∃ pool, combineDestinations destinations = .ok pool := by
  unfold combineDestinations
  split
  · exact ⟨_, rfl⟩
  · obtain ⟨⟨l, hl⟩, hrun, hlen⟩ := checkedDestinations_ok h
    have hl' : l ≠ [] := by
      rintro rfl
      exact hne (List.length_eq_zero_iff.1 hlen.symm)
    unfold fromWeightedDestinations
    simp only [hrun, dif_neg hl']
    exact ⟨_, rfl⟩

/-- A route the listener names as it is written, whose destinations can all be served. -/
def WorkspaceConfig.ServesRoute (config : WorkspaceConfig) (routeName : Text) : Prop :=
  ∃ route ∈ config.routes, route.name = routeName ∧ ∀ destination ∈ route.normalizedDestinations, config.Serves destination

variable {rules : List RoutePrefixRule}

theorem find?_label {routeName : Text} (h : routeName ∈ rules.map (·.label)) :
    ∃ rule, rules.find? (fun compiled => compiled.label = routeName) = some rule := by
  obtain ⟨rule, hr, hlab⟩ := mem_map.1 h
  exact Option.isSome_iff_exists.1 (List.find?_isSome.2 ⟨rule, hr, by simpa using hlab⟩)

theorem compileListenerRoutes_cons {listener : ListenerResourceConfig} {routeName : Text} {rest : List Text}
    {backends : RouteBackends} :
    compileListenerRoutes config listener rules (routeName :: rest) pools = .ok backends ↔
      ∃ route, config.findRoute routeName = some route ∧ ∃ rule, rules.find? (fun compiled => compiled.label = routeName) = some rule ∧
        ∃ out, compileDestinations config route route.normalizedDestinations pools = .ok out ∧
        ∃ pool, combineDestinations out.2.1 = .ok pool ∧
        ∃ more, compileListenerRoutes config listener rules rest out.2.2 = .ok more ∧
          ⟨rule :: more.routeRules, out.1 ++ more.routeUpstreams, (route.name, pool) :: more.routeBackendPools⟩ = backends := by
  rw [compileListenerRoutes]
  simp only [except_bind_ok, orMessage_ok, pure, Except.pure, Except.ok.injEq]

/-- By induction on the routes the listener names; the pools carried along are those of the configuration. -/
theorem compileListenerRoutes_ok (hacc : config.Accepted parseCidr) {rules : List RoutePrefixRule}
    (hrul : rules.map (·.label) = config.routes.map (·.name)) {listener : ListenerResourceConfig} :
    ∀ {routeNames : List Text} {pools : PoolsByCluster}, PoolsOf config pools →
      ((∃ backends, compileListenerRoutes config listener rules routeNames pools = .ok backends) ↔
        ∀ routeName ∈ routeNames, config.ServesRoute routeName) ∧
      ∀ backends, compileListenerRoutes config listener rules routeNames pools = .ok backends →
        (backends.routeUpstreams ≠ [] ↔ routeNames ≠ [])
  | [], pools, _ => by
    refine ⟨⟨fun _ _ hmem => (by cases hmem), fun _ => ⟨_, rfl⟩⟩, fun backends h => ?_⟩
    cases h
    simp
  | routeName :: rest, pools, hpoo => by
    have hfd : ∀ {route}, config.findRoute routeName = some route → route ∈ config.routes ∧ route.name = routeName :=
      fun hrt => ⟨List.mem_of_find?_eq_some hrt, by simpa using find?_some hrt⟩
    refine ⟨⟨?_, fun hsv => ?_⟩, fun backends h => ?_⟩
    · rintro ⟨backends, h⟩
      obtain ⟨route, hrt, rule, -, out, hout, pool, -, more, hm, -⟩ := compileListenerRoutes_cons.1 h
      obtain ⟨hmem, hn⟩ := hfd hrt
      obtain ⟨hiff, hkee⟩ := compileDestinations_ok hacc hpoo
      refine forall_mem_cons.2 ⟨⟨route, hmem, hn, hiff.1 ⟨out, hout⟩⟩, ?_⟩
      exact (compileListenerRoutes_ok hacc hrul (hkee out.1 out.2.1 out.2.2 hout).1).1.1 ⟨more, hm⟩
    · obtain ⟨⟨route, hmem, hn, hdests⟩, hr⟩ := forall_mem_cons.1 hsv
      have hrt : config.findRoute routeName = some route := by
        rw [← hn]
        exact find?_name hacc.routes_distinct hmem
      have hlab : routeName ∈ rules.map (·.label) := by
        rw [hrul, ← hn]
        exact List.mem_map_of_mem hmem
      obtain ⟨rule, hru⟩ := find?_label hlab
      obtain ⟨hiff, hkee⟩ := compileDestinations_ok hacc hpoo
      obtain ⟨out, hout⟩ := hiff.2 hdests
      obtain ⟨hpoo', hwts, hs, -⟩ := hkee out.1 out.2.1 out.2.2 hout
      have hrt' := hacc.routes route hmem
      have hent : ∀ entry ∈ out.2.1, entry.1 ≠ 0 ∧ ∃ pool, entry.2 = .single pool := by
        intro entry he
        have hwt : entry.1 ∈ route.normalizedDestinations.map (·.weight) := hwts ▸ List.mem_map_of_mem he
        obtain ⟨dest, hd, hsa⟩ := mem_map.1 hwt
        exact ⟨hsa ▸ hrt'.weight_ne_zero dest hd, hs entry he⟩
      have hso : out.2.1 ≠ [] := by
        intro hnil
        rw [hnil] at hwts
        exact hrt'.destinations_ne_nil (List.map_eq_nil_iff.1 hwts.symm)
      obtain ⟨pool, hp⟩ := combineDestinations_ok hso hent
      obtain ⟨more, hm⟩ := (compileListenerRoutes_ok hacc hrul hpoo').1.2 hr
      exact ⟨_, compileListenerRoutes_cons.2 ⟨route, hrt, rule, hru, out, hout, pool, hp, more, hm, rfl⟩⟩
    · obtain ⟨route, hrt, rule, -, out, hout, pool, -, more, -, rfl⟩ := compileListenerRoutes_cons.1 h
      obtain ⟨-, -, -, hne⟩ := (compileDestinations_ok hacc hpoo).2 out.1 out.2.1 out.2.2 hout
      have hout' : out.1 ≠ [] := hne (hacc.routes route (hfd hrt).1).destinations_ne_nil
      exact iff_of_true (fun hnil => hout' (List.append_eq_nil_iff.1 hnil).1) (cons_ne_nil _ _)

/-- A listener that names at least one route, and only routes that can be served. -/
def WorkspaceConfig.ServesListener (config : WorkspaceConfig) (listener : ListenerResourceConfig) : Prop :=
  listener.routes ≠ [] ∧ ∀ routeName ∈ listener.routes, config.ServesRoute routeName

theorem compileRouteBackends_ok_iff (hacc : config.Accepted parseCidr)
    (hrul : rules.map (·.label) = config.routes.map (·.name)) (listener : ListenerResourceConfig) :
    (∃ out, compileRouteBackends config listener rules = .ok out) ↔ config.ServesListener listener := by
  have hemp : PoolsOf config .empty := fun _ _ h => (by cases h)
  obtain ⟨hiff, hups⟩ := compileListenerRoutes_ok hacc hrul hemp
  constructor
  · rintro ⟨out, h⟩
    obtain ⟨bs, hbks, h⟩ := except_bind_ok.1 h
    obtain ⟨primary, hp, -⟩ := except_bind_ok.1 h
    refine ⟨(hups bs hbks).1 (fun hnil => ?_), hiff.1 ⟨bs, hbks⟩⟩
    rw [hnil] at hp
    cases hp
  · rintro ⟨hne, hrts⟩
    obtain ⟨bs, hbks⟩ := hiff.2 hrts
    obtain ⟨first, more, hfir⟩ := List.exists_cons_of_ne_nil ((hups bs hbks).2 hne)
    refine ⟨_, except_bind_ok.2 ⟨bs, hbks, except_bind_ok.2 ⟨first.upstream, orMessage_ok.2 ?_, rfl⟩⟩⟩
    rw [hfir]
    rfl

/-- **The routes of a public listener compile exactly when it names at least one, every name it uses is the name of a route or
cluster as written, and every cluster it leads to has endpoints of its own that a pool can be built of.**  The validator accepts
more: padded names, clusters that only discovery feeds, endpoints without a port, and listeners without routes. -/
theorem routeBackends_compile_iff (h : config.validate parseCidr = .ok ()) :
    ∃ rules, compileRouteRules parseCidr config.routes = .ok rules ∧
      ∀ listener ∈ config.listeners, listener.listenerClass = .publicSurface →
        (((∃ out, compileHttp1RouteBackends config listener rules = .ok out) ∧
            ∃ out, compileHttp2RouteBackends config listener rules = .ok out) ↔ config.ServesListener listener) := by
  have hacc := accepted_of_valid (WorkspaceConfig.validate_ok.1 h)
  obtain ⟨rules, hrul, hlab⟩ := compileRouteRules_of_accepted hacc
  refine ⟨rules, hrul, fun listener _ _ => ?_⟩
  have hiff := compileRouteBackends_ok_iff hacc hlab listener
  exact ⟨fun hb => hiff.1 hb.1, fun hsv => ⟨hiff.2 hsv, hiff.2 hsv⟩⟩

end

/-! ### A listener with one route -/

def webListener (routeReference : Text) : ListenerResourceConfig where
  name := lit "web"
  listenerClass := .publicSurface
  bindAddress := ⟨.v4 127 0 0 1, 8080⟩
  protocol := .http1
  routes := [routeReference]

def webWorkspace (routeReference : Text) (cluster : UpstreamClusterConfig) : WorkspaceConfig where
  listeners := [webListener routeReference]
  routes := [{ name := lit "all", matchRule := { pathPrefix := lit "/" }, upstreamCluster := some (lit "backends") }]
  upstreamClusters := [cluster]

def webBackends : UpstreamClusterConfig where
  name := lit "backends"
  endpoints := [{ id := lit "a", address := ⟨.v4 10 0 0 1, 8080⟩ }]

def dnsBackends : UpstreamClusterConfig := { webBackends with endpoints := [], discovery := some (.dnsSrv (lit "_http._tcp.backends") 30) }

theorem webWorkspace_compiles :
    ∃ rules out, compileRouteRules (fun _ => none) (webWorkspace (lit "all") webBackends).routes = .ok rules ∧
      compileHttp1RouteBackends (webWorkspace (lit "all") webBackends) (webListener (lit "all")) rules = .ok out := by
  obtain ⟨rules, hrul, hls⟩ := routeBackends_compile_iff
    (show (webWorkspace (lit "all") webBackends).validate (fun _ => none) = .ok () by rfl)
  have hsv : (webWorkspace (lit "all") webBackends).ServesListener (webListener (lit "all")) := by
    refine ⟨cons_ne_nil _ _, fun rn hn => ?_⟩
    rw [mem_singleton.1 hn]
    refine ⟨_, mem_singleton.2 rfl, rfl, fun dest hd => ?_⟩
    rw [mem_singleton.1 hd]
    refine ⟨_, mem_singleton.2 rfl, rfl, cons_ne_nil _ _, fun endpoint hep => ?_⟩
    rw [mem_singleton.1 hep]
    rfl
  obtain ⟨out, hout⟩ := ((hls _ (mem_singleton.2 rfl) rfl).2 hsv).1
  exact ⟨rules, out, hrul, hout⟩

/-- Two workspaces that are accepted and do not compile: one whose cluster is fed by discovery, and one whose listener pads the
name of its route. -/
theorem webWorkspace_rejected :
    ((webWorkspace (lit "all") dnsBackends).validate (fun _ => none) = .ok () ∧
      ∃ rules, compileRouteRules (fun _ => none) (webWorkspace (lit "all") dnsBackends).routes = .ok rules ∧
        compileHttp1RouteBackends (webWorkspace (lit "all") dnsBackends) (webListener (lit "all")) rules =
          .error (.message (lit "upstream cluster backends must declare at least one endpoint"))) ∧
    (webWorkspace (lit " all") webBackends).validate (fun _ => none) = .ok () ∧
      ∃ rules, compileRouteRules (fun _ => none) (webWorkspace (lit " all") webBackends).routes = .ok rules ∧
        compileHttp1RouteBackends (webWorkspace (lit " all") webBackends) (webListener (lit " all")) rules =
          .error (.message (lit "listener web references unknown route  all")) :=
  ⟨⟨rfl, _, rfl, rfl⟩, rfl, _, rfl, rfl⟩

end WayBalancer
