import WayBalancer.HttpHead
import WayBalancer.ServeRoutes
import WayBalancer.SnapshotDiff
/-!
# DigestBinding — what a digest says about the configuration that runs

The dataplane compiles its listeners, rules, clusters and limits from the configuration, and the digest is that of the
snapshot's view.  Equal digests are equal settled configurations, so all that is compiled from a settled configuration is equal;
the discovery sources and the HTTP limits are not among it.
-/
namespace WayBalancer

open Str Word

/-! ## What the dataplane compiles -/

structure Http2Limits where
  maxConcurrentStreams : UInt64
  maxBodyBytes : UInt64
deriving DecidableEq

def HttpDefaultsConfig.http1Limits (defaults : HttpDefaultsConfig) : Http1Limits :=
  ⟨defaults.http1.maxHeadBytes, defaults.http1.maxHeaderCount, defaults.http1.maxBodyBytes⟩

def HttpDefaultsConfig.http2Limits (defaults : HttpDefaultsConfig) : Http2Limits :=
  ⟨defaults.http2.maxConcurrentStreams, defaults.http2.maxBodyBytes⟩

/-- What is compiled from a configuration: by `compile_listeners`, `compile_http_route_rules` and `compile_clusters`, the backends
of every listener, the sources its clusters are fed from, and the limits of its protocols. -/
structure ServedWorkspace where
  listeners : Except WorkspaceConfigError (List ListenerConfig)
  routeRules : Except WorkspaceConfigError (List RoutePrefixRule)
  upstreamClusters : Except WorkspaceConfigError (List UpstreamCluster)
  discoverySources : List (Option DiscoverySourceConfig)
  routeBackends : List (Except ServeCompileError (RouteBackends × UpstreamTarget))
  http1Limits : Http1Limits
  http2Limits : Http2Limits

def WorkspaceConfig.routeBackends (config : WorkspaceConfig) :
    Except WorkspaceConfigError (List RoutePrefixRule) → List (Except ServeCompileError (RouteBackends × UpstreamTarget))
  | .ok rules => config.listeners.map (fun listener => compileHttp1RouteBackends config listener rules)
  | .error _  => []

def WorkspaceConfig.served (parseCidr : Text → Option IpNet) (config : WorkspaceConfig) : ServedWorkspace where
  listeners := compileListeners config.listeners config.defaults
  routeRules := compileRouteRules parseCidr config.routes
  upstreamClusters := compileClusters config.upstreamClusters
  discoverySources := config.upstreamClusters.map (·.discovery)
  routeBackends := config.routeBackends (compileRouteRules parseCidr config.routes)
  http1Limits := config.defaults.http.http1Limits
  http2Limits := config.defaults.http.http2Limits

/-! ## Backends of a settled configuration -/

section
variable {config config' : WorkspaceConfig}

theorem findRoute_settled {name : Text} : config.settled.findRoute name = (config.findRoute name).map RouteConfig.settled := by
  unfold WorkspaceConfig.findRoute WorkspaceConfig.settled
  rw [List.find?_map]
  rfl

theorem findCluster_settled {name : Text} :
    config.settled.findCluster name = (config.findCluster name).map UpstreamClusterConfig.settled := by
  unfold WorkspaceConfig.findCluster WorkspaceConfig.settled
  rw [List.find?_map]
  rfl

theorem compileDestinations_settled {route : RouteConfig} : ∀ (destinations : List RouteDestinationConfig) (pools : PoolsByCluster),
    compileDestinations config.settled route.settled destinations pools = compileDestinations config route destinations pools
  | [], _ => rfl
  | destination :: rest, pools => by
    rw [compileDestinations, compileDestinations, findCluster_settled]
    cases config.findCluster destination.upstreamCluster with
    | none => rfl
    | some cluster =>
      simp only [compileDestinations_settled rest, Option.map_some]
      rfl

theorem compileListenerRoutes_settled {listener : ListenerResourceConfig} {defaults : WorkspaceDefaultsConfig}
    {rules : List RoutePrefixRule} : ∀ (routeNames : List Text) (pools : PoolsByCluster),
      compileListenerRoutes config.settled (listener.settled defaults) rules routeNames pools =
        compileListenerRoutes config listener rules routeNames pools
  | [], _ => rfl
  | routeName :: rest, pools => by
    rw [compileListenerRoutes, compileListenerRoutes, findRoute_settled]
    cases config.findRoute routeName with
    | none => rfl
    | some route =>
      have hdests : route.settled.normalizedDestinations = route.normalizedDestinations := normalizedDestinations_settled route
      simp only [Option.map_some, orMessage, Proc.except_ok_bind, hdests, compileDestinations_settled,
        compileListenerRoutes_settled rest]
      rfl

theorem compileRouteBackends_settled {listener : ListenerResourceConfig} {defaults : WorkspaceDefaultsConfig}
    {rules : List RoutePrefixRule} :
    compileRouteBackends config.settled (listener.settled defaults) rules = compileRouteBackends config listener rules := by
  unfold compileRouteBackends
  have hrts : (listener.settled defaults).routes = listener.routes := rfl
  rw [compileListenerRoutes_settled]
  rfl

theorem routeBackends_settled (rules : Except WorkspaceConfigError (List RoutePrefixRule)) :
    config.settled.routeBackends rules = config.routeBackends rules := by
  cases rules with
  | error e => rfl
  | ok rules =>
    show (config.listeners.map _).map _ = _
    rw [List.map_map]
    exact List.map_congr_left (fun l _ => compileRouteBackends_settled)

/-- What is compiled from a configuration, apart from discovery and limits, is compiled from its settled form. -/
theorem served_settled (parseCidr : Text → Option IpNet) (config : WorkspaceConfig) : config.served parseCidr =
      { config.settled.served parseCidr with
        discoverySources := config.upstreamClusters.map (·.discovery)
        http1Limits := config.defaults.http.http1Limits
        http2Limits := config.defaults.http.http2Limits } := by
  have hls := compileListeners_settled config.listeners config.defaults
  have hrul := compileRouteRules_settled parseCidr config.routes
  have hcls := compileClusters_settled config.upstreamClusters
  have hbks := @routeBackends_settled config (compileRouteRules parseCidr config.routes)
  refine ServedWorkspace.mk.injEq .. ▸ ⟨hls.symm, hrul.symm, hcls.symm, rfl, ?_, rfl, rfl⟩
  rw [← hbks]
  exact congrArg config.settled.routeBackends hrul.symm

/-! ## Equal digests -/

variable {parseCidr : Text → Option IpNet} {serde : SnapshotSerde} {a b : WorkspaceSnapshot}

theorem settled_eq_of_digest_eq (ha : compileWorkspaceSnapshot parseCidr serde config = .ok a)
    (hb : compileWorkspaceSnapshot parseCidr serde config' = .ok b)
    (hser : serde.Separates serde.view [a.view.undigested, b.view.undigested])
    (hdig : a.metadata.digestSha256 = b.metadata.digestSha256) : config.settled = config'.settled := by
  have hv := (digest_eq_iff ha hb hser).1 hdig
  rw [← workspaceConfigFromSnapshotView_view ha, ← workspaceConfigFromSnapshotView_view hb]
  show workspaceConfigFromSnapshotView a.view.undigested = workspaceConfigFromSnapshotView b.view.undigested
  rw [hv]

theorem HttpDefaultsConfig.eq_of_limits {defaults defaults' : HttpDefaultsConfig}
    (h1 : defaults.http1Limits = defaults'.http1Limits) (h2 : defaults.http2Limits = defaults'.http2Limits) : defaults = defaults' := by
  obtain ⟨⟨a, b, c⟩, ⟨d, e⟩⟩ := defaults
  cases h1
  cases h2
  rfl

end

/-! ### One digest -/

def listedWorkspace : WorkspaceConfig :=
  { webWorkspace (lit "all") webBackends with
    routes := [{ name := lit "all", matchRule := { pathPrefix := lit "/" }, destinations := [⟨lit "backends", 1, {}⟩] }] }

def webSnapshot (config : WorkspaceConfig) : WorkspaceSnapshot :=
  (compileWorkspaceSnapshot anyCidr trustSerde config).toOption.getD ⟨snapshotView config [] [], [], [], []⟩

/-- The workspace with one stream to a connection, and fed from another service. -/
def throttledWorkspace (service : Text) (http2 : Http2DefaultsConfig) : WorkspaceConfig :=
  { webWorkspace (lit "all") { dnsBackends with discovery := some (.dnsSrv service 30) } with defaults := { http := { http2 := http2 } } }

end WayBalancer
