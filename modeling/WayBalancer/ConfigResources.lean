import WayBalancer.ConfigPolicy
import WayBalancer.ConfigSecurity
import WayBalancer.Upstream
/-!
# ConfigResources — a workspace and the resources it declares

`WorkspaceConfig` of `crates/config-model/src/lib.rs` with its defaults, listeners, routes and upstream clusters
(`defaults.rs`, `upgrade.rs`, `listener.rs`, `route.rs`, `upstream.rs`).
-/
namespace WayBalancer

open Str

/-! ## Defaults -/

structure ListenerDefaultsConfig where
  maxConnections : UInt64 := 128
  backlog : UInt32 := 1024
  idleTimeoutMs : UInt64 := 30 * 1000
  drainTimeoutMs : UInt64 := 5000
  allowUnspecifiedBind : Bool := false
deriving DecidableEq

structure Http1DefaultsConfig where
  maxHeadBytes : UInt64 := 16 * 1024
  maxHeaderCount : UInt64 := 64
  maxBodyBytes : UInt64 := 8 * 1024 * 1024
deriving DecidableEq

structure Http2DefaultsConfig where
  maxConcurrentStreams : UInt64 := 128
  maxBodyBytes : UInt64 := 8 * 1024 * 1024
deriving DecidableEq

structure HttpDefaultsConfig where
  http1 : Http1DefaultsConfig := {}
  http2 : Http2DefaultsConfig := {}
deriving DecidableEq

structure WorkspaceDefaultsConfig where
  listener : ListenerDefaultsConfig := {}
  http : HttpDefaultsConfig := {}
deriving DecidableEq

inductive UpgradeProtocolConfig
  | websocket
deriving DecidableEq

structure UpgradePolicyConfig where
  protocols : List UpgradeProtocolConfig := []
deriving DecidableEq

def UpgradePolicyConfig.isDefault (policy : UpgradePolicyConfig) : Bool := policy.protocols.isEmpty

/-! ## Listeners -/

inductive AdminAuthorizationScopeConfig
  | read
  | audit
  | write
deriving DecidableEq

structure AdminOperatorConfig where
  id : Text
  secretEnv : Text
  permissions : List AdminAuthorizationScopeConfig
deriving DecidableEq

inductive AdminAuthPolicyConfig
  | bearer (secretEnv : Text) (permissions : List AdminAuthorizationScopeConfig)
  | signedHeaders (operators : List AdminOperatorConfig) (maxClockSkewSecs nonceTtlSecs : UInt64)
deriving DecidableEq

structure AdminRateLimitConfig where
  requestsPerMinute : UInt32 := 120
  burst : UInt32 := 10
deriving DecidableEq

structure AdminAuditConfig where
  maxRetainedEvents : UInt64 := 64
deriving DecidableEq

def defaultAdminSecretEnv : Text := lit "LB_CTL_ADMIN_SECRET"

def defaultAdminPermissions : List AdminAuthorizationScopeConfig := [.read, .audit, .write]

structure AdminListenerPolicyConfig where
  auth : AdminAuthPolicyConfig := .bearer defaultAdminSecretEnv defaultAdminPermissions
  allowedSourceCidrs : List Text := []
  rateLimit : AdminRateLimitConfig := {}
  audit : AdminAuditConfig := {}
deriving DecidableEq

def AdminListenerPolicyConfig.isDefault (policy : AdminListenerPolicyConfig) : Bool := policy = {}

inductive ListenerCertificateSourceConfig
  | files (certPath keyPath : Text) (ocspPath : Option Text)
deriving DecidableEq

def ListenerCertificateSourceConfig.certPath : ListenerCertificateSourceConfig → Text
  | .files certPath _ _ => certPath

def ListenerCertificateSourceConfig.keyPath : ListenerCertificateSourceConfig → Text
  | .files _ keyPath _ => keyPath

def ListenerCertificateSourceConfig.ocspPath : ListenerCertificateSourceConfig → Option Text
  | .files _ _ ocspPath => ocspPath

inductive ListenerTlsSessionResumptionModeConfig
  | disabled
  | stateful
  | tickets
  | hybrid
deriving DecidableEq

structure ListenerTlsSessionResumptionConfig where
  mode : ListenerTlsSessionResumptionModeConfig := .hybrid
  sessionCacheSize : UInt64 := 256
  tls13TicketCount : UInt64 := 2
deriving DecidableEq

inductive ListenerTlsMinimumVersionConfig
  | tls12
  | tls13
deriving DecidableEq

inductive ListenerAlpnProtocolConfig
  | http2
  | http11
  | http3
deriving DecidableEq

structure ListenerTlsSniCertificateConfig where
  serverNames : List Text
  certificateSource : ListenerCertificateSourceConfig
deriving DecidableEq

structure ListenerTlsTerminationConfig where
  certificateSource : ListenerCertificateSourceConfig
  sniCertificates : List ListenerTlsSniCertificateConfig
  sessionResumption : ListenerTlsSessionResumptionConfig
  minimumVersion : ListenerTlsMinimumVersionConfig
  alpnProtocols : List ListenerAlpnProtocolConfig
deriving DecidableEq

inductive ListenerClassConfig
  | publicSurface
  | admin
deriving DecidableEq

inductive ListenerBindModeConfig
  | singleStack
  | dualStack
  | ipv6Only
deriving DecidableEq

inductive ListenerProtocolConfig
  | tcp
  | http1
  | https
  | http2
  | http3
  | auto
deriving DecidableEq

inductive ProxyProtocolModeConfig
  | disabled
  | v1
  | v2
deriving DecidableEq

structure ListenerResourceConfig where
  name : Text
  listenerClass : ListenerClassConfig
  bindAddress : SocketAddr
  bindMode : ListenerBindModeConfig := .singleStack
  protocol : ListenerProtocolConfig := .tcp
  proxyProtocol : ProxyProtocolModeConfig := .disabled
  tlsTermination : Option ListenerTlsTerminationConfig := none
  allowUnspecifiedBind : Bool := false
  maxConnections : Option UInt64 := none
  backlog : Option UInt32 := none
  idleTimeoutMs : Option UInt64 := none
  drainTimeoutMs : Option UInt64 := none
  routes : List Text := []
  policies : PolicyBindingConfig := {}
  upgrade : UpgradePolicyConfig := {}
  admin : AdminListenerPolicyConfig := {}
deriving DecidableEq

/-! ## Routes -/

inductive RouteHeaderMatchConfig
  | exact (name value : Text)
  | present (name : Text)
  | absent (name : Text)
deriving DecidableEq

inductive RouteQueryMatchConfig
  | exact (name value : Text)
  | present (name : Text)
  | absent (name : Text)
deriving DecidableEq

/-- `RouteMatchConfig::PathPrefix`, the one kind of match there is. -/
structure RouteMatchConfig where
  pathPrefix : Text
  hostnames : List Text := []
  methods : List Text := []
  headers : List RouteHeaderMatchConfig := []
  queryParams : List RouteQueryMatchConfig := []
  contentTypes : List Text := []
  grpcServices : List Text := []
  grpcMethods : List Text := []
  sourceCidrs : List Text := []
deriving DecidableEq

structure RouteDestinationConfig where
  upstreamCluster : Text
  weight : UInt16
  policies : PolicyBindingConfig
deriving DecidableEq

structure RouteConfig where
  name : Text
  matchRule : RouteMatchConfig
  upstreamCluster : Option Text := none
  destinations : List RouteDestinationConfig := []
  policies : PolicyBindingConfig := {}
  upgrade : UpgradePolicyConfig := {}
deriving DecidableEq

def PolicyBindingConfig.references (binding : PolicyBindingConfig) : List (Option Text) :=
  [binding.hostileEdgeProtection, binding.retryBudget, binding.timeoutHierarchy, binding.circuitBreaker,
    binding.overloadResponse, binding.cachePolicy, binding.transformPolicy, binding.trafficMirror, binding.faultInjection,
    binding.jwtAuthPolicy, binding.externalAuthPolicy, binding.authorizationPolicy, binding.upstreamIdentityPolicy,
    binding.requestClassificationPolicy]

/-- The derived order of destinations: the fields in turn, an absent reference before every present one. -/
abbrev DestinationKey := Text ×ₗ ℕ ×ₗ List Text ×ₗ List Text ×ₗ List (WithBot Text)

def RouteDestinationConfig.orderKey (destination : RouteDestinationConfig) : DestinationKey :=
  toLex (destination.upstreamCluster, toLex (destination.weight.toNat, toLex (destination.policies.localRateLimits,
    toLex (destination.policies.localConcurrencyLimits, destination.policies.references))))

def RouteDestinationConfig.le (a b : RouteDestinationConfig) : Prop := a.orderKey ≤ b.orderKey

instance : DecidableRel RouteDestinationConfig.le := fun a b => inferInstanceAs (Decidable (a.orderKey ≤ b.orderKey))

instance : Std.Total RouteDestinationConfig.le := ⟨fun a b => le_total a.orderKey b.orderKey⟩

instance : IsTrans RouteDestinationConfig RouteDestinationConfig.le :=
  ⟨fun a b c (hab : a.orderKey ≤ b.orderKey) (hbc : b.orderKey ≤ c.orderKey) => hab.trans hbc⟩

/-- The destinations in their order; a route with none of its own goes to the cluster it names. -/
def RouteConfig.normalizedDestinations (route : RouteConfig) : List RouteDestinationConfig :=
  let destinations :=
    if route.destinations.isEmpty then
      (route.upstreamCluster.map (fun upstreamCluster => [⟨upstreamCluster, 1, {}⟩])).getD []
    else route.destinations
  destinations.insertionSort RouteDestinationConfig.le

/-! ## Upstream clusters -/

inductive UpstreamTransportConfig
  | http1
  | http2
  | http3
deriving DecidableEq

inductive DiscoverySourceConfig
  | dnsAaaa (hostname : Text) (port : UInt16) (minRefreshSecs : UInt64)
  | dnsSrv (service : Text) (minRefreshSecs : UInt64)
  | kubernetesEndpointSlice (k8sNamespace service : Text)
  | consulLike (service : Text) (datacenter : Option Text)
deriving DecidableEq

inductive AffinityFallbackConfig
  | balanceHealthy
deriving DecidableEq

inductive AffinityPolicyConfig
  | headerHash (headerName : Text) (fallback : AffinityFallbackConfig)
  | cookieHash (cookieName : Text) (fallback : AffinityFallbackConfig)
deriving DecidableEq

inductive LoadBalancingAlgorithmConfig
  | roundRobin
  | weightedRoundRobin
  | powerOfTwoChoices
deriving DecidableEq

inductive LocalityRoutingConfig
  | disabled
  | preferLocality
  | preferZone
  | preferLocalityThenZone
deriving DecidableEq

inductive NoHealthyFallbackConfig
  | fail
  | includeUnhealthy
deriving DecidableEq

structure UpstreamTrafficPolicyConfig where
  algorithm : LoadBalancingAlgorithmConfig := .roundRobin
  locality : LocalityRoutingConfig := .disabled
  noHealthyFallback : NoHealthyFallbackConfig := .fail
  affinity : Option AffinityPolicyConfig := none
deriving DecidableEq

inductive EndpointStateConfig
  | ready
  | draining
  | unavailable
deriving DecidableEq

structure UpstreamEndpointConfig where
  id : Text
  address : SocketAddr
  state : EndpointStateConfig := .ready
  zone : Option Text := none
  locality : Option Text := none
  weight : UInt16 := 1
deriving DecidableEq

structure UpstreamClusterConfig where
  name : Text
  transport : UpstreamTransportConfig := .http1
  endpoints : List UpstreamEndpointConfig
  discovery : Option DiscoverySourceConfig := none
  trafficPolicy : UpstreamTrafficPolicyConfig := {}
  policies : PolicyBindingConfig := {}
deriving DecidableEq

/-! ## Workspaces -/

inductive ConfigApiVersion
  | v1Alpha1
deriving DecidableEq

/-- Its defaults are those of `WorkspaceConfig::foundation`. -/
structure WorkspaceConfig where
  apiVersion : ConfigApiVersion := .v1Alpha1
  name : Text := lit "way-balancer"
  defaults : WorkspaceDefaultsConfig := {}
  security : WorkspaceSecurityConfig := {}
  listeners : List ListenerResourceConfig := []
  routes : List RouteConfig := []
  upstreamClusters : List UpstreamClusterConfig := []
  policies : PolicyResourcesConfig := {}
deriving DecidableEq

end WayBalancer
