import WayBalancer.ConfigValidator
import WayBalancer.SnapshotRegistry
/-!
# ConfigCompiler — compiled snapshots, their views and their differences

`crates/config-model/src/compiler.rs` with the compilation of listeners, routes and clusters it calls (`listener.rs`, `route.rs`,
`upstream.rs`, `ListenerConfig` of `crates/net-core/src/lib.rs`).  What the JSON of a value is and what SHA-256 makes of bytes
are the libraries', so both are parameters.  A `Duration` is its milliseconds.
-/
namespace WayBalancer

open Str Word

/-! ## Listeners -/

inductive ListenerClass
  | publicSurface
  | admin
deriving DecidableEq, Repr

inductive ListenerBindMode
  | singleStack
  | dualStack
  | ipv6Only
deriving DecidableEq, Repr

inductive ProxyProtocolMode
  | disabled
  | v1
  | v2
deriving DecidableEq, Repr

structure TlsListenerConfig where
  certPath : Text
  keyPath : Text
deriving DecidableEq, Repr

structure ListenerConfig where
  name : Text
  listenerClass : ListenerClass
  bindAddress : SocketAddr
  bindMode : ListenerBindMode
  maxConnections : UInt64
  backlog : UInt32
  idleTimeout : ℕ
  drainTimeout : ℕ
  allowUnspecifiedBind : Bool
  proxyProtocol : ProxyProtocolMode
  tlsTermination : Option TlsListenerConfig
deriving DecidableEq, Repr

inductive ListenerConfigError
  | emptyName
  | zeroMaxConnections
  | zeroBacklog
  | unspecifiedBindRequiresOptIn (address : SocketAddr)
  | dualStackRequiresIpv6Bind (address : SocketAddr)
  | dualStackRequiresIpv6Wildcard (address : SocketAddr)
  | ipv6OnlyRequiresIpv6Bind (address : SocketAddr)
  | emptyTlsCertificatePath
  | emptyTlsPrivateKeyPath
deriving DecidableEq, Repr

def TlsListenerConfig.validate (config : TlsListenerConfig) : Except ListenerConfigError Unit :=
  if (trim config.certPath).isEmpty then .error .emptyTlsCertificatePath
  else if (trim config.keyPath).isEmpty then .error .emptyTlsPrivateKeyPath
  else .ok ()

def ListenerConfig.validateBindMode (config : ListenerConfig) : Except ListenerConfigError Unit :=
  match config.bindMode with
  | .singleStack => .ok ()
  | .dualStack =>
    if !config.bindAddress.isIpv6 then .error (.dualStackRequiresIpv6Bind config.bindAddress)
    else if !config.bindAddress.ip.isUnspecified then .error (.dualStackRequiresIpv6Wildcard config.bindAddress)
    else .ok ()
  | .ipv6Only => if !config.bindAddress.isIpv6 then .error (.ipv6OnlyRequiresIpv6Bind config.bindAddress) else .ok ()

def ListenerConfig.validate (config : ListenerConfig) : Except ListenerConfigError Unit :=
  if (trim config.name).isEmpty then .error .emptyName
  else if config.maxConnections = 0 then .error .zeroMaxConnections
  else if config.backlog = 0 then .error .zeroBacklog
  else if config.bindAddress.ip.isUnspecified && !config.allowUnspecifiedBind then
    .error (.unspecifiedBindRequiresOptIn config.bindAddress)
  else do
    config.validateBindMode
    config.tlsTermination.elim (.ok ()) TlsListenerConfig.validate

inductive WorkspaceConfigError
  | duplicateListenerName (name : Text)
  | duplicateClusterName (name : Text)
  | duplicateRouteName (name : Text)
  | invalidListenerConfig (error : ListenerConfigError)
  | emptyRouteName
  | emptyRoutePrefix (name : Text)
  | invalidRouteHostname (name : Text)
  | invalidRouteMethod (name : Text)
  | invalidRouteHeader (name : Text)
  | invalidRouteQuery (name : Text)
  | invalidRouteContentType (name : Text)
  | invalidRouteGrpcService (name : Text)
  | invalidRouteGrpcMethod (name : Text)
  | invalidRouteSourceCidr (name : Text)
  | invalidUpstreamModel (error : UpstreamModelError)
deriving DecidableEq, Repr

def ListenerClassConfig.into : ListenerClassConfig → ListenerClass
  | .publicSurface => .publicSurface
  | .admin         => .admin

def ListenerBindModeConfig.into : ListenerBindModeConfig → ListenerBindMode
  | .singleStack => .singleStack
  | .dualStack   => .dualStack
  | .ipv6Only    => .ipv6Only

def ProxyProtocolModeConfig.into : ProxyProtocolModeConfig → ProxyProtocolMode
  | .disabled => .disabled
  | .v1       => .v1
  | .v2       => .v2

variable (listener : ListenerResourceConfig)

def ListenerResourceConfig.withDefaults (defaults : WorkspaceDefaultsConfig) :
    ListenerConfig where
  name := listener.name
  listenerClass := listener.listenerClass.into
  bindAddress := listener.bindAddress
  bindMode := listener.bindMode.into
  maxConnections := listener.maxConnections.getD defaults.listener.maxConnections
  backlog := listener.backlog.getD defaults.listener.backlog
  idleTimeout := (listener.idleTimeoutMs.getD defaults.listener.idleTimeoutMs).toNat
  drainTimeout := (listener.drainTimeoutMs.getD defaults.listener.drainTimeoutMs).toNat
  allowUnspecifiedBind := listener.allowUnspecifiedBind || defaults.listener.allowUnspecifiedBind
  proxyProtocol := listener.proxyProtocol.into
  tlsTermination := listener.tlsTermination.map (fun tls => ⟨tls.certificateSource.certPath, tls.certificateSource.keyPath⟩)

def ListenerResourceConfig.compile (defaults : WorkspaceDefaultsConfig) : Except WorkspaceConfigError ListenerConfig :=
  match (listener.withDefaults defaults).validate with
  | .error error => .error (.invalidListenerConfig error)
  | .ok ()       => .ok (listener.withDefaults defaults)

/-- The loop of `compile_listeners`, `compile_route_rules` and `compile_clusters`: each resource is compiled, and a name seen
before is refused. -/
def compileDistinct {α β : Type} (name : α → Text) (duplicate : Text → WorkspaceConfigError)
    (compile : α → Except WorkspaceConfigError β) (seen : List Text) : List α → Except WorkspaceConfigError (List β)
  | []        => .ok []
  | x :: rest =>
    if name x ∈ seen then .error (duplicate (name x))
    else do
      let compiled ← compile x
      let rest ← compileDistinct name duplicate compile (name x :: seen) rest
      return compiled :: rest

def compileListeners (listeners : List ListenerResourceConfig) (defaults : WorkspaceDefaultsConfig) :
    Except WorkspaceConfigError (List ListenerConfig) :=
  compileDistinct (·.name) .duplicateListenerName (·.compile defaults) [] listeners

/-! ## Routes -/

/-- The elements of a `BTreeSet`, in the order of their keys. -/
def sortedSet {α κ : Type} [DecidableEq α] [LinearOrder κ] (key : α → κ) (xs : List α) : List α :=
  xs.dedup.insertionSort (fun a b => key a ≤ key b)

def RouteHeaderMatch.orderKey : RouteHeaderMatch → ℕ ×ₗ Text ×ₗ Text
  | .exact name value => toLex (0, toLex (name, value))
  | .present name     => toLex (1, toLex (name, []))
  | .absent name      => toLex (2, toLex (name, []))

def RouteQueryMatch.orderKey : RouteQueryMatch → ℕ ×ₗ Text ×ₗ Text
  | .exact name value => toLex (0, toLex (name, value))
  | .present name     => toLex (1, toLex (name, []))
  | .absent name      => toLex (2, toLex (name, []))

def IpNet.orderKey : IpNet → ℕ ×ₗ ℕ ×ₗ ℕ
  | .v4 a b c d prefixLen   => toLex (0, toLex (IpNet.numberV4 a b c d, prefixLen.val))
  | .v6 segments prefixLen => toLex (1, toLex (IpNet.numberV6 segments, prefixLen.val))

def RouteHeaderMatchConfig.normalize : RouteHeaderMatchConfig → Option RouteHeaderMatch
  | .exact name value => (normalizeHttpHeaderName name).map (.exact · (trim value))
  | .present name     => (normalizeHttpHeaderName name).map .present
  | .absent name      => (normalizeHttpHeaderName name).map .absent

def RouteQueryMatchConfig.normalize : RouteQueryMatchConfig → Option RouteQueryMatch
  | .exact name value => do
    let name ← (canonicalizeQueryMatchName name).toOption
    let value ← (canonicalizeQueryMatchValue value).toOption
    return .exact name value
  | .present name => (canonicalizeQueryMatchName name).toOption.map .present
  | .absent name => (canonicalizeQueryMatchName name).toOption.map .absent

/-- Every entry of a matcher normalized into a set, or the error of that matcher. -/
def normalizeEntries {α β κ : Type} [DecidableEq β] [LinearOrder κ] (normalize : α → Option β) (key : β → κ)
    (error : WorkspaceConfigError) (entries : List α) : Except WorkspaceConfigError (List β) :=
  match entries.mapM normalize with
  | some normalized => .ok (sortedSet key normalized)
  | none            => .error error

section
variable (parseCidr : Text → Option IpNet)

def RouteConfig.compileRule (route : RouteConfig) : Except WorkspaceConfigError RoutePrefixRule :=
  let rule := route.matchRule
  if (trim route.name).isEmpty then .error .emptyRouteName
  else if (trim rule.pathPrefix).isEmpty then .error (.emptyRoutePrefix route.name)
  else do
    let hostnames ← normalizeEntries (fun hostname => (canonicalizeHost hostname).toOption) id
      (.invalidRouteHostname route.name) rule.hostnames
    let methods ← normalizeEntries normalizeHttpMethod id (.invalidRouteMethod route.name) rule.methods
    let headerMatches ← normalizeEntries RouteHeaderMatchConfig.normalize RouteHeaderMatch.orderKey
      (.invalidRouteHeader route.name) rule.headers
    let queryMatches ← normalizeEntries RouteQueryMatchConfig.normalize RouteQueryMatch.orderKey
      (.invalidRouteQuery route.name) rule.queryParams
    let contentTypes ← normalizeEntries normalizeContentTypeMatch id (.invalidRouteContentType route.name) rule.contentTypes
    let grpcServices ← normalizeEntries normalizeGrpcServiceMatch id (.invalidRouteGrpcService route.name) rule.grpcServices
    let grpcMethods ← normalizeEntries normalizeGrpcMethodMatch id (.invalidRouteGrpcMethod route.name) rule.grpcMethods
    let sourceCidrs ← normalizeEntries parseCidr IpNet.orderKey (.invalidRouteSourceCidr route.name) rule.sourceCidrs
    return ⟨route.name, rule.pathPrefix, hostnames, methods, headerMatches, queryMatches, contentTypes, grpcServices,
      grpcMethods, sourceCidrs⟩

def compileRouteRules (routes : List RouteConfig) : Except WorkspaceConfigError (List RoutePrefixRule) :=
  compileDistinct (·.name) .duplicateRouteName (·.compileRule parseCidr) [] routes

end

/-! ## Clusters -/

def EndpointStateConfig.into : EndpointStateConfig → EndpointState
  | .ready       => .ready
  | .draining    => .draining
  | .unavailable => .unavailable

def UpstreamEndpointConfig.compile (endpoint : UpstreamEndpointConfig) : Except WorkspaceConfigError UpstreamEndpoint := do
  let id ← (UpstreamEndpointId.new endpoint.id).mapError .invalidUpstreamModel
  (UpstreamEndpoint.new id endpoint.address endpoint.state.into ⟨endpoint.zone, endpoint.locality, endpoint.weight⟩).mapError
    .invalidUpstreamModel

/-- A blank name fails before it can be seen twice, so the name is made here and not before the check of the loop. -/
def UpstreamClusterConfig.compile (cluster : UpstreamClusterConfig) : Except WorkspaceConfigError UpstreamCluster := do
  let clusterName ← (UpstreamClusterName.new cluster.name).mapError .invalidUpstreamModel
  let endpoints ← cluster.endpoints.mapM UpstreamEndpointConfig.compile
  (UpstreamCluster.new clusterName endpoints).mapError .invalidUpstreamModel

def compileClusters (clusters : List UpstreamClusterConfig) : Except WorkspaceConfigError (List UpstreamCluster) :=
  compileDistinct (·.name) .duplicateClusterName UpstreamClusterConfig.compile [] clusters

/-! ## Snapshots -/

structure SnapshotMetadata where
  formatVersion : Text
  apiVersion : ConfigApiVersion
  digestSha256 : Text
deriving DecidableEq

inductive ListenerCertificateSourceSnapshot
  | files (certPath keyPath : Text) (ocspPath : Option Text)
deriving DecidableEq

structure ListenerTlsSniCertificateSnapshot where
  serverNames : List Text
  certificateSource : ListenerCertificateSourceSnapshot
deriving DecidableEq

structure ListenerTlsTerminationSnapshot where
  certificateSource : ListenerCertificateSourceSnapshot
  sniCertificates : List ListenerTlsSniCertificateSnapshot
  sessionResumption : ListenerTlsSessionResumptionConfig
  minimumVersion : ListenerTlsMinimumVersionConfig
  alpnProtocols : List ListenerAlpnProtocolConfig
deriving DecidableEq

structure ListenerSnapshot where
  name : Text
  listenerClass : ListenerClassConfig
  protocol : ListenerProtocolConfig
  bindMode : ListenerBindModeConfig
  proxyProtocol : ProxyProtocolModeConfig
  admin : AdminListenerPolicyConfig
  tlsTermination : Option ListenerTlsTerminationSnapshot
  bindAddress : SocketAddr
  maxConnections : UInt64
  backlog : UInt32
  idleTimeoutMs : UInt64
  drainTimeoutMs : UInt64
  allowUnspecifiedBind : Bool
  routes : List Text
  policies : PolicyBindingConfig
  upgrade : UpgradePolicyConfig
deriving DecidableEq

structure RouteSnapshot where
  name : Text
  matchRule : RouteMatchConfig
  destinations : List RouteDestinationConfig
  policies : PolicyBindingConfig
  upgrade : UpgradePolicyConfig
deriving DecidableEq

structure UpstreamEndpointSnapshot where
  id : Text
  address : SocketAddr
  state : EndpointStateConfig
  zone : Option Text
  locality : Option Text
  weight : UInt16
deriving DecidableEq

structure UpstreamClusterSnapshot where
  name : Text
  transport : UpstreamTransportConfig
  endpoints : List UpstreamEndpointSnapshot
  trafficPolicy : UpstreamTrafficPolicyConfig
  policies : PolicyBindingConfig
deriving DecidableEq

structure WorkspaceSnapshotView where
  metadata : SnapshotMetadata
  workspaceName : Text
  security : WorkspaceSecurityConfig
  policies : PolicyResourcesConfig
  listeners : List ListenerSnapshot
  routes : List RouteSnapshot
  upstreamClusters : List UpstreamClusterSnapshot
deriving DecidableEq

structure WorkspaceSnapshot extends WorkspaceSnapshotView where
  compiledListeners : List ListenerConfig
  compiledRouteRules : List RoutePrefixRule
  compiledUpstreamClusters : List UpstreamCluster

def WorkspaceSnapshot.view (snapshot : WorkspaceSnapshot) : WorkspaceSnapshotView := snapshot.toWorkspaceSnapshotView

inductive SnapshotCompileError
  | validation (report : ValidationReport)
  | model (error : WorkspaceConfigError)
  | serialization (error : Text)
deriving DecidableEq, Repr

/-- `serde_json::to_vec` of what is hashed, and SHA-256. -/
structure SnapshotSerde where
  view : WorkspaceSnapshotView → Except Text (List UInt8)
  listener : ListenerSnapshot → Except Text (List UInt8)
  route : RouteSnapshot → Except Text (List UInt8)
  upstreamCluster : UpstreamClusterSnapshot → Except Text (List UInt8)
  sha256 : List UInt8 → List UInt8

def encodeHex (bytes : List UInt8) : Text := bytes.flatMap (fun byte => hexPadded 2 byte.toNat)

def snapshotCertificateSource : ListenerCertificateSourceConfig → ListenerCertificateSourceSnapshot
  | .files certPath keyPath ocspPath => .files certPath keyPath ocspPath

def configCertificateSource : ListenerCertificateSourceSnapshot → ListenerCertificateSourceConfig
  | .files certPath keyPath ocspPath => .files certPath keyPath ocspPath

def snapshotTlsTermination (tls : ListenerTlsTerminationConfig) : ListenerTlsTerminationSnapshot where
  certificateSource := snapshotCertificateSource tls.certificateSource
  sniCertificates := tls.sniCertificates.map (fun certificate =>
    ⟨certificate.serverNames, snapshotCertificateSource certificate.certificateSource⟩)
  sessionResumption := tls.sessionResumption
  minimumVersion := tls.minimumVersion
  alpnProtocols := tls.alpnProtocols

def configTlsTermination (tls : ListenerTlsTerminationSnapshot) : ListenerTlsTerminationConfig where
  certificateSource := configCertificateSource tls.certificateSource
  sniCertificates := tls.sniCertificates.map (fun certificate =>
    ⟨certificate.serverNames, configCertificateSource certificate.certificateSource⟩)
  sessionResumption := tls.sessionResumption
  minimumVersion := tls.minimumVersion
  alpnProtocols := tls.alpnProtocols

def durationToMillis (value : ℕ) : UInt64 := if value > u64Max then UInt64.ofNat u64Max else UInt64.ofNat value

def snapshotListener (compiled : ListenerConfig) : ListenerSnapshot where
  name := listener.name
  listenerClass := listener.listenerClass
  protocol := listener.protocol
  bindMode := listener.bindMode
  proxyProtocol := listener.proxyProtocol
  admin := listener.admin
  tlsTermination := listener.tlsTermination.map snapshotTlsTermination
  bindAddress := compiled.bindAddress
  maxConnections := compiled.maxConnections
  backlog := compiled.backlog
  idleTimeoutMs := durationToMillis compiled.idleTimeout
  drainTimeoutMs := durationToMillis compiled.drainTimeout
  allowUnspecifiedBind := compiled.allowUnspecifiedBind
  routes := listener.routes
  policies := listener.policies
  upgrade := listener.upgrade

def snapshotRoute (route : RouteConfig) : RouteSnapshot where
  name := route.name
  matchRule := route.matchRule
  destinations := route.normalizedDestinations
  policies := route.policies
  upgrade := route.upgrade

def snapshotEndpoint (endpoint : UpstreamEndpointConfig) : UpstreamEndpointSnapshot :=
  ⟨endpoint.id, endpoint.address, endpoint.state, endpoint.zone, endpoint.locality, endpoint.weight⟩

def snapshotCluster (cluster : UpstreamClusterConfig) : UpstreamClusterSnapshot where
  name := cluster.name
  transport := cluster.transport
  endpoints := cluster.endpoints.map snapshotEndpoint
  trafficPolicy := cluster.trafficPolicy
  policies := cluster.policies

def snapshotFormatVersion : Text := lit "v1"

def snapshotView (config : WorkspaceConfig) (compiledListeners : List ListenerConfig) (digestSha256 : Text) :
    WorkspaceSnapshotView where
  metadata := ⟨snapshotFormatVersion, config.apiVersion, digestSha256⟩
  workspaceName := config.name
  security := config.security
  policies := config.policies
  listeners := List.zipWith snapshotListener config.listeners compiledListeners
  routes := config.routes.map snapshotRoute
  upstreamClusters := config.upstreamClusters.map snapshotCluster

/-! ## Compilation, and back from a view -/

section
variable (parseCidr : Text → Option IpNet) (serde : SnapshotSerde)

def computeDigest (view : WorkspaceSnapshotView) : Except SnapshotCompileError Text :=
  match serde.view view with
  | .error error => .error (.serialization error)
  | .ok payload  => .ok (encodeHex (serde.sha256 payload))

/-- `compile_workspace_snapshot`: the digest is that of the view with an empty digest. -/
def compileWorkspaceSnapshot (config : WorkspaceConfig) : Except SnapshotCompileError WorkspaceSnapshot := do
  (config.validate parseCidr).mapError .validation
  let compiledListeners ← (compileListeners config.listeners config.defaults).mapError .model
  let compiledRouteRules ← (compileRouteRules parseCidr config.routes).mapError .model
  let compiledUpstreamClusters ← (compileClusters config.upstreamClusters).mapError .model
  let digestSha256 ← computeDigest serde (snapshotView config compiledListeners [])
  return ⟨snapshotView config compiledListeners digestSha256, compiledListeners, compiledRouteRules, compiledUpstreamClusters⟩

def configListener (listener : ListenerSnapshot) : ListenerResourceConfig where
  name := listener.name
  listenerClass := listener.listenerClass
  bindAddress := listener.bindAddress
  bindMode := listener.bindMode
  protocol := listener.protocol
  proxyProtocol := listener.proxyProtocol
  tlsTermination := listener.tlsTermination.map configTlsTermination
  allowUnspecifiedBind := listener.allowUnspecifiedBind
  maxConnections := some listener.maxConnections
  backlog := some listener.backlog
  idleTimeoutMs := some listener.idleTimeoutMs
  drainTimeoutMs := some listener.drainTimeoutMs
  routes := listener.routes
  policies := listener.policies
  upgrade := listener.upgrade
  admin := listener.admin

def configRoute (route : RouteSnapshot) : RouteConfig where
  name := route.name
  matchRule := route.matchRule
  upstreamCluster := none
  destinations := route.destinations
  policies := route.policies
  upgrade := route.upgrade

def configEndpoint (endpoint : UpstreamEndpointSnapshot) : UpstreamEndpointConfig :=
  ⟨endpoint.id, endpoint.address, endpoint.state, endpoint.zone, endpoint.locality, endpoint.weight⟩

/-- A view does not show where a cluster's endpoints are discovered. -/
def configCluster (cluster : UpstreamClusterSnapshot) : UpstreamClusterConfig where
  name := cluster.name
  transport := cluster.transport
  endpoints := cluster.endpoints.map configEndpoint
  discovery := none
  trafficPolicy := cluster.trafficPolicy
  policies := cluster.policies

/-- `workspace_config_from_snapshot_view`; the defaults are those of the foundation. -/
def workspaceConfigFromSnapshotView (view : WorkspaceSnapshotView) : WorkspaceConfig where
  apiVersion := view.metadata.apiVersion
  name := view.workspaceName
  security := view.security
  policies := view.policies
  listeners := view.listeners.map configListener
  routes := view.routes.map configRoute
  upstreamClusters := view.upstreamClusters.map configCluster

def WorkspaceSnapshot.fromView (view : WorkspaceSnapshotView) : Except SnapshotCompileError WorkspaceSnapshot :=
  compileWorkspaceSnapshot parseCidr serde (workspaceConfigFromSnapshotView view)

end

/-! ## Differences -/

section
variable (serde : SnapshotSerde)

def resourceFingerprint (payload : Except Text (List UInt8)) : Text :=
  match payload with
  | .ok payload => encodeHex (serde.sha256 payload)
  | .error _    => []

/-- `diff_named_resources` and `diff_route_resources`: by name, what was added, removed or has another fingerprint. -/
def diffResources {α : Type} (name fingerprint : α → Text) (describe : α → α → Option Text) (previous next : List α) :
    List SnapshotResourceChange :=
  let previousByName : SortedMap Text α := .ofList (previous.map (fun resource => (name resource, resource)))
  let nextByName : SortedMap Text α := .ofList (next.map (fun resource => (name resource, resource)))
  let names : SortedMap Text Unit := .ofList ((previousByName.keys ++ nextByName.keys).map (fun name => (name, ())))
  names.keys.filterMap (fun name => match previousByName.get? name, nextByName.get? name with
    | none, some _ => some ⟨name, .added, none⟩
    | some _, none => some ⟨name, .removed, none⟩
    | some previous, some next =>
      if fingerprint previous ≠ fingerprint next then some ⟨name, .updated, describe previous next⟩ else none
    | none, none => none)

def formatRouteDestinations (destinations : List RouteDestinationConfig) : Text :=
  if destinations.isEmpty then lit "<none>"
  else List.intercalate (lit ", ") (destinations.map (fun destination =>
    destination.upstreamCluster ++ ':' :: Nat.toDigits 10 destination.weight.toNat))

def describeRouteChange (previous next : RouteSnapshot) : Option Text :=
  let parts :=
    (if previous.destinations ≠ next.destinations then
      [lit "destinations " ++ formatRouteDestinations previous.destinations ++ lit " -> " ++
        formatRouteDestinations next.destinations] else []) ++
    (if previous.matchRule ≠ next.matchRule then [lit "match rule changed"] else []) ++
    (if previous.policies ≠ next.policies then [lit "policies changed"] else [])
  if parts.isEmpty then none else some (List.intercalate (lit "; ") parts)

def WorkspaceSnapshot.diff (previous next : WorkspaceSnapshot) : SnapshotChanges where
  previousDigestSha256 := previous.metadata.digestSha256
  nextDigestSha256 := next.metadata.digestSha256
  listenerChanges := diffResources (·.name) (fun listener => resourceFingerprint serde (serde.listener listener))
    (fun _ _ => none) previous.listeners next.listeners
  routeChanges := diffResources (·.name) (fun route => resourceFingerprint serde (serde.route route)) describeRouteChange
    previous.routes next.routes
  upstreamClusterChanges := diffResources (·.name)
    (fun cluster => resourceFingerprint serde (serde.upstreamCluster cluster)) (fun _ _ => none) previous.upstreamClusters
    next.upstreamClusters

/-! ## The registry's snapshots -/

def snapshotOps (ed25519 : Ed25519) : SnapshotOps WorkspaceSnapshot where
  digest snapshot := snapshot.metadata.digestSha256
  workspaceName snapshot := snapshot.workspaceName
  diff := WorkspaceSnapshot.diff serde
  verify snapshot := verifySnapshotArtifactIntegrity ed25519 snapshot.security snapshot.metadata.digestSha256

def snapshotViews (parseCidr : Text → Option IpNet) :
    SnapshotViews WorkspaceSnapshot WorkspaceSnapshotView SnapshotCompileError where
  view := WorkspaceSnapshot.view
  fromView := WorkspaceSnapshot.fromView parseCidr serde

end

end WayBalancer
