import WayBalancer.ConfigPolicyValidator
/-!
# ConfigValidator — the checks a workspace passes before it is compiled

`validate_workspace_config` of `crates/config-model/src/validator/`: defaults, security, the names of the resources, then each
listener, route and upstream cluster.  Whether a text is an address range is the `ipnet` crate's, so its parser is a parameter.
-/
namespace WayBalancer

open Str Findings ValidationError

structure ValidationReport where
  errors : List ValidationError
deriving DecidableEq, Repr

def ValidationReport.isEmpty (report : ValidationReport) : Bool := report.errors.isEmpty

/-! ## Defaults -/

def validateWorkspaceBasics (config : WorkspaceConfig) : List ValidationError :=
  flag (trim config.name).isEmpty (schema .emptyWorkspaceName (lit "name") (lit "workspace name must not be empty"))

def validateDefaults (defaults : WorkspaceDefaultsConfig) : List ValidationError :=
  let listener := defaults.listener
  let http1 := defaults.http.http1
  let http2 := defaults.http.http2
  flag (listener.maxConnections = 0 ∨ listener.backlog = 0 ∨ listener.idleTimeoutMs = 0 ∨ listener.drainTimeoutMs = 0)
    (schema .invalidListenerDefaults (lit "defaults.listener") (lit
      "listener defaults must use non-zero max_connections, backlog, idle_timeout_ms, and drain_timeout_ms")) ++
  flag (http1.maxHeadBytes = 0 ∨ http1.maxHeaderCount = 0 ∨ http1.maxBodyBytes = 0)
    (schema .invalidHttp1Defaults (lit "defaults.http.http1")
      (lit "http1 defaults must use non-zero max_head_bytes, max_header_count, and max_body_bytes")) ++
  flag (http2.maxConcurrentStreams = 0 ∨ http2.maxBodyBytes = 0)
    (schema .invalidHttp2Defaults (lit "defaults.http.http2")
      (lit "http2 defaults must use non-zero max_concurrent_streams and max_body_bytes"))

section
variable (parseCidr : Text → Option IpNet)

def validateCidrs (code : ValidationCode) (path : Text) (complaint : String) (cidrs : List Text) : List ValidationError :=
  each cidrs (fun index cidr => flag (parseCidr cidr).isNone (schema code (nth path index) (lit complaint ++ cidr)))

/-! ## Security -/

def validateTrustedSigners (trustedSigners : List TrustedArtifactSignerConfig) : List ValidationError :=
  let path := lit "security.artifact_verification.trusted_signers"
  (scan [] trustedSigners (fun trustedSignerIds index trustedSigner =>
    let normalizedIdentity := trim trustedSigner.identity
    (flag (byteLen normalizedIdentity > 128) (schema .invalidSecurityDefaults (dot (nth path index) "identity")
        (lit "artifact verification signer identity exceeds max length")) ++
      flag (!isLowerHexEd25519PublicKey trustedSigner.publicKeyEd25519) (schema .invalidSecurityDefaults
        (dot (nth path index) "public_key_ed25519")
        (lit "artifact verification signer public key must be a lowercase ed25519 hex string")) ++
      flag (normalizedIdentity ∈ trustedSignerIds) (schema .invalidSecurityDefaults path
        (lit "artifact verification trusted_signers must not repeat identities")),
      normalizedIdentity :: trustedSignerIds))).1

def validateAnonymousSourceFilter (filter : AnonymousSourceFilterConfig) : List ValidationError :=
  [("deny_cidrs", filter.denyCidrs), ("vpn_cidrs", filter.vpnCidrs), ("proxy_cidrs", filter.proxyCidrs),
    ("socks_cidrs", filter.socksCidrs), ("tor_exit_cidrs", filter.torExitCidrs)].flatMap (fun (field, cidrs) =>
      validateCidrs parseCidr .invalidSecurityDefaults (dot (lit "security.anonymous_source_filter") field)
        "anonymous source CIDR must be a valid IPv4 or IPv6 CIDR: " cidrs)

def validateSecurity (security : WorkspaceSecurityConfig) : List ValidationError :=
  let verification := security.artifactVerification
  flag (security.insecureDevMode.enabled && !security.insecureDevMode.acknowledged)
    (schema .invalidSecurityDefaults (lit "security.insecure_dev_mode.acknowledgement")
      (lit "insecure_dev_mode requires a non-empty acknowledgement")) ++
  flag (verification.mode = .disabled ∧ !security.insecureDevMode.enabled)
    (semantic .insecureModeGated (lit "security.artifact_verification.mode")
      (lit "artifact verification may only be disabled when insecure_dev_mode.enabled=true")) ++
  flag (verification.mode = .enforced ∧ verification.trustedSigners.any (fun signer =>
      (trim signer.identity).isEmpty || (trim signer.publicKeyEd25519).isEmpty))
    (schema .invalidSecurityDefaults (lit "security.artifact_verification.trusted_signers") (lit
      "artifact verification trusted_signers must not contain empty identities or public keys")) ++
  validateTrustedSigners verification.trustedSigners ++
  validateAnonymousSourceFilter parseCidr security.anonymousSourceFilter ++
  validateCidrs parseCidr .invalidSecurityDefaults (lit "security.trusted_client_ip.trusted_proxy_cidrs")
    "trusted proxy CIDR must be a valid IPv4 or IPv6 CIDR: " security.trustedClientIp.trustedProxyCidrs

/-! ## The names of the resources -/

/-- The loop of `collect_named_resources`, whose body is that of `register_policy_name`: the errors, and the names. -/
def collectNamedResources (group resourceKind : String) (names : List Text) : List ValidationError × List Text :=
  scan [] names (fun known index name => registerPolicyName name (dot (nth (lit group) index) "name") resourceKind known)

/-! ## Listeners -/

def IpAddr.isLoopback : IpAddr → Bool
  | .v4 a _ _ _  => a == 127
  | .v6 segments => segments.toList == [0, 0, 0, 0, 0, 0, 0, 1]

def SocketAddr.isIpv6 (address : SocketAddr) : Bool := match address.ip with
  | .v4 .. => false
  | .v6 _  => true

def listenerField (path message : Text) : ValidationError := schema .invalidListenerField path message

def listenerProtocolName : ListenerProtocolConfig → Text
  | .tcp   => lit "tcp"
  | .http1 => lit "http1"
  | .https => lit "https"
  | .http2 => lit "http2"
  | .http3 => lit "http3"
  | .auto  => lit "auto"

def ListenerAlpnProtocolConfig.name : ListenerAlpnProtocolConfig → Text
  | .http2  => lit "http2"
  | .http11 => lit "http11"
  | .http3  => lit "http3"

def AdminAuthorizationScopeConfig.name : AdminAuthorizationScopeConfig → Text
  | .read  => lit "read"
  | .audit => lit "audit"
  | .write => lit "write"

def upgradeProtocolName : UpgradeProtocolConfig → Text
  | .websocket => lit "websocket"

def validateUpgradePolicy (policy : UpgradePolicyConfig) (path : Text) (code : ValidationCode) (subject : String) :
    List ValidationError :=
  (scan [] policy.protocols (fun seen index protocol =>
    (flag (protocol ∈ seen) (schema code (nth (dot path "protocols") index)
      (lit subject ++ lit " must not repeat upgrade protocol " ++ upgradeProtocolName protocol)), protocol :: seen))).1

def validateAdminPermissions (permissions : List AdminAuthorizationScopeConfig) (path : Text) : List ValidationError :=
  if permissions.isEmpty then [listenerField path (lit "admin permissions must declare at least one scope")]
  else (scan [] permissions (fun seen _ permission =>
    (flag (permission ∈ seen) (listenerField path (lit "admin permissions must not repeat scope " ++ permission.name)),
      permission :: seen))).1

def validateAdminAuth (auth : AdminAuthPolicyConfig) (authPath : Text) : List ValidationError :=
  match auth with
  | .bearer secretEnv permissions =>
    flag (trim secretEnv).isEmpty (listenerField (dot authPath "secret_env")
      (lit "admin bearer auth must declare a non-empty secret_env")) ++
    validateAdminPermissions permissions (dot authPath "permissions")
  | .signedHeaders operators maxClockSkewSecs nonceTtlSecs =>
    flag operators.isEmpty (listenerField (dot authPath "operators")
      (lit "signed admin auth must declare at least one operator")) ++
    flag (maxClockSkewSecs = 0 ∨ nonceTtlSecs = 0) (listenerField authPath
      (lit "signed admin auth must use non-zero max_clock_skew_secs and nonce_ttl_secs")) ++
    (scan [] operators (fun seenOperatorIds index operator =>
      let operatorPath := nth (dot authPath "operators") index
      let rest := flag (trim operator.secretEnv).isEmpty (listenerField (dot operatorPath "secret_env")
          (lit "admin operator secret_env must not be empty")) ++
        validateAdminPermissions operator.permissions (dot operatorPath "permissions")
      if (trim operator.id).isEmpty then
        (listenerField (dot operatorPath "id") (lit "admin operator id must not be empty") :: rest, seenOperatorIds)
      else
        (flag (trim operator.id ∈ seenOperatorIds) (schema .duplicateResourceName (dot operatorPath "id")
          (lit "admin operator " ++ operator.id ++ lit " is declared more than once")) ++ rest,
          trim operator.id :: seenOperatorIds))).1

variable (listener : ListenerResourceConfig) (basePath : Text)

def validateAdminListenerPolicy (insecureDevModeEnabled : Bool) : List ValidationError :=
  if listener.listenerClass ≠ .admin then
    flag (!listener.admin.isDefault) (semantic .invalidListenerField (dot basePath "admin")
      (lit "admin policy is supported only on admin listeners"))
  else
    flag (listener.protocol = .http1 ∧ !listener.bindAddress.ip.isLoopback ∧ !insecureDevModeEnabled)
      (semantic .invalidListenerField (dot basePath "protocol")
        (lit "admin listeners exposed beyond loopback must use https")) ++
    validateCidrs parseCidr .invalidListenerField (dot basePath "admin.allowed_source_cidrs")
      "admin allowed source CIDR must be a valid IPv4 or IPv6 CIDR: " listener.admin.allowedSourceCidrs ++
    flag (listener.admin.rateLimit.requestsPerMinute = 0 ∨ listener.admin.rateLimit.burst = 0)
      (listenerField (dot basePath "admin.rate_limit")
        (lit "admin rate limits must use non-zero requests_per_minute and burst values")) ++
    flag (listener.admin.audit.maxRetainedEvents = 0) (listenerField (dot basePath "admin.audit.max_retained_events")
      (lit "admin audit retention must keep at least one event")) ++
    validateAdminAuth listener.admin.auth (dot basePath "admin.auth")

def validateBindMode : List ValidationError :=
  match listener.bindMode with
  | .singleStack => []
  | .dualStack =>
    if !listener.bindAddress.isIpv6 then
      [listenerField (dot basePath "bind_mode") (lit "dual_stack listeners must use an IPv6 bind_address")]
    else flag (!listener.bindAddress.ip.isUnspecified) (listenerField (dot basePath "bind_address")
      (lit "dual_stack listeners currently require the IPv6 wildcard bind address [::]:port"))
  | .ipv6Only =>
    flag (!listener.bindAddress.isIpv6) (listenerField (dot basePath "bind_mode")
      (lit "ipv6_only listeners must use an IPv6 bind_address"))

def ListenerCertificateSourceConfig.hasBlankPath (source : ListenerCertificateSourceConfig) : Bool :=
  (trim source.certPath).isEmpty || (trim source.keyPath).isEmpty

def ListenerCertificateSourceConfig.hasBlankOcspPath (source : ListenerCertificateSourceConfig) : Bool :=
  source.ocspPath.any (fun path => (trim path).isEmpty)

def validateSniCertificate (listenerName protocolName certificatePath : Text) (seenSniNames : List Text)
    (certificate : ListenerTlsSniCertificateConfig) : List ValidationError × List Text :=
  let names := scan seenSniNames certificate.serverNames (fun seenSniNames nameIndex serverName =>
    let namePath := nth (dot certificatePath "server_names") nameIndex
    match canonicalizeHost serverName with
    | .ok normalized =>
      (flag (normalized ∈ seenSniNames) (listenerField namePath
        (protocolName ++ lit " listeners must not repeat SNI server name " ++ normalized)), normalized :: seenSniNames)
    | .error _ =>
      ([listenerField namePath (lit "https listener " ++ listenerName ++ lit " declares invalid SNI server name " ++
        serverName)], seenSniNames))
  (flag certificate.serverNames.isEmpty (listenerField (dot certificatePath "server_names")
      (lit "https SNI certificate mappings must declare at least one server name")) ++
    flag certificate.certificateSource.hasBlankPath (listenerField (dot certificatePath "certificate_source")
      (lit "https SNI certificate mappings must use non-empty cert_path and key_path values")) ++
    flag certificate.certificateSource.hasBlankOcspPath (listenerField (dot certificatePath "certificate_source.ocsp_path")
      (lit "https SNI certificate mappings must use a non-empty ocsp_path when OCSP stapling is configured")) ++
    names.1, names.2)

def validateTlsTermination (tls : ListenerTlsTerminationConfig) : List ValidationError :=
  let protocolName := listenerProtocolName listener.protocol
  let tlsPath := dot basePath "tls_termination"
  flag tls.certificateSource.hasBlankPath (listenerField (dot tlsPath "certificate_source")
    (protocolName ++ lit " listeners must use non-empty cert_path and key_path values")) ++
  flag tls.certificateSource.hasBlankOcspPath (listenerField (dot tlsPath "certificate_source.ocsp_path")
    (protocolName ++ lit " listeners must use a non-empty ocsp_path when OCSP stapling is configured")) ++
  (scan [] tls.sniCertificates (fun seenSniNames sniIndex certificate => validateSniCertificate listener.name protocolName
    (nth (dot tlsPath "sni_certificates") sniIndex) seenSniNames certificate)).1 ++
  flag ((tls.sessionResumption.mode = .stateful ∨ tls.sessionResumption.mode = .hybrid) ∧
      tls.sessionResumption.sessionCacheSize = 0)
    (listenerField (dot tlsPath "session_resumption.session_cache_size") (protocolName ++
      lit " listeners using stateful session resumption must use a non-zero session_cache_size")) ++
  flag ((tls.sessionResumption.mode = .tickets ∨ tls.sessionResumption.mode = .hybrid) ∧
      tls.sessionResumption.tls13TicketCount = 0)
    (listenerField (dot tlsPath "session_resumption.tls13_ticket_count")
      (protocolName ++ lit " listeners issuing TLS tickets must use a non-zero tls13_ticket_count")) ++
  flag tls.alpnProtocols.isEmpty (listenerField (dot tlsPath "alpn_protocols")
    (protocolName ++ lit " listeners must advertise at least one ALPN protocol")) ++
  flag (listener.protocol = .http3 ∧ !tls.alpnProtocols.all (· = .http3)) (listenerField (dot tlsPath "alpn_protocols")
    (lit "http3 listeners must advertise only the http3 ALPN protocol")) ++
  (scan [] tls.alpnProtocols (fun seenAlpn alpnIndex alpnProtocol =>
    (flag (alpnProtocol ∈ seenAlpn) (listenerField (nth (dot tlsPath "alpn_protocols") alpnIndex)
      (protocolName ++ lit " listeners must not repeat ALPN protocol " ++ alpnProtocol.name)), alpnProtocol :: seenAlpn))).1

def validateListenerTls : List ValidationError :=
  if listener.protocol = .https ∨ listener.protocol = .http3 then
    match listener.tlsTermination with
    | none => [listenerField (dot basePath "tls_termination") (listenerProtocolName listener.protocol ++
      lit " listeners must declare tls_termination certificate material")]
    | some tls => validateTlsTermination listener basePath tls
  else flag listener.tlsTermination.isSome (semantic .invalidListenerField (dot basePath "tls_termination")
    (lit "tls_termination is currently supported only for https and http3 listeners"))

def ListenerResourceConfig.allowsUpgrade : Bool :=
  listener.listenerClass = .publicSurface ∧ (listener.protocol = .http1 ∨ listener.protocol = .https)

def validateProtocolSupport : List ValidationError :=
  flag (listener.protocol = .tcp ∧ !listener.routes.isEmpty) (semantic .unsupportedListenerRouting (dot basePath "routes")
    (lit "tcp listeners cannot attach HTTP route references")) ++
  flag (listener.proxyProtocol ≠ .disabled ∧ listener.listenerClass ≠ .publicSurface)
    (semantic .invalidListenerField (dot basePath "proxy_protocol")
      (lit "proxy protocol is supported only on public listeners")) ++
  flag (listener.proxyProtocol ≠ .disabled ∧ listener.protocol = .http3)
    (semantic .invalidListenerField (dot basePath "proxy_protocol")
      (lit "proxy protocol is not supported on http3 listeners")) ++
  flag (listener.protocol = .http3 ∧ listener.listenerClass ≠ .publicSurface)
    (semantic .invalidListenerField (dot basePath "protocol")
      (lit "http3 listeners are currently supported only on public listeners")) ++
  validateUpgradePolicy listener.upgrade (dot basePath "upgrade") .invalidListenerField "listener upgrade policy" ++
  flag (!listener.upgrade.isDefault && !listener.allowsUpgrade) (semantic .invalidListenerField (dot basePath "upgrade")
    (lit "upgrade policy is supported only on public http1 or https listeners"))

/-- The routes a listener names, against the names of the routes and the routes by their name as written. -/
def validateRouteReferences (routeNames : List Text) (routeRegistry : SortedMap Text RouteConfig) : List ValidationError :=
  (scan [] listener.routes (fun seenRoutes routeIndex routeName =>
    let routePath := nth (dot basePath "routes") routeIndex
    let normalized := trim routeName
    if normalized.isEmpty then
      ([schema .invalidRouteReference routePath (lit "route reference must not be empty")], seenRoutes)
    else
      (flag (normalized ∈ seenRoutes) (semantic .duplicateResourceName routePath
          (lit "listener " ++ listener.name ++ lit " references route " ++ normalized ++ lit " more than once")) ++
        (if normalized ∉ routeNames then
          [semantic .invalidRouteReference routePath
            (lit "listener " ++ listener.name ++ lit " references unknown route " ++ normalized)]
        else (routeRegistry.get? normalized).elim [] (fun route =>
          flag (!route.upgrade.isDefault && !listener.allowsUpgrade) (semantic .invalidListenerField routePath
            (lit "listener " ++ listener.name ++ lit " cannot attach route " ++ route.name ++
              lit " with upgrade policy unless the listener is public http1 or https")))),
        normalized :: seenRoutes))).1

def validateListenerOverrides : List ValidationError :=
  flag (listener.maxConnections = some 0 ∨ listener.backlog = some 0 ∨ listener.idleTimeoutMs = some 0 ∨
      listener.drainTimeoutMs = some 0)
    (listenerField basePath (lit
      "listener overrides must use non-zero max_connections, backlog, idle_timeout_ms, and drain_timeout_ms"))

def validateListener (index : ℕ) (insecureDevModeEnabled : Bool) (routeNames : List Text)
    (routeRegistry : SortedMap Text RouteConfig) (policyRegistry : PolicyRegistry) : List ValidationError :=
  let basePath := nth (lit "listeners") index
  flag (trim listener.name).isEmpty (schema .emptyResourceName (dot basePath "name")
    (lit "listener name must not be empty")) ++
  validateListenerOverrides listener basePath ++
  validateBindMode listener basePath ++
  validateProtocolSupport listener basePath ++
  validateListenerTls listener basePath ++
  validateAdminListenerPolicy parseCidr listener basePath insecureDevModeEnabled ++
  validateRouteReferences listener basePath routeNames routeRegistry ++
  validatePolicyBinding listener.policies (dot basePath "policies") (.listener listener.name) policyRegistry

/-! ## Routes -/

def RouteHeaderMatchConfig.isInvalid : RouteHeaderMatchConfig → Bool
  | .exact name value           => (normalizeHttpHeaderName name).isNone || (trim value).isEmpty
  | .present name | .absent name => (normalizeHttpHeaderName name).isNone

def RouteQueryMatchConfig.isInvalid : RouteQueryMatchConfig → Bool
  | .exact name value           => !(canonicalizeQueryMatchName name).isOk || !(canonicalizeQueryMatchValue value).isOk
  | .present name | .absent name => !(canonicalizeQueryMatchName name).isOk

def validateRouteMatch (routeName : Text) (rule : RouteMatchConfig) (matchPath : Text) : List ValidationError :=
  let subject := lit "route " ++ routeName
  let invalid (path message : Text) := schema .invalidRouteMatch path (subject ++ message)
  let invalidEntries (entries : List Text) (isInvalid : Text → Bool) (field complaint : String) :=
    each entries (fun index entry => flag (isInvalid entry) (invalid (nth (dot matchPath field) index)
      (lit complaint ++ entry)))
  flag (trim rule.pathPrefix).isEmpty (invalid (dot matchPath "prefix") (lit " must declare a non-empty path prefix")) ++
  invalidEntries rule.hostnames (fun hostname => !(canonicalizeHost hostname).isOk) "hostnames"
    " declares invalid hostname filter " ++
  invalidEntries rule.methods (fun method => (normalizeHttpMethod method).isNone) "methods"
    " declares invalid method filter " ++
  each rule.headers (fun headerIndex headerMatch => flag headerMatch.isInvalid
    (invalid (nth (dot matchPath "headers") headerIndex) (lit " declares invalid header matcher"))) ++
  each rule.queryParams (fun queryIndex queryMatch => flag queryMatch.isInvalid
    (invalid (nth (dot matchPath "query_params") queryIndex) (lit " declares invalid query matcher"))) ++
  invalidEntries rule.contentTypes (fun contentType => (normalizeContentTypeMatch contentType).isNone) "content_types"
    " declares invalid content-type filter " ++
  invalidEntries rule.grpcServices (fun service => (normalizeGrpcServiceMatch service).isNone) "grpc_services"
    " declares invalid gRPC service matcher " ++
  invalidEntries rule.grpcMethods (fun method => (normalizeGrpcMethodMatch method).isNone) "grpc_methods"
    " declares invalid gRPC method matcher " ++
  (if rule.grpcServices.isEmpty && rule.grpcMethods.isEmpty then []
  else
    flag (!rule.contentTypes.any isGrpcContentType) (invalid (dot matchPath "content_types") (lit
      " must declare application/grpc content_types when gRPC service or method filters are present")) ++
    flag (rule.methods.any (fun method => !eqIgnoreCase method (lit "POST"))) (invalid (dot matchPath "methods")
      (lit " must use only POST when gRPC service or method filters are present"))) ++
  invalidEntries rule.sourceCidrs (fun sourceCidr => (parseCidr sourceCidr).isNone) "source_cidrs"
    " declares invalid source CIDR "

/-- One turn of the loop over the destinations of a route, with the clusters seen so far.  The destination a route is given
with its `upstream_cluster` field is reported under that field, and its policies, which are the defaults, are not checked. -/
def validateDestination (route : RouteConfig) (basePath : Text) (upstreamNames : List Text) (policyRegistry : PolicyRegistry)
    (seenDestinations : List Text) (destinationIndex : ℕ) (destination : RouteDestinationConfig) :
    List ValidationError × List Text :=
  let isShorthand := route.destinations.isEmpty
  let destinationPath := if isShorthand then dot basePath "upstream_cluster"
    else nth (dot basePath "destinations") destinationIndex
  let fieldPath (field : String) := if isShorthand then destinationPath else dot destinationPath field
  let upstreamName := trim destination.upstreamCluster
  if upstreamName.isEmpty then
    ([schema .invalidUpstreamReference (fieldPath "upstream_cluster")
      (lit "route " ++ route.name ++ lit " must reference a non-empty upstream cluster name")], seenDestinations)
  else
    (flag (destination.weight = 0) (schema .invalidUpstreamReference (fieldPath "weight")
        (lit "route " ++ route.name ++ lit " destination " ++ upstreamName ++ lit " must use a non-zero weight")) ++
      (if upstreamName ∈ seenDestinations then
        [semantic .invalidUpstreamReference (fieldPath "upstream_cluster")
          (lit "route " ++ route.name ++ lit " declares duplicate upstream destination " ++ upstreamName)]
      else flag (upstreamName ∉ upstreamNames) (semantic .invalidUpstreamReference (fieldPath "upstream_cluster")
        (lit "route " ++ route.name ++ lit " references unknown upstream cluster " ++ upstreamName))) ++
      (if isShorthand then []
      else validatePolicyBinding destination.policies (dot destinationPath "policies")
        (.routeDestination route.name upstreamName) policyRegistry),
      upstreamName :: seenDestinations)

def validateRoute (route : RouteConfig) (index : ℕ) (upstreamNames : List Text) (policyRegistry : PolicyRegistry) :
    List ValidationError :=
  let basePath := nth (lit "routes") index
  flag (trim route.name).isEmpty (schema .emptyResourceName (dot basePath "name") (lit "route name must not be empty")) ++
  validateUpgradePolicy route.upgrade (dot basePath "upgrade") .invalidRouteMatch "route upgrade policy" ++
  validateRouteMatch parseCidr route.name route.matchRule (dot basePath "match") ++
  flag (route.upstreamCluster.isSome && !route.destinations.isEmpty) (schema .invalidUpstreamReference
    (dot basePath "destinations")
    (lit "route " ++ route.name ++ lit " must declare either upstream_cluster or destinations, not both")) ++
  flag route.normalizedDestinations.isEmpty (schema .invalidUpstreamReference (dot basePath "destinations")
    (lit "route " ++ route.name ++ lit " must declare at least one upstream destination")) ++
  (scan [] route.normalizedDestinations (validateDestination route basePath upstreamNames policyRegistry)).1 ++
  validatePolicyBinding route.policies (dot basePath "policies") (.route route.name) policyRegistry

/-! ## Upstream clusters -/

def upstreamField (path message : Text) : ValidationError := schema .invalidUpstreamField path message

variable (cluster : UpstreamClusterConfig)

def validateEndpoints (basePath : Text) : List ValidationError :=
  (scan [] cluster.endpoints (fun seenEndpointIds endpointIndex endpoint =>
    let endpointPath := nth (dot basePath "endpoints") endpointIndex
    let endpointId := trim endpoint.id
    let subject := lit "endpoint " ++ endpointId ++ lit " in cluster " ++ cluster.name
    let rest :=
      flag (endpoint.weight = 0) (upstreamField (dot endpointPath "weight")
        (subject ++ lit " must use a weight greater than zero")) ++
      flag (endpoint.zone.any (fun zone => (trim zone).isEmpty)) (upstreamField (dot endpointPath "zone")
        (subject ++ lit " must not use an empty zone")) ++
      flag (endpoint.locality.any (fun locality => (trim locality).isEmpty)) (upstreamField (dot endpointPath "locality")
        (subject ++ lit " must not use an empty locality"))
    if endpointId.isEmpty then
      (upstreamField (dot endpointPath "id")
        (lit "upstream cluster " ++ cluster.name ++ lit " contains an endpoint with an empty id") :: rest, seenEndpointIds)
    else
      (flag (endpointId ∈ seenEndpointIds) (schema .duplicateResourceName (dot endpointPath "id")
        (lit "upstream cluster " ++ cluster.name ++ lit " contains duplicate endpoint id " ++ endpointId)) ++ rest,
        endpointId :: seenEndpointIds))).1

def validateDiscoverySource (clusterName basePath : Text) (discovery : DiscoverySourceConfig) : List ValidationError :=
  let complain (isWrong : Bool) (field message : String) := flag isWrong (upstreamField
    (dot (dot basePath "discovery") field) (lit "upstream cluster " ++ clusterName ++ lit message))
  match discovery with
  | .dnsAaaa hostname port _ =>
    complain (trim hostname).isEmpty "hostname" " must use a non-empty DNS hostname" ++
    complain (port = 0) "port" " must use a non-zero DNS port"
  | .dnsSrv service _ => complain (trim service).isEmpty "service" " must use a non-empty DNS SRV service"
  | .kubernetesEndpointSlice k8sNamespace service =>
    complain (trim k8sNamespace).isEmpty "namespace" " must use a non-empty Kubernetes namespace" ++
    complain (trim service).isEmpty "service" " must use a non-empty Kubernetes service"
  | .consulLike service datacenter =>
    complain (trim service).isEmpty "service" " must use a non-empty Consul service" ++
    complain (datacenter.any (fun value => (trim value).isEmpty)) "datacenter" " must not use an empty Consul datacenter"

/-- Its bytes are those of an HTTP token. -/
def isValidAffinityToken (value : Text) : Bool :=
  !value.isEmpty && value == trim value && value.all isHttpTokenChar

def validateAffinity (clusterName basePath : Text) : Option AffinityPolicyConfig → List ValidationError
  | none => []
  | some (.headerHash headerName _) =>
    flag (!isValidAffinityToken headerName) (upstreamField (dot basePath "traffic_policy.affinity.header_name")
      (lit "upstream cluster " ++ clusterName ++ lit " must use a non-empty HTTP token for affinity header_name"))
  | some (.cookieHash cookieName _) =>
    flag (!isValidAffinityToken cookieName) (upstreamField (dot basePath "traffic_policy.affinity.cookie_name")
      (lit "upstream cluster " ++ clusterName ++ lit " must use a non-empty cookie token for affinity cookie_name"))

/-- An endpoint is declared or discovered, and not both. -/
def validateEndpointSource (basePath : Text) : List ValidationError :=
  flag (cluster.endpoints.isEmpty && cluster.discovery.isNone) (upstreamField (dot basePath "endpoints")
    (lit "upstream cluster " ++ cluster.name ++ lit " must declare static endpoints or a discovery source")) ++
  flag (!cluster.endpoints.isEmpty && cluster.discovery.isSome) (upstreamField (dot basePath "discovery")
    (lit "upstream cluster " ++ cluster.name ++ lit " must not mix static endpoints with discovery")) ++
  cluster.discovery.elim [] (validateDiscoverySource cluster.name basePath)

def validateUpstreamCluster (index : ℕ) (policyRegistry : PolicyRegistry) : List ValidationError :=
  let basePath := nth (lit "upstream_clusters") index
  flag (trim cluster.name).isEmpty (schema .emptyResourceName (dot basePath "name")
    (lit "upstream cluster name must not be empty")) ++
  validateEndpoints cluster basePath ++
  validateEndpointSource cluster basePath ++
  validateAffinity cluster.name basePath cluster.trafficPolicy.affinity ++
  validatePolicyBinding cluster.policies (dot basePath "policies") (.upstreamCluster cluster.name) policyRegistry

/-! ## Workspaces -/

/-- The routes by their name as written; a later one takes an earlier one's place. -/
def routesByName (routes : List RouteConfig) : SortedMap Text RouteConfig :=
  .ofList (routes.map (fun route => (route.name, route)))

def validateWorkspaceConfig (config : WorkspaceConfig) : ValidationReport :=
  let listenerNames := collectNamedResources "listeners" "listener" (config.listeners.map (·.name))
  let routeNames := collectNamedResources "routes" "route" (config.routes.map (·.name))
  let upstreamNames := collectNamedResources "upstream_clusters" "upstream cluster" (config.upstreamClusters.map (·.name))
  let policyRegistry := PolicyRegistry.new config.policies upstreamNames.2
  ⟨validateWorkspaceBasics config ++ validateDefaults config.defaults ++ validateSecurity parseCidr config.security ++
    listenerNames.1 ++ routeNames.1 ++ upstreamNames.1 ++ policyRegistry.2 ++
    each config.listeners (fun index listener => validateListener parseCidr listener index
      config.security.insecureDevMode.enabled routeNames.2 (routesByName config.routes) policyRegistry.1) ++
    each config.routes (fun index route => validateRoute parseCidr route index upstreamNames.2 policyRegistry.1) ++
    each config.upstreamClusters (fun index cluster => validateUpstreamCluster cluster index policyRegistry.1)⟩

def WorkspaceConfig.validate (config : WorkspaceConfig) : Except ValidationReport Unit :=
  let report := validateWorkspaceConfig parseCidr config
  if report.isEmpty then .ok () else .error report

end

end WayBalancer
