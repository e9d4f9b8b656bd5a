import WayBalancer.ConfigResources
import WayBalancer.Findings
import WayBalancer.HttpRoute
/-!
# ConfigPolicyValidator — the checks of declared policies and of references to them

`crates/config-model/src/validator/`: the report's errors, the checks of each kind of named policy (`named_*.rs`,
`header_validation.rs`), the registry of their names (`policy_registry.rs`), and the checks of a binding against it
(`policy_bindings.rs`, `scope_validation.rs`).  A function that pushes onto the report returns what it pushes, in order.
-/
namespace WayBalancer

open Str Findings

/-! ## Errors -/

inductive ValidationCategory
  | schema
  | semantic
deriving DecidableEq, Repr

inductive ValidationCode
  | emptyWorkspaceName
  | invalidListenerDefaults
  | invalidHttp1Defaults
  | invalidHttp2Defaults
  | invalidSecurityDefaults
  | insecureModeGated
  | emptyResourceName
  | duplicateResourceName
  | invalidListenerField
  | invalidRouteMatch
  | invalidUpstreamField
  | invalidPolicyField
  | invalidPolicyReference
  | duplicatePolicyReference
  | invalidPolicyScope
  | invalidRouteReference
  | invalidUpstreamReference
  | unsupportedListenerRouting
deriving DecidableEq, Repr

structure ValidationError where
  category : ValidationCategory
  code : ValidationCode
  path : Text
  message : Text
deriving DecidableEq, Repr

def ValidationError.schema (code : ValidationCode) (path message : Text) : ValidationError := ⟨.schema, code, path, message⟩

def ValidationError.semantic (code : ValidationCode) (path message : Text) : ValidationError := ⟨.semantic, code, path, message⟩

variable (path : Text)

def dot (name : String) : Text := path ++ '.' :: name.toList

def nth (index : ℕ) : Text := path ++ '[' :: Nat.toDigits 10 index ++ [']']

open ValidationError

/-! ## Names -/

/-- The validator's own `normalize_component`. -/
def Validator.normalizeComponent (value : Text) : Text := lower (trim value)

def registerPolicyName (name path : Text) (resourceKind : String) (known : List Text) : List ValidationError × List Text :=
  let normalized := trim name
  if normalized.isEmpty then
    ([schema .emptyResourceName path (lit resourceKind ++ lit " name must not be empty")], known)
  else
    (flag (normalized ∈ known) (schema .duplicateResourceName path
      (lit "duplicate " ++ lit resourceKind ++ lit " name " ++ normalized)), normalized :: known)

/-- The loop over the named policies of one kind: the name is registered, then the policy is checked. -/
def validateNamed {Spec : Type} (group resourceKind : String)
    (validateSpec : Text → NamedPolicyConfig Spec → List ValidationError) (policies : List (NamedPolicyConfig Spec)) :
    List ValidationError × List Text :=
  scan [] policies (fun known index policy =>
    let basePath := nth (dot (lit "policies") group) index
    let registered := registerPolicyName policy.name (dot basePath "name") resourceKind known
    (registered.1 ++ validateSpec basePath policy, registered.2))

def policyField (message : Text) : ValidationError := schema .invalidPolicyField path message

/-! ## Limits -/

def validateLocalLimitScope : LocalLimitScopeConfig → List ValidationError
  | .listener name | .route name | .upstreamCluster name =>
    flag (trim name).isEmpty (policyField path (lit "local limit scope name must not be empty"))
  | .routeDestination route upstreamCluster =>
    flag (trim route).isEmpty (policyField (dot path "route")
      (lit "local limit route-destination scope route must not be empty")) ++
    flag (trim upstreamCluster).isEmpty (policyField (dot path "upstream_cluster")
      (lit "local limit route-destination scope upstream_cluster must not be empty"))

variable (basePath : Text)

def validateRateLimitPolicy (policy : NamedLocalRateLimitPolicyConfig) : List ValidationError :=
  let spec := policy.spec
  validateLocalLimitScope (dot basePath "spec.scope") spec.scope ++
  flag (spec.requestsPerWindow = 0 ∨ spec.windowMs = 0 ∨ spec.maxTrackedKeys = 0) (policyField (dot basePath "spec")
    (lit "local rate-limit policy must use non-zero requests_per_window, window_ms, and max_tracked_keys"))

def validateConcurrencyLimitPolicy (policy : NamedLocalConcurrencyLimitPolicyConfig) : List ValidationError :=
  let spec := policy.spec
  validateLocalLimitScope (dot basePath "spec.scope") spec.scope ++
  flag (spec.maxConcurrent = 0 ∨ spec.maxTrackedKeys = 0) (policyField (dot basePath "spec")
    (lit "local concurrency-limit policy must use non-zero max_concurrent and max_tracked_keys"))

/-! ## Resilience and overload -/

def validateRetryBudget (policy : NamedRetryBudgetPolicyConfig) : List ValidationError :=
  flag (policy.spec.windowMs = 0) (policyField (dot basePath "spec.window_ms")
    (lit "retry budget policy " ++ policy.name ++ lit " must use a window greater than zero"))

def validateTimeoutHierarchy (policy : NamedTimeoutHierarchyPolicyConfig) : List ValidationError :=
  let spec := policy.spec
  let perTryTimeoutMs := spec.perTryTimeoutMs.getD spec.attemptTimeoutMs
  let hasZero := spec.requestTimeoutMs = 0 ∨ spec.attemptTimeoutMs = 0 ∨ perTryTimeoutMs = 0 ∨ spec.connectTimeoutMs = 0 ∨
    spec.idleTimeoutMs = 0
  let invalidOrder := perTryTimeoutMs > spec.requestTimeoutMs ∨ spec.connectTimeoutMs > perTryTimeoutMs ∨
    spec.idleTimeoutMs > perTryTimeoutMs
  flag (hasZero ∨ invalidOrder) (policyField (dot basePath "spec") (lit "timeout hierarchy policy " ++ policy.name ++
    lit " must use non-zero values with connect/idle <= per_try <= request"))

def validateCircuitBreaker (policy : NamedCircuitBreakerPolicyConfig) : List ValidationError :=
  let spec := policy.spec
  flag (spec.openFailureThreshold = 0 ∨ spec.openDurationMs = 0 ∨ spec.halfOpenSuccessThreshold = 0)
    (policyField (dot basePath "spec") (lit "circuit breaker policy " ++ policy.name ++
      lit " must use non-zero thresholds and duration"))

def validateOverloadPolicy (named : NamedOverloadResponsePolicyConfig) : List ValidationError :=
  let policy := named.spec
  let hasZero := policy.signalWindowMs = 0 ∨ policy.constrainedSignalThreshold = 0 ∨ policy.sheddingSignalThreshold = 0 ∨
    policy.brownoutSignalThreshold = 0
  let invalidOrder := policy.constrainedSignalThreshold > policy.sheddingSignalThreshold ∨
    policy.sheddingSignalThreshold > policy.brownoutSignalThreshold
  flag (hasZero ∨ invalidOrder) (policyField (dot basePath "spec") (lit "overload response policy " ++ named.name ++
    lit " must use non-zero thresholds with constrained <= shedding <= brownout")) ++
  (scan [] policy.brownoutFeatures (fun seenFeatures featureIndex feature =>
    let namePath := dot (nth (dot basePath "spec.brownout_features") featureIndex) "name"
    let name := trim feature.name
    if name.isEmpty then
      ([policyField namePath (lit "overload response policy " ++ named.name ++
        lit " contains an empty brownout feature name")], seenFeatures)
    else
      (flag (Validator.normalizeComponent name ∈ seenFeatures) (schema .duplicateResourceName namePath
        (lit "overload response policy " ++ named.name ++ lit " contains duplicate brownout feature " ++ name)),
        Validator.normalizeComponent name :: seenFeatures))).1

def validateHostileEdgePolicy (policy : NamedHostileEdgeProtectionPolicyConfig) : List ValidationError :=
  let spec := policy.spec
  flag (spec.sourceQuota.isNone ∧ spec.handshakeGuard.isNone) (policyField (dot basePath "spec")
    (lit "hostile-edge protection policy must enable at least one guard")) ++
  flag (spec.sourceQuota.any (fun quota => quota.maxActivePerSource = 0 ∨ quota.maxTrackedSources = 0))
    (policyField (dot basePath "spec.source_quota")
      (lit "hostile-edge source quota must use non-zero max_active_per_source and max_tracked_sources")) ++
  flag (spec.handshakeGuard.any (fun guard => guard.maxInflight = 0 ∨ guard.timeoutMs = 0))
    (policyField (dot basePath "spec.handshake_guard")
      (lit "hostile-edge handshake guard must use non-zero max_inflight and timeout_ms"))

/-! ## Caches -/

variable (header : Text)

def isDisallowedHttpCacheKeyHeader : Bool :=
  ["authorization", "cookie", "set-cookie", "connection", "keep-alive", "proxy-authenticate", "proxy-authorization",
    "proxy-connection", "te", "trailer", "transfer-encoding", "upgrade", "forwarded", "x-forwarded-for",
    "x-forwarded-proto"].any (fun name => header == lit name)

def validateNamedHeaderList (headers : List Text) (path : Text) : List ValidationError :=
  (scan [] headers (fun seen index header =>
    let normalized := lower (trim header)
    if normalized.isEmpty then ([policyField (nth path index) (lit "header names must not be empty")], seen)
    else
      (flag (normalized ∈ seen) (schema .duplicateResourceName (nth path index)
          (lit "header " ++ normalized ++ lit " is repeated")) ++
        flag (isDisallowedHttpCacheKeyHeader normalized) (policyField (nth path index)
          (lit "header " ++ normalized ++ lit " is not allowed in cache key or vary configuration")),
        normalized :: seen))).1

def validateCacheKeyPolicy (policy : CacheKeyPolicyConfig) (path : Text) : List ValidationError :=
  validateNamedHeaderList policy.headers (dot path "headers") ++
  flag (!policy.includeHost && !policy.includeMethod && policy.headers.isEmpty)
    (policyField path (lit "cache key policy must include at least one differentiating component"))

def validateHttpCachePolicy (named : NamedHttpCachePolicyConfig) : List ValidationError :=
  let policy := named.spec
  flag policy.methods.isEmpty (policyField (dot basePath "spec.methods")
    (lit "http cache policy must declare at least one cacheable method")) ++
  (scan [] policy.methods (fun seenMethods index method =>
    (flag (method ∈ seenMethods) (schema .duplicateResourceName (nth (dot basePath "spec.methods") index)
      (lit "http cache policy methods must not repeat entries")), method :: seenMethods))).1 ++
  flag (policy.defaultTtlSecs = 0 ∨ policy.maxTtlSecs = 0 ∨ policy.maxObjectBytes = 0 ∨
      policy.defaultTtlSecs > policy.maxTtlSecs)
    (policyField (dot basePath "spec")
      (lit "http cache policy must use non-zero TTLs and max_object_bytes with default_ttl_secs <= max_ttl_secs")) ++
  flag (policy.cacheableStatusCodes.isEmpty ||
      policy.cacheableStatusCodes.any (fun status => !(100 ≤ status && status ≤ 599)))
    (policyField (dot basePath "spec.cacheable_status_codes") (lit
      "http cache policy must use non-empty cacheable_status_codes within the HTTP status code range")) ++
  validateNamedHeaderList policy.varyHeaders (dot basePath "spec.vary_headers") ++
  validateCacheKeyPolicy policy.cacheKey (dot basePath "spec.cache_key") ++
  match policy.storage with
  | .memory maxEntries maxBytes =>
    flag (maxEntries = 0 ∨ maxBytes = 0) (policyField (dot basePath "spec.storage")
      (lit "memory cache storage must use non-zero max_entries and max_bytes"))

/-! ## Transforms, mirrors and faults -/

def isDisallowedResponseTransformHeader : Bool :=
  ["connection", "content-length", "keep-alive", "proxy-authenticate", "proxy-authorization", "proxy-connection", "te",
    "trailer", "transfer-encoding", "upgrade"].any (fun name => header == lit name)

def isDisallowedRequestTransformHeader : Bool :=
  ["connection", "content-length", "host", "keep-alive", "proxy-authenticate", "proxy-authorization", "proxy-connection",
    "te", "trailer", "transfer-encoding", "upgrade"].any (fun name => header == lit name)

def validateHeaderMutations (mutations : List HeaderMutationConfig) (path : Text) (isDisallowed : Text → Bool) :
    List ValidationError :=
  each mutations (fun index mutation =>
    let (name, value) : Text × Option Text := match mutation with
      | .set name value => (name, some value)
      | .remove name    => (name, none)
    match normalizeHttpHeaderName name with
    | none =>
      [policyField (dot (nth path index) "name") (lit "header mutation name must be a valid HTTP header name")]
    | some normalizedName =>
      flag (isDisallowed normalizedName) (policyField (nth path index) (lit "header mutation for " ++ normalizedName ++
        lit " is not allowed because it affects hop-by-hop or framing behavior")) ++
      flag (value.any (fun value => (trim value).isEmpty || value.contains '\r' || value.contains '\n'))
        (policyField (dot (nth path index) "value")
          (lit "header mutation set values must be non-empty and must not contain CR or LF")))

def validateTransformPolicy (named : NamedTransformPolicyConfig) : List ValidationError :=
  let policy := named.spec
  flag (policy.request.pathRewrite.isNone && policy.request.hostRewrite.isNone && policy.request.headerMutations.isEmpty &&
      policy.response.headerMutations.isEmpty)
    (policyField (dot basePath "spec") (lit "transform policy must declare at least one request or response transform")) ++
  flag (policy.request.pathRewrite.any (fun
      | .replacePrefix matchPrefix replacement => (trim matchPrefix).isEmpty || matchPrefix.head? ≠ some '/' ||
        (trim replacement).isEmpty || replacement.head? ≠ some '/'))
    (policyField (dot basePath "spec.request.path_rewrite") (lit
      "path rewrite replace_prefix must use non-empty match_prefix and replacement values that start with '/'")) ++
  flag (policy.request.hostRewrite.any (fun hostRewrite => !(canonicalizeHost hostRewrite).isOk))
    (policyField (dot basePath "spec.request.host_rewrite")
      (lit "host rewrite must use a valid canonical host or authority value")) ++
  validateHeaderMutations policy.request.headerMutations (dot basePath "spec.request.header_mutations")
    isDisallowedRequestTransformHeader ++
  validateHeaderMutations policy.response.headerMutations (dot basePath "spec.response.header_mutations")
    isDisallowedResponseTransformHeader

def validateTrafficMirror (upstreamNames : List Text) (basePath : Text) (policy : NamedTrafficMirrorPolicyConfig) :
    List ValidationError :=
  let spec := policy.spec
  flag (spec.percentage = 0) (policyField (dot basePath "spec.percentage")
    (lit "traffic mirroring percentage must be between 1 and 100")) ++
  (if (trim spec.targetUpstreamCluster).isEmpty then
    [policyField (dot basePath "spec.target_upstream_cluster")
      (lit "traffic mirroring target_upstream_cluster must not be empty")]
  else flag (trim spec.targetUpstreamCluster ∉ upstreamNames) (semantic .invalidUpstreamReference
    (dot basePath "spec.target_upstream_cluster") (lit "traffic mirroring policy " ++ policy.name ++
      lit " references unknown upstream cluster " ++ spec.targetUpstreamCluster))) ++
  each spec.methods (fun methodIndex method =>
    flag (normalizeHttpMethod method).isNone (policyField (nth (dot basePath "spec.methods") methodIndex)
      (lit "traffic mirroring policy " ++ policy.name ++ lit " declares invalid method " ++ method)))

def validateFaultInjection (policy : NamedFaultInjectionPolicyConfig) : List ValidationError :=
  let spec := policy.spec
  flag (spec.delay.isNone && spec.abort.isNone) (policyField (dot basePath "spec")
    (lit "fault injection policy must declare at least one of delay or abort")) ++
  (spec.delay.elim [] (fun delay =>
    flag (delay.percentage = 0) (policyField (dot basePath "spec.delay.percentage")
      (lit "fault injection delay percentage must be between 1 and 100")) ++
    flag (delay.fixedDelayMs = 0) (policyField (dot basePath "spec.delay.fixed_delay_ms")
      (lit "fault injection fixed_delay_ms must be greater than zero")))) ++
  (spec.abort.elim [] (fun abort =>
    flag (abort.percentage = 0) (policyField (dot basePath "spec.abort.percentage")
      (lit "fault injection abort percentage must be between 1 and 100")) ++
    flag (¬(400 ≤ abort.httpStatus ∧ abort.httpStatus ≤ 599)) (policyField (dot basePath "spec.abort.http_status")
      (lit "fault injection abort http_status must be between 400 and 599"))))

/-! ## Authentication and authorization -/

def validateJwtAuthPolicy (policy : NamedJwtAuthPolicyConfig) : List ValidationError :=
  let subject := lit "jwt auth policy " ++ policy.name
  let refreshInterval (refreshSecs : UInt64) := flag (refreshSecs = 0) (policyField
    (dot basePath "spec.jwks.refresh_secs") (subject ++ lit " must use a non-zero JWKS refresh interval"))
  flag policy.spec.issuers.isEmpty (policyField (dot basePath "spec.issuers")
    (subject ++ lit " must declare at least one issuer")) ++
  flag policy.spec.audiences.isEmpty (policyField (dot basePath "spec.audiences")
    (subject ++ lit " must declare at least one audience")) ++
  match policy.spec.jwks with
  | some (.file path refreshSecs) =>
    flag (trim path).isEmpty (policyField (dot basePath "spec.jwks.path")
      (subject ++ lit " must use a non-empty JWKS file path")) ++ refreshInterval refreshSecs
  | some (.remote url refreshSecs) =>
    flag (trim url).isEmpty (policyField (dot basePath "spec.jwks.url")
      (subject ++ lit " must use a non-empty JWKS URL")) ++ refreshInterval refreshSecs
  | some (.inline jwksJson) =>
    flag (trim jwksJson).isEmpty (policyField (dot basePath "spec.jwks.jwks_json")
      (subject ++ lit " must use non-empty inline JWKS JSON"))
  | none => [policyField (dot basePath "spec.jwks") (subject ++ lit " must declare a JWKS source")]

def validateExternalAuthPolicy (policy : NamedExternalAuthPolicyConfig) : List ValidationError :=
  let subject := lit "external auth policy " ++ policy.name
  flag (trim policy.spec.endpoint).isEmpty (policyField (dot basePath "spec.endpoint")
    (subject ++ lit " must use a non-empty endpoint")) ++
  flag (policy.spec.timeoutMs = 0) (policyField (dot basePath "spec.timeout_ms")
    (subject ++ lit " must use a non-zero timeout_ms")) ++
  each policy.spec.includeHeaders (fun headerIndex headerName =>
    flag (normalizeHttpHeaderName headerName).isNone (policyField (nth (dot basePath "spec.include_headers") headerIndex)
      (subject ++ lit " declares invalid header " ++ headerName))) ++
  each policy.spec.contextMappings (fun mappingIndex mapping =>
    let mappingPath := nth (dot basePath "spec.context_mappings") mappingIndex
    flag (trim mapping.source).isEmpty (policyField (dot mappingPath "source")
      (subject ++ lit " must use non-empty context mapping source")) ++
    flag (normalizeHttpHeaderName mapping.targetHeader).isNone (policyField (dot mappingPath "target_header")
      (subject ++ lit " declares invalid target_header " ++ mapping.targetHeader)))

def validateAuthorizationPolicy (policy : NamedAuthorizationPolicyConfig) : List ValidationError :=
  each policy.spec.rules (fun ruleIndex rule =>
    let rulePath := nth (dot basePath "spec.rules") ruleIndex
    flag (trim rule.name).isEmpty (policyField (dot rulePath "name")
      (lit "authorization policy " ++ policy.name ++ lit " must use non-empty rule names")) ++
    flag (rule.anyClaims.isEmpty && rule.requiredScopes.isEmpty && rule.requiredRoles.isEmpty) (policyField rulePath
      (lit "authorization policy " ++ policy.name ++ lit " rule " ++ rule.name ++ lit " must declare at least one matcher")))

def validateUpstreamIdentityPolicy (policy : NamedUpstreamIdentityPolicyConfig) : List ValidationError :=
  let subject := lit "upstream identity policy " ++ policy.name
  (match policy.spec.mode with
  | .spiffe => []
  | .spireWorkloadApi socketPath trustDomain =>
    flag (trim socketPath).isEmpty (policyField (dot basePath "spec.mode.socket_path")
      (subject ++ lit " must use a non-empty SPIRE socket_path")) ++
    flag (trim trustDomain).isEmpty (policyField (dot basePath "spec.mode.trust_domain")
      (subject ++ lit " must use a non-empty SPIRE trust_domain"))) ++
  (match policy.spec.trustBundle with
  | .file path refreshSecs =>
    flag (trim path).isEmpty (policyField (dot basePath "spec.trust_bundle.path")
      (subject ++ lit " must use a non-empty trust bundle path")) ++
    flag (refreshSecs = 0) (policyField (dot basePath "spec.trust_bundle.refresh_secs")
      (subject ++ lit " must use non-zero trust bundle refresh_secs"))
  | .inlinePem pem =>
    flag (trim pem).isEmpty (policyField (dot basePath "spec.trust_bundle.pem")
      (subject ++ lit " must use non-empty inline trust bundle PEM"))) ++
  flag (policy.spec.allowedSpiffeIds.isEmpty && policy.spec.allowedTrustDomains.isEmpty)
    (policyField (dot basePath "spec") (subject ++ lit " must declare allowed_spiffe_ids or allowed_trust_domains")) ++
  each policy.spec.allowedSpiffeIds (fun spiffeIndex spiffeId =>
    flag (!(lit "spiffe://").isPrefixOf spiffeId) (policyField (nth (dot basePath "spec.allowed_spiffe_ids") spiffeIndex)
      (subject ++ lit " declares invalid SPIFFE ID " ++ spiffeId)))

/-! ## Request classification -/

def validateRequestClassificationPolicy (policy : NamedRequestClassificationPolicyConfig) : List ValidationError :=
  let spec := policy.spec
  let weights := spec.signalWeights
  let subject := lit "request classification policy " ++ policy.name
  -- the three shapes of check this policy's fields have
  let nonZero (isZero : Bool) (group field : String) := flag isZero (policyField (dot (dot basePath group) field)
    (subject ++ lit " must use non-zero " ++ lit field))
  let headerNames (headers : List Text) (field complaint : String) := each headers (fun headerIndex headerName =>
    flag (normalizeHttpHeaderName headerName).isNone (policyField (nth (dot basePath field) headerIndex)
      (subject ++ lit complaint ++ headerName)))
  let nonEmpty (entries : List Text) (field complaint : String) := each entries (fun index entry =>
    flag (trim entry).isEmpty (policyField (nth (dot basePath field) index) (subject ++ lit complaint)))
  flag (spec.challengeThreshold ≥ spec.blockThreshold) (policyField (dot basePath "spec")
    (subject ++ lit " must use challenge_threshold < block_threshold")) ++
  flag (weights.headerAnomaly = 0 ∧ weights.bodyAnomaly = 0 ∧ weights.queryAnomaly = 0 ∧ weights.userAgentAnomaly = 0 ∧
      weights.reputation = 0 ∧ weights.botSignal = 0)
    (policyField (dot basePath "spec.signal_weights") (subject ++ lit " must enable at least one non-zero signal weight")) ++
  headerNames spec.context.includeHeaders "spec.context.include_headers" " declares invalid header " ++
  nonEmpty spec.context.includeQueryParams "spec.context.include_query_params" " must use non-empty query param names" ++
  nonZero (spec.headerScoring.maxHeaderCount = 0) "spec.header_scoring" "max_header_count" ++
  nonZero (spec.headerScoring.maxHeaderValueLength = 0) "spec.header_scoring" "max_header_value_length" ++
  nonZero (spec.headerScoring.maxDuplicateHeadersPerName = 0) "spec.header_scoring" "max_duplicate_headers_per_name" ++
  headerNames spec.headerScoring.suspiciousHeaders "spec.header_scoring.suspicious_headers"
    " declares invalid suspicious header " ++
  nonEmpty spec.headerScoring.suspiciousUserAgentPatterns "spec.header_scoring.suspicious_user_agent_patterns"
    " must use non-empty suspicious user-agent patterns" ++
  nonZero (spec.bodyScoring.maxInspectBytes = 0) "spec.body_scoring" "max_inspect_bytes" ++
  nonZero (spec.bodyScoring.maxBodyBytes = 0) "spec.body_scoring" "max_body_bytes" ++
  nonZero (spec.bodyScoring.minSuspiciousTokenLength = 0) "spec.body_scoring" "min_suspicious_token_length" ++
  nonEmpty spec.bodyScoring.suspiciousPatterns "spec.body_scoring.suspicious_patterns"
    " must use non-empty suspicious body patterns" ++
  nonEmpty spec.bodyScoring.allowlistedContentTypes "spec.body_scoring.allowlisted_content_types"
    " must use non-empty allowlisted content types"

/-! ## The registry -/

structure PolicyRegistry where
  localRateLimits : List Text
  localConcurrencyLimits : List Text
  hostileEdgeProtections : List Text
  retryBudgets : List Text
  timeoutHierarchies : List Text
  circuitBreakers : List Text
  overloadResponses : List Text
  httpCaches : List Text
  transforms : List Text
  trafficMirrors : List Text
  faultInjections : List Text
  jwtAuthPolicies : List Text
  externalAuthPolicies : List Text
  authorizationPolicies : List Text
  upstreamIdentityPolicies : List Text
  requestClassificationPolicies : List Text
  trafficMirrorSpecs : SortedMap Text TrafficMirrorPolicyConfig
  rateLimitScopes : SortedMap Text LocalLimitScopeConfig
  concurrencyLimitScopes : SortedMap Text LocalLimitScopeConfig

/-- What is kept of each policy under its name, as it is written; a later one takes an earlier one's place. -/
def byPolicyName {Spec α : Type} (f : Spec → α) (policies : List (NamedPolicyConfig Spec)) : SortedMap Text α :=
  .ofList (policies.map (fun policy => (policy.name, f policy.spec)))

def PolicyRegistry.new (resources : PolicyResourcesConfig) (upstreamNames : List Text) :
    PolicyRegistry × List ValidationError :=
  let localRateLimits := validateNamed "local_rate_limits" "local rate-limit policy" validateRateLimitPolicy
    resources.localRateLimits
  let localConcurrencyLimits := validateNamed "local_concurrency_limits" "local concurrency-limit policy"
    validateConcurrencyLimitPolicy resources.localConcurrencyLimits
  let hostileEdgeProtections := validateNamed "hostile_edge_protections" "hostile-edge protection policy"
    validateHostileEdgePolicy resources.hostileEdgeProtections
  let retryBudgets := validateNamed "retry_budgets" "retry budget policy" validateRetryBudget resources.retryBudgets
  let timeoutHierarchies := validateNamed "timeout_hierarchies" "timeout hierarchy policy" validateTimeoutHierarchy
    resources.timeoutHierarchies
  let circuitBreakers := validateNamed "circuit_breakers" "circuit breaker policy" validateCircuitBreaker
    resources.circuitBreakers
  let overloadResponses := validateNamed "overload_responses" "overload response policy" validateOverloadPolicy
    resources.overloadResponses
  let httpCaches := validateNamed "http_caches" "http cache policy" validateHttpCachePolicy resources.httpCaches
  let transforms := validateNamed "transforms" "transform policy" validateTransformPolicy resources.transforms
  let trafficMirrors := validateNamed "traffic_mirrors" "traffic mirroring policy" (validateTrafficMirror upstreamNames)
    resources.trafficMirrors
  let faultInjections := validateNamed "fault_injections" "fault injection policy" validateFaultInjection
    resources.faultInjections
  let jwtAuthPolicies := validateNamed "jwt_auth_policies" "jwt auth policy" validateJwtAuthPolicy resources.jwtAuthPolicies
  let externalAuthPolicies := validateNamed "external_auth_policies" "external auth policy" validateExternalAuthPolicy
    resources.externalAuthPolicies
  let authorizationPolicies := validateNamed "authorization_policies" "authorization policy" validateAuthorizationPolicy
    resources.authorizationPolicies
  let upstreamIdentityPolicies := validateNamed "upstream_identity_policies" "upstream identity policy"
    validateUpstreamIdentityPolicy resources.upstreamIdentityPolicies
  let requestClassificationPolicies := validateNamed "request_classification_policies" "request classification policy"
    validateRequestClassificationPolicy resources.requestClassificationPolicies
  ({ localRateLimits := localRateLimits.2
     localConcurrencyLimits := localConcurrencyLimits.2
     hostileEdgeProtections := hostileEdgeProtections.2
     retryBudgets := retryBudgets.2
     timeoutHierarchies := timeoutHierarchies.2
     circuitBreakers := circuitBreakers.2
     overloadResponses := overloadResponses.2
     httpCaches := httpCaches.2
     transforms := transforms.2
     trafficMirrors := trafficMirrors.2
     faultInjections := faultInjections.2
     jwtAuthPolicies := jwtAuthPolicies.2
     externalAuthPolicies := externalAuthPolicies.2
     authorizationPolicies := authorizationPolicies.2
     upstreamIdentityPolicies := upstreamIdentityPolicies.2
     requestClassificationPolicies := requestClassificationPolicies.2
     trafficMirrorSpecs := byPolicyName id resources.trafficMirrors
     rateLimitScopes := byPolicyName LocalRateLimitPolicyConfig.scope resources.localRateLimits
     concurrencyLimitScopes := byPolicyName LocalConcurrencyLimitPolicyConfig.scope resources.localConcurrencyLimits },
    localRateLimits.1 ++ localConcurrencyLimits.1 ++ hostileEdgeProtections.1 ++ retryBudgets.1 ++ timeoutHierarchies.1 ++
    circuitBreakers.1 ++ overloadResponses.1 ++ httpCaches.1 ++ transforms.1 ++ trafficMirrors.1 ++ faultInjections.1 ++
    jwtAuthPolicies.1 ++ externalAuthPolicies.1 ++ authorizationPolicies.1 ++ upstreamIdentityPolicies.1 ++
    requestClassificationPolicies.1)

/-! ## Bindings -/

inductive PolicyBindingTarget
  | listener (name : Text)
  | route (name : Text)
  | routeDestination (routeName upstreamCluster : Text)
  | upstreamCluster (name : Text)
deriving DecidableEq, Repr

namespace PolicyBindingTarget

def kindName : PolicyBindingTarget → Text
  | .listener _           => lit "listener"
  | .route _              => lit "route"
  | .routeDestination _ _ => lit "route destination"
  | .upstreamCluster _    => lit "upstream cluster"

def resourceName : PolicyBindingTarget → Text
  | .listener name | .route name | .upstreamCluster name => name
  | .routeDestination routeName cluster => routeName ++ lit "->" ++ cluster

def pathForPolicy (target : PolicyBindingTarget) (policyName : Text) : Text :=
  target.kindName ++ lit " " ++ target.resourceName ++ lit " policy binding " ++ policyName

def isListener : PolicyBindingTarget → Bool
  | .listener _ => true
  | _           => false

def isRoute : PolicyBindingTarget → Bool
  | .route _ => true
  | _        => false

def isRouteDestination : PolicyBindingTarget → Bool
  | .routeDestination _ _ => true
  | _                     => false

def isUpstreamCluster : PolicyBindingTarget → Bool
  | .upstreamCluster _ => true
  | _                  => false

end PolicyBindingTarget

def describeScope : LocalLimitScopeConfig → Text
  | .listener name => lit "listener " ++ name
  | .route name => lit "route " ++ name
  | .routeDestination route upstreamCluster => lit "route destination " ++ route ++ lit "->" ++ upstreamCluster
  | .upstreamCluster name => lit "upstream cluster " ++ name

def sameComponent (a b : Text) : Bool := Validator.normalizeComponent a == Validator.normalizeComponent b

def scopeMatches : LocalLimitScopeConfig → PolicyBindingTarget → Bool
  | .listener name, .listener targetName => sameComponent name targetName
  | .route name, .route targetName => sameComponent name targetName
  | .routeDestination route upstreamCluster, .routeDestination routeName targetUpstreamCluster =>
    sameComponent route routeName && sameComponent upstreamCluster targetUpstreamCluster
  | .upstreamCluster name, .upstreamCluster targetName => sameComponent name targetName
  | _, _ => false

def validateScopeMatch (scope : LocalLimitScopeConfig) (target : PolicyBindingTarget) (policyName : Text)
    (resourceKind : String) : List ValidationError :=
  flag (!scopeMatches scope target) (semantic .invalidPolicyScope (target.pathForPolicy policyName)
    (lit resourceKind ++ lit " " ++ policyName ++ lit " scope " ++ describeScope scope ++ lit " does not match " ++
      target.kindName ++ lit " " ++ target.resourceName))

/-- `validate_rate_limit_scope` and `validate_concurrency_scope`, with the scopes of their policies. -/
def validateLimitScope (scopes : SortedMap Text LocalLimitScopeConfig) (resourceKind : String)
    (target : PolicyBindingTarget) (policyName : Text) : List ValidationError :=
  (scopes.get? policyName).elim [] (fun scope => validateScopeMatch scope target policyName resourceKind)

/-- The errors, and the references that resolve. -/
def validateMultiPolicyRefs (references : List Text) (basePath : Text) (resourceKind : String) (known : List Text) :
    List ValidationError × List Text :=
  let outcome := scan (([] : List Text), ([] : List Text)) references (fun (seen, resolved) index reference =>
    let path := nth basePath index
    let name := trim reference
    if name.isEmpty then
      ([schema .invalidPolicyReference path (lit resourceKind ++ lit " reference must not be empty")], (seen, resolved))
    else
      (flag (name ∈ seen) (semantic .duplicatePolicyReference path
          (lit resourceKind ++ lit " " ++ name ++ lit " is referenced more than once")) ++
        flag (name ∉ known) (semantic .invalidPolicyReference path (lit "unknown " ++ lit resourceKind ++ lit " " ++ name)),
        (name :: seen, if name ∈ known then resolved ++ [name] else resolved)))
  (outcome.1, outcome.2.2)

def validateSinglePolicyRef (reference : Option Text) (path : Text) (resourceKind : String) (known : List Text) :
    List ValidationError :=
  reference.elim [] (fun reference =>
    let name := trim reference
    if name.isEmpty then
      [schema .invalidPolicyReference path (lit resourceKind ++ lit " reference must not be empty")]
    else flag (name ∉ known) (semantic .invalidPolicyReference path (lit "unknown " ++ lit resourceKind ++ lit " " ++ name)))

def misplaced (reference : Option Text) (isMisplaced : Bool) (path : Text) (message : String) : List ValidationError :=
  flag (reference.isSome && isMisplaced) (semantic .invalidPolicyScope path (lit message))

/-- A mirror to the cluster the destination already goes to. -/
def mirrorsItself (registry : PolicyRegistry) (trafficMirror : Option Text) : PolicyBindingTarget → Bool
  | .routeDestination _ upstreamCluster =>
    (trafficMirror.bind registry.trafficMirrorSpecs.get?).any (fun spec => spec.targetUpstreamCluster == upstreamCluster)
  | _ => false

def validatePolicyBinding (binding : PolicyBindingConfig) (basePath : Text) (target : PolicyBindingTarget)
    (registry : PolicyRegistry) : List ValidationError :=
  let rateLimitRefs := validateMultiPolicyRefs binding.localRateLimits (dot basePath "local_rate_limits")
    "local rate-limit policy" registry.localRateLimits
  let concurrencyLimitRefs := validateMultiPolicyRefs binding.localConcurrencyLimits
    (dot basePath "local_concurrency_limits") "local concurrency-limit policy" registry.localConcurrencyLimits
  rateLimitRefs.1 ++
  rateLimitRefs.2.flatMap (validateLimitScope registry.rateLimitScopes "local rate-limit policy" target) ++
  concurrencyLimitRefs.1 ++
  concurrencyLimitRefs.2.flatMap
    (validateLimitScope registry.concurrencyLimitScopes "local concurrency-limit policy" target) ++
  validateSinglePolicyRef binding.retryBudget (dot basePath "retry_budget") "retry budget policy" registry.retryBudgets ++
  validateSinglePolicyRef binding.timeoutHierarchy (dot basePath "timeout_hierarchy") "timeout hierarchy policy"
    registry.timeoutHierarchies ++
  validateSinglePolicyRef binding.circuitBreaker (dot basePath "circuit_breaker") "circuit breaker policy"
    registry.circuitBreakers ++
  validateSinglePolicyRef binding.overloadResponse (dot basePath "overload_response") "overload response policy"
    registry.overloadResponses ++
  validateSinglePolicyRef binding.hostileEdgeProtection (dot basePath "hostile_edge_protection")
    "hostile-edge protection policy" registry.hostileEdgeProtections ++
  misplaced binding.hostileEdgeProtection (!target.isListener) (dot basePath "hostile_edge_protection")
    "hostile-edge protection policies may only be bound to listeners" ++
  validateSinglePolicyRef binding.cachePolicy (dot basePath "cache_policy") "http cache policy" registry.httpCaches ++
  validateSinglePolicyRef binding.transformPolicy (dot basePath "transform_policy") "transform policy"
    registry.transforms ++
  validateSinglePolicyRef binding.trafficMirror (dot basePath "traffic_mirror") "traffic mirroring policy"
    registry.trafficMirrors ++
  validateSinglePolicyRef binding.faultInjection (dot basePath "fault_injection") "fault injection policy"
    registry.faultInjections ++
  validateSinglePolicyRef binding.jwtAuthPolicy (dot basePath "jwt_auth_policy") "jwt auth policy"
    registry.jwtAuthPolicies ++
  validateSinglePolicyRef binding.externalAuthPolicy (dot basePath "external_auth_policy") "external auth policy"
    registry.externalAuthPolicies ++
  validateSinglePolicyRef binding.authorizationPolicy (dot basePath "authorization_policy") "authorization policy"
    registry.authorizationPolicies ++
  validateSinglePolicyRef binding.upstreamIdentityPolicy (dot basePath "upstream_identity_policy")
    "upstream identity policy" registry.upstreamIdentityPolicies ++
  validateSinglePolicyRef binding.requestClassificationPolicy (dot basePath "request_classification_policy")
    "request classification policy" registry.requestClassificationPolicies ++
  misplaced binding.transformPolicy target.isUpstreamCluster (dot basePath "transform_policy")
    "transform policies may only be bound to listeners or routes" ++
  misplaced binding.trafficMirror (!target.isRouteDestination) (dot basePath "traffic_mirror")
    "traffic mirroring policies may only be bound to route destinations" ++
  flag (mirrorsItself registry binding.trafficMirror target) (semantic .invalidPolicyField (dot basePath "traffic_mirror")
    (lit "traffic mirroring target_upstream_cluster must differ from the primary route destination upstream cluster")) ++
  misplaced binding.faultInjection (!target.isRouteDestination) (dot basePath "fault_injection")
    "fault injection policies may only be bound to route destinations" ++
  misplaced binding.overloadResponse target.isRouteDestination (dot basePath "overload_response")
    "overload response policies may not be bound to route destinations" ++
  misplaced binding.cachePolicy target.isRouteDestination (dot basePath "cache_policy")
    "http cache policies may not be bound to route destinations" ++
  misplaced binding.jwtAuthPolicy target.isUpstreamCluster (dot basePath "jwt_auth_policy")
    "jwt auth policies may only be bound to listeners, routes, or route destinations" ++
  misplaced binding.externalAuthPolicy target.isUpstreamCluster (dot basePath "external_auth_policy")
    "external auth policies may only be bound to listeners, routes, or route destinations" ++
  misplaced binding.authorizationPolicy target.isUpstreamCluster (dot basePath "authorization_policy")
    "authorization policies may only be bound to listeners, routes, or route destinations" ++
  misplaced binding.upstreamIdentityPolicy (target.isListener || target.isRoute) (dot basePath "upstream_identity_policy")
    "upstream identity policies may only be bound to upstream clusters or route destinations" ++
  misplaced binding.requestClassificationPolicy target.isUpstreamCluster (dot basePath "request_classification_policy")
    "request classification policies may only be bound to listeners, routes, or route destinations"

end WayBalancer
