import WayBalancer.CacheKey
/-!
# ConfigPolicy — the policies a workspace declares

The policy resources of `crates/config-model/src` (`limits.rs`, `failure_policy.rs`, `overload_policy.rs`, `policy.rs`,
`l7_auth.rs`, `request_classification.rs`).  A field has a default where the source's `Default` gives it one; `usize` is that of
a 64-bit target.
-/
namespace WayBalancer

open Str

/-! ## Local limits -/

inductive LocalLimitScopeConfig
  | listener (name : Text)
  | route (name : Text)
  | routeDestination (route upstreamCluster : Text)
  | upstreamCluster (name : Text)
deriving DecidableEq

inductive LocalLimitKeyKindConfig
  | global
  | sourceIp
  | routeName
  | upstreamCluster
deriving DecidableEq

structure LocalRateLimitPolicyConfig where
  scope : LocalLimitScopeConfig
  keyKind : LocalLimitKeyKindConfig
  requestsPerWindow : UInt64
  windowMs : UInt64
  maxTrackedKeys : UInt64
deriving DecidableEq

structure LocalConcurrencyLimitPolicyConfig where
  scope : LocalLimitScopeConfig
  keyKind : LocalLimitKeyKindConfig
  maxConcurrent : UInt64
  maxTrackedKeys : UInt64
deriving DecidableEq

/-! ## Resilience and overload -/

structure RetryBudgetPolicyConfig where
  minRetryTokens : UInt32
  retryPercent : UInt8
  windowMs : UInt64
deriving DecidableEq

structure TimeoutHierarchyConfig where
  requestTimeoutMs : UInt64
  attemptTimeoutMs : UInt64
  perTryTimeoutMs : Option UInt64
  connectTimeoutMs : UInt64
  idleTimeoutMs : UInt64
deriving DecidableEq

structure CircuitBreakerPolicyConfig where
  openFailureThreshold : UInt32
  openDurationMs : UInt64
  halfOpenSuccessThreshold : UInt32
deriving DecidableEq

inductive TrafficClassConfig
  | critical
  | default
  | bestEffort
deriving DecidableEq

structure BrownoutFeatureConfig where
  name : Text
  priority : TrafficClassConfig
deriving DecidableEq

structure OverloadResponsePolicyConfig where
  signalWindowMs : UInt64
  constrainedSignalThreshold : UInt64
  sheddingSignalThreshold : UInt64
  brownoutSignalThreshold : UInt64
  brownoutFeatures : List BrownoutFeatureConfig
deriving DecidableEq

inductive HostileEdgeSourceAggregationConfig
  | exactIp
  | ipv4Subnet24
  | ipv6Subnet64
deriving DecidableEq

structure HostileEdgeSourceQuotaConfig where
  aggregation : HostileEdgeSourceAggregationConfig := .exactIp
  maxActivePerSource : UInt64 := 32
  maxTrackedSources : UInt64 := 4096
deriving DecidableEq

structure HostileEdgeHandshakeGuardConfig where
  maxInflight : UInt64 := 256
  timeoutMs : UInt64 := 5000
deriving DecidableEq

structure HostileEdgeProtectionPolicyConfig where
  sourceQuota : Option HostileEdgeSourceQuotaConfig := none
  handshakeGuard : Option HostileEdgeHandshakeGuardConfig := none
deriving DecidableEq

/-! ## Caches, transforms, mirrors and faults -/

inductive HttpCacheMethodConfig
  | get
  | head
deriving DecidableEq

inductive HttpCacheStorageConfig
  | memory (maxEntries maxBytes : UInt64)
deriving DecidableEq

/-- `HttpCachePolicyConfig` with all its fields; the inherited ones are those the cache's key and freshness read. -/
structure HttpCacheResourceConfig extends HttpCachePolicyConfig where
  methods : List HttpCacheMethodConfig := [.get, .head]
  cacheableStatusCodes : List UInt16 := [200, 203, 204, 300, 301, 404, 410]
  varyHeaders : List Text := []
  maxObjectBytes : UInt64 := 1024 * 1024
  honorCacheControl : Bool := true
  allowSetCookieStorage : Bool := false
  revalidationEnabled : Bool := true
  purgeEnabled : Bool := false
  storage : HttpCacheStorageConfig := .memory 10000 (64 * 1024 * 1024)
deriving DecidableEq

inductive PathRewriteTransformConfig
  | replacePrefix (matchPrefix replacement : Text)
deriving DecidableEq

inductive HeaderMutationConfig
  | set (name value : Text)
  | remove (name : Text)
deriving DecidableEq

structure RequestTransformConfig where
  pathRewrite : Option PathRewriteTransformConfig := none
  hostRewrite : Option Text := none
  headerMutations : List HeaderMutationConfig := []
deriving DecidableEq

structure ResponseTransformConfig where
  headerMutations : List HeaderMutationConfig := []
deriving DecidableEq

structure TransformPolicyConfig where
  request : RequestTransformConfig := {}
  response : ResponseTransformConfig := {}
deriving DecidableEq

structure TrafficMirrorPolicyConfig where
  percentage : UInt8 := 100
  targetUpstreamCluster : Text := []
  methods : List Text := []
deriving DecidableEq

structure FaultInjectionDelayConfig where
  percentage : UInt8 := 0
  fixedDelayMs : UInt64 := 0
deriving DecidableEq

structure FaultInjectionAbortConfig where
  percentage : UInt8 := 0
  httpStatus : UInt16 := 0
deriving DecidableEq

structure FaultInjectionPolicyConfig where
  delay : Option FaultInjectionDelayConfig := none
  abort : Option FaultInjectionAbortConfig := none
deriving DecidableEq

/-! ## Authentication and authorization -/

inductive JwtJwksSourceConfig
  | file (path : Text) (refreshSecs : UInt64)
  | remote (url : Text) (refreshSecs : UInt64)
  | inline (jwksJson : Text)
deriving DecidableEq

structure JwtAuthPolicyConfig where
  issuers : List Text := []
  audiences : List Text := []
  jwks : Option JwtJwksSourceConfig := none
  requiredClaims : List Text := []
  clockSkewSecs : UInt64 := 0
deriving DecidableEq

inductive ExternalAuthProtocolConfig
  | http
  | grpc
deriving DecidableEq

structure AuthContextMappingConfig where
  source : Text := []
  targetHeader : Text := []
  required : Bool := false
deriving DecidableEq

structure ExternalAuthPolicyConfig where
  endpoint : Text := []
  protocol : ExternalAuthProtocolConfig := .http
  timeoutMs : UInt64 := 1000
  failOpen : Bool := false
  includeHeaders : List Text := []
  contextMappings : List AuthContextMappingConfig := []
deriving DecidableEq

inductive AuthorizationDecisionConfig
  | allow
  | deny
deriving DecidableEq

structure AuthorizationRuleConfig where
  name : Text := []
  action : AuthorizationDecisionConfig := .deny
  anyClaims : List Text := []
  requiredScopes : List Text := []
  requiredRoles : List Text := []
deriving DecidableEq

structure AuthorizationPolicyConfig where
  rules : List AuthorizationRuleConfig := []
  defaultDecision : AuthorizationDecisionConfig := .deny
deriving DecidableEq

inductive UpstreamIdentityModeConfig
  | spiffe
  | spireWorkloadApi (socketPath trustDomain : Text)
deriving DecidableEq

inductive IdentityTrustBundleSourceConfig
  | file (path : Text) (refreshSecs : UInt64)
  | inlinePem (pem : Text)
deriving DecidableEq

structure UpstreamIdentityPolicyConfig where
  mode : UpstreamIdentityModeConfig := .spiffe
  trustBundle : IdentityTrustBundleSourceConfig := .file [] 60
  allowedSpiffeIds : List Text := []
  allowedTrustDomains : List Text := []
deriving DecidableEq

/-! ## Request classification -/

inductive RequestClassifierSensitivityConfig
  | low
  | medium
  | high
deriving DecidableEq

structure RequestClassificationSignalWeightsConfig where
  headerAnomaly : UInt8 := 25
  bodyAnomaly : UInt8 := 20
  queryAnomaly : UInt8 := 20
  userAgentAnomaly : UInt8 := 15
  reputation : UInt8 := 20
  botSignal : UInt8 := 20
deriving DecidableEq

structure RequestClassificationContextConfig where
  includeMethod : Bool := true
  includePath : Bool := true
  includeSourceIp : Bool := true
  includeUserAgent : Bool := true
  includeHeaders : List Text := [lit "user-agent", lit "x-forwarded-for"]
  includeQueryParams : List Text := []
deriving DecidableEq

structure HeaderAnomalyScoringConfig where
  maxHeaderCount : UInt16 := 64
  maxHeaderValueLength : UInt16 := 2048
  maxDuplicateHeadersPerName : UInt8 := 4
  suspiciousHeaders : List Text := [lit "x-original-url", lit "x-rewrite-url"]
  suspiciousUserAgentPatterns : List Text := [lit "sqlmap", lit "nikto", lit "nmap"]
deriving DecidableEq

structure BodyInspectionScoringConfig where
  maxInspectBytes : UInt32 := 8 * 1024
  maxBodyBytes : UInt32 := 128 * 1024
  minSuspiciousTokenLength : UInt8 := 6
  suspiciousPatterns : List Text := [lit "union select", lit "<script", lit "../"]
  allowlistedContentTypes : List Text := [lit "application/grpc", lit "application/octet-stream"]
deriving DecidableEq

structure RequestClassificationPolicyConfig where
  sensitivity : RequestClassifierSensitivityConfig := .medium
  challengeThreshold : UInt8 := 55
  blockThreshold : UInt8 := 80
  signalWeights : RequestClassificationSignalWeightsConfig := {}
  context : RequestClassificationContextConfig := {}
  headerScoring : HeaderAnomalyScoringConfig := {}
  bodyScoring : BodyInspectionScoringConfig := {}
deriving DecidableEq

/-! ## Named policies and their bindings -/

/-- A policy under its name; the source declares one such record for each kind of policy. -/
structure NamedPolicyConfig (Spec : Type) where
  name : Text
  spec : Spec
deriving DecidableEq

abbrev NamedLocalRateLimitPolicyConfig := NamedPolicyConfig LocalRateLimitPolicyConfig

abbrev NamedLocalConcurrencyLimitPolicyConfig := NamedPolicyConfig LocalConcurrencyLimitPolicyConfig

abbrev NamedHostileEdgeProtectionPolicyConfig := NamedPolicyConfig HostileEdgeProtectionPolicyConfig

abbrev NamedRetryBudgetPolicyConfig := NamedPolicyConfig RetryBudgetPolicyConfig

abbrev NamedTimeoutHierarchyPolicyConfig := NamedPolicyConfig TimeoutHierarchyConfig

abbrev NamedCircuitBreakerPolicyConfig := NamedPolicyConfig CircuitBreakerPolicyConfig

abbrev NamedOverloadResponsePolicyConfig := NamedPolicyConfig OverloadResponsePolicyConfig

abbrev NamedHttpCachePolicyConfig := NamedPolicyConfig HttpCacheResourceConfig

abbrev NamedTransformPolicyConfig := NamedPolicyConfig TransformPolicyConfig

abbrev NamedTrafficMirrorPolicyConfig := NamedPolicyConfig TrafficMirrorPolicyConfig

abbrev NamedFaultInjectionPolicyConfig := NamedPolicyConfig FaultInjectionPolicyConfig

abbrev NamedJwtAuthPolicyConfig := NamedPolicyConfig JwtAuthPolicyConfig

abbrev NamedExternalAuthPolicyConfig := NamedPolicyConfig ExternalAuthPolicyConfig

abbrev NamedAuthorizationPolicyConfig := NamedPolicyConfig AuthorizationPolicyConfig

abbrev NamedUpstreamIdentityPolicyConfig := NamedPolicyConfig UpstreamIdentityPolicyConfig

abbrev NamedRequestClassificationPolicyConfig := NamedPolicyConfig RequestClassificationPolicyConfig

structure PolicyResourcesConfig where
  localRateLimits : List NamedLocalRateLimitPolicyConfig := []
  localConcurrencyLimits : List NamedLocalConcurrencyLimitPolicyConfig := []
  hostileEdgeProtections : List NamedHostileEdgeProtectionPolicyConfig := []
  retryBudgets : List NamedRetryBudgetPolicyConfig := []
  timeoutHierarchies : List NamedTimeoutHierarchyPolicyConfig := []
  circuitBreakers : List NamedCircuitBreakerPolicyConfig := []
  overloadResponses : List NamedOverloadResponsePolicyConfig := []
  httpCaches : List NamedHttpCachePolicyConfig := []
  transforms : List NamedTransformPolicyConfig := []
  trafficMirrors : List NamedTrafficMirrorPolicyConfig := []
  faultInjections : List NamedFaultInjectionPolicyConfig := []
  jwtAuthPolicies : List NamedJwtAuthPolicyConfig := []
  externalAuthPolicies : List NamedExternalAuthPolicyConfig := []
  authorizationPolicies : List NamedAuthorizationPolicyConfig := []
  upstreamIdentityPolicies : List NamedUpstreamIdentityPolicyConfig := []
  requestClassificationPolicies : List NamedRequestClassificationPolicyConfig := []
deriving DecidableEq

/-- The policies a listener, a route, a destination or a cluster refers to. -/
structure PolicyBindingConfig where
  localRateLimits : List Text := []
  localConcurrencyLimits : List Text := []
  hostileEdgeProtection : Option Text := none
  retryBudget : Option Text := none
  timeoutHierarchy : Option Text := none
  circuitBreaker : Option Text := none
  overloadResponse : Option Text := none
  cachePolicy : Option Text := none
  transformPolicy : Option Text := none
  trafficMirror : Option Text := none
  faultInjection : Option Text := none
  jwtAuthPolicy : Option Text := none
  externalAuthPolicy : Option Text := none
  authorizationPolicy : Option Text := none
  upstreamIdentityPolicy : Option Text := none
  requestClassificationPolicy : Option Text := none
deriving DecidableEq

end WayBalancer
