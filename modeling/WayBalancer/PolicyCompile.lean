import WayBalancer.ServeRoutes
import WayBalancer.FailureManagement
import WayBalancer.LocalLimits
import WayBalancer.ProcRules
/-!
# PolicyCompile — the policies of a listener's route destinations

`compile_policies.rs` of `binaries/lb-dataplane/src/workspace_serve`: the policies that apply to a destination are those it
names, else those its route names, else those of the listener; the objects that enforce them are made once and shared.  An
object is known by the key it is cached under, so two destinations share it exactly when their keys are equal: a limiter by the
name of its policy, a failure manager by the names of its three policies (which the source writes into one text, each quoted).
-/
namespace WayBalancer

open Str

inductive PolicyCompileError
  | message (text : Text)
  | localLimit (error : LocalLimitError)
  | failureManagement (error : FailureManagementError)
deriving DecidableEq, Repr

def findPolicy {Spec : Type} (policies : List (NamedPolicyConfig Spec)) (name : Text) : Option Spec :=
  (policies.find? (fun policy => policy.name = name)).map (·.spec)

def policyOr {α : Type} (found : Option α) (text : Text) : Except PolicyCompileError α :=
  match found with
  | some a => .ok a
  | none   => .error (.message text)

/-! ## Transforms -/

variable (config : WorkspaceConfig) (policyName referrerName : Text)

def resolveNamedTransform : Except PolicyCompileError TransformPolicyConfig :=
  policyOr (findPolicy config.policies.transforms policyName)
    (lit "resource " ++ referrerName ++ lit " references unknown transform policy " ++ policyName)

def resolveNamedRequestTransform : Except PolicyCompileError RequestTransformConfig :=
  (resolveNamedTransform config policyName referrerName).map (·.request)

def resolveNamedResponseTransform : Except PolicyCompileError ResponseTransformConfig :=
  (resolveNamedTransform config policyName referrerName).map (·.response)

/-- `Option::map(..).transpose()`. -/
def forOption {α β : Type} (f : α → Except PolicyCompileError β) : Option α → Except PolicyCompileError (Option β)
  | none   => .ok none
  | some a => (f a).map some

def RequestTransformConfig.overlay (merged layer : RequestTransformConfig) : RequestTransformConfig where
  pathRewrite := layer.pathRewrite.or merged.pathRewrite
  hostRewrite := layer.hostRewrite.or merged.hostRewrite
  headerMutations := merged.headerMutations ++ layer.headerMutations

def mergeRequestTransformLayers (listener route destination : Option RequestTransformConfig) : Option RequestTransformConfig :=
  let layers := [route, destination].filterMap id
  if listener.isSome || !layers.isEmpty then some (layers.foldl RequestTransformConfig.overlay (listener.getD {})) else none

def ResponseTransformConfig.overlay (merged layer : ResponseTransformConfig) : ResponseTransformConfig where
  headerMutations := merged.headerMutations ++ layer.headerMutations

def mergeResponseTransformLayers (listener route destination : Option ResponseTransformConfig) :
    Option ResponseTransformConfig :=
  let layers := [route, destination].filterMap id
  if listener.isSome || !layers.isEmpty then some (layers.foldl ResponseTransformConfig.overlay (listener.getD {})) else none

/-! ## The policies that apply to a destination -/

def pickEffectivePolicyName (listener route destination : Option Text) : Option Text := destination.or (route.or listener)

def mergeEffectivePolicyRefs (listener route destination : List Text) : List Text := listener ++ route ++ destination

structure EffectiveRouteDestinationPolicy where
  upstreamCluster : Text
  retryBudget : Option Text
  timeoutHierarchy : Option Text
  circuitBreaker : Option Text
  jwtAuthPolicy : Option Text
  externalAuthPolicy : Option Text
  authorizationPolicy : Option Text
  upstreamIdentityPolicy : Option Text
  transformPolicy : Option Text
  trafficMirror : Option Text
  faultInjection : Option Text
  localRateLimits : List Text
  localConcurrencyLimits : List Text
  effectiveRequestTransform : Option RequestTransformConfig
  effectiveResponseTransform : Option ResponseTransformConfig
deriving DecidableEq

section
variable (config : WorkspaceConfig) (listener : ListenerResourceConfig)

/-- The reading of one policy reference off the three layers. -/
def effectiveName (route : RouteConfig) (destination : RouteDestinationConfig) (reference : PolicyBindingConfig → Option Text) :
    Option Text :=
  pickEffectivePolicyName (reference listener.policies) (reference route.policies) (reference destination.policies)

def effectiveDestinationPolicy (listenerTransforms routeTransforms : Option TransformPolicyConfig) (route : RouteConfig)
    (destination : RouteDestinationConfig) : Except PolicyCompileError EffectiveRouteDestinationPolicy := do
  let upstreamCluster ← policyOr (config.findCluster destination.upstreamCluster)
    (lit "route " ++ route.name ++ lit " references unknown upstream cluster " ++ destination.upstreamCluster)
  let destinationTransforms ← forOption
    (fun policyName => resolveNamedTransform config policyName (route.name ++ lit "->" ++ destination.upstreamCluster))
    destination.policies.transformPolicy
  let name := effectiveName listener route destination
  return {
    upstreamCluster := destination.upstreamCluster
    retryBudget := name (·.retryBudget)
    timeoutHierarchy := name (·.timeoutHierarchy)
    circuitBreaker := name (·.circuitBreaker)
    jwtAuthPolicy := name (·.jwtAuthPolicy)
    externalAuthPolicy := name (·.externalAuthPolicy)
    authorizationPolicy := name (·.authorizationPolicy)
    upstreamIdentityPolicy :=
      destination.policies.upstreamIdentityPolicy.or upstreamCluster.policies.upstreamIdentityPolicy
    transformPolicy := name (·.transformPolicy)
    trafficMirror := name (·.trafficMirror)
    faultInjection := name (·.faultInjection)
    localRateLimits := mergeEffectivePolicyRefs listener.policies.localRateLimits route.policies.localRateLimits
      destination.policies.localRateLimits
    localConcurrencyLimits := mergeEffectivePolicyRefs listener.policies.localConcurrencyLimits
      route.policies.localConcurrencyLimits destination.policies.localConcurrencyLimits
    effectiveRequestTransform := mergeRequestTransformLayers (listenerTransforms.map (·.request))
      (routeTransforms.map (·.request)) (destinationTransforms.map (·.request))
    effectiveResponseTransform := mergeResponseTransformLayers (listenerTransforms.map (·.response))
      (routeTransforms.map (·.response)) (destinationTransforms.map (·.response)) }

def effectiveRoutePolicies (listenerTransforms : Option TransformPolicyConfig) (routeName : Text) :
    Except PolicyCompileError (Text × List EffectiveRouteDestinationPolicy) := do
  let route ← policyOr (config.findRoute routeName)
    (lit "listener " ++ listener.name ++ lit " references unknown route " ++ routeName)
  let routeTransforms ← forOption (fun policyName => resolveNamedTransform config policyName route.name)
    route.policies.transformPolicy
  let diagnostics ← route.normalizedDestinations.mapM
    (effectiveDestinationPolicy config listener listenerTransforms routeTransforms route)
  return (route.name, diagnostics)

/-- The request and the response side of a transform policy are found together or not at all, so they are looked up once. -/
def resolveEffectiveRouteBackendPolicyDiagnostics :
    Except PolicyCompileError (SortedMap Text (List EffectiveRouteDestinationPolicy)) := do
  let listenerTransforms ← forOption (fun policyName => resolveNamedTransform config policyName listener.name)
    listener.policies.transformPolicy
  let routes ← listener.routes.mapM (effectiveRoutePolicies config listener listenerTransforms)
  return .ofList routes

end

/-! ## Shared objects -/

/-- The policies a failure manager is made from, by name. -/
structure FailureBinding where
  retryBudget : Option Text
  timeoutHierarchy : Option Text
  circuitBreaker : Option Text
deriving DecidableEq, Repr

abbrev FailureManagers := FailureBinding → Option FailureManager

structure SharedPolicies where
  rateLimiters : Text → Option LocalRateLimiter
  concurrencyLimiters : Text → Option LocalConcurrencyLimiter
  failureManagers : FailureManagers

def SharedPolicies.empty : SharedPolicies := ⟨fun _ => none, fun _ => none, fun _ => none⟩

/-- The object cached under a key, or a new one that is cached under it. -/
def resolveShared {κ α : Type} [DecidableEq κ] (key : κ) (build : Except PolicyCompileError α) :
    Proc (κ → Option α) PolicyCompileError κ := do
  let cache ← Proc.get
  if (cache key).isSome then return key
  else
    let object ← Proc.ofExcept build
    Proc.update (fun cache => Function.update cache key (some object))
    return key

def compileLocalLimitScope : LocalLimitScopeConfig → LocalLimitScope
  | .listener name                          => .listener name
  | .route name                             => .route name
  | .routeDestination route upstreamCluster => .routeDestination route upstreamCluster
  | .upstreamCluster name                   => .upstreamCluster name

def compileLocalLimitKeyKind : LocalLimitKeyKindConfig → LocalLimitKeyKind
  | .global          => .global
  | .sourceIp        => .sourceIp
  | .routeName       => .routeName
  | .upstreamCluster => .upstreamCluster

def fromMillis (milliseconds : UInt64) : ℕ := milliseconds.toNat * 10 ^ 6

section
variable (config : WorkspaceConfig)

variable (policyName : Text)

def buildLocalRateLimiter : Except PolicyCompileError LocalRateLimiter := do
  let spec ← policyOr (findPolicy config.policies.localRateLimits policyName)
    (lit "unknown local rate-limit policy " ++ policyName)
  (LocalRateLimiter.new {
    scope := compileLocalLimitScope spec.scope
    keyKind := compileLocalLimitKeyKind spec.keyKind
    requestsPerWindow := spec.requestsPerWindow.toNat
    window := fromMillis spec.windowMs
    maxTrackedKeys := spec.maxTrackedKeys.toNat }).mapError .localLimit

def resolveNamedLocalRateLimiter : Proc SharedPolicies PolicyCompileError Text :=
  (resolveShared policyName (buildLocalRateLimiter config policyName)).focus SharedPolicies.rateLimiters
    (fun rateLimiters shared => { shared with rateLimiters })

def buildLocalConcurrencyLimiter : Except PolicyCompileError LocalConcurrencyLimiter := do
  let spec ← policyOr (findPolicy config.policies.localConcurrencyLimits policyName)
    (lit "unknown local concurrency-limit policy " ++ policyName)
  (LocalConcurrencyLimiter.new {
    scope := compileLocalLimitScope spec.scope
    keyKind := compileLocalLimitKeyKind spec.keyKind
    maxConcurrent := spec.maxConcurrent.toNat
    maxTrackedKeys := spec.maxTrackedKeys.toNat }).mapError .localLimit

def resolveNamedLocalConcurrencyLimiter : Proc SharedPolicies PolicyCompileError Text :=
  (resolveShared policyName (buildLocalConcurrencyLimiter config policyName)).focus SharedPolicies.concurrencyLimiters
    (fun concurrencyLimiters shared => { shared with concurrencyLimiters })

/-! ## Failure managers -/

def RetryBudgetPolicyConfig.into (spec : RetryBudgetPolicyConfig) : RetryBudgetPolicy :=
  ⟨spec.minRetryTokens, spec.retryPercent, fromMillis spec.windowMs⟩

def resolveNamedRetryBudgetPolicy : Except PolicyCompileError RetryBudgetPolicy :=
  (policyOr (findPolicy config.policies.retryBudgets policyName) (lit "unknown retry-budget policy " ++ policyName)).map
    RetryBudgetPolicyConfig.into

def TimeoutHierarchyConfig.into (spec : TimeoutHierarchyConfig) : TimeoutHierarchy where
  requestTimeout := fromMillis spec.requestTimeoutMs
  attemptTimeout := fromMillis (spec.perTryTimeoutMs.getD spec.attemptTimeoutMs)
  connectTimeout := fromMillis spec.connectTimeoutMs
  idleTimeout := fromMillis spec.idleTimeoutMs

def resolveNamedTimeoutHierarchy : Except PolicyCompileError TimeoutHierarchy :=
  (policyOr (findPolicy config.policies.timeoutHierarchies policyName)
    (lit "unknown timeout hierarchy policy " ++ policyName)).map TimeoutHierarchyConfig.into

theorem uint32_le (n : UInt32) : n.toNat ≤ Word.u32Max := by
  have h := n.toNat_lt
  unfold Word.u32Max
  omega

def CircuitBreakerPolicyConfig.into (spec : CircuitBreakerPolicyConfig) : CircuitBreakerPolicy where
  openFailureThreshold := spec.openFailureThreshold.toNat
  openDuration := fromMillis spec.openDurationMs
  halfOpenSuccessThreshold := spec.halfOpenSuccessThreshold.toNat
  openFailureThreshold_le := uint32_le _
  halfOpenSuccessThreshold_le := uint32_le _

def resolveNamedCircuitBreakerPolicy : Except PolicyCompileError CircuitBreakerPolicy :=
  (policyOr (findPolicy config.policies.circuitBreakers policyName)
    (lit "unknown circuit-breaker policy " ++ policyName)).map CircuitBreakerPolicyConfig.into

structure ConnectionTimeouts where
  connectTimeout : ℕ
  prefaceTimeout : ℕ
  idleTimeout : ℕ
deriving DecidableEq, Repr

def ConnectionTimeouts.default : ConnectionTimeouts := ⟨3 * 10 ^ 9, 250 * 10 ^ 6, 30 * 10 ^ 9⟩

def defaultTimeoutHierarchy : TimeoutHierarchy :=
  let defaults := ConnectionTimeouts.default
  let attemptTimeout := max defaults.idleTimeout defaults.connectTimeout
  ⟨attemptTimeout, attemptTimeout, defaults.connectTimeout, min defaults.idleTimeout attemptTimeout⟩

def defaultCircuitBreakerPolicy : CircuitBreakerPolicy where
  openFailureThreshold := 3
  openDuration := 30 * 10 ^ 9
  halfOpenSuccessThreshold := 2
  openFailureThreshold_le := by decide
  halfOpenSuccessThreshold_le := by decide

def namedOr {α : Type} (resolve : Text → Except PolicyCompileError α) (default : α) (name : Option Text) :
    Except PolicyCompileError α :=
  (forOption resolve name).map (·.getD default)

def buildFailureManager (binding : FailureBinding) : Except PolicyCompileError FailureManager := do
  let retryBudget ← namedOr (resolveNamedRetryBudgetPolicy config) .default binding.retryBudget
  let timeoutHierarchy ← namedOr (resolveNamedTimeoutHierarchy config) defaultTimeoutHierarchy binding.timeoutHierarchy
  let circuitBreaker ← namedOr (resolveNamedCircuitBreakerPolicy config) defaultCircuitBreakerPolicy binding.circuitBreaker
  (FailureManager.new retryBudget timeoutHierarchy circuitBreaker).mapError .failureManagement

variable (diagnostic : EffectiveRouteDestinationPolicy)

def EffectiveRouteDestinationPolicy.failureBinding : FailureBinding :=
  ⟨diagnostic.retryBudget, diagnostic.timeoutHierarchy, diagnostic.circuitBreaker⟩

def FailureBinding.isEmpty (binding : FailureBinding) : Bool :=
  binding.retryBudget.isNone && binding.timeoutHierarchy.isNone && binding.circuitBreaker.isNone

def resolveDestinationFailureManager : Proc SharedPolicies PolicyCompileError (Option FailureBinding) :=
  if diagnostic.failureBinding.isEmpty then pure none
  else do
    let key ← (resolveShared diagnostic.failureBinding (buildFailureManager config diagnostic.failureBinding)).focus
      SharedPolicies.failureManagers (fun failureManagers shared => { shared with failureManagers })
    return some key

/-! ## The runtime of a destination -/

structure RouteDestinationPolicyRuntime where
  requestTransform : Option RequestTransformConfig
  responseTransform : Option ResponseTransformConfig
  trafficMirror : Option TrafficMirrorPolicyConfig
  faultInjection : Option FaultInjectionPolicyConfig
  rateLimiters : List Text
  concurrencyLimiters : List Text
  failureManager : Option FailureBinding
  enforceRetryBudget : Bool
  enforceTimeoutHierarchy : Bool
  enforceCircuitBreaker : Bool
deriving DecidableEq

def compileDestinationRuntime :
    Proc SharedPolicies PolicyCompileError (Text × RouteDestinationPolicyRuntime) := do
  let rateLimiters ← Proc.collect (resolveNamedLocalRateLimiter config) diagnostic.localRateLimits
  let concurrencyLimiters ← Proc.collect (resolveNamedLocalConcurrencyLimiter config) diagnostic.localConcurrencyLimits
  let failureManager ← resolveDestinationFailureManager config diagnostic
  let trafficMirror ← Proc.ofExcept (forOption (fun policyName => policyOr (findPolicy config.policies.trafficMirrors policyName)
    (lit "missing traffic mirroring policy " ++ policyName)) diagnostic.trafficMirror)
  let faultInjection ← Proc.ofExcept (forOption (fun policyName => policyOr (findPolicy config.policies.faultInjections policyName)
    (lit "missing fault injection policy " ++ policyName)) diagnostic.faultInjection)
  return (diagnostic.upstreamCluster, {
    requestTransform := diagnostic.effectiveRequestTransform
    responseTransform := diagnostic.effectiveResponseTransform
    trafficMirror
    faultInjection
    rateLimiters
    concurrencyLimiters
    failureManager
    enforceRetryBudget := diagnostic.retryBudget.isSome
    enforceTimeoutHierarchy := diagnostic.timeoutHierarchy.isSome
    enforceCircuitBreaker := diagnostic.circuitBreaker.isSome })

abbrev RouteDestinationPolicies := SortedMap Text (SortedMap Text RouteDestinationPolicyRuntime)

def compileRouteRuntime (entry : Text × List EffectiveRouteDestinationPolicy) :
    Proc SharedPolicies PolicyCompileError (Text × SortedMap Text RouteDestinationPolicyRuntime) := do
  let destinations ← Proc.collect (compileDestinationRuntime config) entry.2
  return (entry.1, .ofList destinations)

/-- The runtimes, and the objects they share. -/
def compileRouteDestinationPolicyRuntime (diagnostics : SortedMap Text (List EffectiveRouteDestinationPolicy)) :
    Except PolicyCompileError RouteDestinationPolicies × SharedPolicies :=
  (do
    let routes ← Proc.collect (compileRouteRuntime config) diagnostics.entries
    return SortedMap.ofList routes : Proc SharedPolicies PolicyCompileError RouteDestinationPolicies) .empty

end

def RouteDestinationPolicies.find (policies : RouteDestinationPolicies) (route upstreamCluster : Text) :
    Option RouteDestinationPolicyRuntime :=
  (policies.get? route).bind (·.get? upstreamCluster)

end WayBalancer
