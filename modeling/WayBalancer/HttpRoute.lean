import WayBalancer.FirstBest
import WayBalancer.HttpHeaders
import WayBalancer.HttpTarget
import WayBalancer.IpNet
/-!
# HttpRoute — the route of a request

`crates/proto-http/src/lib.rs`: a request is canonicalized once and then compared with the route rules.  Of the rules that
match, the one with the greatest specificity key is the route, the earliest of them where keys are equal.
-/
namespace WayBalancer

open Str FirstBest

/-! ## Rules -/

inductive RouteHeaderMatch
  | exact (name value : Text)
  | present (name : Text)
  | absent (name : Text)
deriving DecidableEq, Repr

inductive RouteQueryMatch
  | exact (name value : Text)
  | present (name : Text)
  | absent (name : Text)
deriving DecidableEq, Repr

structure RoutePrefixRule where
  label : Text
  pathPrefix : Text
  hostnames : List Text
  methods : List Text
  headerMatches : List RouteHeaderMatch
  queryMatches : List RouteQueryMatch
  contentTypes : List Text
  grpcServices : List Text
  grpcMethods : List Text
  sourceCidrs : List IpNet
deriving DecidableEq, Repr

def RoutePrefixRule.new (label pathPrefix : Text) : RoutePrefixRule := ⟨label, pathPrefix, [], [], [], [], [], [], [], []⟩

/-- The nine components, compared from the first on. -/
abbrev SpecificityKey := ℕ ×ₗ Bool ×ₗ Bool ×ₗ ℕ ×ₗ ℕ ×ₗ Bool ×ₗ ℕ ×ₗ ℕ ×ₗ Bool

def RoutePrefixRule.specificityKey (rule : RoutePrefixRule) : SpecificityKey :=
  toLex (byteLen rule.pathPrefix,
  toLex (!rule.hostnames.isEmpty,
  toLex (!rule.methods.isEmpty,
  toLex (rule.headerMatches.length,
  toLex (rule.queryMatches.length,
  toLex (!rule.contentTypes.isEmpty,
  toLex (rule.grpcServices.length,
  toLex (rule.grpcMethods.length,
  !rule.sourceCidrs.isEmpty))))))))

/-! ## Requests -/

def isHttpTokenChar (c : Char) : Bool := (lit "!#$%&'*+-.^_`|~").contains c || c.isAlphanum

variable (value : Text)

def normalizeHttpMethod : Option Text :=
  let normalized := trim value
  if normalized.isEmpty || !normalized.all isHttpTokenChar then none else some (upper normalized)

def normalizeHttpHeaderName : Option Text :=
  let normalized := trim value
  if normalized.isEmpty || !normalized.all isHttpTokenChar then none else some (lower normalized)

def canonicalizeQueryMatchName : Except RequestTargetError Text :=
  match canonicalizePercentEncoded value with
  | .error e       => .error e
  | .ok normalized =>
    if normalized.isEmpty || normalized.contains '&' || normalized.contains '=' then .error .invalidQuery else .ok normalized

def canonicalizeQueryMatchValue : Except RequestTargetError Text :=
  if value.contains '&' then .error .invalidQuery else canonicalizePercentEncoded value

def isValidGrpcIdentifier : Text → Bool
  | []            => false
  | first :: rest => (first.isAlpha || first == '_') && rest.all (fun c => c.isAlphanum || c == '_')

def normalizeGrpcServiceMatch : Option Text :=
  let normalized := trim value
  if normalized.isEmpty || normalized.contains '/' || normalized.any isAsciiWhitespace then none
  else if (normalized.splitOn '.').all isValidGrpcIdentifier then some normalized else none

def normalizeGrpcMethodMatch : Option Text :=
  let normalized := trim value
  if isValidGrpcIdentifier normalized then some normalized else none

def normalizeContentTypeMatch : Option Text := do
  let mediaType := lower (trim (splitAtFirst (· == ';') value).1)
  let (typeName, subtypeName) ← splitOnce '/' mediaType
  if typeName.isEmpty || subtypeName.isEmpty || !typeName.all isHttpTokenChar || !subtypeName.all isHttpTokenChar then none
  else some mediaType

def isGrpcContentType : Bool :=
  let normalized := lower (trim value)
  normalized == lit "application/grpc" || (lit "application/grpc+").isPrefixOf normalized ||
    (lit "application/grpc;").isPrefixOf normalized

def extractGrpcPathComponents (path : Text) : Option (Text × Text) := do
  let trimmed ← stripPrefix (lit "/") path
  let (service, method) ← splitOnce '/' trimmed
  if method.contains '/' then none
  else return (← normalizeGrpcServiceMatch service, ← normalizeGrpcMethodMatch method)

def extractContentTypeMatch (headers : List HttpHeader) : Option Text :=
  (headers.find? (·.isNamed (lit "content-type"))).bind (fun header => normalizeContentTypeMatch header.value)

structure RouteMatchInput where
  target : Text
  host : Option Text
  method : Option Text
  headers : List HttpHeader
  sourceIp : Option IpAddr
deriving DecidableEq, Repr

structure CanonicalRouteMatchInput where
  path : Text
  authority : Option Text
  method : Option Text
  headers : List HttpHeader
  queryPairs : List (Text × Text)
  contentType : Option Text
  grpcService : Option Text
  grpcMethod : Option Text
  sourceIp : Option IpAddr
deriving DecidableEq, Repr

/-- A `Host` that is not one counts as none, and the authority of the target stands in for it. -/
def canonicalizeRouteMatchInput (input : RouteMatchInput) : Except RequestTargetError CanonicalRouteMatchInput :=
  (canonicalizeRequestTarget input.target).map (fun canonicalTarget =>
    let grpcPath := extractGrpcPathComponents canonicalTarget.path
    { path := canonicalTarget.path
      authority := (input.host.bind (fun value => (canonicalizeHost value).toOption)).or canonicalTarget.authority
      method := input.method.bind normalizeHttpMethod
      headers := input.headers
      queryPairs := canonicalTarget.queryPairs
      contentType := extractContentTypeMatch input.headers
      grpcService := grpcPath.map (·.1)
      grpcMethod := grpcPath.map (·.2)
      sourceIp := input.sourceIp })

/-! ## Matching -/

def headerMatchSatisfied (headers : List HttpHeader) : RouteHeaderMatch → Bool
  | .exact name value => headers.any (fun header => header.isNamed name && trim header.value == value)
  | .present name     => headers.any (·.isNamed name)
  | .absent name      => !headers.any (·.isNamed name)

def queryMatchSatisfied (queryPairs : List (Text × Text)) : RouteQueryMatch → Bool
  | .exact name value => queryPairs.any (fun pair => pair.1 == name && pair.2 == value)
  | .present name     => queryPairs.any (·.1 == name)
  | .absent name      => !queryPairs.any (·.1 == name)

/-- A criterion with a list of allowed values: no value allows everything. -/
def allows {α β : Type} (allowed : List α) (value : Option β) (accepts : α → β → Bool) : Bool :=
  allowed.isEmpty || value.any (fun v => allowed.any (fun a => accepts a v))

def routeRuleMatches (rule : RoutePrefixRule) (input : CanonicalRouteMatchInput) : Bool :=
  rule.pathPrefix.isPrefixOf input.path &&
  allows rule.hostnames input.authority (fun hostname value => hostname == value) &&
  allows rule.methods input.method (fun method value => method == value) &&
  rule.headerMatches.all (headerMatchSatisfied input.headers) &&
  rule.queryMatches.all (queryMatchSatisfied input.queryPairs) &&
  allows rule.contentTypes input.contentType
    (fun contentType value => contentType == value || (contentType == lit "application/grpc" && isGrpcContentType value)) &&
  allows rule.grpcServices input.grpcService (fun service value => service == value) &&
  allows rule.grpcMethods input.grpcMethod (fun method value => method == value) &&
  allows rule.sourceCidrs (input.sourceIp.map canonicalizeIp) IpNet.contains

structure RouteMatch where
  label : Text
  pathPrefix : Text
deriving DecidableEq, Repr

/-- The best match after one more matching rule. -/
def replaceBest (bestMatch : Option RoutePrefixRule) (rule : RoutePrefixRule) : Option RoutePrefixRule :=
  let shouldReplace := (bestMatch.map (fun matched => decide (matched.specificityKey < rule.specificityKey))).getD true
  if shouldReplace then some rule else bestMatch

variable (input : CanonicalRouteMatchInput)

def matchCanonicalRoute (rules : List RoutePrefixRule) : Option RouteMatch :=
  ((rules.filter (fun rule => routeRuleMatches rule input)).foldl replaceBest none).map (fun rule => ⟨rule.label, rule.pathPrefix⟩)

def matchRouteRequestWithContext (input : RouteMatchInput) (rules : List RoutePrefixRule) : Option RouteMatch :=
  (canonicalizeRouteMatchInput input).toOption.bind (fun canonicalInput => matchCanonicalRoute canonicalInput rules)

/-! ## The best match -/

theorem replaceBest_eq_keep : replaceBest = keep RoutePrefixRule.specificityKey := by
  funext best rule
  cases best with
  | none => rfl
  | some matched => simp only [replaceBest, keep, Option.map_some, Option.getD_some, decide_eq_true_eq]

theorem matchCanonicalRoute_eq (rules : List RoutePrefixRule) : matchCanonicalRoute input rules =
      (firstBest RoutePrefixRule.specificityKey (rules.filter (fun rule => routeRuleMatches rule input))).map
        (fun rule => ⟨rule.label, rule.pathPrefix⟩) := by
  rw [matchCanonicalRoute, replaceBest_eq_keep]
  rfl

/-- The route of a request does not depend on the order of the rules, where those that match it differ in their keys. -/
theorem matchCanonicalRoute_congr {rules rules' : List RoutePrefixRule} (hp : rules.Perm rules') (hk : (rules.filter (fun rule => routeRuleMatches rule input)).Pairwise
      (fun r s => r.specificityKey ≠ s.specificityKey)) :
    matchCanonicalRoute input rules = matchCanonicalRoute input rules' := by
  rw [matchCanonicalRoute_eq, matchCanonicalRoute_eq, firstBest_perm (hp.filter _) hk]

/-- **A request gets its best match**: no route exactly when no rule matches; otherwise the label and prefix of a matching
rule that every matching rule before it falls short of and no rule behind it exceeds; and the same route for every order of
the rules, where those that match differ in their keys. -/
theorem matchCanonicalRoute_best (input : CanonicalRouteMatchInput) (rules : List RoutePrefixRule) :
    (matchCanonicalRoute input rules = none ↔ ∀ rule ∈ rules, routeRuleMatches rule input = false) ∧
    (∀ m, matchCanonicalRoute input rules = some m →
      ∃ pre rule post, rules = pre ++ rule :: post ∧ m = ⟨rule.label, rule.pathPrefix⟩ ∧ routeRuleMatches rule input = true ∧
        (∀ r ∈ pre, routeRuleMatches r input = true → r.specificityKey < rule.specificityKey) ∧
        ∀ r ∈ post, routeRuleMatches r input = true → r.specificityKey ≤ rule.specificityKey) ∧
    ∀ rules', rules.Perm rules' →
      (rules.filter (fun rule => routeRuleMatches rule input)).Pairwise (fun r s => r.specificityKey ≠ s.specificityKey) →
      matchCanonicalRoute input rules' = matchCanonicalRoute input rules := by
  refine ⟨?_, fun m hm => ?_, fun rules' hp hk => (matchCanonicalRoute_congr input hp hk).symm⟩
  · rw [matchCanonicalRoute_eq, Option.map_eq_none_iff, firstBest_eq_none, List.filter_eq_nil_iff]
    simp only [Bool.not_eq_true]
  · rw [matchCanonicalRoute_eq, Option.map_eq_some_iff] at hm
    obtain ⟨rule, hb, rfl⟩ := hm
    obtain ⟨pre, post, e, hr, hpre, hpo⟩ := (isFirstBest_of_firstBest hb).of_filter
    exact ⟨pre, rule, post, e, rfl, hr, hpre, hpo⟩

/-- The longer prefix wins over the host. -/
example : matchRouteRequestWithContext ⟨lit "/api/v1?x=1", some (lit "A.example."), none, [], none⟩
    [{ RoutePrefixRule.new (lit "host") (lit "/api") with hostnames := [lit "a.example"] }, .new (lit "v1") (lit "/api/v1"),
      { RoutePrefixRule.new (lit "query") (lit "/api/v1") with queryMatches := [.absent (lit "x")] }]
    = some ⟨lit "v1", lit "/api/v1"⟩ := by decide +kernel

end WayBalancer
