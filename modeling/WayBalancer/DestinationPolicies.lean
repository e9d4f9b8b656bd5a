import WayBalancer.PolicyCompile
/-!
# DestinationPolicies — failure handling per destination, and what destinations share

`destination_policies.rs` of `crates/runtime/src/http1_proxy`: what is recorded for a destination, and what it asks, goes to its
failure manager when the policy for it is bound.  The compiler caches managers by the names of their policies, so two
destinations answer independently of each other exactly when these names differ, or nothing the shared manager counts is ever
asked for (`destinations_independent_iff`).
-/
namespace WayBalancer

open Str Word
open Proc (bind_ok collect_ok except_bind_ok except_map_ok focus_ok ofExcept_ok pure_ok)

variable {α β : Type} {s s' : SharedPolicies} {binding : FailureBinding} {diagnostic : EffectiveRouteDestinationPolicy}
  {absent : α} {f : FailureManager → α × FailureManager}

/-! ## The manager of a destination -/

def FailureManagers.ask {α : Type} (managers : FailureManagers) (manager : Option FailureBinding) (absent : α)
    (f : FailureManager → α × FailureManager) : α × FailureManagers :=
  match manager with
  | none     => (absent, managers)
  | some key => match managers key with
    | none   => (absent, managers)
    | some m => ((f m).1, Function.update managers key (some (f m).2))

def FailureManagers.tell (managers : FailureManagers) (manager : Option FailureBinding) (f : FailureManager → FailureManager) :
    FailureManagers :=
  (managers.ask manager () (fun m => ((), f m))).2

section
variable (destinationPolicy : Option RouteDestinationPolicyRuntime)

def destinationFailureManager (managers : FailureManagers) : Option FailureManager :=
  destinationPolicy.bind (fun policy => policy.failureManager.bind managers)

/-- The count of a request against the retry budget, at the start of `process_uncached_request`. -/
def recordDestinationRequest (now : ℕ) (managers : FailureManagers) : FailureManagers :=
  match destinationPolicy with
  | none        => managers
  | some policy =>
    if policy.enforceRetryBudget then managers.tell policy.failureManager (·.recordBaseRequest now) else managers

/-- The breaker's gate before an attempt. -/
def allowDestinationRequest (now : ℕ) (managers : FailureManagers) : Bool × FailureManagers :=
  match destinationPolicy with
  | none        => (true, managers)
  | some policy =>
    if policy.enforceCircuitBreaker then managers.ask policy.failureManager true (·.allowRequest now) else (true, managers)

def recordDestinationTimeout (now : ℕ) (category : TimeoutCategory) (managers : FailureManagers) : FailureManagers :=
  match destinationPolicy with
  | none        => managers
  | some policy =>
    if policy.enforceTimeoutHierarchy then
      managers.tell policy.failureManager (fun m => (m.recordTimeout category).recordFailure now .timeout)
    else managers

def recordDestinationFailure (now : ℕ) (failure : UpstreamFailureClass) (managers : FailureManagers) : FailureManagers :=
  match destinationPolicy with
  | none        => managers
  | some policy =>
    if policy.enforceCircuitBreaker then managers.tell policy.failureManager (·.recordFailure now failure) else managers

def recordDestinationSuccess (managers : FailureManagers) : FailureManagers :=
  match destinationPolicy with
  | none        => managers
  | some policy =>
    if policy.enforceCircuitBreaker then managers.tell policy.failureManager (·.recordSuccess) else managers

/-- A retry is refused for an ejected endpoint, by the breaker, or by the budget; the two times are those of the two calls. -/
def allowDestinationRetry (failure : UpstreamFailureClass) (ejected : Bool) (requestNow retryNow : ℕ)
    (managers : FailureManagers) : Bool × FailureManagers :=
  match destinationPolicy with
  | none        => (true, managers)
  | some policy =>
    if ejected then (false, managers)
    else match allowDestinationRequest (some policy) requestNow managers with
      | (false, managers) => (false, managers)
      | (true, managers)  =>
        if policy.enforceRetryBudget then
          managers.ask policy.failureManager false (fun m => ((m.allowRetry retryNow failure).1.allowed, (m.allowRetry retryNow failure).2))
        else (true, managers)

end

/-! ## Calls -/

inductive DestinationCall
  | request (now : ℕ)
  | allowRequest (now : ℕ)
  | allowRetry (cause : UpstreamFailureClass) (ejected : Bool) (requestNow retryNow : ℕ)
  | success
  | failure (now : ℕ) (cause : UpstreamFailureClass)
  | timeout (now : ℕ) (category : TimeoutCategory)
deriving DecidableEq, Repr

def DestinationCall.run (policy : RouteDestinationPolicyRuntime) (managers : FailureManagers) : DestinationCall → Bool × FailureManagers
  | .request now                                  => (true, recordDestinationRequest (some policy) now managers)
  | .allowRequest now                             => allowDestinationRequest (some policy) now managers
  | .allowRetry cause ejected requestNow retryNow =>
    allowDestinationRetry (some policy) cause ejected requestNow retryNow managers
  | .success                                      => (true, recordDestinationSuccess (some policy) managers)
  | .failure now cause                            => (true, recordDestinationFailure (some policy) now cause managers)
  | .timeout now category                         => (true, recordDestinationTimeout (some policy) now category managers)

inductive Side
  | first
  | second
deriving DecidableEq, Repr

def Side.pick {α : Type} (first second : α) : Side → α
  | .first  => first
  | .second => second

section
variable (first second : RouteDestinationPolicyRuntime)

def runCalls (managers : FailureManagers) (calls : List (Side × DestinationCall)) : FailureManagers :=
  calls.foldl (fun managers call => (call.2.run (call.1.pick first second) managers).2) managers

def answers (managers : FailureManagers) : List (Side × DestinationCall) → List Bool
  | [] => []
  | (.first, call) :: rest  => answers (call.run first managers).2 rest
  | (.second, call) :: rest => (call.run second managers).1 :: answers (call.run second managers).2 rest

def ownCalls (calls : List (Side × DestinationCall)) : List (Side × DestinationCall) := calls.filter (fun call => call.1 = .second)

/-- No call for the first destination changes what the second is answered. -/
def Independent (managers : FailureManagers) : Prop :=
  ∀ calls, answers first second managers calls = answers first second managers (ownCalls calls)

end

/-! ## Bindings -/

section
variable (config : WorkspaceConfig) (listener : ListenerResourceConfig)

/-- The three policies bound to a destination of a route: its own, else the route's, else the listener's; of destinations with
one cluster the last in the route's order counts. -/
def destinationBinding (routeName upstreamCluster : Text) : Option FailureBinding := do
  let route ← config.findRoute routeName
  let destination ← route.normalizedDestinations.reverse.find? (fun destination => destination.upstreamCluster = upstreamCluster)
  let name := effectiveName listener route destination
  return ⟨name (·.retryBudget), name (·.timeoutHierarchy), name (·.circuitBreaker)⟩

/-- Nothing a manager of these policies counts is ever answered: no breaker is bound, and the retry budget, if one is, never
has a token. -/
def FailureBinding.Inert (binding : FailureBinding) : Prop :=
  binding.circuitBreaker = none ∧ ∀ name ∈ binding.retryBudget, ∀ spec ∈ findPolicy config.policies.retryBudgets name,
    spec.minRetryTokens = 0 ∧ spec.retryPercent = 0

end

/-! ## What the compiler returns -/

section
variable {config : WorkspaceConfig}

theorem resolveShared_ok {κ : Type} [DecidableEq κ] {key k : κ} {build : Except PolicyCompileError α} {c c' : κ → Option α}
    (h : resolveShared key build c = (.ok k, c')) : k = key ∧ ((c key).isSome = true ∧ c' = c ∨
      ∃ object, build = .ok object ∧ c' = Function.update c key (some object)) := by
  obtain ⟨_, _, hget, h⟩ := bind_ok.1 h
  obtain ⟨rfl, rfl⟩ := Proc.get_ok.1 hget
  split at h
  · rename_i hs
    obtain ⟨rfl, rfl⟩ := pure_ok.1 h
    exact ⟨rfl, .inl ⟨hs, rfl⟩⟩
  · obtain ⟨object, _, hobj, h⟩ := bind_ok.1 h
    obtain ⟨hbui, rfl⟩ := ofExcept_ok.1 hobj
    obtain ⟨_, _, hupd, h⟩ := bind_ok.1 h
    obtain rfl := Proc.update_ok.1 hupd
    obtain ⟨rfl, rfl⟩ := pure_ok.1 h
    exact ⟨rfl, .inr ⟨object, hbui, rfl⟩⟩

variable (config) in
/-- Every manager is the one its policies make. -/
def Built (shared : SharedPolicies) : Prop :=
  ∀ binding m, shared.failureManagers binding = some m → buildFailureManager config binding = .ok m

variable (config) in
/-- What a step of the compilation keeps: the managers that are there stay, and new ones are as they are built. -/
def Extends (s s' : SharedPolicies) : Prop :=
  (Built config s → Built config s') ∧ ∀ binding, (s.failureManagers binding).isSome = true → (s'.failureManagers binding).isSome = true

theorem Extends.refl (s : SharedPolicies) : Extends config s s := ⟨id, fun _ => id⟩

theorem Extends.trans {s'' : SharedPolicies} (h : Extends config s s') (h' : Extends config s' s'') : Extends config s s'' :=
  ⟨h'.1 ∘ h.1, fun binding hb => h'.2 binding (h.2 binding hb)⟩

theorem extends_of_eq (h : s'.failureManagers = s.failureManagers) : Extends config s s' := by
  unfold Extends Built
  rw [h]
  exact ⟨id, fun _ => id⟩

theorem extends_insert {m : FailureManager} (hbui : buildFailureManager config binding = .ok m) :
    Extends config s { s with failureManagers := Function.update s.failureManagers binding (some m) } := by
  constructor
  · intro hbu other m' hm'
    by_cases hb : other = binding
    · subst hb
      simp only [Function.update_self, Option.some.injEq] at hm'
      rw [hbui, hm']
    · simp only [Function.update_of_ne hb] at hm'
      exact hbu other m' hm'
  · intro other hoth
    by_cases hb : other = binding
    · subst hb
      simp
    · simp only [Function.update_of_ne hb]
      exact hoth

theorem collect_limiters {f : Text → Proc SharedPolicies PolicyCompileError Text}
    (hf : ∀ name s name' s', f name s = (.ok name', s') → s'.failureManagers = s.failureManagers) {names names' : List Text}
    (h : Proc.collect f names s = (.ok names', s')) : s'.failureManagers = s.failureManagers := by
  have hcol := collect_ok (R := fun s s' : SharedPolicies => s'.failureManagers = s.failureManagers)
    (Q := fun _ _ _ => True) ?_ ?_ ?_ ?_ h
  · exact hcol.1
  · exact fun _ => rfl
  · exact fun _ _ _ hs hs' => hs'.trans hs
  · exact fun _ _ _ _ _ _ => trivial
  · exact fun name s name' s' h => ⟨hf name s name' s' h, trivial⟩

def FailureBinding.manager (binding : FailureBinding) : Option FailureBinding := if binding.isEmpty then none else some binding

theorem resolveDestinationFailureManager_ok {manager : Option FailureBinding}
    (h : resolveDestinationFailureManager config diagnostic s = (.ok manager, s')) :
    Extends config s s' ∧ manager = diagnostic.failureBinding.manager ∧
      ∀ binding ∈ manager, (s'.failureManagers binding).isSome = true := by
  unfold resolveDestinationFailureManager at h
  unfold FailureBinding.manager
  split at h
  · rename_i hemp
    obtain ⟨rfl, rfl⟩ := pure_ok.1 h
    exact ⟨.refl _, by rw [if_pos hemp], fun binding hb => by cases hb⟩
  · rename_i hemp
    obtain ⟨key, _, hkey, h⟩ := bind_ok.1 h
    obtain ⟨rfl, rfl⟩ := pure_ok.1 h
    obtain ⟨cache, hsh, rfl⟩ := focus_ok.1 hkey
    obtain ⟨rfl, ⟨hs, rfl⟩ | ⟨m, hbui, rfl⟩⟩ := resolveShared_ok hsh
    · refine ⟨extends_of_eq rfl, by rw [if_neg hemp], ?_⟩
      rintro binding ⟨⟩
      exact hs
    · refine ⟨extends_insert hbui, by rw [if_neg hemp], ?_⟩
      rintro binding ⟨⟩
      simp

/-- What a runtime takes from the policies that apply to its destination. -/
structure RuntimeOf (binding : FailureBinding) (runtime : RouteDestinationPolicyRuntime) : Prop where
  manager : runtime.failureManager = binding.manager
  retryBudget : runtime.enforceRetryBudget = binding.retryBudget.isSome
  timeoutHierarchy : runtime.enforceTimeoutHierarchy = binding.timeoutHierarchy.isSome
  circuitBreaker : runtime.enforceCircuitBreaker = binding.circuitBreaker.isSome

structure CompiledOf (diagnostic : EffectiveRouteDestinationPolicy) (entry : Text × RouteDestinationPolicyRuntime)
    (shared : SharedPolicies) : Prop where
  cluster : entry.1 = diagnostic.upstreamCluster
  runtime : RuntimeOf diagnostic.failureBinding entry.2
  shared : ∀ binding ∈ entry.2.failureManager, (shared.failureManagers binding).isSome = true

theorem compileDestinationRuntime_ok {entry : Text × RouteDestinationPolicyRuntime}
    (h : compileDestinationRuntime config diagnostic s = (.ok entry, s')) :
    Extends config s s' ∧ CompiledOf diagnostic entry s' := by
  obtain ⟨rateLimiters, s₁, h₁, h⟩ := bind_ok.1 h
  obtain ⟨concurrencyLimiters, s₂, h₂, h⟩ := bind_ok.1 h
  obtain ⟨manager, s₃, h₃, h⟩ := bind_ok.1 h
  obtain ⟨mirror, _, hmir, h⟩ := bind_ok.1 h
  obtain ⟨-, rfl⟩ := ofExcept_ok.1 hmir
  obtain ⟨fault, _, hfau, h⟩ := bind_ok.1 h
  obtain ⟨-, rfl⟩ := ofExcept_ok.1 hfau
  obtain ⟨rfl, rfl⟩ := pure_ok.1 h
  have hlim : s₂.failureManagers = s.failureManagers := by
    refine (collect_limiters (fun _ _ _ _ h => ?_) h₂).trans (collect_limiters (fun _ _ _ _ h => ?_) h₁)
    all_goals
      obtain ⟨_, -, rfl⟩ := focus_ok.1 h
      rfl
  obtain ⟨hext, hman, hsh⟩ := resolveDestinationFailureManager_ok h₃
  exact ⟨(extends_of_eq hlim).trans hext, rfl, ⟨hman, rfl, rfl, rfl⟩, hsh⟩

theorem find?_reverse_of_forall₂ {p : α → Bool} {q : β → Bool} {Q : α → β → Prop} {xs : List α} {ys : List β}
    (h : List.Forall₂ (fun x y => q y = p x ∧ Q x y) xs ys) {y : β} (hy : ys.reverse.find? q = some y) :
    ∃ x, xs.reverse.find? p = some x ∧ Q x y := by
  have hrev := List.forall₂_reverse_iff.2 h
  generalize xs.reverse = xs' at hrev ⊢
  generalize ys.reverse = ys' at hrev hy
  induction hrev with
  | nil => cases hy
  | @cons x y' xs ys hxy _ ih =>
    rw [List.find?_cons] at hy ⊢
    rw [hxy.1] at hy
    cases hp : p x with
    | true =>
      simp only [hp, Option.some.injEq] at hy ⊢
      exact ⟨x, rfl, hy ▸ hxy.2⟩
    | false =>
      simp only [hp] at hy ⊢
      exact ih hy

theorem get?_ofList_of_forall₂ {γ : Type} {key : α → Text} {Q : α → Text × γ → Prop} {xs : List α} {ys : List (Text × γ)}
    (h : List.Forall₂ (fun x y => y.1 = key x ∧ Q x y) xs ys) {k : Text} {v : γ} (hv : (SortedMap.ofList ys).get? k = some v) :
    ∃ x, xs.reverse.find? (fun x => key x = k) = some x ∧ Q x (k, v) := by
  rw [SortedMap.get?_ofList, Option.map_eq_some_iff] at hv
  obtain ⟨found, hfd, rfl⟩ := hv
  obtain rfl : found.1 = k := by simpa using List.find?_some hfd
  exact find?_reverse_of_forall₂ (h.imp fun _ _ hxy => ⟨by simp only [hxy.1], hxy.2⟩) hfd

/-- What a compiled route is: every runtime in it is that of the last diagnostic with its cluster. -/
structure CompiledRoute (entry : Text × List EffectiveRouteDestinationPolicy)
    (route : Text × SortedMap Text RouteDestinationPolicyRuntime) (shared : SharedPolicies) : Prop where
  name : route.1 = entry.1
  runtime : ∀ cluster runtime, route.2.get? cluster = some runtime →
    ∃ diagnostic, entry.2.reverse.find? (fun diagnostic => diagnostic.upstreamCluster = cluster) = some diagnostic ∧
      RuntimeOf diagnostic.failureBinding runtime ∧
      ∀ binding ∈ runtime.failureManager, (shared.failureManagers binding).isSome = true

theorem compileRouteRuntime_ok {entry : Text × List EffectiveRouteDestinationPolicy}
    {route : Text × SortedMap Text RouteDestinationPolicyRuntime} (h : compileRouteRuntime config entry s = (.ok route, s')) :
    Extends config s s' ∧ CompiledRoute entry route s' := by
  obtain ⟨dests, shared', hcol, h⟩ := bind_ok.1 h
  obtain ⟨rfl, rfl⟩ := pure_ok.1 h
  have hr := collect_ok (R := Extends config) (Q := CompiledOf) ?_ ?_ ?_ ?_ hcol
  · obtain ⟨hext, hall⟩ := hr
    refine ⟨hext, rfl, fun cluster runtime hget => ?_⟩
    obtain ⟨diagnostic, hdia, hcmp⟩ := get?_ofList_of_forall₂ (hall.imp fun _ _ hent => ⟨hent.cluster, hent⟩) hget
    exact ⟨diagnostic, hdia, hcmp.runtime, hcmp.shared⟩
  · exact Extends.refl
  · exact fun _ _ _ => Extends.trans
  · exact fun _ _ s s' hR hQ => ⟨hQ.cluster, hQ.runtime, fun binding hb => hR.2 binding (hQ.shared binding hb)⟩
  · exact fun _ _ _ _ => compileDestinationRuntime_ok

/-- **A compiled runtime is that of the diagnostic it came from**, and the managers are as their policies make them. -/
theorem compileRouteDestinationPolicyRuntime_ok {diagnostics : SortedMap Text (List EffectiveRouteDestinationPolicy)}
    {policies : RouteDestinationPolicies} {shared : SharedPolicies}
    (h : compileRouteDestinationPolicyRuntime config diagnostics = (.ok policies, shared)) :
    Built config shared ∧ ∀ route cluster runtime, policies.find route cluster = some runtime →
      ∃ ds diagnostic, diagnostics.get? route = some ds ∧
        ds.reverse.find? (fun diagnostic => diagnostic.upstreamCluster = cluster) = some diagnostic ∧
        RuntimeOf diagnostic.failureBinding runtime ∧
        ∀ binding ∈ runtime.failureManager, (shared.failureManagers binding).isSome = true := by
  obtain ⟨rs, shared', hcol, h⟩ := bind_ok.1 h
  obtain ⟨rfl, rfl⟩ := pure_ok.1 h
  have hr := collect_ok (R := Extends config) (Q := CompiledRoute) ?_ ?_ ?_ ?_ hcol
  · obtain ⟨hext, hall⟩ := hr
    refine ⟨hext.1 (fun binding m hm => by cases hm), fun route cluster runtime hf => ?_⟩
    obtain ⟨dests, hrt, hde⟩ := Option.bind_eq_some_iff.1 hf
    obtain ⟨entry, hent, hcmp⟩ := get?_ofList_of_forall₂ (hall.imp fun _ _ hcmp => ⟨hcmp.name, hcmp⟩) hrt
    obtain ⟨diagnostic, hd, hrun, hsh⟩ := hcmp.runtime cluster runtime hde
    have hmem : entry ∈ diagnostics.entries := List.mem_reverse.1 (List.mem_of_find?_eq_some hent)
    have hkey : entry.1 = route := by simpa using List.find?_some hent
    exact ⟨entry.2, diagnostic, SortedMap.get?_eq_some.2 (hkey ▸ hmem), hd, hrun, hsh⟩
  · exact Extends.refl
  · exact fun _ _ _ => Extends.trans
  · intro entry route s s' hR hQ
    refine ⟨hQ.name, fun cluster runtime hget => ?_⟩
    obtain ⟨diagnostic, hf, hrun, hsh⟩ := hQ.runtime cluster runtime hget
    exact ⟨diagnostic, hf, hrun, fun binding hb => hR.2 binding (hsh binding hb)⟩
  · exact fun _ _ _ _ => compileRouteRuntime_ok

end

/-! ## Where the bindings come from -/

section
variable {config : WorkspaceConfig} {listener : ListenerResourceConfig}

theorem policyOr_ok {found : Option α} {text : Text} {a : α} (h : policyOr found text = .ok a) : found = some a := by
  cases found with
  | none => cases h
  | some b => exact congrArg some (Except.ok.inj h)

theorem effectiveDestinationPolicy_ok {listenerTransforms routeTransforms : Option TransformPolicyConfig}
    {route : RouteConfig} {destination : RouteDestinationConfig}
    (h : effectiveDestinationPolicy config listener listenerTransforms routeTransforms route destination = .ok diagnostic) :
    diagnostic.upstreamCluster = destination.upstreamCluster ∧
      diagnostic.failureBinding = ⟨effectiveName listener route destination (·.retryBudget),
        effectiveName listener route destination (·.timeoutHierarchy), effectiveName listener route destination (·.circuitBreaker)⟩ := by
  obtain ⟨cluster, -, h⟩ := except_bind_ok.1 h
  obtain ⟨transforms, -, h⟩ := except_bind_ok.1 h
  obtain rfl := Except.ok.inj h
  exact ⟨rfl, rfl⟩

theorem effectiveRoutePolicies_ok {listenerTransforms : Option TransformPolicyConfig} {routeName : Text}
    {entry : Text × List EffectiveRouteDestinationPolicy}
    (h : effectiveRoutePolicies config listener listenerTransforms routeName = .ok entry) :
    entry.1 = routeName ∧ ∀ cluster diagnostic,
      entry.2.reverse.find? (fun diagnostic => diagnostic.upstreamCluster = cluster) = some diagnostic →
        destinationBinding config listener routeName cluster = some diagnostic.failureBinding := by
  obtain ⟨route, hrt, h⟩ := except_bind_ok.1 h
  obtain ⟨transforms, -, h⟩ := except_bind_ok.1 h
  obtain ⟨diagnostics, hmap, h⟩ := except_bind_ok.1 h
  obtain rfl := Except.ok.inj h
  have hfd := policyOr_ok hrt
  have hn : route.name = routeName := by simpa using List.find?_some hfd
  refine ⟨hn, fun cluster diagnostic hdia => ?_⟩
  obtain ⟨dest, hd, hb⟩ := find?_reverse_of_forall₂ (p := fun dest : RouteDestinationConfig => decide (dest.upstreamCluster = cluster))
    (Q := fun dest diagnostic => diagnostic.failureBinding = ⟨effectiveName listener route dest (·.retryBudget),
      effectiveName listener route dest (·.timeoutHierarchy), effectiveName listener route dest (·.circuitBreaker)⟩)
    ((Proc.except_mapM_ok.1 hmap).imp fun dest diagnostic hok =>
      ⟨by simp only [(effectiveDestinationPolicy_ok hok).1], (effectiveDestinationPolicy_ok hok).2⟩) hdia
  simp only [destinationBinding, hfd, hd, hb, Option.bind_eq_bind, Option.bind_some, Option.pure_def]

theorem diagnostics_binding {diagnostics : SortedMap Text (List EffectiveRouteDestinationPolicy)}
    (h : resolveEffectiveRouteBackendPolicyDiagnostics config listener = .ok diagnostics) {route cluster : Text}
    {ds : List EffectiveRouteDestinationPolicy} (hrt : diagnostics.get? route = some ds)
    (hf : ds.reverse.find? (fun diagnostic => diagnostic.upstreamCluster = cluster) = some diagnostic) :
    destinationBinding config listener route cluster = some diagnostic.failureBinding := by
  obtain ⟨transforms, -, h⟩ := except_bind_ok.1 h
  obtain ⟨rs, hmap, h⟩ := except_bind_ok.1 h
  obtain rfl := Except.ok.inj h
  have hall : ∀ entry ∈ rs, ∀ cluster diagnostic,
      entry.2.reverse.find? (fun diagnostic => diagnostic.upstreamCluster = cluster) = some diagnostic →
        destinationBinding config listener entry.1 cluster = some diagnostic.failureBinding := by
    refine Proc.forall_of_mapM_ok ?_ hmap
    intro rn entry hok cluster diagnostic hd
    rw [(effectiveRoutePolicies_ok hok).1]
    exact (effectiveRoutePolicies_ok hok).2 cluster diagnostic hd
  exact hall _ (SortedMap.mem_of_get?_ofList hrt) cluster diagnostic hf

end

/-! ## Frames -/

section
variable {policy : RouteDestinationPolicyRuntime} {managers managers' : FailureManagers}

theorem ask_frame {manager : Option FailureBinding} {key : FailureBinding} (h : manager ≠ some key) :
    (managers.ask manager absent f).2 key = managers key := by
  unfold FailureManagers.ask
  split
  · rfl
  · split
    · rfl
    · exact Function.update_of_ne (fun e => h (congrArg some e.symm)) _ _

theorem ask_own {manager : Option FailureBinding} (h : ∀ key ∈ manager, managers key = managers' key) :
    (managers.ask manager absent f).1 = (managers'.ask manager absent f).1 ∧
      ∀ key ∈ manager, (managers.ask manager absent f).2 key = (managers'.ask manager absent f).2 key := by
  unfold FailureManagers.ask
  cases manager with
  | none => exact ⟨rfl, fun key hkey => by cases hkey⟩
  | some key =>
    have hkey := h key rfl
    simp only [hkey]
    cases hm : managers' key with
    | none =>
      refine ⟨rfl, ?_⟩
      rintro _ ⟨⟩
      exact hkey
    | some m =>
      refine ⟨rfl, ?_⟩
      rintro _ ⟨⟩
      simp

theorem ask_keeps {φ : FailureManager → β} {manager : Option FailureBinding} (h : ∀ m, φ (f m).2 = φ m) {key : FailureBinding} :
    ((managers.ask manager absent f).2 key).map φ = (managers key).map φ := by
  unfold FailureManagers.ask
  cases manager with
  | none => rfl
  | some own =>
    cases hm : managers own with
    | none => simp only [hm]
    | some m =>
      simp only [hm]
      by_cases hk : key = own
      · subst hk
        rw [Function.update_self, hm, Option.map_some, Option.map_some, h]
      · rw [Function.update_of_ne hk]

/-- Two questions, the second one asked if the first is answered with `true`. -/
def andThen (x y : FailureManagers → Bool × FailureManagers) (managers : FailureManagers) : Bool × FailureManagers :=
  match x managers with
  | (false, managers) => (false, managers)
  | (true, managers)  => y managers

theorem tell_eq_ask {manager : Option FailureBinding} {f : FailureManager → FailureManager} :
    (true, managers.tell manager f) = managers.ask manager true (fun m => (true, f m)) := by
  unfold FailureManagers.tell FailureManagers.ask
  cases manager with
  | none => rfl
  | some key => cases h : managers key <;> simp only [h]

/-- **The rule of calls**: what holds of a known answer, of a question to the destination's manager that keeps the policy of its
budget, and of two of them in a row, holds of every call. -/
theorem run_rule {P : (FailureManagers → Bool × FailureManagers) → Prop} (hkn : ∀ answer, P (fun managers => (answer, managers)))
    (hask : ∀ absent f, (∀ m : FailureManager, (f m).2.retryBudget.policy = m.retryBudget.policy) →
      P (fun managers => managers.ask policy.failureManager absent f))
    (ht : ∀ x y, P x → P y → P (andThen x y)) (call : DestinationCall) : P (fun managers => call.run policy managers) := by
  have hte : ∀ (enf : Bool) (f : FailureManager → FailureManager), (∀ m, (f m).retryBudget.policy = m.retryBudget.policy) →
      P (fun managers => (true, if enf then managers.tell policy.failureManager f else managers)) := by
    intro enf f hf
    cases enf with
    | false => exact hkn true
    | true =>
      simp only [if_true, tell_eq_ask]
      exact hask true (fun m => (true, f m)) hf
  have hreq : ∀ now, P (allowDestinationRequest (some policy) now) := by
    intro now
    show P (fun managers => if policy.enforceCircuitBreaker then managers.ask policy.failureManager true (·.allowRequest now)
      else (true, managers))
    cases policy.enforceCircuitBreaker with
    | false => exact hkn true
    | true => exact hask true (·.allowRequest now) (fun m => rfl)
  cases call with
  | request now => exact hte _ _ (fun m => rfl)
  | allowRequest now => exact hreq now
  | success => exact hte _ _ (fun m => rfl)
  | failure now cause => exact hte _ _ (fun m => rfl)
  | timeout now cat => exact hte _ _ (fun m => rfl)
  | allowRetry cause ejected requestNow retryNow =>
    have hret : ∀ m : FailureManager, (m.allowRetry retryNow cause).2.retryBudget.policy = m.retryBudget.policy := by
      intro m
      unfold FailureManager.allowRetry
      split
      · exact RetryBudget.policy_allowRetry _ _
      · rfl
    cases ejected with
    | true => exact hkn false
    | false =>
      have hbud : P (fun managers => if policy.enforceRetryBudget then
          managers.ask policy.failureManager false (fun m => ((m.allowRetry retryNow cause).1.allowed, (m.allowRetry retryNow cause).2))
          else (true, managers)) := by
        cases policy.enforceRetryBudget with
        | false => exact hkn true
        | true => exact hask false _ hret
      exact ht _ _ (hreq requestNow) hbud

theorem run_keeps (φ : FailureManagers → β) (hask : ∀ (absent : Bool) f, (∀ m : FailureManager, (f m).2.retryBudget.policy =
    m.retryBudget.policy) → ∀ managers, φ (managers.ask policy.failureManager absent f).2 = φ managers)
    (managers : FailureManagers) (call : DestinationCall) : φ (call.run policy managers).2 = φ managers := by
  refine run_rule (P := fun x => ∀ managers, φ (x managers).2 = φ managers) (fun _ _ => rfl) hask ?_ call managers
  intro x y hx hy managers
  unfold andThen
  have hk := hx managers
  rcases ha : x managers with ⟨answer, after⟩
  rw [ha] at hk
  cases answer with
  | false => exact hk
  | true => exact (hy after).trans hk

variable {call : DestinationCall}

/-- **A call for a destination changes no manager but its own.** -/
theorem run_frame {key : FailureBinding} (h : policy.failureManager ≠ some key) : (call.run policy managers).2 key = managers key :=
  run_keeps (· key) (fun _ _ _ _ => ask_frame h) managers call

/-- **A call is answered from the destination's own manager.** -/
theorem run_own (h : ∀ key ∈ policy.failureManager, managers key = managers' key) (call : DestinationCall) :
    (call.run policy managers).1 = (call.run policy managers').1 ∧
      ∀ key ∈ policy.failureManager, (call.run policy managers).2 key = (call.run policy managers').2 key := by
  refine run_rule (P := fun x => ∀ managers managers', (∀ key ∈ policy.failureManager, managers key = managers' key) →
    (x managers).1 = (x managers').1 ∧ ∀ key ∈ policy.failureManager, (x managers).2 key = (x managers').2 key)
    ?_ ?_ ?_ call managers managers' h
  · exact fun answer managers managers' h => ⟨rfl, h⟩
  · exact fun absent f _ managers managers' h => ask_own h
  · intro x y hx hy managers managers' h
    obtain ⟨hans, hk⟩ := hx managers managers' h
    unfold andThen
    rcases hask : x managers with ⟨answer, after⟩
    rcases hask' : x managers' with ⟨answer', after'⟩
    rw [hask, hask'] at hans hk
    obtain rfl : answer = answer' := hans
    cases answer with
    | false => exact ⟨rfl, hk⟩
    | true => exact hy after after' hk

theorem run_budgetPolicy {key : FailureBinding} :
    ((call.run policy managers).2 key).map (·.retryBudget.policy) = (managers key).map (·.retryBudget.policy) :=
  run_keeps (fun managers => (managers key).map (·.retryBudget.policy)) (fun _ _ hf _ => ask_keeps hf) managers call

end

/-! ## Independence -/

section
variable {first second : RouteDestinationPolicyRuntime}

/-- **Two runs with the same answers**: a relation between their managers that the first destination's calls keep on the one side,
and the second's on both, with the same answer. -/
theorem answers_eq_of_rel {R : FailureManagers → FailureManagers → Prop}
    (hfirst : ∀ (call : DestinationCall) managers managers', R managers managers' → R (call.run first managers).2 managers')
    (hsecond : ∀ (call : DestinationCall) managers managers', R managers managers' → (call.run second managers).1 = (call.run second managers').1 ∧
      R (call.run second managers).2 (call.run second managers').2) :
    ∀ (calls : List (Side × DestinationCall)) {managers managers' : FailureManagers}, R managers managers' →
      answers first second managers calls = answers first second managers' (ownCalls calls)
  | [], _, _, _ => rfl
  | (.first, call) :: rest, managers, managers', hR => by
    exact answers_eq_of_rel hfirst hsecond rest (hfirst call managers managers' hR)
  | (.second, call) :: rest, managers, managers', hR => by
    obtain ⟨hans, hR'⟩ := hsecond call managers managers' hR
    show (call.run second managers).1 :: answers first second (call.run second managers).2 rest =
      (call.run second managers').1 :: answers first second (call.run second managers').2 (ownCalls rest)
    rw [hans, answers_eq_of_rel hfirst hsecond rest hR']

theorem independent_of_ne {managers : FailureManagers}
    (h : ∀ key ∈ second.failureManager, first.failureManager ≠ some key) : Independent first second managers := by
  intro calls
  apply answers_eq_of_rel (R := fun managers managers' => ∀ key ∈ second.failureManager, managers key = managers' key)
  · intro call managers managers' hR key hkey
    rw [run_frame (h key hkey)]
    exact hR key hkey
  · intro call managers managers' hR
    exact run_own hR call
  · exact fun _ _ => rfl

/-- The budget of the destination's manager, where it is asked, never has a token. -/
def EmptyBudget (policy : RouteDestinationPolicyRuntime) (managers : FailureManagers) : Prop :=
  policy.enforceRetryBudget = true → ∀ key ∈ policy.failureManager, ∀ budget ∈ (managers key).map (·.retryBudget.policy),
    budget.minRetryTokens = 0 ∧ budget.retryPercent = 0

variable {managers : FailureManagers} {policy : RouteDestinationPolicyRuntime}

theorem emptyBudget_run (h : EmptyBudget policy managers) {other : RouteDestinationPolicyRuntime} {call : DestinationCall} :
    EmptyBudget policy (call.run other managers).2 := by
  intro henf key hkey bud hbud
  rw [run_budgetPolicy] at hbud
  exact h henf key hkey bud hbud

theorem ask_emptyBudget (h : EmptyBudget policy managers) (henf : policy.enforceRetryBudget = true) {now : ℕ}
    {cause : UpstreamFailureClass} :
    (managers.ask policy.failureManager false (fun m => ((m.allowRetry now cause).1.allowed, (m.allowRetry now cause).2))).1 = false := by
  unfold FailureManagers.ask
  split
  · rfl
  · rename_i key hkey
    split
    · rfl
    · rename_i m hm
      obtain ⟨htok, hper⟩ := h henf key hkey m.retryBudget.policy (by rw [hm]; rfl)
      unfold FailureManager.allowRetry
      split
      · exact RetryBudget.allowRetry_of_zero htok hper now
      · rfl

theorem run_of_emptyBudget (hbrk : policy.enforceCircuitBreaker = false) (h : EmptyBudget policy managers)
    {call : DestinationCall} : (call.run policy managers).1 = match call with
      | .allowRetry _ ejected _ _ => !ejected && !policy.enforceRetryBudget
      | _ => true := by
  cases call with
  | request now => rfl
  | allowRequest now => simp [DestinationCall.run, allowDestinationRequest, hbrk]
  | success => rfl
  | failure now cause => rfl
  | timeout now cat => rfl
  | allowRetry cause ejected requestNow retryNow =>
    simp only [DestinationCall.run, allowDestinationRetry, allowDestinationRequest, hbrk, Bool.false_eq_true, if_false]
    cases ejected with
    | true => rfl
    | false =>
      cases henf : policy.enforceRetryBudget with
      | true => simpa using ask_emptyBudget h henf
      | false => rfl

theorem independent_of_emptyBudget (hbrk : second.enforceCircuitBreaker = false) (h : EmptyBudget second managers) :
    Independent first second managers := by
  intro calls
  apply answers_eq_of_rel (R := fun managers managers' => EmptyBudget second managers ∧ EmptyBudget second managers')
  · intro call managers managers' hR
    exact ⟨emptyBudget_run hR.1, hR.2⟩
  · intro call managers managers' hR
    rw [run_of_emptyBudget hbrk hR.1, run_of_emptyBudget hbrk hR.2]
    exact ⟨rfl, emptyBudget_run hR.1, emptyBudget_run hR.2⟩
  · exact ⟨h, h⟩

end

/-! ## Sharing -/

section
variable {first second : RouteDestinationPolicyRuntime} {key : FailureBinding}

theorem runCalls_replicate {call : DestinationCall} {f : FailureManager → FailureManager}
    (hf : ∀ managers m, managers key = some m → (call.run first managers).2 key = some (f m)) :
    ∀ (n : ℕ) {managers : FailureManagers} {m : FailureManager}, managers key = some m →
      runCalls first second managers (List.replicate n (.first, call)) key = some (f^[n] m)
  | 0, _, _, h => h
  | n + 1, managers, m, h => runCalls_replicate hf n (hf managers m h)

theorem answers_replicate {call : DestinationCall} {rest : List (Side × DestinationCall)} :
    ∀ (n : ℕ) (managers : FailureManagers), answers first second managers (List.replicate n (.first, call) ++ rest) =
      answers first second (runCalls first second managers (List.replicate n (.first, call))) rest
  | 0, _ => rfl
  | n + 1, managers => answers_replicate n (call.run first managers).2

/-- **Interference**: calls for the first destination that bring its manager to where the second, who asks the same manager, is
answered otherwise. -/
theorem not_independent (call question : DestinationCall) (f : FailureManager → FailureManager) (g : FailureManager → Bool) (n : ℕ)
    (hf : ∀ managers m, managers key = some m → (call.run first managers).2 key = some (f m))
    (hg : ∀ managers m, managers key = some m → (question.run second managers).1 = g m)
    {managers : FailureManagers} {m : FailureManager} (hm : managers key = some m) (hne : g (f^[n] m) ≠ g m) :
    ¬ Independent first second managers := by
  intro hind
  have hcal := hind (List.replicate n (.first, call) ++ [(.second, question)])
  have hown : ownCalls (List.replicate n (.first, call) ++ [(.second, question)]) = [(.second, question)] := by
    rw [ownCalls, List.filter_append, List.filter_replicate]
    rfl
  rw [hown, answers_replicate] at hcal
  have hhead : (question.run second (runCalls first second managers (List.replicate n (.first, call)))).1 =
      (question.run second managers).1 := (List.cons.inj hcal).1
  rw [hg _ _ (runCalls_replicate hf n hm), hg _ _ hm] at hhead
  exact hne hhead

theorem ask_of_some {managers : FailureManagers} {m : FailureManager} (hm : managers key = some m) :
    managers.ask (some key) absent f = ((f m).1, Function.update managers key (some (f m).2)) := by
  simp only [FailureManagers.ask, hm]

theorem tell_of_some {managers : FailureManagers} {m : FailureManager} (hm : managers key = some m)
    {f : FailureManager → FailureManager} : managers.tell (some key) f key = some (f m) := by
  rw [FailureManagers.tell, ask_of_some hm]
  exact Function.update_self _ _ _

variable {managers : FailureManagers} {m : FailureManager} {retry : RetryBudgetPolicy} {timeouts : TimeoutHierarchy}
  {breaker : CircuitBreakerPolicy}
variable (hfirst : first.failureManager = some key) (hsecond : second.failureManager = some key) (hm : managers key = some m)
  (hnew : FailureManager.new retry timeouts breaker = .ok m)
include hfirst hsecond hm hnew

/-- A shared breaker: failures of the first destination shut the second one out. -/
theorem not_independent_of_breaker (hbrk : first.enforceCircuitBreaker = true) (hbrk' : second.enforceCircuitBreaker = true) :
    ¬ Independent first second managers := by
  obtain ⟨-, -, hbreakerNew⟩ := FailureManager.new_ok hnew
  obtain ⟨hthr, -, hdur, hfre⟩ := CircuitBreaker.new_ok hbreakerNew
  obtain ⟨n, hn⟩ := Nat.exists_eq_add_of_lt hthr
  have hite : ∀ k, ((fun m : FailureManager => m.recordFailure 0 .connect)^[k] m).circuitBreaker =
      (fun b : CircuitBreaker => b.recordFailure 0 .connect)^[k] m.circuitBreaker := fun k =>
    Function.Semiconj.iterate_right (f := FailureManager.circuitBreaker) (fun _ => rfl) k m
  have ho : (((fun m : FailureManager => m.recordFailure 0 .connect)^[n + 1] m).circuitBreaker.allowRequest 0).1 = false := by
    rw [hite, hfre]
    apply CircuitBreaker.failures_open
    · rfl
    · exact hdur.ne'
    · dsimp only
      omega
  have hclo : (m.circuitBreaker.allowRequest 0).1 = true := by
    rw [hfre]
    simp [CircuitBreaker.allowRequest, CircuitBreaker.cooledDown]
  refine not_independent (.failure 0 .connect) (.allowRequest 0) (fun m => m.recordFailure 0 .connect)
    (fun m => (m.circuitBreaker.allowRequest 0).1) (n + 1) ?_ ?_ hm ?_
  · intro managers m hm
    simp only [DestinationCall.run, recordDestinationFailure, hbrk, if_true, hfirst]
    exact tell_of_some hm
  · intro managers m hm
    simp only [DestinationCall.run, allowDestinationRequest, hbrk', if_true, hsecond, ask_of_some hm]
    rfl
  · rw [ho, hclo]
    decide

/-- A shared budget with tokens: retries of the first destination use up the second one's, or its requests earn it some. -/
theorem not_independent_of_budget (hret : first.enforceRetryBudget = true) (hret' : second.enforceRetryBudget = true)
    (hbrk : first.enforceCircuitBreaker = false) (hbrk' : second.enforceCircuitBreaker = false)
    (htok : retry.minRetryTokens ≠ 0 ∨ retry.retryPercent ≠ 0) : ¬ Independent first second managers := by
  obtain ⟨hwin, hfre, -⟩ := FailureManager.new_ok hnew
  have hsta : m.retryBudget.state = ⟨0, 0, 0⟩ := by rw [hfre]
  have hque : ∀ managers m, managers key = some m →
      (DestinationCall.run second managers (.allowRetry .connect false 0 0)).1 = (m.retryBudget.allowRetry 0).1.allowed := by
    intro managers m hm
    simp only [DestinationCall.run, allowDestinationRetry, allowDestinationRequest, hbrk', hret', hsecond, Bool.false_eq_true,
      if_false, if_true, ask_of_some hm]
    rfl
  have hans : (m.retryBudget.allowRetry 0).1.allowed = decide (0 < retry.minRetryTokens.toNat) := by
    rw [RetryBudget.allowRetry_of_used (by rw [hfre]; exact hwin) hsta, hfre, RetryBudget.retryCapacity_fresh]
  by_cases hz : retry.minRetryTokens = 0
  · -- no token to start with: a hundred requests of the first destination earn some
    have hper : retry.retryPercent ≠ 0 := htok.resolve_left (fun h => h hz)
    have hite : ((fun m : FailureManager => m.recordBaseRequest 0)^[100] m).retryBudget =
        (fun bud : RetryBudget => bud.recordBaseRequest 0)^[100] m.retryBudget :=
      Function.Semiconj.iterate_right (f := FailureManager.retryBudget) (fun _ => rfl) 100 m
    refine not_independent (.request 0) (.allowRetry .connect false 0 0) (fun m => m.recordBaseRequest 0)
      (fun m => (m.retryBudget.allowRetry 0).1.allowed) 100 ?_ hque hm ?_
    · intro managers m hm
      simp only [DestinationCall.run, recordDestinationRequest, hret, if_true, hfirst]
      exact tell_of_some hm
    · rw [hans, hite, RetryBudget.requests_allow (by rw [hfre]; exact hwin) hsta (by rw [hfre]; exact hper), hz]
      decide
  · have hpos : 0 < retry.minRetryTokens.toNat :=
      Nat.pos_of_ne_zero fun h => hz (UInt32.toNat_inj.1 (by rw [h]; rfl))
    have hite : ((fun m : FailureManager => (m.allowRetry 0 .connect).2)^[retry.minRetryTokens.toNat] m).retryBudget =
        (fun bud : RetryBudget => (bud.allowRetry 0).2)^[retry.minRetryTokens.toNat] m.retryBudget :=
      Function.Semiconj.iterate_right (f := FailureManager.retryBudget) (fun _ => rfl) retry.minRetryTokens.toNat m
    refine not_independent (.allowRetry .connect false 0 0) (.allowRetry .connect false 0 0) (fun m => (m.allowRetry 0 .connect).2)
      (fun m => (m.retryBudget.allowRetry 0).1.allowed) retry.minRetryTokens.toNat ?_ hque hm ?_
    · intro managers m hm
      simp only [DestinationCall.run, allowDestinationRetry, allowDestinationRequest, hbrk, hret, hfirst, Bool.false_eq_true,
        if_false, if_true, ask_of_some hm, Function.update_self]
    · rw [hans, hite, RetryBudget.retries_exhaust (by rw [hfre]; exact hwin) hsta
        (by rw [hfre]; exact Nat.zero_add _), decide_eq_true hpos]
      decide

end

/-! ## The destinations of a listener -/

theorem FailureBinding.manager_of_ne {name : Text} (h : binding.retryBudget = some name ∨ binding.circuitBreaker = some name) :
    binding.manager = some binding := by
  unfold FailureBinding.manager FailureBinding.isEmpty
  rcases h with h | h <;> simp [h]

theorem forOption_some {f : α → Except PolicyCompileError β} {a : α} {o : Option β} (h : forOption f (some a) = .ok o) :
    ∃ b, f a = .ok b ∧ o = some b := by
  obtain ⟨b, hb, rfl⟩ := except_map_ok.1 h
  exact ⟨b, hb, rfl⟩

section
variable {config : WorkspaceConfig} {listener : ListenerResourceConfig}

theorem buildFailureManager_ok {m : FailureManager} (h : buildFailureManager config binding = .ok m) :
    ∃ retry timeouts breaker, FailureManager.new retry timeouts breaker = .ok m ∧
      ∀ name ∈ binding.retryBudget, ∃ spec, findPolicy config.policies.retryBudgets name = some spec ∧ retry = spec.into := by
  obtain ⟨retry, hret, h⟩ := except_bind_ok.1 h
  obtain ⟨timeouts, -, h⟩ := except_bind_ok.1 h
  obtain ⟨breaker, -, h⟩ := except_bind_ok.1 h
  refine ⟨retry, timeouts, breaker, Proc.except_mapError_ok.1 h, fun name hn => ?_⟩
  obtain ⟨found, hfd, hget⟩ := except_map_ok.1 hret
  rw [show binding.retryBudget = some name from hn] at hfd
  obtain ⟨policy, hpol, rfl⟩ := forOption_some hfd
  obtain ⟨spec, hs, rfl⟩ := except_map_ok.1 hpol
  exact ⟨spec, policyOr_ok hs, hget.symm⟩

variable {diagnostics : SortedMap Text (List EffectiveRouteDestinationPolicy)} {policies : RouteDestinationPolicies}
  {shared : SharedPolicies} {route₁ cluster₁ route₂ cluster₂ : Text} {first second : RouteDestinationPolicyRuntime}

/-- **Two destinations answer independently exactly when they share no failure manager that answers**: their effective retry
budget, timeout hierarchy and circuit breaker are not the same three policies, or no breaker is among them and the retry budget,
if one is, has neither tokens nor a percentage. -/
theorem destinations_independent_iff (hdiagnostics : resolveEffectiveRouteBackendPolicyDiagnostics config listener = .ok diagnostics)
    (hcompile : compileRouteDestinationPolicyRuntime config diagnostics = (.ok policies, shared))
    (h₁ : policies.find route₁ cluster₁ = some first) (h₂ : policies.find route₂ cluster₂ = some second) :
    Independent first second shared.failureManagers ↔
      destinationBinding config listener route₁ cluster₁ ≠ destinationBinding config listener route₂ cluster₂ ∨
        ∀ binding ∈ destinationBinding config listener route₂ cluster₂, binding.Inert config := by
  obtain ⟨hbui, hf⟩ := compileRouteDestinationPolicyRuntime_ok hcompile
  obtain ⟨ds₁, d₁, hds₁, hd₁, hrun₁, -⟩ := hf route₁ cluster₁ first h₁
  obtain ⟨ds₂, d₂, hds₂, hd₂, hrun₂, hsh₂⟩ := hf route₂ cluster₂ second h₂
  rw [diagnostics_binding hdiagnostics hds₁ hd₁, diagnostics_binding hdiagnostics hds₂ hd₂]
  generalize d₁.failureBinding = binding₁ at hrun₁
  generalize d₂.failureBinding = binding₂ at hrun₂
  constructor
  · intro hind
    by_contra hsh
    obtain ⟨heq, hine⟩ := not_or.1 hsh
    obtain rfl : binding₁ = binding₂ := Option.some.inj (not_not.1 heq)
    have hine' : ¬ binding₁.Inert config := fun h => hine (fun binding hb => Option.some.inj hb ▸ h)
    -- the shared manager, new as it is built
    have hman : ∀ name, binding₁.retryBudget = some name ∨ binding₁.circuitBreaker = some name →
        ∃ m, shared.failureManagers binding₁ = some m ∧ first.failureManager = some binding₁ ∧ second.failureManager = some binding₁ := by
      intro name hn
      have hkey := FailureBinding.manager_of_ne hn
      obtain ⟨m, hm⟩ := Option.isSome_iff_exists.1 (hsh₂ binding₁ (hrun₂.manager.trans hkey))
      exact ⟨m, hm, hrun₁.manager.trans hkey, hrun₂.manager.trans hkey⟩
    cases hbrk : binding₁.circuitBreaker with
    | some name =>
      obtain ⟨m, hm, hfirst, hsecond⟩ := hman name (.inr hbrk)
      obtain ⟨retry, timeouts, breaker, hnew, -⟩ := buildFailureManager_ok (hbui _ m hm)
      exact not_independent_of_breaker hfirst hsecond hm hnew (by rw [hrun₁.circuitBreaker, hbrk]; rfl)
        (by rw [hrun₂.circuitBreaker, hbrk]; rfl) hind
    | none =>
      apply hine'
      refine ⟨hbrk, fun name hn spec hs => ?_⟩
      by_contra htok
      obtain ⟨m, hm, hfirst, hsecond⟩ := hman name (.inl hn)
      obtain ⟨retry, timeouts, breaker, hnew, hpol⟩ := buildFailureManager_ok (hbui _ m hm)
      obtain ⟨spec', hs', rfl⟩ := hpol name hn
      obtain rfl : spec' = spec := Option.some.inj (hs'.symm.trans hs)
      exact not_independent_of_budget hfirst hsecond hm hnew (by rw [hrun₁.retryBudget, show binding₁.retryBudget = _ from hn]; rfl)
        (by rw [hrun₂.retryBudget, show binding₁.retryBudget = _ from hn]; rfl)
        (by rw [hrun₁.circuitBreaker, hbrk]; rfl) (by rw [hrun₂.circuitBreaker, hbrk]; rfl)
        (not_and_or.1 htok) hind
  · rintro (hne | hine)
    · apply independent_of_ne
      intro key hkey hkey'
      rw [hrun₂.manager] at hkey
      rw [hrun₁.manager] at hkey'
      unfold FailureBinding.manager at hkey hkey'
      split_ifs at hkey hkey'
      · cases hkey
      · exact hne (hkey'.trans hkey.symm)
    · obtain ⟨hbrk, hbud⟩ := hine binding₂ rfl
      apply independent_of_emptyBudget
      · rw [hrun₂.circuitBreaker, hbrk]
        rfl
      · intro henf key hkey bud hbud'
        rw [hrun₂.retryBudget] at henf
        obtain ⟨name, hn⟩ := Option.isSome_iff_exists.1 henf
        rw [show second.failureManager = some binding₂ from hrun₂.manager.trans (FailureBinding.manager_of_ne (.inl hn))] at hkey
        obtain rfl : binding₂ = key := Option.some.inj hkey
        obtain ⟨m, hm, rfl⟩ := Option.map_eq_some_iff.1 hbud'
        obtain ⟨retry, timeouts, breaker, hnew, hpol⟩ := buildFailureManager_ok (hbui _ m hm)
        obtain ⟨spec, hs, rfl⟩ := hpol name hn
        obtain ⟨-, hfre, -⟩ := FailureManager.new_ok hnew
        rw [hfre]
        exact hbud name hn spec hs

end

/-! ### Two routes with a breaker each -/

def shopCluster (name : Text) : UpstreamClusterConfig where
  name := name
  endpoints := [{ id := lit "a", address := ⟨.v4 10 0 0 1, 8080⟩ }]

def shopRoute (name breaker : Text) : RouteConfig where
  name := name
  matchRule := { pathPrefix := '/' :: name }
  upstreamCluster := some name
  policies := { circuitBreaker := some breaker }

def shopListener : ListenerResourceConfig := { webListener [] with routes := [lit "cart", lit "pay"] }

/-- Two routes to a cluster each; the breakers open at the first failure. -/
def shopWorkspace (cartBreaker payBreaker : Text) : WorkspaceConfig where
  policies := { circuitBreakers := [⟨lit "strict", ⟨1, 30000, 1⟩⟩, ⟨lit "lenient", ⟨9, 30000, 1⟩⟩] }
  listeners := [shopListener]
  routes := [shopRoute (lit "cart") cartBreaker, shopRoute (lit "pay") payBreaker]
  upstreamClusters := [shopCluster (lit "cart"), shopCluster (lit "pay")]

/-- Both routes bind the same breaker policy: a failure of the cart's upstream shuts out the payments'. -/
theorem shop_breaker_shared :
    (shopWorkspace (lit "strict") (lit "strict")).validate (fun _ => none) = .ok () ∧
    ∃ diagnostics policies shared cart pay,
      resolveEffectiveRouteBackendPolicyDiagnostics (shopWorkspace (lit "strict") (lit "strict")) shopListener = .ok diagnostics ∧
      compileRouteDestinationPolicyRuntime (shopWorkspace (lit "strict") (lit "strict")) diagnostics = (.ok policies, shared) ∧
      policies.find (lit "cart") (lit "cart") = some cart ∧ policies.find (lit "pay") (lit "pay") = some pay ∧
      answers cart pay shared.failureManagers [(.first, .failure 0 .connect), (.second, .allowRequest 0)] = [false] ∧
      answers cart pay shared.failureManagers [(.second, .allowRequest 0)] = [true] :=
  ⟨rfl, _, _, _, _, _, rfl, rfl, rfl, rfl, rfl, rfl⟩

theorem shop_breakers_independent :
    ∃ diagnostics policies shared cart pay,
      resolveEffectiveRouteBackendPolicyDiagnostics (shopWorkspace (lit "strict") (lit "lenient")) shopListener = .ok diagnostics ∧
      compileRouteDestinationPolicyRuntime (shopWorkspace (lit "strict") (lit "lenient")) diagnostics = (.ok policies, shared) ∧
      policies.find (lit "cart") (lit "cart") = some cart ∧ policies.find (lit "pay") (lit "pay") = some pay ∧
      Independent cart pay shared.failureManagers := by
  refine ⟨_, _, _, _, _, rfl, rfl, rfl, rfl, ?_⟩
  refine (@destinations_independent_iff (shopWorkspace (lit "strict") (lit "lenient")) shopListener _ _ _ (lit "cart") (lit "cart")
    (lit "pay") (lit "pay") _ _ rfl rfl rfl rfl).2 (.inl ?_)
  decide +kernel

end WayBalancer
