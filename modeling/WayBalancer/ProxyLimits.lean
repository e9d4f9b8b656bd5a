import WayBalancer.ActiveHealth
import WayBalancer.DigestBinding
/-!
# ProxyLimits — the limits that compiled proxies run with

`compile_runtime.rs` of `binaries/lb-dataplane/src/workspace_serve`, as far as the limits go.  An HTTP/2 proxy is given the
configured limits; an HTTP/1 proxy keeps the ones it is created with.
-/
namespace WayBalancer

open Str

/-- `Http1Limits::default`, which `Http1ProxyConfig::new` starts with. -/
def Http1Limits.default : Http1Limits := ⟨16 * 1024, 64, 8 * 1024 * 1024⟩

/-- The limits in a `ManagedProxyConfig`: of its HTTP/1 proxy, of its HTTP/2 proxy or, for HTTPS, of both. -/
structure ProxyLimits where
  http1 : Option Http1Limits
  http2 : Option Http2Limits

def compileProxyLimits (config : WorkspaceConfig) (listener : ListenerResourceConfig) (compiledRoutes : List RoutePrefixRule) :
    Except ServeCompileError ProxyLimits :=
  (compilePublicProxy config listener compiledRoutes).map (fun
    | .http1 _ | .http3 _ => ⟨some .default, none⟩
    | .http2 _            => ⟨none, some config.defaults.http.http2Limits⟩
    | .https _ _          => ⟨some .default, some config.defaults.http.http2Limits⟩)

/-- **The configured limits reach the proxies of a listener exactly where it speaks HTTP/2 alone, or the limits configured for
HTTP/1 are the built-in ones.** -/
theorem limits_reach_iff (config : WorkspaceConfig) (listener : ListenerResourceConfig) (compiledRoutes : List RoutePrefixRule)
    (limits : ProxyLimits) (h : compileProxyLimits config listener compiledRoutes = .ok limits) :
    (∀ l ∈ limits.http1, l = config.defaults.http.http1Limits) ∧ (∀ l ∈ limits.http2, l = config.defaults.http.http2Limits) ↔
      listener.protocol = .http2 ∨ config.defaults.http.http1Limits = .default := by
  obtain ⟨pools, hpoo, rfl⟩ := Proc.except_map_ok.1 h
  unfold compilePublicProxy at hpoo
  cases hp : listener.protocol with
  | tcp | auto =>
    rw [hp] at hpoo
    cases hpoo
  | http1 | http2 | https | http3 =>
    rw [hp] at hpoo
    obtain ⟨out, -, rfl⟩ := Proc.except_map_ok.1 hpoo
    simp [eq_comm]

theorem limits_reach_builtin : ∃ rules limits, compileRouteRules (fun _ => none) (webWorkspace (lit "all") webBackends).routes = .ok rules ∧
    compileProxyLimits (webWorkspace (lit "all") webBackends) (webListener (lit "all")) rules = .ok limits ∧
    ∀ l ∈ limits.http1, l = (webWorkspace (lit "all") webBackends).defaults.http.http1Limits := by
  obtain ⟨rules, limits, hrul, hlim⟩ : ∃ rules limits, compileRouteRules (fun _ => none) (webWorkspace (lit "all") webBackends).routes = .ok rules ∧
      compileProxyLimits (webWorkspace (lit "all") webBackends) (webListener (lit "all")) rules = .ok limits := ⟨_, _, rfl, rfl⟩
  exact ⟨rules, limits, hrul, hlim, ((limits_reach_iff _ _ rules limits hlim).2 (.inr rfl)).1⟩

/-- The web listener, under a limit of a thousand bytes for a head. -/
def tightWorkspace : WorkspaceConfig :=
  { webWorkspace (lit "all") webBackends with defaults := { http := { http1 := { maxHeadBytes := 1000 } } } }

/-- It is served with sixteen thousand. -/
theorem limits_lost : tightWorkspace.validate (fun _ => none) = .ok () ∧ ∃ rules limits,
    compileRouteRules (fun _ => none) tightWorkspace.routes = .ok rules ∧
    compileProxyLimits tightWorkspace (webListener (lit "all")) rules = .ok limits ∧
    limits.http1.map (·.maxHeadBytes) = some 16384 :=
  ⟨rfl, _, _, rfl, rfl, rfl⟩

end WayBalancer
