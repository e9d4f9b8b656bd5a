import WayBalancer.ConfigAccepted
/-!
# SnapshotRebuild — a snapshot rebuilt from its own view

A view gives back a configuration in which the compiled settings are written out and the destinations are in order, but where a
cluster's endpoints are discovered is lost (`WorkspaceConfig.settled`).  That configuration compiles to the snapshot it came
from, and it is valid exactly when no cluster is without endpoints (`fromView_view`).
-/
namespace WayBalancer

open Str Word Findings
open List (append_eq_nil_iff map_cons map_id map_map mem_cons)

variable {listener : ListenerResourceConfig} {defaults : WorkspaceDefaultsConfig}

/-! ## The configuration a view gives back -/

def ListenerResourceConfig.settled (listener : ListenerResourceConfig) (defaults : WorkspaceDefaultsConfig) :
    ListenerResourceConfig :=
  { listener with
    allowUnspecifiedBind := listener.allowUnspecifiedBind || defaults.listener.allowUnspecifiedBind
    maxConnections := some (listener.maxConnections.getD defaults.listener.maxConnections)
    backlog := some (listener.backlog.getD defaults.listener.backlog)
    idleTimeoutMs := some (listener.idleTimeoutMs.getD defaults.listener.idleTimeoutMs)
    drainTimeoutMs := some (listener.drainTimeoutMs.getD defaults.listener.drainTimeoutMs) }

variable (route : RouteConfig)

def RouteConfig.settled : RouteConfig :=
  { route with upstreamCluster := none, destinations := route.normalizedDestinations }

def UpstreamClusterConfig.settled (cluster : UpstreamClusterConfig) : UpstreamClusterConfig := { cluster with discovery := none }

def WorkspaceConfig.settled (config : WorkspaceConfig) : WorkspaceConfig :=
  { config with
    defaults := {}
    listeners := config.listeners.map (·.settled config.defaults)
    routes := config.routes.map RouteConfig.settled
    upstreamClusters := config.upstreamClusters.map UpstreamClusterConfig.settled }

theorem durationToMillis_toNat (x : UInt64) : durationToMillis x.toNat = x := by
  have hx : x.toNat < 2 ^ 64 := x.toNat_lt
  unfold durationToMillis u64Max
  rw [if_neg (by omega)]
  exact UInt64.ofNat_toNat

theorem configCertificateSource_snapshot (source : ListenerCertificateSourceConfig) :
    configCertificateSource (snapshotCertificateSource source) = source := by
  cases source
  rfl

theorem configTlsTermination_snapshot (tls : ListenerTlsTerminationConfig) :
    configTlsTermination (snapshotTlsTermination tls) = tls := by
  unfold configTlsTermination snapshotTlsTermination
  simp only [map_map, configCertificateSource_snapshot]
  congr 1
  refine (List.map_congr_left (fun certificate _ => ?_)).trans (map_id _)
  rfl

theorem configListener_snapshotListener (listener : ListenerResourceConfig) (defaults : WorkspaceDefaultsConfig) :
    configListener (snapshotListener listener (listener.withDefaults defaults)) = listener.settled defaults := by
  have htls : (listener.tlsTermination.map snapshotTlsTermination).map configTlsTermination = listener.tlsTermination := by
    cases listener.tlsTermination with
    | none => rfl
    | some tls => exact congrArg some (configTlsTermination_snapshot tls)
  simp only [configListener, snapshotListener, ListenerResourceConfig.withDefaults, ListenerResourceConfig.settled,
    durationToMillis_toNat, htls]

theorem configRoute_snapshotRoute : configRoute (snapshotRoute route) = route.settled := rfl

theorem configCluster_snapshotCluster (cluster : UpstreamClusterConfig) :
    configCluster (snapshotCluster cluster) = cluster.settled := by
  have heps : (cluster.endpoints.map snapshotEndpoint).map configEndpoint = cluster.endpoints := by
    rw [map_map]
    exact map_id _
  simp only [configCluster, snapshotCluster, UpstreamClusterConfig.settled, heps]

/-! ## What is compiled -/

section
variable {α β : Type} {name : α → Text} {duplicate : Text → WorkspaceConfigError} {compile : α → Except WorkspaceConfigError β}

theorem compileDistinct_ok : ∀ {seen : List Text} {xs : List α} {ys : List β}, compileDistinct name duplicate compile seen xs = .ok ys ↔
      (∀ x ∈ xs, name x ∉ seen) ∧ (xs.map name).Nodup ∧ List.Forall₂ (fun x y => compile x = .ok y) xs ys
  | seen, [], ys => by
    constructor
    · intro h
      cases h
      exact ⟨fun x hx => (by cases hx), List.nodup_nil, .nil⟩
    · rintro ⟨-, -, h⟩
      cases h
      rfl
  | seen, x :: xs, ys => by
    rw [compileDistinct, Proc.ite_error_ok, Proc.except_bind_ok]
    constructor
    · rintro ⟨hx, y, hy, h⟩
      obtain ⟨ys', hys, h⟩ := Proc.except_bind_ok.1 h
      cases h
      obtain ⟨hs, hnd, hall⟩ := compileDistinct_ok.1 hys
      refine ⟨fun z hz => ?_, ?_, .cons hy hall⟩
      · rcases mem_cons.1 hz with rfl | hz
        · exact hx
        · exact fun hmem => hs z hz (List.mem_cons_of_mem _ hmem)
      · refine List.nodup_cons.2 ⟨fun hmem => ?_, hnd⟩
        obtain ⟨z, hz, hzx⟩ := List.mem_map.1 hmem
        exact hs z hz (hzx ▸ List.mem_cons_self)
    · rintro ⟨hs, hnd, hall⟩
      obtain ⟨hxs, hnd⟩ := List.nodup_cons.1 hnd
      cases hall with
      | cons hy hall =>
        refine ⟨hs x List.mem_cons_self, _, hy, Proc.except_bind_ok.2 ⟨_, compileDistinct_ok.2 ⟨fun z hz => ?_, hnd, hall⟩, rfl⟩⟩
        intro hmem
        rcases mem_cons.1 hmem with hzx | hmem
        · exact hxs (hzx ▸ List.mem_map_of_mem hz)
        · exact hs z (List.mem_cons_of_mem x hz) hmem

theorem compileDistinct_map {γ : Type} {g : γ → α} {name' : γ → Text} (hn : ∀ x, name (g x) = name' x)
    {compile' : γ → Except WorkspaceConfigError β} (hcmp : ∀ x, compile (g x) = compile' x) :
    ∀ (seen : List Text) (xs : List γ),
      compileDistinct name duplicate compile seen (xs.map g) = compileDistinct name' duplicate compile' seen xs
  | _, []         => rfl
  | seen, x :: xs => by
    rw [map_cons, compileDistinct, compileDistinct, hn, hcmp, compileDistinct_map hn hcmp (name' x :: seen) xs]

end

theorem ListenerResourceConfig.compile_ok {compiled : ListenerConfig} (h : listener.compile defaults = .ok compiled) :
    compiled = listener.withDefaults defaults := by
  unfold compile at h
  cases hval : (listener.withDefaults defaults).validate with
  | error e => rw [hval] at h; cases h
  | ok u =>
    rw [hval] at h
    cases h
    rfl

theorem compileListeners_ok {listeners : List ListenerResourceConfig} {compiled : List ListenerConfig}
    (h : compileListeners listeners defaults = .ok compiled) : compiled = listeners.map (·.withDefaults defaults) := by
  obtain ⟨-, -, hall⟩ := compileDistinct_ok.1 h
  clear h
  induction hall with
  | nil => rfl
  | cons hx _ ih => rw [ListenerResourceConfig.compile_ok hx, ih, map_cons]

theorem compileListeners_settled (listeners : List ListenerResourceConfig) (defaults : WorkspaceDefaultsConfig) :
    compileListeners (listeners.map (·.settled defaults)) {} = compileListeners listeners defaults := by
  refine compileDistinct_map (fun _ => rfl) (fun listener => ?_) [] listeners
  have hs : (listener.settled defaults).withDefaults {} = listener.withDefaults defaults := by
    simp only [ListenerResourceConfig.withDefaults, ListenerResourceConfig.settled, Option.getD_some, Bool.or_false]
  unfold ListenerResourceConfig.compile
  rw [hs]

theorem compileRouteRules_settled (parseCidr : Text → Option IpNet) (routes : List RouteConfig) :
    compileRouteRules parseCidr (routes.map RouteConfig.settled) = compileRouteRules parseCidr routes :=
  compileDistinct_map (fun _ => rfl) (fun _ => rfl) [] routes

theorem compileClusters_settled (clusters : List UpstreamClusterConfig) :
    compileClusters (clusters.map UpstreamClusterConfig.settled) = compileClusters clusters :=
  compileDistinct_map (fun _ => rfl) (fun _ => rfl) [] clusters

/-! ## Views -/

theorem normalizedDestinations_sorted :
    route.normalizedDestinations.Pairwise RouteDestinationConfig.le := List.pairwise_insertionSort _ _

theorem normalizedDestinations_settled : route.settled.normalizedDestinations = route.normalizedDestinations := by
  have hsrt := normalizedDestinations_sorted route
  show List.insertionSort RouteDestinationConfig.le (if route.normalizedDestinations.isEmpty then [] else
    route.normalizedDestinations) = route.normalizedDestinations
  cases hemp : route.normalizedDestinations with
  | nil => rfl
  | cons d ds =>
    rw [hemp] at hsrt
    exact hsrt.insertionSort_eq

theorem snapshotRoute_settled : snapshotRoute route.settled = snapshotRoute route := by
  unfold snapshotRoute
  rw [normalizedDestinations_settled]
  rfl

variable (config : WorkspaceConfig)

theorem snapshotView_listeners (digestSha256 : Text) :
    (snapshotView config (config.listeners.map (·.withDefaults config.defaults)) digestSha256).listeners =
      config.listeners.map (fun listener => snapshotListener listener (listener.withDefaults config.defaults)) := by
  show List.zipWith snapshotListener config.listeners (config.listeners.map _) = _
  rw [List.zipWith_map_right]
  exact List.zipWith_self

theorem workspaceConfigFromSnapshotView_snapshotView {digestSha256 : Text} : workspaceConfigFromSnapshotView
      (snapshotView config (config.listeners.map (·.withDefaults config.defaults)) digestSha256) = config.settled := by
  have hls := snapshotView_listeners config digestSha256
  unfold workspaceConfigFromSnapshotView WorkspaceConfig.settled
  rw [hls]
  simp only [snapshotView, map_map, Function.comp_def, configListener_snapshotListener, configRoute_snapshotRoute,
    configCluster_snapshotCluster]

theorem snapshotView_settled (compiled : List ListenerConfig) (digestSha256 : Text) :
    snapshotView config.settled compiled digestSha256 = snapshotView config compiled digestSha256 := by
  unfold snapshotView WorkspaceConfig.settled
  simp only [map_map, Function.comp_def, snapshotRoute_settled, List.zipWith_map_left]
  rfl

/-! ## What is valid -/

theorem validateMultiPolicyRefs_nil (basePath : Text) (resourceKind : String) (known : List Text) :
    validateMultiPolicyRefs [] basePath resourceKind known = ([], []) := rfl

theorem validateSinglePolicyRef_none (path : Text) (resourceKind : String) (known : List Text) :
    validateSinglePolicyRef none path resourceKind known = [] := rfl

theorem misplaced_none (isMisplaced : Bool) (path : Text) (message : String) : misplaced none isMisplaced path message = [] := rfl

theorem mirrorsItself_none (registry : PolicyRegistry) (target : PolicyBindingTarget) : mirrorsItself registry none target = false := by
  cases target <;> rfl

theorem validatePolicyBinding_default (basePath : Text) (target : PolicyBindingTarget) (registry : PolicyRegistry) :
    validatePolicyBinding {} basePath target registry = [] := by
  unfold validatePolicyBinding
  simp only [validateMultiPolicyRefs_nil, validateSinglePolicyRef_none, misplaced_none, mirrorsItself_none, flag_false,
    List.flatMap_nil, List.append_nil]

theorem validateDefaults_default : validateDefaults {} = [] := rfl

/-- Defaults that are valid make every setting of a valid listener a positive one. -/
theorem validateListenerOverrides_settled {basePath : Text} (hdef : validateDefaults defaults = [])
    (h : validateListenerOverrides listener basePath = []) :
    validateListenerOverrides (listener.settled defaults) basePath = [] := by
  have hpos : ∀ {γ : Type} [OfNat γ 0] (own : Option γ) (default : γ), own ≠ some 0 → default ≠ 0 →
      some (own.getD default) ≠ some 0 := by
    intro γ _ own default hown hd hz
    cases own with
    | none => exact hd (Option.some.inj hz)
    | some value => exact hown hz
  simp only [validateDefaults, append_eq_nil_iff, flag_eq_nil, not_or] at hdef
  simp only [validateListenerOverrides, flag_eq_nil, not_or] at h
  obtain ⟨⟨⟨hmax, hbac, hi, hdra⟩, -⟩, -⟩ := hdef
  obtain ⟨hmax', hbac', hi', hdra'⟩ := h
  rw [validateListenerOverrides, flag_eq_nil]
  rintro (hz | hz | hz | hz)
  · exact hpos _ _ hmax' hmax hz
  · exact hpos _ _ hbac' hbac hz
  · exact hpos _ _ hi' hi hz
  · exact hpos _ _ hdra' hdra hz

theorem routesByName_settled (routes : List RouteConfig) (name : Text) :
    (routesByName (routes.map RouteConfig.settled)).get? name = ((routesByName routes).get? name).map RouteConfig.settled := by
  rw [routesByName, routesByName, ← SortedMap.get?_ofList_map, map_map, map_map]
  rfl

theorem validateRouteReferences_settled (listener : ListenerResourceConfig) (defaults : WorkspaceDefaultsConfig)
    (basePath : Text) (routeNames : List Text) (routes : List RouteConfig) :
    validateRouteReferences (listener.settled defaults) basePath routeNames (routesByName (routes.map RouteConfig.settled)) =
      validateRouteReferences listener basePath routeNames (routesByName routes) := by
  unfold validateRouteReferences
  simp only [routesByName_settled, Option.elim_map, Function.comp_def]
  rfl

variable {registry : PolicyRegistry} {parseCidr : Text → Option IpNet}

theorem validateListener_settled {index : ℕ} {insecure : Bool} {routeNames : List Text} {routes : List RouteConfig}
    (hdef : validateDefaults defaults = [])
    (h : validateListener parseCidr listener index insecure routeNames (routesByName routes) registry = []) :
    validateListener parseCidr (listener.settled defaults) index insecure routeNames
      (routesByName (routes.map RouteConfig.settled)) registry = [] := by
  simp only [validateListener, append_eq_nil_iff] at h ⊢
  rw [validateRouteReferences_settled]
  obtain ⟨⟨⟨⟨⟨⟨⟨hn, hove⟩, hb⟩, hp⟩, htls⟩, hadm⟩, hrts⟩, hbin⟩ := h
  exact ⟨⟨⟨⟨⟨⟨⟨hn, validateListenerOverrides_settled hdef hove⟩, hb⟩, hp⟩, htls⟩, hadm⟩, hrts⟩, hbin⟩

theorem policies_of_shorthand {route : RouteConfig} (hrt : route.destinations.isEmpty = true)
    {destination : RouteDestinationConfig} (h : destination ∈ route.normalizedDestinations) : destination.policies = {} := by
  have hmem := (List.mem_insertionSort _).1 h
  rw [if_pos hrt] at hmem
  cases hcl : route.upstreamCluster with
  | none =>
    rw [hcl] at hmem
    cases hmem
  | some cluster =>
    rw [hcl] at hmem
    rw [List.mem_singleton.1 hmem]

section
variable {route : RouteConfig} {basePath : Text} {upstreamNames : List Text} {registry : PolicyRegistry} {seen : List Text}
  {index : ℕ} {destination : RouteDestinationConfig}

theorem validateDestination_blank (h : (trim destination.upstreamCluster).isEmpty = true) :
    (validateDestination route basePath upstreamNames registry seen index destination).1 ≠ [] := by
  rw [validateDestination, if_pos h]
  exact List.cons_ne_nil _ _

theorem validateDestination_seen (h : (trim destination.upstreamCluster).isEmpty = false) :
    (validateDestination route basePath upstreamNames registry seen index destination).2 =
      trim destination.upstreamCluster :: seen := by
  rw [validateDestination, if_neg (by simp [h])]

theorem validateDestination_eq_nil : (validateDestination route basePath upstreamNames registry seen index destination).1 = [] ↔
      (trim destination.upstreamCluster).isEmpty = false ∧ destination.weight ≠ 0 ∧
      trim destination.upstreamCluster ∉ seen ∧ trim destination.upstreamCluster ∈ upstreamNames ∧
      (route.destinations.isEmpty = false →
        validatePolicyBinding destination.policies (dot (nth (dot basePath "destinations") index) "policies")
          (.routeDestination route.name (trim destination.upstreamCluster)) registry = []) := by
  cases hbla : (trim destination.upstreamCluster).isEmpty with
  | true => simpa using validateDestination_blank hbla
  | false =>
    have hkn : ∀ e e' : ValidationError, (if trim destination.upstreamCluster ∈ seen then [e] else
        flag (trim destination.upstreamCluster ∉ upstreamNames) e') = [] ↔
          trim destination.upstreamCluster ∉ seen ∧ trim destination.upstreamCluster ∈ upstreamNames := by
      split
      · rename_i hs
        simp [hs]
      · rename_i hs
        simp [hs]
    rw [validateDestination, if_neg (by simp [hbla]), append_eq_nil_iff, append_eq_nil_iff, hkn]
    cases hrt : route.destinations.isEmpty <;> simp [and_assoc]

theorem validateDestination_settled (hmem : destination ∈ route.normalizedDestinations)
    (h : (validateDestination route basePath upstreamNames registry seen index destination).1 = []) :
    validateDestination route.settled basePath upstreamNames registry seen index destination =
      ([], (validateDestination route basePath upstreamNames registry seen index destination).2) := by
  obtain ⟨hbla, hwt, hs, hkn, hb⟩ := validateDestination_eq_nil.1 h
  refine Prod.ext (validateDestination_eq_nil.2 ⟨hbla, hwt, hs, hkn, fun _ => ?_⟩) ?_
  · cases hrt : route.destinations.isEmpty with
    | false => exact hb hrt
    | true =>
      rw [policies_of_shorthand hrt hmem]
      exact validatePolicyBinding_default _ _ _
  · rw [validateDestination_seen hbla, validateDestination_seen hbla]

end

theorem validateRoute_settled {route : RouteConfig} {index : ℕ} {upstreamNames : List Text}
    (h : validateRoute parseCidr route index upstreamNames registry = []) :
    validateRoute parseCidr route.settled index upstreamNames registry = [] := by
  simp only [validateRoute, append_eq_nil_iff, flag_eq_nil, normalizedDestinations_settled] at h ⊢
  obtain ⟨⟨⟨⟨⟨⟨hn, hupg⟩, hmat⟩, -⟩, hs⟩, hdests⟩, hb⟩ := h
  refine ⟨⟨⟨⟨⟨⟨hn, hupg⟩, hmat⟩, Bool.false_ne_true⟩, hs⟩, ?_⟩, hb⟩
  exact scanFrom_eq_nil_of_turns (fun _ _ _ hmem hnil => validateDestination_settled hmem hnil) hdests

theorem validateUpstreamCluster_settled {cluster : UpstreamClusterConfig} {index : ℕ}
    (h : validateUpstreamCluster cluster index registry = []) :
    validateUpstreamCluster cluster.settled index registry = [] ↔ cluster.endpoints ≠ [] := by
  simp only [validateUpstreamCluster, append_eq_nil_iff] at h ⊢
  obtain ⟨⟨⟨⟨hn, heps⟩, -⟩, haff⟩, hb⟩ := h
  have hsrc : validateEndpointSource cluster.settled (nth (lit "upstream_clusters") index) = [] ↔ cluster.endpoints ≠ [] := by
    simp [validateEndpointSource, UpstreamClusterConfig.settled]
  constructor
  · rintro ⟨⟨⟨-, hemp⟩, -⟩, -⟩
    exact hsrc.1 hemp
  · intro hne
    exact ⟨⟨⟨⟨hn, heps⟩, hsrc.2 hne⟩, haff⟩, hb⟩

/-- **The settled configuration of a valid one is valid exactly when no cluster is without endpoints.** -/
theorem validateWorkspaceConfig_settled {config : WorkspaceConfig} (h : (validateWorkspaceConfig parseCidr config).errors = []) :
    (validateWorkspaceConfig parseCidr config.settled).errors = [] ↔ ∀ cluster ∈ config.upstreamClusters, cluster.endpoints ≠ [] := by
  have hls : config.settled.listeners.map (·.name) = config.listeners.map (·.name) := map_map
  have hrts : config.settled.routes.map (·.name) = config.routes.map (·.name) := map_map
  have hcls : config.settled.upstreamClusters.map (·.name) = config.upstreamClusters.map (·.name) := map_map
  simp only [validateWorkspaceConfig, append_eq_nil_iff, hls, hrts, hcls] at h ⊢
  simp only [WorkspaceConfig.settled, each_map]
  generalize collectNamedResources "upstream_clusters" "upstream cluster" (config.upstreamClusters.map (·.name)) = upstreamNames at h ⊢
  generalize PolicyRegistry.new config.policies upstreamNames.2 = registry at h ⊢
  obtain ⟨⟨⟨⟨⟨⟨⟨⟨⟨hbas, hdef⟩, hsec⟩, hlistenerNames⟩, hrouteNames⟩, hclusterNames⟩, hpol⟩, heachListener⟩,
    heachRoute⟩, heachCluster⟩ := h
  have heachCluster' : each config.upstreamClusters (fun index cluster =>
        validateUpstreamCluster cluster.settled index registry.1) = [] ↔
      ∀ cluster ∈ config.upstreamClusters, cluster.endpoints ≠ [] :=
    each_eq_nil_iff (fun _ _ hnil => validateUpstreamCluster_settled hnil) heachCluster
  constructor
  · rintro ⟨-, hnil⟩
    exact heachCluster'.1 hnil
  · intro hne
    refine ⟨⟨⟨⟨⟨⟨⟨⟨⟨hbas, validateDefaults_default⟩, hsec⟩, hlistenerNames⟩, hrouteNames⟩, hclusterNames⟩, hpol⟩,
      ?_⟩, ?_⟩, heachCluster'.2 hne⟩
    · exact each_eq_nil_imp (fun _ _ hnil => validateListener_settled hdef hnil) heachListener
    · exact each_eq_nil_imp (fun _ _ hnil => validateRoute_settled hnil) heachRoute

/-! ## There and back -/

section
variable {parseCidr : Text → Option IpNet} {serde : SnapshotSerde} {config : WorkspaceConfig} {snapshot : WorkspaceSnapshot}

theorem compileWorkspaceSnapshot_ok : compileWorkspaceSnapshot parseCidr serde config = .ok snapshot ↔
      (validateWorkspaceConfig parseCidr config).errors = [] ∧ ∃ listeners rules clusters digestSha256,
        compileListeners config.listeners config.defaults = .ok listeners ∧ compileRouteRules parseCidr config.routes = .ok rules ∧
        compileClusters config.upstreamClusters = .ok clusters ∧
        computeDigest serde (snapshotView config listeners []) = .ok digestSha256 ∧
        snapshot = ⟨snapshotView config listeners digestSha256, listeners, rules, clusters⟩ := by
  unfold compileWorkspaceSnapshot
  rw [Proc.except_seq_ok, Proc.except_mapError_ok, WorkspaceConfig.validate_ok]
  simp only [Proc.except_bind_ok, Proc.except_mapError_ok]
  constructor
  · rintro ⟨hval, listeners, hls, rules, hrul, clusters, hcls, digestSha256, hdig, hsna⟩
    cases hsna
    exact ⟨hval, listeners, rules, clusters, digestSha256, hls, hrul, hcls, hdig, rfl⟩
  · rintro ⟨hval, listeners, rules, clusters, digestSha256, hls, hrul, hcls, hdig, rfl⟩
    exact ⟨hval, listeners, hls, rules, hrul, clusters, hcls, digestSha256, hdig, rfl⟩

def WorkspaceSnapshotView.HasEndpoints (view : WorkspaceSnapshotView) : Prop :=
  ∀ cluster ∈ view.upstreamClusters, cluster.endpoints ≠ []

instance (view : WorkspaceSnapshotView) : Decidable view.HasEndpoints :=
  inferInstanceAs (Decidable (∀ cluster ∈ view.upstreamClusters, cluster.endpoints ≠ []))

theorem hasEndpoints_snapshotView {listeners : List ListenerConfig} {digestSha256 : Text} :
    (snapshotView config listeners digestSha256).HasEndpoints ↔ ∀ cluster ∈ config.upstreamClusters, cluster.endpoints ≠ [] := by
  simp [WorkspaceSnapshotView.HasEndpoints, snapshotView, snapshotCluster]

variable (h : compileWorkspaceSnapshot parseCidr serde config = .ok snapshot)
include h

/-- The view of a snapshot that was compiled gives back the settled configuration it was compiled from. -/
theorem workspaceConfigFromSnapshotView_view : workspaceConfigFromSnapshotView snapshot.view = config.settled := by
  obtain ⟨-, ls, rules, cs, sha256, hls, -, -, -, rfl⟩ := compileWorkspaceSnapshot_ok.1 h
  rw [compileListeners_ok hls]
  exact workspaceConfigFromSnapshotView_snapshotView config

/-- **A snapshot whose clusters all have endpoints is rebuilt from its view as it was.** -/
theorem fromView_view (he : snapshot.view.HasEndpoints) : WorkspaceSnapshot.fromView parseCidr serde snapshot.view = .ok snapshot := by
  rw [WorkspaceSnapshot.fromView, workspaceConfigFromSnapshotView_view h]
  obtain ⟨hval, ls, rules, cs, sha256, hls, hrul, hcls, hdig, rfl⟩ :=
    compileWorkspaceSnapshot_ok.1 h
  refine compileWorkspaceSnapshot_ok.2 ⟨(validateWorkspaceConfig_settled hval).2 (hasEndpoints_snapshotView.1 he), ls, rules, cs,
      sha256, ?_, ?_, ?_, ?_, ?_⟩
  · exact (compileListeners_settled _ _).trans hls
  · exact (compileRouteRules_settled _ _).trans hrul
  · exact (compileClusters_settled _).trans hcls
  · rw [snapshotView_settled]
    exact hdig
  · rw [snapshotView_settled]

/-- **A snapshot with a cluster without endpoints is not rebuilt**: the configuration its view gives back is invalid. -/
theorem fromView_view_error (he : ¬snapshot.view.HasEndpoints) :
    ∃ report, WorkspaceSnapshot.fromView parseCidr serde snapshot.view = .error (.validation report) := by
  rw [WorkspaceSnapshot.fromView, workspaceConfigFromSnapshotView_view h]
  obtain ⟨hval, ls, rules, cs, sha256, -, -, -, -, rfl⟩ := compileWorkspaceSnapshot_ok.1 h
  have hinv : (validateWorkspaceConfig parseCidr config.settled).errors ≠ [] := fun hnil =>
    he (hasEndpoints_snapshotView.2 ((validateWorkspaceConfig_settled hval).1 hnil))
  refine ⟨validateWorkspaceConfig parseCidr config.settled, ?_⟩
  have hrep : config.settled.validate parseCidr = .error (validateWorkspaceConfig parseCidr config.settled) :=
    if_neg (by simpa [ValidationReport.isEmpty] using hinv)
  rw [compileWorkspaceSnapshot, hrep]
  rfl

end

end WayBalancer
