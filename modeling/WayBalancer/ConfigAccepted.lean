import WayBalancer.ConfigCompiler
/-!
# ConfigAccepted — what holds of a configuration the validator accepts

The names of the resources are distinct and not blank without the white space around them, every route has destinations with
weights, and the match rules of the routes compile.
-/
namespace WayBalancer

open Str Findings

variable {parseCidr : Text → Option IpNet} {config : WorkspaceConfig}

theorem WorkspaceConfig.validate_ok : config.validate parseCidr = .ok () ↔ (validateWorkspaceConfig parseCidr config).errors = [] := by
  unfold WorkspaceConfig.validate ValidationReport.isEmpty
  cases h : (validateWorkspaceConfig parseCidr config).errors with
  | nil => simp [h]
  | cons e es => simp [h]

/-! ## Names -/

variable {resourceKind : String}

theorem registerPolicyName_eq_nil {name path : Text} {known : List Text}
    (h : (registerPolicyName name path resourceKind known).1 = []) :
    (trim name).isEmpty = false ∧ trim name ∉ known ∧ (registerPolicyName name path resourceKind known).2 = trim name :: known := by
  unfold registerPolicyName at h ⊢
  by_cases hbla : (trim name).isEmpty = true
  · rw [if_pos hbla] at h
    cases h
  · rw [if_neg hbla] at h ⊢
    exact ⟨Bool.eq_false_iff.2 hbla, flag_eq_nil.1 h, rfl⟩

/-- Names that are collected without a finding are distinct when trimmed, and are what is collected. -/
theorem collectNamedResources_eq_nil {group : String} {names : List Text}
    (h : (collectNamedResources group resourceKind names).1 = []) :
    (∀ name ∈ names, (trim name).isEmpty = false) ∧ (names.map trim).Nodup ∧
      ∀ k, k ∈ (collectNamedResources group resourceKind names).2 ↔ k ∈ names.map trim := by
  obtain ⟨hbla, -, hnd, hmem⟩ := scanFrom_distinct (fun _ _ _ ht => registerPolicyName_eq_nil ht) h
  exact ⟨hbla, hnd, fun k => (hmem k).trans (by simp)⟩

variable {α : Type}

theorem nodup_of_trim {name : α → Text} {xs : List α} (h : ((xs.map name).map trim).Nodup) : (xs.map name).Nodup :=
  List.Nodup.of_map trim h

/-! ## Clusters -/

structure UpstreamClusterConfig.Named (cluster : UpstreamClusterConfig) : Prop where
  nonblank : (trim cluster.name).isEmpty = false
  endpoints_nonblank : ∀ endpoint ∈ cluster.endpoints, (trim endpoint.id).isEmpty = false
  endpoints_distinct : (cluster.endpoints.map (·.id)).Nodup

variable {basePath : Text}

theorem validateEndpoints_eq_nil {cluster : UpstreamClusterConfig} (h : validateEndpoints cluster basePath = []) :
    (∀ endpoint ∈ cluster.endpoints, (trim endpoint.id).isEmpty = false) ∧ (cluster.endpoints.map (·.id)).Nodup := by
  have hs := @scanFrom_distinct UpstreamEndpointConfig ValidationError Text (fun endpoint => trim endpoint.id)
    (fun endpoint => (trim endpoint.id).isEmpty = false) _ (fun seen i endpoint ht => by
      by_cases hbla : (trim endpoint.id).isEmpty = true
      · rw [if_pos hbla] at ht
        cases ht
      · rw [if_neg hbla] at ht ⊢
        exact ⟨Bool.eq_false_iff.2 hbla, flag_eq_nil.1 (List.append_eq_nil_iff.1 ht).1, rfl⟩) _ _ _ h
  obtain ⟨hbla, -, hnd, -⟩ := hs
  refine ⟨hbla, List.Nodup.of_map trim ?_⟩
  rw [List.map_map]
  exact hnd

/-! ## Routes -/

structure RouteConfig.Accepted (parseCidr : Text → Option IpNet) (route : RouteConfig) : Prop where
  nonblank : (trim route.name).isEmpty = false
  destinations_ne_nil : route.normalizedDestinations ≠ []
  weight_ne_zero : ∀ destination ∈ route.normalizedDestinations, destination.weight ≠ 0
  match_valid : ∃ matchPath, validateRouteMatch parseCidr route.name route.matchRule matchPath = []

variable {upstreamNames : List Text} {route : RouteConfig} {registry : PolicyRegistry}

theorem validateDestination_turn {seen : List Text} {index : ℕ} {destination : RouteDestinationConfig}
    (h : (validateDestination route basePath upstreamNames registry seen index destination).1 = []) :
    destination.weight ≠ 0 ∧ trim destination.upstreamCluster ∉ seen ∧
      (validateDestination route basePath upstreamNames registry seen index destination).2 =
        trim destination.upstreamCluster :: seen := by
  unfold validateDestination at h ⊢
  by_cases hbla : (trim destination.upstreamCluster).isEmpty = true
  · rw [if_pos hbla] at h
    cases h
  · rw [if_neg hbla] at h ⊢
    obtain ⟨hwt, hr⟩ := List.append_eq_nil_iff.1 (List.append_eq_nil_iff.1 h).1
    refine ⟨flag_eq_nil.1 hwt, fun hs => ?_, rfl⟩
    rw [if_pos hs] at hr
    cases hr

theorem validateRoute_eq_nil {index : ℕ} (h : validateRoute parseCidr route index upstreamNames registry = []) :
    route.Accepted parseCidr := by
  simp only [validateRoute, List.append_eq_nil_iff, flag_eq_nil] at h
  obtain ⟨⟨⟨⟨⟨⟨hn, -⟩, hmat⟩, -⟩, hs⟩, hdests⟩, -⟩ := h
  have htur := scanFrom_distinct (fun _ _ _ ht => validateDestination_turn ht) hdests
  refine ⟨Bool.eq_false_iff.2 hn, fun hnil => hs ?_, htur.1, ⟨_, hmat⟩⟩
  rw [hnil]
  rfl

/-! ## The configuration -/

/-- What the compilation of an accepted configuration rests on. -/
structure WorkspaceConfig.Accepted (parseCidr : Text → Option IpNet) (config : WorkspaceConfig) : Prop where
  routes_distinct : (config.routes.map (·.name)).Nodup
  clusters_distinct : (config.upstreamClusters.map (·.name)).Nodup
  routes : ∀ route ∈ config.routes, route.Accepted parseCidr
  clusters : ∀ cluster ∈ config.upstreamClusters, cluster.Named

theorem accepted_of_valid (h : (validateWorkspaceConfig parseCidr config).errors = []) : config.Accepted parseCidr := by
  simp only [validateWorkspaceConfig, List.append_eq_nil_iff] at h
  obtain ⟨⟨⟨⟨⟨⟨⟨⟨⟨-, -⟩, -⟩, -⟩, hrouteNames⟩, hclusterNames⟩, -⟩, -⟩, hrts⟩, hcls⟩ := h
  obtain ⟨-, hrouteNodup, -⟩ := collectNamedResources_eq_nil hrouteNames
  obtain ⟨hclusterBlank, hclusterNodup, -⟩ := collectNamedResources_eq_nil hclusterNames
  refine ⟨nodup_of_trim hrouteNodup, nodup_of_trim hclusterNodup, fun route hrt => ?_, fun cluster hcl => ?_⟩
  · obtain ⟨k, hk⟩ := List.mem_iff_getElem?.1 hrt
    exact validateRoute_eq_nil (each_eq_nil.1 hrts k route hk)
  · obtain ⟨k, hk⟩ := List.mem_iff_getElem?.1 hcl
    have hval := each_eq_nil.1 hcls k cluster hk
    simp only [validateUpstreamCluster, List.append_eq_nil_iff] at hval
    obtain ⟨⟨⟨⟨-, heps⟩, -⟩, -⟩, -⟩ := hval
    obtain ⟨hids, hdis⟩ := validateEndpoints_eq_nil heps
    exact ⟨hclusterBlank _ (List.mem_map_of_mem hcl), hids, hdis⟩

/-! ## Match rules compile -/

theorem normalizeEntries_ok {β κ : Type} [DecidableEq β] [LinearOrder κ] {normalize : α → Option β} (key : β → κ)
    (error : WorkspaceConfigError) {entries : List α} (h : ∀ entry ∈ entries, (normalize entry).isSome = true) :
    ∃ normalized, normalizeEntries normalize key error entries = .ok normalized := by
  have hs : ∃ normalized, entries.mapM normalize = some normalized := by
    induction entries with
    | nil => exact ⟨[], rfl⟩
    | cons entry entries ih =>
      obtain ⟨b, hb⟩ := Option.isSome_iff_exists.1 (h entry List.mem_cons_self)
      obtain ⟨bs, hbs⟩ := ih (fun e he => h e (List.mem_cons_of_mem _ he))
      exact ⟨b :: bs, by rw [List.mapM_cons, hb, hbs]; rfl⟩
  obtain ⟨normalized, hnor⟩ := hs
  exact ⟨_, by rw [normalizeEntries, hnor]⟩

theorem RouteHeaderMatchConfig.normalize_isSome {headerMatch : RouteHeaderMatchConfig} (h : headerMatch.isInvalid = false) :
    headerMatch.normalize.isSome = true := by
  cases headerMatch with
  | exact name value =>
    obtain ⟨hn, -⟩ := Bool.or_eq_false_iff.1 h
    rw [normalize]
    simpa using hn
  | present name =>
    rw [normalize]
    simpa [isInvalid] using h
  | absent name =>
    rw [normalize]
    simpa [isInvalid] using h

theorem Except.isSome_toOption {ε : Type} (x : Except ε α) : x.toOption.isSome = x.isOk := by
  cases x <;> rfl

theorem RouteQueryMatchConfig.normalize_isSome {queryMatch : RouteQueryMatchConfig} (h : queryMatch.isInvalid = false) :
    queryMatch.normalize.isSome = true := by
  cases queryMatch with
  | exact name value =>
    obtain ⟨hnam, hval⟩ := Bool.or_eq_false_iff.1 h
    obtain ⟨n, hn⟩ := Option.isSome_iff_exists.1 ((Except.isSome_toOption _).trans (by simpa using hnam) :
      (canonicalizeQueryMatchName name).toOption.isSome = true)
    obtain ⟨v, hv⟩ := Option.isSome_iff_exists.1 ((Except.isSome_toOption _).trans (by simpa using hval) :
      (canonicalizeQueryMatchValue value).toOption.isSome = true)
    rw [normalize, hn, hv]
    rfl
  | present name =>
    rw [normalize, Option.isSome_map, Except.isSome_toOption]
    simpa [isInvalid] using h
  | absent name =>
    rw [normalize, Option.isSome_map, Except.isSome_toOption]
    simpa [isInvalid] using h

theorem each_flag_eq_nil {ε : Type} {xs : List α} {c : α → Bool} {e : ℕ → α → ε}
    (h : each xs (fun i x => flag (c x) (e i x)) = []) : ∀ x ∈ xs, c x = false := by
  intro x hx
  obtain ⟨k, hk⟩ := List.mem_iff_getElem?.1 hx
  exact Bool.eq_false_iff.2 (flag_eq_nil.1 (each_eq_nil.1 h k x hk))

theorem RouteConfig.Accepted.compileRule {route : RouteConfig} (h : route.Accepted parseCidr) :
    ∃ rule, route.compileRule parseCidr = .ok rule ∧ rule.label = route.name := by
  obtain ⟨hbla, -, -, matchPath, hmat⟩ := h
  simp only [validateRouteMatch, List.append_eq_nil_iff, flag_eq_nil] at hmat
  obtain ⟨⟨⟨⟨⟨⟨⟨⟨⟨hp, hhos⟩, hmet⟩, hhs⟩, hque⟩, hcontentTypes⟩, hser⟩, hgrpcMethods⟩, -⟩, hcid⟩ :=
    hmat
  obtain ⟨hostnames, hh⟩ := normalizeEntries_ok id (.invalidRouteHostname route.name)
    (fun e he => (Except.isSome_toOption _).trans (by simpa using each_flag_eq_nil hhos e he))
  obtain ⟨methods, hm⟩ := normalizeEntries_ok id (.invalidRouteMethod route.name)
    (fun e he => by simpa using each_flag_eq_nil hmet e he)
  obtain ⟨headerMatches, hhe⟩ := normalizeEntries_ok RouteHeaderMatch.orderKey
    (.invalidRouteHeader route.name) (fun e he => RouteHeaderMatchConfig.normalize_isSome (each_flag_eq_nil hhs e he))
  obtain ⟨queryMatches, hq⟩ := normalizeEntries_ok RouteQueryMatch.orderKey
    (.invalidRouteQuery route.name) (fun e he => RouteQueryMatchConfig.normalize_isSome (each_flag_eq_nil hque e he))
  obtain ⟨contentTypes, hc⟩ := normalizeEntries_ok id (.invalidRouteContentType route.name)
    (fun e he => by simpa using each_flag_eq_nil hcontentTypes e he)
  obtain ⟨grpcServices, hs⟩ := normalizeEntries_ok id (.invalidRouteGrpcService route.name)
    (fun e he => by simpa using each_flag_eq_nil hser e he)
  obtain ⟨grpcMethods, hg⟩ := normalizeEntries_ok id (.invalidRouteGrpcMethod route.name)
    (fun e he => by simpa using each_flag_eq_nil hgrpcMethods e he)
  obtain ⟨sourceCidrs, hsc⟩ := normalizeEntries_ok IpNet.orderKey (.invalidRouteSourceCidr route.name)
    (fun e he => by simpa using each_flag_eq_nil hcid e he)
  unfold RouteConfig.compileRule
  rw [if_neg (Bool.eq_false_iff.1 hbla), if_neg hp, hh, hm, hhe, hq, hc, hs, hg, hsc]
  exact ⟨_, rfl, rfl⟩

/-- **The route rules of an accepted configuration compile**, each under its route's name. -/
theorem compileRouteRules_of_accepted (h : config.Accepted parseCidr) :
    ∃ rules, compileRouteRules parseCidr config.routes = .ok rules ∧ rules.map (·.label) = config.routes.map (·.name) := by
  have hl : ∀ (rs : List RouteConfig) (seen : List Text), (∀ route ∈ rs, route.Accepted parseCidr) →
      (rs.map (·.name)).Nodup → (∀ route ∈ rs, route.name ∉ seen) →
      ∃ rules, compileDistinct (·.name) .duplicateRouteName (·.compileRule parseCidr) seen rs = .ok rules ∧
        rules.map (·.label) = rs.map (·.name) := by
    intro rs
    induction rs with
    | nil => exact fun _ _ _ _ => ⟨[], rfl, rfl⟩
    | cons route rs ih =>
      intro seen hacc hnd hs
      obtain ⟨hfre, hnd⟩ := List.nodup_cons.1 hnd
      obtain ⟨rule, hru, hlab⟩ := (hacc route List.mem_cons_self).compileRule
      obtain ⟨rules, hrul, hla⟩ := ih (route.name :: seen) (fun r hr => hacc r (List.mem_cons_of_mem _ hr)) hnd (fun r hr hmem => by
          rcases List.mem_cons.1 hmem with hsa | hmem
          · exact hfre (List.mem_map.2 ⟨r, hr, hsa⟩)
          · exact hs r (List.mem_cons_of_mem _ hr) hmem)
      refine ⟨rule :: rules, ?_, by rw [List.map_cons, List.map_cons, hlab, hla]⟩
      rw [compileDistinct, if_neg (hs route List.mem_cons_self), hru]
      exact Proc.except_bind_ok.2 ⟨rule, rfl, Proc.except_bind_ok.2 ⟨rules, hrul, rfl⟩⟩
  exact hl config.routes [] h.routes h.routes_distinct (fun _ _ hmem => (by cases hmem))

end WayBalancer
