import WayBalancer.ActiveHealth
/-!
# ActiveHealthSpec — which clusters a tick takes up

The pools of a tick are those of the listener's routes, of which the first by name stands for all whose clusters have the same
names, joined by commas.  A cluster is advanced and probed once for every such route it stands in
(`routed_clusters_timed_and_probed_iff`).
-/
namespace WayBalancer

open Str
open UpstreamHealthRegistry (new)
open List (count_eq_zero count_pos_iff find?_some forall_mem_cons map_cons map_map mem_cons mem_cons_self mem_flatMap mem_map
  mem_map_of_mem mem_singleton)

variable {pool : RouteBackendPool} {rules : List RoutePrefixRule} {routeName : Text}

/-! ## The pools a tick takes up -/

theorem count_flatMap_eq_one {α β : Type} [DecidableEq β] (f : α → List β) (b : β) : ∀ {l : List α}, l.Nodup →
    ((l.flatMap f).count b = 1 ↔ ∃ x ∈ l, (f x).count b = 1 ∧ ∀ y ∈ l, b ∈ f y → y = x)
  | [], _ => by simp
  | x :: l, hl => by
    obtain ⟨hx, hl⟩ := List.nodup_cons.1 hl
    have ih := count_flatMap_eq_one f b hl
    rw [List.flatMap_cons, List.count_append]
    constructor
    · intro h
      rcases Nat.eq_zero_or_pos ((f x).count b) with hze | hpos
      · obtain ⟨z, hz, hcnt, ho⟩ := ih.1 (by omega)
        refine ⟨z, List.mem_cons_of_mem _ hz, hcnt, forall_mem_cons.2 ⟨fun hb => ?_, ho⟩⟩
        exact absurd hb (count_eq_zero.1 hze)
      · refine ⟨x, mem_cons_self, by omega, forall_mem_cons.2 ⟨fun _ => rfl, fun y hy hb => ?_⟩⟩
        have hze : (l.flatMap f).count b = 0 := by omega
        exact absurd (mem_flatMap.2 ⟨y, hy, hb⟩) (count_eq_zero.1 hze)
    · rintro ⟨z, hz, hcnt, ho⟩
      obtain ⟨hfir, hr⟩ := forall_mem_cons.1 ho
      rcases mem_cons.1 hz with rfl | hz
      · have hze : (l.flatMap f).count b = 0 := by
          rw [count_eq_zero, mem_flatMap]
          rintro ⟨y, hy, hb⟩
          exact hx (hr y hy hb ▸ hy)
        omega
      · have hze : (f x).count b = 0 := count_eq_zero.2 (fun hb => hx (hfir hb ▸ hz))
        have := ih.2 ⟨z, hz, hcnt, hr⟩
        omega

theorem find?_value_eq_some {κ α : Type} [LinearOrder κ] {m : SortedMap κ α} {q : α → Bool} {e : κ × α} :
    m.entries.find? (fun e => q e.2) = some e ↔ e ∈ m.entries ∧ q e.2 = true ∧ ∀ e' ∈ m.entries, e'.1 < e.1 → q e'.2 = false := by
  have hsrt := m.sorted
  rw [List.find?_eq_some_iff_append]
  constructor
  · rintro ⟨hq, b, after, hspl, hbef⟩
    rw [hspl] at hsrt ⊢
    refine ⟨by simp, hq, fun e' he' hlt => ?_⟩
    rcases List.mem_append.1 he' with he' | he'
    · simpa using hbef e' he'
    rcases mem_cons.1 he' with rfl | he'
    · exact absurd hlt (lt_irrefl _)
    · exact absurd ((List.pairwise_cons.1 (List.pairwise_append.1 hsrt).2.1).1 e' he') (lt_asymm hlt)
  · rintro ⟨he, hq, hlea⟩
    obtain ⟨b, after, hspl⟩ := List.append_of_mem he
    rw [hspl] at hsrt hlea
    refine ⟨hq, b, after, hspl, fun a ha => ?_⟩
    have hlt := (List.pairwise_append.1 hsrt).2.2 a ha e mem_cons_self
    rw [hlea a (List.mem_append_left _ ha) hlt, Bool.not_false]

theorem get?_insertPools (k : Text) : ∀ (pools : List RouteBackendPool) (m : SortedMap Text RouteBackendPool),
    (pools.foldl insertPool m).get? k = (m.get? k).or (pools.find? (fun p => p.key = k))
  | [], m => by rw [List.foldl_nil, List.find?_nil, Option.or_none]
  | pool :: rest, m => by
    rw [List.foldl_cons, get?_insertPools k rest, insertPool]
    cases hget : m.get? pool.key with
    | some found =>
      by_cases hk : pool.key = k
      · simp [← hk, hget]
      · simp [hk]
    | none =>
      rw [SortedMap.get?_insert]
      by_cases hk : pool.key = k
      · simp [← hk, hget]
      · simp [hk, Ne.symm hk]

def Collects (proxy : ManagedProxyPools) (m : SortedMap Text RouteBackendPool) : Prop :=
  ∀ k, (poolsByScope proxy).get? k = (m.entries.map (·.2)).find? (fun p => p.key = k)

theorem Collects.mem_entries {proxy : ManagedProxyPools} {m : SortedMap Text RouteBackendPool} (h : Collects proxy m) {k : Text} :
    (k, pool) ∈ (poolsByScope proxy).entries ↔ ∃ r, (r, pool) ∈ m.entries ∧ pool.key = k ∧ ∀ e ∈ m.entries, e.1 < r → e.2.key ≠ k := by
  rw [← SortedMap.get?_eq_some, h k, List.find?_map, Option.map_eq_some_iff]
  constructor
  · rintro ⟨⟨r, p⟩, hf, rfl⟩
    obtain ⟨hmem, hkey, hlea⟩ := (find?_value_eq_some (q := fun p : RouteBackendPool => decide (p.key = k))).1 hf
    exact ⟨r, hmem, by simpa using hkey, fun e he hlt => by simpa using hlea e he hlt⟩
  · rintro ⟨r, hmem, hkey, hlea⟩
    refine ⟨(r, pool), (find?_value_eq_some (q := fun p : RouteBackendPool => decide (p.key = k))).2 ⟨hmem, by simpa using hkey, ?_⟩, rfl⟩
    intro e he hlt
    simpa using hlea e he hlt

/-! ## What is compiled -/

def WorkspaceConfig.routeClusters (config : WorkspaceConfig) (routeName : Text) : List Text :=
  match config.findRoute routeName with
  | none       => []
  | some route => (route.normalizedDestinations.map (·.upstreamCluster)).insertionSort (· ≤ ·)

structure PoolFor (config : WorkspaceConfig) (routeName : Text) (pool : RouteBackendPool) : Prop where
  clusters : pool.clusterNames.map (·.value) = config.routeClusters routeName
  compiled : ∀ single ∈ pool.singles, ∃ cluster, compileRouteBackendPool cluster = .ok single

theorem RouteBackendPool.clusterNames_eq (pool : RouteBackendPool) : pool.clusterNames = pool.singles.map (·.clusterName) := by
  cases pool with
  | single p   => rfl
  | weighted p => exact (map_map ..).symm

theorem RouteBackendPool.clusterNames_ne_nil (pool : RouteBackendPool) : pool.clusterNames ≠ [] := by
  cases pool with
  | single p   => exact List.cons_ne_nil _ _
  | weighted p => exact fun h => p.nonempty (List.map_eq_nil_iff.1 h)

theorem UpstreamHealthRegistry.insertCluster_known {policy : EndpointHealthPolicy} {c : UpstreamCluster} {s : UpstreamHealthRegistry}
    (h : (new policy).insertCluster c = (.ok (), s)) : s.Tracked ∧ s.registry.cluster c.name = some c := by
  have hs : s = ((new policy).insertCluster c).2 := by rw [h]
  refine ⟨hs ▸ tracked_new.insertCluster c, ?_⟩
  rw [hs, insertCluster_state]
  have hins : (new policy).registry.insertCluster c = (.ok (), EndpointRegistry.new.withCluster c.name c) :=
    rfl
  rw [hins]
  rw [(trackAll_frame c.endpoints _).2]
  rw [EndpointRegistry.cluster_withCluster, if_pos rfl]

theorem compileRouteBackendPool_known {cluster : UpstreamClusterConfig} {p : SinglePool} (h : compileRouteBackendPool cluster = .ok p) :
    p.clusterName.value = cluster.name ∧ p.registry.Tracked ∧ ∃ c, p.registry.registry.cluster p.clusterName = some c := by
  obtain ⟨clusterName, hn, h⟩ := Proc.except_bind_ok.1 h
  obtain ⟨endpoints, -, h⟩ := Proc.except_bind_ok.1 h
  obtain ⟨model, hmod, h⟩ := Proc.except_bind_ok.1 h
  have hval : clusterName.value = cluster.name := by
    unfold UpstreamClusterName.new at hn
    split at hn
    · cases hn
      rfl
    · cases hn
  have hmodelName : model.name = clusterName := by
    unfold UpstreamCluster.new at hmod
    split at hmod
    · cases hmod
    · cases hmod
      rfl
  unfold SinglePool.fromCluster at h
  split at h
  · cases h
  · rename_i registry hins
    cases h
    obtain ⟨htr, hcl⟩ := UpstreamHealthRegistry.insertCluster_known hins
    exact ⟨hmodelName ▸ hval, htr, model, hcl⟩

section
variable {config : WorkspaceConfig}

theorem takePool_compiled {pools : PoolsByCluster} (hpoo : PoolsOf config pools) {name : Text} {cluster : UpstreamClusterConfig}
    (hcl : config.findCluster name = some cluster) {taken : SinglePool × PoolsByCluster}
    (h : takePool pools cluster = .ok taken) : compileRouteBackendPool cluster = .ok taken.1 := by
  unfold takePool at h
  cases hget : pools.get? cluster.name with
  | some pool =>
    rw [hget] at h
    cases h
    obtain ⟨cluster', hcl', hp⟩ := hpoo _ pool hget
    rw [(findCluster_name hcl).2, hcl] at hcl'
    cases hcl'
    exact hp
  | none =>
    rw [hget] at h
    obtain ⟨pool, hp, h⟩ := Proc.except_bind_ok.1 h
    cases h
    exact hp

theorem compileDestinations_pools {route : RouteConfig} : ∀ {destinations : List RouteDestinationConfig} {pools : PoolsByCluster},
    PoolsOf config pools → ∀ {upstreams weighted pools'},
      compileDestinations config route destinations pools = .ok (upstreams, weighted, pools') →
      PoolsOf config pools' ∧ List.Forall₂ (fun destination entry => ∃ single, entry.2 = .single single ∧
        single.clusterName.value = destination.upstreamCluster ∧ ∃ cluster, compileRouteBackendPool cluster = .ok single)
        destinations weighted
  | [], pools, hpoo, upstreams, weighted, pools', h => by
    cases h
    exact ⟨hpoo, .nil⟩
  | destination :: rest, pools, hpoo, upstreams, weighted, pools', h => by
    obtain ⟨cluster, hcl, -, taken, htak, more, hm, hout⟩ := compileDestinations_cons.1 h
    cases hout
    obtain ⟨hpoo', hr⟩ := compileDestinations_pools ((takePool_ok hpoo hcl).2 taken htak) hm
    have hcmp := takePool_compiled hpoo hcl htak
    refine ⟨hpoo', .cons ⟨taken.1, rfl, ?_, cluster, hcmp⟩ hr⟩
    rw [(compileRouteBackendPool_known hcmp).1, (findCluster_name hcl).2]

theorem singles_of_destinations {destinations : List RouteDestinationConfig} {weighted : List (UInt16 × RouteBackendPool)}
    (h : List.Forall₂ (fun destination entry => ∃ single, entry.2 = .single single ∧
      single.clusterName.value = destination.upstreamCluster ∧ ∃ cluster, compileRouteBackendPool cluster = .ok single)
      destinations weighted) :
    ∃ singles : List SinglePool, weighted.map (·.2) = singles.map .single ∧
      singles.map (·.clusterName.value) = destinations.map (·.upstreamCluster) ∧
      ∀ single ∈ singles, ∃ cluster, compileRouteBackendPool cluster = .ok single := by
  induction h with
  | nil => exact ⟨[], rfl, rfl, fun _ hs => by cases hs⟩
  | cons hent _ ih =>
    obtain ⟨single, hsi, hval, hcmp⟩ := hent
    obtain ⟨singles, hsin, hns, hall⟩ := ih
    exact ⟨single :: singles, by rw [map_cons, map_cons, hsi, hsin],
      by rw [map_cons, map_cons, hval, hns], forall_mem_cons.2 ⟨hcmp, hall⟩⟩

theorem checkedDestinations_pools : ∀ {destinations : List (UInt16 × RouteBackendPool)}
    {l : { l : List WeightedRouteDestination // ∀ d ∈ l, d.weight ≠ 0 }}, checkedDestinations destinations = .ok l →
      destinations.map (·.2) = l.1.map (fun d => .single d.pool)
  | [], l, h => by
    cases h
    rfl
  | (weight, pool) :: rest, l, h => by
    rw [checkedDestinations] at h
    split at h
    · cases h
    · cases pool with
      | weighted p => cases h
      | single p =>
        cases hr : checkedDestinations rest with
        | error error => rw [hr] at h; cases h
        | ok more =>
          rw [hr] at h
          cases h
          exact congrArg (RouteBackendPool.single p :: ·) (checkedDestinations_pools hr)

/-- The pool of a route holds the pools of its destinations, in the order of the names of their clusters. -/
theorem combineDestinations_singles {destinations : List (UInt16 × RouteBackendPool)} {singles : List SinglePool}
    (hsin : destinations.map (·.2) = singles.map .single) (h : combineDestinations destinations = .ok pool) :
    pool.singles.Perm singles ∧ pool.clusterNames.map (·.value) = (singles.map (·.clusterName.value)).insertionSort (· ≤ ·) := by
  unfold combineDestinations at h
  split at h
  · cases h
    obtain ⟨single, rfl, rfl⟩ : ∃ single, singles = [single] ∧ pool = .single single := by
      rcases singles with - | ⟨single, - | ⟨next, more⟩⟩
      · cases hsin
      · exact ⟨single, rfl, List.singleton_inj.1 hsin⟩
      · cases hsin
    exact ⟨.refl _, rfl⟩
  · obtain ⟨weightedPool, hwtd, rfl⟩ : ∃ p, fromWeightedDestinations destinations = .ok p ∧ pool = .weighted p := by
      cases hwtd : fromWeightedDestinations destinations with
      | error error => rw [hwtd] at h; cases h
      | ok p => rw [hwtd] at h; cases h; exact ⟨p, rfl, rfl⟩
    unfold fromWeightedDestinations at hwtd
    cases hche : checkedDestinations destinations with
    | error error => rw [hche] at hwtd; cases hwtd
    | ok l =>
      rw [hche] at hwtd
      dsimp only at hwtd
      split at hwtd
      · cases hwtd
      · cases hwtd
        have hl : l.1.map (·.pool) = singles := by
          have hmap := (checkedDestinations_pools hche).symm.trans hsin
          have hc : l.1.map (fun d => RouteBackendPool.single d.pool) = (l.1.map (·.pool)).map .single := (map_map ..).symm
          exact List.map_injective_iff.2 (fun a b hab => by cases hab; rfl) (hc.symm.trans hmap)
        refine ⟨?_, ?_⟩
        · rw [← hl]
          exact (List.perm_insertionSort byClusterName l.1).map _
        · rw [RouteBackendPool.clusterNames, map_map, ← hl, map_map]
          exact List.map_insertionSort byClusterName (· ≤ ·) _ l.1 (fun a _ b _ => Iff.rfl)

theorem compileListenerRoutes_pools {listener : ListenerResourceConfig} :
    ∀ {routeNames : List Text} {pools : PoolsByCluster}, PoolsOf config pools → ∀ {backends : RouteBackends},
      compileListenerRoutes config listener rules routeNames pools = .ok backends →
      List.Forall₂ (fun routeName entry => entry.1 = routeName ∧ PoolFor config routeName entry.2) routeNames backends.routeBackendPools
  | [], pools, _, backends, h => by
    cases h
    exact .nil
  | routeName :: rest, pools, hpoo, backends, h => by
    obtain ⟨route, hrt, rule, -, out, hout, pool, hp, more, hm, rfl⟩ := compileListenerRoutes_cons.1 h
    obtain ⟨hpoo', hdests⟩ := compileDestinations_pools hpoo hout
    have hn : route.name = routeName := by simpa using find?_some hrt
    refine .cons ⟨hn, ?_⟩ (compileListenerRoutes_pools hpoo' hm)
    obtain ⟨singles, hsin, hns, hcmp⟩ := singles_of_destinations hdests
    obtain ⟨hperm, hcls⟩ := combineDestinations_singles hsin hp
    refine ⟨?_, fun s hs => hcmp s (hperm.mem_iff.1 hs)⟩
    rw [hcls, hns, WorkspaceConfig.routeClusters, hrt]

structure PoolsFor (config : WorkspaceConfig) (listener : ListenerResourceConfig) (m : SortedMap Text RouteBackendPool) : Prop where
  keys : ∀ routeName, routeName ∈ m.keys ↔ routeName ∈ listener.routes
  pools : ∀ routeName pool, (routeName, pool) ∈ m.entries → PoolFor config routeName pool

variable {listener : ListenerResourceConfig}

theorem compileRouteBackends_pools {out : RouteBackends × UpstreamTarget} (h : compileRouteBackends config listener rules = .ok out) :
    listener.routes ≠ [] ∧ PoolsFor config listener (.ofList out.1.routeBackendPools) := by
  obtain ⟨bs, hbks, h⟩ := Proc.except_bind_ok.1 h
  obtain ⟨primary, hp, h⟩ := Proc.except_bind_ok.1 h
  cases h
  have hfor := compileListenerRoutes_pools (fun _ _ h => by cases h) hbks
  refine ⟨fun hnil => ?_, fun routeName => ?_, fun routeName pool hmem => ?_⟩
  · rw [hnil] at hbks
    cases hbks
    cases hp
  · have hns : List.Forall₂ Eq listener.routes (bs.routeBackendPools.map (·.1)) :=
      List.forall₂_map_right_iff.2 (hfor.imp (fun _ _ h => h.1.symm))
    rw [List.forall₂_eq_eq_eq] at hns
    rw [SortedMap.mem_keys_ofList, ← hns]
  · obtain ⟨i, hi, hget⟩ := List.getElem_of_mem (SortedMap.mem_of_get?_ofList (SortedMap.get?_eq_some.2 hmem))
    obtain ⟨hs, hpo⟩ := List.forall₂_iff_get.1 hfor |>.2 i (by rw [hfor.length_eq]; exact hi) hi
    simp only [List.get_eq_getElem, hget] at hs hpo
    exact hs ▸ hpo

theorem compilePublicProxy_pools {proxy : ManagedProxyPools} (h : compilePublicProxy config listener rules = .ok proxy) :
    ∃ m, listener.routes ≠ [] ∧ PoolsFor config listener m ∧ (∀ e, e ∈ proxy.routePools ↔ e ∈ m.entries) ∧
      (listener.protocol = .http3 → poolsByScope proxy = .empty) ∧ (listener.protocol ≠ .http3 → Collects proxy m) := by
  have hc : ∀ m : SortedMap Text RouteBackendPool, ∀ k,
      ((m.entries.map (·.2)).foldl insertPool .empty).get? k = (m.entries.map (·.2)).find? (fun p => p.key = k) := by
    intro m k
    rw [get?_insertPools]
    rfl
  unfold compilePublicProxy at h
  cases hpr : listener.protocol <;> rw [hpr] at h
  case tcp => cases h
  case auto => cases h
  all_goals
    obtain ⟨out, hout, rfl⟩ := Proc.except_map_ok.1 h
    obtain ⟨hrts, hpoo⟩ := compileRouteBackends_pools hout
    refine ⟨.ofList out.1.routeBackendPools, hrts, hpoo, ?_, fun hp => ?_, fun hp => ?_⟩
  case http1.refine_1 => exact fun e => Iff.rfl
  case http1.refine_2 => cases hp
  case http1.refine_3 => exact hc _
  case http2.refine_1 => exact fun e => Iff.rfl
  case http2.refine_2 => cases hp
  case http2.refine_3 => exact hc _
  case https.refine_1 => exact fun e => by simp [ManagedProxyPools.routePools]
  case https.refine_2 => cases hp
  case https.refine_3 =>
    -- the second copy adds nothing
    intro k
    simp only [poolsByScope, ManagedProxyPools.routePools, List.map_append]
    rw [List.foldl_append, get?_insertPools, hc, Option.or_self]
  case http3.refine_1 => exact fun e => Iff.rfl
  case http3.refine_2 => rfl
  case http3.refine_3 => exact absurd rfl hp

/-! ## The clusters of a listener -/

/-- Of the routes of the listener whose clusters have the same names, joined by commas, this is the first by name. -/
def LeadsScope (config : WorkspaceConfig) (listener : ListenerResourceConfig) (routeName : Text) : Prop :=
  routeName ∈ listener.routes ∧ ∀ earlier ∈ listener.routes, earlier < routeName →
    scopeKey (config.routeClusters earlier) ≠ scopeKey (config.routeClusters routeName)

/-- One of the leading routes of the listener names the cluster, once, and no other does. -/
def NamedOnce (config : WorkspaceConfig) (listener : ListenerResourceConfig) (clusterName : Text) : Prop :=
  ∃ routeName, LeadsScope config listener routeName ∧ (config.routeClusters routeName).count clusterName = 1 ∧
    ∀ other, LeadsScope config listener other → clusterName ∈ config.routeClusters other → other = routeName

theorem LeadsScope.eq_of_key {r r' : Text} (h : LeadsScope config listener r) (h' : LeadsScope config listener r')
    (hkey : scopeKey (config.routeClusters r) = scopeKey (config.routeClusters r')) : r = r' := by
  rcases lt_trichotomy r r' with hlt | heq | hlt
  · exact absurd hkey (h'.2 r h.1 hlt)
  · exact heq
  · exact absurd hkey.symm (h.2 r' h'.1 hlt)

theorem PoolFor.key (h : PoolFor config routeName pool) :
    pool.key = scopeKey (config.routeClusters routeName) := congrArg scopeKey h.clusters

theorem PoolFor.count (h : PoolFor config routeName pool) (n : UpstreamClusterName) :
    (config.routeClusters routeName).count n.value = pool.clusterNames.count n := by
  rw [← h.clusters]
  exact List.count_map_of_injective _ _ UpstreamClusterName.value_injective n

section
variable {listener : ListenerResourceConfig} {m : SortedMap Text RouteBackendPool} {proxy : ManagedProxyPools}

section
variable (h : PoolsFor config listener m)
include h

theorem PoolsFor.exists_pool (hr : routeName ∈ listener.routes) :
    ∃ pool, (routeName, pool) ∈ m.entries ∧ PoolFor config routeName pool := by
  obtain ⟨⟨r, pool⟩, hmem, rfl⟩ := mem_map.1 ((h.keys routeName).2 hr)
  exact ⟨pool, hmem, h.pools _ _ hmem⟩

theorem PoolsFor.mem_poolsByScope (hc : Collects proxy m) {k : Text} : (k, pool) ∈ (poolsByScope proxy).entries ↔
      ∃ r, (r, pool) ∈ m.entries ∧ LeadsScope config listener r ∧ scopeKey (config.routeClusters r) = k := by
  rw [hc.mem_entries]
  refine exists_congr fun r => and_congr_right fun hmem => ?_
  have hp := h.pools r pool hmem
  constructor
  · rintro ⟨rfl, hlea⟩
    refine ⟨⟨(h.keys r).1 (mem_map_of_mem hmem), fun earlier hear hlt => ?_⟩, hp.key.symm⟩
    obtain ⟨pool', hmem', hp'⟩ := h.exists_pool hear
    rw [← hp.key, ← hp'.key]
    exact hlea _ hmem' hlt
  · rintro ⟨hl, rfl⟩
    refine ⟨hp.key, fun e he hlt => ?_⟩
    rw [(h.pools e.1 e.2 he).key]
    exact hl.2 e.1 ((h.keys e.1).1 (mem_map_of_mem he)) hlt

theorem count_collected_eq_one (hc : Collects proxy m) (n : UpstreamClusterName) :
    ((collectActiveProbePools proxy).flatMap RouteBackendPool.clusterNames).count n = 1 ↔ NamedOnce config listener n.value := by
  rw [collectActiveProbePools, List.flatMap_map, count_flatMap_eq_one _ n (poolsByScope proxy).entries_nodup]
  constructor
  · rintro ⟨⟨k, pool⟩, hmem, hcnt, ho⟩
    obtain ⟨r, hr, hlea, hkey⟩ := (h.mem_poolsByScope hc).1 hmem
    refine ⟨r, hlea, ((h.pools r pool hr).count n).trans hcnt, fun other hoth hn => ?_⟩
    obtain ⟨pool', hmem', hp'⟩ := h.exists_pool hoth.1
    have hcol := (h.mem_poolsByScope hc).2 ⟨other, hmem', hoth, rfl⟩
    have hn' : n ∈ pool'.clusterNames := by
      rw [← count_pos_iff, ← hp'.count, count_pos_iff]
      exact hn
    have hs := congrArg Prod.fst (ho _ hcol hn')
    exact hoth.eq_of_key hlea (hs.trans hkey.symm)
  · rintro ⟨r, hlea, hcnt, ho⟩
    obtain ⟨pool, hmem, hp⟩ := h.exists_pool hlea.1
    refine ⟨_, (h.mem_poolsByScope hc).2 ⟨r, hmem, hlea, rfl⟩, (hp.count n).symm.trans hcnt, ?_⟩
    rintro ⟨k', pool'⟩ hcol hn
    obtain ⟨r', hmem', hlea', hkey'⟩ := (h.mem_poolsByScope hc).1 hcol
    have hn' : n.value ∈ config.routeClusters r' := by
      rw [← count_pos_iff, (h.pools r' pool' hmem').count, count_pos_iff]
      exact hn
    obtain rfl := ho r' hlea' hn'
    exact Prod.ext hkey'.symm (SortedMap.eq_of_mem hmem' hmem)

/-! ## Every tick of every run -/

end

/-- The clusters of every pool the listener's routes use are known. -/
def AllKnown (proxy : ManagedProxyPools) (registries : HealthRegistries) : Prop :=
  ∀ e ∈ proxy.routePools, ∀ n ∈ e.2.clusterNames, Known registries n

theorem healthTick_spec (hrts : ∀ pool ∈ collectActiveProbePools proxy, ∃ r, (r, pool) ∈ proxy.routePools)
    {outcomes : ProbeOutcomes} {elapsed : ℕ} {registries : HealthRegistries} (h : AllKnown proxy registries) :
    TurnOf ((collectActiveProbePools proxy).flatMap RouteBackendPool.clusterNames) elapsed
        (healthTick outcomes elapsed proxy registries).trace ∧
      AllKnown proxy (healthTick outcomes elapsed proxy registries).registries := by
  unfold healthTick
  split
  · obtain ⟨turn, htra, ht, hkn⟩ := @probePools_spec outcomes elapsed (collectActiveProbePools proxy) ⟨registries, 0, []⟩
      (fun pool hp n hn => by obtain ⟨r, hr⟩ := hrts pool hp; exact h _ hr n hn)
    rw [htra]
    exact ⟨ht, fun e he n hn => hkn n (h e he n hn)⟩
  · rename_i hta
    refine ⟨?_, h⟩
    have hno : collectActiveProbePools proxy = [] := by
      cases proxy <;> first | rfl | exact absurd rfl hta
    rw [hno]
    exact .nil elapsed

theorem AllKnown.run (hrts : ∀ pool ∈ collectActiveProbePools proxy, ∃ r, (r, pool) ∈ proxy.routePools) :
    ∀ (steps : List HealthStep) {registries : HealthRegistries}, AllKnown proxy registries →
      AllKnown proxy (steps.foldl (healthStep proxy) registries)
  | [], _, h => h
  | .tick _ _ :: steps, _, h => AllKnown.run hrts steps (healthTick_spec hrts h).2
  | .note note :: steps, _, h => AllKnown.run hrts steps (fun e he n hn => (h e he n hn).apply note)

theorem PoolsFor.allKnown (h : PoolsFor config listener m) (hrts : ∀ e, e ∈ proxy.routePools ↔ e ∈ m.entries) :
    AllKnown proxy proxy.registries := by
  intro e he n hn
  rw [RouteBackendPool.clusterNames_eq] at hn
  obtain ⟨s, hs, rfl⟩ := mem_map.1 hn
  unfold Known ManagedProxyPools.registries
  cases hf : (proxy.routePools.flatMap (·.2.singles)).find? (fun p => p.clusterName = s.clusterName) with
  | none =>
    have := List.find?_eq_none.1 hf s (mem_flatMap.2 ⟨e, he, hs⟩)
    exact absurd (decide_eq_true rfl) this
  | some p =>
    obtain ⟨e', he', hp⟩ := mem_flatMap.1 (List.mem_of_find?_eq_some hf)
    obtain ⟨cluster, hcl⟩ := (h.pools e'.1 e'.2 ((hrts e').1 he')).compiled p hp
    have hnam : p.clusterName = s.clusterName := by simpa using find?_some hf
    obtain ⟨-, htr, hkn⟩ := compileRouteBackendPool_known hcl
    exact ⟨htr, hnam ▸ hkn⟩

/-- **At every tick every cluster of the listener's routes is advanced by the elapsed time and its endpoints are probed, once,
exactly when the listener is not an HTTP/3 one and every cluster is named once by one route, of those that remain when of the
routes whose clusters read the same only the first is kept.**  A cluster that has a route of its own and a share of another
route is advanced and probed twice at each tick, and the clusters of an HTTP/3 listener never. -/
theorem routed_clusters_timed_and_probed_iff {rules : List RoutePrefixRule}
    (h : compilePublicProxy config listener rules = .ok proxy) :
    (∀ steps outcomes elapsed, ∀ e ∈ proxy.routePools, ∀ n ∈ e.2.clusterNames,
      TimedAndProbedOnce (healthTick outcomes elapsed proxy (healthRun proxy steps)).trace n elapsed) ↔
    listener.protocol ≠ .http3 ∧
      ∀ routeName ∈ listener.routes, ∀ clusterName ∈ config.routeClusters routeName, NamedOnce config listener clusterName := by
  obtain ⟨m, hne, hpoo, hrts, hno, hc⟩ := compilePublicProxy_pools h
  have hs : ∀ pool ∈ collectActiveProbePools proxy, ∃ r, (r, pool) ∈ proxy.routePools := by
    intro pool hp
    obtain ⟨⟨k, pool'⟩, hmem, rfl⟩ := mem_map.1 hp
    by_cases hpr : listener.protocol = .http3
    · rw [hno hpr] at hmem
      cases hmem
    · obtain ⟨r, hr, -⟩ := (hc hpr).mem_entries.1 hmem
      exact ⟨r, (hrts _).2 hr⟩
  -- at any tick, a cluster is taken up as often as the collected pools name it
  have ht : ∀ steps outcomes elapsed n,
      TimedAndProbedOnce (healthTick outcomes elapsed proxy (healthRun proxy steps)).trace n elapsed ↔
        ((collectActiveProbePools proxy).flatMap RouteBackendPool.clusterNames).count n = 1 := by
    intro steps outcomes elapsed n
    obtain ⟨htu, -⟩ := healthTick_spec hs (AllKnown.run hs steps (hpoo.allKnown hrts))
    constructor
    · rintro ⟨reg, hadv, -⟩
      rw [← htu.advances n]
      exact congrArg List.length hadv
    · exact htu.once n
  constructor
  · intro hall
    have hcnt : ∀ e ∈ proxy.routePools, ∀ n ∈ e.2.clusterNames,
        ((collectActiveProbePools proxy).flatMap RouteBackendPool.clusterNames).count n = 1 :=
      fun e he n hn => (ht [] ⟨fun _ => true, fun _ => []⟩ 1 n).1 (hall _ _ _ e he n hn)
    have hpr : listener.protocol ≠ .http3 := by
      intro hpr
      obtain ⟨r, hr⟩ := List.exists_mem_of_ne_nil _ hne
      obtain ⟨pool, hmem, -⟩ := hpoo.exists_pool hr
      obtain ⟨n, hn⟩ := List.exists_mem_of_ne_nil _ pool.clusterNames_ne_nil
      have hone := hcnt _ ((hrts _).2 hmem) n hn
      rw [collectActiveProbePools, hno hpr] at hone
      cases hone
    refine ⟨hpr, fun r hr clusterName hnam => ?_⟩
    obtain ⟨pool, hmem, hp⟩ := hpoo.exists_pool hr
    rw [← hp.clusters] at hnam
    obtain ⟨n, hn, rfl⟩ := mem_map.1 hnam
    exact (count_collected_eq_one hpoo (hc hpr) n).1 (hcnt _ ((hrts _).2 hmem) n hn)
  · rintro ⟨hpr, hnamed⟩ steps outcomes elapsed ⟨r, pool⟩ he n hn
    have hmem := (hrts _).1 he
    refine (ht steps outcomes elapsed n).2 ((count_collected_eq_one hpoo (hc hpr) n).2 ?_)
    refine hnamed r ((hpoo.keys r).1 (mem_map_of_mem hmem)) n.value ?_
    rw [← (hpoo.pools r pool hmem).clusters]
    exact mem_map_of_mem hn

end
end

/-! ### A cluster with two routes -/

def storeRoute (name pathPrefix : Text) (clusters : List Text) : RouteConfig where
  name := name
  matchRule := { pathPrefix := pathPrefix }
  destinations := clusters.map (fun cluster => ⟨cluster, 1, {}⟩)

def storeListener (protocol : ListenerProtocolConfig) : ListenerResourceConfig :=
  { webListener [] with protocol, routes := [lit "all", lit "new"] }

/-- A route to the stable cluster, and one whose requests these clusters share. -/
def storeWorkspace (clusters : List Text) : WorkspaceConfig where
  listeners := [storeListener .http1]
  routes := [storeRoute (lit "all") (lit "/") [lit "stable"], storeRoute (lit "new") (lit "/new") clusters]
  upstreamClusters := [{ webBackends with name := lit "stable" }, { webBackends with name := lit "canary" }]

/-- The stable cluster has a route of its own and a share of the other: a second of real time is two to it. -/
theorem store_tick_doubled :
    (storeWorkspace [lit "canary", lit "stable"]).validate (fun _ => none) = .ok () ∧
    ∃ rules proxy n, compileRouteRules (fun _ => none) (storeWorkspace [lit "canary", lit "stable"]).routes = .ok rules ∧
      compilePublicProxy (storeWorkspace [lit "canary", lit "stable"]) (storeListener .http1) rules = .ok proxy ∧
      (∃ e ∈ proxy.routePools, n ∈ e.2.clusterNames) ∧
      ((healthTick ⟨fun _ => true, fun _ => []⟩ (10 ^ 9) proxy (healthRun proxy [])).trace.filterMap (·.advanceOf n)).map (·.1) =
        [10 ^ 9, 10 ^ 9] :=
  ⟨rfl, _, _, ⟨lit "stable", by decide⟩, rfl, rfl, ⟨_, mem_cons_self, mem_singleton.2 rfl⟩, rfl⟩

/-- With a cluster to each route, a second is a second. -/
theorem store_tick_once :
    ∃ rules proxy, compileRouteRules (fun _ => none) (storeWorkspace [lit "canary"]).routes = .ok rules ∧
      compilePublicProxy (storeWorkspace [lit "canary"]) (storeListener .http1) rules = .ok proxy ∧
      ∀ steps outcomes elapsed, ∀ e ∈ proxy.routePools, ∀ n ∈ e.2.clusterNames,
        TimedAndProbedOnce (healthTick outcomes elapsed proxy (healthRun proxy steps)).trace n elapsed := by
  obtain ⟨rules, proxy, hrul, hpro⟩ : ∃ rules proxy,
      compileRouteRules (fun _ => none) (storeWorkspace [lit "canary"]).routes = .ok rules ∧
      compilePublicProxy (storeWorkspace [lit "canary"]) (storeListener .http1) rules = .ok proxy := ⟨_, _, rfl, rfl⟩
  refine ⟨rules, proxy, hrul, hpro, (routed_clusters_timed_and_probed_iff hpro).2 ⟨by decide, ?_⟩⟩
  have hall : (storeWorkspace [lit "canary"]).routeClusters (lit "all") = [lit "stable"] := rfl
  have hnew : (storeWorkspace [lit "canary"]).routeClusters (lit "new") = [lit "canary"] := rfl
  have hlea : ∀ routeName ∈ [lit "all", lit "new"], LeadsScope (storeWorkspace [lit "canary"]) (storeListener .http1) routeName := by
    intro routeName hmem
    refine ⟨hmem, fun earlier hear hlt => ?_⟩
    fin_cases hmem <;> fin_cases hear <;> first | exact absurd hlt (lt_irrefl _) | decide +kernel
  intro routeName hr clusterName hc
  refine ⟨routeName, hlea _ hr, ?_, fun other hoth hmem => ?_⟩
  · fin_cases hr
    · rw [mem_singleton.1 hc]
      exact List.count_singleton_self
    · rw [mem_singleton.1 hc]
      exact List.count_singleton_self
  · have hoth := hoth.1
    fin_cases hr <;> fin_cases hoth <;> simp only [hall, hnew] at hc hmem
    · rfl
    · rw [mem_singleton.1 hc] at hmem
      exact absurd hmem (by decide +kernel)
    · rw [mem_singleton.1 hc] at hmem
      exact absurd hmem (by decide +kernel)
    · rfl

end WayBalancer
