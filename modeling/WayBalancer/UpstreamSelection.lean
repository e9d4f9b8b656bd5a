import WayBalancer.UpstreamBalancer
import WayBalancer.UpstreamHealthSpec
/-!
# UpstreamSelection — only eligible endpoints are selected

The candidates of a registered cluster are its eligible endpoints; every way a candidate is chosen, by locality, by affinity
or by an algorithm, stays among them, and finds one where there is one.
-/
namespace WayBalancer

open Str

variable {l : List EndpointSelectionCandidate}

/-! ## Eligible endpoints -/

namespace UpstreamHealthRegistry

variable (s : UpstreamHealthRegistry) (n : UpstreamClusterName)

/-- The endpoint is ready, and its record has a status that passes. -/
def ReadyAs (p : EndpointHealthStatus → Prop) (e : UpstreamEndpoint) : Prop :=
  e.state.isReady = true ∧ ∃ r, s.records.get? ⟨n, e.id⟩ = some r ∧ p r.status

def Available (e : UpstreamEndpoint) : Prop :=
  s.ReadyAs n (fun status => status.isAvailable = true) e

/-- An endpoint of the cluster that may be selected: an available one, or an unhealthy one under a policy that includes them
where the cluster has none available. -/
def Eligible (c : UpstreamCluster) (policy : UpstreamSelectionPolicy) (e : UpstreamEndpoint) : Prop :=
  e ∈ c.endpoints ∧ (s.Available n e ∨
    s.ReadyAs n (fun status => status = .unhealthy) e ∧ policy.noHealthyFallback = .includeUnhealthy ∧
      ∀ e' ∈ c.endpoints, ¬ s.Available n e')

def CandidateFor (e : UpstreamEndpoint) (x : EndpointSelectionCandidate) : Prop :=
  ∃ r, s.records.get? ⟨n, e.id⟩ = some r ∧ x = ⟨n, e.id, e.address, e.metadata, r.snapshot s.policy⟩

/-! ## The candidates of a registry -/

theorem Tracked.record_of_mem {s : UpstreamHealthRegistry} (h : s.Tracked) {n : UpstreamClusterName} {c : UpstreamCluster}
    (hc : s.registry.cluster n = some c) {e : UpstreamEndpoint} (he : e ∈ c.endpoints) :
    ∃ r, s.records.get? ⟨n, e.id⟩ = some r ∧ s.recordOf n e = .ok r := by
  have hmem : e.id ∈ s.registry.ids n := by
    rw [EndpointRegistry.ids_of_cluster hc]
    exact List.mem_map_of_mem he
  obtain ⟨r, hr⟩ := Option.isSome_iff_exists.1 ((h ⟨n, e.id⟩).2 hmem)
  refine ⟨r, hr, ?_⟩
  rw [recordOf, hr]

def Passes (includeUnhealthy : Bool) (status : EndpointHealthStatus) : Prop :=
  status.isAvailable = true ∨ includeUnhealthy = true ∧ status = .unhealthy

theorem candidatesAmong_ok {s : UpstreamHealthRegistry} {n : UpstreamClusterName} (inc : Bool) :
    ∀ {es : List UpstreamEndpoint}, (∀ e ∈ es, ∃ r, s.records.get? ⟨n, e.id⟩ = some r ∧ s.recordOf n e = .ok r) →
      ∃ l, s.candidatesAmong n inc es = .ok l ∧ ∀ x, x ∈ l ↔ ∃ e ∈ es, s.ReadyAs n (Passes inc) e ∧ s.CandidateFor n e x
  | [], _ => ⟨[], rfl, by simp⟩
  | e :: es, h => by
    obtain ⟨l, hl, hmem⟩ := candidatesAmong_ok inc (fun e' he' => h e' (List.mem_cons_of_mem _ he'))
    obtain ⟨r, hr, hrec⟩ := h e List.mem_cons_self
    rw [candidatesAmong]
    split_ifs with hrea
    · rw [hrec, hl]
      by_cases hp : r.status.isAvailable = true ∨ inc = true ∧ r.status = .unhealthy
      · refine ⟨_, if_pos hp, fun x => ?_⟩
        rw [List.mem_cons, hmem]
        constructor
        · rintro (rfl | ⟨e', he', hx⟩)
          · exact ⟨e, List.mem_cons_self, ⟨hrea, r, hr, hp⟩, r, hr, rfl⟩
          · exact ⟨e', List.mem_cons_of_mem _ he', hx⟩
        · rintro ⟨e', he', hx, r', hr', rfl⟩
          rcases List.mem_cons.1 he' with rfl | he'
          · cases hr.symm.trans hr'
            exact .inl rfl
          · exact .inr ⟨e', he', hx, r', hr', rfl⟩
      · refine ⟨l, if_neg hp, fun x => ?_⟩
        rw [hmem, List.exists_mem_cons_iff]
        refine (or_iff_right ?_).symm
        rintro ⟨⟨-, r', hr', hp'⟩, -⟩
        cases hr.symm.trans hr'
        exact hp hp'
    · refine ⟨l, hl, fun x => ?_⟩
      rw [hmem, List.exists_mem_cons_iff]
      exact (or_iff_right (fun hx => hrea hx.1.1)).symm

theorem Tracked.selectionCandidates_ok {s : UpstreamHealthRegistry} (h : s.Tracked) {n : UpstreamClusterName}
    {c : UpstreamCluster} (hc : s.registry.cluster n = some c) (inc : Bool) :
    ∃ l, s.selectionCandidates n inc = .ok l ∧ ∀ x, x ∈ l ↔ ∃ e ∈ c.endpoints, s.ReadyAs n (Passes inc) e ∧ s.CandidateFor n e x := by
  obtain ⟨l, hl, hmem⟩ := candidatesAmong_ok inc (fun e he => h.record_of_mem hc he)
  refine ⟨l.insertionSort (fun left right => left.endpointId ≤ right.endpointId), ?_, fun x => ?_⟩
  · simp only [selectionCandidates, clusterOf, hc, hl, Except.map]
  · rw [(List.perm_insertionSort _ l).mem_iff]
    exact hmem x

end UpstreamHealthRegistry

/-! ## Choices stay among the candidates -/

open Proc

theorem preferByField_among {p : EndpointSelectionCandidate → Bool} (hne : l ≠ []) :
    (preferByField l p).1 ≠ [] ∧ (preferByField l p).1.Sublist l := by
  unfold preferByField
  by_cases h : (l.filter p).isEmpty = true
  · simp only [if_pos h]
    exact ⟨hne, .refl l⟩
  · simp only [if_neg h]
    exact ⟨fun e => h (by rw [e]; rfl), List.filter_sublist⟩

theorem preferPlace_among (place : EndpointSelectionCandidate → Option Text) (preferred : Option Text) (hne : l ≠ []) :
    (preferPlace l place preferred).1 ≠ [] ∧ (preferPlace l place preferred).1.Sublist l := by
  cases preferred with
  | none => exact ⟨hne, .refl l⟩
  | some preferred => exact preferByField_among hne

/-- **Locality narrows the candidates to some of them.** -/
theorem applyLocalityPreference_among (policy : UpstreamSelectionPolicy) (context : SelectionContext) (hne : l ≠ []) :
    (applyLocalityPreference l policy context).1 ≠ [] ∧ (applyLocalityPreference l policy context).1.Sublist l := by
  have hloc := preferPlace_among (·.metadata.locality) context.preferredLocality hne
  have hz := preferPlace_among (·.metadata.zone) context.preferredZone hne
  unfold applyLocalityPreference
  cases policy.locality with
  | disabled => exact ⟨hne, .refl l⟩
  | preferLocality => exact hloc
  | preferZone => exact hz
  | preferLocalityThenZone =>
    by_cases h : (preferPlace l (·.metadata.locality) context.preferredLocality).2 = true
    · simp only [if_pos h]
      exact hloc
    · simp only [if_neg h]
      exact hz

theorem getElem?_mod_mem {α : Type} {l : List α} (hne : l ≠ []) {i : ℕ} : ∃ x, l[i % l.length]? = some x ∧ x ∈ l := by
  have hlt : i % l.length < l.length := Nat.mod_lt _ (List.length_pos_iff.2 hne)
  exact ⟨l[i % l.length], List.getElem?_eq_getElem hlt, List.getElem_mem hlt⟩

variable {fallback : Bool} {n : UpstreamClusterName}

theorem selectRoundRobin_mem (hne : l ≠ []) : Returns (selectRoundRobin n l fallback) (· ∈ l) := by
  refine returns_get.bind (fun b _ => (returns_update _).bind (fun _ _ => ?_))
  obtain ⟨x, hx, hmem⟩ := getElem?_mod_mem hne
  exact returns_okOr hx hmem

theorem weightedTurn_best : ∀ (l : List EndpointSelectionCandidate)
    (acc : SortedMap UpstreamEndpointId ℤ × Option (EndpointSelectionCandidate × ℤ)),
    (l ≠ [] ∨ acc.2.isSome = true) → ∃ x w, (l.foldl weightedTurn acc).2 = some (x, w) ∧ (x ∈ l ∨ ∃ w', acc.2 = some (x, w'))
  | [], acc, h => by
    rcases h with h | h
    · exact absurd rfl h
    · obtain ⟨⟨x, w⟩, hx⟩ := Option.isSome_iff_exists.1 h
      exact ⟨x, w, hx, .inr ⟨w, hx⟩⟩
  | y :: l, acc, _ => by
    -- whatever the turn keeps, it keeps something: this candidate or the best so far
    have ht : ∃ x w, (weightedTurn acc y).2 = some (x, w) ∧ (x = y ∨ acc.2 = some (x, w)) := by
      unfold weightedTurn
      cases hb : acc.2 with
      | none => exact ⟨y, _, rfl, .inl rfl⟩
      | some best =>
        obtain ⟨best, bestWeight⟩ := best
        simp only
        split
        · exact ⟨y, _, rfl, .inl rfl⟩
        · exact ⟨best, bestWeight, rfl, .inr rfl⟩
    obtain ⟨x, w, hx, hf⟩ := ht
    obtain ⟨z, v, hz, hmem⟩ := weightedTurn_best l (weightedTurn acc y) (.inr (by rw [hx]; rfl))
    refine ⟨z, v, hz, ?_⟩
    rcases hmem with hmem | ⟨w', hw'⟩
    · exact .inl (List.mem_cons_of_mem _ hmem)
    · rw [hx] at hw'
      cases hw'
      rcases hf with rfl | hf
      · exact .inl List.mem_cons_self
      · exact .inr ⟨_, hf⟩

theorem WeightedState.select_mem {state : WeightedState} (hne : l ≠ []) : ∃ x state', state.select l = some (x, state') ∧ x ∈ l := by
  obtain ⟨x, w, hx, hmem⟩ := weightedTurn_best l
    (state.currentWeights.filterKeys (fun id => l.any (fun c => c.endpointId = id)), none) (.inl hne)
  refine ⟨x, _, (by simp only [select, hx, Option.map_some]; rfl), ?_⟩
  rcases hmem with hmem | ⟨_, hn⟩
  · exact hmem
  · cases hn

theorem selectWeightedRoundRobin_mem (hne : l ≠ []) : Returns (selectWeightedRoundRobin n l fallback) (· ∈ l) := by
  refine returns_get.bind (fun b _ => ?_)
  obtain ⟨x, state', hx, hmem⟩ := WeightedState.select_mem hne
  refine (returns_okOr (Q := fun p => p.1 ∈ l) hx hmem).bind (fun p hp => ?_)
  exact (returns_update _).bind (fun _ _ => returns_pure hp)

theorem selectPowerOfTwo_mem {requestHash : UInt64} (hne : l ≠ []) : Returns (selectPowerOfTwo l requestHash) (· ∈ l) := by
  unfold selectPowerOfTwo
  split_ifs with hone
  · have hlt : 0 < l.length := by omega
    exact returns_okOr (List.getElem?_eq_getElem hlt) (List.getElem_mem hlt)
  · obtain ⟨x, hx, hxm⟩ := getElem?_mod_mem hne
    refine (returns_okOr (Q := (· ∈ l)) hx hxm).bind (fun first hfir => ?_)
    have hsec : ∀ i j, ∃ y, l[secondIndex (i % l.length) (j % l.length) l.length]? = some y ∧ y ∈ l := by
      intro i j
      unfold secondIndex
      split_ifs with hs
      · exact getElem?_mod_mem hne
      · exact getElem?_mod_mem hne
    obtain ⟨y, hy, hym⟩ := hsec (mix64 requestHash).toNat (mix64 (requestHash ^^^ 0x9e3779b97f4a7c15)).toNat
    refine (returns_okOr (Q := (· ∈ l)) hy hym).bind (fun t hsec => returns_pure ?_)
    split_ifs with hl
    · exact hsec
    · exact hfir

theorem selectByAlgorithm_mem {policy : UpstreamSelectionPolicy} {context : SelectionContext} (hne : l ≠ []) :
    Returns (selectByAlgorithm n policy context l fallback) (· ∈ l) := by
  unfold selectByAlgorithm
  cases policy.algorithm with
  | roundRobin => exact (returns_update _).bind (fun _ _ => selectRoundRobin_mem hne)
  | weightedRoundRobin => exact (returns_update _).bind (fun _ _ => selectWeightedRoundRobin_mem hne)
  | powerOfTwoChoices => exact (returns_update _).bind (fun _ _ => selectPowerOfTwo_mem hne)

/-! ## The selection -/

section Selection

variable (affinityScore : Text → EndpointSelectionCandidate → ℤ) {s : UpstreamHealthRegistry} {n : UpstreamClusterName}
  {c : UpstreamCluster}

theorem returns_none : Returns (pure none : Selecting (Option EndpointSelectionCandidate)) (fun o => ∀ x ∈ o, x ∈ l) :=
  returns_pure (fun x hx => absurd hx (Option.not_mem_none x))

theorem takePreferred_mem {preferred : EndpointSelectionCandidate} : Returns (takePreferred l preferred) (fun o => ∀ x ∈ o, x ∈ l) := by
  unfold takePreferred
  cases hf : l.find? (fun c => c.endpointId = preferred.endpointId) with
  | some selected =>
    have hs : ∀ x ∈ some selected, x ∈ l := by
      intro x hx
      obtain rfl := Option.mem_some_iff.1 hx
      exact List.mem_of_find?_eq_some hf
    exact (returns_update _).bind (fun _ _ => returns_pure (Q := fun o => ∀ x ∈ o, x ∈ l) hs)
  | none => exact (returns_update _).bind (fun _ _ => returns_none)

variable {policy : UpstreamSelectionPolicy}

theorem trySelectAffinityCandidate_mem (hs : s.Tracked) (hc : s.registry.cluster n = some c) {context : SelectionContext} :
    Returns (trySelectAffinityCandidate affinityScore s n policy context l) (fun o => ∀ x ∈ o, x ∈ l) := by
  unfold trySelectAffinityCandidate
  split
  · obtain ⟨all, hall, -⟩ := hs.selectionCandidates_ok hc true
    refine (returns_ofExcept (Q := fun _ => True) (by rw [hall]; rfl) trivial).bind (fun all' _ => ?_)
    split
    · exact returns_none
    · exact takePreferred_mem
  · exact returns_none

/-- Where every eligible endpoint is available, the candidates are those of the available ones. -/
theorem exists_eligible_iff (hall : ∀ e, s.Eligible n c policy e → s.Available n e) {x : EndpointSelectionCandidate} :
    (∃ e ∈ c.endpoints, s.Available n e ∧ s.CandidateFor n e x) ↔ ∃ e, s.Eligible n c policy e ∧ s.CandidateFor n e x := by
  constructor
  · rintro ⟨e, he, hav, hx⟩
    exact ⟨e, ⟨he, .inl hav⟩, hx⟩
  · rintro ⟨e, he, hx⟩
    exact ⟨e, he.1, hall e he, hx⟩

/-- **The candidates a selection starts from are the eligible endpoints.** -/
theorem eligibleCandidates_ok (hs : s.Tracked) (hc : s.registry.cluster n = some c) :
    Returns (eligibleCandidates s n policy) (fun p => ∀ x, x ∈ p.1 ↔ ∃ e, s.Eligible n c policy e ∧ s.CandidateFor n e x) := by
  obtain ⟨av, hava, hmem⟩ := hs.selectionCandidates_ok hc false
  have hpas : ∀ e, s.ReadyAs n (UpstreamHealthRegistry.Passes false) e ↔ s.Available n e := by
    simp [UpstreamHealthRegistry.Available, UpstreamHealthRegistry.ReadyAs, UpstreamHealthRegistry.Passes]
  simp only [hpas] at hmem
  refine (returns_ofExcept (Q := (· = av)) (by rw [hava]; rfl) rfl).bind (fun l hl => ?_)
  subst hl
  by_cases hemp : l.isEmpty = true
  · -- no endpoint is available, as one would be a candidate
    have hn : ∀ e ∈ c.endpoints, ¬ s.Available n e := by
      intro e he hav
      obtain ⟨r, hr, -⟩ := hav.2
      have hin := (hmem _).2 ⟨e, he, hav, r, hr, rfl⟩
      rw [List.isEmpty_iff.1 hemp] at hin
      cases hin
    rw [if_pos hemp]
    refine (returns_update _).bind (fun _ _ => ?_)
    split_ifs with hinc
    · obtain ⟨all, hall, hmemAll⟩ := hs.selectionCandidates_ok hc true
      refine (returns_ofExcept (Q := (· = all)) (by rw [hall]; rfl) rfl).bind (fun l' hl' => returns_pure (fun x => ?_))
      subst hl'
      rw [hmemAll]
      constructor
      · rintro ⟨e, he, ⟨hrea, r, hr, hav | ⟨-, hun⟩⟩, hx⟩
        · exact absurd ⟨hrea, r, hr, hav⟩ (hn e he)
        · exact ⟨e, ⟨he, .inr ⟨⟨hrea, r, hr, hun⟩, hinc, hn⟩⟩, hx⟩
      · rintro ⟨e, ⟨he, hav | ⟨⟨hrea, r, hr, hun⟩, -, -⟩⟩, hx⟩
        · exact absurd hav (hn e he)
        · exact ⟨e, he, ⟨hrea, r, hr, .inr ⟨rfl, hun⟩⟩, hx⟩
    · refine returns_pure (fun x => ?_)
      rw [hmem]
      exact exists_eligible_iff (fun e he => he.2.resolve_right (fun hun => hinc hun.2.1))
  · rw [if_neg hemp]
    refine returns_pure (fun x => ?_)
    rw [hmem]
    -- a candidate there is available
    obtain ⟨y, hy⟩ := List.exists_mem_of_ne_nil l (fun e => hemp (by rw [e]; rfl))
    obtain ⟨e', he', hav', -⟩ := (hmem y).1 hy
    exact exists_eligible_iff (fun e he => he.2.resolve_right (fun hun => hun.2.2 e' he' hav'))

variable {fallback : Bool}

theorem selectAmong_mem (hs : s.Tracked) (hc : s.registry.cluster n = some c) {context : SelectionContext} (hne : l ≠ []) :
    Returns (selectAmong affinityScore s n policy context l fallback) (· ∈ l) := by
  refine (trySelectAffinityCandidate_mem affinityScore hs hc).bind (fun o ho => ?_)
  cases o with
  | none => exact selectByAlgorithm_mem hne
  | some x => exact returns_pure (ho x rfl)

def Reports (x : EndpointSelectionCandidate) (selected : SelectedEndpoint) : Prop :=
  selected.clusterName = x.clusterName ∧ selected.endpointId = x.endpointId ∧ selected.address = x.address ∧
    selected.effectiveWeight = x.health.effectiveWeight ∧ selected.healthStatus = x.health.status

theorem returns_countIf {cond : Bool} {f : SelectionCounters → SelectionCounters} : Returns (countIf cond f) (fun _ => True) := by
  cases cond with
  | true => exact returns_update _
  | false => exact returns_pure trivial

theorem selectFrom_reports (hs : s.Tracked) (hc : s.registry.cluster n = some c) {context : SelectionContext} (hne : l ≠ []) :
    Returns (selectFrom affinityScore s n policy context l fallback) (fun selected => ∃ x ∈ l, Reports x selected) := by
  obtain ⟨hn, hsub⟩ := applyLocalityPreference_among policy context hne
  refine returns_countIf.bind (fun _ _ => ?_)
  refine (selectAmong_mem affinityScore hs hc hn).bind (fun x hx => ?_)
  exact returns_countIf.bind (fun _ _ => returns_pure ⟨x, hsub.subset hx, rfl, rfl, rfl, rfl, rfl⟩)

end Selection

/-- **Only eligible endpoints are selected, and one is wherever there is one**: in every reachable registry, for every policy,
context and state of the balancer, a selection in a registered cluster reports an eligible endpoint of it, with its address
and its health, or fails with no eligible endpoint where there is none. -/
theorem selectEndpoint_eligible (affinityScore : Text → EndpointSelectionCandidate → ℤ) (healthPolicy : EndpointHealthPolicy)
    (calls : List HealthCall) (n : UpstreamClusterName) (policy : UpstreamSelectionPolicy) (context : SelectionContext)
    (b : UpstreamBalancer) :
    let s := (UpstreamHealthRegistry.new healthPolicy).run calls
    let result := (selectEndpoint affinityScore s n policy context b).1
    match s.registry.cluster n with
    | none   => result = .error (.error (.health (.registry (.clusterNotFound n))))
    | some c =>
      (∃ e selected, result = .ok selected ∧ s.Eligible n c policy e ∧ selected.clusterName = n ∧ selected.endpointId = e.id ∧
        selected.address = e.address ∧ ∃ r, s.records.get? ⟨n, e.id⟩ = some r ∧ selected.healthStatus = r.status ∧
          selected.effectiveWeight = r.effectiveWeight) ∨
      (result = .error (.error (.noEligibleEndpoints n)) ∧ ∀ e, ¬ s.Eligible n c policy e) := by
  intro s result
  have hs : s.Tracked := UpstreamHealthRegistry.Tracked.run calls UpstreamHealthRegistry.tracked_new
  cases hc : s.registry.cluster n with
  | none =>
    have hca : candidatesFrom s n false b = (.error (.error (.health (.registry (.clusterNotFound n)))), b) := by
      simp only [candidatesFrom, Proc.ofExcept, UpstreamHealthRegistry.selectionCandidates, UpstreamHealthRegistry.clusterOf, hc]
      rfl
    have hel : eligibleCandidates s n policy b = (.error (.error (.health (.registry (.clusterNotFound n)))), b) :=
      bind_of_error _ hca
    change (selectEndpoint affinityScore s n policy context b).1 = _
    unfold selectEndpoint
    rw [bind_of_error _ hel]
  | some c =>
    obtain ⟨⟨l, fallback⟩, b', hp, hmem⟩ := eligibleCandidates_ok hs hc b
    change (∃ e selected, (selectEndpoint affinityScore s n policy context b).1 = .ok selected ∧ _) ∨
      (selectEndpoint affinityScore s n policy context b).1 = _ ∧ _
    unfold selectEndpoint
    rw [bind_of_ok _ hp]
    by_cases hemp : l = []
    · subst hemp
      refine .inr ⟨rfl, fun e he => ?_⟩
      have hrec : ∃ r, s.records.get? ⟨n, e.id⟩ = some r := by
        obtain ⟨r, hr, -⟩ := hs.record_of_mem hc he.1
        exact ⟨r, hr⟩
      obtain ⟨r, hr⟩ := hrec
      have hin := (hmem _).2 ⟨e, he, r, hr, rfl⟩
      cases hin
    · have hens : (ensure (!l.isEmpty) (.error (.noEligibleEndpoints n)) : Selecting Unit) b' = (.ok (), b') :=
        ensure_of_true (by simpa using hemp)
      obtain ⟨selected, b'', hsel, x, hx, hrep⟩ := selectFrom_reports affinityScore hs hc hemp b'
      obtain ⟨e, he, r, hr, rfl⟩ := (hmem x).1 hx
      obtain ⟨hcl, hid, hadd, hwt, hst⟩ := hrep
      refine .inl ⟨e, selected, ?_, he, hcl, hid, hadd, r, hr, hst, hwt⟩
      change (((ensure (!l.isEmpty) (.error (.noEligibleEndpoints n)) : Selecting Unit) >>= fun _ =>
        selectFrom affinityScore s n policy context l fallback) b').1 = _
      rw [bind_of_ok _ hens, hsel]

end WayBalancer
