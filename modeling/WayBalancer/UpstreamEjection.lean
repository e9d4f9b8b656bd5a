import WayBalancer.UpstreamHealthSpec
/-!
# UpstreamEjection — the ejected endpoints of a cluster and its budget

A new ejection stands only if the budget, counted with it, admits it; nothing else but a removal can push a cluster past
its budget.
-/
namespace WayBalancer

open Word
open UpstreamHealthRegistry (new run_policy tracked_new)

variable {s : UpstreamHealthRegistry} {call : HealthCall}

namespace UpstreamHealthRegistry

/-! ## The ejection budget -/

def isEjected (s : UpstreamHealthRegistry) (key : EndpointKey) : Bool :=
  (s.records.get? key).any (fun r => r.status = .ejected)

def ejectedIds (s : UpstreamHealthRegistry) (n : UpstreamClusterName) : List UpstreamEndpointId :=
  (s.registry.ids n).filter (fun id => s.isEjected ⟨n, id⟩)

def WithinBudget (s : UpstreamHealthRegistry) : Prop :=
  ∀ n, (s.ejectedIds n).length ≤ (s.registry.ids n).length * s.policy.clusterEjectionBudgetPercent ⌈/⌉ 100

theorem isEjected_iff {key : EndpointKey} : s.isEjected key = true ↔ ∃ r, s.records.get? key = some r ∧ r.status = .ejected := by
  unfold isEjected
  rw [Option.any_eq_true]
  simp only [decide_eq_true_eq]

variable {n : UpstreamClusterName}

theorem Tracked.mem_ids (h : s.Tracked) {id : UpstreamEndpointId} (hej : s.isEjected ⟨n, id⟩ = true) : id ∈ s.registry.ids n := by
  obtain ⟨r, hr, -⟩ := isEjected_iff.1 hej
  exact (h ⟨n, id⟩).1 (by rw [hr]; rfl)

def recordedIds (s : UpstreamHealthRegistry) (n : UpstreamClusterName) : List UpstreamEndpointId :=
  (s.records.entries.filter (fun e => e.1.cluster = n)).map (·.1.endpointId)

theorem mem_recordedIds {id : UpstreamEndpointId} : id ∈ s.recordedIds n ↔ (s.records.get? ⟨n, id⟩).isSome = true := by
  rw [recordedIds, List.mem_map, Option.isSome_iff_exists]
  constructor
  · rintro ⟨⟨⟨n', id'⟩, r⟩, he, rfl⟩
    obtain ⟨hmem, hn⟩ := List.mem_filter.1 he
    have hn : n' = n := of_decide_eq_true hn
    subst hn
    exact ⟨r, SortedMap.get?_eq_some.2 hmem⟩
  · rintro ⟨r, hr⟩
    exact ⟨(⟨n, id⟩, r), List.mem_filter.2 ⟨SortedMap.get?_eq_some.1 hr, decide_eq_true rfl⟩, rfl⟩

theorem recordedIds_nodup (s : UpstreamHealthRegistry) : (s.recordedIds n).Nodup := by
  refine List.pairwise_map.2 ((s.records.sorted.sublist List.filter_sublist).imp_of_mem ?_)
  rintro ⟨⟨n₁, id₁⟩, r₁⟩ ⟨⟨n₂, id₂⟩, r₂⟩ h₁ h₂ hlt hid
  have hn₁ : n₁ = n := of_decide_eq_true (List.mem_filter.1 h₁).2
  have hn₂ : n₂ = n := of_decide_eq_true (List.mem_filter.1 h₂).2
  subst hn₁ hn₂ hid
  exact lt_irrefl _ hlt

theorem Tracked.recordedIds_perm (h : s.Tracked) (n : UpstreamClusterName) : (s.recordedIds n).Perm (s.registry.ids n) := by
  refine (List.perm_ext_iff_of_nodup (s.recordedIds_nodup) (s.registry.ids_nodup n)).2 (fun id => ?_)
  rw [mem_recordedIds]
  exact h ⟨n, id⟩

theorem Tracked.count_ejected (h : s.Tracked) (n : UpstreamClusterName) :
    (s.records.entries.filter (fun e => e.1.cluster = n)).countP (fun e => e.2.status = .ejected) = (s.ejectedIds n).length := by
  have hent : (s.records.entries.filter (fun e => e.1.cluster = n)).countP (fun e => e.2.status = .ejected) =
      (s.recordedIds n).countP (fun id => s.isEjected ⟨n, id⟩) := by
    rw [recordedIds, List.countP_map]
    refine List.countP_congr (fun e he => ?_)
    obtain ⟨hmem, hn⟩ := List.mem_filter.1 he
    have hkey : (⟨n, e.1.endpointId⟩ : EndpointKey) = e.1 := by rw [← of_decide_eq_true hn]
    have hget : s.records.get? e.1 = some e.2 := SortedMap.get?_eq_some.2 hmem
    simp only [Function.comp_apply, hkey, isEjected, hget, Option.any_some]
  rw [hent, (h.recordedIds_perm n).countP_eq, ejectedIds, List.countP_eq_length_filter]

/-- The budget's arithmetic, which saturates, admits no more than the share rounded up. -/
theorem allowed_le (total percent : ℕ) : satAdd (satMul (min total u64Max) percent) 99 / 100 ≤ total * percent ⌈/⌉ 100 := by
  apply Nat.div_le_div_right
  calc satAdd (satMul (min total u64Max) percent) 99 ≤ satMul (min total u64Max) percent + 99 := min_le_left _ _
    _ ≤ min total u64Max * percent + 99 := Nat.add_le_add_right (min_le_left _ _) 99
    _ ≤ total * percent + 100 - 1 := Nat.add_le_add_right (Nat.mul_le_mul_right _ (min_le_left _ _)) 99

theorem Tracked.within_of_budget (h : s.Tracked) {key : EndpointKey} (hej : s.isEjected key = true)
    (hper : s.policy.clusterEjectionBudgetPercent < 100) (hbud : canApplyEjectionBudget s.records key s.policy = true) :
    (s.ejectedIds key.cluster).length ≤ (s.registry.ids key.cluster).length * s.policy.clusterEjectionBudgetPercent ⌈/⌉ 100 := by
  have hlen : (s.records.entries.filter (fun e => e.1.cluster = key.cluster)).length = (s.registry.ids key.cluster).length := by
    rw [← (h.recordedIds_perm key.cluster).length_eq, recordedIds, List.length_map]
  unfold canApplyEjectionBudget at hbud
  rw [if_neg (not_le.2 hper)] at hbud
  simp only [hlen, h.count_ejected key.cluster] at hbud
  split at hbud
  · cases hbud
  have hany : (s.records.get? key).any (fun r => r.status = .ejected) = true := hej
  rw [if_pos hany, decide_eq_true_eq] at hbud
  have hall := allowed_le (s.registry.ids key.cluster).length s.policy.clusterEjectionBudgetPercent
  -- a count that saturated would exceed what is allowed
  rcases min_le_iff.1 hbud with hle | hmax
  · exact hle.trans hall
  · have hsat : satAdd (satMul (min (s.registry.ids key.cluster).length u64Max) s.policy.clusterEjectionBudgetPercent) 99 ≤
        u64Max := min_le_right _ _
    omega

/-! ## Steps and runs -/

variable {policy : EndpointHealthPolicy}

theorem new_not_ejected {e : UpstreamEndpoint} : (EndpointHealthRecord.new e policy).status ≠ .ejected := by
  unfold EndpointHealthRecord.new
  split_ifs with h
  · exact nofun
  · exact nofun

theorem ejected_of_advanced {r : EndpointHealthRecord} {elapsed : ℕ} (h : (r.advanced policy elapsed).status = .ejected) :
    r.status = .ejected := by
  unfold EndpointHealthRecord.advanced at h
  split at h
  · assumption
  · split_ifs at h
    exact h
  · exact h

/-- **An ejection is old, or a signal made it and the budget, counted with it, admitted it.** -/
theorem isEjected_step {key : EndpointKey} (h : (s.step call).isEjected key = true) :
    s.isEjected key = true ∨ canApplyEjectionBudget (s.step call).records key s.policy = true := by
  obtain ⟨r', hr', hej⟩ := isEjected_iff.1 h
  rcases step_record hr' with ⟨e, rfl⟩ | ⟨r, hr, rfl | ⟨ss, rfl, rfl⟩ | ⟨dt, -, rfl⟩⟩
  · exact absurd hej new_not_ejected
  · exact .inl (isEjected_iff.2 ⟨_, hr, hej⟩)
  · rcases s.settled_cases with ⟨heq, -⟩ | ⟨heq, hbud⟩
    · rw [heq] at hej
      cases hej
    · rw [heq] at hej
      rcases hbud hej with hold | hbud
      · exact .inl (isEjected_iff.2 ⟨r, hr, hold⟩)
      · right
        change canApplyEjectionBudget (s.note key ss).2.records key s.policy = true
        rw [note_records ss hr, heq]
        exact hbud
  · exact .inl (isEjected_iff.2 ⟨r, hr, ejected_of_advanced hej⟩)

end UpstreamHealthRegistry

def HealthCall.isRemoval : HealthCall → Bool
  | .removeCluster _ | .removeEndpoint _ _ => true
  | _                                      => false

namespace UpstreamHealthRegistry

theorem ids_step (h : call.isRemoval = false) (n : UpstreamClusterName) :
    (s.registry.ids n).length ≤ ((s.step call).registry.ids n).length := by
  cases call with
  | insertCluster c =>
    change _ ≤ ((s.insertCluster c).2.registry.ids n).length
    rw [insertCluster_state]
    rcases s.registry.ids_insertCluster c with ⟨hok, hno, hids⟩ | ⟨⟨error, herr⟩, hids⟩
    · simp only [hok, trackAll_frame, hids]
      by_cases hn : n = c.name
      · rw [hn, hno]
        exact Nat.zero_le _
      · rw [if_neg hn]
    · simp only [herr, hids, le_refl]
  | insertEndpoint name e =>
    change _ ≤ ((s.insertEndpoint name e).2.registry.ids n).length
    rw [insertEndpoint_state]
    rcases s.registry.ids_insertEndpoint name e with ⟨hok, hids⟩ | ⟨⟨error, herr⟩, hids⟩
    · simp only [hok, track_frame, hids]
      by_cases hn : n = name
      · rw [if_pos hn, List.length_append]
        exact Nat.le_add_right _ _
      · rw [if_neg hn]
    · simp only [herr, hids, le_refl]
  | setEndpointState name id state =>
    change _ ≤ ((s.setEndpointState name id state).2.registry.ids n).length
    rw [setEndpointState_state, EndpointRegistry.ids_setEndpointState]
  | note key ss =>
    change _ ≤ ((s.note key ss).2.registry.ids n).length
    rw [s.note_frame.2]
  | advanceTime dt =>
    change _ ≤ ((s.advanceTime dt).registry.ids n).length
    rw [(s.advanceTime_frame dt).2]
  | removeCluster name => cases h
  | removeEndpoint name id => cases h

theorem WithinBudget.step (h : s.WithinBudget) (ht : s.Tracked) (hper : s.policy.clusterEjectionBudgetPercent < 100)
    (hc : call.isRemoval = false) : (s.step call).WithinBudget := by
  intro n
  by_cases hfre : ∃ id, (s.step call).isEjected ⟨n, id⟩ = true ∧ s.isEjected ⟨n, id⟩ = false
  · -- something of the cluster was ejected just now, so its budget was asked just now
    obtain ⟨id, hnow, hbef⟩ := hfre
    rcases isEjected_step hnow with hold | hbud
    · rw [hbef] at hold
      cases hold
    · rw [← s.step_policy call] at hper hbud
      exact (ht.step call).within_of_budget hnow hper hbud
  · -- otherwise what is ejected was so before, among no more endpoints than now
    have hsub : (s.step call).ejectedIds n ⊆ s.ejectedIds n := by
      intro id hid
      have hold : s.isEjected ⟨n, id⟩ = true := by
        by_contra hnot
        exact hfre ⟨id, (List.mem_filter.1 hid).2, Bool.not_eq_true _ ▸ hnot⟩
      exact List.mem_filter.2 ⟨ht.mem_ids hold, hold⟩
    have hnd : ((s.step call).ejectedIds n).Nodup := ((s.step call).registry.ids_nodup n).filter _
    calc ((s.step call).ejectedIds n).length ≤ (s.ejectedIds n).length := (hnd.subperm hsub).length_le
      _ ≤ (s.registry.ids n).length * s.policy.clusterEjectionBudgetPercent ⌈/⌉ 100 := h n
      _ ≤ ((s.step call).registry.ids n).length * (s.step call).policy.clusterEjectionBudgetPercent ⌈/⌉ 100 := by
        rw [s.step_policy call, Nat.ceilDiv_eq_add_pred_div, Nat.ceilDiv_eq_add_pred_div]
        have hmul := Nat.mul_le_mul_right s.policy.clusterEjectionBudgetPercent (ids_step (s := s) hc n)
        omega

theorem WithinBudget.run : ∀ (calls : List HealthCall) {s : UpstreamHealthRegistry}, s.WithinBudget → s.Tracked →
    s.policy.clusterEjectionBudgetPercent < 100 → (∀ call ∈ calls, call.isRemoval = false) → (s.run calls).WithinBudget
  | [], _, h, _, _, _ => h
  | call :: calls, s, h, ht, hper, hcal => by
    have hs := h.step ht hper (hcal call List.mem_cons_self)
    rw [← s.step_policy call] at hper
    exact WithinBudget.run calls hs (ht.step call) hper (fun call' h' => hcal call' (List.mem_cons_of_mem _ h'))

end UpstreamHealthRegistry

/-- **Ejections stay within the budget**: in a run without removals, the ejected endpoints of a registered cluster are at
most the budget's share of its endpoints, rounded up. -/
theorem ejections_within_budget (policy : EndpointHealthPolicy) (hpercent : policy.clusterEjectionBudgetPercent < 100)
    (calls : List HealthCall) (hcalls : ∀ call ∈ calls, call.isRemoval = false) (n : UpstreamClusterName) (c : UpstreamCluster)
    (hc : ((new policy).run calls).registry.cluster n = some c) :
    c.endpoints.countP (fun e => ((new policy).run calls).isEjected ⟨n, e.id⟩) ≤
      c.endpoints.length * policy.clusterEjectionBudgetPercent ⌈/⌉ 100 := by
  have hnew : (new policy).WithinBudget := fun n => Nat.zero_le _
  have hrun := UpstreamHealthRegistry.WithinBudget.run calls hnew tracked_new hpercent hcalls n
  rw [UpstreamHealthRegistry.run_policy, UpstreamHealthRegistry.ejectedIds, EndpointRegistry.ids_of_cluster hc,
    List.length_map, ← List.countP_eq_length_filter, List.countP_map] at hrun
  exact hrun

/-- The only endpoint of a cluster may be ejected under a budget of half its endpoints. -/
theorem ejections_within_budget_sole :
    let s := (new .default).run [.insertCluster soleCluster, .note soleKey .activeFailure,
      .note soleKey .activeFailure, .note soleKey .activeFailure]
    s.isEjected soleKey = true ∧ ∃ c, s.registry.cluster soleKey.cluster = some c ∧
      c.endpoints.countP (fun e => s.isEjected ⟨soleKey.cluster, e.id⟩) ≤ c.endpoints.length * 50 ⌈/⌉ 100 := by
  intro s
  have hs : (s.registry.cluster soleKey.cluster).isSome = true := by decide +kernel
  obtain ⟨c, hc⟩ := Option.isSome_iff_exists.1 hs
  refine ⟨by decide +kernel, c, hc, ejections_within_budget .default (by decide) _ ?_ soleKey.cluster c hc⟩
  simp [HealthCall.isRemoval]

end WayBalancer
