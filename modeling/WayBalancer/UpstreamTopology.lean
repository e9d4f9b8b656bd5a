import WayBalancer.UpstreamSelection
/-!
# UpstreamTopology — the endpoints of a registry and their states

Every call on the health registry keeps its records on the registered endpoints, and one that fails changes neither
(`topology_tracked`).  A change of an endpoint's state reports "not changed" as "not found", so the second of two equal calls
fails.
-/
namespace WayBalancer

/-! ## States of endpoints -/

/-- In a cluster that is there, the call fails for an endpoint that is not, and for no other; and it sets the state of that
endpoint and of no other. -/
def EndpointRegistry.SetsState (r : EndpointRegistry) (n : UpstreamClusterName) (id : UpstreamEndpointId) (state : EndpointState) :
    Prop :=
  (r.cluster n).isSome = true → (r.setEndpointState n id state).1 =
      (if r.lookup n id = none then .error (.endpointNotFound n id) else .ok ()) ∧
    r.SetAt (r.setEndpointState n id state).2 n id ((r.lookup n id).map (·.withState state))

theorem setsState_iff {r : EndpointRegistry} {n : UpstreamClusterName} {id : UpstreamEndpointId} {state : EndpointState} :
    r.SetsState n id state ↔ ∀ e, r.lookup n id = some e → e.state ≠ state := by
  have hset := (r.setEndpointState_spec n id state).2
  cases hc : r.cluster n with
  | none =>
    rw [EndpointRegistry.lookup_of_none hc]
    exact iff_of_true (fun h => by rw [hc] at h; cases h) nofun
  | some c =>
    unfold EndpointRegistry.SetsState
    rw [and_iff_left hset, EndpointRegistry.lookup_of_cluster hc]
    simp only [EndpointRegistry.setEndpointState, hc, UpstreamCluster.setEndpointState, Option.isSome_some, forall_const]
    cases he : c.endpoint id with
    | none => exact iff_of_true rfl nofun
    | some e =>
      by_cases hs : e.state = state
      · simp [hs]
      · simp [hs]

/-- **A state is set faithfully exactly where it is another one, and set again faithfully exactly where there is no endpoint.** -/
theorem setsState_twice_iff (r : EndpointRegistry) (n : UpstreamClusterName) (id : UpstreamEndpointId) (state : EndpointState) :
    (r.SetsState n id state ↔ ∀ e, r.lookup n id = some e → e.state ≠ state) ∧
    (r.SetsState n id state ∧ (r.setEndpointState n id state).2.SetsState n id state ↔ r.lookup n id = none) := by
  have haft : (r.setEndpointState n id state).2.lookup n id = (r.lookup n id).map (·.withState state) := by
    rw [(r.setEndpointState_spec n id state).2.lookup_eq, if_pos ⟨rfl, rfl⟩]
  refine ⟨setsState_iff, ?_⟩
  rw [setsState_iff, setsState_iff, haft]
  cases r.lookup n id with
  | none => exact iff_of_true ⟨nofun, nofun⟩ rfl
  | some e => exact iff_of_false (fun h => h.2 _ rfl rfl) nofun

/-- An endpoint that is ready is not found when it is to be made ready. -/
theorem setEndpointState_not_found :
    let r : EndpointRegistry := ⟨SortedMap.empty.insert soleCluster.name soleCluster, 0⟩
    ((r.cluster soleCluster.name).bind (·.endpoint soleEndpoint.id)).isSome = true ∧
      (r.setEndpointState soleCluster.name soleEndpoint.id .ready).1 =
        .error (.endpointNotFound soleCluster.name soleEndpoint.id) := by
  decide +kernel

/-! ## Records and endpoints -/

namespace UpstreamHealthRegistry

def Fails (s : UpstreamHealthRegistry) : HealthCall → Prop
  | .insertCluster c                    => (s.insertCluster c).1 ≠ .ok ()
  | .removeCluster n                    => (s.removeCluster n).1 = none
  | .insertEndpoint n e                 => (s.insertEndpoint n e).1 ≠ .ok ()
  | .removeEndpoint n id                => ∀ e, (s.removeEndpoint n id).1 ≠ .ok e
  | .setEndpointState n id state        => (s.setEndpointState n id state).1 ≠ .ok ()
  | .note key signal                    => ∀ snapshot, (s.note key signal).1 ≠ .ok snapshot
  | .advanceTime _                      => False

theorem step_of_fails {s : UpstreamHealthRegistry} {call : HealthCall} (h : s.Fails call) :
    (s.step call).registry.clusters = s.registry.clusters ∧ (s.step call).records = s.records := by
  cases call with
  | insertCluster c =>
    simp only [Fails, step, insertCluster, EndpointRegistry.insertCluster] at h ⊢
    cases hc : s.registry.cluster c.name with
    | none => simp [hc] at h
    | some _ => exact ⟨rfl, rfl⟩
  | removeCluster n =>
    have hn : s.registry.clusters.get? n = none := h
    change s.registry.clusters.erase n = _ ∧ (if (s.registry.cluster n).isSome = true then _ else s.records) = s.records
    refine ⟨SortedMap.eq_of_get? (fun k => ?_), if_neg (by rw [EndpointRegistry.cluster, hn]; exact Bool.false_ne_true)⟩
    rw [SortedMap.get?_erase]
    split_ifs with hk
    · rw [hk, hn]
    · rfl
  | insertEndpoint n e =>
    simp only [Fails, step, insertEndpoint, EndpointRegistry.insertEndpoint] at h ⊢
    cases hc : s.registry.cluster n with
    | none => exact ⟨rfl, rfl⟩
    | some c =>
      cases hi : c.insertEndpoint e with
      | ok c' => simp [hc, hi] at h
      | error error => cases error <;> simp [hi, EndpointRegistry.incrementInvalidDefinitionCount]
  | removeEndpoint n id =>
    simp only [Fails, step, removeEndpoint, EndpointRegistry.removeEndpoint] at h ⊢
    cases hc : s.registry.cluster n with
    | none => exact ⟨rfl, rfl⟩
    | some c =>
      cases hr : c.removeEndpoint id with
      | none => simp [hr]
      | some p => simp [hc, hr] at h
  | setEndpointState n id state =>
    simp only [Fails, step, setEndpointState, EndpointRegistry.setEndpointState] at h ⊢
    cases hc : s.registry.cluster n with
    | none => exact ⟨rfl, rfl⟩
    | some c =>
      cases hr : c.setEndpointState id state with
      | none => simp [hr]
      | some p => simp [hc, hr] at h
  | note key ss =>
    simp only [Fails, step] at h ⊢
    cases hr : s.records.get? key with
    | none =>
      rw [note_of_none ss hr]
      exact ⟨rfl, rfl⟩
    | some r =>
      have hc : (s.counted ss).records.get? key = some r := hr
      unfold note applySignal at h
      simp only [hc] at h
      split_ifs at h <;> exact absurd rfl (h _)
  | advanceTime dt => exact h.elim

theorem Tracked.recordOf_ok {s : UpstreamHealthRegistry} (h : s.Tracked) {n : UpstreamClusterName} {c : UpstreamCluster}
    (hc : s.registry.cluster n = some c) : ∃ records, c.endpoints.mapM (s.recordOf n) = .ok records :=
  Proc.exists_mapM_ok.mpr (fun _ he => (h.record_of_mem hc he).imp (fun _ hr => hr.2))

/-- **The records are those of the registered endpoints, whatever was called**: what is read off the registry never finds one
missing, and a failed call changes neither. -/
theorem topology_tracked (policy : EndpointHealthPolicy) (calls : List HealthCall) :
    let s := (new policy).run calls
    (∀ key : EndpointKey, (s.records.get? key).isSome = true ↔
      ∃ c, s.registry.cluster key.cluster = some c ∧ key.endpointId ∈ c.endpoints.map (·.id)) ∧
    (∀ n m id, s.clusterState n ≠ .error (.inconsistentState m id) ∧
      (∀ inc, s.selectionCandidates n inc ≠ .error (.inconsistentState m id)) ∧
      ∀ asked, s.endpointHealth n asked ≠ .error (.inconsistentState m id)) ∧
    ∀ call, s.Fails call → (s.step call).registry.clusters = s.registry.clusters ∧ (s.step call).records = s.records := by
  intro s
  have hs : s.Tracked := Tracked.run calls tracked_new
  refine ⟨fun key => ?_, fun n m id => ?_, fun call hfai => step_of_fails hfai⟩
  · rw [hs key, EndpointRegistry.ids]
    cases s.registry.cluster key.cluster <;> simp
  · cases hc : s.registry.cluster n with
    | none => refine ⟨?_, fun inc => ?_, fun asked => ?_⟩ <;>
        simp [clusterState, selectionCandidates, endpointHealth, clusterOf, hc, bind, Except.bind]
    | some c =>
      have hof : s.clusterOf n = .ok c := by rw [clusterOf, hc]
      obtain ⟨records, hre⟩ := hs.recordOf_ok hc
      refine ⟨?_, fun inc => ?_, fun asked => ?_⟩
      · simp only [clusterState, hof, hre, bind, Except.bind]
        split_ifs <;> simp [pure, Except.pure]
      · obtain ⟨l, hl, -⟩ := hs.selectionCandidates_ok hc inc
        rw [hl]
        simp
      · simp only [endpointHealth, hof, bind, Except.bind]
        cases he : c.endpoint asked with
        | none => simp
        | some e =>
          obtain ⟨r, -, hr⟩ := hs.record_of_mem hc (List.mem_of_find?_eq_some he)
          simp [hr, pure, Except.pure]

end UpstreamHealthRegistry

end WayBalancer
