import WayBalancer.UpstreamHealth
/-!
# UpstreamHealthSpec — what holds of the health records in every run

What a call can do to a record is said once (`step_record`), and what every new record has and every change keeps holds of
all records in every run (`records_run`).  The endpoints with a record are those of the registered clusters (`Tracked`).
-/
namespace WayBalancer

open Word
open SortedMap (get?_erase get?_filterKeys get?_insert get?_mapValues)

variable {s : UpstreamHealthRegistry}

namespace UpstreamHealthRegistry

/-! ## What a call leaves alone -/

theorem track_records (s : UpstreamHealthRegistry) (n : UpstreamClusterName) (e : UpstreamEndpoint) :
    (s.track n e).records = s.records.insert ⟨n, e.id⟩ (.new e s.policy) := by
  unfold track
  dsimp only
  split_ifs <;> rfl

theorem track_frame (s : UpstreamHealthRegistry) (n : UpstreamClusterName) (e : UpstreamEndpoint) :
    (s.track n e).policy = s.policy ∧ (s.track n e).registry = s.registry := by
  unfold track
  dsimp only
  split_ifs <;> exact ⟨rfl, rfl⟩

theorem trackAll_frame {n : UpstreamClusterName} : ∀ (es : List UpstreamEndpoint) (s : UpstreamHealthRegistry),
    (es.foldl (fun s e => s.track n e) s).policy = s.policy ∧ (es.foldl (fun s e => s.track n e) s).registry = s.registry
  | [], _ => ⟨rfl, rfl⟩
  | e :: es, s => by
    obtain ⟨hp, hr⟩ := trackAll_frame es (s.track n e)
    exact ⟨hp.trans (s.track_frame n e).1, hr.trans (s.track_frame n e).2⟩

/-- A key is that of an endpoint just tracked, whose record is new, or its record is as it was. -/
theorem trackAll_records (n : UpstreamClusterName) : ∀ (es : List UpstreamEndpoint) (s : UpstreamHealthRegistry) (key : EndpointKey),
    (∃ e ∈ es, key = ⟨n, e.id⟩ ∧ (es.foldl (fun s e => s.track n e) s).records.get? key = some (.new e s.policy)) ∨
      (∀ e ∈ es, key ≠ ⟨n, e.id⟩) ∧ (es.foldl (fun s e => s.track n e) s).records.get? key = s.records.get? key
  | [], _, _ => .inr ⟨by simp, rfl⟩
  | e :: es, s, key => by
    rcases trackAll_records n es (s.track n e) key with ⟨e', he', hkey, hget⟩ | ⟨hoth, hget⟩
    · rw [(s.track_frame n e).1] at hget
      exact .inl ⟨e', List.mem_cons_of_mem _ he', hkey, hget⟩
    · rw [s.track_records n e, get?_insert] at hget
      split_ifs at hget with h
      · exact .inl ⟨e, List.mem_cons_self, h, hget⟩
      · exact .inr ⟨List.forall_mem_cons.2 ⟨h, hoth⟩, hget⟩

theorem pushEvents_frame {kind : UpstreamHealthEventKind} {detail : String} : ∀ (keys : List EndpointKey) (s : UpstreamHealthRegistry),
    (keys.foldl (fun s key => s.pushEvent kind key detail) s).records = s.records ∧
    (keys.foldl (fun s key => s.pushEvent kind key detail) s).policy = s.policy ∧
    (keys.foldl (fun s key => s.pushEvent kind key detail) s).registry = s.registry
  | [], _ => ⟨rfl, rfl, rfl⟩
  | key :: keys, s => pushEvents_frame keys (s.pushEvent kind key detail)

theorem advanceTime_frame (s : UpstreamHealthRegistry) (elapsed : ℕ) :
    (s.advanceTime elapsed).policy = s.policy ∧ (s.advanceTime elapsed).registry = s.registry := by
  unfold advanceTime
  split_ifs with h
  · exact ⟨rfl, rfl⟩
  · simp only [pushEvents_frame, and_self]

theorem advanceTime_records (s : UpstreamHealthRegistry) {elapsed : ℕ} (h : elapsed ≠ 0) :
    (s.advanceTime elapsed).records = s.records.mapValues (fun _ r => r.advanced s.policy elapsed) := by
  unfold advanceTime
  rw [if_neg h]
  simp only [pushEvents_frame]

theorem note_of_none {key : EndpointKey} (signal : HealthSignal) (h : s.records.get? key = none) :
    (s.note key signal).2 = s.counted signal := by
  have hc : (s.counted signal).records.get? key = none := h
  simp only [note, applySignal, hc]

theorem note_records {key : EndpointKey} {r : EndpointHealthRecord} (signal : HealthSignal) (h : s.records.get? key = some r) :
    (s.note key signal).2.records = s.records.insert key (s.settled key r signal) := by
  have hc : (s.counted signal).records.get? key = some r := h
  have hs : (s.counted signal).settled key r signal = s.settled key r signal := rfl
  simp only [note, applySignal, hc, hs]
  split_ifs <;> rfl

section
variable (s : UpstreamHealthRegistry)

theorem note_frame {key : EndpointKey} {signal : HealthSignal} :
    (s.note key signal).2.policy = s.policy ∧ (s.note key signal).2.registry = s.registry := by
  cases h : s.records.get? key with
  | none => rw [note_of_none signal h]; exact ⟨rfl, rfl⟩
  | some r =>
    have hc : (s.counted signal).records.get? key = some r := h
    simp only [note, applySignal, hc]
    split_ifs <;> exact ⟨rfl, rfl⟩

/-! ## What a call does -/

theorem insertCluster_state (c : UpstreamCluster) : (s.insertCluster c).2 = match (s.registry.insertCluster c).1 with
      | .error _ => { s with registry := (s.registry.insertCluster c).2 }
      | .ok ()   => c.endpoints.foldl (fun s e => s.track c.name e) { s with registry := (s.registry.insertCluster c).2 } := by
  unfold insertCluster
  rcases s.registry.insertCluster c with ⟨_ | _, _⟩ <;> rfl

theorem insertEndpoint_state (n : UpstreamClusterName) (e : UpstreamEndpoint) :
    (s.insertEndpoint n e).2 = match (s.registry.insertEndpoint n e).1 with
      | .error _ => { s with registry := (s.registry.insertEndpoint n e).2 }
      | .ok ()   => ({ s with registry := (s.registry.insertEndpoint n e).2 } : UpstreamHealthRegistry).track n e := by
  unfold insertEndpoint
  rcases s.registry.insertEndpoint n e with ⟨_ | _, _⟩ <;> rfl

theorem removeEndpoint_state (n : UpstreamClusterName) (id : UpstreamEndpointId) :
    (s.removeEndpoint n id).2 = match (s.registry.removeEndpoint n id).1 with
      | .error _ => { s with registry := (s.registry.removeEndpoint n id).2 }
      | .ok _    => { s with registry := (s.registry.removeEndpoint n id).2, records := s.records.erase ⟨n, id⟩ } := by
  unfold removeEndpoint
  rcases s.registry.removeEndpoint n id with ⟨_ | _, _⟩ <;> rfl

theorem setEndpointState_state (n : UpstreamClusterName) (id : UpstreamEndpointId) (state : EndpointState) :
    (s.setEndpointState n id state).2 = { s with registry := (s.registry.setEndpointState n id state).2 } := by
  unfold setEndpointState
  rcases s.registry.setEndpointState n id state with ⟨_ | _, _⟩ <;> rfl

theorem step_policy (call : HealthCall) : (s.step call).policy = s.policy := by
  cases call with
  | insertCluster c =>
    change (s.insertCluster c).2.policy = _
    rw [insertCluster_state]
    cases (s.registry.insertCluster c).1 with
    | error => rfl
    | ok => exact (trackAll_frame c.endpoints _).1
  | removeCluster n => rfl
  | insertEndpoint n e =>
    change (s.insertEndpoint n e).2.policy = _
    rw [insertEndpoint_state]
    cases (s.registry.insertEndpoint n e).1 with
    | error => rfl
    | ok => exact (track_frame _ n e).1
  | removeEndpoint n id =>
    change (s.removeEndpoint n id).2.policy = _
    rw [removeEndpoint_state]
    cases (s.registry.removeEndpoint n id).1 <;> rfl
  | setEndpointState n id state =>
    change (s.setEndpointState n id state).2.policy = _
    rw [setEndpointState_state]
  | note key ss => exact s.note_frame.1
  | advanceTime dt => exact (s.advanceTime_frame dt).1

end

/-- **Where a record comes from**: it is new, or it was there and a signal for it, or the time, or nothing changed it. -/
theorem step_record {call : HealthCall} {key : EndpointKey} {r' : EndpointHealthRecord} (h : (s.step call).records.get? key = some r') :
    (∃ e, r' = .new e s.policy) ∨ ∃ r, s.records.get? key = some r ∧
      (r' = r ∨ (∃ signal, call = .note key signal ∧ r' = s.settled key r signal) ∨
        ∃ elapsed, call = .advanceTime elapsed ∧ r' = r.advanced s.policy elapsed) := by
  cases call with
  | insertCluster c =>
    change (s.insertCluster c).2.records.get? key = _ at h
    rw [insertCluster_state] at h
    cases hres : (s.registry.insertCluster c).1 with
    | error =>
      rw [hres] at h
      exact .inr ⟨r', h, .inl rfl⟩
    | ok =>
      rw [hres] at h
      rcases trackAll_records c.name c.endpoints _ key with ⟨e, -, -, hget⟩ | ⟨-, hget⟩
      · exact .inl ⟨e, (Option.some.inj (hget.symm.trans h)).symm⟩
      · exact .inr ⟨r', hget.symm.trans h, .inl rfl⟩
  | removeCluster n =>
    change (if (s.registry.cluster n).isSome then s.records.filterKeys (fun key => key.cluster ≠ n) else s.records).get? key = _ at h
    split_ifs at h with hn
    · rw [get?_filterKeys] at h
      split_ifs at h
      exact .inr ⟨r', h, .inl rfl⟩
    · exact .inr ⟨r', h, .inl rfl⟩
  | insertEndpoint n e =>
    change (s.insertEndpoint n e).2.records.get? key = _ at h
    rw [insertEndpoint_state] at h
    cases hres : (s.registry.insertEndpoint n e).1 with
    | error =>
      rw [hres] at h
      exact .inr ⟨r', h, .inl rfl⟩
    | ok =>
      rw [hres] at h
      simp only [track_records, get?_insert] at h
      split_ifs at h with hk
      · exact .inl ⟨e, (Option.some.inj h).symm⟩
      · exact .inr ⟨r', h, .inl rfl⟩
  | removeEndpoint n id =>
    change (s.removeEndpoint n id).2.records.get? key = _ at h
    rw [removeEndpoint_state] at h
    cases hres : (s.registry.removeEndpoint n id).1 with
    | error =>
      rw [hres] at h
      exact .inr ⟨r', h, .inl rfl⟩
    | ok =>
      rw [hres] at h
      simp only [get?_erase] at h
      split_ifs at h
      exact .inr ⟨r', h, .inl rfl⟩
  | setEndpointState n id state =>
    change (s.setEndpointState n id state).2.records.get? key = _ at h
    rw [setEndpointState_state] at h
    exact .inr ⟨r', h, .inl rfl⟩
  | note key' signal =>
    change (s.note key' signal).2.records.get? key = _ at h
    cases hr : s.records.get? key' with
    | none =>
      rw [note_of_none signal hr] at h
      exact .inr ⟨r', h, .inl rfl⟩
    | some r =>
      rw [note_records signal hr, get?_insert] at h
      split_ifs at h with hk
      · subst hk
        exact .inr ⟨r, hr, .inr (.inl ⟨signal, rfl, (Option.some.inj h).symm⟩)⟩
      · exact .inr ⟨r', h, .inl rfl⟩
  | advanceTime elapsed =>
    change (s.advanceTime elapsed).records.get? key = _ at h
    by_cases h0 : elapsed = 0
    · rw [advanceTime, if_pos h0] at h
      exact .inr ⟨r', h, .inl rfl⟩
    · rw [advanceTime_records s h0, get?_mapValues, Option.map_eq_some_iff] at h
      obtain ⟨r, hr, rfl⟩ := h
      exact .inr ⟨r, hr, .inr (.inr ⟨elapsed, rfl, rfl⟩)⟩

theorem settled_cases (s : UpstreamHealthRegistry) {key : EndpointKey} {r : EndpointHealthRecord} {signal : HealthSignal} :
    (s.settled key r signal = (r.signalled s.policy signal).capped ∧ (r.signalled s.policy signal).status = .ejected) ∨
    s.settled key r signal = r.signalled s.policy signal ∧ ((r.signalled s.policy signal).status = .ejected →
      r.status = .ejected ∨ canApplyEjectionBudget (s.records.insert key (r.signalled s.policy signal)) key s.policy = true) := by
  by_cases hcap : (r.signalled s.policy signal).status = .ejected ∧ r.status ≠ .ejected ∧
      canApplyEjectionBudget (s.records.insert key (r.signalled s.policy signal)) key s.policy = false
  · exact .inl ⟨if_pos hcap, hcap.1⟩
  · refine .inr ⟨if_neg hcap, fun hej => ?_⟩
    by_cases hr : r.status = .ejected
    · exact .inl hr
    · exact .inr (by_contra fun hbud => hcap ⟨hej, hr, Bool.not_eq_true _ ▸ hbud⟩)

/-- What holds of a new record, and is kept by signals, by the budget's cap and by the time, holds of every record. -/
theorem records_run {P : EndpointHealthRecord → Prop} {policy : EndpointHealthPolicy} (hnew : ∀ e, P (.new e policy))
    (hsi : ∀ r signal, P r → P (r.signalled policy signal)) (hcap : ∀ r, P r → P r.capped)
    (ht : ∀ r elapsed, P r → P (r.advanced policy elapsed)) : ∀ (calls : List HealthCall) (s : UpstreamHealthRegistry),
    s.policy = policy → (∀ key r, s.records.get? key = some r → P r) → ∀ key r, (s.run calls).records.get? key = some r → P r
  | [], _, _, hs => hs
  | call :: calls, s, hp, hs => by
    refine records_run hnew hsi hcap ht calls (s.step call) ((s.step_policy call).trans hp) (fun key r' h => ?_)
    rcases step_record h with ⟨e, rfl⟩ | ⟨r, hr, rfl | ⟨signal, -, rfl⟩ | ⟨elapsed, -, rfl⟩⟩
    · rw [hp]
      exact hnew e
    · exact hs key _ hr
    · have hsig : P (r.signalled s.policy signal) := by
        rw [hp]
        exact hsi r signal (hs key r hr)
      rcases s.settled_cases with ⟨heq, -⟩ | ⟨heq, -⟩
      · rw [heq]
        exact hcap _ hsig
      · rw [heq]
        exact hsig
    · rw [hp]
      exact ht r elapsed (hs key r hr)

theorem run_policy : ∀ (calls : List HealthCall) (s : UpstreamHealthRegistry), (s.run calls).policy = s.policy
  | [], _ => rfl
  | call :: calls, s => (run_policy calls (s.step call)).trans (s.step_policy call)

/-! ## The registered endpoints are those with a record -/

def Tracked (s : UpstreamHealthRegistry) : Prop :=
  ∀ key : EndpointKey, (s.records.get? key).isSome = true ↔ key.endpointId ∈ s.registry.ids key.cluster

theorem tracked_new {policy : EndpointHealthPolicy} : (new policy).Tracked := fun key => by
  change (none : Option EndpointHealthRecord).isSome = true ↔ key.endpointId ∈ []
  simp

theorem Tracked.congr {s' : UpstreamHealthRegistry} (h : s.Tracked)
    (hr : ∀ key, (s'.records.get? key).isSome = (s.records.get? key).isSome)
    (hids : ∀ n, s'.registry.ids n = s.registry.ids n) : s'.Tracked := fun key => by
  rw [hr, hids]
  exact h key

theorem Tracked.insertCluster (h : s.Tracked) (c : UpstreamCluster) : (s.insertCluster c).2.Tracked := by
  rw [insertCluster_state]
  rcases s.registry.ids_insertCluster c with ⟨hok, hno, hids⟩ | ⟨⟨error, herr⟩, hids⟩
  · rw [hok]
    intro key
    simp only [trackAll_frame, hids]
    rcases trackAll_records c.name c.endpoints { s with registry := (s.registry.insertCluster c).2 } key with
      ⟨e, he, rfl, hget⟩ | ⟨hoth, hget⟩
    · rw [hget, if_pos rfl]
      exact iff_of_true rfl (List.mem_map.2 ⟨e, he, rfl⟩)
    · rw [hget]
      split_ifs with hn
      · refine iff_of_false (fun hs => ?_) (fun hmem => ?_)
        · have hin := (h key).1 hs
          rw [hn, hno] at hin
          cases hin
        · obtain ⟨e, he, hid⟩ := List.mem_map.1 hmem
          apply hoth e he
          rw [← hn, hid]
      · exact h key
  · rw [herr]
    exact h.congr (fun _ => rfl) hids

theorem Tracked.removeCluster (h : s.Tracked) (n : UpstreamClusterName) : (s.removeCluster n).2.Tracked := by
  intro key
  change ((if (s.registry.cluster n).isSome then s.records.filterKeys (fun key => key.cluster ≠ n) else s.records).get? key).isSome
    = true ↔ key.endpointId ∈ (s.registry.removeCluster n).2.ids key.cluster
  rw [EndpointRegistry.ids_removeCluster]
  by_cases hn : key.cluster = n
  · rw [if_pos hn]
    refine iff_of_false (fun hs => ?_) List.not_mem_nil
    by_cases hc : (s.registry.cluster n).isSome = true
    · rw [if_pos hc, get?_filterKeys, if_neg (by simp [hn])] at hs
      cases hs
    · -- a cluster that is not there has no records to keep
      rw [if_neg hc] at hs
      have hin := (h key).1 hs
      rw [hn, EndpointRegistry.ids_of_none (Option.not_isSome_iff_eq_none.1 hc)] at hin
      cases hin
  · rw [if_neg hn]
    split_ifs with hc
    · rw [get?_filterKeys, if_pos (by simp [hn])]
      exact h key
    · exact h key

theorem Tracked.insertEndpoint (h : s.Tracked) (n : UpstreamClusterName) (e : UpstreamEndpoint) : (s.insertEndpoint n e).2.Tracked := by
  rw [insertEndpoint_state]
  rcases s.registry.ids_insertEndpoint n e with ⟨hok, hids⟩ | ⟨⟨error, herr⟩, hids⟩
  · rw [hok]
    intro key
    simp only [track_frame, track_records, get?_insert, hids]
    by_cases hk : key = ⟨n, e.id⟩
    · subst hk
      rw [if_pos rfl, if_pos rfl]
      exact iff_of_true rfl (List.mem_append_right _ (List.mem_singleton.2 rfl))
    · rw [if_neg hk]
      by_cases hn : key.cluster = n
      · have hid : key.endpointId ≠ e.id := by
          rintro hid
          apply hk
          rw [← hn, ← hid]
        rw [if_pos hn, List.mem_append, List.mem_singleton, or_iff_left hid]
        exact h key
      · rw [if_neg hn]
        exact h key
  · rw [herr]
    exact h.congr (fun _ => rfl) hids

theorem Tracked.removeEndpoint (h : s.Tracked) (n : UpstreamClusterName) (id : UpstreamEndpointId) :
    (s.removeEndpoint n id).2.Tracked := by
  rw [removeEndpoint_state]
  rcases s.registry.ids_removeEndpoint n id with ⟨⟨e, hok⟩, hids⟩ | ⟨⟨error, herr⟩, hids⟩
  · rw [hok]
    intro key
    simp only [get?_erase, hids]
    by_cases hk : key = ⟨n, id⟩
    · subst hk
      rw [if_pos rfl, if_pos rfl]
      refine iff_of_false (by simp) (fun hmem => ?_)
      simpa using (List.mem_filter.1 hmem).2
    · rw [if_neg hk]
      by_cases hn : key.cluster = n
      · have hid : key.endpointId ≠ id := by
          rintro hid
          apply hk
          rw [← hn, ← hid]
        rw [if_pos hn, List.mem_filter, decide_eq_true_eq, and_iff_left hid]
        exact h key
      · rw [if_neg hn]
        exact h key
  · rw [herr]
    exact h.congr (fun _ => rfl) hids

theorem Tracked.note (h : s.Tracked) (key : EndpointKey) (signal : HealthSignal) : (s.note key signal).2.Tracked := by
  refine h.congr (fun key' => ?_) (fun n => by rw [s.note_frame.2])
  cases hr : s.records.get? key with
  | none => rw [note_of_none signal hr]; rfl
  | some r =>
    rw [note_records signal hr, get?_insert]
    by_cases hk : key' = key
    · rw [if_pos hk, hk, hr]; rfl
    · rw [if_neg hk]

theorem Tracked.advanceTime (h : s.Tracked) (elapsed : ℕ) : (s.advanceTime elapsed).Tracked := by
  refine h.congr (fun key => ?_) (fun n => by rw [(s.advanceTime_frame elapsed).2])
  by_cases h0 : elapsed = 0
  · rw [UpstreamHealthRegistry.advanceTime, if_pos h0]
  · rw [advanceTime_records s h0, get?_mapValues, Option.isSome_map]

theorem Tracked.step (h : s.Tracked) (call : HealthCall) : (s.step call).Tracked := by
  cases call with
  | insertCluster c => exact h.insertCluster c
  | removeCluster n => exact h.removeCluster n
  | insertEndpoint n e => exact h.insertEndpoint n e
  | removeEndpoint n id => exact h.removeEndpoint n id
  | setEndpointState n id state =>
    change (s.setEndpointState n id state).2.Tracked
    rw [setEndpointState_state]
    exact h.congr (fun _ => rfl) (fun n' => s.registry.ids_setEndpointState n)
  | note key ss => exact h.note key ss
  | advanceTime dt => exact h.advanceTime dt

theorem Tracked.run : ∀ (calls : List HealthCall) {s : UpstreamHealthRegistry}, s.Tracked → (s.run calls).Tracked
  | [], _, h => h
  | call :: calls, _, h => Tracked.run calls (h.step call)

end UpstreamHealthRegistry

/-! ## A registry of one endpoint -/

def soleEndpoint : UpstreamEndpoint := ⟨⟨['e'], by decide⟩, ⟨.v4 127 0 0 1, 8080⟩, .ready, ⟨none, none, 10⟩, by decide⟩

def soleCluster : UpstreamCluster := ⟨⟨['c'], by decide⟩, [soleEndpoint], by decide⟩

def soleKey : EndpointKey := ⟨⟨['c'], by decide⟩, ⟨['e'], by decide⟩⟩

end WayBalancer
