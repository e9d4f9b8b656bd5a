import WayBalancer.DiscoverySpec
/-!
# DiscoveryRuns — discovery converges on what is advertised

A run of reconciliations and of time, over any sources, on a cluster that starts without endpoints and that nothing else
changes.  After every call each endpoint of the cluster is settled: ready as some source advertises it, or draining until a
deadline with nobody advertising it, or gone.  One step lemma per action, and the run by induction.
-/
namespace WayBalancer

open Str Word
open DiscoveryCall (context intoUpstreamEndpoint_ok membership)
open SortedMap (get?_eq_none get?_eq_some get?_insert)

/-! ## What is advertised -/

/-- A definition that the table of some source of the cluster has for the endpoint. -/
def Advertises (active : SortedMap DiscoverySourceId SourceEndpoints) (clusterName : UpstreamClusterName)
    (endpointId : UpstreamEndpointId) (endpoint : DiscoveryEndpoint) : Prop :=
  ∃ source endpoints, source.clusterName = clusterName ∧ active.get? source = some endpoints ∧
    endpoints.get? endpointId = some endpoint

/-- The same, by a source of the cluster other than the given one. -/
def AdvertisesBesides (active : SortedMap DiscoverySourceId SourceEndpoints) (source : DiscoverySourceId)
    (endpointId : UpstreamEndpointId) (endpoint : DiscoveryEndpoint) : Prop :=
  ∃ other endpoints, other ≠ source ∧ other.clusterName = source.clusterName ∧ active.get? other = some endpoints ∧
    endpoints.get? endpointId = some endpoint

section Sources

variable {active : SortedMap DiscoverySourceId SourceEndpoints} {source : DiscoverySourceId} {endpointId : UpstreamEndpointId}
  {endpoint : DiscoveryEndpoint}

theorem besides_of_otherSourceDefinition (h : otherSourceDefinition active source endpointId = some endpoint) :
    AdvertisesBesides active source endpointId endpoint := by
  obtain ⟨entry, hent, hget⟩ := List.exists_of_findSome?_eq_some h
  obtain ⟨hmem, hoth⟩ := List.mem_filter.1 hent
  obtain ⟨hne, hcl⟩ := of_decide_eq_true hoth
  exact ⟨entry.1, entry.2, hne, hcl, get?_eq_some.2 hmem, hget⟩

theorem not_besides_of_otherSourceDefinition (h : otherSourceDefinition active source endpointId = none) :
    ¬ AdvertisesBesides active source endpointId endpoint := by
  rintro ⟨other, endpoints, hne, hcl, hact, hget⟩
  have hnone := List.findSome?_eq_none_iff.1 h (other, endpoints) (List.mem_filter.2 ⟨get?_eq_some.1 hact, decide_eq_true ⟨hne, hcl⟩⟩)
  rw [hget] at hnone
  cases hnone

theorem advertises_iff : Advertises active source.clusterName endpointId endpoint ↔
    AdvertisesBesides active source endpointId endpoint ∨ ((active.get? source).getD .empty).get? endpointId = some endpoint := by
  constructor
  · rintro ⟨other, endpoints, hcl, hact, hget⟩
    by_cases hsrc : other = source
    · subst hsrc
      rw [hact]
      exact .inr hget
    · exact .inl ⟨other, endpoints, hsrc, hcl, hact, hget⟩
  · rintro (⟨other, endpoints, -, hcl, hact, hget⟩ | hget)
    · exact ⟨other, endpoints, hcl, hact, hget⟩
    · cases hact : active.get? source with
      | none =>
        rw [hact] at hget
        cases hget
      | some endpoints =>
        rw [hact] at hget
        exact ⟨source, endpoints, rfl, hact, hget⟩

theorem advertises_insert (endpoints : SourceEndpoints) :
    Advertises (active.insert source endpoints) source.clusterName endpointId endpoint ↔
      AdvertisesBesides active source endpointId endpoint ∨ endpoints.get? endpointId = some endpoint := by
  rw [advertises_iff, get?_insert, if_pos rfl]
  refine or_congr (exists_congr (fun other => exists_congr (fun table => ?_))) Iff.rfl
  refine and_congr_right (fun hne => ?_)
  rw [get?_insert, if_neg hne]

theorem advertises_insert_of_ne {endpoints : SourceEndpoints} {clusterName : UpstreamClusterName}
    (hne : clusterName ≠ source.clusterName) :
    Advertises (active.insert source endpoints) clusterName endpointId endpoint ↔
      Advertises active clusterName endpointId endpoint := by
  refine exists_congr (fun other => exists_congr (fun table => and_congr_right (fun hcl => ?_)))
  have hoth : other ≠ source := by
    rintro rfl
    exact hne hcl.symm
  rw [get?_insert, if_neg hoth]

end Sources

/-! ## Settled endpoints -/

/-- An endpoint is ready as advertised, or nobody advertises it and it is draining until a deadline or gone. -/
inductive Settled (advertised : DiscoveryEndpoint → Prop) (limit : ℕ) (m : Membership) : Prop
  | ready {endpoint : DiscoveryEndpoint} {upstreamEndpoint : UpstreamEndpoint} (hadvertised : advertised endpoint)
      (hready : endpoint.intoUpstreamEndpoint .ready = .ok upstreamEndpoint) (hregistered : m.registered = some upstreamEndpoint)
      (hdeadline : m.deadline = none)
  | draining {upstreamEndpoint : UpstreamEndpoint} {deadline : ℕ} (hnone : ∀ endpoint, ¬ advertised endpoint)
      (hregistered : m.registered = some upstreamEndpoint) (hstate : upstreamEndpoint.state = .draining)
      (hdeadline : m.deadline = some deadline) (hlimit : deadline ≤ limit)
  | gone (hnone : ∀ endpoint, ¬ advertised endpoint) (hregistered : m.registered = none) (hdeadline : m.deadline = none)

namespace Settled

variable {advertised advertised' : DiscoveryEndpoint → Prop} {limit limit' : ℕ} {m : Membership}

theorem congr (hsame : ∀ endpoint, advertised' endpoint ↔ advertised endpoint) (h : Settled advertised limit m) :
    Settled advertised' limit m := by
  rwa [show advertised' = advertised from funext (fun endpoint => propext (hsame endpoint))]

theorem mono (hle : limit ≤ limit') (h : Settled advertised limit m) : Settled advertised limit' m := by
  cases h with
  | ready had hready hreg hdl => exact .ready had hready hreg hdl
  | draining hnone hreg hstate hdl hlimit => exact .draining hnone hreg hstate hdl (hlimit.trans hle)
  | gone hnone hreg hdl => exact .gone hnone hreg hdl

theorem ready_of_advertised {endpoint : DiscoveryEndpoint} (h : Settled advertised limit m) (had : advertised endpoint) :
    m.deadline = none ∧ ∃ endpoint upstreamEndpoint, advertised endpoint ∧
      endpoint.intoUpstreamEndpoint .ready = .ok upstreamEndpoint ∧ m.registered = some upstreamEndpoint := by
  cases h with
  | ready had hready hreg hdl => exact ⟨hdl, _, _, had, hready, hreg⟩
  | draining hnone => exact absurd had (hnone _)
  | gone hnone => exact absurd had (hnone _)

theorem expired {deadline : ℕ} (hdeadline : m.deadline = some deadline) (h : Settled advertised limit m) :
    Settled advertised limit m.expired := by
  cases h with
  | ready _ _ _ hdl =>
    rw [hdeadline] at hdl
    cases hdl
  | draining hnone hreg hstate hdl hlimit =>
    have hexp : m.expired = { registered := none, record := none, deadline := none } := by
      simp only [Membership.expired, Membership.removed, hreg, Option.isSome_some, if_true]
    rw [hexp]
    exact .gone hnone rfl rfl
  | gone _ _ hdl =>
    rw [hdeadline] at hdl
    cases hdl

end Settled

theorem Membership.inserted_ok {m m' : Membership} {known : Bool} {policy : EndpointHealthPolicy} {clusterName : UpstreamClusterName}
    {endpoint : UpstreamEndpoint} (h : m.inserted known policy clusterName endpoint = (.ok (), m')) :
    m'.registered = some endpoint ∧ m'.deadline = m.deadline := by
  unfold Membership.inserted at h
  split at h
  · cases h
  · split at h
    · cases h
    · cases h
      exact ⟨rfl, rfl⟩

/-! ## What the actions settle -/

namespace ReconcileContext

variable {ctx : ReconcileContext} {limit : ℕ} {m m' : Membership} {others : DiscoveryEndpoint → Prop}

theorem settled_of_advertise {entry : UpstreamEndpointId × DiscoveryEndpoint × UpstreamEndpoint}
    (hready : entry.2.1.intoUpstreamEndpoint .ready = .ok entry.2.2) (hoth : ∀ other, ctx.other entry.1 = some other → others other)
    (h : Settled (fun d => others d ∨ ctx.previous.get? entry.1 = some d) limit m)
    (hact : ctx.advertise entry m = (.ok (), m')) : Settled (fun d => others d ∨ entry.2.1 = d) limit m' := by
  unfold advertise at hact
  split at hact
  · -- the source had it already
    rename_i hsame
    cases hact
    rw [hsame] at h
    exact h.congr (fun d => by rw [Option.some.injEq])
  · split at hact
    · -- another source has installed the same
      rename_i htr
      cases hact
      have hown := of_decide_eq_true htr
      have hp : ctx.previous.get? entry.1 = none := by simpa using hown.2.2
      rw [hp] at h
      obtain ⟨hdeadline, d, e, had, he, hreg⟩ := h.ready_of_advertised (.inl (hoth _ hown.1))
      exact .ready (.inl (had.resolve_right (fun hd => by cases hd))) he hreg hdeadline
    · obtain ⟨hreg, hdeadline⟩ := Membership.inserted_ok hact
      refine .ready (.inr rfl) hready hreg ?_
      rw [hdeadline]
      split
      · exact Membership.removed_deadline _
      · rfl

theorem settled_of_withdraw {entry : UpstreamEndpointId × DiscoveryEndpoint} (hlimit : ctx.deadline ≤ limit)
    (hoth : ∀ other, ctx.other entry.1 = some other → others other) (hnone : ctx.other entry.1 = none → ∀ d, ¬ others d)
    (h : Settled (fun d => others d ∨ entry.2 = d) limit m) (hact : ctx.withdraw entry m = (.ok (), m')) :
    Settled others limit m' := by
  obtain ⟨hdeadline, d, e, had, he, hreg⟩ := h.ready_of_advertised (.inr rfl)
  unfold withdraw at hact
  split at hact
  · rename_i other hdef
    split at hact
    · rename_i hsame
      cases hact
      refine .ready (had.elim id (fun hd => ?_)) he hreg hdeadline
      rw [← hd, ← hsame]
      exact hoth other hdef
    · split at hact
      · cases hact
      · rename_i adopted hado
        obtain ⟨hreg', hdeadline'⟩ := Membership.inserted_ok hact
        exact .ready (hoth other hdef) hado hreg' (hdeadline'.trans ((m.removed_deadline).trans hdeadline))
  · rename_i hdef
    cases hact
    exact .draining (hnone hdef) (by rw [hreg]; rfl) rfl rfl hlimit

end ReconcileContext

/-! ## Runs -/

/-- A run of both calls on a cluster, with the last snapshot of every source that was accepted.  Nothing else changes the
endpoints of the cluster; what happens to the rest of the registry is left open. -/
inductive DiscoveryRun (clusterName : UpstreamClusterName) :
    (DiscoverySourceId → Option DiscoverySnapshot) → DiscoveryMembershipReconciler → UpstreamHealthRegistry → Prop
  | start {drainGrace : ℕ} {registry : UpstreamHealthRegistry}
      (hempty : ∀ id, registry.registry.lookup clusterName id = none) :
      DiscoveryRun clusterName (fun _ => none) { drainGrace } registry
  | accepted {latest reconciler registry snapshot outcome reconciler' registry'}
      (hrun : DiscoveryRun clusterName latest reconciler registry)
      (hcall : reconciler.reconcileSnapshot registry snapshot = (.ok outcome, reconciler', registry'))
      (haccepted : outcome.staleGenerationRejected = false) :
      DiscoveryRun clusterName (Function.update latest snapshot.source (some snapshot)) reconciler' registry'
  | rejected {latest reconciler registry snapshot outcome reconciler' registry'}
      (hrun : DiscoveryRun clusterName latest reconciler registry)
      (hcall : reconciler.reconcileSnapshot registry snapshot = (.ok outcome, reconciler', registry'))
      (hrejected : outcome.staleGenerationRejected = true) :
      DiscoveryRun clusterName latest reconciler' registry'
  | advanced {latest reconciler registry elapsed outcome reconciler' registry'}
      (hrun : DiscoveryRun clusterName latest reconciler registry)
      (hcall : reconciler.advanceTime registry elapsed = (.ok outcome, reconciler', registry')) :
      DiscoveryRun clusterName latest reconciler' registry'
  | elsewhere {latest reconciler registry registry'} (hrun : DiscoveryRun clusterName latest reconciler registry)
      (hsame : ∀ id, registry'.registry.lookup clusterName id = registry.registry.lookup clusterName id) :
      DiscoveryRun clusterName latest reconciler registry'

/-- The invariant of a run: the tables are those of the last snapshots, and every endpoint of the cluster is settled. -/
structure SettledRun (clusterName : UpstreamClusterName) (latest : DiscoverySourceId → Option DiscoverySnapshot)
    (reconciler : DiscoveryMembershipReconciler) (registry : UpstreamHealthRegistry) : Prop where
  sources : ∀ {source snapshot}, latest source = some snapshot → ∃ next, snapshot.validated = .ok next ∧
    reconciler.activeEndpointsBySource.get? source = some next.endpoints ∧
    reconciler.appliedGenerations.get? source = some snapshot.generation
  absent : ∀ {source}, latest source = none → reconciler.activeEndpointsBySource.get? source = none
  time : reconciler.now ≤ durationMax
  settled : ∀ id, Settled (Advertises reconciler.activeEndpointsBySource clusterName id) (reconciler.now + reconciler.drainGrace)
    (membership { reconciler, registry } ⟨clusterName, id⟩)

namespace SettledRun

open DiscoveryMembershipReconciler

variable {clusterName : UpstreamClusterName} {latest : DiscoverySourceId → Option DiscoverySnapshot}
  {reconciler reconciler' : DiscoveryMembershipReconciler} {registry registry' : UpstreamHealthRegistry}
  {outcome : DiscoveryReconcileOutcome}

/-- An endpoint of the snapshot's own cluster after the steps of a reconciliation. -/
theorem settled_after_steps {snapshot : DiscoverySnapshot} {next : NextEndpoints} {id : UpstreamEndpointId} {m' : Membership}
    (hold : Settled (Advertises reconciler.activeEndpointsBySource snapshot.source.clusterName id)
      (reconciler.now + reconciler.drainGrace)
      (membership { reconciler, registry } ⟨snapshot.source.clusterName, id⟩))
    (hact : ∀ step ∈ reconciler.steps snapshot.source next, step.endpointId = id →
      (context { reconciler, registry } snapshot.source (reconciler.previousOf snapshot.source)).act step
        (membership { reconciler, registry } ⟨snapshot.source.clusterName, id⟩) = (.ok (), m'))
    (hfr : (∀ step ∈ reconciler.steps snapshot.source next, step.endpointId ≠ id) →
      m' = membership { reconciler, registry } ⟨snapshot.source.clusterName, id⟩) :
    Settled (Advertises (reconciler.activeEndpointsBySource.insert snapshot.source next.endpoints) snapshot.source.clusterName id)
      (reconciler.now + reconciler.drainGrace) m' := by
  have hbef : Settled (fun d => AdvertisesBesides reconciler.activeEndpointsBySource snapshot.source id d ∨
      (reconciler.previousOf snapshot.source).get? id = some d) (reconciler.now + reconciler.drainGrace)
      (membership { reconciler, registry } ⟨snapshot.source.clusterName, id⟩) :=
    hold.congr (fun d => advertises_iff.symm)
  have hn : next.endpoints.get? id = (next.table.get? id).map (·.1) := SortedMap.get?_mapValues _ _ _
  have haft : ∀ d, Advertises (reconciler.activeEndpointsBySource.insert snapshot.source next.endpoints)
      snapshot.source.clusterName id d ↔ AdvertisesBesides reconciler.activeEndpointsBySource snapshot.source id d ∨
        (next.table.get? id).map (·.1) = some d := fun d => by rw [advertises_insert, hn]
  -- the endpoint is in the snapshot, or only in the one before, or in neither
  cases hent : next.table.get? id with
  | some entry =>
    obtain ⟨-, hready⟩ := next.ready hent
    have hs : Sum.inl (id, entry) ∈ reconciler.steps snapshot.source next :=
      List.mem_append_left _ (List.mem_map_of_mem (get?_eq_some.1 hent))
    refine (ReconcileContext.settled_of_advertise hready (fun other => besides_of_otherSourceDefinition) hbef
      (hact _ hs rfl)).congr (fun d => ?_)
    rw [haft, hent, Option.map_some, Option.some.injEq]
    exact Iff.rfl
  | none =>
    have haft' : ∀ d, Advertises (reconciler.activeEndpointsBySource.insert snapshot.source next.endpoints)
        snapshot.source.clusterName id d ↔ AdvertisesBesides reconciler.activeEndpointsBySource snapshot.source id d := fun d => by
      rw [haft, hent]
      simp
    cases hp : (reconciler.previousOf snapshot.source).get? id with
    | some removed =>
      have hs : Sum.inr (id, removed) ∈ reconciler.steps snapshot.source next :=
        List.mem_append_right _ (List.mem_map_of_mem (List.mem_filter.2 ⟨get?_eq_some.1 hp, by rw [hent]; rfl⟩))
      rw [hp] at hbef
      exact (ReconcileContext.settled_of_withdraw (min_le_left _ _) (fun other => besides_of_otherSourceDefinition)
        (fun h d => not_besides_of_otherSourceDefinition h) (hbef.congr (fun d => by rw [Option.some.injEq]; exact Iff.rfl))
        (hact _ hs rfl)).congr haft'
    | none =>
      have hunt : ∀ step ∈ reconciler.steps snapshot.source next, step.endpointId ≠ id := by
        rintro step hs rfl
        rcases List.mem_append.1 hs with hs | hs
        · obtain ⟨entry, hmem, rfl⟩ := List.mem_map.1 hs
          exact get?_eq_none.1 hent _ hmem
        · obtain ⟨entry, hmem, rfl⟩ := List.mem_map.1 hs
          exact get?_eq_none.1 hp _ (List.mem_filter.1 hmem).1
      rw [hfr hunt]
      refine hbef.congr (fun d => ?_)
      rw [haft', hp]
      simp

variable (h : SettledRun clusterName latest reconciler registry)
include h

theorem reconciled {snapshot : DiscoverySnapshot}
    (hcall : reconciler.reconcileSnapshot registry snapshot = (.ok outcome, reconciler', registry'))
    (haccepted : outcome.staleGenerationRejected = false) :
    SettledRun clusterName (Function.update latest snapshot.source (some snapshot)) reconciler' registry' := by
  rcases reconcileSnapshot_ok hcall with ⟨-, rfl, -, -⟩ | ⟨-, -, next, hval, hact, hels, ha, hgen, hnow, hgra⟩
  · cases haccepted
  · refine ⟨fun {source s} hlat => ?_, fun {source} hlat => ?_, hnow ▸ h.time, fun id => ?_⟩
    · rw [ha, hgen, get?_insert, get?_insert]
      by_cases hsrc : source = snapshot.source
      · rw [Function.update_apply, if_pos hsrc] at hlat
        cases hlat
        rw [if_pos hsrc, if_pos hsrc]
        exact ⟨next, hval, rfl, rfl⟩
      · rw [Function.update_of_ne hsrc] at hlat
        rw [if_neg hsrc, if_neg hsrc]
        exact h.sources hlat
    · have hsrc : source ≠ snapshot.source := by
        rintro rfl
        rw [Function.update_self] at hlat
        cases hlat
      rw [Function.update_of_ne hsrc] at hlat
      rw [ha, get?_insert, if_neg hsrc]
      exact h.absent hlat
    · rw [ha, hnow, hgra]
      by_cases hcl : clusterName = snapshot.source.clusterName
      · subst hcl
        refine settled_after_steps (h.settled id) (fun step hs hid => ?_) (fun hunt => ?_)
        · have := hact step hs
          rwa [hid] at this
        · refine hels _ (fun hmem => ?_)
          obtain ⟨step, hs, hkey⟩ := List.mem_map.1 hmem
          exact hunt step hs (EndpointKey.mk.inj hkey).2
      · rw [hels]
        · exact (h.settled id).congr (fun d => advertises_insert_of_ne hcl)
        · intro hmem
          obtain ⟨step, -, hkey⟩ := List.mem_map.1 hmem
          exact hcl (EndpointKey.mk.inj hkey).1.symm

theorem advanced {elapsed : ℕ} (hcall : reconciler.advanceTime registry elapsed = (.ok outcome, reconciler', registry')) :
    SettledRun clusterName latest reconciler' registry' := by
  obtain ⟨outcome₁, reconciler₁, registry₁, hcall₁, hnow, hgra, hact, hgen, hmem⟩ :=
    reconciler.advanceTime_eq registry elapsed
  cases hcall₁.symm.trans hcall
  refine ⟨fun {source snapshot} hlat => ?_, fun hlat => ?_, ?_, fun id => ?_⟩
  · rw [hact, hgen]
    exact h.sources hlat
  · rw [hact]
    exact h.absent hlat
  · rw [hnow]
    exact min_le_right _ _
  · have hl : reconciler.now ≤ reconciler'.now := by
      rw [hnow]
      exact le_min (Nat.le_add_right _ _) h.time
    rw [hmem, hact, hgra]
    refine Settled.mono (Nat.add_le_add_right hl _) ?_
    split
    · rename_i hexp
      obtain ⟨deadline, -, hdeadline⟩ := (reconciler.mem_expired).1 hexp
      exact (h.settled id).expired hdeadline
    · exact h.settled id

end SettledRun

/-- **Every endpoint of the cluster is settled after every call.** -/
theorem DiscoveryRun.settled {clusterName : UpstreamClusterName} {latest : DiscoverySourceId → Option DiscoverySnapshot}
    {reconciler : DiscoveryMembershipReconciler} {registry : UpstreamHealthRegistry}
    (hrun : DiscoveryRun clusterName latest reconciler registry) : SettledRun clusterName latest reconciler registry := by
  induction hrun with
  | start hempty =>
    refine ⟨fun h => (by cases h), fun _ => rfl, Nat.zero_le _, fun id => .gone ?_ (hempty id) rfl⟩
    rintro endpoint ⟨source, endpoints, -, hact, -⟩
    cases hact
  | accepted _ hcall haccepted ih => exact ih.reconciled hcall haccepted
  | rejected _ hcall hrejected ih =>
    rcases DiscoveryMembershipReconciler.reconcileSnapshot_ok hcall with ⟨-, -, rfl, rfl⟩ | ⟨-, hf, -⟩
    · exact ih
    · rw [hrejected] at hf
      cases hf
  | advanced _ hcall ih => exact ih.advanced hcall
  | elsewhere _ hsame ih =>
    refine ⟨ih.sources, ih.absent, ih.time, fun id => ?_⟩
    cases ih.settled id with
    | ready had hready hreg hdl => exact .ready had hready ((hsame id).trans hreg) hdl
    | draining hnone hreg hstate hdl hlimit => exact .draining hnone ((hsame id).trans hreg) hstate hdl hlimit
    | gone hnone hreg hdl => exact .gone hnone ((hsame id).trans hreg) hdl

/-! ## Convergence -/

/-- A definition in the last accepted snapshot of a source of the cluster. -/
def LatestAdvertises (latest : DiscoverySourceId → Option DiscoverySnapshot) (clusterName : UpstreamClusterName)
    (endpoint : DiscoveryEndpoint) : Prop :=
  ∃ source snapshot, source.clusterName = clusterName ∧ latest source = some snapshot ∧ endpoint ∈ snapshot.endpoints

/-- The endpoints of the cluster are what the last snapshots ask for, up to what still drains. -/
structure ConvergedOn (clusterName : UpstreamClusterName) (latest : DiscoverySourceId → Option DiscoverySnapshot)
    (reconciler : DiscoveryMembershipReconciler) (registry : UpstreamHealthRegistry) : Prop where
  ready_iff : ∀ id, (∃ e, registry.registry.lookup clusterName id = some e ∧ e.state = .ready) ↔
    ∃ d, LatestAdvertises latest clusterName d ∧ d.endpointId = id
  defined : ∀ {id e}, registry.registry.lookup clusterName id = some e → e.state = .ready →
    ∃ d, LatestAdvertises latest clusterName d ∧ d.intoUpstreamEndpoint .ready = .ok e
  draining_iff : ∀ id, (∃ e, registry.registry.lookup clusterName id = some e ∧ e.state ≠ .ready) ↔
    (reconciler.drainingDeadlines.get? ⟨clusterName, id⟩).isSome = true
  apart : ∀ {id d}, (reconciler.drainingDeadlines.get? ⟨clusterName, id⟩).isSome = true →
    LatestAdvertises latest clusterName d → d.endpointId ≠ id
  within_grace : ∀ {id deadline}, reconciler.drainingDeadlines.get? ⟨clusterName, id⟩ = some deadline →
    deadline ≤ reconciler.now + reconciler.drainGrace

namespace SettledRun

variable {clusterName : UpstreamClusterName} {latest : DiscoverySourceId → Option DiscoverySnapshot}
  {reconciler : DiscoveryMembershipReconciler} {registry : UpstreamHealthRegistry} {endpoint : DiscoveryEndpoint}

variable (h : SettledRun clusterName latest reconciler registry)
include h

theorem latest_of_advertises {id : UpstreamEndpointId} (had : Advertises reconciler.activeEndpointsBySource clusterName id endpoint) :
    LatestAdvertises latest clusterName endpoint ∧ endpoint.endpointId = id := by
  obtain ⟨source, endpoints, hcl, hact, hget⟩ := had
  cases hlat : latest source with
  | none =>
    rw [h.absent hlat] at hact
    cases hact
  | some snapshot =>
    obtain ⟨next, hval, hact', -⟩ := h.sources hlat
    cases hact'.symm.trans hact
    exact ⟨⟨source, snapshot, hcl, hlat, (DiscoverySnapshot.validated_ok hval).1 hget⟩, next.endpoints.keyed hget⟩

theorem advertises_of_latest (had : LatestAdvertises latest clusterName endpoint) :
    ∃ d, Advertises reconciler.activeEndpointsBySource clusterName endpoint.endpointId d := by
  obtain ⟨source, snapshot, hcl, hlat, hmem⟩ := had
  obtain ⟨next, hval, hact, -⟩ := h.sources hlat
  obtain ⟨d, hd⟩ := Option.isSome_iff_exists.1 ((DiscoverySnapshot.validated_ok hval).2 endpoint hmem)
  exact ⟨d, source, next.endpoints, hcl, hact, hd⟩

theorem converged : ConvergedOn clusterName latest reconciler registry where
  ready_iff := fun id => by
    constructor
    · rintro ⟨e, hl, hstate⟩
      cases h.settled id with
      | ready had _ _ _ => exact ⟨_, h.latest_of_advertises had⟩
      | draining _ hreg hdr _ _ =>
        cases hreg.symm.trans hl
        rw [hstate] at hdr
        cases hdr
      | gone _ hreg _ => cases hreg.symm.trans hl
    · rintro ⟨d, had, rfl⟩
      obtain ⟨d', had'⟩ := h.advertises_of_latest had
      obtain ⟨-, d'', e, -, hready, hreg⟩ := (h.settled d.endpointId).ready_of_advertised had'
      exact ⟨e, hreg, (intoUpstreamEndpoint_ok hready).2⟩
  defined := fun {id e} hl hstate => by
    cases h.settled id with
    | ready had hready hreg _ =>
      cases hreg.symm.trans hl
      exact ⟨_, (h.latest_of_advertises had).1, hready⟩
    | draining _ hreg hdr _ _ =>
      cases hreg.symm.trans hl
      rw [hstate] at hdr
      cases hdr
    | gone _ hreg _ => cases hreg.symm.trans hl
  draining_iff := fun id => by
    show _ ↔ (membership { reconciler, registry } ⟨clusterName, id⟩).deadline.isSome = true
    cases h.settled id with
    | ready _ hready hreg hdl =>
      rw [hdl]
      refine iff_of_false ?_ Bool.false_ne_true
      rintro ⟨e, hl, hstate⟩
      cases hreg.symm.trans hl
      exact hstate (intoUpstreamEndpoint_ok hready).2
    | draining _ hreg hdr hdl _ =>
      rw [hdl]
      refine iff_of_true ⟨_, hreg, ?_⟩ rfl
      rw [hdr]
      exact EndpointState.noConfusion
    | gone _ hreg hdl =>
      rw [hdl]
      refine iff_of_false ?_ Bool.false_ne_true
      rintro ⟨e, hl, -⟩
      cases hreg.symm.trans hl
  apart := fun {id d} hdr had hid => by
    subst hid
    obtain ⟨d', had'⟩ := h.advertises_of_latest had
    have hdeadline : reconciler.drainingDeadlines.get? ⟨clusterName, d.endpointId⟩ = none :=
      ((h.settled d.endpointId).ready_of_advertised had').1
    rw [hdeadline] at hdr
    cases hdr
  within_grace := fun {id deadline} hdeadline => by
    cases h.settled id with
    | ready _ _ _ hdl => cases hdl.symm.trans hdeadline
    | draining _ _ _ hdl hlimit =>
      cases hdl.symm.trans hdeadline
      exact hlimit
    | gone _ _ hdl => cases hdl.symm.trans hdeadline

theorem deadline_after_advance {elapsed : ℕ}
    {outcome : DiscoveryReconcileOutcome} {reconciler' : DiscoveryMembershipReconciler} {registry' : UpstreamHealthRegistry}
    (hcall : reconciler.advanceTime registry elapsed = (.ok outcome, reconciler', registry')) {id : UpstreamEndpointId}
    {e : UpstreamEndpoint} (hl : registry'.registry.lookup clusterName id = some e) (hstate : e.state ≠ .ready) :
    ∃ deadline, reconciler.drainingDeadlines.get? ⟨clusterName, id⟩ = some deadline ∧
      reconciler'.drainingDeadlines.get? ⟨clusterName, id⟩ = some deadline ∧ reconciler'.now < deadline := by
  obtain ⟨deadline, hdeadline⟩ := Option.isSome_iff_exists.1 (((h.advanced hcall).converged.draining_iff id).1 ⟨e, hl, hstate⟩)
  obtain ⟨outcome₁, reconciler₁, registry₁, hcall₁, -, -, -, -, hmem⟩ := reconciler.advanceTime_eq registry elapsed
  cases hcall₁.symm.trans hcall
  have hk := hmem ⟨clusterName, id⟩
  split at hk
  · -- what has expired keeps no deadline
    have hnone : reconciler'.drainingDeadlines.get? ⟨clusterName, id⟩ = none :=
      (congrArg Membership.deadline hk).trans (Membership.removed_deadline _)
    cases hdeadline.symm.trans hnone
  · rename_i hnot
    have hsame : reconciler'.drainingDeadlines.get? ⟨clusterName, id⟩ = reconciler.drainingDeadlines.get? ⟨clusterName, id⟩ :=
      congrArg Membership.deadline hk
    refine ⟨deadline, hsame.symm.trans hdeadline, hdeadline, ?_⟩
    by_contra hp
    exact hnot ((reconciler.mem_expired).2 ⟨deadline, not_lt.1 hp, hsame.symm.trans hdeadline⟩)

theorem stale_unchanged {snapshot accepted : DiscoverySnapshot}
    (hlat : latest snapshot.source = some accepted) (hmon : snapshot.source.provider.hasMonotonicGenerations = true)
    (hold : snapshot.generation < accepted.generation) :
    reconciler.reconcileSnapshot registry snapshot = (.ok { staleGenerationRejected := true }, reconciler, registry) := by
  obtain ⟨-, -, -, hgen⟩ := h.sources hlat
  have hsta : reconciler.isStale snapshot = true := by
    rw [DiscoveryMembershipReconciler.isStale, hmon, hgen]
    exact decide_eq_true hold
  rw [DiscoveryMembershipReconciler.reconcileSnapshot, if_pos hsta]

end SettledRun

/-- **Discovery converges on what is advertised.**  After every call of a run the ready endpoints of the cluster are those of
the last accepted snapshots, under a definition some source advertises, and the others are those that drain; no endpoint
drains past its deadline once time has passed it, and an older generation changes nothing. -/
theorem discovery_converges {clusterName : UpstreamClusterName} {latest : DiscoverySourceId → Option DiscoverySnapshot}
    {reconciler : DiscoveryMembershipReconciler} {registry : UpstreamHealthRegistry}
    (hrun : DiscoveryRun clusterName latest reconciler registry) :
    ConvergedOn clusterName latest reconciler registry ∧
    (∀ {elapsed outcome reconciler' registry'}, reconciler.advanceTime registry elapsed = (.ok outcome, reconciler', registry') →
      ∀ {id e}, registry'.registry.lookup clusterName id = some e → e.state ≠ .ready →
        ∃ deadline, reconciler.drainingDeadlines.get? ⟨clusterName, id⟩ = some deadline ∧
          reconciler'.drainingDeadlines.get? ⟨clusterName, id⟩ = some deadline ∧ reconciler'.now < deadline) ∧
    ∀ {snapshot accepted}, latest snapshot.source = some accepted → snapshot.source.provider.hasMonotonicGenerations = true →
      snapshot.generation < accepted.generation →
        reconciler.reconcileSnapshot registry snapshot = (.ok { staleGenerationRejected := true }, reconciler, registry) :=
  ⟨hrun.settled.converged, fun hcall => fun hl hstate => hrun.settled.deadline_after_advance hcall hl hstate,
    fun hlat hmon hold => hrun.settled.stale_unchanged hlat hmon hold⟩

section WebRun

def webCluster : UpstreamClusterName := ⟨lit "web", by decide⟩

def webEndpointId : UpstreamEndpointId := ⟨lit "a", by decide⟩

def webMembership : DiscoverySnapshot where
  source := ⟨.dnsAaaa, lit "dns", webCluster⟩
  generation := 1
  endpoints := [⟨webEndpointId, ⟨.v4 10 0 0 1, 80⟩, none, none, 1⟩]

def emptyWebRegistry : UpstreamHealthRegistry :=
  { UpstreamHealthRegistry.new .default with registry := (EndpointRegistry.new.insertCluster ⟨webCluster, [], .nil⟩).2 }

/-- A first snapshot is accepted, and its endpoint is ready. -/
theorem webMembership_converges : ∃ reconciler registry,
    DiscoveryRun webCluster (Function.update (fun _ => none) webMembership.source (some webMembership)) reconciler registry ∧
      ∃ e, registry.registry.lookup webCluster webEndpointId = some e ∧ e.state = .ready := by
  have hacc : ((DiscoveryMembershipReconciler.reconcileSnapshot { drainGrace := 30 * 10 ^ 9 } emptyWebRegistry
      webMembership).1.toOption.any (fun outcome => !outcome.staleGenerationRejected)) = true := by decide +kernel
  have hempty : ∀ id, emptyWebRegistry.registry.lookup webCluster id = none := fun _ => rfl
  rcases hcall : DiscoveryMembershipReconciler.reconcileSnapshot { drainGrace := 30 * 10 ^ 9 } emptyWebRegistry webMembership with
    ⟨error | outcome, reconciler, registry⟩
  · rw [hcall] at hacc
    cases hacc
  · rw [hcall] at hacc
    have hrun := DiscoveryRun.accepted (.start hempty) hcall (by simpa [Except.toOption] using hacc)
    refine ⟨reconciler, registry, hrun, ((discovery_converges hrun).1.ready_iff webEndpointId).2 ?_⟩
    exact ⟨_, ⟨webMembership.source, webMembership, rfl, Function.update_self _ _ _, List.mem_singleton.2 rfl⟩, rfl⟩

end WebRun

end WayBalancer
