import WayBalancer.DiscoveryRuns
import WayBalancer.Fields
/-!
# DiscoveryAtomic — what a failed reconciliation leaves behind

Every endpoint of a snapshot is checked before the registry is touched, but the registry itself may refuse one: its cluster
may be gone, or the identifier may be taken by an endpoint that discovery did not install.  What the steps before it did
stays done.  A reconciliation fails without a trace exactly when its first blocked step finds everything before it in place
already (`reconcile_atomic_iff`).
-/
namespace WayBalancer

open Str Word

namespace ReconcileContext

variable (ctx : ReconcileContext)

/-- A step that cannot be taken: something is to be installed, and the cluster is gone, or its identifier is taken by an
endpoint that no source is known to have put there, or the definition to adopt fails its check. -/
def Blocked : DiscoveryCall.Step → Membership → Prop
  | .inl (endpointId, endpoint, _), m =>
    ctx.previous.get? endpointId ≠ some endpoint ∧ ctx.tracksOnly endpointId endpoint m = false ∧
      (ctx.known = false ∨ ctx.inRegistry endpointId m = false ∧ m.registered.isSome = true)
  | .inr (removedId, removed), _ =>
    ∃ other, ctx.other removedId = some other ∧ other ≠ removed ∧
      (ctx.known = false ∨ ∃ error, other.intoUpstreamEndpoint .ready = .error error)

/-- A step that finds its endpoint as it would leave it. -/
def InPlace : DiscoveryCall.Step → Membership → Prop
  | .inl (endpointId, endpoint, upstreamEndpoint), m =>
    ctx.previous.get? endpointId = some endpoint ∨ ctx.tracksOnly endpointId endpoint m = true ∨
      m = ⟨some upstreamEndpoint, some (.new upstreamEndpoint ctx.policy), none⟩
  | .inr (removedId, removed), m =>
    match ctx.other removedId with
    | some other => other = removed ∨ ∃ adopted, other.intoUpstreamEndpoint .ready = .ok adopted ∧
        m.registered = some adopted ∧ m.record = some (.new adopted ctx.policy)
    | none => (∀ endpoint, m.registered = some endpoint → endpoint.state = .draining) ∧ m.deadline = some ctx.deadline

/-- What a blocked step has already forgotten: the deadline of an endpoint it was to install. -/
def forgotten : DiscoveryCall.Step → Membership → Membership
  | .inl _, m => { m with deadline := none }
  | .inr _, m => m

variable {ctx} {m : Membership}

theorem inserted_of_free {endpoint : UpstreamEndpoint} (hkn : ctx.known = true) (hf : m.registered = none) :
    m.inserted ctx.known ctx.policy ctx.source.clusterName endpoint =
      (.ok (), { m with registered := some endpoint, record := some (.new endpoint ctx.policy) }) := by
  simp only [Membership.inserted, hkn, hf, Bool.not_true, Bool.false_eq_true, if_false, Option.isSome_none]

theorem inserted_of_unknown {endpoint : UpstreamEndpoint} (hkn : ctx.known = false) :
    m.inserted ctx.known ctx.policy ctx.source.clusterName endpoint =
      (.error (.healthRegistry (.registry (.clusterNotFound ctx.source.clusterName))), m) := by
  simp only [Membership.inserted, hkn, Bool.not_false, if_true]

/-- **A blocked step fails**, and all it has changed is the deadline it forgot. -/
theorem act_of_blocked {step : DiscoveryCall.Step} (hl : ctx.known = false → m.registered = none) (h : ctx.Blocked step m) :
    ∃ error, ctx.act step m = (.error error, forgotten step m) := by
  obtain ⟨endpointId, endpoint, ue⟩ | ⟨rid, removed⟩ := step
  · obtain ⟨hp, htr, hkn | ⟨hin, htak⟩⟩ := h
    · refine ⟨.healthRegistry (.registry (.clusterNotFound ctx.source.clusterName)), ?_⟩
      show ctx.advertise _ _ = _
      have hrem : (({ m with deadline := none } : Membership)).removed = { m with deadline := none } :=
        Membership.removed_of_none (hl hkn)
      simp only [advertise, if_neg hp, htr, Bool.false_eq_true, if_false, hrem, ite_self, inserted_of_unknown hkn]
      rfl
    · by_cases hkn : ctx.known = false
      · rw [hl hkn] at htak
        cases htak
      · refine ⟨.healthRegistry (.registry (.duplicateEndpoint ctx.source.clusterName ue.id)), ?_⟩
        show ctx.advertise _ _ = _
        simp only [advertise, if_neg hp, htr, hin, Bool.false_eq_true, if_false, Membership.inserted, hkn, Bool.not_true, htak, if_true]
        rfl
  · obtain ⟨other, hoth, hne, hcau⟩ := h
    show ∃ error, ctx.withdraw _ _ = _
    unfold withdraw
    rw [hoth]
    dsimp only
    rw [if_neg hne]
    cases hado : other.intoUpstreamEndpoint .ready with
    | error error => exact ⟨_, rfl⟩
    | ok ad =>
      have hkn : ctx.known = false := hcau.resolve_right (fun ⟨error, herr⟩ => by
        rw [hado] at herr
        cases herr)
      dsimp only
      rw [Membership.removed_of_none (hl hkn), inserted_of_unknown hkn]
      exact ⟨_, rfl⟩

/-- **A step that is not blocked is taken**, and changes nothing exactly when it finds its endpoint in place. -/
theorem act_of_not_blocked {step : DiscoveryCall.Step} (h : ¬ ctx.Blocked step m) :
    ∃ m', ctx.act step m = (.ok (), m') ∧ (m' = m ↔ ctx.InPlace step m) := by
  obtain ⟨endpointId, endpoint, ue⟩ | ⟨rid, removed⟩ := step
  · show ∃ m', ctx.advertise _ _ = _ ∧ _
    unfold advertise
    by_cases hp : ctx.previous.get? endpointId = some endpoint
    · rw [if_pos hp]
      exact ⟨m, rfl, iff_of_true rfl (.inl hp)⟩
    · rw [if_neg hp]
      cases htr : ctx.tracksOnly endpointId endpoint m with
      | true => exact ⟨m, if_pos rfl, iff_of_true rfl (.inr (.inl htr))⟩
      | false =>
        have ho : ctx.known = true ∧ (ctx.inRegistry endpointId m = false → m.registered = none) := by
          refine ⟨?_, fun hin => ?_⟩
          · by_contra hkn
            exact h ⟨hp, htr, .inl (Bool.not_eq_true _ ▸ hkn)⟩
          · by_contra htak
            exact h ⟨hp, htr, .inr ⟨hin, Option.isSome_iff_ne_none.2 htak⟩⟩
        have hf : (if ctx.inRegistry endpointId m then ({ m with deadline := none } : Membership).removed
            else { m with deadline := none }).registered = none := by
          split
          · exact Membership.removed_registered _
          · rename_i hin
            exact ho.2 (by simpa using hin)
        have hcle : (if ctx.inRegistry endpointId m then ({ m with deadline := none } : Membership).removed
            else { m with deadline := none }).deadline = none := by
          split
          · exact Membership.removed_deadline _
          · rfl
        refine ⟨_, inserted_of_free ho.1 hf, ?_⟩
        rw [hcle]
        constructor
        · intro hs
          exact .inr (.inr hs.symm)
        · rintro (hs | htr' | hs)
          · exact absurd hs hp
          · rw [htr] at htr'
            cases htr'
          · exact hs.symm
  · show ∃ m', ctx.withdraw _ _ = _ ∧ _
    unfold withdraw
    simp only [InPlace]
    cases hoth : ctx.other rid with
    | none =>
      dsimp only
      refine ⟨_, rfl, ?_⟩
      obtain ⟨reg, record, deadline⟩ := m
      rw [Membership.mk.injEq]
      constructor
      · rintro ⟨hreg, -, rfl⟩
        refine ⟨fun e he => ?_, rfl⟩
        change reg = some e at he
        rw [he, Option.map_some, Option.some.injEq] at hreg
        rw [← hreg]
        rfl
      · rintro ⟨hdr, hdea⟩
        refine ⟨?_, rfl, hdea.symm⟩
        cases reg with
        | none => rfl
        | some e =>
          have hsta : e.state = .draining := hdr e rfl
          rw [Option.map_some, Option.some.injEq, ← hsta]
          rfl
    | some other =>
      dsimp only
      split_ifs with hs
      · exact ⟨m, rfl, iff_of_true rfl (.inl hs)⟩
      · have hkn : ctx.known = true := by
          by_contra hkn
          exact h ⟨other, hoth, hs, .inl (Bool.not_eq_true _ ▸ hkn)⟩
        cases hado : other.intoUpstreamEndpoint .ready with
        | error error => exact absurd ⟨other, hoth, hs, .inr ⟨error, hado⟩⟩ h
        | ok ad =>
          dsimp only
          refine ⟨_, inserted_of_free hkn m.removed_registered, ?_⟩
          rw [m.removed_deadline]
          obtain ⟨reg, record, deadline⟩ := m
          rw [Membership.mk.injEq]
          constructor
          · rintro ⟨rfl, rfl, -⟩
            exact .inr ⟨ad, rfl, rfl, rfl⟩
          · rintro (heq | ⟨ad', hado', hreg, hrec⟩)
            · exact absurd heq hs
            · cases hado'
              exact ⟨hreg.symm, hrec.symm, rfl⟩

end ReconcileContext

/-! ## The first blocked step -/

/-- The stores hold the same about every endpoint, and about the sources.  The order of a cluster's endpoints and the
counters are not looked at. -/
structure DiscoveryUnchanged (reconciler : DiscoveryMembershipReconciler) (registry : UpstreamHealthRegistry)
    (reconciler' : DiscoveryMembershipReconciler) (registry' : UpstreamHealthRegistry) : Prop where
  registered : ∀ n id, registry'.registry.lookup n id = registry.registry.lookup n id
  clusters : ∀ n, (registry'.registry.cluster n).isSome = (registry.registry.cluster n).isSome
  records : ∀ key, registry'.records.get? key = registry.records.get? key
  sources : reconciler'.activeEndpointsBySource = reconciler.activeEndpointsBySource
  generations : reconciler'.appliedGenerations = reconciler.appliedGenerations
  draining : ∀ key, reconciler'.drainingDeadlines.get? key = reconciler.drainingDeadlines.get? key
  lifecycle : reconciler'.endpointLifecycle = reconciler.endpointLifecycle

namespace DiscoveryMembershipReconciler

open DiscoveryCall

section Atomic

variable (reconciler : DiscoveryMembershipReconciler) (registry : UpstreamHealthRegistry) (source : DiscoverySourceId)

def contextBefore : ReconcileContext :=
  DiscoveryCall.context { reconciler, registry } source (reconciler.previousOf source)

def membershipBefore (step : Step) : Membership :=
  DiscoveryCall.membership { reconciler, registry } ⟨source.clusterName, step.endpointId⟩

def BlockedBefore (step : Step) : Prop :=
  (reconciler.contextBefore registry source).Blocked step (reconciler.membershipBefore registry source step)

def InPlaceBefore (step : Step) : Prop :=
  (reconciler.contextBefore registry source).InPlace step (reconciler.membershipBefore registry source step)

/-- A blocked step that is to install an endpoint which is still draining. -/
def StillDraining (step : Step) : Prop :=
  step.isLeft = true ∧ (reconciler.drainingDeadlines.get? ⟨source.clusterName, step.endpointId⟩).isSome = true

end Atomic

variable {reconciler : DiscoveryMembershipReconciler} {registry : UpstreamHealthRegistry}

theorem lookup_before {source : DiscoverySourceId} {step : Step} (h : (reconciler.contextBefore registry source).known = false) :
    (reconciler.membershipBefore registry source step).registered = none := by
  refine EndpointRegistry.lookup_of_none ?_ _
  rw [← Option.not_isSome_iff_eq_none]
  intro hs
  rw [show (reconciler.contextBefore registry source).known = true from hs] at h
  cases h

theorem forgotten_eq_iff {source : DiscoverySourceId} {step : Step} :
    ReconcileContext.forgotten step (reconciler.membershipBefore registry source step) =
      reconciler.membershipBefore registry source step ↔ ¬ reconciler.StillDraining source step := by
  cases step with
  | inl entry =>
    constructor
    · rintro hs ⟨-, hdr⟩
      have hn : reconciler.drainingDeadlines.get? ⟨source.clusterName, entry.1⟩ = none :=
        (congrArg Membership.deadline hs).symm
      rw [show Step.endpointId (.inl entry) = entry.1 from rfl, hn] at hdr
      cases hdr
    · intro hnot
      have hn : reconciler.drainingDeadlines.get? ⟨source.clusterName, entry.1⟩ = none := by
        by_contra hso
        exact hnot ⟨rfl, Option.isSome_iff_ne_none.2 hso⟩
      show Membership.mk _ _ none = Membership.mk _ _ (reconciler.drainingDeadlines.get? ⟨source.clusterName, entry.1⟩)
      rw [hn]
      rfl
  | inr entry => exact iff_of_true rfl (fun h => Bool.false_ne_true h.1)

/-- **What a reconciliation that fails did**: it took the steps before the first blocked one. -/
theorem reconcileSnapshot_error {snapshot : DiscoverySnapshot} {error : DiscoveryReconcileError}
    {reconciler' : DiscoveryMembershipReconciler} {registry' : UpstreamHealthRegistry} {next : NextEndpoints}
    (hval : snapshot.validated = .ok next)
    (h : reconciler.reconcileSnapshot registry snapshot = (.error error, reconciler', registry')) :
    reconciler.isStale snapshot = false ∧ ∃ done step rest, reconciler.steps snapshot.source next = done ++ step :: rest ∧
      (∀ earlier ∈ done, ¬ reconciler.BlockedBefore registry snapshot.source earlier) ∧
      reconciler.BlockedBefore registry snapshot.source step ∧
      (DiscoveryUnchanged reconciler registry reconciler' registry' ↔ ¬ reconciler.StillDraining snapshot.source step ∧
        ∀ earlier ∈ done, reconciler.InPlaceBefore registry snapshot.source earlier) := by
  unfold reconcileSnapshot at h
  cases hsta : reconciler.isStale snapshot with
  | true =>
    rw [if_pos hsta] at h
    cases h
  | false =>
    rw [if_neg (by rw [hsta]; exact Bool.false_ne_true), hval] at h
    dsimp only at h
    rw [applySnapshot_eq] at h
    refine ⟨rfl, ?_⟩
    rcases hl : Proc.forEach (turn snapshot.source (reconciler.previousOf snapshot.source))
      (reconciler.steps snapshot.source next) { reconciler, registry } with ⟨f | ⟨⟩, call⟩
    · rw [Proc.bind_of_error _ hl] at h
      cases h
      obtain ⟨hfr, done, step, rest, hste, hd, hs, hels⟩ := (refines_reconcile { reconciler, registry }
        snapshot.source (reconciler.previousOf snapshot.source)).forEach_error steps_distinct
        steps_keyed ⟨Frame.refl _, rfl⟩ hl
      have ho : ∀ earlier ∈ done, ¬ reconciler.BlockedBefore registry snapshot.source earlier := fun earlier hear hblk => by
        obtain ⟨e, he⟩ := ReconcileContext.act_of_blocked lookup_before hblk
        cases he.symm.trans (hd earlier hear)
      have hblk : reconciler.BlockedBefore registry snapshot.source step := by
        by_contra hnot
        obtain ⟨m', hm', -⟩ := ReconcileContext.act_of_not_blocked hnot
        cases hm'.symm.trans hs
      obtain ⟨e, hfor⟩ := ReconcileContext.act_of_blocked lookup_before hblk
      have hat : call.membership ⟨snapshot.source.clusterName, step.endpointId⟩ =
          ReconcileContext.forgotten step (reconciler.membershipBefore registry snapshot.source step) :=
        (Prod.mk.inj (hs.symm.trans hfor)).2
      have hear : ∀ earlier ∈ done, (call.membership ⟨snapshot.source.clusterName, earlier.endpointId⟩ =
          reconciler.membershipBefore registry snapshot.source earlier ↔
            reconciler.InPlaceBefore registry snapshot.source earlier) := fun earlier hear => by
        obtain ⟨m', hm', hiff⟩ := ReconcileContext.act_of_not_blocked (ho earlier hear)
        rwa [(Prod.mk.inj (hm'.symm.trans (hd earlier hear))).2] at hiff
      refine ⟨done, step, rest, hste, ho, hblk, fun hsa => ?_, fun ⟨hdr, hpla⟩ => ?_⟩
      · have hm : ∀ key, call.membership key = DiscoveryCall.membership { reconciler, registry } key := fun key => by
          simp only [membership, hsa.registered, hsa.records, hsa.draining]
        exact ⟨forgotten_eq_iff.1 (hat.symm.trans (hm _)), fun earlier hmem => (hear earlier hmem).1 (hm _)⟩
      · have hm : ∀ key, call.membership key = DiscoveryCall.membership { reconciler, registry } key := fun key => by
          by_cases hkey : key = ⟨snapshot.source.clusterName, step.endpointId⟩
          · rw [hkey]
            exact hat.trans (forgotten_eq_iff.2 hdr)
          · by_cases hmem : key ∈ done.map (fun step => (⟨snapshot.source.clusterName, step.endpointId⟩ : EndpointKey))
            · obtain ⟨earlier, hd', rfl⟩ := List.mem_map.1 hmem
              exact (hear earlier hd').2 (hpla earlier hd')
            · exact hels key hkey hmem
        exact ⟨fun n id => congrArg Membership.registered (hm ⟨n, id⟩), hfr.1.clusters,
          fun key => congrArg Membership.record (hm key), hfr.1.active, hfr.1.generations,
          fun key => congrArg Membership.deadline (hm key), hfr.2⟩
    · rw [Proc.bind_of_ok _ hl] at h
      cases h

/-- **A reconciliation fails without a trace exactly when its first blocked step does not install an endpoint that is still
draining, and every step before it finds its endpoint in place.** -/
theorem reconcile_atomic_iff (reconciler : DiscoveryMembershipReconciler) (registry : UpstreamHealthRegistry)
    (snapshot : DiscoverySnapshot) :
    (∀ error reconciler' registry', reconciler.reconcileSnapshot registry snapshot = (.error error, reconciler', registry') →
      DiscoveryUnchanged reconciler registry reconciler' registry') ↔
    (reconciler.isStale snapshot = true ∨ ∀ next, snapshot.validated = .ok next →
      ∀ done step rest, reconciler.steps snapshot.source next = done ++ step :: rest →
        (∀ earlier ∈ done, ¬ reconciler.BlockedBefore registry snapshot.source earlier) →
        reconciler.BlockedBefore registry snapshot.source step →
          ¬ reconciler.StillDraining snapshot.source step ∧
            ∀ earlier ∈ done, reconciler.InPlaceBefore registry snapshot.source earlier) := by
  constructor
  · intro hato
    by_cases hsta : reconciler.isStale snapshot = true
    · exact .inl hsta
    · refine .inr (fun next hval done step rest hste ho hblk => ?_)
      rcases hrun : reconciler.reconcileSnapshot registry snapshot with ⟨error | o, reconciler', registry'⟩
      · obtain ⟨-, done', step', rest', hste', ho', hblk', hiff⟩ := reconcileSnapshot_error hval hrun
        obtain ⟨rfl, hs⟩ := Fields.first_unique (hste'.symm.trans hste) ho' hblk' ho hblk
        cases hs
        exact hiff.1 (hato error reconciler' registry' hrun)
      · -- a call that returns has taken every step, so none is blocked
        rcases reconcileSnapshot_ok hrun with ⟨hsta', -⟩ | ⟨-, -, next', hval', hact, -⟩
        · exact absurd hsta' hsta
        · cases hval.symm.trans hval'
          obtain ⟨e, he⟩ := ReconcileContext.act_of_blocked lookup_before hblk
          have htak := hact step (by rw [hste]; exact List.mem_append_right _ List.mem_cons_self)
          cases he.symm.trans htak
  · rintro hc error reconciler' registry' hrun
    cases hval : snapshot.validated with
    | error invalid =>
      have hunc : reconciler' = reconciler ∧ registry' = registry := by
        unfold reconcileSnapshot at hrun
        split at hrun
        · cases hrun
        · rw [hval] at hrun
          cases hrun
          exact ⟨rfl, rfl⟩
      obtain ⟨rfl, rfl⟩ := hunc
      exact ⟨fun _ _ => rfl, fun _ => rfl, fun _ => rfl, rfl, rfl, fun _ => rfl, rfl⟩
    | ok next =>
      obtain ⟨hsta, done, step, rest, hste, ho, hblk, hiff⟩ := reconcileSnapshot_error hval hrun
      rcases hc with hsta' | hc
      · rw [hsta] at hsta'
        cases hsta'
      · exact hiff.2 (hc next hval done step rest hste ho hblk)

section HalfApplied

def halfCluster : UpstreamClusterName := webCluster

def newEndpointId : UpstreamEndpointId := webEndpointId

def configuredEndpointId : UpstreamEndpointId := ⟨lit "b", by decide⟩

def configuredEndpoint : UpstreamEndpoint :=
  ⟨configuredEndpointId, ⟨.v4 10 0 0 2, 80⟩, .ready, ⟨none, none, 1⟩, rfl⟩

def configuredRegistry : UpstreamHealthRegistry :=
  { UpstreamHealthRegistry.new .default with
    registry := (EndpointRegistry.new.insertCluster ⟨halfCluster, [configuredEndpoint], List.nodup_singleton _⟩).2 }

def halfSnapshot : DiscoverySnapshot where
  source := ⟨.dnsAaaa, lit "dns", halfCluster⟩
  generation := 1
  endpoints := [⟨newEndpointId, ⟨.v4 10 0 0 1, 80⟩, none, none, 1⟩, ⟨configuredEndpointId, ⟨.v4 10 0 0 2, 80⟩, none, none, 1⟩]

def halfApplied : Except DiscoveryReconcileError DiscoveryReconcileOutcome × DiscoveryMembershipReconciler × UpstreamHealthRegistry :=
  reconcileSnapshot { drainGrace := 30 * 10 ^ 9 } configuredRegistry halfSnapshot

/-- The call fails at the configured endpoint and leaves the new one registered.  Once the configured endpoint is gone, the
same snapshot fails at the new one. -/
theorem halfSnapshot_staysApplied :
    halfApplied.1 = .error (.healthRegistry (.registry (.duplicateEndpoint halfCluster configuredEndpointId))) ∧
    configuredRegistry.registry.lookup halfCluster newEndpointId = none ∧
    (halfApplied.2.2.registry.lookup halfCluster newEndpointId).isSome = true ∧
    (halfApplied.2.1.reconcileSnapshot (halfApplied.2.2.removeEndpoint halfCluster configuredEndpointId).2 halfSnapshot).1 =
      .error (.healthRegistry (.registry (.duplicateEndpoint halfCluster newEndpointId))) := by
  refine ⟨?_, rfl, ?_, ?_⟩
  · rfl
  · rfl
  · rfl

end HalfApplied

end DiscoveryMembershipReconciler

end WayBalancer
