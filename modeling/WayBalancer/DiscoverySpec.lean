import WayBalancer.Discovery
import WayBalancer.KeyedLoop
/-!
# DiscoverySpec — a reconciliation, endpoint by endpoint

What the two stores hold about one endpoint is a `Membership`.  Advertising an endpoint, withdrawing it and letting it expire
are actions on the membership of that endpoint alone, and the turns of the loops refine them: they do the same to it, with
the same result, and nothing to any other endpoint (`refines_reconcile`, `refines_expire`).
-/
namespace WayBalancer

open Str Word
open SortedMap (get?_eq_some get?_erase get?_insert)

/-- What is registered and recorded about an endpoint, and when it has drained. -/
structure Membership where
  registered : Option UpstreamEndpoint
  record : Option EndpointHealthRecord
  deadline : Option ℕ

namespace DiscoveryCall

def membership (call : DiscoveryCall) (key : EndpointKey) : Membership where
  registered := call.registry.registry.lookup key.cluster key.endpointId
  record := call.registry.records.get? key
  deadline := call.reconciler.drainingDeadlines.get? key

structure Frame (base call : DiscoveryCall) : Prop where
  grace : call.reconciler.drainGrace = base.reconciler.drainGrace
  now : call.reconciler.now = base.reconciler.now
  active : call.reconciler.activeEndpointsBySource = base.reconciler.activeEndpointsBySource
  generations : call.reconciler.appliedGenerations = base.reconciler.appliedGenerations
  clusters : ∀ n, (call.registry.registry.cluster n).isSome = (base.registry.registry.cluster n).isSome
  policy : call.registry.policy = base.registry.policy
  stale : call.outcome.staleGenerationRejected = base.outcome.staleGenerationRejected

theorem Frame.refl (call : DiscoveryCall) : Frame call call := ⟨rfl, rfl, rfl, rfl, fun _ => rfl, rfl, rfl⟩

theorem Frame.trans {a b c : DiscoveryCall} (hab : Frame a b) (hbc : Frame b c) : Frame a c :=
  ⟨hbc.grace.trans hab.grace, hbc.now.trans hab.now, hbc.active.trans hab.active, hbc.generations.trans hab.generations,
    fun n => (hbc.clusters n).trans (hab.clusters n), hbc.policy.trans hab.policy, hbc.stale.trans hab.stale⟩

/-- The call `call'` is `call` with the membership at one key changed, and nothing else that a loop can see. -/
structure SetAt (call call' : DiscoveryCall) (key : EndpointKey) (m : Membership) : Prop where
  at_key : call'.membership key = m
  elsewhere : ∀ k, k ≠ key → call'.membership k = call.membership k
  frame : Frame call call'
  lifecycle : call'.reconciler.endpointLifecycle = call.reconciler.endpointLifecycle

theorem SetAt.trans {a b c : DiscoveryCall} {key : EndpointKey} {m m' : Membership} (hab : SetAt a b key m)
    (hbc : SetAt b c key m') : SetAt a c key m' :=
  ⟨hbc.at_key, fun k hk => (hbc.elsewhere k hk).trans (hab.elsewhere k hk), hab.frame.trans hbc.frame,
    hbc.lifecycle.trans hab.lifecycle⟩

theorem SetAt.refl (call : DiscoveryCall) (key : EndpointKey) : SetAt call call key (call.membership key) :=
  ⟨rfl, fun _ _ => rfl, Frame.refl call, rfl⟩

/-- The step does to the membership at the key what an action did, with its result, and nothing else. -/
def ActsAs (x : Reconciling Unit) (call : DiscoveryCall) (key : EndpointKey)
    (acted : Except DiscoveryReconcileError Unit × Membership) : Prop :=
  (x call).1 = acted.1 ∧ SetAt call (x call).2 key acted.2

end DiscoveryCall

/-! ## The actions -/

def Membership.removed (m : Membership) : Membership :=
  if m.registered.isSome then { m with registered := none, record := none } else m

theorem Membership.removed_deadline (m : Membership) : m.removed.deadline = m.deadline := by
  unfold Membership.removed
  split <;> rfl

theorem Membership.removed_registered (m : Membership) : m.removed.registered = none := by
  unfold Membership.removed
  split
  · rfl
  · rename_i h
    simpa using h

theorem Membership.removed_of_none {m : Membership} (h : m.registered = none) : m.removed = m := by
  rw [Membership.removed, h]
  rfl

/-- An insertion into a cluster that is there or not. -/
def Membership.inserted (m : Membership) (known : Bool) (policy : EndpointHealthPolicy) (clusterName : UpstreamClusterName)
    (endpoint : UpstreamEndpoint) : Except DiscoveryReconcileError Unit × Membership :=
  if !known then (.error (.healthRegistry (.registry (.clusterNotFound clusterName))), m)
  else if m.registered.isSome then (.error (.healthRegistry (.registry (.duplicateEndpoint clusterName endpoint.id))), m)
  else (.ok (), { m with registered := some endpoint, record := some (.new endpoint policy) })

structure ReconcileContext where
  source : DiscoverySourceId
  previous : SourceEndpoints
  active : SortedMap DiscoverySourceId SourceEndpoints
  known : Bool
  policy : EndpointHealthPolicy
  deadline : ℕ

namespace ReconcileContext

variable (ctx : ReconcileContext)

def other (endpointId : UpstreamEndpointId) : Option DiscoveryEndpoint := otherSourceDefinition ctx.active ctx.source endpointId

/-- An endpoint that needs no installing: the source had it, or another source has the same. -/
def tracksOnly (endpointId : UpstreamEndpointId) (endpoint : DiscoveryEndpoint) (m : Membership) : Bool :=
  ctx.other endpointId = some endpoint ∧ !m.deadline.isSome ∧ !(ctx.previous.get? endpointId).isSome

def inRegistry (endpointId : UpstreamEndpointId) (m : Membership) : Bool :=
  m.deadline.isSome || (ctx.previous.get? endpointId).isSome || (ctx.other endpointId).isSome

def advertise (entry : UpstreamEndpointId × DiscoveryEndpoint × UpstreamEndpoint) (m : Membership) :
    Except DiscoveryReconcileError Unit × Membership :=
  if ctx.previous.get? entry.1 = some entry.2.1 then (.ok (), m)
  else if ctx.tracksOnly entry.1 entry.2.1 m then (.ok (), m)
  else
    let cleared := { m with deadline := none }
    (if ctx.inRegistry entry.1 m then cleared.removed else cleared).inserted ctx.known ctx.policy ctx.source.clusterName
      entry.2.2

def withdraw (entry : UpstreamEndpointId × DiscoveryEndpoint) (m : Membership) :
    Except DiscoveryReconcileError Unit × Membership :=
  match ctx.other entry.1 with
  | some other =>
    if other = entry.2 then (.ok (), m)
    else match other.intoUpstreamEndpoint .ready with
      | .error error => (.error (.invalidEndpoint error), m)
      | .ok adopted  => m.removed.inserted ctx.known ctx.policy ctx.source.clusterName adopted
  | none => (.ok (), { m with registered := m.registered.map (·.withState .draining), deadline := some ctx.deadline })

end ReconcileContext

/-! ## The registry's operations refine them -/

section Operations

open DiscoveryCall

variable {call : DiscoveryCall} {key : EndpointKey}

theorem actsAs_pure (call : DiscoveryCall) (key : EndpointKey) :
    ActsAs (pure ()) call key (.ok (), call.membership key) := ⟨rfl, SetAt.refl call key⟩

theorem setAt_registry {registry : UpstreamHealthRegistry} {registered : Option UpstreamEndpoint}
    (hreg : call.registry.registry.SetAt registry.registry key.cluster key.endpointId registered)
    (hr : ∀ k, k ≠ key → registry.records.get? k = call.registry.records.get? k)
    (hpol : registry.policy = call.registry.policy) :
    SetAt call { call with registry } key
      { call.membership key with registered, record := registry.records.get? key } := by
  refine ⟨?_, fun k hk => ?_, ⟨rfl, rfl, rfl, rfl, fun n => hreg.clusters_eq n, hpol, rfl⟩, rfl⟩
  · simp only [membership, hreg.lookup_eq, and_self, if_true]
  · have hne : ¬ (k.cluster = key.cluster ∧ k.endpointId = key.endpointId) := by
      obtain ⟨c, i⟩ := k
      rintro ⟨rfl, rfl⟩
      exact hk rfl
    simp only [membership, hreg.lookup_eq, if_neg hne, hr k hk]

theorem actsAs_removeEndpoint (call : DiscoveryCall) (key : EndpointKey) :
    ActsAs (DiscoveryCall.removeEndpoint key.cluster key.endpointId) call key (.ok (), (call.membership key).removed) := by
  unfold ActsAs
  cases hfd : call.registry.registry.lookup key.cluster key.endpointId with
  | none =>
    have hrem : (call.membership key).removed = call.membership key := by
      rw [membership, hfd]
      rfl
    rw [hrem]
    rcases EndpointRegistry.removeEndpoint_of_none hfd with h | h <;>
      simp only [DiscoveryCall.removeEndpoint, onRegistry, UpstreamHealthRegistry.removeEndpoint, h] <;>
      exact ⟨rfl, SetAt.refl call key⟩
  | some endpoint =>
    obtain ⟨registry, hr, hset⟩ := EndpointRegistry.removeEndpoint_of_some hfd
    have hrem : (call.membership key).removed = { call.membership key with registered := none, record := none } := by
      rw [membership, hfd]
      rfl
    rw [hrem]
    simp only [DiscoveryCall.removeEndpoint, onRegistry, UpstreamHealthRegistry.removeEndpoint, hr]
    have hat := @setAt_registry call key
      { call.registry with registry, records := call.registry.records.erase ⟨key.cluster, key.endpointId⟩ } none hset
      (fun k hk => by
        rw [get?_erase, if_neg hk]) rfl
    have hrec : (call.registry.records.erase key).get? key = none := by rw [get?_erase, if_pos rfl]
    refine ⟨rfl, ?_⟩
    rw [hrec] at hat
    exact hat

theorem track_fields (s : UpstreamHealthRegistry) (n : UpstreamClusterName) (e : UpstreamEndpoint) :
    (s.track n e).registry = s.registry ∧ (s.track n e).policy = s.policy ∧
      (s.track n e).records = s.records.insert ⟨n, e.id⟩ (.new e s.policy) := by
  unfold UpstreamHealthRegistry.track
  dsimp only
  split
  · exact ⟨rfl, rfl, rfl⟩
  · exact ⟨rfl, rfl, rfl⟩

section
variable (call : DiscoveryCall)

theorem insertEndpoint_refines {key : EndpointKey} {endpoint : UpstreamEndpoint} (hid : endpoint.id = key.endpointId) :
    ActsAs (DiscoveryCall.insertEndpoint key.cluster endpoint) call key ((call.membership key).inserted
      (call.registry.registry.cluster key.cluster).isSome call.registry.policy key.cluster endpoint) := by
  unfold ActsAs Membership.inserted
  cases hkn : (call.registry.registry.cluster key.cluster).isSome with
  | false =>
    have hins := EndpointRegistry.insertEndpoint_of_none hkn endpoint
    simp only [DiscoveryCall.insertEndpoint, onRegistry, UpstreamHealthRegistry.insertEndpoint, hins, Bool.not_false, if_true]
    exact ⟨rfl, SetAt.refl call key⟩
  | true =>
    cases hfd : call.registry.registry.lookup key.cluster key.endpointId with
    | some taken =>
      have htak : (call.registry.registry.lookup key.cluster endpoint.id).isSome = true := by rw [hid, hfd]; rfl
      have hs : (call.membership key).registered.isSome = true := by
        show (call.registry.registry.lookup key.cluster key.endpointId).isSome = true
        rw [hfd]
        rfl
      have hins := EndpointRegistry.insertEndpoint_of_taken htak
      simp only [DiscoveryCall.insertEndpoint, onRegistry, UpstreamHealthRegistry.insertEndpoint, hins, hs, if_true]
      exact ⟨rfl, ⟨rfl, fun _ _ => rfl, ⟨rfl, rfl, rfl, rfl, fun _ => rfl, rfl, rfl⟩, rfl⟩⟩
    | none =>
      have hn : (call.membership key).registered.isSome = false := by
        show (call.registry.registry.lookup key.cluster key.endpointId).isSome = false
        rw [hfd]
        rfl
      obtain ⟨registry, hins, hset⟩ := EndpointRegistry.insertEndpoint_of_free hkn (by rw [hid]; exact hfd)
      obtain ⟨hreg, hpol, hr⟩ := track_fields { call.registry with registry } key.cluster endpoint
      have hkey : (⟨key.cluster, endpoint.id⟩ : EndpointKey) = key := by rw [hid]
      rw [hkey] at hr
      rw [hid] at hset
      simp only [DiscoveryCall.insertEndpoint, onRegistry, UpstreamHealthRegistry.insertEndpoint, hins, hn,
        Bool.false_eq_true, if_false]
      refine ⟨rfl, ?_⟩
      have hat := @setAt_registry call key (({ call.registry with registry } : UpstreamHealthRegistry).track key.cluster endpoint)
        (some endpoint) (by rw [hreg]; exact hset)
        (fun k hk => by rw [hr, get?_insert, if_neg hk]) hpol
      rw [hr, get?_insert, if_pos rfl] at hat
      exact hat

theorem actsAs_setEndpointDraining (key : EndpointKey) : ActsAs (setEndpointDraining key.cluster key.endpointId) call key
      (.ok (), { call.membership key with registered := (call.membership key).registered.map (·.withState .draining) }) := by
  unfold ActsAs
  obtain ⟨hres, hset⟩ := call.registry.registry.setEndpointState_spec key.cluster key.endpointId .draining
  rcases hsta : call.registry.registry.setEndpointState key.cluster key.endpointId .draining with ⟨r, registry⟩
  rw [hsta] at hres hset
  have hat := @setAt_registry call key { call.registry with registry } _ hset (fun _ _ => rfl) rfl
  rcases hres with rfl | rfl | rfl <;>
    simp only [setEndpointDraining, onRegistry, UpstreamHealthRegistry.setEndpointState, hsta] <;>
    exact ⟨rfl, hat⟩

theorem forgetDeadline_setAt (key : EndpointKey) :
    SetAt call (call.forgetDeadline key) key { call.membership key with deadline := none } := by
  refine ⟨?_, fun k hk => ?_, ⟨rfl, rfl, rfl, rfl, fun _ => rfl, rfl, rfl⟩, rfl⟩
  · simp only [membership, forgetDeadline, get?_erase, if_true]
  · simp only [membership, forgetDeadline, get?_erase, if_neg hk]

theorem startDeadline_setAt (key : EndpointKey) : SetAt call (call.startDeadline key) key { call.membership key with
      deadline := some (min (call.reconciler.now + call.reconciler.drainGrace) durationMax) } := by
  refine ⟨?_, fun k hk => ?_, ⟨rfl, rfl, rfl, rfl, fun _ => rfl, rfl, rfl⟩, rfl⟩
  · simp only [membership, startDeadline, get?_insert, if_true]
  · simp only [membership, startDeadline, get?_insert, if_neg hk]

end

theorem setAt_report {call' : DiscoveryCall} (hrec : call'.reconciler = call.reconciler) (hreg : call'.registry = call.registry)
    (hsta : call'.outcome.staleGenerationRejected = call.outcome.staleGenerationRejected) :
    SetAt call call' key (call.membership key) := by
  obtain ⟨R, G, o, a, d⟩ := call
  cases hrec
  cases hreg
  exact ⟨rfl, fun _ _ => rfl, ⟨rfl, rfl, rfl, rfl, fun _ => rfl, rfl, hsta⟩, rfl⟩

end Operations

/-! ## The turns refine the actions -/

namespace DiscoveryCall

section Steps

variable {x y : Reconciling Unit} {call : DiscoveryCall} {key : EndpointKey} {m : Membership}
  {acted : Except DiscoveryReconcileError Unit × Membership}

theorem ActsAs.bind (hx : ActsAs x call key (.ok (), m)) (hy : ∀ call', SetAt call call' key m → ActsAs y call' key acted) :
    ActsAs (x >>= fun _ => y) call key acted := by
  obtain ⟨hres, hset⟩ := hx
  rcases hrun : x call with ⟨e | u, call'⟩
  · rw [hrun] at hres
    cases hres
  · rw [hrun] at hset
    obtain ⟨hres', hset'⟩ := hy call' hset
    unfold ActsAs
    rw [Proc.bind_of_ok _ hrun]
    exact ⟨hres', hset.trans hset'⟩

theorem ActsAs.bind_error {e : DiscoveryReconcileError} (hx : ActsAs x call key (.error e, m)) :
    ActsAs (x >>= fun _ => y) call key (.error e, m) := by
  obtain ⟨hres, hset⟩ := hx
  rcases hrun : x call with ⟨e' | u, call'⟩
  · rw [hrun] at hres hset
    cases hres
    unfold ActsAs
    rw [Proc.bind_of_error _ hrun]
    exact ⟨rfl, hset⟩
  · rw [hrun] at hres
    cases hres

theorem ActsAs.report {f : DiscoveryCall → DiscoveryCall} (hx : ActsAs x call key acted)
    (hrec : ∀ call, (f call).reconciler = call.reconciler) (hreg : ∀ call, (f call).registry = call.registry)
    (hsta : ∀ call, (f call).outcome.staleGenerationRejected = call.outcome.staleGenerationRejected) :
    ActsAs (x >>= fun _ => Proc.update f) call key acted := by
  obtain ⟨e | u, m⟩ := acted
  · exact hx.bind_error
  · refine hx.bind (fun call' hset => ⟨rfl, ?_⟩)
    have := @setAt_report call' key (f call') (hrec call') (hreg call') (hsta call')
    rw [hset.at_key] at this
    exact this

theorem ActsAs.after_get {f : DiscoveryCall → Reconciling Unit} (h : ActsAs (f call) call key acted) :
    ActsAs (Proc.get >>= f) call key acted := h

end Steps

def context (base : DiscoveryCall) (source : DiscoverySourceId) (previous : SourceEndpoints) : ReconcileContext where
  source := source
  previous := previous
  active := base.reconciler.activeEndpointsBySource
  known := (base.registry.registry.cluster source.clusterName).isSome
  policy := base.registry.policy
  deadline := min (base.reconciler.now + base.reconciler.drainGrace) durationMax

section Turns

variable {base call : DiscoveryCall} {source : DiscoverySourceId} {previous : SourceEndpoints}

theorem actsAs_insertEndpoint (hfr : Frame base call) {key : EndpointKey} (hkey : key.cluster = source.clusterName)
    {endpoint : UpstreamEndpoint} (hid : endpoint.id = key.endpointId) :
    ActsAs (insertEndpoint source.clusterName endpoint) call key ((call.membership key).inserted
      (base.context source previous).known (base.context source previous).policy source.clusterName endpoint) := by
  have h := insertEndpoint_refines call hid
  rw [hfr.clusters, hfr.policy, hkey] at h
  exact h

theorem actsAs_install (hfr : Frame base call) {endpointId : UpstreamEndpointId} {endpoint : UpstreamEndpoint}
    (hid : endpoint.id = endpointId) (inRegistry : Bool) :
    ActsAs (install source.clusterName endpointId inRegistry endpoint) call ⟨source.clusterName, endpointId⟩
      ((if inRegistry then (call.membership ⟨source.clusterName, endpointId⟩).removed
          else call.membership ⟨source.clusterName, endpointId⟩).inserted (base.context source previous).known
        (base.context source previous).policy source.clusterName endpoint) := by
  cases inRegistry with
  | false => exact (actsAs_insertEndpoint hfr rfl hid).report (fun _ => rfl) (fun _ => rfl) (fun _ => rfl)
  | true =>
    refine (actsAs_removeEndpoint call ⟨source.clusterName, endpointId⟩).bind (fun call' hset => ?_)
    have h := @actsAs_insertEndpoint base call' source previous (hfr.trans hset.frame) ⟨source.clusterName, endpointId⟩ rfl endpoint hid
    rw [hset.at_key] at h
    exact h.report (fun _ => rfl) (fun _ => rfl) (fun _ => rfl)

theorem advertise_actsAs (hfr : Frame base call) {entry : UpstreamEndpointId × DiscoveryEndpoint × UpstreamEndpoint}
    (hid : entry.2.2.id = entry.1) :
    ActsAs (advertise source previous entry) call ⟨source.clusterName, entry.1⟩
      ((base.context source previous).advertise entry (call.membership ⟨source.clusterName, entry.1⟩)) := by
  obtain ⟨endpointId, endpoint, ue⟩ := entry
  have hoth : otherSourceDefinition call.reconciler.activeEndpointsBySource source endpointId =
      (base.context source previous).other endpointId := by rw [hfr.active]; rfl
  unfold advertise ReconcileContext.advertise
  dsimp only
  by_cases hs : previous.get? endpointId = some endpoint
  · rw [if_pos hs, if_pos (show (base.context source previous).previous.get? endpointId = some endpoint from hs)]
    exact actsAs_pure call _
  · rw [if_neg hs, if_neg (show ¬ (base.context source previous).previous.get? endpointId = some endpoint from hs)]
    refine ActsAs.after_get (ActsAs.bind ⟨rfl, forgetDeadline_setAt call _⟩ (fun call' hset => ?_))
    refine ActsAs.report ?_ (fun _ => rfl) (fun _ => rfl) (fun call => by unfold countAdvertised count; dsimp only; split <;> rfl)
    rw [hoth]
    by_cases htr : (base.context source previous).tracksOnly endpointId endpoint
        (call.membership ⟨source.clusterName, endpointId⟩) = true
    · -- nothing was draining, so forgetting the deadline changed nothing
      have hdea : (call.membership ⟨source.clusterName, endpointId⟩).deadline = none := by
        simp only [ReconcileContext.tracksOnly, decide_eq_true_eq] at htr
        simpa using htr.2.1
      rw [if_pos (by exact of_decide_eq_true htr), if_pos htr]
      have hp := actsAs_pure call' ⟨source.clusterName, endpointId⟩
      rw [hset.at_key] at hp
      have hs : { call.membership ⟨source.clusterName, endpointId⟩ with deadline := none } =
          call.membership ⟨source.clusterName, endpointId⟩ := by rw [← hdea]
      rw [hs] at hp
      exact hp
    · rw [if_neg (by exact fun h => htr (decide_eq_true h)), if_neg htr]
      have hins := @actsAs_install base call' source previous (hfr.trans hset.frame) endpointId ue hid
        ((base.context source previous).inRegistry endpointId (call.membership ⟨source.clusterName, endpointId⟩))
      rw [hset.at_key] at hins
      exact hins

theorem otherSourceDefinition_id {active : SortedMap DiscoverySourceId SourceEndpoints} {endpointId : UpstreamEndpointId}
    {other : DiscoveryEndpoint} (h : otherSourceDefinition active source endpointId = some other) :
    other.endpointId = endpointId := by
  obtain ⟨entry, -, hget⟩ := List.exists_of_findSome?_eq_some h
  exact entry.2.keyed hget

theorem intoUpstreamEndpoint_ok {endpoint : DiscoveryEndpoint} {state : EndpointState} {upstreamEndpoint : UpstreamEndpoint}
    (h : endpoint.intoUpstreamEndpoint state = .ok upstreamEndpoint) :
    upstreamEndpoint.id = endpoint.endpointId ∧ upstreamEndpoint.state = state := by
  unfold DiscoveryEndpoint.intoUpstreamEndpoint UpstreamEndpoint.new at h
  split at h
  · cases h
  · cases h
    exact ⟨rfl, rfl⟩

theorem withdraw_actsAs (hfr : Frame base call) {entry : UpstreamEndpointId × DiscoveryEndpoint} :
    ActsAs (withdraw source entry) call ⟨source.clusterName, entry.1⟩
      ((base.context source previous).withdraw entry (call.membership ⟨source.clusterName, entry.1⟩)) := by
  obtain ⟨removedId, removed⟩ := entry
  have hoth : otherSourceDefinition call.reconciler.activeEndpointsBySource source removedId =
      (base.context source previous).other removedId := by rw [hfr.active]; rfl
  unfold ReconcileContext.withdraw
  refine ActsAs.after_get ?_
  rw [hoth]
  cases hdef : (base.context source previous).other removedId with
  | some other =>
    dsimp only
    split_ifs with hs
    · exact actsAs_pure call _
    · cases hado : other.intoUpstreamEndpoint .ready with
      | error error => exact ⟨rfl, SetAt.refl call _⟩
      | ok ad =>
        have hid : ad.id = removedId :=
          (intoUpstreamEndpoint_ok hado).1.trans (otherSourceDefinition_id hdef)
        exact actsAs_install hfr hid true
  | none =>
    refine (actsAs_setEndpointDraining call ⟨source.clusterName, removedId⟩).bind (fun call' hset => ?_)
    have hsta := startDeadline_setAt call' ⟨source.clusterName, removedId⟩
    rw [hset.at_key, hset.frame.now, hset.frame.grace, hfr.now, hfr.grace] at hsta
    refine ActsAs.bind (⟨rfl, hsta⟩ : ActsAs _ call' _ (.ok (), _)) (fun call'' hset' => ?_)
    refine ActsAs.bind (m := call''.membership ⟨source.clusterName, removedId⟩) ⟨rfl, setAt_report rfl rfl rfl⟩
      (fun call₃ hset₃ => ⟨rfl, ?_⟩)
    have hrep := @setAt_report call₃ ⟨source.clusterName, removedId⟩
      (count (fun o => { o with markedDraining := o.markedDraining + 1 }) call₃) rfl rfl rfl
    rw [hset₃.at_key, hset'.at_key] at hrep
    exact hrep

end Turns

/-! ## The loops -/

/-- The turns of both loops of a reconciliation: an endpoint that is advertised, or one that no longer is. -/
abbrev Step := (UpstreamEndpointId × DiscoveryEndpoint × UpstreamEndpoint) ⊕ (UpstreamEndpointId × DiscoveryEndpoint)

def Step.endpointId : Step → UpstreamEndpointId := Sum.elim (·.1) (·.1)

/-- What is to be registered carries the identifier it is registered under. -/
def Step.Keyed : Step → Prop := Sum.elim (fun entry => entry.2.2.id = entry.1) (fun _ => True)

def turn (source : DiscoverySourceId) (previous : SourceEndpoints) : Step → Reconciling Unit :=
  Sum.elim (advertise source previous) (withdraw source)

/-- The frame of a reconciliation, which records no lifecycle before its end. -/
def Untouched (base call : DiscoveryCall) : Prop :=
  Frame base call ∧ call.reconciler.endpointLifecycle = base.reconciler.endpointLifecycle

end DiscoveryCall

def ReconcileContext.act (ctx : ReconcileContext) :
    DiscoveryCall.Step → Membership → Except DiscoveryReconcileError Unit × Membership :=
  Sum.elim ctx.advertise ctx.withdraw

namespace DiscoveryCall

/-- **The turns of a reconciliation act on one endpoint each.** -/
theorem refines_reconcile (base : DiscoveryCall) (source : DiscoverySourceId) (previous : SourceEndpoints) :
    Proc.Refines Step.Keyed (Untouched base) membership (fun step => (⟨source.clusterName, step.endpointId⟩ : EndpointKey))
      (base.context source previous).act (turn source previous) := by
  have ht : ∀ {step : Step} {call : DiscoveryCall}, step.Keyed → Untouched base call →
      ActsAs (turn source previous step) call ⟨source.clusterName, step.endpointId⟩
        ((base.context source previous).act step (call.membership ⟨source.clusterName, step.endpointId⟩)) := by
    rintro (entry | entry) call hkey hfr
    · exact advertise_actsAs hfr.1 hkey
    · exact withdraw_actsAs hfr.1
  refine ⟨fun hkey hC => (ht hkey hC).1, fun hkey hC => (ht hkey hC).2.at_key,
    fun hkey hC hne => (ht hkey hC).2.elsewhere _ hne, fun hkey hC => ?_⟩
  have hset := (ht hkey hC).2
  exact ⟨hC.1.trans hset.frame, hset.lifecycle.trans hC.2⟩

/-- Recording a lifecycle changes the lifecycles and the report only. -/
structure OnlyRecords (call call' : DiscoveryCall) : Prop where
  membership_eq : call'.membership = call.membership
  frame : Frame call call'

theorem OnlyRecords.trans {a b c : DiscoveryCall} (hab : OnlyRecords a b) (hbc : OnlyRecords b c) : OnlyRecords a c :=
  ⟨hbc.membership_eq.trans hab.membership_eq, hab.frame.trans hbc.frame⟩

variable (key : EndpointKey) (call : DiscoveryCall)

theorem onlyRecords_activated :
    OnlyRecords call (recordEndpointActivated key call) := ⟨rfl, ⟨rfl, rfl, rfl, rfl, fun _ => rfl, rfl, rfl⟩⟩

theorem onlyRecords_draining : OnlyRecords call (recordEndpointDraining key call) := ⟨rfl, ⟨rfl, rfl, rfl, rfl, fun _ => rfl, rfl, rfl⟩⟩

theorem onlyRecords_drained : OnlyRecords call (recordEndpointDrained key call) := by
  unfold recordEndpointDrained
  split
  · exact ⟨rfl, Frame.refl call⟩
  · refine ⟨rfl, ⟨rfl, rfl, rfl, rfl, fun _ => rfl, rfl, ?_⟩⟩
    split <;> rfl

theorem onlyRecords_removed : OnlyRecords call (recordEndpointRemoved key call) := by
  unfold recordEndpointRemoved
  split
  · exact ⟨rfl, ⟨rfl, rfl, rfl, rfl, fun _ => rfl, rfl, rfl⟩⟩
  · exact ⟨rfl, Frame.refl call⟩

theorem onlyRecords_foldl {f : DiscoveryCall → UpstreamEndpointId → DiscoveryCall} (hf : ∀ call id, OnlyRecords call (f call id)) :
    ∀ {ids : List UpstreamEndpointId} {call : DiscoveryCall}, OnlyRecords call (ids.foldl f call)
  | [], call        => ⟨rfl, Frame.refl call⟩
  | id :: _, call => (hf call id).trans (onlyRecords_foldl hf)

/-- What is committed is the source's endpoints and generation; the rest are lifecycles. -/
theorem onlyRecords_commit (source : DiscoverySourceId) (generation : ℕ) (endpoints : SourceEndpoints) (call : DiscoveryCall) :
    OnlyRecords (withSource source generation endpoints call) (commit source generation endpoints call) :=
  (onlyRecords_foldl (fun call id => onlyRecords_activated ⟨source.clusterName, id⟩ call)).trans
    (onlyRecords_foldl (fun call id => onlyRecords_draining ⟨source.clusterName, id⟩ call))

end DiscoveryCall

namespace DiscoveryMembershipReconciler

open DiscoveryCall

variable (reconciler : DiscoveryMembershipReconciler)

def steps (source : DiscoverySourceId) (next : NextEndpoints) : List Step :=
  next.table.entries.map Sum.inl ++
    ((reconciler.previousOf source).table.entries.filter (fun entry => (next.table.get? entry.1).isNone)).map Sum.inr

variable {reconciler}

theorem steps_keyed {source : DiscoverySourceId} {next : NextEndpoints} : ∀ step ∈ reconciler.steps source next, step.Keyed := by
  intro step hs
  rcases List.mem_append.1 hs with hs | hs
  · obtain ⟨entry, hent, rfl⟩ := List.mem_map.1 hs
    obtain ⟨hid, hrea⟩ := next.ready (get?_eq_some.2 hent)
    exact (intoUpstreamEndpoint_ok hrea).1.trans hid
  · obtain ⟨entry, -, rfl⟩ := List.mem_map.1 hs
    trivial

theorem steps_distinct {source : DiscoverySourceId} {next : NextEndpoints} :
    ((reconciler.steps source next).map (fun step => (⟨source.clusterName, step.endpointId⟩ : EndpointKey))).Nodup := by
  have hids : ((reconciler.steps source next).map Step.endpointId).Nodup := by
    rw [steps, List.map_append, List.map_map, List.map_map]
    refine List.nodup_append.2 ⟨next.table.keys_nodup, ?_, ?_⟩
    · exact (reconciler.previousOf source).table.keys_nodup.sublist (List.filter_sublist.map _)
    · rintro id hid id' hid' rfl
      obtain ⟨entry, hent, rfl⟩ := List.mem_map.1 hid
      obtain ⟨withdrawn, hwit, hs⟩ := List.mem_map.1 hid'
      have hn := (List.mem_filter.1 hwit).2
      have hso : next.table.get? withdrawn.1 = some entry.2 := by
        rw [show withdrawn.1 = entry.1 from hs]
        exact get?_eq_some.2 hent
      rw [hso] at hn
      cases hn
  rw [← Function.comp_def (fun id => (⟨source.clusterName, id⟩ : EndpointKey)) Step.endpointId, ← List.map_map]
  refine hids.map (fun id id' h => ?_)
  exact (EndpointKey.mk.inj h).2

theorem applySnapshot_eq (snapshot : DiscoverySnapshot) (next : NextEndpoints) (call : DiscoveryCall) :
    reconciler.applySnapshot snapshot next call =
      (Proc.forEach (turn snapshot.source (reconciler.previousOf snapshot.source)) (reconciler.steps snapshot.source next) >>=
        fun _ => Proc.update (commit snapshot.source snapshot.generation next.endpoints)) call := by
  have hloo := Proc.forEach_append (advertise snapshot.source (reconciler.previousOf snapshot.source)) (withdraw snapshot.source)
    ((reconciler.previousOf snapshot.source).table.entries.filter (fun entry => (next.table.get? entry.1).isNone))
    next.table.entries call
  unfold applySnapshot
  rw [← Proc.bind_bind]
  rcases hrun : Proc.forEach (turn snapshot.source (reconciler.previousOf snapshot.source))
    (reconciler.steps snapshot.source next) call with ⟨e | u, call'⟩
  · rw [Proc.bind_of_error _ hrun, Proc.bind_of_error _ (hloo.trans hrun)]
  · rw [Proc.bind_of_ok _ hrun, Proc.bind_of_ok _ (hloo.trans hrun)]

/-- **What a reconciliation that returns did**: it rejected an older generation and changed nothing, or it took every
step at the endpoint the step is about, touched no other endpoint, and committed the snapshot. -/
theorem reconcileSnapshot_ok {registry registry' : UpstreamHealthRegistry} {snapshot : DiscoverySnapshot}
    {outcome : DiscoveryReconcileOutcome} {reconciler' : DiscoveryMembershipReconciler}
    (h : reconciler.reconcileSnapshot registry snapshot = (.ok outcome, reconciler', registry')) :
    (reconciler.isStale snapshot = true ∧ outcome = { staleGenerationRejected := true } ∧ reconciler' = reconciler ∧
      registry' = registry) ∨
    (reconciler.isStale snapshot = false ∧ outcome.staleGenerationRejected = false ∧ ∃ next, snapshot.validated = .ok next ∧
      (∀ step ∈ reconciler.steps snapshot.source next,
        (DiscoveryCall.context { reconciler, registry } snapshot.source (reconciler.previousOf snapshot.source)).act step
            (DiscoveryCall.membership { reconciler, registry } ⟨snapshot.source.clusterName, step.endpointId⟩) =
          (.ok (), DiscoveryCall.membership { reconciler := reconciler', registry := registry' }
            ⟨snapshot.source.clusterName, step.endpointId⟩)) ∧
      (∀ key ∉ (reconciler.steps snapshot.source next).map (fun step => ⟨snapshot.source.clusterName, step.endpointId⟩),
        DiscoveryCall.membership { reconciler := reconciler', registry := registry' } key =
          DiscoveryCall.membership { reconciler, registry } key) ∧
      reconciler'.activeEndpointsBySource = reconciler.activeEndpointsBySource.insert snapshot.source next.endpoints ∧
      reconciler'.appliedGenerations = reconciler.appliedGenerations.insert snapshot.source snapshot.generation ∧
      reconciler'.now = reconciler.now ∧ reconciler'.drainGrace = reconciler.drainGrace) := by
  unfold reconcileSnapshot at h
  cases hsta : reconciler.isStale snapshot with
  | true =>
    rw [if_pos hsta] at h
    cases h
    exact .inl ⟨rfl, rfl, rfl, rfl⟩
  | false =>
    rw [if_neg (by rw [hsta]; exact Bool.false_ne_true)] at h
    refine .inr ⟨rfl, ?_⟩
    cases hval : snapshot.validated with
    | error error =>
      rw [hval] at h
      cases h
    | ok next =>
      rw [hval] at h
      dsimp only at h
      rw [applySnapshot_eq] at h
      rcases hl : Proc.forEach (turn snapshot.source (reconciler.previousOf snapshot.source))
        (reconciler.steps snapshot.source next) { reconciler, registry } with ⟨error | ⟨⟩, call⟩
      · rw [Proc.bind_of_error _ hl] at h
        cases h
      · rw [Proc.bind_of_ok _ hl] at h
        cases h
        obtain ⟨hfr, hact, hels⟩ := (refines_reconcile { reconciler, registry } snapshot.source
          (reconciler.previousOf snapshot.source)).forEach_ok steps_distinct steps_keyed
          ⟨Frame.refl _, rfl⟩ hl
        have hcom := onlyRecords_commit snapshot.source snapshot.generation next.endpoints call
        have hmem : ∀ key, DiscoveryCall.membership
            { reconciler := (commit snapshot.source snapshot.generation next.endpoints call).reconciler
              registry := (commit snapshot.source snapshot.generation next.endpoints call).registry } key =
            call.membership key := fun key => congrFun hcom.membership_eq key
        refine ⟨hcom.frame.stale.trans hfr.1.stale, next, rfl, fun step hs => ?_, fun key hkey => ?_, ?_, ?_,
          hcom.frame.now.trans hfr.1.now, hcom.frame.grace.trans hfr.1.grace⟩
        · exact (hact step hs).trans (congrArg (Prod.mk _) (hmem _).symm)
        · exact (hmem key).trans (hels key hkey)
        · refine hcom.frame.active.trans ?_
          rw [← hfr.1.active]
          rfl
        · refine hcom.frame.generations.trans ?_
          rw [← hfr.1.generations]
          rfl

end DiscoveryMembershipReconciler

/-! ## Time -/

def Membership.expired (m : Membership) : Membership := ({ m with deadline := none } : Membership).removed

namespace DiscoveryMembershipReconciler

open DiscoveryCall

theorem expire_spec {key : EndpointKey} {call : DiscoveryCall} :
    (expire key call).1 = .ok () ∧ (expire key call).2.membership key = (call.membership key).expired ∧
      (∀ k, k ≠ key → (expire key call).2.membership k = call.membership k) ∧ Frame call (expire key call).2 := by
  have hfor := forgetDeadline_setAt call key
  have hdra := onlyRecords_drained key (call.forgetDeadline key)
  obtain ⟨hres, hset⟩ := actsAs_removeEndpoint ((call.forgetDeadline key).recordEndpointDrained key) key
  rcases hrem : DiscoveryCall.removeEndpoint key.cluster key.endpointId
    ((call.forgetDeadline key).recordEndpointDrained key) with ⟨error | ⟨⟩, call'⟩
  · rw [hrem] at hres
    cases hres
  · rw [hrem] at hset
    have hr := onlyRecords_removed key call'
    have hrun : expire key call = (.ok (), count (fun o =>
        { o with removedAfterDrain := o.removedAfterDrain + 1 }) (call'.recordEndpointRemoved key)) :=
      Proc.bind_of_ok _ hrem
    have hmem : ∀ k, (expire key call).2.membership k = call'.membership k := fun k => by
      rw [hrun]
      exact congrFun hr.membership_eq k
    refine ⟨by rw [hrun], ?_, fun k hk => ?_, ?_⟩
    · rw [hmem, hset.at_key, hdra.membership_eq, hfor.at_key]
      rfl
    · rw [hmem, hset.elsewhere k hk, hdra.membership_eq, hfor.elsewhere k hk]
    · rw [hrun]
      exact hfor.frame.trans (hdra.frame.trans (hset.frame.trans (hr.frame.trans ⟨rfl, rfl, rfl, rfl, fun _ => rfl, rfl, rfl⟩)))

/-- **The turns of the loop over the expired deadlines act on one endpoint each**, and none fails. -/
theorem refines_expire (base : DiscoveryCall) : Proc.Refines (fun _ => True) (Frame base) membership id
    (fun _ m => (.ok (), m.expired)) expire where
  result := fun _ _ => expire_spec.1
  at_key := fun _ _ => expire_spec.2.1
  frame := fun {_ _ k} _ _ hk => expire_spec.2.2.1 k hk
  context := fun _ hC => hC.trans expire_spec.2.2.2

variable (reconciler : DiscoveryMembershipReconciler)

theorem mem_expired {now : ℕ} {key : EndpointKey} :
    key ∈ reconciler.expired now ↔ ∃ deadline ≤ now, reconciler.drainingDeadlines.get? key = some deadline := by
  simp only [expired, List.mem_map, List.mem_filter, decide_eq_true_eq]
  constructor
  · rintro ⟨⟨k, deadline⟩, ⟨hmem, hle⟩, rfl⟩
    exact ⟨deadline, hle, get?_eq_some.2 hmem⟩
  · rintro ⟨deadline, hle, hget⟩
    exact ⟨(key, deadline), ⟨get?_eq_some.1 hget, hle⟩, rfl⟩

theorem expired_nodup {now : ℕ} : ((reconciler.expired now).map id).Nodup := by
  rw [List.map_id]
  exact reconciler.drainingDeadlines.keys_nodup.sublist (List.filter_sublist.map _)

/-- **Time always passes**: what has drained is gone, the rest is as it was. -/
theorem advanceTime_eq (registry : UpstreamHealthRegistry) (elapsed : ℕ) :
    ∃ outcome reconciler' registry', reconciler.advanceTime registry elapsed = (.ok outcome, reconciler', registry') ∧
      reconciler'.now = min (reconciler.now + elapsed) durationMax ∧ reconciler'.drainGrace = reconciler.drainGrace ∧
      reconciler'.activeEndpointsBySource = reconciler.activeEndpointsBySource ∧
      reconciler'.appliedGenerations = reconciler.appliedGenerations ∧
      ∀ key, DiscoveryCall.membership { reconciler := reconciler', registry := registry' } key =
        if key ∈ reconciler.expired reconciler'.now then (DiscoveryCall.membership { reconciler, registry } key).expired
        else DiscoveryCall.membership { reconciler, registry } key := by
  let later : DiscoveryMembershipReconciler := { reconciler with now := min (reconciler.now + elapsed) durationMax }
  obtain ⟨call, hl⟩ := (refines_expire { reconciler := later, registry }).forEach_returns
    reconciler.expired_nodup (fun _ _ => trivial) (Frame.refl _)
    (fun _ _ => rfl)
  obtain ⟨hfr, hact, hels⟩ := (refines_expire _).forEach_ok reconciler.expired_nodup (fun _ _ => trivial) (Frame.refl _) hl
  refine ⟨call.outcome, call.reconciler, call.registry, ?_, hfr.now, hfr.grace, hfr.active, hfr.generations, fun key => ?_⟩
  · unfold advanceTime
    dsimp only
    rw [hl]
    rfl
  · rw [hfr.now]
    split
    · rename_i hkey
      exact ((Prod.mk.inj (hact key hkey)).2).symm
    · rename_i hkey
      exact hels key (by rw [List.map_id]; exact hkey)

/-- The state that `advance_time` leaves. -/
def sweep (call : DiscoveryCall) (elapsed : ℕ) : DiscoveryCall :=
  let (_, reconciler, registry) := call.reconciler.advanceTime call.registry elapsed
  { reconciler, registry }

def shown (call : DiscoveryCall) : ℕ × (EndpointKey → Membership) := (call.reconciler.now, call.membership)

theorem sweep_sweep (call : DiscoveryCall) (a b : ℕ) : shown (sweep (sweep call a) b) = shown (sweep call (a + b)) := by
  obtain ⟨_, r₁, g₁, h₁, hn₁, -, -, -, hm₁⟩ := call.reconciler.advanceTime_eq call.registry a
  obtain ⟨_, r₂, g₂, h₂, hn₂, -, -, -, hm₂⟩ := r₁.advanceTime_eq g₁ b
  obtain ⟨_, r₃, g₃, h₃, hn₃, -, -, -, hm₃⟩ := call.reconciler.advanceTime_eq call.registry (a + b)
  have hn : r₂.now = r₃.now := by omega
  simp only [shown, sweep, h₁, h₂, h₃]
  refine Prod.ext hn (funext fun key => ?_)
  dsimp only
  rw [hm₂, hm₃]
  have hk := hm₁ key
  split at hk
  · -- what the first sweep took has no deadline left
    rename_i he
    have hd : r₁.drainingDeadlines.get? key = none := (congrArg Membership.deadline hk).trans (Membership.removed_deadline _)
    obtain ⟨d, hle, hget⟩ := (mem_expired _).1 he
    rw [if_neg (by simp [mem_expired, hd]), if_pos ((mem_expired _).2 ⟨d, by omega, hget⟩), hk]
  · have hd : r₁.drainingDeadlines.get? key = call.reconciler.drainingDeadlines.get? key := congrArg Membership.deadline hk
    simp only [mem_expired, hd, hn, hk]

/-- **How time is divided into sweeps does not matter**: any run of them leaves the clock and the endpoints as one sweep of the
whole time does. -/
theorem sweeps_eq_sweep_sum (call : DiscoveryCall) (first : ℕ) (rest : List ℕ) :
    shown (rest.foldl sweep (sweep call first)) = shown (sweep call (first + rest.sum)) := by
  induction rest generalizing call first with
  | nil => rfl
  | cons next rest ih => exact (ih (sweep call first) next).trans (sweep_sweep call first _)

end DiscoveryMembershipReconciler

end WayBalancer
