import WayBalancer.RolloutRuns
/-!
# FleetAutoRollback — the version an automatic rollback goes to

A fleet of nodes that are dataplanes driven by rollout coordinators (`ManagedFleet`): a call either does not reach its node or is
run by it, and a status that is read is the node's.  The dataplane takes every version it activates for its last known good
one, so an automatic rollback after a rollout goes to the version of that rollout as soon as one of its nodes has taken it.
-/
namespace WayBalancer

open Str Word

variable {version : Text} {now : ℕ} {p : PublishedVersion}

variable {Snap η σ : Type} {ops : SnapshotOps Snap} {hook : SnapshotActivationHook Snap η} {backend : FleetNodeBackend σ}

/-! ## Managed fleets -/

/-- A call on a node, next to the node's own run of it: the other nodes stay as they were; the call is lost before the node, or
it is the node's run, with its answer passed on or lost. -/
def Drives (node : σ → Text → RolloutNode Snap η) (nodeId : Text) (s : σ)
    (run : Except RolloutError RolloutResponse × RolloutNode Snap η) (call : Except FleetNodeBackendError RolloutResponse × σ) :
    Prop :=
  (∀ other, other ≠ nodeId → node call.2 other = node s other) ∧
    ((node call.2 nodeId = node s nodeId ∧ ∀ response, call.1 ≠ .ok response) ∨
      (node call.2 nodeId = run.2 ∧ ∀ response, call.1 = .ok response → run.1 = .ok response))

/-- A backend whose nodes are dataplanes under rollout coordinators, each with the registry it reads. -/
structure ManagedFleet (ops : SnapshotOps Snap) (hook : SnapshotActivationHook Snap η) (backend : FleetNodeBackend σ) where
  node : σ → Text → RolloutNode Snap η
  control : σ → Text → SnapshotRegistry Snap
  coherent : ∀ s nodeId, (control s nodeId).Coherent ops
  status : ∀ s nodeId status, backend.fetchStatus s nodeId = .ok status →
    status.activeVersion = (node s nodeId).dataplane.activeVersion ∧
      status.lastKnownGoodVersion = (node s nodeId).dataplane.lastKnownGoodVersion
  rollout : ∀ s nodeId request now, Drives node nodeId s
    (RolloutCoordinator.rolloutAt ops hook (control s nodeId) request now (node s nodeId)) (backend.rolloutNode nodeId request now s)
  rollback : ∀ s nodeId request now, Drives node nodeId s
    (RolloutCoordinator.rollbackAt ops hook (control s nodeId) request now (node s nodeId)) (backend.rollbackNode nodeId request now s)

def localNodes (ops : SnapshotOps Snap) (hook : SnapshotActivationHook Snap η) (control : SnapshotRegistry Snap) :
    FleetNodeBackend (Text → RolloutNode Snap η) where
  fetchStatus nodes nodeId :=
    let dataplane := (nodes nodeId).dataplane
    .ok ⟨nodeId, dataplane.activeVersion, dataplane.active.map (·.digestSha256), dataplane.activeVersion,
      dataplane.active.map (·.digestSha256), dataplane.lastKnownGoodVersion, none, 0⟩
  fetchHealthSignals _ _ _ := .ok none
  rolloutNode nodeId request now nodes :=
    let (r, node) := RolloutCoordinator.rolloutAt ops hook control request now (nodes nodeId)
    (r.mapError (fun e => .rejected e.toText), fun other => if other = nodeId then node else nodes other)
  rollbackNode nodeId request now nodes :=
    let (r, node) := RolloutCoordinator.rollbackAt ops hook control request now (nodes nodeId)
    (r.mapError (fun e => .rejected e.toText), fun other => if other = nodeId then node else nodes other)

theorem drives_update {nodes : Text → RolloutNode Snap η} {nodeId : Text}
    {run : Except RolloutError RolloutResponse × RolloutNode Snap η} :
    Drives (fun nodes nodeId => nodes nodeId) nodeId nodes run
      (run.1.mapError (fun e => .rejected e.toText), fun other => if other = nodeId then run.2 else nodes other) := by
  refine ⟨fun other hne => if_neg hne, .inr ⟨if_pos rfl, fun resp h => ?_⟩⟩
  exact Proc.except_mapError_ok.1 h

def localFleet (ops : SnapshotOps Snap) (hook : SnapshotActivationHook Snap η) {control : SnapshotRegistry Snap}
    (hcontrol : control.Coherent ops) : ManagedFleet ops hook (localNodes ops hook control) where
  node nodes nodeId := nodes nodeId
  control _ _ := control
  coherent _ _ := hcontrol
  status nodes nodeId status h := by
    cases h
    exact ⟨rfl, rfl⟩
  rollout nodes nodeId request now := drives_update
  rollback nodes nodeId request now := drives_update

/-! ## What calls keep -/

namespace ManagedFleet

variable (fleet : ManagedFleet ops hook backend)

/-- Every node takes what it runs for its last known good version. -/
def Good (s : σ) : Prop :=
  ∀ nodeId, (fleet.node s nodeId).dataplane.lastKnownGood = (fleet.node s nodeId).dataplane.active

variable {nodeId : Text} {s : σ}

theorem keeps_of_drives {P : RolloutNode Snap η → Prop} {run : Except RolloutError RolloutResponse × RolloutNode Snap η}
    {call : Except FleetNodeBackendError RolloutResponse × σ} (h : Drives fleet.node nodeId s run call)
    (hrun : P (fleet.node s nodeId) → P run.2) {other : Text} (hoth : P (fleet.node s other)) :
    P (fleet.node call.2 other) := by
  obtain ⟨ho, hn⟩ := h
  by_cases hne : other = nodeId
  · subst hne
    rcases hn with ⟨hs, -⟩ | ⟨hran, -⟩
    · rwa [hs]
    · rw [hran]
      exact hrun hoth
  · rwa [ho other hne]

theorem good_rollout (h : fleet.Good s) {request : RolloutRequest} :
    fleet.Good (backend.rolloutNode nodeId request now s).2 := fun other =>
  fleet.keeps_of_drives (P := fun node => node.dataplane.lastKnownGood = node.dataplane.active) (fleet.rollout s nodeId request now)
    (RolloutCoordinator.rolloutAt_acts (fleet.coherent s nodeId) request now).lastKnownGood_eq (h other)

theorem keeps_rollout {other : Text} {request : RolloutRequest}
    (h : (fleet.node s other).dataplane.activeVersion = some request.version) :
    (fleet.node (backend.rolloutNode nodeId request now s).2 other).dataplane.activeVersion = some request.version :=
  fleet.keeps_of_drives (P := fun node => node.dataplane.activeVersion = some request.version) (fleet.rollout s nodeId request now)
    (RolloutCoordinator.rolloutAt_acts (fleet.coherent s nodeId) request now).keeps_version h

theorem keeps_rollback {other : Text} (h : (fleet.node s other).dataplane.activeVersion = some version)
    {request : RollbackRequest} (hver : request.targetVersion = some version) :
    (fleet.node (backend.rollbackNode nodeId request now s).2 other).dataplane.activeVersion = some version := by
  refine fleet.keeps_of_drives (P := fun node => node.dataplane.activeVersion = some version) (fleet.rollback s nodeId request now)
    (RolloutCoordinator.rollbackAt_acts (fleet.coherent s nodeId) ?_ now).keeps_version h
  rw [RolloutCoordinator.rollbackVersion, hver, Option.some_or]

theorem took_rollout {s' : σ} {request : RolloutRequest} {response : RolloutResponse}
    (h : backend.rolloutNode nodeId request now s = (.ok response, s')) :
    (fleet.node s' nodeId).dataplane.activeVersion = some request.version := by
  have hdri := fleet.rollout s nodeId request now
  have ha := @RolloutCoordinator.rolloutAt_acts _ _ ops hook (fleet.node s nodeId) _ (fleet.coherent s nodeId) request now
  rw [h] at hdri
  rcases hdri.2 with ⟨-, hl⟩ | ⟨hrun, hans⟩
  · exact absurd rfl (hl response)
  · rw [hans response rfl] at ha
    have hn : fleet.node s' nodeId = _ := hrun
    rw [hn]
    exact ha.version_of_ok

/-! ## The rollout -/

/-- **The nodes that took a rollout are on its version at the end of the loop**: a node is on it when it answers, and no later call
of the loop takes it off. -/
theorem actOnNodes_took (strategy : FleetRolloutStrategy) (request : RolloutRequest) (now : ℕ) :
    ∀ (nodes : List Text) (index : ℕ) (halted : Bool) (w : FleetWorld σ) (o : FleetNodeActionOutcome),
      o ∈ (actOnNodes .rollout strategy (rolloutOperation backend request now) index halted nodes w).1 →
      o.result = .applied ∨ o.result = .unchanged →
      (fleet.node (actOnNodes .rollout strategy (rolloutOperation backend request now) index halted nodes w).2.backend
        o.nodeId).dataplane.activeVersion = some request.version
  | [], _, _, _, _, hmem, _ => by cases hmem
  | nodeId :: nodes, index, true, w, o, hmem, hres => by
    rcases List.mem_cons.1 hmem with rfl | hmem
    · rcases hres with h | h <;> cases h
    · exact actOnNodes_took strategy request now nodes (index + 1) true w o hmem hres
  | nodeId :: nodes, index, false, w, o, hmem, hres => by
    rcases hc : backend.rolloutNode nodeId request now w.backend with ⟨error | response, s'⟩
    · rw [actOnNodes_error (rolloutOperation_of_call hc)] at hmem ⊢
      rcases List.mem_cons.1 hmem with rfl | hmem
      · rcases hres with h | h <;> cases h
      · exact actOnNodes_took strategy request now nodes (index + 1) _ _ o hmem hres
    · rw [actOnNodes_ok (rolloutOperation_of_call hc)] at hmem ⊢
      rcases List.mem_cons.1 hmem with rfl | hmem
      · refine actOnNodes_keeps (P := fun w => (fleet.node w.backend nodeId).dataplane.activeVersion = some request.version)
          (fun other w' h => ?_) nodes (index + 1) false _ (fleet.took_rollout hc)
        exact fleet.keeps_rollout h
      · exact actOnNodes_took strategy request now nodes (index + 1) _ _ o hmem hres

theorem good_actOnNodes {strategy : FleetRolloutStrategy} {request : RolloutRequest} {w : FleetWorld σ}
    (h : fleet.Good w.backend) {nodes : List Text} :
    fleet.Good (actOnNodes .rollout strategy (rolloutOperation backend request now) 0 false nodes w).2.backend :=
  actOnNodes_keeps (P := fun w => fleet.Good w.backend) (fun _ _ h => fleet.good_rollout h) nodes 0 false w h

end ManagedFleet

/-! ## The candidate -/

theorem sharedRollbackCandidate_cons {s : σ} {candidate : Option Text} {node : Text} {nodes : List Text}
    (h : sharedRollbackCandidate backend s candidate (node :: nodes) = .ok version) :
    ∃ status good, backend.fetchStatus s node = .ok status ∧ status.lastKnownGoodVersion = some good ∧
      (∀ existing, candidate = some existing → existing = good) ∧
      sharedRollbackCandidate backend s (some good) nodes = .ok version := by
  rw [sharedRollbackCandidate] at h
  cases hst : backend.fetchStatus s node with
  | error e => rw [hst] at h; cases h
  | ok status =>
    cases hg : status.lastKnownGoodVersion with
    | none => simp only [hst, hg] at h; cases h
    | some good =>
      simp only [hst, hg, Proc.ite_error_ok] at h
      refine ⟨status, good, rfl, hg, fun existing hexi => ?_, h.2⟩
      have hs := h.1
      rw [hexi] at hs
      simpa using hs

theorem sharedRollbackCandidate_some {s : σ} : ∀ {nodes : List Text} {existing : Text},
    sharedRollbackCandidate backend s (some existing) nodes = .ok version → existing = version
  | [], _, h => Except.ok.inj h
  | _ :: nodes, existing, h => by
    obtain ⟨_, good, -, -, hs, hr⟩ := sharedRollbackCandidate_cons h
    rw [hs existing rfl]
    exact sharedRollbackCandidate_some hr

theorem sharedRollbackCandidate_ok {s : σ} : ∀ {nodes : List Text} {candidate : Option Text},
    sharedRollbackCandidate backend s candidate nodes = .ok version →
      ∀ nodeId ∈ nodes, ∃ status, backend.fetchStatus s nodeId = .ok status ∧ status.lastKnownGoodVersion = some version
  | [], _, _, nodeId, hmem => by cases hmem
  | node :: nodes, candidate, h, nodeId, hmem => by
    obtain ⟨status, good, hst, hg, -, hr⟩ := sharedRollbackCandidate_cons h
    rcases List.mem_cons.1 hmem with rfl | hmem
    · exact ⟨status, hst, by rw [hg, sharedRollbackCandidate_some hr]⟩
    · exact sharedRollbackCandidate_ok hr nodeId hmem

variable {registry : SnapshotRegistry Snap}

theorem published_version (hreg : registry.Coherent ops) (h : (registry.toControl ops).published version = some p) :
    p.version = version := by
  unfold SnapshotControlService.published SnapshotRegistry.toControl at h
  rw [SortedMap.get?_mapValues, Option.map_map, Option.map_eq_some_iff] at h
  obtain ⟨record, hrec, rfl⟩ := h
  exact hreg.version_eq version record hrec

theorem rolloutChecks_published {published : Text → Option PublishedVersion} {request : FleetRolloutRequest}
    (h : rolloutChecks published request = .ok p) : published request.version = some p := by
  unfold rolloutChecks at h
  cases hfle : validateFleetRequest request.nodeIds request.strategy request.maxAllowedDivergenceMs with
  | error e => rw [hfle] at h; cases h
  | ok u =>
    rw [hfle] at h
    cases hr : validateRolloutRequest request.version request.requestedBy request.reason with
    | error e => simp only [hr] at h; cases h
    | ok u =>
      simp only [hr] at h
      cases hp : published request.version with
      | none => rw [hp] at h; cases h
      | some q =>
        rw [hp] at h
        cases h
        rfl

theorem rollbackChecks_ok {s : σ} {published : Text → Option PublishedVersion} {request : FleetRollbackRequest}
    (htgt : request.targetVersion = none) (h : rollbackChecks backend s published request = .ok p) :
    request.nodeIds ≠ [] ∧ ∃ target, sharedRollbackCandidate backend s none request.nodeIds = .ok target ∧
      published target = some p := by
  unfold rollbackChecks at h
  cases hfle : validateFleetRequest request.nodeIds .sequential request.maxAllowedDivergenceMs with
  | error e => rw [hfle] at h; cases h
  | ok u =>
    have hnod : request.nodeIds ≠ [] := by
      intro hnil
      rw [hnil] at hfle
      cases hfle
    simp only [hfle, htgt, Option.map_none] at h
    obtain ⟨target, hsh, h⟩ := Proc.except_bind_ok.1 h
    refine ⟨hnod, target, hsh, ?_⟩
    cases hp : published target with
    | none => rw [hp] at h; cases h
    | some q =>
      rw [hp] at h
      cases h
      rfl

/-! ## The automatic rollback -/

def autoRollbackReason (reason : Option Text) (decision : FleetAbortRollbackDecision) : Text :=
  (reason.elim [] (fun existing => existing ++ lit "; ")) ++ lit "automatic rollback after " ++ decision.detail

/-- An automatic rollback that was attempted went to the last known good version of every node it lists, and asked each of them
for it. -/
theorem executeAutoRollbackIfNeeded_attempted {fleet : ManagedFleet ops hook backend} (hreg : registry.Coherent ops)
    {nodeIds : List Text} {decision : FleetAbortRollbackDecision} {requestedBy reason : Option Text}
    {maxAllowedDivergenceMs : ℕ} {w w' : FleetWorld σ} {outcome : FleetAutoRollbackOutcome} (h : executeAutoRollbackIfNeeded backend (registry.toControl ops).published nodeIds decision requestedBy reason
      maxAllowedDivergenceMs now w = (.ok outcome, w')) (hatt : outcome.attempted = true) :
    nodeIds ≠ [] ∧ ∃ target, outcome.targetVersion = some target ∧
      (∀ nodeId ∈ nodeIds, (fleet.node w.backend nodeId).dataplane.lastKnownGoodVersion = some target) ∧
      w'.backend = (actOnNodes .rollback .sequential
        (rollbackOperation backend ⟨some target, requestedBy, some (autoRollbackReason reason decision)⟩ now) 0 false nodeIds
          w).2.backend := by
  unfold executeAutoRollbackIfNeeded at h
  cases hdec : decision.shouldAutoRollback with
  | false =>
    rw [hdec] at h
    cases h
    cases hatt
  | true =>
    rw [hdec] at h
    obtain ⟨resp, w₁, hrol, h⟩ := Proc.bind_ok.1 h
    obtain ⟨hout, hw⟩ := Proc.pure_ok.1 h
    obtain ⟨w₂, w₃, hget, hrol⟩ := Proc.bind_ok.1 hrol
    obtain ⟨rfl, rfl⟩ := Proc.get_ok.1 hget
    obtain ⟨p, w₄, hchk, hrol⟩ := Proc.bind_ok.1 hrol
    obtain ⟨hp, rfl⟩ := Prod.mk.inj hchk
    obtain ⟨hnod, target, hsh, hpub⟩ := rollbackChecks_ok rfl hp
    have hver := published_version hreg hpub
    cases hrol
    refine ⟨hnod, target, ?_, fun nodeId hmem => ?_, ?_⟩
    · rw [← hout, ← hver]
    · obtain ⟨status, hst, hg⟩ := sharedRollbackCandidate_ok hsh nodeId hmem
      rw [← (fleet.status w.backend nodeId status hst).2]
      exact hg
    · rw [← hw, ← hver]
      rfl

theorem rolloutAt_ok (hreg : registry.Coherent ops) {request : FleetRolloutRequest} {w w' : FleetWorld σ}
    {response : FleetRolloutResponse}
    (h : rolloutAt backend (registry.toControl ops).published request now w = (.ok response, w')) :
    response.nodeOutcomes = (actOnNodes .rollout request.strategy
        (rolloutOperation backend ⟨request.version, request.requestedBy, request.reason⟩ now) 0 false request.nodeIds w).1 ∧
      w'.backend = (actOnNodes .rollout request.strategy
        (rolloutOperation backend ⟨request.version, request.requestedBy, request.reason⟩ now) 0 false request.nodeIds w).2.backend := by
  obtain ⟨p, w₁, hchk, hr⟩ := Proc.bind_ok.1 h
  obtain ⟨hp, rfl⟩ := Prod.mk.inj hchk
  have hver := published_version hreg (rolloutChecks_published hp)
  rw [nodeRequest, hver] at hr
  cases hr
  exact ⟨rfl, rfl⟩

/-- **An automatic rollback leaves the version of the rollout before it exactly when none of the nodes it lists has that version as
its last known good one**; where one of them took the rollout, the rollback goes to the rollout's own version and every node
it lists stays on it. -/
theorem autoRollback_leaves_iff (fleet : ManagedFleet ops hook backend) {registry registry' : SnapshotRegistry Snap}
    (hregistry : registry.Coherent ops) (hregistry' : registry'.Coherent ops) {w w₁ w₂ : FleetWorld σ}
    (hnodes : ∀ nodeId, (fleet.node w.backend nodeId).Reachable ops hook)
    {request : FleetRolloutRequest} {now now' : ℕ} {response : FleetRolloutResponse}
    (hrollout : rolloutAt backend (registry.toControl ops).published request now w = (.ok response, w₁))
    {nodeIds : List Text} {decision : FleetAbortRollbackDecision} {requestedBy reason : Option Text} {maxAllowedDivergenceMs : ℕ}
    {outcome : FleetAutoRollbackOutcome}
    (hauto : executeAutoRollbackIfNeeded backend (registry'.toControl ops).published nodeIds decision requestedBy reason
      maxAllowedDivergenceMs now' w₁ = (.ok outcome, w₂)) (hattempted : outcome.attempted = true) :
    (outcome.targetVersion ≠ some request.version ↔
      ∀ nodeId ∈ nodeIds, (fleet.node w₁.backend nodeId).dataplane.lastKnownGoodVersion ≠ some request.version) ∧
    ((∃ o ∈ response.nodeOutcomes, o.nodeId ∈ nodeIds ∧ (o.result = .applied ∨ o.result = .unchanged)) →
      outcome.targetVersion = some request.version ∧
      ∀ nodeId ∈ nodeIds, (fleet.node w₂.backend nodeId).dataplane.activeVersion = some request.version) := by
  obtain ⟨hne, target, htgt, hg, hrolledBack⟩ :=
    executeAutoRollbackIfNeeded_attempted hregistry' hauto hattempted
  obtain ⟨hout, hrolledOut⟩ := rolloutAt_ok hregistry hrollout
  have hiff : outcome.targetVersion ≠ some request.version ↔
      ∀ nodeId ∈ nodeIds, (fleet.node w₁.backend nodeId).dataplane.lastKnownGoodVersion ≠ some request.version := by
    rw [htgt]
    constructor
    · intro h nodeId hmem
      rw [hg nodeId hmem]
      exact h
    · intro h
      obtain ⟨nodeId, hmem⟩ := List.exists_mem_of_ne_nil nodeIds hne
      rw [← hg nodeId hmem]
      exact h nodeId hmem
  refine ⟨hiff, ?_⟩
  rintro ⟨o, ho, hlis, hres⟩
  -- after the loop every node runs its last known good version
  have hsta : fleet.Good w.backend := by
    intro nodeId
    exact good_of_reachable (hnodes nodeId)
  have hgoodAfter : fleet.Good w₁.backend := by
    rw [hrolledOut]
    exact fleet.good_actOnNodes hsta
  have ht : (fleet.node w₁.backend o.nodeId).dataplane.activeVersion = some request.version := by
    rw [hout] at ho
    rw [hrolledOut]
    exact fleet.actOnNodes_took _ _ now request.nodeIds 0 false w o ho hres
  have hs : target = request.version := by
    have hl := hg o.nodeId hlis
    rw [DataplaneSnapshotManager.lastKnownGoodVersion, hgoodAfter o.nodeId] at hl
    exact Option.some.inj (hl.symm.trans ht)
  refine ⟨by rw [htgt, hs], fun nodeId hmem => ?_⟩
  have hbef : (fleet.node w₁.backend nodeId).dataplane.activeVersion = some target := by
    have hl := hg nodeId hmem
    rw [DataplaneSnapshotManager.lastKnownGoodVersion, hgoodAfter nodeId] at hl
    exact hl
  rw [hrolledBack, ← hs]
  exact actOnNodes_keeps (P := fun w => (fleet.node w.backend nodeId).dataplane.activeVersion = some target)
    (fun other w' h => fleet.keeps_rollback h rfl) nodeIds 0 false w₁ hbef

open RollbackAttempt (twoVersions twoVersions_coherent)
open SnapshotRegistry (digestOps)

def stableNode : RolloutNode Text Unit :=
  (RolloutCoordinator.rolloutAt digestOps (noopSnapshotActivationHook Text) twoVersions ⟨lit "v1", none, none⟩ 3
    { dataplane := { hookState := () } }).2

theorem stableNode_reachable : stableNode.Reachable digestOps (noopSnapshotActivationHook Text) :=
  .rolledOut twoVersions_coherent _ 3 (.new (.new ()))

def stableFleet : FleetWorld (Text → RolloutNode Text Unit) := { backend := fun _ => stableNode, readings := [] }

def stableBackend : FleetNodeBackend (Text → RolloutNode Text Unit) :=
  localNodes digestOps (noopSnapshotActivationHook Text) twoVersions

def upgradeRequest (nodeIds : List Text) : FleetRolloutRequest where
  version := lit "v2"
  requestedBy := none
  reason := none
  nodeIds := nodeIds
  strategy := .sequential
  maxAllowedDivergenceMs := 1000

def gateFailed : FleetAbortRollbackDecision := ⟨lit "wave", true, true, some .waveGateFailed, lit "wave gate failed"⟩

def upgradedFleet (nodeIds : List Text) : FleetWorld (Text → RolloutNode Text Unit) :=
  (rolloutAt stableBackend (twoVersions.toControl digestOps).published (upgradeRequest nodeIds) 4 stableFleet).2

/-- A node that was not upgraded is rolled back to `v1`. -/
theorem upgradedFleet_leaves :
    ∃ response outcome w, rolloutAt stableBackend (twoVersions.toControl digestOps).published (upgradeRequest [lit "a"]) 4
        stableFleet = (.ok response, upgradedFleet [lit "a"]) ∧
      executeAutoRollbackIfNeeded stableBackend (twoVersions.toControl digestOps).published [lit "b"] gateFailed none none 1000 5
        (upgradedFleet [lit "a"]) = (.ok outcome, w) ∧
      outcome.targetVersion ≠ some (lit "v2") := by
  refine ⟨_, _, _, rfl, rfl, ?_⟩
  refine (autoRollback_leaves_iff (w := stableFleet)
    (localFleet digestOps (noopSnapshotActivationHook Text) twoVersions_coherent) twoVersions_coherent twoVersions_coherent
    (fun _ => stableNode_reachable)
    (show rolloutAt stableBackend (twoVersions.toControl digestOps).published (upgradeRequest [lit "a"]) 4 stableFleet =
      (.ok _, upgradedFleet [lit "a"]) from rfl)
    (show executeAutoRollbackIfNeeded stableBackend (twoVersions.toControl digestOps).published [lit "b"] gateFailed none none 1000
      5 (upgradedFleet [lit "a"]) = (.ok _, _) from rfl) rfl).1.2 ?_
  intro nodeId hmem
  rw [List.mem_singleton] at hmem
  rw [hmem]
  decide +kernel

/-- Both nodes took `v2`, and the automatic rollback goes to `v2`. -/
theorem upgradedFleet_stays :
    ∃ response outcome w, rolloutAt stableBackend (twoVersions.toControl digestOps).published
        (upgradeRequest [lit "a", lit "b"]) 4 stableFleet = (.ok response, upgradedFleet [lit "a", lit "b"]) ∧
      response.nodeOutcomes.map (·.result) = [.applied, .applied] ∧
      executeAutoRollbackIfNeeded stableBackend (twoVersions.toControl digestOps).published [lit "a", lit "b"] gateFailed none none
        1000 5 (upgradedFleet [lit "a", lit "b"]) = (.ok outcome, w) ∧
      outcome.attempted = true ∧ outcome.targetVersion = some (lit "v2") :=
  ⟨_, _, _, rfl, rfl, rfl, rfl, rfl⟩

end WayBalancer
