import WayBalancer.RolloutRuns
/-!
# Promotion — a previewed snapshot and the one that is rolled out

`PromotionCoordinator` of `crates/admin-api/src/promotion.rs`.  The preview looks the candidate up without the white space
around it, and the rollout looks it up as it was sent; both may be published versions, since a publication checks the trimmed
version and stores the one it was given.
-/
namespace WayBalancer

open Str Word

inductive PromotionExecutionStrategy
  | immediate
  | stagedCanary
deriving DecidableEq, Repr

structure PromotionPreviewRequest where
  candidateVersion : Text
  baselineVersion : Option Text
  requestedBy : Option Text
  reason : Option Text
deriving DecidableEq, Repr

structure PromotionApplyRequest extends PromotionPreviewRequest where
  allowStagedApply : Bool
deriving DecidableEq, Repr

structure PromotionPreviewResponse where
  candidateVersion : Text
  preview : SnapshotDiffPreview
  recommendedStrategy : PromotionExecutionStrategy
  requiresStagedApplyAck : Bool
deriving DecidableEq, Repr

structure PromotionApplyResponse where
  preview : PromotionPreviewResponse
  rollout : RolloutResponse
deriving DecidableEq, Repr

structure PromotionMetrics where
  previewCount : ℕ := 0
  applyCount : ℕ := 0
  blockedStagedApplyCount : ℕ := 0
deriving DecidableEq, Repr

inductive PromotionError
  | missingCandidateVersion
  | candidateNotPublished (version : Text)
  | snapshotLookup (error : SnapshotLookupError)
  | diffPreview (error : SnapshotDiffPreviewError)
  | stagedApplyRequired (severity : SnapshotImpactSeverity) (strategy : PromotionExecutionStrategy)
  | rollout (error : RolloutError)
deriving DecidableEq, Repr

structure PromotionCoordinator where
  metrics : PromotionMetrics := {}
deriving DecidableEq, Repr

structure PromotionWorld (Snap η : Type) where
  promotion : PromotionCoordinator := {}
  node : RolloutNode Snap η

namespace PromotionCoordinator

variable {Snap η : Type}

def recommendedStrategy : SnapshotImpactSeverity → PromotionExecutionStrategy
  | .low    => .immediate
  | .medium => .stagedCanary
  | .high   => .stagedCanary

def preview (control : SnapshotControlService Snap) (request : PromotionPreviewRequest) :
    Proc PromotionCoordinator PromotionError PromotionPreviewResponse := fun c =>
  let candidateVersion := trim request.candidateVersion
  if candidateVersion.isEmpty then (.error .missingCandidateVersion, c)
  else match control.getVersion candidateVersion with
    | .error (.versionNotFound version) => (.error (.candidateNotPublished version), c)
    | .error error                      => (.error (.snapshotLookup error), c)
    | .ok candidate => match control.previewDiff request.baselineVersion candidate.snapshot with
      | .error error => (.error (.diffPreview error), c)
      | .ok preview  =>
        let strategy := recommendedStrategy preview.impactAnalysis.severity
        (.ok ⟨candidateVersion, preview, strategy, strategy ≠ .immediate⟩,
          { c with metrics := { c.metrics with previewCount := satAdd c.metrics.previewCount 1 } })

def apply (ops : SnapshotOps Snap) (hook : SnapshotActivationHook Snap η) (control : SnapshotRegistry Snap)
    (request : PromotionApplyRequest) (clock : Except Text ℕ) :
    Proc (PromotionWorld Snap η) PromotionError PromotionApplyResponse := fun w =>
  match preview (control.toControl ops) request.toPromotionPreviewRequest w.promotion with
  | (.error error, c) => (.error error, { w with promotion := c })
  | (.ok preview, c)  =>
    if preview.requiresStagedApplyAck && !request.allowStagedApply then
      (.error (.stagedApplyRequired preview.preview.impactAnalysis.severity preview.recommendedStrategy),
        { w with promotion := { c with metrics := { c.metrics with
          blockedStagedApplyCount := satAdd c.metrics.blockedStagedApplyCount 1 } } })
    else
      match RolloutCoordinator.rollout ops hook control ⟨request.candidateVersion, request.requestedBy, request.reason⟩ clock
          w.node with
      | (.error error, node) => (.error (.rollout error), ⟨c, node⟩)
      | (.ok rollout, node)  =>
        (.ok ⟨preview, rollout⟩, ⟨{ c with metrics := { c.metrics with applyCount := satAdd c.metrics.applyCount 1 } }, node⟩)

/-! ## What an accepted promotion looked up -/

variable {ops : SnapshotOps Snap} {hook : SnapshotActivationHook Snap η} {control : SnapshotRegistry Snap}

theorem toControl_getVersion {version : Text} {candidate : PublishedSnapshotRecord Snap}
    (h : (control.toControl ops).getVersion version = .ok candidate) :
    ∃ record, control.recordsByVersion.get? version = some record ∧ record.toPublishedSnapshotRecord = candidate := by
  unfold SnapshotControlService.getVersion SnapshotRegistry.toControl at h
  rw [SortedMap.get?_mapValues] at h
  cases hget : control.recordsByVersion.get? version with
  | none => rw [hget] at h; cases h
  | some record =>
    rw [hget] at h
    exact ⟨record, rfl, Except.ok.inj h⟩

theorem preview_ok {request : PromotionPreviewRequest} {c c' : PromotionCoordinator} {response : PromotionPreviewResponse}
    (h : preview (control.toControl ops) request c = (.ok response, c')) :
    response.candidateVersion = trim request.candidateVersion ∧
      ∃ record, control.recordsByVersion.get? (trim request.candidateVersion) = some record ∧
        response.preview.candidateDigestSha256 = ops.digest record.snapshot := by
  unfold preview at h
  by_cases hemp : (trim request.candidateVersion).isEmpty = true
  · rw [if_pos hemp] at h
    cases h
  rw [if_neg hemp] at h
  cases hget : (control.toControl ops).getVersion (trim request.candidateVersion) with
  | error e =>
    rw [hget] at h
    cases e <;> cases h
  | ok cand =>
    simp only [hget] at h
    obtain ⟨record, hrec, hcan⟩ := toControl_getVersion hget
    cases hpre : (control.toControl ops).previewDiff request.baselineVersion cand.snapshot with
    | error e => rw [hpre] at h; cases h
    | ok diff =>
      rw [hpre] at h
      cases h
      refine ⟨rfl, record, hrec, ?_⟩
      -- the preview says what the candidate's own digest is
      unfold SnapshotControlService.previewDiff at hpre
      cases hbas : (control.toControl ops).baseline request.baselineVersion with
      | error e => rw [hbas] at hpre; cases hpre
      | ok baseline =>
        rw [hbas] at hpre
        cases hpre
        rw [← hcan]
        rfl

variable {node node' : RolloutNode Snap η} {response : RolloutResponse}

theorem executeAction_digest {action : RolloutActionKind} {published : RegistryRecord Snap} {actor reason : Option Text}
    {now : ℕ} (h : RolloutCoordinator.executeAction ops hook action published actor reason now node = (.ok response, node')) :
    response.activeDigestSha256 = ops.digest published.snapshot := by
  obtain ⟨r, dp, hrun, happ⟩ :=
    DataplaneSnapshotManager.applyAt_run ops hook
  unfold RolloutCoordinator.executeAction at h
  rw [hrun] at h
  cases happ with
  | failed e hact hg => cases h
  | unchanged actt hs hver hdig hact hg =>
    cases h
    exact hdig
  | applied hnew hact hg =>
    cases h
    rfl

variable {clock : Except Text ℕ}

theorem rollout_ok (hcon : control.Coherent ops) {request : RolloutRequest}
    (h : RolloutCoordinator.rollout ops hook control request clock node = (.ok response, node')) :
    response.activeVersion = request.version ∧ ∃ record, control.recordsByVersion.get? request.version = some record ∧
        response.activeDigestSha256 = ops.digest record.snapshot := by
  unfold RolloutCoordinator.rollout at h
  cases clock with
  | error e => cases h
  | ok now =>
    have ha := @RolloutCoordinator.rolloutAt_acts _ _ ops hook node control hcon request now
    dsimp only at h
    rw [h] at ha
    have hver : response.activeVersion = request.version := by
      cases ha with
      | unchanged _ hres hver hwas hact hg hv => exact hver
      | applied _ hres hver hact hg hv => exact hver
    refine ⟨hver, ?_⟩
    unfold RolloutCoordinator.rolloutAt at h
    cases hval : validateRolloutRequest request.version request.requestedBy request.reason with
    | error e => rw [hval] at h; cases h
    | ok u =>
      simp only [hval, SnapshotRegistry.getVersion] at h
      cases hget : control.recordsByVersion.get? request.version with
      | none => simp only [hget] at h; cases h
      | some record =>
        simp only [hget] at h
        exact ⟨record, rfl, executeAction_digest h⟩

theorem apply_ok {request : PromotionApplyRequest} {w w' : PromotionWorld Snap η} {response : PromotionApplyResponse}
    (h : apply ops hook control request clock w = (.ok response, w')) :
    (∃ c, preview (control.toControl ops) request.toPromotionPreviewRequest w.promotion = (.ok response.preview, c)) ∧
      ∃ node, RolloutCoordinator.rollout ops hook control ⟨request.candidateVersion, request.requestedBy, request.reason⟩ clock
        w.node = (.ok response.rollout, node) := by
  unfold apply at h
  rcases hpre : preview (control.toControl ops) request.toPromotionPreviewRequest w.promotion with ⟨error | preview, c⟩
  · rw [hpre] at h
    cases h
  · rw [hpre] at h
    dsimp only at h
    split_ifs at h with hblk
    · cases h
    · rcases hr : RolloutCoordinator.rollout ops hook control
        ⟨request.candidateVersion, request.requestedBy, request.reason⟩ clock w.node with ⟨error | rollout, node⟩
      · rw [hr] at h
        cases h
      · rw [hr] at h
        cases h
        exact ⟨⟨c, rfl⟩, node, rfl⟩

/-- **What is promoted is what was previewed exactly when the candidate was sent without white space around it**: the version that
is active and its snapshot's digest are those of the preview then, and neither is otherwise. -/
theorem apply_promotes_previewed_iff (hcontrol : control.Coherent ops) {request : PromotionApplyRequest} {clock : Except Text ℕ}
    {w w' : PromotionWorld Snap η} {response : PromotionApplyResponse}
    (h : apply ops hook control request clock w = (.ok response, w')) :
    (response.rollout.activeVersion = response.preview.candidateVersion ↔
      trim request.candidateVersion = request.candidateVersion) ∧
    (response.rollout.activeDigestSha256 = response.preview.preview.candidateDigestSha256 ↔
      trim request.candidateVersion = request.candidateVersion) := by
  obtain ⟨⟨c, hpre⟩, node, hr⟩ := apply_ok h
  obtain ⟨hcan, previewed, hp, hdig⟩ := preview_ok hpre
  obtain ⟨hact, promoted, hpro, hactiveDigest⟩ := rollout_ok hcontrol hr
  refine ⟨?_, ?_⟩
  · rw [hact, hcan]
    exact eq_comm
  · rw [hactiveDigest, hdig]
    constructor
    · intro hs
      -- a digest is published under one version only
      rw [← SnapshotRegistry.digest_of_valid (hcontrol.valid _ _ hpro),
        ← SnapshotRegistry.digest_of_valid (hcontrol.valid _ _ hp)] at hs
      have hind := (hcontrol.digest_iff _ _).2 ⟨promoted, hpro, rfl⟩
      rw [hs, (hcontrol.digest_iff _ _).2 ⟨previewed, hp, rfl⟩] at hind
      exact Option.some.inj hind
    · intro ht
      have hpre' : control.recordsByVersion.get? request.candidateVersion = some previewed := by
        rw [← ht]
        exact hp
      have hs : some promoted = some previewed := hpro.symm.trans hpre'
      rw [Option.some.inj hs]

open SnapshotRegistry (digestOps digestRequest)

def blankVersions : SnapshotRegistry Text :=
  (SnapshotRegistry.publishAt digestOps (digestRequest (lit " v1") '2') 2
    (SnapshotRegistry.publishAt digestOps (digestRequest (lit "v1") '1') 1 {}).2).2

theorem blankVersions_coherent : blankVersions.Coherent digestOps := (SnapshotRegistry.Coherent.empty.publishAt _ 1).publishAt _ 2

def newWorld : PromotionWorld Text Unit := { node := { dataplane := { hookState := () } } }

theorem apply_promotes_v1 :
    ∃ response w, apply digestOps (noopSnapshotActivationHook Text) blankVersions ⟨⟨lit "v1", none, none, none⟩, false⟩ (.ok 3)
        newWorld = (.ok response, w) ∧ response.rollout.activeVersion = response.preview.candidateVersion := by
  refine ⟨_, _, rfl, ?_⟩
  exact (apply_promotes_previewed_iff blankVersions_coherent
    (show apply digestOps (noopSnapshotActivationHook Text) blankVersions ⟨⟨lit "v1", none, none, none⟩, false⟩ (.ok 3) newWorld =
      (.ok _, _) from rfl)).1.2 (by decide +kernel)

/-- The preview is of `v1`, and the other snapshot is rolled out. -/
theorem apply_promotes_other :
    ∃ response w, apply digestOps (noopSnapshotActivationHook Text) blankVersions ⟨⟨lit " v1", none, none, none⟩, false⟩ (.ok 3)
        newWorld = (.ok response, w) ∧ response.preview.candidateVersion = lit "v1" ∧
      response.preview.preview.candidateDigestSha256 = List.replicate 64 '1' ∧
      response.rollout.activeVersion = lit " v1" ∧ response.rollout.activeDigestSha256 = List.replicate 64 '2' :=
  ⟨_, _, rfl, rfl, rfl, rfl, rfl⟩

end PromotionCoordinator

end WayBalancer
