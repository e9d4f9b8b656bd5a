import WayBalancer.FleetRollout
/-!
# FleetCanary — a listener's canary rollout and its gates

`ListenerCanaryCoordinator::apply` (`crates/admin-api/src/listener_canary.rs`): the request is checked against the published
versions and turned into a plan of one or two waves, the whole rollout is run, and then each wave's gate is evaluated and
the first wave's verdict may start a rollback.  How two snapshots differ is the configuration compiler's; it is a parameter
here, and so is a snapshot's own digest.
-/
namespace WayBalancer

open Str Word

/-! ## The published versions -/

inductive SnapshotChangeKind
  | added
  | removed
  | updated
deriving DecidableEq, Repr

structure WorkspaceSnapshotDiff where
  previousDigestSha256 : Text
  nextDigestSha256 : Text
  listenerChanges : List SnapshotChangeKind
  routeChanges : List SnapshotChangeKind
  upstreamClusterChanges : List SnapshotChangeKind
deriving DecidableEq, Repr

inductive SnapshotImpactSeverity
  | low
  | medium
  | high
deriving DecidableEq, Repr

structure SnapshotResourceImpactSummary where
  added : ℕ
  removed : ℕ
  updated : ℕ
deriving DecidableEq, Repr

structure SnapshotImpactAnalysis where
  listeners : SnapshotResourceImpactSummary
  routes : SnapshotResourceImpactSummary
  upstreamClusters : SnapshotResourceImpactSummary
  totalChanges : ℕ
  severity : SnapshotImpactSeverity
  reasons : List Text
deriving DecidableEq, Repr

/-- Saturating 32-bit counts. -/
def capU32 (n : ℕ) : ℕ := min n (2 ^ 32 - 1)

def summarizeChangeCounts (changes : List SnapshotChangeKind) : SnapshotResourceImpactSummary :=
  ⟨capU32 (changes.count .added), capU32 (changes.count .removed), capU32 (changes.count .updated)⟩

/-- The sum, in wrapping 32-bit arithmetic. -/
def SnapshotResourceImpactSummary.total (s : SnapshotResourceImpactSummary) : ℕ :=
  (s.added + s.removed + s.updated) % 2 ^ 32

def analyzeSnapshotImpact (diff : WorkspaceSnapshotDiff) : SnapshotImpactAnalysis :=
  let listeners := summarizeChangeCounts diff.listenerChanges
  let routes := summarizeChangeCounts diff.routeChanges
  let clusters := summarizeChangeCounts diff.upstreamClusterChanges
  let total := capU32 (capU32 (listeners.total + routes.total) + clusters.total)
  let (severity, reason) : SnapshotImpactSeverity × Text :=
    if listeners.removed > 0 ∨ listeners.updated > 0 ∨ routes.removed > 0 ∨ clusters.removed > 0 then
      (.high, lit "listener/route/upstream removals or listener updates may disrupt active traffic")
    else if (routes.updated > 0 ∨ clusters.updated > 0 ∨ listeners.added > 0) ∨ total ≥ 6 then
      (.medium, lit "routing or upstream behavior changes detected; use staged promotion/canary gates")
    else (.low, lit "limited additive changes; low operational risk")
  ⟨listeners, routes, clusters, total, severity, [reason]⟩

structure SnapshotDiffPreview where
  baseVersion : Text
  baseDigestSha256 : Text
  candidateDigestSha256 : Text
  snapshotDiff : WorkspaceSnapshotDiff
  impactAnalysis : SnapshotImpactAnalysis
deriving DecidableEq, Repr

inductive SnapshotLookupError
  | versionNotFound (version : Text)
  | digestNotFound (digest : Text)
deriving DecidableEq, Repr

inductive SnapshotDiffPreviewError
  | noBaselineVersion
  | lookup (error : SnapshotLookupError)
deriving DecidableEq, Repr

structure PublishedSnapshotRecord (Snap : Type) where
  version : Text
  digestSha256 : Text
  snapshot : Snap

/-- The control service's records by version, its publication history, and what it reads off snapshots. -/
structure SnapshotControlService (Snap : Type) where
  recordsByVersion : SortedMap Text (PublishedSnapshotRecord Snap)
  history : List Text
  diff : Snap → Snap → WorkspaceSnapshotDiff
  digest : Snap → Text

section
variable {Snap : Type} (control : SnapshotControlService Snap)

def SnapshotControlService.getVersion (version : Text) : Except SnapshotLookupError (PublishedSnapshotRecord Snap) :=
  match control.recordsByVersion.get? version with
  | some record => .ok record
  | none        => .error (.versionNotFound version)

def SnapshotControlService.published (version : Text) : Option PublishedVersion :=
  (control.recordsByVersion.get? version).map (fun record => ⟨record.version, record.digestSha256⟩)

def SnapshotControlService.baseline : Option Text → Except SnapshotDiffPreviewError (PublishedSnapshotRecord Snap)
  | some version => (control.getVersion version).mapError .lookup
  | none => match control.history.getLast?.bind control.recordsByVersion.get? with
    | some record => .ok record
    | none        => .error .noBaselineVersion

def SnapshotControlService.previewDiff (baseVersion : Option Text) (candidate : Snap) :
    Except SnapshotDiffPreviewError SnapshotDiffPreview :=
  (control.baseline baseVersion).map (fun baseline =>
    let diff := control.diff baseline.snapshot candidate
    ⟨baseline.version, baseline.digestSha256, control.digest candidate, diff, analyzeSnapshotImpact diff⟩)

end

/-! ## The request and its plan -/

structure ListenerCanaryApplyRequest where
  listenerName : Text
  candidateVersion : Text
  baselineVersion : Option Text := none
  requestedBy : Option Text := none
  reason : Option Text := none
  nodeIds : List Text
  canaryNodes : ℕ
  canaryMaxParallel : ℕ
  fleetMaxParallel : ℕ
  maxAllowedDivergenceMs : ℕ
  gatePolicy : FleetHealthGatePolicy := {}
  allowStagedApply : Bool := false
  rollbackMode : FleetAutoRollbackMode := .onFailedOrTimedOut
deriving DecidableEq, Repr

inductive ListenerCanaryError
  | emptyListenerName
  | listenerNameTooLong
  | emptyCandidateVersion
  | invalidCanaryNodes
  | invalidCanaryMaxParallel
  | invalidFleetMaxParallel
  | candidateNotPublished (version : Text)
  | snapshotLookup (error : SnapshotLookupError)
  | diffPreview (error : SnapshotDiffPreviewError)
  | stagedApplyRequired (severity : SnapshotImpactSeverity)
  | plan (error : InvalidFleetStagedRolloutRequest)
  | fleet (error : FleetRolloutError)
  | internal
deriving DecidableEq, Repr

def maxListenerNameLen : ℕ := 128

namespace ListenerCanaryApplyRequest

variable (request : ListenerCanaryApplyRequest)

def canaryIds : List Text := request.nodeIds.take request.canaryNodes

def fleetIds : List Text := request.nodeIds.drop request.canaryNodes

def canaryWaveId : Text := trim request.listenerName ++ lit "-canary"

def rollout : FleetRolloutRequest where
  version := trim request.candidateVersion
  requestedBy := request.requestedBy
  reason := request.reason
  nodeIds := request.nodeIds
  strategy := .canary request.canaryNodes
  maxAllowedDivergenceMs := request.maxAllowedDivergenceMs

def waves : List FleetRolloutWaveDefinition :=
  ⟨request.canaryWaveId, request.canaryIds, request.canaryMaxParallel, request.gatePolicy⟩ ::
    if request.fleetIds.isEmpty then []
    else [⟨trim request.listenerName ++ lit "-fleet", request.fleetIds, request.fleetMaxParallel, request.gatePolicy⟩]

def checkNames : Except ListenerCanaryError Unit :=
  if (trim request.listenerName).isEmpty then .error .emptyListenerName
  else if byteLen (trim request.listenerName) > maxListenerNameLen then .error .listenerNameTooLong
  else if (trim request.candidateVersion).isEmpty then .error .emptyCandidateVersion
  else if request.canaryNodes = 0 ∨ request.canaryNodes > request.nodeIds.length then .error .invalidCanaryNodes
  else .ok ()

def checkParallelism : Except ListenerCanaryError Unit :=
  if request.canaryMaxParallel = 0 ∨ request.canaryMaxParallel > request.canaryIds.length then
    .error .invalidCanaryMaxParallel
  else if ¬ request.fleetIds.isEmpty ∧ (request.fleetMaxParallel = 0 ∨ request.fleetMaxParallel > request.fleetIds.length) then
    .error .invalidFleetMaxParallel
  else .ok ()

end ListenerCanaryApplyRequest

section
variable {Snap σ : Type} (control : SnapshotControlService Snap) (backend : FleetNodeBackend σ)
  (request : ListenerCanaryApplyRequest)

/-- The candidate's preview; a risky one is refused where the request does not allow it. -/
def candidatePreview : Except ListenerCanaryError SnapshotDiffPreview :=
  match control.getVersion (trim request.candidateVersion) with
  | .error (.versionNotFound version) => .error (.candidateNotPublished version)
  | .error error                      => .error (.snapshotLookup error)
  | .ok candidate => match control.previewDiff request.baselineVersion candidate.snapshot with
    | .error error => .error (.diffPreview error)
    | .ok preview  =>
      if preview.impactAnalysis.severity ≠ .low ∧ request.allowStagedApply = false then
        .error (.stagedApplyRequired preview.impactAnalysis.severity)
      else .ok preview

/-- All that `apply` does before the rollout: the preview and the staged plan. -/
def stagedPlan : Except ListenerCanaryError (SnapshotDiffPreview × FleetStagedRolloutPlan) := do
  request.checkNames
  let preview ← candidatePreview control request
  request.checkParallelism
  let plan ← (planStagedRollout ⟨request.rollout, request.waves⟩).mapError .plan
  return (preview, plan)

/-! ## The rollout and its gates -/

structure ListenerCanaryApplyResponse where
  listenerName : Text
  candidateVersion : Text
  snapshotPreview : SnapshotDiffPreview
  stagedPlan : FleetStagedRolloutPlan
  rollout : FleetRolloutResponse
  waveGates : SortedMap Text FleetWaveGateEvaluation
  abortDecision : Option FleetAbortRollbackDecision
  autoRollback : Option FleetAutoRollbackOutcome

def currentUnixMs : Proc (FleetWorld σ) ListenerCanaryError ℕ := fun w =>
  match w.readings with
  | some now :: readings => (.ok now, { w with readings })
  | none :: readings     => (.error .internal, { w with readings })
  | []                   => (.error .internal, w)

/-- The staged plan; a refusal for want of an acknowledgment is counted. -/
def checkedPlan : Proc (FleetWorld σ) ListenerCanaryError (SnapshotDiffPreview × FleetStagedRolloutPlan) :=
  match stagedPlan control request with
  | .ok planned => pure planned
  | .error (.stagedApplyRequired severity) => do
    Proc.update (fun w => { w with metrics.blockedApplyCount := satAdd w.metrics.blockedApplyCount 1 })
    Proc.fail (.stagedApplyRequired severity)
  | .error error => Proc.fail error

def evaluateGates (startedAt : ℕ) : List FleetRolloutWaveDefinition → SortedMap Text FleetWaveGateEvaluation →
    Proc (FleetWorld σ) ListenerCanaryError (SortedMap Text FleetWaveGateEvaluation)
  | [], gates            => pure gates
  | wave :: waves, gates => do
    let w ← Proc.get
    let signals := collectWaveHealthSignals backend w.backend wave
    let evaluatedAt ← currentUnixMs
    let gate := evaluateWaveGate wave signals startedAt evaluatedAt
    Proc.update (fun w => { w with trace := w.trace ++ [.gateEvaluated wave.waveId gate.verdict] })
    evaluateGates startedAt waves (gates.insert wave.waveId gate)

/-- The rollback the first wave's decision asks for, counted where it was attempted. -/
def rollBackOn (startedAt : ℕ) :
    Option FleetAbortRollbackDecision → Proc (FleetWorld σ) ListenerCanaryError (Option FleetAutoRollbackOutcome)
  | none          => pure none
  | some decision => do
    let outcome ← Proc.mapError .fleet (executeAutoRollbackIfNeeded backend control.published request.nodeIds decision
      request.requestedBy request.reason request.maxAllowedDivergenceMs startedAt)
    if outcome.attempted then
      Proc.update (fun w => { w with metrics.autoRollbackCount := satAdd w.metrics.autoRollbackCount 1 })
      return some outcome
    else return none

/-- What `apply` does after the rollout. -/
def afterRollout (preview : SnapshotDiffPreview) (plan : FleetStagedRolloutPlan) (startedAt : ℕ)
    (rollout : FleetRolloutResponse) : Proc (FleetWorld σ) ListenerCanaryError ListenerCanaryApplyResponse := do
  let gates ← evaluateGates backend startedAt plan.waves .empty
  let decision := (plan.waves.head?.bind (fun first => gates.get? first.waveId)).map
    (fun gate => decideWaveAbortAndRollback gate request.rollbackMode)
  let rollback ← rollBackOn control backend request startedAt decision
  Proc.update (fun w => { w with metrics.applyCount := satAdd w.metrics.applyCount 1 })
  return ⟨trim request.listenerName, trim request.candidateVersion, preview, plan, rollout, gates, decision, rollback⟩

def applyCanary : Proc (FleetWorld σ) ListenerCanaryError ListenerCanaryApplyResponse := do
  let (preview, plan) ← checkedPlan control request
  let startedAt ← currentUnixMs
  let rollout ← Proc.mapError .fleet (rolloutAt backend control.published plan.rollout startedAt)
  afterRollout control backend request preview plan startedAt rollout

end

end WayBalancer
