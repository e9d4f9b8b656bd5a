import WayBalancer.Dataplane
/-!
# Rollout — one node's rollouts and rollbacks

`RolloutCoordinator` of `crates/admin-api/src/rollout.rs`: a published version is applied to the node's dataplane and noted among
the versions that have succeeded, and a rollback without a target goes to the last of these that is not active.
-/
namespace WayBalancer

open Str Word

structure RolloutHistoryEntry where
  action : RolloutActionKind
  result : RolloutResultKind
  targetVersion : Text
  effectiveVersion : Option Text
  previousActiveVersion : Option Text
  digestSha256 : Option Text
  actor : Option Text
  reason : Option Text
  occurredAtUnixMs : ℕ
  durationMs : ℕ
  detail : Text
deriving DecidableEq, Repr

structure RolloutMetrics where
  successfulRolloutCount : ℕ := 0
  idempotentRolloutCount : ℕ := 0
  failedRolloutCount : ℕ := 0
  rollbackCount : ℕ := 0
  auditEventCount : ℕ := 0
  totalRolloutDurationMs : ℕ := 0
  historySize : ℕ := 0
deriving DecidableEq, Repr

def InvalidRolloutRequest.toText : InvalidRolloutRequest → Text
  | .emptyVersion => lit "snapshot version must not be empty"
  | .invalidVersionFormat => lit "snapshot version contains unsupported characters"
  | .versionTooLong => lit "snapshot version exceeds max length"
  | .emptyRequestedBy => lit "requested_by must not be empty"
  | .requestedByTooLong => lit "requested_by exceeds max length"
  | .emptyReason => lit "rollout reason must not be empty"
  | .reasonTooLong => lit "rollout reason exceeds max length"

inductive RolloutError
  | invalidRequest (error : InvalidRolloutRequest)
  | unknownPublishedVersion (version : Text)
  | noRollbackCandidate
  | rollbackTargetNotKnownGood (version : Text)
  | apply (error : SnapshotApplyError)
  | internal (error : Text)
deriving DecidableEq, Repr

def RolloutError.toText : RolloutError → Text
  | .invalidRequest error => lit "invalid rollout request: " ++ error.toText
  | .unknownPublishedVersion version => lit "published snapshot version '" ++ version ++ lit "' was not found"
  | .noRollbackCandidate => lit "no prior known-good rollback target exists"
  | .rollbackTargetNotKnownGood version =>
    lit "rollback target '" ++ version ++ lit "' is not a previously known-good version"
  | .apply error => lit "rollout apply failed: " ++ error.toText
  | .internal error => lit "rollout failed internally: failed to read system time: " ++ error

structure RolloutCoordinator where
  history : List RolloutHistoryEntry := []
  successfulVersions : List Text := []
  metrics : RolloutMetrics := {}
deriving DecidableEq, Repr

structure RolloutNode (Snap η : Type) where
  coordinator : RolloutCoordinator := {}
  dataplane : DataplaneSnapshotManager Snap η

namespace RolloutCoordinator

variable (c : RolloutCoordinator)

def pushHistory (entry : RolloutHistoryEntry) : RolloutCoordinator :=
  { c with
    history := c.history ++ [entry]
    metrics := { c.metrics with
      auditEventCount := satAdd c.metrics.auditEventCount 1
      historySize := (c.history ++ [entry]).length } }

def countFailure : RolloutCoordinator :=
  { c with metrics := { c.metrics with failedRolloutCount := satAdd c.metrics.failedRolloutCount 1 } }

/-- A request turned down before the dataplane is asked. -/
def reject (action : RolloutActionKind) (targetVersion : Text) (activeVersion actor reason : Option Text)
    (occurredAtUnixMs : ℕ) (detail : Text) : RolloutCoordinator :=
  (c.pushHistory ⟨action, .rejected, targetVersion, none, activeVersion, none, actor, reason, occurredAtUnixMs, 0, detail⟩).countFailure

/-- A version that has been applied, unless it is the last one noted. -/
def noteApplied (version : Text) : RolloutCoordinator :=
  { c with
    metrics := { c.metrics with successfulRolloutCount := satAdd c.metrics.successfulRolloutCount 1 }
    successfulVersions :=
      if c.successfulVersions.getLast? ≠ some version then c.successfulVersions ++ [version] else c.successfulVersions }

def noteUnchanged : RolloutCoordinator :=
  { c with metrics := { c.metrics with idempotentRolloutCount := satAdd c.metrics.idempotentRolloutCount 1 } }

def countRollback : RolloutActionKind → RolloutCoordinator
  | .rollback => { c with metrics := { c.metrics with rollbackCount := satAdd c.metrics.rollbackCount 1 } }
  | .rollout  => c

section
variable {Snap η : Type} (ops : SnapshotOps Snap) (hook : SnapshotActivationHook Snap η)

def applyRequest (published : RegistryRecord Snap) (actor : Option Text) : SnapshotApplyRequest Snap :=
  ⟨published.version, published.snapshot, published.artifactAttestation, published.digestSha256, actor⟩

def resultKind : SnapshotApplyOutcome → RolloutResultKind
  | .applied   => .applied
  | .unchanged => .unchanged

/-- What the coordinator notes of an application that went through. -/
def noteOutcome (c : RolloutCoordinator) (action : RolloutActionKind) (ack : SnapshotApplyAck) : RolloutCoordinator :=
  match ack.outcome with
  | .applied   => (c.countRollback action).noteApplied ack.active.version
  | .unchanged => (c.countRollback action).noteUnchanged

def executeAction (action : RolloutActionKind) (published : RegistryRecord Snap) (actor reason : Option Text)
    (occurredAtUnixMs : ℕ) : Proc (RolloutNode Snap η) RolloutError RolloutResponse := fun node =>
  let previousActiveVersion := node.dataplane.activeVersion
  match DataplaneSnapshotManager.applyAt ops hook (applyRequest published actor) occurredAtUnixMs node.dataplane with
  | (.ok ack, dataplane) =>
    let entry : RolloutHistoryEntry := {
      action := action
      result := resultKind ack.outcome
      targetVersion := published.version
      effectiveVersion := some ack.active.version
      previousActiveVersion := previousActiveVersion
      digestSha256 := some ack.active.digestSha256
      actor := actor
      reason := reason
      occurredAtUnixMs := occurredAtUnixMs
      durationMs := 0
      detail := match action with
        | .rollout  => lit "rollout applied to dataplane"
        | .rollback => lit "rollback applied to dataplane" }
    (.ok ⟨action, resultKind ack.outcome, ack.active.version, ack.active.digestSha256, ack.lastKnownGood.version⟩,
      ⟨(node.coordinator.noteOutcome action ack).pushHistory entry, dataplane⟩)
  | (.error error, dataplane) =>
    let entry : RolloutHistoryEntry := {
      action := action
      result := .rejected
      targetVersion := published.version
      effectiveVersion := dataplane.activeVersion
      previousActiveVersion := previousActiveVersion
      digestSha256 := some published.digestSha256
      actor := actor
      reason := reason
      occurredAtUnixMs := occurredAtUnixMs
      durationMs := 0
      detail := error.toText }
    (.error (.apply error), ⟨node.coordinator.countFailure.pushHistory entry, dataplane⟩)

def unknownDetail (version : Text) : Text := lit "published snapshot version '" ++ version ++ lit "' was not found"

/-- `rollout_at`; a lookup by version does not fail with a digest. -/
def rolloutAt (control : SnapshotRegistry Snap) (request : RolloutRequest) (occurredAtUnixMs : ℕ) :
    Proc (RolloutNode Snap η) RolloutError RolloutResponse := fun node =>
  match validateRolloutRequest request.version request.requestedBy request.reason with
  | .error error =>
    (.error (.invalidRequest error), { node with
      coordinator := node.coordinator.reject .rollout request.version node.dataplane.activeVersion request.requestedBy
        request.reason occurredAtUnixMs error.toText })
  | .ok () => match control.getVersion request.version with
    | .error (.versionNotFound version) =>
      (.error (.unknownPublishedVersion version), { node with
        coordinator := node.coordinator.reject .rollout version node.dataplane.activeVersion request.requestedBy
          request.reason occurredAtUnixMs (unknownDetail version) })
    | .error (.digestNotFound _) =>
      (.error (.unknownPublishedVersion request.version), { node with coordinator := node.coordinator.countFailure })
    | .ok published =>
      executeAction ops hook .rollout published request.requestedBy request.reason occurredAtUnixMs node

def rollout (control : SnapshotRegistry Snap) (request : RolloutRequest) (clock : Except Text ℕ) :
    Proc (RolloutNode Snap η) RolloutError RolloutResponse := fun node =>
  match clock with
  | .ok now      => rolloutAt ops hook control request now node
  | .error error => (.error (.internal error), node)

/-- The last version noted that is not the active one. -/
def rollbackCandidate (c : RolloutCoordinator) (activeVersion : Option Text) : Option Text :=
  c.successfulVersions.reverse.find? (fun version => some version ≠ activeVersion)

def rollbackTarget (request : RollbackRequest) (occurredAtUnixMs : ℕ) : Proc (RolloutNode Snap η) RolloutError Text := fun node =>
  let rejected (targetVersion detail : Text) : RolloutNode Snap η := { node with
    coordinator := node.coordinator.reject .rollback targetVersion node.dataplane.activeVersion request.requestedBy
      request.reason occurredAtUnixMs detail }
  match request.targetVersion with
  | some version => match validateRolloutRequest version request.requestedBy request.reason with
    | .error error => (.error (.invalidRequest error), node)
    | .ok ()       =>
      if node.coordinator.successfulVersions.contains version then (.ok version, node)
      else (.error (.rollbackTargetNotKnownGood version), rejected version
        (lit "rollback target '" ++ version ++ lit "' is not a previously known-good version"))
  | none => match node.coordinator.rollbackCandidate node.dataplane.activeVersion with
    | some version => (.ok version, node)
    | none         => (.error .noRollbackCandidate,
        rejected (lit "<previous-known-good>") (lit "no prior known-good rollback target exists"))

def rollbackAt (control : SnapshotRegistry Snap) (request : RollbackRequest) (occurredAtUnixMs : ℕ) :
    Proc (RolloutNode Snap η) RolloutError RolloutResponse := fun node =>
  match rollbackTarget request occurredAtUnixMs node with
  | (.error error, node)    => (.error error, node)
  | (.ok targetVersion, node) => match control.getVersion targetVersion with
    | .error _ =>
      (.error (.unknownPublishedVersion targetVersion), { node with
        coordinator := node.coordinator.reject .rollback targetVersion node.dataplane.activeVersion request.requestedBy
          request.reason occurredAtUnixMs (unknownDetail targetVersion) })
    | .ok published =>
      executeAction ops hook .rollback published request.requestedBy request.reason occurredAtUnixMs node

end

end RolloutCoordinator

end WayBalancer
