import WayBalancer.SnapshotRegistry
/-!
# Dataplane — the snapshot a dataplane runs

`DataplaneSnapshotManager` of `crates/runtime/src/config_application.rs`: a snapshot is checked, its attestation verified, and
handed to the activation hook, and only then becomes the active one.  The hook is whoever owns the listeners; it may keep a
state of its own.
-/
namespace WayBalancer

open Str Word

structure SnapshotApplyRequest (Snap : Type) where
  version : Text
  snapshot : Snap
  artifactAttestation : Option ArtifactAttestation
  expectedDigestSha256 : Text
  acknowledgedBy : Option Text

structure AppliedSnapshotSummary where
  version : Text
  workspaceName : Text
  digestSha256 : Text
  appliedAtUnixMs : ℕ
  acknowledgedBy : Option Text
deriving DecidableEq, Repr

/-- A record is its summary with the snapshot. -/
structure AppliedSnapshotRecord (Snap : Type) extends AppliedSnapshotSummary where
  snapshot : Snap

inductive SnapshotApplyOutcome
  | applied
  | unchanged
deriving DecidableEq, Repr

structure SnapshotApplyAck where
  outcome : SnapshotApplyOutcome
  active : AppliedSnapshotSummary
  lastKnownGood : AppliedSnapshotSummary
deriving DecidableEq, Repr

inductive SnapshotApplyFailureCategory
  | integrity
  | activation
  | internal
deriving DecidableEq, Repr

structure SnapshotApplyFailure where
  category : SnapshotApplyFailureCategory
  version : Text
  digestSha256 : Text
  failedAtUnixMs : ℕ
  detail : Text
deriving DecidableEq, Repr

inductive SnapshotApplyLifecycle
  | idle
  | applying (version digestSha256 : Text)
  | active (version digestSha256 : Text)
  | applyFailed (version digestSha256 : Text)
deriving DecidableEq, Repr

structure SnapshotApplyMetrics where
  applySuccessCount : ℕ := 0
  applyNoopCount : ℕ := 0
  applyIntegrityFailureCount : ℕ := 0
  applyActivationFailureCount : ℕ := 0
  applyInternalFailureCount : ℕ := 0
deriving DecidableEq, Repr

/-! ## Errors -/

inductive InvalidApplyRequest
  | emptyVersion
  | invalidVersionFormat
  | versionTooLong
  | invalidSnapshotDigest
  | invalidExpectedDigestFormat
  | digestMismatch
  | emptyAcknowledgedBy
  | acknowledgedByTooLong
deriving DecidableEq, Repr

def InvalidApplyRequest.toText : InvalidApplyRequest → Text
  | .emptyVersion => lit "snapshot version must not be empty"
  | .invalidVersionFormat => lit "snapshot version contains unsupported characters"
  | .versionTooLong => lit "snapshot version exceeds max length"
  | .invalidSnapshotDigest => lit "snapshot digest must be a lowercase sha256 hex string"
  | .invalidExpectedDigestFormat => lit "expected digest must be a lowercase sha256 hex string"
  | .digestMismatch => lit "expected digest does not match snapshot digest"
  | .emptyAcknowledgedBy => lit "acknowledged_by must not be empty"
  | .acknowledgedByTooLong => lit "acknowledged_by exceeds max length"

inductive SnapshotActivationError
  | rejected (detail : Text)
deriving DecidableEq, Repr

def SnapshotActivationError.toText : SnapshotActivationError → Text
  | .rejected detail => lit "snapshot activation rejected: " ++ detail

inductive SnapshotApplyError
  | invalidRequest (error : InvalidApplyRequest)
  | integrity (error : ArtifactIntegrityError)
  | activation (error : SnapshotActivationError)
  | internal (error : Text)
deriving DecidableEq, Repr

def SnapshotApplyError.toText : SnapshotApplyError → Text
  | .invalidRequest error => lit "invalid snapshot apply request: " ++ error.toText
  | .integrity error => lit "snapshot integrity verification failed: " ++ error.toText
  | .activation error => lit "snapshot apply failed: " ++ error.toText
  | .internal error => lit "snapshot apply failed internally: failed to read system time: " ++ error

/-! ## The manager -/

structure SnapshotActivationHook (Snap η : Type) where
  validate : Snap → Proc η SnapshotActivationError Unit
  activate : Snap → Proc η SnapshotActivationError Unit

def noopSnapshotActivationHook (Snap : Type) : SnapshotActivationHook Snap Unit where
  validate _ := pure ()
  activate _ := pure ()

structure DataplaneSnapshotManager (Snap η : Type) where
  hookState : η
  lifecycle : SnapshotApplyLifecycle := .idle
  active : Option (AppliedSnapshotRecord Snap) := none
  lastKnownGood : Option (AppliedSnapshotRecord Snap) := none
  lastApplyFailure : Option SnapshotApplyFailure := none
  metrics : SnapshotApplyMetrics := {}

section
variable {Snap η : Type} (ops : SnapshotOps Snap) (hook : SnapshotActivationHook Snap η)

def checkAcknowledgedBy : Option Text → Except InvalidApplyRequest Unit
  | none      => .ok ()
  | some text =>
    if (trim text).isEmpty then .error .emptyAcknowledgedBy
    else if byteLen (trim text) > maxActorLen then .error .acknowledgedByTooLong
    else .ok ()

def validateApplyRequest (request : SnapshotApplyRequest Snap) : Except InvalidApplyRequest Unit :=
  let version := trim request.version
  if version.isEmpty then .error .emptyVersion
  else if byteLen version > maxVersionLen then .error .versionTooLong
  else if !(utf8 version).all isVersionByte then .error .invalidVersionFormat
  else if !isLowerHexDigest (ops.digest request.snapshot) then .error .invalidSnapshotDigest
  else if !isLowerHexDigest request.expectedDigestSha256 then .error .invalidExpectedDigestFormat
  else if request.expectedDigestSha256 ≠ ops.digest request.snapshot then .error .digestMismatch
  else checkAcknowledgedBy request.acknowledgedBy

namespace DataplaneSnapshotManager

def activeVersion (m : DataplaneSnapshotManager Snap η) : Option Text := m.active.map (·.version)

def lastKnownGoodVersion (m : DataplaneSnapshotManager Snap η) : Option Text := m.lastKnownGood.map (·.version)

def recordFailure (m : DataplaneSnapshotManager Snap η) (category : SnapshotApplyFailureCategory) (version digestSha256 : Text)
    (failedAtUnixMs : ℕ) (detail : Text) : DataplaneSnapshotManager Snap η :=
  { m with
    metrics := match category with
      | .integrity =>
        { m.metrics with applyIntegrityFailureCount := satAdd m.metrics.applyIntegrityFailureCount 1 }
      | .activation =>
        { m.metrics with applyActivationFailureCount := satAdd m.metrics.applyActivationFailureCount 1 }
      | .internal =>
        { m.metrics with applyInternalFailureCount := satAdd m.metrics.applyInternalFailureCount 1 }
    lastApplyFailure := some ⟨category, version, digestSha256, failedAtUnixMs, detail⟩
    lifecycle := .applyFailed version digestSha256 }

def appliedRecord (request : SnapshotApplyRequest Snap) (appliedAtUnixMs : ℕ) : AppliedSnapshotRecord Snap where
  version := request.version
  workspaceName := ops.workspaceName request.snapshot
  digestSha256 := ops.digest request.snapshot
  appliedAtUnixMs := appliedAtUnixMs
  acknowledgedBy := request.acknowledgedBy
  snapshot := request.snapshot

def activated (m : DataplaneSnapshotManager Snap η) (record : AppliedSnapshotRecord Snap) : DataplaneSnapshotManager Snap η :=
  { m with
    active := some record
    lastKnownGood := some record
    lastApplyFailure := none
    metrics := { m.metrics with applySuccessCount := satAdd m.metrics.applySuccessCount 1 }
    lifecycle := .active record.version record.digestSha256 }

/-- The part of `apply_at` that asks the hook. -/
def activate (request : SnapshotApplyRequest Snap) (appliedAtUnixMs : ℕ) :
    Proc (DataplaneSnapshotManager Snap η) SnapshotApplyError SnapshotApplyAck := fun m =>
  let failed (m : DataplaneSnapshotManager Snap η) (error : SnapshotActivationError) :
      Except SnapshotApplyError SnapshotApplyAck × DataplaneSnapshotManager Snap η :=
    (.error (.activation error),
      m.recordFailure .activation request.version (ops.digest request.snapshot) appliedAtUnixMs error.toText)
  match hook.validate request.snapshot m.hookState with
  | (.error error, s) => failed { m with hookState := s } error
  | (.ok (), s)       => match hook.activate request.snapshot s with
    | (.error error, s) => failed { m with hookState := s } error
    | (.ok (), s)       =>
      let record := appliedRecord ops request appliedAtUnixMs
      (.ok ⟨.applied, record.toAppliedSnapshotSummary, record.toAppliedSnapshotSummary⟩,
        activated { m with hookState := s } record)

def applyAt (request : SnapshotApplyRequest Snap) (appliedAtUnixMs : ℕ) :
    Proc (DataplaneSnapshotManager Snap η) SnapshotApplyError SnapshotApplyAck := fun m =>
  let digestSha256 := ops.digest request.snapshot
  match validateApplyRequest ops request with
  | .error error =>
    (.error (.invalidRequest error), m.recordFailure .integrity request.version digestSha256 appliedAtUnixMs error.toText)
  | .ok () => match ops.verify request.snapshot request.artifactAttestation with
    | .error error =>
      (.error (.integrity error), m.recordFailure .integrity request.version digestSha256 appliedAtUnixMs error.toText)
    | .ok () =>
      let applying := { m with lifecycle := .applying request.version digestSha256 }
      match m.active with
      | some active =>
        if active.version = request.version ∧ active.digestSha256 = digestSha256 then
          (.ok ⟨.unchanged, active.toAppliedSnapshotSummary, (m.lastKnownGood.getD active).toAppliedSnapshotSummary⟩,
            { m with
              metrics := { m.metrics with applyNoopCount := satAdd m.metrics.applyNoopCount 1 }
              lifecycle := .active active.version active.digestSha256 })
        else activate ops hook request appliedAtUnixMs applying
      | none => activate ops hook request appliedAtUnixMs applying

/-! ## What an application does -/

variable {ops hook}

def IsActive (ops : SnapshotOps Snap) (m : DataplaneSnapshotManager Snap η) (request : SnapshotApplyRequest Snap) : Prop :=
  ∃ active, m.active = some active ∧ active.version = request.version ∧ active.digestSha256 = ops.digest request.snapshot

/-- **What an application comes to**: it fails and the manager keeps what it runs, or the snapshot was active already, or the
hook took it and it is active now. -/
inductive Applies (ops : SnapshotOps Snap) (request : SnapshotApplyRequest Snap) (now : ℕ) (m m' : DataplaneSnapshotManager Snap η) :
    Except SnapshotApplyError SnapshotApplyAck → Prop
  | failed (e : SnapshotApplyError) (hactive : m'.active = m.active) (hgood : m'.lastKnownGood = m.lastKnownGood) :
      Applies ops request now m m' (.error e)
  | unchanged (active : AppliedSnapshotRecord Snap) (hsome : m.active = some active) (hversion : active.version = request.version)
      (hdigest : active.digestSha256 = ops.digest request.snapshot) (hactive : m'.active = m.active)
      (hgood : m'.lastKnownGood = m.lastKnownGood) :
      Applies ops request now m m'
        (.ok ⟨.unchanged, active.toAppliedSnapshotSummary, (m.lastKnownGood.getD active).toAppliedSnapshotSummary⟩)
  | applied (hnew : ¬ IsActive ops m request) (hactive : m'.active = some (appliedRecord ops request now))
      (hgood : m'.lastKnownGood = some (appliedRecord ops request now)) :
      Applies ops request now m m' (.ok ⟨.applied, (appliedRecord ops request now).toAppliedSnapshotSummary,
        (appliedRecord ops request now).toAppliedSnapshotSummary⟩)

theorem activate_applies {request : SnapshotApplyRequest Snap} {now : ℕ} {m m₁ : DataplaneSnapshotManager Snap η}
    (hnew : ¬ IsActive ops m request) (hactive : m₁.active = m.active) (hgood : m₁.lastKnownGood = m.lastKnownGood) :
    Applies ops request now m (activate ops hook request now m₁).2 (activate ops hook request now m₁).1 := by
  unfold activate
  rcases hval : hook.validate request.snapshot m₁.hookState with ⟨error | u, s⟩
  · exact .failed _ hactive hgood
  · rcases hact : hook.activate request.snapshot s with ⟨error | u, s'⟩
    · simp only [hact]
      exact .failed _ hactive hgood
    · simp only [hact]
      exact .applied hnew rfl rfl

theorem applyAt_applies (request : SnapshotApplyRequest Snap) (now : ℕ) (m : DataplaneSnapshotManager Snap η) :
    Applies ops request now m (applyAt ops hook request now m).2 (applyAt ops hook request now m).1 := by
  unfold applyAt
  cases hval : validateApplyRequest ops request with
  | error e => exact .failed _ rfl rfl
  | ok u =>
    cases hver : ops.verify request.snapshot request.artifactAttestation with
    | error e => exact .failed _ rfl rfl
    | ok u =>
      cases hactive : m.active with
      | none =>
        refine activate_applies ?_ hactive.symm rfl
        rintro ⟨actt, hsome, -⟩
        rw [hactive] at hsome
        cases hsome
      | some actt =>
        dsimp only
        split_ifs with hs
        · exact .unchanged actt hactive hs.1 hs.2 hactive.symm rfl
        · refine activate_applies ?_ hactive.symm rfl
          rintro ⟨actt', hsome, hs'⟩
          rw [hactive] at hsome
          cases hsome
          exact hs hs'

variable (ops hook) in
theorem applyAt_run {request : SnapshotApplyRequest Snap} {now : ℕ} {m : DataplaneSnapshotManager Snap η} :
    ∃ result m', applyAt ops hook request now m = (result, m') ∧ Applies ops request now m m' result :=
  ⟨_, _, rfl, applyAt_applies request now m⟩

end DataplaneSnapshotManager

end

end WayBalancer
