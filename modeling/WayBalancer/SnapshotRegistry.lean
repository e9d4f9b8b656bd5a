import WayBalancer.ConfigSecurity
import WayBalancer.FleetCanary
/-!
# SnapshotRegistry — publishing snapshots, and the registry's backups

`SnapshotControlService` of `crates/admin-api/src/control.rs` with all it keeps: the records by version, the versions by digest,
the publication history, the audit events and the counters.  A snapshot is known by its digest, its name, how it differs from
another one and whether an attestation is good for it; in a durable state it stands as its view, from which it is rebuilt.
-/
namespace WayBalancer

open Str Word

/-! ## Snapshots -/

structure SnapshotResourceChange where
  name : Text
  kind : SnapshotChangeKind
  detail : Option Text
deriving DecidableEq, Repr

/-- `WorkspaceSnapshotDiff` with the names and details of its changes. -/
structure SnapshotChanges where
  previousDigestSha256 : Text
  nextDigestSha256 : Text
  listenerChanges : List SnapshotResourceChange
  routeChanges : List SnapshotResourceChange
  upstreamClusterChanges : List SnapshotResourceChange
deriving DecidableEq, Repr

def SnapshotChanges.toDiff (changes : SnapshotChanges) : WorkspaceSnapshotDiff where
  previousDigestSha256 := changes.previousDigestSha256
  nextDigestSha256 := changes.nextDigestSha256
  listenerChanges := changes.listenerChanges.map (·.kind)
  routeChanges := changes.routeChanges.map (·.kind)
  upstreamClusterChanges := changes.upstreamClusterChanges.map (·.kind)

structure SnapshotOps (Snap : Type) where
  digest : Snap → Text
  workspaceName : Snap → Text
  diff : Snap → Snap → SnapshotChanges
  verify : Snap → Option ArtifactAttestation → Except ArtifactIntegrityError Unit

/-- The view a snapshot is stored as, and the snapshot rebuilt from a view. -/
structure SnapshotViews (Snap View ε : Type) where
  view : Snap → View
  fromView : View → Except ε Snap

/-! ## Requests and records -/

structure SnapshotPublishRequest (Snap : Type) where
  version : Text
  snapshot : Snap
  artifactAttestation : Option ArtifactAttestation
  expectedDigestSha256 : Option Text
  publishedBy : Option Text
  reason : Option Text

/-- A published record with all its fields; `PublishedSnapshotRecord` has those the lookups read. -/
structure RegistryRecord (Snap : Type) extends PublishedSnapshotRecord Snap where
  workspaceName : Text
  artifactAttestation : Option ArtifactAttestation
  publishedAtUnixMs : ℕ
  publishedBy : Option Text
  reason : Option Text

inductive PublishResponseKind
  | published
  | unchanged
deriving DecidableEq, Repr

structure PublishResponse (Snap : Type) where
  kind : PublishResponseKind
  record : RegistryRecord Snap
  previousVersion : Option Text
  snapshotDiff : Option SnapshotChanges

inductive PublishEventKind
  | published
  | unchanged
  | rejected
deriving DecidableEq, Repr

structure PublishEvent where
  kind : PublishEventKind
  version : Text
  digestSha256 : Option Text
  occurredAtUnixMs : ℕ
  detail : Text
deriving DecidableEq, Repr

structure SnapshotRegistryMetrics where
  publishedVersionsCount : ℕ := 0
  idempotentPublishCount : ℕ := 0
  publishInvalidCount : ℕ := 0
  publishConflictCount : ℕ := 0
  publishInternalFailureCount : ℕ := 0
  backupExportCount : ℕ := 0
  restoreSuccessCount : ℕ := 0
  restoreFailureCount : ℕ := 0
  activeRegistrySize : ℕ := 0
deriving DecidableEq, Repr

inductive InvalidPublishRequest
  | emptyVersion
  | invalidVersionFormat
  | versionTooLong
  | invalidSnapshotDigest
  | invalidExpectedDigestFormat
  | digestMismatch
  | artifactIntegrity (error : ArtifactIntegrityError)
  | emptyPublishedBy
  | publishedByTooLong
  | emptyReason
  | reasonTooLong
deriving DecidableEq, Repr

def InvalidPublishRequest.toText : InvalidPublishRequest → Text
  | .emptyVersion => lit "snapshot version must not be empty"
  | .invalidVersionFormat => lit "snapshot version contains unsupported characters"
  | .versionTooLong => lit "snapshot version exceeds max length"
  | .invalidSnapshotDigest => lit "snapshot digest must be a lowercase sha256 hex string"
  | .invalidExpectedDigestFormat => lit "expected digest must be a lowercase sha256 hex string"
  | .digestMismatch => lit "expected digest does not match snapshot digest"
  | .artifactIntegrity error => error.toText
  | .emptyPublishedBy => lit "published_by must not be empty"
  | .publishedByTooLong => lit "published_by exceeds max length"
  | .emptyReason => lit "publish reason must not be empty"
  | .reasonTooLong => lit "publish reason exceeds max length"

inductive PublishConflict
  | versionAlreadyExists (version existingDigestSha256 : Text)
  | digestAlreadyPublished (digestSha256 existingVersion : Text)
deriving DecidableEq, Repr

def PublishConflict.toText : PublishConflict → Text
  | .versionAlreadyExists version existingDigestSha256 =>
    lit "snapshot version '" ++ version ++ lit "' already exists with digest " ++ existingDigestSha256
  | .digestAlreadyPublished digestSha256 existingVersion =>
    lit "snapshot digest " ++ digestSha256 ++ lit " is already published as version '" ++ existingVersion ++ lit "'"

inductive SnapshotPublicationError
  | invalidRequest (error : InvalidPublishRequest)
  | conflict (error : PublishConflict)
  | internal (error : Text)
deriving DecidableEq, Repr

/-! ## The registry -/

structure SnapshotRegistry (Snap : Type) where
  recordsByVersion : SortedMap Text (RegistryRecord Snap) := .empty
  versionByDigest : SortedMap Text Text := .empty
  history : List Text := []
  auditEvents : List PublishEvent := []
  metrics : SnapshotRegistryMetrics := {}

section
variable {Snap : Type} (ops : SnapshotOps Snap)

/-- An optional text, trimmed, is neither empty nor too long. -/
def checkPublishText (maxLen : ℕ) (empty tooLong : InvalidPublishRequest) : Option Text → Except InvalidPublishRequest Unit
  | none      => .ok ()
  | some text =>
    if (trim text).isEmpty then .error empty else if byteLen (trim text) > maxLen then .error tooLong else .ok ()

def checkExpectedDigest (digestSha256 : Text) : Option Text → Except InvalidPublishRequest Unit
  | none          => .ok ()
  | some expected =>
    if !isLowerHexDigest expected then .error .invalidExpectedDigestFormat
    else if expected ≠ digestSha256 then .error .digestMismatch
    else .ok ()

/-- The version is checked without the white space around it. -/
def validatePublishRequest (request : SnapshotPublishRequest Snap) : Except InvalidPublishRequest Unit :=
  let version := trim request.version
  if version.isEmpty then .error .emptyVersion
  else if byteLen version > maxVersionLen then .error .versionTooLong
  else if !(utf8 version).all isVersionByte then .error .invalidVersionFormat
  else if !isLowerHexDigest (ops.digest request.snapshot) then .error .invalidSnapshotDigest
  else do
    checkExpectedDigest (ops.digest request.snapshot) request.expectedDigestSha256
    (ops.verify request.snapshot request.artifactAttestation).mapError .artifactIntegrity
    checkPublishText maxActorLen .emptyPublishedBy .publishedByTooLong request.publishedBy
    checkPublishText maxReasonLen .emptyReason .reasonTooLong request.reason

def summarizeResourceChange (change : SnapshotResourceChange) : Text :=
  let kind := match change.kind with
    | .added   => lit "added"
    | .removed => lit "removed"
    | .updated => lit "updated"
  match change.detail with
  | some detail => change.name ++ lit " " ++ kind ++ lit " (" ++ detail ++ lit ")"
  | none        => change.name ++ lit " " ++ kind

def summarizeResourceChanges (kindLabel : Text) (changes : List SnapshotResourceChange) : Text :=
  if changes.isEmpty then []
  else
    let entries := (changes.take 4).map summarizeResourceChange
    let entries := if changes.length > 4 then
      entries ++ [lit "and " ++ Nat.toDigits 10 (changes.length - 4) ++ lit " more"] else entries
    kindLabel ++ lit " changes: " ++ List.intercalate (lit ", ") entries

def summarizeSnapshotDiff (diff : SnapshotChanges) : Text :=
  List.intercalate (lit "; ") ([summarizeResourceChanges (lit "listener") diff.listenerChanges,
    summarizeResourceChanges (lit "route") diff.routeChanges,
    summarizeResourceChanges (lit "upstream cluster") diff.upstreamClusterChanges].filter (fun part => !part.isEmpty))

def formatPublishDetail (previousVersion : Option Text) (snapshotDiff : Option SnapshotChanges) : Text :=
  lit "snapshot version published" ++
    previousVersion.elim [] (fun version => lit "; previous version " ++ version) ++
    snapshotDiff.elim [] (fun diff =>
      let summary := summarizeSnapshotDiff diff
      if summary.isEmpty then [] else lit "; " ++ summary)

namespace SnapshotRegistry

def pushEvent (r : SnapshotRegistry Snap) (kind : PublishEventKind) (version : Text) (digestSha256 : Option Text)
    (occurredAtUnixMs : ℕ) (detail : Text) : SnapshotRegistry Snap :=
  { r with
    auditEvents := r.auditEvents ++ [⟨kind, version, digestSha256, occurredAtUnixMs, detail⟩]
    metrics := { r.metrics with activeRegistrySize := r.recordsByVersion.size } }

def addRecord (r : SnapshotRegistry Snap) (record : RegistryRecord Snap) : SnapshotRegistry Snap :=
  { r with
    versionByDigest := r.versionByDigest.insert record.digestSha256 record.version
    history := r.history ++ [record.version]
    recordsByVersion := r.recordsByVersion.insert record.version record }

def publishedRecord (request : SnapshotPublishRequest Snap) (publishedAtUnixMs : ℕ) : RegistryRecord Snap where
  version := request.version
  digestSha256 := ops.digest request.snapshot
  snapshot := request.snapshot
  workspaceName := ops.workspaceName request.snapshot
  artifactAttestation := request.artifactAttestation
  publishedAtUnixMs := publishedAtUnixMs
  publishedBy := request.publishedBy
  reason := request.reason

def publishNew (request : SnapshotPublishRequest Snap) (publishedAtUnixMs : ℕ) (r : SnapshotRegistry Snap) :
    PublishResponse Snap × SnapshotRegistry Snap :=
  let previousRecord := r.history.getLast?.bind r.recordsByVersion.get?
  let record := publishedRecord ops request publishedAtUnixMs
  let previousVersion := previousRecord.map (·.version)
  let snapshotDiff := previousRecord.map (fun previous => ops.diff previous.snapshot record.snapshot)
  let r := r.addRecord record
  let r := { r with metrics := { r.metrics with
    publishedVersionsCount := satAdd r.metrics.publishedVersionsCount 1
    activeRegistrySize := r.recordsByVersion.size } }
  (⟨.published, record, previousVersion, snapshotDiff⟩,
    r.pushEvent .published request.version (some record.digestSha256) publishedAtUnixMs
      (formatPublishDetail previousVersion snapshotDiff))

def publishAt (request : SnapshotPublishRequest Snap) (publishedAtUnixMs : ℕ) :
    Proc (SnapshotRegistry Snap) SnapshotPublicationError (PublishResponse Snap) := fun r =>
  let digestSha256 := ops.digest request.snapshot
  let reject (r : SnapshotRegistry Snap) (detail : Text) :=
    r.pushEvent .rejected request.version (some digestSha256) publishedAtUnixMs detail
  let conflicting (error : PublishConflict) : Except SnapshotPublicationError (PublishResponse Snap) × SnapshotRegistry Snap :=
    (.error (.conflict error),
      reject { r with metrics := { r.metrics with publishConflictCount := satAdd r.metrics.publishConflictCount 1 } }
        error.toText)
  match validatePublishRequest ops request with
  | .error error =>
    (.error (.invalidRequest error),
      reject { r with metrics := { r.metrics with publishInvalidCount := satAdd r.metrics.publishInvalidCount 1 } } error.toText)
  | .ok () => match r.recordsByVersion.get? request.version with
    | some existing =>
      if existing.digestSha256 = digestSha256 then
        (.ok ⟨.unchanged, existing, none, none⟩,
          { r with metrics := { r.metrics with
            idempotentPublishCount := satAdd r.metrics.idempotentPublishCount 1 } }.pushEvent .unchanged request.version
              (some digestSha256) publishedAtUnixMs (lit "idempotent duplicate publish ignored"))
      else conflicting (.versionAlreadyExists existing.version existing.digestSha256)
    | none => match r.versionByDigest.get? digestSha256 with
      | some existingVersion => conflicting (.digestAlreadyPublished digestSha256 existingVersion)
      | none =>
        let (response, r) := publishNew ops request publishedAtUnixMs r
        (.ok response, r)

def publish (request : SnapshotPublishRequest Snap) (clock : Except Text ℕ) :
    Proc (SnapshotRegistry Snap) SnapshotPublicationError (PublishResponse Snap) := fun r =>
  match clock with
  | .ok now      => publishAt ops request now r
  | .error error => (.error (.internal error), r)

/-! ## Backups -/

structure BackupBundle (Snap : Type) where
  exportedAtUnixMs : ℕ
  records : List (RegistryRecord Snap)

def listedRecords (r : SnapshotRegistry Snap) : List (RegistryRecord Snap) := r.history.filterMap r.recordsByVersion.get?

def exportBackupAt (exportedAtUnixMs : ℕ) (r : SnapshotRegistry Snap) : BackupBundle Snap × SnapshotRegistry Snap :=
  (⟨exportedAtUnixMs, r.listedRecords⟩,
    { r with metrics := { r.metrics with backupExportCount := satAdd r.metrics.backupExportCount 1 } })

def restoreRequest (record : RegistryRecord Snap) : SnapshotPublishRequest Snap :=
  ⟨record.version, record.snapshot, record.artifactAttestation, some record.digestSha256, record.publishedBy, record.reason⟩

def restoreRecords : List (RegistryRecord Snap) → Proc (SnapshotRegistry Snap) SnapshotPublicationError Unit
  | [], r                => (.ok (), r)
  | record :: records, r => match publishAt ops (restoreRequest record) record.publishedAtUnixMs r with
    | (.error error, r) => (.error error, r)
    | (.ok _, r)        => restoreRecords records r

/-- Its one error is that of a publication. -/
def restoreBackup (backup : BackupBundle Snap) : Proc (SnapshotRegistry Snap) SnapshotPublicationError Unit := fun r =>
  match restoreRecords ops backup.records r with
  | (.error error, r) =>
    (.error error, { r with metrics := { r.metrics with restoreFailureCount := satAdd r.metrics.restoreFailureCount 1 } })
  | (.ok (), r) =>
    (.ok (), { r with metrics := { r.metrics with restoreSuccessCount := satAdd r.metrics.restoreSuccessCount 1 } })

def restoreFromBackup (backup : BackupBundle Snap) : Except SnapshotPublicationError (SnapshotRegistry Snap) :=
  match restoreBackup ops backup {} with
  | (.error error, _) => .error error
  | (.ok (), r)       => .ok r

end SnapshotRegistry

/-! ## Durable states -/

abbrev DurableRecord (View : Type) := RegistryRecord View

structure RegistryDurableState (View : Type) where
  records : List (DurableRecord View)
  auditEvents : List PublishEvent

structure RegistryDurableEnvelope where
  version : ℕ
  payloadJson : Text
  payloadSha256 : Text
deriving DecidableEq, Repr

/-- The JSON of a durable state, and the digest of a text. -/
structure DurableCodec (View : Type) where
  toStringPretty : RegistryDurableState View → Except Text Text
  fromStr : Text → Except Text (RegistryDurableState View)
  sha256Hex : List UInt8 → Text

inductive RegistryStateError (ε : Type)
  | serialize (error : Text)
  | deserialize (error : Text)
  | unsupportedVersion (version : ℕ)
  | checksumMismatch
  | snapshotCompile (error : ε)
  | publication (error : SnapshotPublicationError)

def snapshotRegistryStateVersion : ℕ := 1

def defaultMaxPersistedAuditEvents : ℕ := 128

def prunePublishEvents (events : List PublishEvent) (maxAuditEvents : ℕ) : List PublishEvent :=
  if maxAuditEvents = 0 then [] else events.drop (events.length - maxAuditEvents)

def RegistryRecord.mapSnapshot {Snap' : Type} (f : Snap → Snap') (record : RegistryRecord Snap) : RegistryRecord Snap' where
  version := record.version
  digestSha256 := record.digestSha256
  snapshot := f record.snapshot
  workspaceName := record.workspaceName
  artifactAttestation := record.artifactAttestation
  publishedAtUnixMs := record.publishedAtUnixMs
  publishedBy := record.publishedBy
  reason := record.reason

section
variable {View ε : Type} (views : SnapshotViews Snap View ε) (codec : DurableCodec View)

def DurableRecord.tryIntoRecord (record : DurableRecord View) : Except ε (RegistryRecord Snap) :=
  (views.fromView record.snapshot).map (fun snapshot => RegistryRecord.mapSnapshot (fun _ => snapshot) record)

namespace SnapshotRegistry

def durableState (r : SnapshotRegistry Snap) (maxAuditEvents : ℕ) : RegistryDurableState View :=
  ⟨r.listedRecords.map (RegistryRecord.mapSnapshot views.view), prunePublishEvents r.auditEvents maxAuditEvents⟩

def exportDurableStateWithRetention (r : SnapshotRegistry Snap) (maxAuditEvents : ℕ) :
    Except (RegistryStateError ε) RegistryDurableEnvelope := do
  let payloadJson ← (codec.toStringPretty (r.durableState views maxAuditEvents)).mapError .serialize
  return ⟨snapshotRegistryStateVersion, payloadJson, codec.sha256Hex (utf8 payloadJson)⟩

def exportDurableState (r : SnapshotRegistry Snap) : Except (RegistryStateError ε) RegistryDurableEnvelope :=
  r.exportDurableStateWithRetention views codec defaultMaxPersistedAuditEvents

/-- A record taken as it stands, unlike one that is published. -/
def restoreRecord (record : RegistryRecord Snap) (r : SnapshotRegistry Snap) :
    Except SnapshotPublicationError (SnapshotRegistry Snap) :=
  match validatePublishRequest ops (restoreRequest record) with
  | .error error => .error (.invalidRequest error)
  | .ok () => match r.recordsByVersion.get? record.version with
    | some existing => .error (.conflict (.versionAlreadyExists existing.version existing.digestSha256))
    | none => match r.versionByDigest.get? record.digestSha256 with
      | some existingVersion => .error (.conflict (.digestAlreadyPublished record.digestSha256 existingVersion))
      | none =>
        let r := r.addRecord record
        .ok { r with metrics := { r.metrics with
          publishedVersionsCount := min r.recordsByVersion.size u64Max
          activeRegistrySize := r.recordsByVersion.size } }

def restoreDurableRecords : List (DurableRecord View) → SnapshotRegistry Snap →
    Except (RegistryStateError ε) (SnapshotRegistry Snap)
  | [], r                => .ok r
  | record :: records, r => do
    let record ← (record.tryIntoRecord views).mapError .snapshotCompile
    let r ← (restoreRecord ops record r).mapError .publication
    restoreDurableRecords records r

def restoreDurableStateWithRetention (envelope : RegistryDurableEnvelope) (maxAuditEvents : ℕ) :
    Except (RegistryStateError ε) (SnapshotRegistry Snap) :=
  if envelope.version ≠ snapshotRegistryStateVersion then .error (.unsupportedVersion envelope.version)
  else if codec.sha256Hex (utf8 envelope.payloadJson) ≠ envelope.payloadSha256 then .error .checksumMismatch
  else do
    let payload ← (codec.fromStr envelope.payloadJson).mapError .deserialize
    let r ← restoreDurableRecords ops views payload.records {}
    return { r with
      auditEvents := prunePublishEvents payload.auditEvents maxAuditEvents
      metrics := { r.metrics with
        restoreSuccessCount := satAdd r.metrics.restoreSuccessCount 1
        activeRegistrySize := r.recordsByVersion.size } }

def restoreDurableState (envelope : RegistryDurableEnvelope) : Except (RegistryStateError ε) (SnapshotRegistry Snap) :=
  restoreDurableStateWithRetention ops views codec envelope defaultMaxPersistedAuditEvents

end SnapshotRegistry

end

/-! ## Lookups -/

namespace SnapshotRegistry

def toControl (r : SnapshotRegistry Snap) : SnapshotControlService Snap where
  recordsByVersion := r.recordsByVersion.mapValues (fun _ record => record.toPublishedSnapshotRecord)
  history := r.history
  diff previous next := (ops.diff previous next).toDiff
  digest := ops.digest

def getVersion (r : SnapshotRegistry Snap) (version : Text) : Except SnapshotLookupError (RegistryRecord Snap) :=
  match r.recordsByVersion.get? version with
  | some record => .ok record
  | none        => .error (.versionNotFound version)

def getDigest (r : SnapshotRegistry Snap) (digestSha256 : Text) : Except SnapshotLookupError (RegistryRecord Snap) :=
  match r.versionByDigest.get? digestSha256 with
  | some version => r.getVersion version
  | none         => .error (.digestNotFound digestSha256)

end SnapshotRegistry

end

end WayBalancer
