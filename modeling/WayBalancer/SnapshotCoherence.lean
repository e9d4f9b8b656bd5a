import WayBalancer.SnapshotRegistry
/-!
# SnapshotCoherence — the registry's indexes over every run, and a restore that fails

What a publication does to the registry is decided by how the registry takes the request (`admission`): a request it holds
already and one it refuses leave the three indexes alone, a fresh one adds its record to all of them.  From this come the
coherence of the indexes in every reachable registry (`Coherent`) and what a failed `restore_backup` leaves behind.
-/
namespace WayBalancer

open Str Word

namespace SnapshotRegistry

variable {Snap : Type} {ops : SnapshotOps Snap}

def index (r : SnapshotRegistry Snap) : SortedMap Text (RegistryRecord Snap) × SortedMap Text Text × List Text :=
  (r.recordsByVersion, r.versionByDigest, r.history)

/-! ## What a publication does -/

inductive Admission
  | held
  | refused
  | fresh
deriving DecidableEq, Repr

/-- A request is held when its version is there with its digest, and fresh when neither is there. -/
def admission (ops : SnapshotOps Snap) (r : SnapshotRegistry Snap) (request : SnapshotPublishRequest Snap) : Admission :=
  match validatePublishRequest ops request with
  | .error _ => .refused
  | .ok () => match r.recordsByVersion.get? request.version with
    | some existing => if existing.digestSha256 = ops.digest request.snapshot then .held else .refused
    | none => match r.versionByDigest.get? (ops.digest request.snapshot) with
      | some _ => .refused
      | none   => .fresh

variable {r r' : SnapshotRegistry Snap}

theorem admission_congr (h : r'.index = r.index) (request : SnapshotPublishRequest Snap) :
    r'.admission ops request = r.admission ops request := by
  obtain ⟨hr, hre⟩ := Prod.mk.inj h
  obtain ⟨hdig, -⟩ := Prod.mk.inj hre
  unfold admission
  rw [hr, hdig]

theorem fresh_iff {request : SnapshotPublishRequest Snap} :
    r.admission ops request = .fresh ↔ validatePublishRequest ops request = .ok () ∧
      r.recordsByVersion.get? request.version = none ∧ r.versionByDigest.get? (ops.digest request.snapshot) = none := by
  unfold admission
  cases hval : validatePublishRequest ops request with
  | error e => simp
  | ok u =>
    cases hver : r.recordsByVersion.get? request.version with
    | some old =>
      dsimp only
      split <;> simp
    | none => cases hdig : r.versionByDigest.get? (ops.digest request.snapshot) <;> simp

/-- **What a publication does**, by how the request is taken. -/
inductive Publishes (ops : SnapshotOps Snap) (request : SnapshotPublishRequest Snap) (now : ℕ) (r : SnapshotRegistry Snap) :
    Admission → Except SnapshotPublicationError (PublishResponse Snap) × SnapshotRegistry Snap → Prop
  | held {response r'} (h : r'.index = r.index) : Publishes ops request now r .held (.ok response, r')
  | refused {e r'} (h : r'.index = r.index) : Publishes ops request now r .refused (.error e, r')
  | fresh {response r'} (h : r'.index = (r.addRecord (publishedRecord ops request now)).index) :
      Publishes ops request now r .fresh (.ok response, r')

theorem publishAt_publishes (request : SnapshotPublishRequest Snap) (now : ℕ) (r : SnapshotRegistry Snap) :
    Publishes ops request now r (r.admission ops request) (publishAt ops request now r) := by
  unfold admission publishAt
  cases validatePublishRequest ops request with
  | error e => exact .refused rfl
  | ok u =>
    cases r.recordsByVersion.get? request.version with
    | some old =>
      dsimp only
      split
      · exact .held rfl
      · exact .refused rfl
    | none =>
      dsimp only
      cases r.versionByDigest.get? (ops.digest request.snapshot) with
      | some v => exact .refused rfl
      | none => exact .fresh (by rfl)

theorem publishAt_index {request : SnapshotPublishRequest Snap} {now : ℕ} : (publishAt ops request now r).2.index = r.index ∨
      r.admission ops request = .fresh ∧
        (publishAt ops request now r).2.index = (r.addRecord (publishedRecord ops request now)).index := by
  have h := @publishAt_publishes _ ops request now r
  generalize r.admission ops request = admission, publishAt ops request now r = out at h ⊢
  cases h with
  | held h | refused h => exact .inl h
  | fresh h => exact .inr ⟨rfl, h⟩

theorem restoreRecords_keeps {P : SnapshotRegistry Snap → Prop} (hs : ∀ request now r, P r → P (publishAt ops request now r).2) :
    ∀ (records : List (RegistryRecord Snap)) {r : SnapshotRegistry Snap}, P r → P (restoreRecords ops records r).2
  | [], _, h => h
  | record :: records, r, h => by
    have hfir := hs (restoreRequest record) record.publishedAtUnixMs r h
    rw [restoreRecords]
    rcases hpub : publishAt ops (restoreRequest record) record.publishedAtUnixMs r with ⟨e | response, r'⟩
    · rwa [hpub] at hfir
    · rw [hpub] at hfir
      exact restoreRecords_keeps hs records hfir

theorem restoreRecord_ok {record : RegistryRecord Snap} (h : restoreRecord ops record r = .ok r') :
    validatePublishRequest ops (restoreRequest record) = .ok () ∧ r.recordsByVersion.get? record.version = none ∧
      r.versionByDigest.get? record.digestSha256 = none ∧ r'.index = (r.addRecord record).index := by
  unfold restoreRecord at h
  cases hval : validatePublishRequest ops (restoreRequest record) with
  | error e => simp only [hval] at h; cases h
  | ok u =>
    simp only [hval] at h
    cases hver : r.recordsByVersion.get? record.version with
    | some old => simp only [hver] at h; cases h
    | none =>
      simp only [hver] at h
      cases hdig : r.versionByDigest.get? record.digestSha256 with
      | some v => simp only [hdig] at h; cases h
      | none =>
        simp only [hdig] at h
        cases h
        exact ⟨rfl, rfl, rfl, rfl⟩

theorem restoreDurableState_ok {View ε : Type} {views : SnapshotViews Snap View ε} {codec : DurableCodec View}
    {envelope : RegistryDurableEnvelope} {maxAuditEvents : ℕ}
    (h : restoreDurableStateWithRetention ops views codec envelope maxAuditEvents = .ok r) :
    ∃ payload r₁, codec.fromStr envelope.payloadJson = .ok payload ∧
      restoreDurableRecords ops views payload.records {} = .ok r₁ ∧ r.index = r₁.index := by
  obtain ⟨-, h⟩ := Proc.ite_error_ok.1 h
  obtain ⟨-, h⟩ := Proc.ite_error_ok.1 h
  obtain ⟨payload, hpay, h⟩ := Proc.except_bind_ok.1 h
  obtain ⟨r₁, hr, h⟩ := Proc.except_bind_ok.1 h
  cases h
  exact ⟨payload, r₁, Proc.except_mapError_ok.1 hpay, hr, rfl⟩

/-! ## Requests that pass -/

theorem validatePublishRequest_ok {request : SnapshotPublishRequest Snap} : validatePublishRequest ops request = .ok () ↔
      ((trim request.version).isEmpty = false ∧ byteLen (trim request.version) ≤ maxVersionLen ∧
        (utf8 (trim request.version)).all isVersionByte = true ∧ isLowerHexDigest (ops.digest request.snapshot) = true) ∧
      checkExpectedDigest (ops.digest request.snapshot) request.expectedDigestSha256 = .ok () ∧
      ops.verify request.snapshot request.artifactAttestation = .ok () ∧
      checkPublishText maxActorLen .emptyPublishedBy .publishedByTooLong request.publishedBy = .ok () ∧
      checkPublishText maxReasonLen .emptyReason .reasonTooLong request.reason = .ok () := by
  simp only [validatePublishRequest, Proc.ite_error_ok, Proc.except_seq_ok, Proc.except_mapError_ok, and_assoc,
    Bool.not_eq_true, Bool.not_eq_false', not_lt]

theorem checkExpectedDigest_some {digestSha256 expected : Text} :
    checkExpectedDigest digestSha256 (some expected) = .ok () ↔ isLowerHexDigest expected = true ∧ expected = digestSha256 := by
  simp [checkExpectedDigest, Proc.ite_error_ok]

theorem restoreRequest_valid {request : SnapshotPublishRequest Snap} (h : validatePublishRequest ops request = .ok ()) (now : ℕ) :
    validatePublishRequest ops (restoreRequest (publishedRecord ops request now)) = .ok () := by
  obtain ⟨hver, -, hr⟩ := validatePublishRequest_ok.1 h
  exact validatePublishRequest_ok.2 ⟨hver, checkExpectedDigest_some.2 ⟨hver.2.2.2, rfl⟩, hr⟩

theorem digest_of_valid {record : RegistryRecord Snap} (h : validatePublishRequest ops (restoreRequest record) = .ok ()) :
    record.digestSha256 = ops.digest record.snapshot :=
  (checkExpectedDigest_some.1 (validatePublishRequest_ok.1 h).2.1).2

/-! ## Coherence -/

/-- **A coherent registry**: the history lists the versions of the records once each, a record stands under its own version,
and the digest index is the inverse of the records' digests. -/
structure Coherent (ops : SnapshotOps Snap) (r : SnapshotRegistry Snap) : Prop where
  history_nodup : r.history.Nodup
  mem_history : ∀ v, v ∈ r.history ↔ (r.recordsByVersion.get? v).isSome = true
  version_eq : ∀ v record, r.recordsByVersion.get? v = some record → record.version = v
  digest_iff : ∀ d v, r.versionByDigest.get? d = some v ↔ ∃ record, r.recordsByVersion.get? v = some record ∧ record.digestSha256 = d
  valid : ∀ v record, r.recordsByVersion.get? v = some record → validatePublishRequest ops (restoreRequest record) = .ok ()

namespace Coherent

variable {r r' : SnapshotRegistry Snap}

theorem empty : Coherent ops ({} : SnapshotRegistry Snap) where
  history_nodup := List.nodup_nil
  mem_history v := ⟨fun h => (by cases h), fun h => (by cases h)⟩
  version_eq v record h := by cases h
  digest_iff d v := ⟨fun h => (by cases h), fun ⟨_, h, _⟩ => (by cases h)⟩
  valid v record h := by cases h

theorem congr (h : Coherent ops r) (hidx : r'.index = r.index) : Coherent ops r' := by
  obtain ⟨hr, hre⟩ := Prod.mk.inj hidx
  obtain ⟨hdig, hhis⟩ := Prod.mk.inj hre
  refine ⟨?_, ?_, ?_, ?_, ?_⟩
  · rw [hhis]; exact h.history_nodup
  · rw [hhis, hr]; exact h.mem_history
  · rw [hr]; exact h.version_eq
  · rw [hdig, hr]; exact h.digest_iff
  · rw [hr]; exact h.valid

/-- **The one way the indexes grow**: a valid record whose version and digest are both new. -/
theorem addRecord (h : Coherent ops r) {record : RegistryRecord Snap}
    (hval : validatePublishRequest ops (restoreRequest record) = .ok ())
    (hver : r.recordsByVersion.get? record.version = none) (hdig : r.versionByDigest.get? record.digestSha256 = none) :
    Coherent ops (r.addRecord record) := by
  have hget : ∀ v, (r.addRecord record).recordsByVersion.get? v =
      if v = record.version then some record else r.recordsByVersion.get? v := by
    intro v
    show (r.recordsByVersion.insert record.version record).get? v = _
    convert SortedMap.get?_insert r.recordsByVersion record.version v record
  -- a record of the registry before is under another version and has another digest
  have hoth : ∀ v old, r.recordsByVersion.get? v = some old → v ≠ record.version ∧ old.digestSha256 ≠ record.digestSha256 := by
    intro v old hold
    refine ⟨?_, ?_⟩
    · rintro rfl
      rw [hver] at hold
      cases hold
    · intro hs
      have hind := (h.digest_iff record.digestSha256 v).2 ⟨old, hold, hs⟩
      rw [hdig] at hind
      cases hind
  refine ⟨?_, fun v => ?_, fun v old hold => ?_, fun d v => ?_, fun v old hold => ?_⟩
  · refine List.nodup_append.2 ⟨h.history_nodup, List.nodup_singleton _, fun v hv w hw => ?_⟩
    rw [List.mem_singleton] at hw
    obtain ⟨old, hold⟩ := Option.isSome_iff_exists.1 ((h.mem_history v).1 hv)
    rw [hw]
    exact (hoth v old hold).1
  · show v ∈ r.history ++ [record.version] ↔ _
    rw [hget, List.mem_append, h.mem_history]
    split
    · rename_i hv
      simp [hv]
    · rename_i hv
      simp [hv]
  · rw [hget] at hold
    split at hold
    · rename_i hv
      cases hold
      exact hv.symm
    · exact h.version_eq v old hold
  · show (r.versionByDigest.insert record.digestSha256 record.version).get? d = some v ↔ _
    rw [SortedMap.get?_insert, hget]
    constructor
    · intro hd
      split at hd
      · rename_i hs
        cases hd
        exact ⟨record, if_pos rfl, hs.symm⟩
      · obtain ⟨old, hold, hs⟩ := (h.digest_iff d v).1 hd
        exact ⟨old, by rw [if_neg (hoth v old hold).1]; exact hold, hs⟩
    · rintro ⟨old, hold, rfl⟩
      split at hold
      · rename_i hv
        cases hold
        rw [if_pos rfl, hv]
      · rw [if_neg (hoth v old hold).2]
        exact (h.digest_iff _ v).2 ⟨old, hold, rfl⟩
  · rw [hget] at hold
    split at hold
    · cases hold
      exact hval
    · exact h.valid v old hold

theorem publishAt (h : Coherent ops r) (request : SnapshotPublishRequest Snap) (now : ℕ) :
    Coherent ops (SnapshotRegistry.publishAt ops request now r).2 := by
  rcases publishAt_index with hs | ⟨hfre, hadd⟩
  · exact h.congr hs
  · obtain ⟨hval, hver, hdig⟩ := fresh_iff.1 hfre
    exact (h.addRecord (restoreRequest_valid hval now) hver hdig).congr hadd

theorem restoreBackup (h : Coherent ops r) (backup : BackupBundle Snap) :
    Coherent ops (SnapshotRegistry.restoreBackup ops backup r).2 := by
  have hr := restoreRecords_keeps (P := Coherent ops) (fun request now r h => h.publishAt request now) backup.records h
  unfold SnapshotRegistry.restoreBackup
  rcases hrun : SnapshotRegistry.restoreRecords ops backup.records r with ⟨e | u, r'⟩ <;>
  · rw [hrun] at hr
    exact hr.congr rfl

theorem restoreRecord (h : Coherent ops r) {record : RegistryRecord Snap}
    (hres : SnapshotRegistry.restoreRecord ops record r = .ok r') : Coherent ops r' := by
  obtain ⟨hval, hver, hdig, hidx⟩ := restoreRecord_ok hres
  exact (h.addRecord hval hver hdig).congr hidx

section
variable {View ε : Type} {views : SnapshotViews Snap View ε} {codec : DurableCodec View}

theorem restoreDurableRecords : ∀ (records : List (DurableRecord View)) {r r' : SnapshotRegistry Snap}, Coherent ops r →
    SnapshotRegistry.restoreDurableRecords ops views records r = .ok r' → Coherent ops r'
  | [], r, r', h, hrun => by
    cases hrun
    exact h
  | record :: records, r, r', h, hrun => by
    obtain ⟨record', -, hrun⟩ := Proc.except_bind_ok.1 hrun
    obtain ⟨r₁, hres, hrun⟩ := Proc.except_bind_ok.1 hrun
    exact restoreDurableRecords records (h.restoreRecord (Proc.except_mapError_ok.1 hres)) hrun

theorem restoreDurableState {envelope : RegistryDurableEnvelope} {maxAuditEvents : ℕ}
    (hrun : restoreDurableStateWithRetention ops views codec envelope maxAuditEvents = .ok r) : Coherent ops r := by
  obtain ⟨payload, r₁, -, hr, hidx⟩ := restoreDurableState_ok hrun
  exact (restoreDurableRecords payload.records empty hr).congr hidx

end

theorem getDigest (h : Coherent ops r) {d v : Text} (hd : r.versionByDigest.get? d = some v) :
    ∃ record, r.getDigest d = .ok record ∧ record.version = v ∧ record.digestSha256 = d := by
  obtain ⟨record, hrec, hdig⟩ := (h.digest_iff d v).1 hd
  refine ⟨record, ?_, h.version_eq v record hrec, hdig⟩
  simp only [SnapshotRegistry.getDigest, SnapshotRegistry.getVersion, hd, hrec]

end Coherent

/-- The registries that come of any run of publications, exports and restores, the failed ones among them. -/
inductive Reachable {View ε : Type} (ops : SnapshotOps Snap) (views : SnapshotViews Snap View ε) (codec : DurableCodec View) :
    SnapshotRegistry Snap → Prop
  | new : Reachable ops views codec {}
  | published {r : SnapshotRegistry Snap} (request : SnapshotPublishRequest Snap) (now : ℕ) :
      Reachable ops views codec r → Reachable ops views codec (publishAt ops request now r).2
  | exported {r : SnapshotRegistry Snap} (now : ℕ) :
      Reachable ops views codec r → Reachable ops views codec (exportBackupAt now r).2
  | restoredBackup {r : SnapshotRegistry Snap} (backup : BackupBundle Snap) :
      Reachable ops views codec r → Reachable ops views codec (restoreBackup ops backup r).2
  | restoredDurableState {r : SnapshotRegistry Snap} (envelope : RegistryDurableEnvelope) (maxAuditEvents : ℕ)
      (h : restoreDurableStateWithRetention ops views codec envelope maxAuditEvents = .ok r) : Reachable ops views codec r

section
variable {View ε : Type} {views : SnapshotViews Snap View ε} {codec : DurableCodec View} {r : SnapshotRegistry Snap}

theorem Reachable.coherent (h : Reachable ops views codec r) : Coherent ops r := by
  induction h with
  | new => exact .empty
  | published request now _ ih => exact ih.publishAt request now
  | exported now _ ih => exact ih.congr rfl
  | restoredBackup bk _ ih => exact ih.restoreBackup bk
  | restoredDurableState env mx hrun => exact .restoreDurableState hrun

/-- **The registry is coherent in every reachable state**: the history has the versions of the records once each, every record
is under its own version, versions and digests are in bijection through the digest index, and a lookup by digest finds the
record of that digest or says that there is none. -/
theorem reachable_coherent (h : Reachable ops views codec r) :
    r.history.Nodup ∧
    (∀ v, v ∈ r.history ↔ v ∈ r.recordsByVersion.keys) ∧
    (∀ v record, r.recordsByVersion.get? v = some record → record.version = v) ∧
    (∀ d v, r.versionByDigest.get? d = some v ↔ ∃ record, r.recordsByVersion.get? v = some record ∧ record.digestSha256 = d) ∧
    (∀ v v' record record', r.recordsByVersion.get? v = some record → r.recordsByVersion.get? v' = some record' →
      record.digestSha256 = record'.digestSha256 → v = v') ∧
    ∀ d, (∃ record, r.getDigest d = .ok record ∧ record.digestSha256 = d) ∨
      r.getDigest d = .error (.digestNotFound d) ∧ ∀ v record, r.recordsByVersion.get? v = some record → record.digestSha256 ≠ d := by
  have hr := h.coherent
  refine ⟨hr.history_nodup, fun v => ?_, hr.version_eq, hr.digest_iff, fun v v' record record' hv hv' hs => ?_, fun d => ?_⟩
  · rw [hr.mem_history, SortedMap.mem_keys]
  · have hd := (hr.digest_iff record.digestSha256 v).2 ⟨record, hv, rfl⟩
    have hd' := (hr.digest_iff record.digestSha256 v').2 ⟨record', hv', hs.symm⟩
    rw [hd] at hd'
    exact Option.some.inj hd'
  · cases hd : r.versionByDigest.get? d with
    | some v =>
      obtain ⟨record, hget, -, hdig⟩ := hr.getDigest hd
      exact .inl ⟨record, hget, hdig⟩
    | none =>
      refine .inr ⟨by simp only [SnapshotRegistry.getDigest, hd], fun v record hv hs => ?_⟩
      rw [(hr.digest_iff d v).2 ⟨record, hv, hs⟩] at hd
      cases hd

end

def digestOps : SnapshotOps Text where
  digest := id
  workspaceName _ := lit "foundation"
  diff previous next := ⟨previous, next, [], [], []⟩
  verify _ _ := .ok ()

def digestViews : SnapshotViews Text Text Unit where
  view := id
  fromView := .ok

def noCodec : DurableCodec Text where
  toStringPretty _ := .ok []
  fromStr _ := .error []
  sha256Hex _ := []

def digestRequest (version : Text) (c : Char) : SnapshotPublishRequest Text :=
  ⟨version, List.replicate 64 c, none, none, none, none⟩

def publishedOnce : SnapshotRegistry Text :=
  (publishAt digestOps (digestRequest (lit "v1") '1') 2 (publishAt digestOps (digestRequest (lit "v1") '0') 1 {}).2).2

theorem publishedOnce_coherent : publishedOnce.getDigest (List.replicate 64 '1') = .error (.digestNotFound (List.replicate 64 '1')) ∧
    publishedOnce.history.Nodup ∧ ∀ v, v ∈ publishedOnce.history ↔ v ∈ publishedOnce.recordsByVersion.keys :=
  have h := reachable_coherent (.published (digestRequest (lit "v1") '1') 2
    (.published (digestRequest (lit "v1") '0') 1 (@Reachable.new _ _ _ digestOps digestViews noCodec)))
  ⟨by rfl, h.1, h.2.1⟩

/-! ## A restore that fails -/

theorem history_of_index (h : r'.index = r.index) : r'.history = r.history :=
  (Prod.mk.inj (Prod.mk.inj h).2).2

theorem publishAt_history_length_le {request : SnapshotPublishRequest Snap} {now : ℕ} :
    r.history.length ≤ (publishAt ops request now r).2.history.length := by
  rcases publishAt_index with hs | ⟨-, hadd⟩
  · rw [history_of_index hs]
  · rw [history_of_index hadd]
    show _ ≤ (r.history ++ [_]).length
    rw [List.length_append]
    exact Nat.le_add_right _ _

/-- The first record that is not held already is refused. -/
def RefusesFirst (ops : SnapshotOps Snap) (r : SnapshotRegistry Snap) (records : List (RegistryRecord Snap)) : Prop :=
  ∃ held record rest, records = held ++ record :: rest ∧ (∀ p ∈ held, r.admission ops (restoreRequest p) = .held) ∧
    r.admission ops (restoreRequest record) = .refused

theorem refusesFirst_cons {record : RegistryRecord Snap} {records : List (RegistryRecord Snap)} :
    RefusesFirst ops r (record :: records) ↔ r.admission ops (restoreRequest record) = .refused ∨
      r.admission ops (restoreRequest record) = .held ∧ RefusesFirst ops r records := by
  constructor
  · rintro ⟨held, first, rest, hspl, hh, href⟩
    cases held with
    | nil =>
      obtain ⟨rfl, -⟩ := List.cons.inj hspl
      exact .inl href
    | cons p held =>
      obtain ⟨rfl, ht⟩ := List.cons.inj hspl
      exact .inr ⟨hh _ List.mem_cons_self, held, first, rest, ht, fun q hq => hh q (List.mem_cons_of_mem _ hq), href⟩
  · rintro (href | ⟨hfir, held, first, rest, rfl, hh, href⟩)
    · exact ⟨[], record, records, rfl, fun p hp => (by cases hp), href⟩
    · exact ⟨record :: held, first, rest, rfl, List.forall_mem_cons.2 ⟨hfir, hh⟩, href⟩

theorem refusesFirst_congr (h : r'.index = r.index) (records : List (RegistryRecord Snap)) :
    RefusesFirst ops r' records ↔ RefusesFirst ops r records := by
  simp only [RefusesFirst, admission_congr h]

/-- By induction on the records: held ones leave the registry as it was for the rest, a refused one ends the restore, and a
fresh one has lengthened the history for good. -/
theorem restoreRecords_error_iff : ∀ {records : List (RegistryRecord Snap)} {r : SnapshotRegistry Snap} {e : SnapshotPublicationError}
    {r' : SnapshotRegistry Snap}, restoreRecords ops records r = (.error e, r') → (r'.index = r.index ↔ RefusesFirst ops r records)
  | [], r, e, r', h => by cases h
  | record :: records, r, e, r', h => by
    have hpub := @publishAt_publishes _ ops (restoreRequest record) record.publishedAtUnixMs r
    rw [restoreRecords] at h
    generalize hadm : r.admission ops (restoreRequest record) = admission at hpub
    generalize publishAt ops (restoreRequest record) record.publishedAtUnixMs r = out at hpub h
    cases hpub with
    | held hidx =>
      simp only [refusesFirst_cons, hadm, reduceCtorEq, false_or, true_and]
      rw [← refusesFirst_congr hidx, ← hidx]
      exact restoreRecords_error_iff h
    | refused hidx =>
      cases h
      exact iff_of_true hidx (refusesFirst_cons.2 (.inl hadm))
    | @fresh response r₁ hidx =>
      have hr : restoreRecords ops records r₁ = (.error e, r') := h
      refine iff_of_false (fun hs => ?_) (by simp [refusesFirst_cons, hadm])
      have hgro : r₁.history.length = r.history.length + 1 := by
        rw [history_of_index hidx]
        exact List.length_append
      have hle := @restoreRecords_keeps _ ops (fun r => r₁.history.length ≤ r.history.length)
        (fun request now r h => le_trans h publishAt_history_length_le) records r₁ le_rfl
      rw [hr, history_of_index hs, hgro] at hle
      exact Nat.not_succ_le_self _ hle

/-- **A failed `restore_backup` leaves the indexes as they were exactly when the first record of the backup that the registry
does not hold already is the one it refuses**; every fresh record before the failing one stays. -/
theorem restoreBackup_error_unchanged_iff (r : SnapshotRegistry Snap) (backup : BackupBundle Snap) {e : SnapshotPublicationError}
    (h : (restoreBackup ops backup r).1 = .error e) :
    (restoreBackup ops backup r).2.index = r.index ↔ RefusesFirst ops r backup.records := by
  unfold restoreBackup at h ⊢
  rcases hrun : restoreRecords ops backup.records r with ⟨e' | u, r'⟩
  · show r'.index = r.index ↔ _
    exact restoreRecords_error_iff hrun
  · rw [hrun] at h
    cases h

def movedOn : SnapshotRegistry Text := (publishAt digestOps (digestRequest (lit "v2") '2') 1 {}).2

def backupRecord (version : Text) (c : Char) : RegistryRecord Text := publishedRecord digestOps (digestRequest version c) 1

theorem restoreBackup_error_movedOn :
    (restoreBackup digestOps ⟨9, [backupRecord (lit "v2") '3', backupRecord (lit "v1") '1']⟩ movedOn).2.index = movedOn.index :=
  (restoreBackup_error_unchanged_iff movedOn ⟨9, [backupRecord (lit "v2") '3', backupRecord (lit "v1") '1']⟩ (by rfl)).2
    ⟨[], backupRecord (lit "v2") '3', [backupRecord (lit "v1") '1'], rfl, fun p hp => (by cases hp), by rfl⟩

/-- The first record stays although the second one fails the restore. -/
theorem restoreBackup_not_atomic :
    ∃ e, (restoreBackup digestOps ⟨9, [backupRecord (lit "v1") '1', backupRecord (lit "v2") '3']⟩ movedOn).1 = .error e ∧
      (restoreBackup digestOps ⟨9, [backupRecord (lit "v1") '1', backupRecord (lit "v2") '3']⟩ movedOn).2.index ≠ movedOn.index := by
  refine ⟨.conflict (.versionAlreadyExists (lit "v2") (List.replicate 64 '2')), by rfl, fun h => ?_⟩
  have hhis := history_of_index h
  revert hhis
  decide +kernel

end SnapshotRegistry

end WayBalancer
