import WayBalancer.SnapshotCoherence
import WayBalancer.SnapshotRebuild
/-!
# DurableRoundTrip — a registry exported as a durable state and restored from it

An export lists the records in the order of the history with each snapshot as its view; a restore rebuilds the snapshots and
takes the records one after another into an empty registry.  For a coherent registry whose snapshots come back from their views,
this gives back all three indexes.  A workspace's snapshot comes back exactly when none of its clusters is without endpoints.
-/
namespace WayBalancer

open Str Word
open SortedMap (eq_of_get? get?_insert ofList)
open List (map_cons map_map mem_cons_of_mem mem_cons_self mem_map)
open Proc (except_bind_ok ite_error_ok)

/-- A codec that reads back this state from what it wrote. -/
def DurableCodec.RoundTrips {View : Type} (codec : DurableCodec View) (state : RegistryDurableState View) : Prop :=
  ∃ json, codec.toStringPretty state = .ok json ∧ codec.fromStr json = .ok state

namespace SnapshotRegistry

section
variable {Snap View ε : Type} {ops : SnapshotOps Snap} {views : SnapshotViews Snap View ε} {codec : DurableCodec View}
  {r r' : SnapshotRegistry Snap}

theorem tryIntoRecord_view {record : RegistryRecord Snap} (h : views.fromView (views.view record.snapshot) = .ok record.snapshot) :
    DurableRecord.tryIntoRecord views (record.mapSnapshot views.view) = .ok record :=
  congrArg (Except.map _) h

theorem restoreRecord_fresh {record : RegistryRecord Snap} (hval : validatePublishRequest ops (restoreRequest record) = .ok ())
    (hver : r.recordsByVersion.get? record.version = none) (hdig : r.versionByDigest.get? record.digestSha256 = none) :
    ∃ r', restoreRecord ops record r = .ok r' ∧ r'.index = (r.addRecord record).index := by
  unfold restoreRecord
  simp only [hval, hver, hdig]
  exact ⟨_, rfl, rfl⟩

theorem publishedRecord_snapshot (request : SnapshotPublishRequest Snap) (now : ℕ) :
    (publishedRecord ops request now).snapshot = request.snapshot := rfl

theorem record_of_publishAt {request : SnapshotPublishRequest Snap} {now : ℕ} {v : Text} {record : RegistryRecord Snap}
    (h : (publishAt ops request now r).2.recordsByVersion.get? v = some record) :
    r.recordsByVersion.get? v = some record ∨ record = publishedRecord ops request now := by
  rcases publishAt_index with hs | ⟨-, hadd⟩
  · rw [(Prod.mk.inj hs).1] at h
    exact .inl h
  · rw [(Prod.mk.inj hadd).1] at h
    have hins : (r.recordsByVersion.insert request.version (publishedRecord ops request now)).get? v = some record := h
    rw [get?_insert] at hins
    split at hins
    · exact .inr (Option.some.inj hins).symm
    · exact .inl hins

/-! ## The records taken in turn -/

def indexWith (r : SnapshotRegistry Snap) (records : List (RegistryRecord Snap)) :
    SortedMap Text (RegistryRecord Snap) × SortedMap Text Text × List Text :=
  (records.foldl (fun m record => m.insert record.version record) r.recordsByVersion,
    records.foldl (fun m record => m.insert record.digestSha256 record.version) r.versionByDigest,
    r.history ++ records.map (·.version))

theorem indexWith_cons {record : RegistryRecord Snap} {records : List (RegistryRecord Snap)} (h : r'.index = (r.addRecord record).index) :
    r'.indexWith records = r.indexWith (record :: records) := by
  obtain ⟨hr, hre⟩ := Prod.mk.inj h
  obtain ⟨hdig, hhis⟩ := Prod.mk.inj hre
  simp only [indexWith, hr, hdig, hhis]
  simp only [addRecord, List.foldl_cons, map_cons, List.append_assoc, List.singleton_append]

/-- Records that a registry can take: they are valid, come back from their views, and no two of them, nor one of them and one
of the registry's, share a version or a digest. -/
structure Restorable (ops : SnapshotOps Snap) (views : SnapshotViews Snap View ε) (r : SnapshotRegistry Snap)
    (records : List (RegistryRecord Snap)) : Prop where
  rebuilt : ∀ record ∈ records, views.fromView (views.view record.snapshot) = .ok record.snapshot
  valid : ∀ record ∈ records, validatePublishRequest ops (restoreRequest record) = .ok ()
  versions_nodup : (records.map (·.version)).Nodup
  digests_nodup : (records.map (·.digestSha256)).Nodup
  version_new : ∀ record ∈ records, r.recordsByVersion.get? record.version = none
  digest_new : ∀ record ∈ records, r.versionByDigest.get? record.digestSha256 = none

theorem Restorable.tail {record : RegistryRecord Snap} {records : List (RegistryRecord Snap)}
    (h : Restorable ops views r (record :: records)) (hidx : r'.index = (r.addRecord record).index) :
    Restorable ops views r' records := by
  obtain ⟨hr, hre⟩ := Prod.mk.inj hidx
  obtain ⟨hdig, -⟩ := Prod.mk.inj hre
  have hver := List.nodup_cons.1 h.versions_nodup
  have hdigestsNodup := List.nodup_cons.1 h.digests_nodup
  refine ⟨fun p hp => h.rebuilt p (mem_cons_of_mem _ hp), fun p hp => h.valid p (mem_cons_of_mem _ hp), hver.2,
    hdigestsNodup.2, fun p hp => ?_, fun p hp => ?_⟩
  · have hne : p.version ≠ record.version := fun hs => hver.1 (mem_map.2 ⟨p, hp, hs⟩)
    rw [hr]
    show (r.recordsByVersion.insert record.version record).get? p.version = none
    convert (get?_insert r.recordsByVersion record.version p.version record).trans (if_neg hne) using 1
    exact (h.version_new p (mem_cons_of_mem _ hp)).symm
  · have hne : p.digestSha256 ≠ record.digestSha256 := fun hs => hdigestsNodup.1 (mem_map.2 ⟨p, hp, hs⟩)
    rw [hdig]
    show (r.versionByDigest.insert record.digestSha256 record.version).get? p.digestSha256 = none
    rw [get?_insert, if_neg hne]
    exact h.digest_new p (mem_cons_of_mem _ hp)

theorem restoreDurableRecords_restorable : ∀ {records : List (RegistryRecord Snap)} {r : SnapshotRegistry Snap},
    Restorable ops views r records →
    ∃ r', restoreDurableRecords ops views (records.map (RegistryRecord.mapSnapshot views.view)) r = .ok r' ∧
      r'.index = r.indexWith records
  | [], r, _ => ⟨r, rfl, by simp [index, indexWith]⟩
  | record :: records, r, h => by
    obtain ⟨r₁, hres, hidx⟩ := restoreRecord_fresh (h.valid record mem_cons_self)
      (h.version_new record mem_cons_self) (h.digest_new record mem_cons_self)
    obtain ⟨r', hr, hidx'⟩ := restoreDurableRecords_restorable (h.tail hidx)
    refine ⟨r', ?_, hidx'.trans (indexWith_cons hidx)⟩
    rw [map_cons, restoreDurableRecords, tryIntoRecord_view (h.rebuilt record mem_cons_self)]
    refine except_bind_ok.2 ⟨record, rfl, except_bind_ok.2 ⟨r₁, ?_, hr⟩⟩
    exact Proc.except_mapError_ok.2 hres

theorem restoreDurableRecords_rebuilds : ∀ {records : List (DurableRecord View)} {r r' : SnapshotRegistry Snap},
    restoreDurableRecords ops views records r = .ok r' → ∀ record ∈ records, ∃ snapshot, views.fromView record.snapshot = .ok snapshot
  | [], _, _, _, record, hmem => by cases hmem
  | first :: records, r, r', hrun, record, hmem => by
    obtain ⟨record', hrec, hrun⟩ := except_bind_ok.1 hrun
    obtain ⟨r₁, -, hrun⟩ := except_bind_ok.1 hrun
    rcases List.mem_cons.1 hmem with rfl | hmem
    · rw [DurableRecord.tryIntoRecord] at hrec
      cases hv : views.fromView record.snapshot with
      | error e =>
        rw [hv] at hrec
        cases hrec
      | ok snapshot => exact ⟨snapshot, rfl⟩
    · exact restoreDurableRecords_rebuilds hrun record hmem

/-! ## The records of a coherent registry -/

namespace Coherent

variable (h : Coherent ops r)
include h

theorem mem_listedRecords {record : RegistryRecord Snap} :
    record ∈ r.listedRecords ↔ r.recordsByVersion.get? record.version = some record := by
  unfold listedRecords
  rw [List.mem_filterMap]
  constructor
  · rintro ⟨v, -, hv⟩
    rw [h.version_eq v record hv]
    exact hv
  · intro hget
    exact ⟨record.version, (h.mem_history _).2 (by rw [hget]; rfl), hget⟩

theorem map_version_listedRecords : r.listedRecords.map (·.version) = r.history := by
  have hlis : ∀ vs : List Text, (∀ v ∈ vs, v ∈ r.history) → (vs.filterMap r.recordsByVersion.get?).map (·.version) = vs := by
    intro vs hvs
    induction vs with
    | nil => rfl
    | cons v vs ih =>
      obtain ⟨record, hrec⟩ := Option.isSome_iff_exists.1 ((h.mem_history v).1 (hvs v mem_cons_self))
      rw [List.filterMap_cons_some hrec, map_cons, h.version_eq v record hrec, ih (fun w hw => hvs w (mem_cons_of_mem _ hw))]
  exact hlis r.history (fun _ hv => hv)

theorem digests_nodup : (r.listedRecords.map (·.digestSha256)).Nodup := by
  have hver : (r.listedRecords.map (·.version)).Nodup := by
    rw [h.map_version_listedRecords]
    exact h.history_nodup
  refine List.Nodup.map_on (fun p hp q hq hs => ?_) (List.Nodup.of_map _ hver)
  -- two records of one digest are listed under one version
  have hp' := h.mem_listedRecords.1 hp
  have hq' := h.mem_listedRecords.1 hq
  have hpd := (h.digest_iff p.digestSha256 p.version).2 ⟨p, hp', rfl⟩
  have hqd := (h.digest_iff p.digestSha256 q.version).2 ⟨q, hq', hs.symm⟩
  rw [hpd] at hqd
  rw [Option.some.inj hqd, hq'] at hp'
  exact (Option.some.inj hp').symm

theorem restorable (hreb : ∀ record ∈ r.listedRecords, views.fromView (views.view record.snapshot) = .ok record.snapshot) :
    Restorable ops views {} r.listedRecords where
  rebuilt := hreb
  valid record hrec := h.valid record.version record (h.mem_listedRecords.1 hrec)
  versions_nodup := by
    rw [h.map_version_listedRecords]
    exact h.history_nodup
  digests_nodup := h.digests_nodup
  version_new _ _ := rfl
  digest_new _ _ := rfl

/-- **The listed records give back the indexes**, whatever order the maps were filled in before. -/
theorem indexWith_listedRecords : ({} : SnapshotRegistry Snap).indexWith r.listedRecords = r.index := by
  have hver : ((r.listedRecords.map (fun record => (record.version, record))).map (·.1)).Nodup := by
    rw [map_map]
    exact (congrArg List.Nodup h.map_version_listedRecords).mpr h.history_nodup
  have hdig : ((r.listedRecords.map (fun record => (record.digestSha256, record.version))).map (·.1)).Nodup := by
    rw [map_map]
    exact h.digests_nodup
  refine Prod.ext ?_ (Prod.ext ?_ ?_)
  · refine Eq.trans (b := ofList (r.listedRecords.map (fun record => (record.version, record)))) ?_ ?_
    · simp only [indexWith, ofList, List.foldl_map]
    · refine eq_of_get? (fun v => Option.ext fun record => ?_)
      rw [SortedMap.get?_ofList_eq_some hver, mem_map]
      constructor
      · rintro ⟨p, hp, hpa⟩
        cases hpa
        exact h.mem_listedRecords.1 hp
      · intro hget
        have hv := h.version_eq v record hget
        refine ⟨record, h.mem_listedRecords.2 (hv ▸ hget), by rw [hv]⟩
  · refine Eq.trans (b := ofList (r.listedRecords.map (fun record => (record.digestSha256, record.version)))) ?_ ?_
    · simp only [indexWith, ofList, List.foldl_map]
    · refine eq_of_get? (fun d => Option.ext fun v => ?_)
      rw [SortedMap.get?_ofList_eq_some hdig, mem_map, index, h.digest_iff]
      constructor
      · rintro ⟨p, hp, hpa⟩
        cases hpa
        exact ⟨p, h.mem_listedRecords.1 hp, rfl⟩
      · rintro ⟨record, hget, rfl⟩
        have hv := h.version_eq v record hget
        exact ⟨record, h.mem_listedRecords.2 (hv ▸ hget), by rw [hv]⟩
  · exact h.map_version_listedRecords

end Coherent

/-! ## The round trip -/

theorem Coherent.restore_export (h : Coherent ops r) {maxAuditEvents : ℕ}
    (hcod : codec.RoundTrips (r.durableState views maxAuditEvents))
    (hreb : ∀ record ∈ r.listedRecords, views.fromView (views.view record.snapshot) = .ok record.snapshot) :
    ∃ envelope r', r.exportDurableStateWithRetention views codec maxAuditEvents = .ok envelope ∧
      restoreDurableStateWithRetention ops views codec envelope maxAuditEvents = .ok r' ∧ r'.index = r.index := by
  obtain ⟨json, hwri, hr⟩ := hcod
  obtain ⟨r₁, hre, hidx⟩ := restoreDurableRecords_restorable (h.restorable hreb)
  refine ⟨⟨snapshotRegistryStateVersion, json, codec.sha256Hex (utf8 json)⟩, { r₁ with
      auditEvents := prunePublishEvents (r.durableState views maxAuditEvents).auditEvents maxAuditEvents
      metrics := { r₁.metrics with
        restoreSuccessCount := satAdd r₁.metrics.restoreSuccessCount 1
        activeRegistrySize := r₁.recordsByVersion.size } }, ?_, ?_, hidx.trans h.indexWith_listedRecords⟩
  · exact except_bind_ok.2 ⟨json, Proc.except_mapError_ok.2 hwri, rfl⟩
  · refine ite_error_ok.2 ⟨fun hne => hne rfl, ite_error_ok.2 ⟨fun hne => hne rfl, ?_⟩⟩
    exact except_bind_ok.2 ⟨_, Proc.except_mapError_ok.2 hr, except_bind_ok.2 ⟨r₁, hre, rfl⟩⟩

theorem rebuilds_of_restore {maxAuditEvents : ℕ} {envelope : RegistryDurableEnvelope}
    (hcod : codec.RoundTrips (r.durableState views maxAuditEvents))
    (hexp : r.exportDurableStateWithRetention views codec maxAuditEvents = .ok envelope)
    (hres : restoreDurableStateWithRetention ops views codec envelope maxAuditEvents = .ok r') :
    ∀ record ∈ r.listedRecords, ∃ snapshot, views.fromView (views.view record.snapshot) = .ok snapshot := by
  obtain ⟨json, hwri, hr⟩ := hcod
  obtain ⟨json', hwri', henv⟩ := except_bind_ok.1 hexp
  rw [hwri] at hwri'
  cases hwri'
  cases henv
  obtain ⟨-, hres⟩ := ite_error_ok.1 hres
  obtain ⟨-, hres⟩ := ite_error_ok.1 hres
  obtain ⟨payload, hpay, hres⟩ := except_bind_ok.1 hres
  obtain ⟨r₁, hre, -⟩ := except_bind_ok.1 hres
  rw [hr] at hpay
  cases hpay
  intro record hrec
  exact restoreDurableRecords_rebuilds hre _ (mem_map.2 ⟨record, hrec, rfl⟩)

end

/-! ## Registries of workspace snapshots -/

section
variable {parseCidr : Text → Option IpNet} {serde : SnapshotSerde} {ed25519 : Ed25519}
  {codec : DurableCodec WorkspaceSnapshotView} {r : SnapshotRegistry WorkspaceSnapshot}

theorem fromView_ok_iff {config : WorkspaceConfig} {snapshot : WorkspaceSnapshot}
    (h : compileWorkspaceSnapshot parseCidr serde config = .ok snapshot) :
    (∃ rebuilt, WorkspaceSnapshot.fromView parseCidr serde snapshot.view = .ok rebuilt) ↔ snapshot.view.HasEndpoints := by
  constructor
  · rintro ⟨rebuilt, hreb⟩
    by_contra he
    obtain ⟨report, hrep⟩ := fromView_view_error h he
    rw [hrep] at hreb
    cases hreb
  · intro he
    exact ⟨snapshot, fromView_view h he⟩

/-- **A registry survives its durable state exactly when no cluster of its snapshots is without endpoints**: a cluster that only
discovery feeds is accepted, but the view leaves the discovery out and the snapshot cannot be rebuilt. -/
theorem durableState_roundTrip_iff (hreach : Reachable (snapshotOps serde ed25519) (snapshotViews serde parseCidr) codec r)
    (hcompiled : ∀ v record, r.recordsByVersion.get? v = some record →
      ∃ config, compileWorkspaceSnapshot parseCidr serde config = .ok record.snapshot)
    (hcodec : codec.RoundTrips (r.durableState (snapshotViews serde parseCidr) defaultMaxPersistedAuditEvents)) :
    ((∃ envelope r', r.exportDurableState (snapshotViews serde parseCidr) codec = .ok envelope ∧
        restoreDurableState (snapshotOps serde ed25519) (snapshotViews serde parseCidr) codec envelope = .ok r' ∧
        r'.history = r.history ∧ r'.recordsByVersion = r.recordsByVersion ∧ r'.versionByDigest = r.versionByDigest) ↔
      ∀ v record, r.recordsByVersion.get? v = some record → record.snapshot.view.HasEndpoints) ∧
    ∀ config snapshot, compileWorkspaceSnapshot parseCidr serde config = .ok snapshot →
      ((∃ rebuilt, WorkspaceSnapshot.fromView parseCidr serde snapshot.view = .ok rebuilt ∧ rebuilt.view = snapshot.view ∧
          rebuilt.metadata.digestSha256 = snapshot.metadata.digestSha256) ↔
        ∀ cluster ∈ config.upstreamClusters, cluster.endpoints ≠ []) := by
  have hcoh := hreach.coherent
  refine ⟨⟨?_, fun he => ?_⟩, fun config snapshot hcmp => ?_⟩
  · rintro ⟨envelope, r', hexp, hres, -⟩ v record hget
    obtain ⟨config, hcmp⟩ := hcompiled v record hget
    have hlis : record ∈ r.listedRecords := hcoh.mem_listedRecords.2 (hcoh.version_eq v record hget ▸ hget)
    exact (fromView_ok_iff hcmp).1 (rebuilds_of_restore hcodec hexp hres record hlis)
  · have hreb : ∀ record ∈ r.listedRecords,
        WorkspaceSnapshot.fromView parseCidr serde record.snapshot.view = .ok record.snapshot := by
      intro record hlis
      have hget := hcoh.mem_listedRecords.1 hlis
      obtain ⟨config, hcmp⟩ := hcompiled _ record hget
      exact fromView_view hcmp (he _ record hget)
    obtain ⟨envelope, r', hexp, hres, hidx⟩ := hcoh.restore_export hcodec hreb
    obtain ⟨hr, hre⟩ := Prod.mk.inj hidx
    obtain ⟨hdig, hhis⟩ := Prod.mk.inj hre
    exact ⟨envelope, r', hexp, hres, hhis, hr, hdig⟩
  · obtain ⟨-, ls, rules, cs, sha256, -, -, -, -, hsna⟩ := compileWorkspaceSnapshot_ok.1 hcmp
    have he : snapshot.view.HasEndpoints ↔ ∀ cluster ∈ config.upstreamClusters, cluster.endpoints ≠ [] := by
      rw [hsna]
      exact hasEndpoints_snapshotView
    rw [← he]
    constructor
    · rintro ⟨rebuilt, hreb, -⟩
      exact (fromView_ok_iff hcmp).1 ⟨rebuilt, hreb⟩
    · intro hv
      exact ⟨snapshot, fromView_view hcmp hv, rfl, rfl⟩

end

/-! ### One published version -/

variable (cluster : UpstreamClusterConfig)

def devWorkspace : WorkspaceConfig where
  security := { insecureDevMode := ⟨true, some (lit "local")⟩, artifactVerification := { mode := .disabled } }
  upstreamClusters := [cluster]

def listedCluster : UpstreamClusterConfig where
  name := lit "backends"
  endpoints := [{ id := lit "a", address := ⟨.v4 10 0 0 1, 8080⟩ }]

def discoveredCluster : UpstreamClusterConfig where
  name := lit "backends"
  endpoints := []
  discovery := some (.dnsSrv (lit "_http._tcp.backends") 30)

/-- Serializers that write names, and a digest that repeats the sum of the bytes. -/
def nameSerde : SnapshotSerde where
  view view := .ok (utf8 view.workspaceName)
  listener listener := .ok (utf8 listener.name)
  route route := .ok (utf8 route.name)
  upstreamCluster cluster := .ok (utf8 cluster.name)
  sha256 bytes := List.replicate 32 bytes.sum

def noKeys : Ed25519 := ⟨fun _ => false, fun _ _ _ => false⟩

def noCidr (_ : Text) : Option IpNet := none

def devSnapshot : WorkspaceSnapshot :=
  (compileWorkspaceSnapshot noCidr nameSerde (devWorkspace cluster)).toOption.getD
    ⟨snapshotView (devWorkspace cluster) [] [], [], [], []⟩

def devRequest : SnapshotPublishRequest WorkspaceSnapshot :=
  ⟨lit "v1", devSnapshot cluster, none, none, none, none⟩

def devRegistry : SnapshotRegistry WorkspaceSnapshot :=
  (publishAt (snapshotOps nameSerde noKeys) (devRequest cluster) 1 {}).2

/-- A codec that knows the state of this registry. -/
def devCodec : DurableCodec WorkspaceSnapshotView where
  toStringPretty _ := .ok (lit "state")
  fromStr _ := .ok ((devRegistry cluster).durableState (snapshotViews nameSerde noCidr) defaultMaxPersistedAuditEvents)
  sha256Hex _ := List.replicate 64 '0'

theorem devRegistry_reachable :
    Reachable (snapshotOps nameSerde noKeys) (snapshotViews nameSerde noCidr) (devCodec cluster) (devRegistry cluster) :=
  .published (devRequest cluster) 1 .new

theorem devCodec_roundTrips : (devCodec cluster).RoundTrips
      ((devRegistry cluster).durableState (snapshotViews nameSerde noCidr) defaultMaxPersistedAuditEvents) :=
  ⟨lit "state", rfl, rfl⟩

theorem devRegistry_snapshot {cluster : UpstreamClusterConfig} {v : Text} {record : RegistryRecord WorkspaceSnapshot}
    (h : (devRegistry cluster).recordsByVersion.get? v = some record) : record.snapshot = devSnapshot cluster := by
  unfold devRegistry at h
  rcases record_of_publishAt h with hold | hnew
  · cases hold
  · rw [hnew, publishedRecord_snapshot, devRequest]

theorem listedRegistry_roundTrip : ∃ envelope r',
    (devRegistry listedCluster).exportDurableState (snapshotViews nameSerde noCidr) (devCodec listedCluster) = .ok envelope ∧
    restoreDurableState (snapshotOps nameSerde noKeys) (snapshotViews nameSerde noCidr) (devCodec listedCluster) envelope = .ok r' ∧
    r'.history = (devRegistry listedCluster).history ∧
    r'.recordsByVersion = (devRegistry listedCluster).recordsByVersion ∧
    r'.versionByDigest = (devRegistry listedCluster).versionByDigest := by
  refine (durableState_roundTrip_iff (devRegistry_reachable listedCluster) (fun v record hget => ?_)
    (devCodec_roundTrips listedCluster)).1.2 (fun v record hget => ?_)
  · rw [devRegistry_snapshot hget]
    exact ⟨devWorkspace listedCluster, rfl⟩
  · rw [devRegistry_snapshot hget]
    exact show (devSnapshot listedCluster).view.HasEndpoints by decide +kernel

/-- The workspace is accepted and its snapshot published, and the registry does not come back. -/
theorem discoveredRegistry_lost :
    (devWorkspace discoveredCluster).validate noCidr = .ok () ∧
    compileWorkspaceSnapshot noCidr nameSerde (devWorkspace discoveredCluster) = .ok (devSnapshot discoveredCluster) ∧
    (devRegistry discoveredCluster).history = [lit "v1"] ∧
    ∃ envelope, (devRegistry discoveredCluster).exportDurableState (snapshotViews nameSerde noCidr) (devCodec discoveredCluster) =
        .ok envelope ∧
      restoreDurableState (snapshotOps nameSerde noKeys) (snapshotViews nameSerde noCidr) (devCodec discoveredCluster) envelope =
        .error (.snapshotCompile (.validation ⟨[upstreamField (lit "upstream_clusters[0].endpoints")
          (lit "upstream cluster backends must declare static endpoints or a discovery source")]⟩)) :=
  ⟨rfl, rfl, rfl, _, rfl, rfl⟩

end SnapshotRegistry

end WayBalancer
