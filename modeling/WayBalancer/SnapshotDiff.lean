import WayBalancer.Promotion
import WayBalancer.SnapshotRebuild
import WayBalancer.TrustedClientIp
/-!
# SnapshotDiff — what a diff compares and what a digest covers

A digest covers the whole view; a diff compares listeners, routes and clusters by name and fingerprint.  Where JSON and SHA-256
keep the values at hand apart, a diff without changes says that the three lists agree up to their order, and equal digests say
that the views agree.  The impact analysis and the promotion gate read only the diff.
-/
namespace WayBalancer

open Str Word

/-! ## Fingerprints -/

theorem encodeHex_injective : ∀ {xs ys : List UInt8}, encodeHex xs = encodeHex ys → xs = ys
  | [], [], _ => rfl
  | [], y :: ys, h => by
    have hlen := congrArg List.length h
    simp [encodeHex, length_hexPadded] at hlen
    omega
  | x :: xs, [], h => by
    have hlen := congrArg List.length h
    simp [encodeHex, length_hexPadded] at hlen
  | x :: xs, y :: ys, h => by
    have happ : hexPadded 2 x.toNat ++ encodeHex xs = hexPadded 2 y.toNat ++ encodeHex ys := h
    obtain ⟨hhead, ht⟩ := List.append_inj happ ((length_hexPadded _ _).trans (length_hexPadded _ _).symm)
    have hb : x.toNat = y.toNat := hexPadded_inj x.toNat_lt y.toNat_lt hhead
    rw [UInt8.toNat_inj.1 hb, encodeHex_injective ht]

/-- JSON writes each of these values, writes no two of them alike, and SHA-256 has no collision on what it writes. -/
structure SnapshotSerde.Separates (serde : SnapshotSerde) {α : Type} (write : α → Except Text (List UInt8)) (values : List α) :
    Prop where
  writes : ∀ x ∈ values, ∃ payload, write x = .ok payload
  injective : ∀ x ∈ values, ∀ y ∈ values, write x = write y → x = y
  collisionFree : ∀ x ∈ values, ∀ y ∈ values, ∀ p q, write x = .ok p → write y = .ok q → serde.sha256 p = serde.sha256 q → p = q

variable {α : Type} {values : List α} {write : α → Except Text (List UInt8)} {serde : SnapshotSerde}

theorem SnapshotSerde.Separates.fingerprint (h : serde.Separates write values) {x y : α} (hx : x ∈ values) (hy : y ∈ values)
    (hs : resourceFingerprint serde (write x) = resourceFingerprint serde (write y)) : x = y := by
  obtain ⟨p, hp⟩ := h.writes x hx
  obtain ⟨q, hq⟩ := h.writes y hy
  rw [hp, hq] at hs
  have hpay := h.collisionFree x hx y hy p q hp hq (encodeHex_injective hs)
  exact h.injective x hx y hy (by rw [hp, hq, hpay])

/-! ## Diffs -/

/-- **A diff is without changes exactly when the resources are the same up to their order.** -/
theorem diffResources_eq_nil {name fingerprint : α → Text} {describe : α → α → Option Text} {previous next : List α}
    (hp : (previous.map name).Nodup) (hn : (next.map name).Nodup)
    (hfin : ∀ x ∈ previous, ∀ y ∈ next, fingerprint x = fingerprint y → x = y) :
    diffResources name fingerprint describe previous next = [] ↔ previous.Perm next := by
  rw [← SortedMap.get?_ofList_eq_iff_perm hp hn, diffResources, List.filterMap_eq_nil_iff]
  have hmem : ∀ {xs : List α} {k : Text} {x : α}, (xs.map name).Nodup →
      (SortedMap.ofList (xs.map (fun res => (name res, res)))).get? k = some x → x ∈ xs := by
    intro xs k x hxs hget
    rw [SortedMap.get?_ofList_eq_some (by rw [List.map_map]; exact hxs)] at hget
    obtain ⟨y, hy, hpa⟩ := List.mem_map.1 hget
    cases hpa
    exact hy
  have hp' := @hmem previous
  have hn' := @hmem next
  generalize SortedMap.ofList (previous.map (fun res => (name res, res))) = P at hp' ⊢
  generalize SortedMap.ofList (next.map (fun res => (name res, res))) = N at hn' ⊢
  constructor
  · intro h k
    have hk : k ∈ P.keys ∨ k ∈ N.keys → k ∈ (SortedMap.ofList ((P.keys ++ N.keys).map (fun name => (name, ())))).keys := by
      intro hk
      rw [SortedMap.mem_keys_ofList, List.map_map]
      exact List.mem_map.2 ⟨k, List.mem_append.2 hk, rfl⟩
    cases hP : P.get? k with
    | none =>
      cases hN : N.get? k with
      | none => rfl
      | some y =>
        have hadd := h k (hk (.inr (SortedMap.mem_keys.2 (by rw [hN]; rfl))))
        rw [hP, hN] at hadd
        cases hadd
    | some x =>
      have hx := h k (hk (.inl (SortedMap.mem_keys.2 (by rw [hP]; rfl))))
      cases hN : N.get? k with
      | none =>
        rw [hP, hN] at hx
        cases hx
      | some y =>
        simp only [hP, hN, ite_eq_right_iff, reduceCtorEq, imp_false, not_not] at hx
        rw [hfin x (hp' hp hP) y (hn' hn hN) hx]
  · intro h k _
    rw [h k]
    cases N.get? k <;> simp

def SnapshotChanges.NoChange (changes : SnapshotChanges) : Prop :=
  changes.listenerChanges = [] ∧ changes.routeChanges = [] ∧ changes.upstreamClusterChanges = []

/-- The three lists a diff compares are the same up to their order. -/
def WorkspaceSnapshotView.SameResources (a b : WorkspaceSnapshotView) : Prop :=
  a.listeners.Perm b.listeners ∧ a.routes.Perm b.routes ∧ a.upstreamClusters.Perm b.upstreamClusters

def WorkspaceSnapshotView.undigested (view : WorkspaceSnapshotView) : WorkspaceSnapshotView :=
  { view with metadata := { view.metadata with digestSha256 := [] } }

/-- JSON and SHA-256 keep apart what the digests and the diff of these two snapshots are made from. -/
structure SnapshotSerde.SeparatesSnapshots (serde : SnapshotSerde) (a b : WorkspaceSnapshot) : Prop where
  views : serde.Separates serde.view [a.view.undigested, b.view.undigested]
  listeners : serde.Separates serde.listener (a.listeners ++ b.listeners)
  routes : serde.Separates serde.route (a.routes ++ b.routes)
  upstreamClusters : serde.Separates serde.upstreamCluster (a.upstreamClusters ++ b.upstreamClusters)

section
variable {parseCidr : Text → Option IpNet} {serde : SnapshotSerde} {config config' : WorkspaceConfig}
  {a b snapshot : WorkspaceSnapshot}

theorem names_nodup (h : compileWorkspaceSnapshot parseCidr serde config = .ok snapshot) :
    (snapshot.listeners.map (·.name)).Nodup ∧ (snapshot.routes.map (·.name)).Nodup ∧
      (snapshot.upstreamClusters.map (·.name)).Nodup := by
  obtain ⟨-, ls, rules, cs, sha256, hls, hrul, hcls, -, rfl⟩ := compileWorkspaceSnapshot_ok.1 h
  obtain ⟨-, hlistenerNames, -⟩ := compileDistinct_ok.1 hls
  obtain ⟨-, hrouteNames, -⟩ := compileDistinct_ok.1 hrul
  obtain ⟨-, hclusterNames, -⟩ := compileDistinct_ok.1 hcls
  refine ⟨?_, ?_, ?_⟩
  · rw [compileListeners_ok hls, snapshotView_listeners, List.map_map]
    exact hlistenerNames
  · show ((config.routes.map snapshotRoute).map (·.name)).Nodup
    rw [List.map_map]
    exact hrouteNames
  · show ((config.upstreamClusters.map snapshotCluster).map (·.name)).Nodup
    rw [List.map_map]
    exact hclusterNames

theorem SnapshotSerde.Separates.apart {α : Type} {write : α → Except Text (List UInt8)} {xs ys : List α}
    (h : serde.Separates write (xs ++ ys)) : ∀ x ∈ xs, ∀ y ∈ ys,
      resourceFingerprint serde (write x) = resourceFingerprint serde (write y) → x = y :=
  fun _ hx _ hy => h.fingerprint (List.mem_append_left _ hx) (List.mem_append_right _ hy)

theorem noChange_iff (ha : compileWorkspaceSnapshot parseCidr serde config = .ok a)
    (hb : compileWorkspaceSnapshot parseCidr serde config' = .ok b) (hser : serde.SeparatesSnapshots a b) :
    (WorkspaceSnapshot.diff serde a b).NoChange ↔ a.view.SameResources b.view := by
  obtain ⟨hal, har, hac⟩ := names_nodup ha
  obtain ⟨hbl, hbr, hbc⟩ := names_nodup hb
  unfold SnapshotChanges.NoChange WorkspaceSnapshot.diff
  rw [diffResources_eq_nil hal hbl hser.listeners.apart, diffResources_eq_nil har hbr hser.routes.apart,
    diffResources_eq_nil hac hbc hser.upstreamClusters.apart]
  rfl

/-! ## Digests -/

theorem computeDigest_undigested (h : compileWorkspaceSnapshot parseCidr serde config = .ok snapshot) :
    computeDigest serde snapshot.view.undigested = .ok snapshot.metadata.digestSha256 := by
  obtain ⟨-, ls, rules, cs, sha256, -, -, -, hdig, rfl⟩ := compileWorkspaceSnapshot_ok.1 h
  exact hdig

theorem fingerprint_of_computeDigest {view : WorkspaceSnapshotView} {digestSha256 : Text}
    (h : computeDigest serde view = .ok digestSha256) : resourceFingerprint serde (serde.view view) = digestSha256 := by
  unfold computeDigest at h
  cases hv : serde.view view with
  | error e =>
    rw [hv] at h
    cases h
  | ok payload =>
    rw [hv] at h
    cases h
    rfl

variable (ha : compileWorkspaceSnapshot parseCidr serde config = .ok a)
include ha

/-- **Equal digests are equal views.** -/
theorem digest_eq_iff (hb : compileWorkspaceSnapshot parseCidr serde config' = .ok b)
    (hser : serde.Separates serde.view [a.view.undigested, b.view.undigested]) :
    a.metadata.digestSha256 = b.metadata.digestSha256 ↔ a.view.undigested = b.view.undigested := by
  have hda := fingerprint_of_computeDigest (computeDigest_undigested ha)
  have hdb := fingerprint_of_computeDigest (computeDigest_undigested hb)
  rw [← hda, ← hdb]
  constructor
  · intro hs
    exact hser.fingerprint (by simp) (by simp) hs
  · intro hv
    rw [hv]

theorem undigested_eq_iff (hb : compileWorkspaceSnapshot parseCidr serde config' = .ok b) : a.view.undigested = b.view.undigested ↔
      a.workspaceName = b.workspaceName ∧ a.security = b.security ∧ a.policies = b.policies ∧ a.listeners = b.listeners ∧
        a.routes = b.routes ∧ a.upstreamClusters = b.upstreamClusters := by
  obtain ⟨-, ls, rules, cs, sha256, -, -, -, -, rfl⟩ := compileWorkspaceSnapshot_ok.1 ha
  obtain ⟨-, ls', rules', cs', sha256', -, -, -, -, rfl⟩ := compileWorkspaceSnapshot_ok.1 hb
  have hver : config.apiVersion = config'.apiVersion := by
    cases config.apiVersion
    cases config'.apiVersion
    rfl
  simp only [WorkspaceSnapshot.view, WorkspaceSnapshotView.undigested, snapshotView, WorkspaceSnapshotView.mk.injEq, hver, true_and]

end

/-! ## The impact of a diff -/

def SnapshotImpactAnalysis.NothingChanged (analysis : SnapshotImpactAnalysis) : Prop :=
  analysis.listeners = ⟨0, 0, 0⟩ ∧ analysis.routes = ⟨0, 0, 0⟩ ∧ analysis.upstreamClusters = ⟨0, 0, 0⟩

theorem capU32_eq_zero {n : ℕ} : capU32 n = 0 ↔ n = 0 := by
  unfold capU32
  omega

theorem summarizeChangeCounts_eq_zero {changes : List SnapshotChangeKind} :
    summarizeChangeCounts changes = ⟨0, 0, 0⟩ ↔ changes = [] := by
  unfold summarizeChangeCounts
  rw [SnapshotResourceImpactSummary.mk.injEq, capU32_eq_zero, capU32_eq_zero, capU32_eq_zero]
  simp only [List.count_eq_zero]
  constructor
  · rintro ⟨hadd, hrem, hupd⟩
    refine List.eq_nil_iff_forall_not_mem.2 (fun kind hk => ?_)
    cases kind with
    | added => exact hadd hk
    | removed => exact hrem hk
    | updated => exact hupd hk
  · rintro rfl
    simp

theorem nothingChanged_iff (changes : SnapshotChanges) : (analyzeSnapshotImpact changes.toDiff).NothingChanged ↔ changes.NoChange := by
  unfold SnapshotImpactAnalysis.NothingChanged SnapshotChanges.NoChange analyzeSnapshotImpact SnapshotChanges.toDiff
  simp only [summarizeChangeCounts_eq_zero, List.map_eq_nil_iff]

theorem severity_of_nothingChanged {diff : WorkspaceSnapshotDiff} (h : (analyzeSnapshotImpact diff).NothingChanged) :
    (analyzeSnapshotImpact diff).severity = .low := by
  obtain ⟨hls, hrts, hcls⟩ := h
  unfold analyzeSnapshotImpact at *
  dsimp only at *
  simp [hls, hrts, hcls, SnapshotResourceImpactSummary.total, capU32]

theorem PromotionCoordinator.preview_of_found {Snap : Type} {control : SnapshotControlService Snap} {request : PromotionPreviewRequest}
    {base candidate : PublishedSnapshotRecord Snap} (hnam : (trim request.candidateVersion).isEmpty = false)
    (hb : control.baseline request.baselineVersion = .ok base)
    (hcan : control.getVersion (trim request.candidateVersion) = .ok candidate) (c : PromotionCoordinator) :
    ∃ response c', preview control request c = (.ok response, c') ∧
      response.preview.impactAnalysis = analyzeSnapshotImpact (control.diff base.snapshot candidate.snapshot) ∧
      response.requiresStagedApplyAck =
        decide (recommendedStrategy (analyzeSnapshotImpact (control.diff base.snapshot candidate.snapshot)).severity ≠ .immediate) := by
  have hpre : control.previewDiff request.baselineVersion candidate.snapshot =
      .ok ⟨base.version, base.digestSha256, control.digest candidate.snapshot, control.diff base.snapshot candidate.snapshot,
        analyzeSnapshotImpact (control.diff base.snapshot candidate.snapshot)⟩ := by
    rw [SnapshotControlService.previewDiff, hb]
    rfl
  unfold preview
  simp only [hnam, hcan, hpre, Bool.false_eq_true, if_false]
  exact ⟨_, _, rfl, rfl, rfl⟩

/-- What the digest covers and the diff does not agrees as well, if all that the diff compares is the same. -/
def WorkspaceSnapshotView.AgreesBeyondDiff (a b : WorkspaceSnapshotView) : Prop :=
  a.SameResources b →
    a.workspaceName = b.workspaceName ∧ a.security = b.security ∧ a.policies = b.policies ∧ a.listeners = b.listeners ∧
      a.routes = b.routes ∧ a.upstreamClusters = b.upstreamClusters

section
variable {parseCidr : Text → Option IpNet} {serde : SnapshotSerde} {config config' : WorkspaceConfig} {a b : WorkspaceSnapshot}

theorem digest_eq_of_noChange_iff (ha : compileWorkspaceSnapshot parseCidr serde config = .ok a)
    (hb : compileWorkspaceSnapshot parseCidr serde config' = .ok b) (hser : serde.SeparatesSnapshots a b) :
    ((WorkspaceSnapshot.diff serde a b).NoChange → a.metadata.digestSha256 = b.metadata.digestSha256) ↔
      a.view.AgreesBeyondDiff b.view := by
  rw [noChange_iff ha hb hser, digest_eq_iff ha hb hser.views, undigested_eq_iff ha hb]
  rfl

theorem noChange_of_digest_eq (ha : compileWorkspaceSnapshot parseCidr serde config = .ok a)
    (hb : compileWorkspaceSnapshot parseCidr serde config' = .ok b) (hser : serde.SeparatesSnapshots a b)
    (hdig : a.metadata.digestSha256 = b.metadata.digestSha256) : (WorkspaceSnapshot.diff serde a b).NoChange := by
  rw [digest_eq_iff ha hb hser.views, undigested_eq_iff ha hb] at hdig
  obtain ⟨-, -, -, hls, hrts, hcls⟩ := hdig
  refine (noChange_iff ha hb hser).2 ⟨?_, ?_, ?_⟩
  · exact hls ▸ List.Perm.refl a.listeners
  · exact hrts ▸ List.Perm.refl a.routes
  · exact hcls ▸ List.Perm.refl a.upstreamClusters

/-- **A diff without changes means equal digests exactly when the two snapshots also agree in their names, security, policies
and the order of their resources**; so do an impact analysis that counts nothing and a promotion that asks for no
acknowledgement because of it. -/
theorem noChange_iff_digest_eq_iff (ha : compileWorkspaceSnapshot parseCidr serde config = .ok a)
    (hb : compileWorkspaceSnapshot parseCidr serde config' = .ok b) (hserde : serde.SeparatesSnapshots a b) :
    (((WorkspaceSnapshot.diff serde a b).NoChange ↔ a.metadata.digestSha256 = b.metadata.digestSha256) ↔
      a.view.AgreesBeyondDiff b.view) ∧
    (((analyzeSnapshotImpact (WorkspaceSnapshot.diff serde a b).toDiff).NothingChanged →
        a.metadata.digestSha256 = b.metadata.digestSha256) ↔ a.view.AgreesBeyondDiff b.view) ∧
    ∀ (ed25519 : Ed25519) (control : SnapshotRegistry WorkspaceSnapshot) (request : PromotionPreviewRequest)
      (base candidate : PublishedSnapshotRecord WorkspaceSnapshot) (c : PromotionCoordinator),
      (trim request.candidateVersion).isEmpty = false →
      (control.toControl (snapshotOps serde ed25519)).baseline request.baselineVersion = .ok base → base.snapshot = a →
      (control.toControl (snapshotOps serde ed25519)).getVersion (trim request.candidateVersion) = .ok candidate →
      candidate.snapshot = b →
      ∃ response c', PromotionCoordinator.preview (control.toControl (snapshotOps serde ed25519)) request c = (.ok response, c') ∧
        ((response.preview.impactAnalysis.NothingChanged → response.requiresStagedApplyAck = false →
            a.metadata.digestSha256 = b.metadata.digestSha256) ↔ a.view.AgreesBeyondDiff b.view) := by
  have hc := digest_eq_of_noChange_iff ha hb hserde
  refine ⟨⟨fun h => hc.1 h.1, fun h => ⟨hc.2 h, noChange_of_digest_eq ha hb hserde⟩⟩, ?_, ?_⟩
  · rw [nothingChanged_iff, hc]
  · intro ed25519 control request base candidate c hnam hba hbaseSnapshot hcan hcandidateSnapshot
    obtain ⟨response, c', hpre, himp, hsta⟩ := PromotionCoordinator.preview_of_found hnam hba hcan c
    refine ⟨response, c', hpre, ?_⟩
    rw [hbaseSnapshot, hcandidateSnapshot] at himp hsta
    have hd : (control.toControl (snapshotOps serde ed25519)).diff a b = (WorkspaceSnapshot.diff serde a b).toDiff := rfl
    rw [hd] at himp hsta
    rw [himp, hsta, ← hc, ← nothingChanged_iff]
    constructor
    · intro h hnot
      refine h hnot ?_
      rw [severity_of_nothingChanged hnot]
      rfl
    · intro h hnot _
      exact h hnot

end

/-! ### Two workspaces that differ in whom they trust -/

theorem SnapshotSerde.separates_of_payload {payload : α → List UInt8} (hwri : ∀ x, write x = .ok (payload x))
    (hapa : ∀ x ∈ values, ∀ y ∈ values, serde.sha256 (payload x) = serde.sha256 (payload y) → x = y) :
    serde.Separates write values where
  writes x _ := ⟨payload x, hwri x⟩
  injective x hx y hy hs := by
    rw [hwri, hwri] at hs
    exact hapa x hx y hy (by rw [Except.ok.inj hs])
  collisionFree x hx y hy p q hp hq hs := by
    rw [hwri] at hp hq
    cases hp
    cases hq
    rw [hapa x hx y hy hs]

/-- A workspace in development mode with these clusters, whose client addresses come from the networks it trusts. -/
def proxiedWorkspace (clusterNames : List Text) (trustedProxyCidrs : List Text) : WorkspaceConfig where
  security :=
    { insecureDevMode := ⟨true, some (lit "local")⟩
      artifactVerification := { mode := .disabled }
      trustedClientIp := ⟨true, trustedProxyCidrs⟩ }
  upstreamClusters := clusterNames.map (fun name => { name := name, endpoints := [{ id := lit "a", address := ⟨.v4 10 0 0 1, 8080⟩ }] })

def anyCidr (_ : Text) : Option IpNet := some (.v4 0 0 0 0 ⟨0, Nat.zero_lt_succ 32⟩)

/-- Serializers that write names, numbers and the trusted networks, and a digest that repeats the sum of the bytes. -/
def trustSerde : SnapshotSerde where
  view view := .ok (UInt8.ofNat view.upstreamClusters.length :: view.security.trustedClientIp.trustedProxyCidrs.flatMap utf8)
  listener listener := .ok (utf8 listener.name)
  route route := .ok (utf8 route.name)
  upstreamCluster cluster := .ok (utf8 cluster.name)
  sha256 bytes := List.replicate 32 bytes.sum

def proxiedSnapshot (clusterNames : List Text) (trustedProxyCidrs : List Text) : WorkspaceSnapshot :=
  (compileWorkspaceSnapshot anyCidr trustSerde (proxiedWorkspace clusterNames trustedProxyCidrs)).toOption.getD
    ⟨snapshotView (proxiedWorkspace clusterNames trustedProxyCidrs) [] [], [], [], []⟩

theorem addedCluster_digest :
    (WorkspaceSnapshot.diff trustSerde (proxiedSnapshot [lit "a"] []) (proxiedSnapshot [lit "a", lit "b"] [])).NoChange ↔
      (proxiedSnapshot [lit "a"] []).metadata.digestSha256 = (proxiedSnapshot [lit "a", lit "b"] []).metadata.digestSha256 := by
  have ha : compileWorkspaceSnapshot anyCidr trustSerde (proxiedWorkspace [lit "a"] []) = .ok (proxiedSnapshot [lit "a"] []) := rfl
  have hb : compileWorkspaceSnapshot anyCidr trustSerde (proxiedWorkspace [lit "a", lit "b"] []) =
      .ok (proxiedSnapshot [lit "a", lit "b"] []) := rfl
  refine (noChange_iff_digest_eq_iff ha hb ⟨?_, ?_, ?_, ?_⟩).1.2 (fun hs => ?_)
  · exact SnapshotSerde.separates_of_payload (fun _ => rfl) (by decide +kernel)
  · exact SnapshotSerde.separates_of_payload (fun _ => rfl) (by decide +kernel)
  · exact SnapshotSerde.separates_of_payload (fun _ => rfl) (by decide +kernel)
  · exact SnapshotSerde.separates_of_payload (fun _ => rfl) (by decide +kernel)
  · have hlen := hs.2.2.length_eq
    cases hlen

def trustOps : SnapshotOps WorkspaceSnapshot := snapshotOps trustSerde ⟨fun _ => false, fun _ _ _ => false⟩

/-- A registry with the workspace that trusts no network and, after it, the one that trusts all addresses. -/
def trustRegistry : SnapshotRegistry WorkspaceSnapshot :=
  (SnapshotRegistry.publishAt trustOps ⟨lit "v2", proxiedSnapshot [lit "a"] [lit "0.0.0.0/0"], none, none, none, none⟩ 2
    (SnapshotRegistry.publishAt trustOps ⟨lit "v1", proxiedSnapshot [lit "a"] [], none, none, none, none⟩ 1 {}).2).2

/-- Both workspaces compile, their diff is without changes and their digests are not equal; the second is promoted without the
staged acknowledgement. -/
theorem trustedProxies_unnoticed :
    compileWorkspaceSnapshot anyCidr trustSerde (proxiedWorkspace [lit "a"] []) = .ok (proxiedSnapshot [lit "a"] []) ∧
    compileWorkspaceSnapshot anyCidr trustSerde (proxiedWorkspace [lit "a"] [lit "0.0.0.0/0"]) =
      .ok (proxiedSnapshot [lit "a"] [lit "0.0.0.0/0"]) ∧
    (WorkspaceSnapshot.diff trustSerde (proxiedSnapshot [lit "a"] []) (proxiedSnapshot [lit "a"] [lit "0.0.0.0/0"])).NoChange ∧
    (proxiedSnapshot [lit "a"] []).metadata.digestSha256 ≠ (proxiedSnapshot [lit "a"] [lit "0.0.0.0/0"]).metadata.digestSha256 ∧
    ∃ response w, PromotionCoordinator.apply trustOps (noopSnapshotActivationHook WorkspaceSnapshot) trustRegistry
        ⟨⟨lit "v2", some (lit "v1"), none, none⟩, false⟩ (.ok 3) { node := { dataplane := { hookState := () } } } = (.ok response, w) ∧
      response.preview.preview.impactAnalysis.NothingChanged ∧ response.preview.requiresStagedApplyAck = false ∧
      response.rollout.activeVersion = lit "v2" :=
  ⟨rfl, rfl, ⟨rfl, rfl, rfl⟩, by decide +kernel, _, _, rfl, ⟨rfl, rfl, rfl⟩, rfl, rfl⟩

end WayBalancer
