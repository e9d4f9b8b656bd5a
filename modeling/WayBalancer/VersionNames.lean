import WayBalancer.SnapshotCoherence
import WayBalancer.TextTrim
/-!
# VersionNames — the names versions are stored under

`validate_publish_request` checks a version without the white space around it, and the registry stores it with it.  A stored
name is well formed exactly where the two agree, so the names stay well formed over a run as long as no version that is taken
in is padded.
-/
namespace WayBalancer

open Str

theorem isVersionByte_plain {b : UInt8} (h : isVersionByte b = true) : b.toNat < 128 ∧ isWhitespace (byteChar b) = false := by
  revert h
  apply byte_of_table _ b
  decide +kernel

theorem not_whitespace_of_version {v : Text} (h : (utf8 v).all isVersionByte = true) {c : Char} (hc : c ∈ v) :
    isWhitespace c = false := by
  have hne : utf8 [c] ≠ [] := fun e => absurd (utf8_injective (e.trans (by rfl : [] = utf8 []))) (List.cons_ne_nil c [])
  obtain ⟨b, rest, hby⟩ := List.exists_cons_of_ne_nil hne
  have hb : b ∈ utf8 [c] := hby ▸ List.mem_cons_self
  have hmem : b ∈ utf8 v := List.mem_flatMap.2 ⟨c, hc, by simpa [utf8] using hb⟩
  obtain ⟨hasc, hpla⟩ := isVersionByte_plain (List.all_eq_true.1 h b hmem)
  rw [← List.mem_singleton.1 (byteChar_mem_of_mem_utf8 hasc hb)]
  exact hpla

theorem trim_eq_self {v : Text} (h : ∀ c ∈ v, isWhitespace c = false) : trim v = v := by
  cases v with
  | nil => rfl
  | cons c rest =>
    rw [trim_cons (h c List.mem_cons_self), trimEnd_eq_self.2]
    exact fun d hd => h d (List.mem_cons_of_mem c (List.mem_of_getLast? hd))

namespace SnapshotRegistry

variable {Snap View ε : Type} {ops : SnapshotOps Snap} {views : SnapshotViews Snap View ε} {codec : DurableCodec View}
  {r r' : SnapshotRegistry Snap}

def IsVersionName (v : Text) : Prop := 1 ≤ byteLen v ∧ byteLen v ≤ maxVersionLen ∧ (utf8 v).all isVersionByte = true

/-- Every version is stored under a well formed name, and no two differ in the white space around them only. -/
def WellNamed (r : SnapshotRegistry Snap) : Prop :=
  (∀ v ∈ r.recordsByVersion.keys, IsVersionName v) ∧
    ∀ v ∈ r.recordsByVersion.keys, ∀ w ∈ r.recordsByVersion.keys, trim v = trim w → v = w

theorem Coherent.wellNamed_iff (h : Coherent ops r) : WellNamed r ↔ ∀ v ∈ r.history, trim v = v := by
  have hk : ∀ v, v ∈ r.recordsByVersion.keys ↔ v ∈ r.history := fun v => by rw [h.mem_history, SortedMap.mem_keys]
  simp only [WellNamed, hk]
  constructor
  · intro hns v hv
    exact trim_eq_self fun c hc => not_whitespace_of_version (hns.1 v hv).2.2 hc
  · intro ht
    refine ⟨fun v hv => ?_, fun v hv w hw hs => by rwa [ht v hv, ht w hw] at hs⟩
    obtain ⟨record, hrec⟩ := Option.isSome_iff_exists.1 ((h.mem_history v).1 hv)
    obtain ⟨⟨hne, hlen, hby, -⟩, -⟩ := validatePublishRequest_ok.1 (h.valid v record hrec)
    rw [show trim (restoreRequest record).version = v by
      rw [← ht v hv, ← h.version_eq v record hrec]; rfl] at hne hlen hby
    refine ⟨?_, hlen, hby⟩
    cases v with
    | nil => cases hne
    | cons c rest =>
      have hfir : 1 ≤ (String.utf8EncodeChar c).length := by
        rw [String.length_utf8EncodeChar]
        exact Char.utf8Size_pos c
      rw [byteLen, utf8, List.flatMap_cons, List.length_append]
      omega

/-! ## Calls -/

inductive RegistryCall (Snap : Type)
  | publish (request : SnapshotPublishRequest Snap) (now : ℕ)
  | exportBackup (now : ℕ)
  | restoreBackup (backup : BackupBundle Snap)
  | restoreDurableState (envelope : RegistryDurableEnvelope) (maxAuditEvents : ℕ)

section
variable (ops views codec)

/-- The registry after a call; a durable state that cannot be restored is no registry. -/
def RegistryCall.run (call : RegistryCall Snap) (r : SnapshotRegistry Snap) : SnapshotRegistry Snap :=
  match call with
  | .publish request now => (publishAt ops request now r).2
  | .exportBackup now => (exportBackupAt now r).2
  | .restoreBackup backup => (SnapshotRegistry.restoreBackup ops backup r).2
  | .restoreDurableState envelope maxAuditEvents =>
    match restoreDurableStateWithRetention ops views codec envelope maxAuditEvents with
    | .ok r'   => r'
    | .error _ => r

def runCalls (calls : List (RegistryCall Snap)) : SnapshotRegistry Snap :=
  calls.foldl (fun r call => call.run ops views codec r) {}

/-- A request that is taken in as new has no white space around its version. -/
def TakesPlain (request : SnapshotPublishRequest Snap) (r : SnapshotRegistry Snap) : Prop :=
  r.admission ops request = .fresh → trim request.version = request.version

/-- The same for the records of a backup, each at the registry it comes to. -/
def TakesPlainRecords : List (RegistryRecord Snap) → SnapshotRegistry Snap → Prop
  | [], _                => True
  | record :: records, r => TakesPlain ops (restoreRequest record) r ∧
    ∀ response r', publishAt ops (restoreRequest record) record.publishedAtUnixMs r = (.ok response, r') →
      TakesPlainRecords records r'

/-- The same for a call; a durable state is taken in as a whole or not at all. -/
def RegistryCall.TakesPlain (r : SnapshotRegistry Snap) : RegistryCall Snap → Prop
  | .publish request _ => SnapshotRegistry.TakesPlain ops request r
  | .exportBackup _ => True
  | .restoreBackup backup => TakesPlainRecords ops backup.records r
  | .restoreDurableState envelope maxAuditEvents => ∀ payload, codec.fromStr envelope.payloadJson = .ok payload →
      (restoreDurableStateWithRetention ops views codec envelope maxAuditEvents).isOk = true →
      ∀ record ∈ payload.records, trim record.version = record.version

end

theorem history_publishAt_plain (request : SnapshotPublishRequest Snap) (now : ℕ) (r : SnapshotRegistry Snap) :
    (∀ v ∈ (publishAt ops request now r).2.history, trim v = v) ↔ (∀ v ∈ r.history, trim v = v) ∧ TakesPlain ops request r := by
  have h := @publishAt_publishes _ ops request now r
  unfold TakesPlain
  generalize r.admission ops request = admission, publishAt ops request now r = out at h ⊢
  cases h with
  | held h | refused h =>
    rw [history_of_index h]
    exact ⟨fun hr => ⟨hr, fun e => by cases e⟩, And.left⟩
  | fresh h =>
    rw [history_of_index h]
    show (∀ v ∈ r.history ++ [request.version], trim v = v) ↔ _
    rw [List.forall_mem_append, List.forall_mem_singleton]
    exact and_congr_right fun _ => ⟨fun ht _ => ht, fun ht => ht rfl⟩

theorem history_restoreRecords_plain : ∀ {records : List (RegistryRecord Snap)} {r : SnapshotRegistry Snap},
    (∀ v ∈ (restoreRecords ops records r).2.history, trim v = v) ↔ (∀ v ∈ r.history, trim v = v) ∧ TakesPlainRecords ops records r
  | [], _ => (and_iff_left trivial).symm
  | record :: records, r => by
    have hs := @history_publishAt_plain Snap ops (restoreRequest record) record.publishedAtUnixMs r
    rw [restoreRecords, TakesPlainRecords, ← and_assoc, ← hs]
    rcases hpub : publishAt ops (restoreRequest record) record.publishedAtUnixMs r with ⟨e | response, r'⟩
    · exact ⟨fun h => ⟨h, fun _ _ e => by cases e⟩, And.left⟩
    · rw [history_restoreRecords_plain]
      refine and_congr_right fun _ => ⟨fun h _ _ e => ?_, fun h => h response r' rfl⟩
      cases e
      exact h

theorem history_restoreBackup (backup : BackupBundle Snap) (r : SnapshotRegistry Snap) :
    (restoreBackup ops backup r).2.history = (restoreRecords ops backup.records r).2.history := by
  unfold restoreBackup
  rcases restoreRecords ops backup.records r with ⟨e | u, r'⟩ <;> rfl

theorem history_restoreDurableRecords : ∀ {records : List (DurableRecord View)} {r r' : SnapshotRegistry Snap},
    restoreDurableRecords ops views records r = .ok r' → r'.history = r.history ++ records.map (·.version)
  | [], r, r', h => by
    cases h
    exact (List.append_nil _).symm
  | record :: records, r, r', h => by
    obtain ⟨record', hrec, h⟩ := Proc.except_bind_ok.1 h
    obtain ⟨r₁, hres, hr⟩ := Proc.except_bind_ok.1 h
    obtain ⟨-, -, -, hidx⟩ := restoreRecord_ok (Proc.except_mapError_ok.1 hres)
    have hver : record'.version = record.version := by
      have hv := Proc.except_mapError_ok.1 hrec
      unfold DurableRecord.tryIntoRecord at hv
      cases hf : views.fromView record.snapshot <;> rw [hf] at hv <;> cases hv
      rfl
    rw [history_restoreDurableRecords hr, history_of_index hidx, List.map_cons, ← hver]
    exact List.append_assoc _ _ _

theorem RegistryCall.coherent_run (hr : Coherent ops r) (call : RegistryCall Snap) : Coherent ops (call.run ops views codec r) := by
  cases call with
  | publish request now => exact hr.publishAt request now
  | exportBackup now => exact hr.congr rfl
  | restoreBackup bk => exact hr.restoreBackup bk
  | restoreDurableState env mx =>
    cases hrun : restoreDurableStateWithRetention ops views codec env mx with
    | error e => simpa only [RegistryCall.run, hrun] using hr
    | ok r' => simpa only [RegistryCall.run, hrun] using .restoreDurableState hrun

/-- The step: from well formed names, a call keeps them so exactly if nothing padded is taken in. -/
theorem RegistryCall.plain_run (hr : ∀ v ∈ r.history, trim v = v) (call : RegistryCall Snap) :
    (∀ v ∈ (call.run ops views codec r).history, trim v = v) ↔ call.TakesPlain ops views codec r := by
  cases call with
  | publish request now => exact (history_publishAt_plain request now r).trans (and_iff_right hr)
  | exportBackup now => exact iff_of_true hr trivial
  | restoreBackup bk =>
    rw [RegistryCall.run, history_restoreBackup]
    exact history_restoreRecords_plain.trans (and_iff_right hr)
  | restoreDurableState env mx =>
    cases hrun : restoreDurableStateWithRetention ops views codec env mx with
    | error e =>
      simp only [RegistryCall.run, RegistryCall.TakesPlain, hrun]
      exact iff_of_true hr fun _ _ hok => by cases hok
    | ok r' =>
      obtain ⟨payload, r₁, hpay, hre, hidx⟩ := restoreDurableState_ok hrun
      have hhis : r'.history = payload.records.map (·.version) :=
        (history_of_index hidx).trans (history_restoreDurableRecords hre)
      simp only [RegistryCall.run, RegistryCall.TakesPlain, hrun, hhis, hpay, List.forall_mem_map]
      exact ⟨fun h p hp _ => by cases hp; exact h, fun h => h payload rfl rfl⟩

theorem coherent_runCalls (calls : List (RegistryCall Snap)) : Coherent ops (runCalls ops views codec calls) := by
  induction calls using List.reverseRecOn with
  | nil => exact .empty
  | append_singleton calls call ih =>
    rw [runCalls, List.foldl_concat]
    exact call.coherent_run ih

/-- **Versions are stored under well formed names all through a run exactly if no call of it takes in a version with white
space around it.** -/
theorem wellNamed_iff_takesPlain (calls : List (RegistryCall Snap)) :
    (∀ before, before <+: calls → WellNamed (runCalls ops views codec before)) ↔
      ∀ before call, before ++ [call] <+: calls → call.TakesPlain ops views codec (runCalls ops views codec before) := by
  simp only [(coherent_runCalls _).wellNamed_iff]
  induction calls using List.reverseRecOn with
  | nil =>
    refine iff_of_true (fun before hbef v hv => ?_) (fun before call h => ?_)
    · rw [List.prefix_nil.1 hbef] at hv
      cases hv
    · exact absurd (List.prefix_nil.1 h) (List.append_ne_nil_of_right_ne_nil _ (List.cons_ne_nil _ _))
  | append_singleton calls last ih =>
    have hl : runCalls ops views codec (calls ++ [last]) = last.run ops views codec (runCalls ops views codec calls) :=
      List.foldl_concat _ _ _ _
    simp only [List.prefix_concat_iff, or_imp, forall_and, forall_eq, ih]
    rw [hl]
    constructor
    · rintro ⟨hlo, hsho⟩
      have hcal := ih.2 hsho calls (List.prefix_refl _)
      refine ⟨fun before call h => ?_, hsho⟩
      obtain ⟨rfl, hc⟩ := List.append_inj' h rfl
      cases hc
      exact (last.plain_run hcal).1 hlo
    · rintro ⟨hlo, hsho⟩
      have hcal := ih.2 hsho calls (List.prefix_refl _)
      exact ⟨(last.plain_run hcal).2 (hlo calls last rfl), hsho⟩

/-- A version with a space after it is published next to the same one without. -/
theorem padded_version_stored : ¬ WellNamed (runCalls digestOps digestViews noCodec
    [.publish (digestRequest (lit "v1") '0') 1, .publish (digestRequest (lit "v1 ") '1') 2]) := by
  intro h
  have hn := (h.1 (lit "v1 ") (by decide +kernel)).2.2
  revert hn
  decide +kernel

end SnapshotRegistry

end WayBalancer
