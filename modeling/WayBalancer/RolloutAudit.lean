import WayBalancer.RolloutRuns
/-!
# RolloutAudit — what the history of rollouts says

A `rollout_at` or `rollback_at` call leaves one entry in the history and counts its failure, except for a rollback to a target
that `validate_rollout_request` refuses, which returns before anything is recorded.  An entry names the version that is active
right after its call where the call got as far as the dataplane, and no effective version where it was turned down before.
-/
namespace WayBalancer

open Str Word
open SnapshotRegistry (digestOps publishedOnce)

variable {Snap η : Type} {ops : SnapshotOps Snap} {hook : SnapshotActivationHook Snap η}

namespace RolloutCoordinator

variable {node node' : RolloutNode Snap η}

inductive RolloutCall (Snap : Type)
  | rollout (control : SnapshotRegistry Snap) (request : RolloutRequest) (now : ℕ)
  | rollback (control : SnapshotRegistry Snap) (request : RollbackRequest) (now : ℕ)

def RolloutCall.run (ops : SnapshotOps Snap) (hook : SnapshotActivationHook Snap η) :
    RolloutCall Snap → Proc (RolloutNode Snap η) RolloutError RolloutResponse
  | .rollout control request now  => rolloutAt ops hook control request now
  | .rollback control request now => rollbackAt ops hook control request now

def RolloutCall.isUnrecorded : RolloutCall Snap → Bool
  | .rollout _ _ _        => false
  | .rollback _ request _ => RolloutCoordinator.isUnrecorded request

/-! ## One call -/

/-- **What a recorded call leaves**: its entry, its failure if it fails, and in the entry the version active now where the
dataplane was asked. -/
structure Records (node node' : RolloutNode Snap η) (result : Except RolloutError RolloutResponse) (entry : RolloutHistoryEntry) :
    Prop where
  history : node'.coordinator.history = node.coordinator.history ++ [entry]
  audited : node'.coordinator.metrics.auditEventCount = satAdd node.coordinator.metrics.auditEventCount 1
  size : node'.coordinator.metrics.historySize = node'.coordinator.history.length
  failed : node'.coordinator.metrics.failedRolloutCount =
    if result.isOk then node.coordinator.metrics.failedRolloutCount else satAdd node.coordinator.metrics.failedRolloutCount 1
  effective : if entry.digestSha256.isSome then entry.effectiveVersion = node'.dataplane.activeVersion
    else entry.effectiveVersion = none ∧ entry.result = .rejected ∧ node'.dataplane = node.dataplane

theorem records_executeAction {action : RolloutActionKind} {published : RegistryRecord Snap} {actor reason : Option Text}
    {now : ℕ} : ∃ entry, Records node (executeAction ops hook action published actor reason now node).2
      (executeAction ops hook action published actor reason now node).1 entry := by
  obtain ⟨r, dp, hrun, happ⟩ :=
    DataplaneSnapshotManager.applyAt_run ops hook
  unfold executeAction
  rw [hrun]
  have hact : ∀ active, dp.active = some active → some active.version = dp.activeVersion :=
    fun active h => by rw [DataplaneSnapshotManager.activeVersion, h]; rfl
  cases happ with
  | failed e hs hg => exact ⟨_, rfl, rfl, rfl, rfl, rfl⟩
  | unchanged active hso hver hdig hs hg =>
    cases action <;> exact ⟨_, rfl, rfl, rfl, rfl, hact active (hs.trans hso)⟩
  | applied hnew hso hg => cases action <;> exact ⟨_, rfl, rfl, rfl, rfl, hact _ hso⟩

/-- **A call leaves no trace or its record.** -/
theorem RolloutCall.records (call : RolloutCall Snap) : (call.isUnrecorded = true ∧ ∃ e, call.run ops hook node = (.error e, node)) ∨
      (call.isUnrecorded = false ∧ ∃ entry, Records node (call.run ops hook node).2 (call.run ops hook node).1 entry) := by
  obtain ⟨control, v, hcom⟩ : ∃ control v, Comes ops hook control node call.isUnrecorded v (call.run ops hook node) := by
    cases call with
    | rollout control request now => exact ⟨_, _, rolloutAt_comes⟩
    | rollback control request now => exact ⟨_, _, rollbackAt_comes request now⟩
  generalize call.run ops hook node = out at hcom ⊢
  cases hcom with
  | untraced e h => exact .inl ⟨h, _, rfl⟩
  | rejected e h => exact .inr ⟨h, _, rfl, rfl, rfl, rfl, rfl, rfl, rfl⟩
  | executed h => exact .inr ⟨h, records_executeAction⟩

theorem RolloutCall.recorded {call : RolloutCall Snap} (h : call.isUnrecorded = false) :
    ∃ entry, Records node (call.run ops hook node).2 (call.run ops hook node).1 entry := by
  rcases @RolloutCall.records _ _ ops hook node call with ⟨hun, -⟩ | ⟨-, hent⟩
  · rw [h] at hun
    cases hun
  · exact hent

/-! ## Whole runs -/

def runCalls (ops : SnapshotOps Snap) (hook : SnapshotActivationHook Snap η) (calls : List (RolloutCall Snap))
    (node : RolloutNode Snap η) : RolloutNode Snap η :=
  calls.foldl (fun node call => (call.run ops hook node).2) node

/-- The counts after recorded calls; a count stops at its largest value. -/
theorem runCalls_counts (m : DataplaneSnapshotManager Snap η) (calls : List (RolloutCall Snap))
    (h : ∀ call ∈ calls, call.isUnrecorded = false) :
    (runCalls ops hook calls ⟨{}, m⟩).coordinator.history.length = calls.length ∧
    (runCalls ops hook calls ⟨{}, m⟩).coordinator.metrics.historySize = calls.length ∧
    (runCalls ops hook calls ⟨{}, m⟩).coordinator.metrics.auditEventCount = min calls.length u64Max ∧
    (runCalls ops hook calls ⟨{}, m⟩).coordinator.metrics.failedRolloutCount ≤ calls.length := by
  induction calls using List.reverseRecOn with
  | nil => exact ⟨rfl, rfl, rfl, Nat.le_refl _⟩
  | append_singleton calls call ih =>
    obtain ⟨hlen, hs, haud, hf⟩ := ih fun c hc => h c (List.mem_append_left _ hc)
    rw [runCalls, List.foldl_concat, ← runCalls, List.length_append, List.length_singleton]
    obtain ⟨entry, hent⟩ := @RolloutCall.recorded _ _ ops hook (runCalls ops hook calls ⟨{}, m⟩) call
      (h call (List.mem_append_right _ List.mem_cons_self))
    have hgro := congrArg List.length hent.history
    rw [List.length_append, hlen] at hgro
    refine ⟨hgro, hent.size.trans hgro, ?_, ?_⟩
    · rw [hent.audited, haud, satAdd]
      omega
    · rw [hent.failed]
      split
      · omega
      · rw [satAdd]
        omega

/-- A call appends one entry to the history, and counts one failure if it fails. -/
def RolloutCall.Audited (ops : SnapshotOps Snap) (hook : SnapshotActivationHook Snap η) (call : RolloutCall Snap)
    (node : RolloutNode Snap η) : Prop :=
  (∃ entry, (call.run ops hook node).2.coordinator.history = node.coordinator.history ++ [entry]) ∧
    ∀ e, (call.run ops hook node).1 = .error e → (call.run ops hook node).2.coordinator.metrics.failedRolloutCount =
      node.coordinator.metrics.failedRolloutCount + 1

/-- **The audit is complete over a run exactly if no call of it is a rollback to a target that is refused as invalid**, and the
calls are no more than a counter can count. -/
theorem audit_complete_iff (m : DataplaneSnapshotManager Snap η) (calls : List (RolloutCall Snap)) :
    ((∀ before call, before ++ [call] <+: calls → call.Audited ops hook (runCalls ops hook before ⟨{}, m⟩)) ∧
      (runCalls ops hook calls ⟨{}, m⟩).coordinator.metrics.auditEventCount = calls.length ∧
      (runCalls ops hook calls ⟨{}, m⟩).coordinator.metrics.historySize = calls.length) ↔
    (∀ call ∈ calls, call.isUnrecorded = false) ∧ calls.length ≤ u64Max := by
  constructor
  · rintro ⟨haud, hcnt, -⟩
    have hrec : ∀ call ∈ calls, call.isUnrecorded = false := by
      intro call hca
      obtain ⟨before, after, rfl⟩ := List.append_of_mem hca
      obtain ⟨⟨entry, hent⟩, -⟩ := haud before call ⟨after, by simp⟩
      rcases @RolloutCall.records _ _ ops hook (runCalls ops hook before ⟨{}, m⟩) call with ⟨-, e, hrun⟩ | ⟨h, -⟩
      · rw [hrun] at hent
        simpa using congrArg List.length hent
      · exact h
    have hmin := (@runCalls_counts _ _ ops hook m calls hrec).2.2.1
    exact ⟨hrec, by omega⟩
  · rintro ⟨hrec, hle⟩
    obtain ⟨-, hs, haud, -⟩ := @runCalls_counts _ _ ops hook m calls hrec
    refine ⟨fun before call hpre => ?_, by omega, hs⟩
    obtain ⟨after, rfl⟩ := hpre
    have hcal : ∀ c ∈ before ++ [call], c.isUnrecorded = false := fun c hc => hrec c (List.mem_append_left _ hc)
    obtain ⟨entry, hent⟩ := @RolloutCall.recorded _ _ ops hook (runCalls ops hook before ⟨{}, m⟩) call (hcal call (by simp))
    obtain ⟨-, -, -, hf⟩ := @runCalls_counts _ _ ops hook m before fun c hc => hcal c (List.mem_append_left _ hc)
    refine ⟨⟨entry, hent.history⟩, fun e he => ?_⟩
    rw [hent.failed, he, satAdd]
    simp only [List.length_append, List.length_singleton] at hle
    simp only [Except.isOk, Except.toBool, Bool.false_eq_true, if_false]
    omega

def newNode : RolloutNode Text Unit := ⟨{}, { hookState := () }⟩

/-- A rollback to the empty version fails and leaves no trace. -/
theorem rollback_unrecorded :
    ¬ (RolloutCall.rollback {} ⟨some [], none, none⟩ 1).Audited digestOps (noopSnapshotActivationHook Text) newNode := by
  rintro ⟨⟨entry, hent⟩, -⟩
  cases hent

end RolloutCoordinator

/-! ## What a dataplane runs -/

namespace DataplaneSnapshotManager

theorem applyAt_digest {request : SnapshotApplyRequest Snap} {now : ℕ} {m m' : DataplaneSnapshotManager Snap η} {ack : SnapshotApplyAck}
    (h : applyAt ops hook request now m = (.ok ack, m')) : ops.digest request.snapshot = request.expectedDigestSha256 := by
  cases hval : validateApplyRequest ops request with
  | error e => simp only [applyAt, hval] at h; cases h
  | ok u =>
    simp only [validateApplyRequest, Proc.ite_error_ok] at hval
    exact (not_not.1 hval.2.2.2.2.2.1).symm

def applyNext (ops : SnapshotOps Snap) (hook : SnapshotActivationHook Snap η)
    (run : DataplaneSnapshotManager Snap η × Option (AppliedSnapshotRecord Snap)) (call : SnapshotApplyRequest Snap × ℕ) :
    DataplaneSnapshotManager Snap η × Option (AppliedSnapshotRecord Snap) :=
  match applyAt ops hook call.1 call.2 run.1 with
  | (.ok ⟨.applied, _, _⟩, m) => (m, some (appliedRecord ops call.1 call.2))
  | (_, m)                    => (m, run.2)

theorem active_applyNext {run : DataplaneSnapshotManager Snap η × Option (AppliedSnapshotRecord Snap)} (h : run.1.active = run.2)
    (call : SnapshotApplyRequest Snap × ℕ) : (applyNext ops hook run call).1.active = (applyNext ops hook run call).2 := by
  obtain ⟨r, m, hrun, happ⟩ := applyAt_run ops hook
  unfold applyNext
  rw [hrun]
  cases happ with
  | failed _ hs | unchanged _ _ _ _ hs => exact hs.trans h
  | applied _ hso => exact hso

theorem active_applyAll : ∀ (calls : List (SnapshotApplyRequest Snap × ℕ))
    {run : DataplaneSnapshotManager Snap η × Option (AppliedSnapshotRecord Snap)}, run.1.active = run.2 →
    (calls.foldl (applyNext ops hook) run).1.active = (calls.foldl (applyNext ops hook) run).2
  | [], _, h            => h
  | call :: calls, _, h => active_applyAll calls (active_applyNext h call)

end DataplaneSnapshotManager

open DataplaneSnapshotManager in
/-- **The dataplane manager is transactional**: a failed application changes neither what is active nor what is known to be
good, an acknowledged one leaves the version and the digest it asked for, and what is active is always the latest that was
applied.  A recorded rollout names the version active right after it, unless it was turned down before the dataplane was
asked: then it names none, and the dataplane is as it was. -/
theorem dataplane_transactional :
    (∀ (request : SnapshotApplyRequest Snap) (now : ℕ) (m : DataplaneSnapshotManager Snap η) (e : SnapshotApplyError),
      (applyAt ops hook request now m).1 = .error e → (applyAt ops hook request now m).2.active = m.active ∧
        (applyAt ops hook request now m).2.lastKnownGood = m.lastKnownGood) ∧
    (∀ (request : SnapshotApplyRequest Snap) (now : ℕ) (m : DataplaneSnapshotManager Snap η) (ack : SnapshotApplyAck),
      (applyAt ops hook request now m).1 = .ok ack → ∃ active, (applyAt ops hook request now m).2.active = some active ∧
        active.version = request.version ∧ active.digestSha256 = request.expectedDigestSha256) ∧
    (∀ (hookState : η) (calls : List (SnapshotApplyRequest Snap × ℕ)),
      (calls.foldl (applyNext ops hook) ({ hookState }, none)).1.active = (calls.foldl (applyNext ops hook) ({ hookState }, none)).2) ∧
    ∀ (node : RolloutNode Snap η) (call : RolloutCoordinator.RolloutCall Snap),
      (call.run ops hook node).2.coordinator.history = node.coordinator.history ∨
      ∃ entry, (call.run ops hook node).2.coordinator.history = node.coordinator.history ++ [entry] ∧
        if entry.digestSha256.isSome then entry.effectiveVersion = (call.run ops hook node).2.dataplane.activeVersion
        else entry.effectiveVersion = none ∧ entry.result = .rejected ∧
          (call.run ops hook node).2.dataplane = node.dataplane := by
  refine ⟨fun request now m e h => ?_, fun request now m ack h => ?_,
    fun hookState calls => active_applyAll calls rfl, fun node call => ?_⟩
  · have happ := @applyAt_applies _ _ ops hook request now m
    rw [h] at happ
    cases happ with
    | failed _ hs hg => exact ⟨hs, hg⟩
  · have happ := @applyAt_applies _ _ ops hook request now m
    rw [← applyAt_digest (Prod.ext h rfl : applyAt ops hook request now m = (.ok ack, _))]
    rw [h] at happ
    cases happ with
    | unchanged active hso hver hdig hs hg => exact ⟨active, hs.trans hso, hver, hdig⟩
    | applied hnew hso hg => exact ⟨_, hso, rfl, rfl⟩
  · rcases @RolloutCoordinator.RolloutCall.records _ _ ops hook node call with ⟨-, e, hrun⟩ | ⟨-, entry, hent⟩
    · exact .inl (by rw [hrun])
    · exact .inr ⟨entry, hent.history, hent.effective⟩

open RolloutCoordinator in
/-- After a rollout of `v1`, one of the empty version is recorded without an effective version although `v1` is active. -/
theorem rejected_rollout_without_effective_version :
    (runCalls digestOps (noopSnapshotActivationHook Text)
      [.rollout publishedOnce ⟨lit "v1", none, none⟩ 1, .rollout publishedOnce ⟨[], none, none⟩ 2]
      newNode).dataplane.activeVersion = some (lit "v1") ∧
    (runCalls digestOps (noopSnapshotActivationHook Text)
      [.rollout publishedOnce ⟨lit "v1", none, none⟩ 1, .rollout publishedOnce ⟨[], none, none⟩ 2]
      newNode).coordinator.history.getLast?.map (·.effectiveVersion) = some none := by
  decide +kernel

end WayBalancer
