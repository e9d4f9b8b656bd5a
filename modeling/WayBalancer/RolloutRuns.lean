import WayBalancer.Rollout
import WayBalancer.SnapshotCoherence
/-!
# RolloutRuns — where consecutive rollbacks go

In every node that rollouts and rollbacks reach, the last version noted is the active one (`Tracked`).  A rollback without a
target notes its version like a rollout does, so the version it left is the candidate of the next rollback: from the second
success on, every rollback of a stretch undoes the one before it.
-/
namespace WayBalancer

open Str Word
open DataplaneSnapshotManager (activeVersion applyAt_run)
open SnapshotRegistry (digestOps digestRequest getVersion publishAt)

variable {Snap η : Type} {ops : SnapshotOps Snap} {hook : SnapshotActivationHook Snap η}

/-! ## Reachable managers and nodes -/

/-- The managers that come of applications to a new one. -/
inductive DataplaneSnapshotManager.Reachable (ops : SnapshotOps Snap) (hook : SnapshotActivationHook Snap η) :
    DataplaneSnapshotManager Snap η → Prop
  | new (hookState : η) : Reachable ops hook { hookState := hookState }
  | applied {m : DataplaneSnapshotManager Snap η} (request : SnapshotApplyRequest Snap) (now : ℕ) :
      Reachable ops hook m → Reachable ops hook (applyAt ops hook request now m).2

theorem DataplaneSnapshotManager.Applies.lastKnownGood_eq {request : SnapshotApplyRequest Snap} {now : ℕ}
    {m m' : DataplaneSnapshotManager Snap η} {result : Except SnapshotApplyError SnapshotApplyAck}
    (h : Applies ops request now m m' result) (hm : m.lastKnownGood = m.active) : m'.lastKnownGood = m'.active := by
  cases h with
  | failed _ hactive hgood | unchanged _ _ _ _ hactive hgood => rw [hactive, hgood, hm]
  | applied hnew hactive hgood => rw [hactive, hgood]

theorem DataplaneSnapshotManager.Reachable.lastKnownGood_eq {m : DataplaneSnapshotManager Snap η} (h : m.Reachable ops hook) :
    m.lastKnownGood = m.active := by
  induction h with
  | new hookState => rfl
  | applied request now _ ih => exact (applyAt_applies request now _).lastKnownGood_eq ih

/-- The nodes that rollouts and rollbacks reach, from a new coordinator over any manager. -/
inductive RolloutNode.Reachable (ops : SnapshotOps Snap) (hook : SnapshotActivationHook Snap η) : RolloutNode Snap η → Prop
  | new {m : DataplaneSnapshotManager Snap η} (hm : m.Reachable ops hook) : Reachable ops hook { dataplane := m }
  | rolledOut {node : RolloutNode Snap η} {control : SnapshotRegistry Snap} (hcontrol : control.Coherent ops)
      (request : RolloutRequest) (now : ℕ) :
      Reachable ops hook node → Reachable ops hook (RolloutCoordinator.rolloutAt ops hook control request now node).2
  | rolledBack {node : RolloutNode Snap η} {control : SnapshotRegistry Snap} (hcontrol : control.Coherent ops)
      (request : RollbackRequest) (now : ℕ) :
      Reachable ops hook node → Reachable ops hook (RolloutCoordinator.rollbackAt ops hook control request now node).2

namespace RolloutCoordinator

/-! ## What an action does to a node -/

/-- **What an action comes to**: it fails and the versions stay, or its version was active already, or it is active now and
noted. -/
inductive Acts (node node' : RolloutNode Snap η) (version : Text) : Except RolloutError RolloutResponse → Prop
  | failed (e : RolloutError) (he : e ≠ .noRollbackCandidate) (hactive : node'.dataplane.active = node.dataplane.active)
      (hgood : node'.dataplane.lastKnownGood = node.dataplane.lastKnownGood)
      (hversions : node'.coordinator.successfulVersions = node.coordinator.successfulVersions) :
      Acts node node' version (.error e)
  | unchanged (response : RolloutResponse) (hresult : response.result = .unchanged) (hversion : response.activeVersion = version)
      (hwas : node.dataplane.activeVersion = some version) (hactive : node'.dataplane.active = node.dataplane.active)
      (hgood : node'.dataplane.lastKnownGood = node.dataplane.lastKnownGood)
      (hversions : node'.coordinator.successfulVersions = node.coordinator.successfulVersions) :
      Acts node node' version (.ok response)
  | applied (response : RolloutResponse) (hresult : response.result = .applied) (hversion : response.activeVersion = version)
      (hactive : node'.dataplane.activeVersion = some version)
      (hgood : node'.dataplane.lastKnownGood = node'.dataplane.active)
      (hversions : node'.coordinator.successfulVersions = (node.coordinator.noteApplied version).successfulVersions) :
      Acts node node' version (.ok response)

section
variable {node node' : RolloutNode Snap η} {version : Text} {result : Except RolloutError RolloutResponse}

theorem Acts.lastKnownGood_eq (h : Acts node node' version result)
    (hnode : node.dataplane.lastKnownGood = node.dataplane.active) : node'.dataplane.lastKnownGood = node'.dataplane.active := by
  cases h with
  | failed _ _ hactive hgood | unchanged _ _ _ _ hactive hgood => rw [hactive, hgood, hnode]
  | applied resp hresult hversion hactive hgood hversions => exact hgood

theorem Acts.keeps_version (h : Acts node node' version result) (hnode : node.dataplane.activeVersion = some version) :
    node'.dataplane.activeVersion = some version := by
  cases h with
  | failed _ _ hactive | unchanged _ _ _ _ hactive =>
    rw [activeVersion, hactive]
    exact hnode
  | applied resp hresult hversion hactive hgood hversions => exact hactive

theorem Acts.version_of_ok {response : RolloutResponse} (h : Acts node node' version (.ok response)) :
    node'.dataplane.activeVersion = some version := by
  cases h with
  | unchanged _ hresult hversion hwas hactive hgood hversions =>
    rw [activeVersion, hactive]
    exact hwas
  | applied _ hresult hversion hactive hgood hversions => exact hactive

end

variable (c : RolloutCoordinator) (action : RolloutActionKind)

theorem successfulVersions_countRollback : (c.countRollback action).successfulVersions = c.successfulVersions := by
  cases action <;> rfl

theorem successfulVersions_noteApplied_countRollback (version : Text) :
    ((c.countRollback action).noteApplied version).successfulVersions = (c.noteApplied version).successfulVersions := by
  cases action <;> rfl

variable {node : RolloutNode Snap η}

theorem executeAction_acts {published : RegistryRecord Snap} {actor reason : Option Text} {now : ℕ} :
    Acts node (executeAction ops hook action published actor reason now node).2 published.version
      (executeAction ops hook action published actor reason now node).1 := by
  obtain ⟨result, dp, hrun, happ⟩ :=
    applyAt_run ops hook
  unfold executeAction
  rw [hrun]
  cases happ with
  | failed e hactive hgood => exact .failed (.apply e) (fun h => by cases h) hactive hgood rfl
  | unchanged active hs hversion hdig hactive hgood =>
    refine .unchanged _ rfl hversion ?_ hactive hgood (successfulVersions_countRollback _ _)
    rw [activeVersion, hs]
    exact congrArg some hversion
  | applied hnew hactive hgood =>
    refine .applied _ rfl rfl ?_ (hgood.trans hactive.symm) (successfulVersions_noteApplied_countRollback _ _ _)
    show dp.active.map _ = _
    rw [show dp.active = _ from hactive]
    rfl

section
variable {node : RolloutNode Snap η} {control : SnapshotRegistry Snap}

theorem getVersion_version (hcontrol : control.Coherent ops) {version : Text} {published : RegistryRecord Snap}
    (h : control.getVersion version = .ok published) : published.version = version := by
  unfold getVersion at h
  cases hget : control.recordsByVersion.get? version with
  | none => rw [hget] at h; cases h
  | some record =>
    rw [hget] at h
    cases h
    exact hcontrol.version_eq version published hget

/-- The version a rollback is for: its target, or the candidate. -/
def rollbackVersion (node : RolloutNode Snap η) (request : RollbackRequest) : Option Text :=
  request.targetVersion.or (node.coordinator.rollbackCandidate node.dataplane.activeVersion)

/-- The target of a rollback is one that `validate_rollout_request` refuses. -/
def isUnrecorded (request : RollbackRequest) : Bool :=
  request.targetVersion.any (fun version => !(validateRolloutRequest version request.requestedBy request.reason).isOk)

/-- **What a call comes to**: an invalid target of a rollback leaves no trace, another call is turned down and recorded, or the
published version it is for is applied. -/
inductive Comes (ops : SnapshotOps Snap) (hook : SnapshotActivationHook Snap η) (control : SnapshotRegistry Snap)
    (node : RolloutNode Snap η) (unrecorded : Bool) (version : Option Text) :
    Except RolloutError RolloutResponse × RolloutNode Snap η → Prop
  | untraced (e : InvalidRolloutRequest) (h : unrecorded = true) (hversion : version ≠ none) :
      Comes ops hook control node unrecorded version (.error (.invalidRequest e), node)
  | rejected (e : RolloutError) (h : unrecorded = false) (he : e = .noRollbackCandidate ↔ version = none)
      (action : RolloutActionKind) (target : Text) (actor reason : Option Text) (now : ℕ) (detail : Text) :
      Comes ops hook control node unrecorded version
        (.error e, ⟨node.coordinator.reject action target node.dataplane.activeVersion actor reason now detail, node.dataplane⟩)
  | executed {v : Text} {published : RegistryRecord Snap} (h : unrecorded = false) (hversion : version = some v)
      (hpublished : control.getVersion v = .ok published) (action : RolloutActionKind) (actor reason : Option Text) (now : ℕ) :
      Comes ops hook control node unrecorded version (executeAction ops hook action published actor reason now node)

theorem rolloutAt_comes {request : RolloutRequest} {now : ℕ} :
    Comes ops hook control node false (some request.version) (rolloutAt ops hook control request now node) := by
  unfold rolloutAt
  cases validateRolloutRequest request.version request.requestedBy request.reason with
  | error e => exact .rejected _ rfl (by simp) _ _ _ _ _ _
  | ok u =>
    cases hget : control.getVersion request.version with
    | ok published => exact .executed rfl rfl hget _ _ _ _
    | error e =>
      unfold getVersion at hget
      split at hget <;> cases hget
      exact .rejected _ rfl (by simp) _ _ _ _ _ _

theorem rollbackAt_comes (request : RollbackRequest) (now : ℕ) :
    Comes ops hook control node (isUnrecorded request) (rollbackVersion node request)
      (rollbackAt ops hook control request now node) := by
  -- once the target is settled the published version is looked up and applied
  have hfd : ∀ version, rollbackTarget request now node = (.ok version, node) → isUnrecorded request = false →
      rollbackVersion node request = some version → Comes ops hook control node (isUnrecorded request) (rollbackVersion node request)
        (rollbackAt ops hook control request now node) := by
    intro version htgt hrec hversion
    unfold rollbackAt
    rw [htgt, hversion]
    dsimp only
    cases hget : control.getVersion version with
    | error e => exact .rejected _ hrec (by simp) _ _ _ _ _ _
    | ok published => exact .executed hrec rfl hget _ _ _ _
  cases htgt : request.targetVersion with
  | none =>
    have hrec : isUnrecorded request = false := by rw [isUnrecorded, htgt]; rfl
    cases hcandidate : node.coordinator.rollbackCandidate node.dataplane.activeVersion with
    | some version =>
      exact hfd version (by simp only [rollbackTarget, htgt, hcandidate]) hrec (by rw [rollbackVersion, htgt, hcandidate]; rfl)
    | none =>
      simp only [rollbackAt, rollbackTarget, htgt, hcandidate]
      exact .rejected _ hrec (by simp [rollbackVersion, htgt, hcandidate]) _ _ _ _ _ _
  | some version =>
    have hversion : rollbackVersion node request = some version := by rw [rollbackVersion, htgt]; rfl
    cases hval : validateRolloutRequest version request.requestedBy request.reason with
    | error e =>
      simp only [rollbackAt, rollbackTarget, htgt, hval]
      exact .untraced e (by simp [isUnrecorded, htgt, hval, Except.isOk, Except.toBool]) (by simp [hversion])
    | ok u =>
      have hrec : isUnrecorded request = false := by
        simp [isUnrecorded, htgt, hval, Except.isOk, Except.toBool]
      by_cases hkn : node.coordinator.successfulVersions.contains version = true
      · exact hfd version (by simp only [rollbackTarget, htgt, hval, hkn, if_true]) hrec hversion
      · simp only [rollbackAt, rollbackTarget, htgt, hval, hkn]
        exact .rejected _ hrec (by simp [hversion]) _ _ _ _ _ _

variable {out : Except RolloutError RolloutResponse × RolloutNode Snap η}

theorem Comes.acts {unrecorded : Bool} {version : Text} (h : Comes ops hook control node unrecorded (some version) out)
    (hcontrol : control.Coherent ops) : Acts node out.2 version out.1 := by
  cases h with
  | untraced e h hversion => exact .failed _ (fun h => by cases h) rfl rfl rfl
  | rejected e h he => exact .failed _ (fun h => by cases he.1 h) rfl rfl rfl
  | executed h hversion hpublished =>
    cases hversion
    rw [← getVersion_version hcontrol hpublished]
    exact executeAction_acts _

theorem rolloutAt_acts (hcontrol : control.Coherent ops) (request : RolloutRequest) (now : ℕ) :
    Acts node (rolloutAt ops hook control request now node).2 request.version (rolloutAt ops hook control request now node).1 :=
  rolloutAt_comes.acts hcontrol

theorem rollbackAt_acts (hcontrol : control.Coherent ops) {request : RollbackRequest} {version : Text}
    (h : rollbackVersion node request = some version) (now : ℕ) :
    Acts node (rollbackAt ops hook control request now node).2 version (rollbackAt ops hook control request now node).1 := by
  have hcom := @rollbackAt_comes _ _ ops hook node control request now
  rw [h] at hcom
  exact hcom.acts hcontrol

theorem Comes.none {unrecorded : Bool} (h : Comes ops hook control node unrecorded none out) : out.1 = .error .noRollbackCandidate ∧
      out.2.dataplane = node.dataplane ∧ out.2.coordinator.successfulVersions = node.coordinator.successfulVersions := by
  cases h with
  | untraced e h hversion => exact absurd rfl hversion
  | rejected e h he => exact ⟨by rw [he.2 rfl], rfl, rfl⟩
  | executed h hversion => cases hversion

theorem rollbackAt_none {request : RollbackRequest} (h : rollbackVersion node request = none) (now : ℕ) :
    (rollbackAt ops hook control request now node).1 = .error .noRollbackCandidate ∧
      (rollbackAt ops hook control request now node).2.dataplane = node.dataplane ∧
      (rollbackAt ops hook control request now node).2.coordinator.successfulVersions = node.coordinator.successfulVersions := by
  have hcom := @rollbackAt_comes _ _ ops hook node control request now
  rw [h] at hcom
  exact hcom.none

end

/-! ## The last version noted is the active one -/

def Tracked (node : RolloutNode Snap η) : Prop :=
  ∀ version, node.coordinator.successfulVersions.getLast? = some version → node.dataplane.activeVersion = some version

theorem getLast?_noteApplied (version : Text) : (c.noteApplied version).successfulVersions.getLast? = some version := by
  unfold noteApplied
  split
  · exact List.getLast?_concat
  · rename_i hl
    exact not_not.1 hl

theorem Acts.tracked {node' : RolloutNode Snap η} {version : Text} {result : Except RolloutError RolloutResponse}
    (h : Acts node node' version result) (hnode : Tracked node) : Tracked node' := by
  intro last hl
  cases h with
  | failed _ _ hactive _ hversions | unchanged _ _ _ _ hactive _ hversions =>
    rw [hversions] at hl
    rw [activeVersion, hactive]
    exact hnode last hl
  | applied resp hresult hversion hactive hgood hversions =>
    rw [hversions, getLast?_noteApplied] at hl
    rw [← hl]
    exact hactive

theorem rollbackAt_tracked {node : RolloutNode Snap η} {control : SnapshotRegistry Snap} (hcontrol : control.Coherent ops)
    (hnode : Tracked node) (request : RollbackRequest) (now : ℕ) : Tracked (rollbackAt ops hook control request now node).2 := by
  cases hversion : rollbackVersion node request with
  | some version => exact (rollbackAt_acts hcontrol hversion now).tracked hnode
  | none =>
    obtain ⟨-, hdat, hversions⟩ := rollbackAt_none hversion now
    intro last hl
    rw [hversions] at hl
    rw [hdat]
    exact hnode last hl

theorem tracked_of_reachable (h : node.Reachable ops hook) : Tracked node := by
  induction h with
  | new hm =>
    intro last hl
    cases hl
  | rolledOut hcontrol request now _ ih => exact (rolloutAt_acts hcontrol request now).tracked ih
  | rolledBack hcontrol request now _ ih => exact rollbackAt_tracked hcontrol ih request now

end RolloutCoordinator

theorem good_of_reachable {node : RolloutNode Snap η} (h : node.Reachable ops hook) :
    node.dataplane.lastKnownGood = node.dataplane.active := by
  induction h with
  | new hm => exact hm.lastKnownGood_eq
  | rolledOut hcontrol request now _ ih => exact (RolloutCoordinator.rolloutAt_acts hcontrol request now).lastKnownGood_eq ih
  | @rolledBack node control hcontrol request now _ ih =>
    cases hversion : RolloutCoordinator.rollbackVersion node request with
    | some version => exact (RolloutCoordinator.rollbackAt_acts hcontrol hversion now).lastKnownGood_eq ih
    | none =>
      rw [(RolloutCoordinator.rollbackAt_none hversion now).2.1]
      exact ih

/-! ## A stretch of rollbacks -/

structure RollbackAttempt (Snap : Type) where
  control : SnapshotRegistry Snap
  requestedBy : Option Text := none
  reason : Option Text := none
  occurredAtUnixMs : ℕ

namespace RollbackAttempt

open RolloutCoordinator

def request (attempt : RollbackAttempt Snap) : RollbackRequest := ⟨none, attempt.requestedBy, attempt.reason⟩

def run (ops : SnapshotOps Snap) (hook : SnapshotActivationHook Snap η) (attempt : RollbackAttempt Snap) :
    Proc (RolloutNode Snap η) RolloutError RolloutResponse :=
  RolloutCoordinator.rollbackAt ops hook attempt.control attempt.request attempt.occurredAtUnixMs

structure Move where
  left : Option Text
  activated : Text
deriving DecidableEq, Repr

/-- The moves of a stretch of attempts, and the node after it. -/
def runAll (ops : SnapshotOps Snap) (hook : SnapshotActivationHook Snap η) :
    List (RollbackAttempt Snap) → RolloutNode Snap η → List Move × RolloutNode Snap η
  | [], node                  => ([], node)
  | attempt :: attempts, node => match attempt.run ops hook node with
    | (.ok response, node') =>
      let (moves, last) := runAll ops hook attempts node'
      (⟨node.dataplane.activeVersion, response.activeVersion⟩ :: moves, last)
    | (.error _, node') => runAll ops hook attempts node'

/-- No move activates a version that an earlier one left. -/
def WalksBack (moves : List Move) : Prop := moves.Pairwise (fun earlier later => earlier.left ≠ some later.activated)

/-! ### One attempt -/

/-- The versions a move has just left and activated are the last two noted. -/
structure Moved (node : RolloutNode Snap η) (left activated : Text) : Prop where
  versions : ∃ before, node.coordinator.successfulVersions = before ++ [left, activated]
  active : node.dataplane.activeVersion = some activated
  ne : left ≠ activated

variable {node : RolloutNode Snap η}

theorem candidate_of_moved {left activated : Text} (h : Moved node left activated) :
    node.coordinator.rollbackCandidate node.dataplane.activeVersion = some left := by
  obtain ⟨b, hversions⟩ := h.versions
  unfold rollbackCandidate
  rw [hversions, h.active]
  have hne : left ≠ activated := h.ne
  simp [hne]

theorem candidate_none_iff : node.coordinator.rollbackCandidate node.dataplane.activeVersion = none ↔
      ∀ version ∈ node.coordinator.successfulVersions, node.dataplane.activeVersion = some version := by
  unfold rollbackCandidate
  rw [List.find?_eq_none]
  constructor
  · intro h version hversion
    have := h version (List.mem_reverse.2 hversion)
    simp only [ne_eq, decide_not, Bool.not_eq_eq_eq_not, Bool.not_true, decide_eq_false_iff_not, not_not] at this
    exact this.symm
  · intro h version hversion
    rw [h version (List.mem_reverse.1 hversion)]
    simp

/-- What an attempt comes to in a node where the last version noted is the active one. -/
theorem run_cases {attempt : RollbackAttempt Snap} (hcontrol : attempt.control.Coherent ops) {node : RolloutNode Snap η}
    (hnode : Tracked node) :
    (∃ e node', attempt.run ops hook node = (.error e, node') ∧ node'.dataplane.active = node.dataplane.active ∧
      node'.coordinator.successfulVersions = node.coordinator.successfulVersions ∧
      (e = .noRollbackCandidate ↔ node.coordinator.rollbackCandidate node.dataplane.activeVersion = none)) ∨
    ∃ response node' left, attempt.run ops hook node = (.ok response, node') ∧ node.dataplane.activeVersion = some left ∧
      node.coordinator.rollbackCandidate node.dataplane.activeVersion = some response.activeVersion ∧
      Moved node' left response.activeVersion := by
  have hversion : rollbackVersion node attempt.request = node.coordinator.rollbackCandidate node.dataplane.activeVersion :=
    Option.none_or
  cases hcandidate : node.coordinator.rollbackCandidate node.dataplane.activeVersion with
  | none =>
    obtain ⟨hresult, hdat, hversions⟩ :=
      @rollbackAt_none _ _ ops hook node attempt.control attempt.request (hversion.trans hcandidate) attempt.occurredAtUnixMs
    refine .inl ⟨.noRollbackCandidate, _, Prod.ext hresult rfl, ?_, hversions, iff_of_true rfl rfl⟩
    exact congrArg DataplaneSnapshotManager.active hdat
  | some version =>
    have ha := @rollbackAt_acts _ _ ops hook node attempt.control hcontrol _ version (hversion.trans hcandidate)
      attempt.occurredAtUnixMs
    have hoth : some version ≠ node.dataplane.activeVersion := by
      have hfd := List.find?_some hcandidate
      exact of_decide_eq_true hfd
    unfold run
    rcases hrun : RolloutCoordinator.rollbackAt ops hook attempt.control attempt.request attempt.occurredAtUnixMs node with
      ⟨result, node'⟩
    rw [hrun] at ha
    cases ha with
    | failed e he hactive hgood hversions =>
      refine .inl ⟨e, node', rfl, hactive, hversions, iff_of_false he ?_⟩
      intro h
      cases h
    | unchanged response hresult hact hwas hactive hgood hversions => exact absurd hwas.symm hoth
    | applied response hresult hact hactive hgood hversions =>
      -- the candidate is one of the versions noted, so there is a last one and it is active
      have hmem : version ∈ node.coordinator.successfulVersions := List.mem_reverse.1 (List.mem_of_find?_eq_some hcandidate)
      obtain ⟨b, left, hspl⟩ := List.eq_nil_or_concat' node.coordinator.successfulVersions |>.resolve_left (List.ne_nil_of_mem hmem)
      have hl : node.coordinator.successfulVersions.getLast? = some left := by rw [hspl, List.getLast?_concat]
      have hleft := hnode left hl
      have hne : left ≠ version := fun h => hoth (by rw [← h]; exact hleft.symm)
      refine .inr ⟨response, node', left, rfl, hleft, by rw [hact], ⟨b, ?_⟩, by rw [hact]; exact hactive, ?_⟩
      · have hnot : some left ≠ some version := fun h => hne (Option.some.inj h)
        rw [hversions, hact, noteApplied, hl]
        simp only [if_pos hnot, hspl, List.append_assoc, List.cons_append, List.nil_append]
      · rw [hact]
        exact hne

/-! ### A whole stretch -/

theorem Moved.congr {node' : RolloutNode Snap η} {left activated : Text} (h : Moved node left activated)
    (hactive : node'.dataplane.activeVersion = node.dataplane.activeVersion)
    (hversions : node'.coordinator.successfulVersions = node.coordinator.successfulVersions) : Moved node' left activated :=
  ⟨by rw [hversions]; exact h.versions, hactive.trans h.active, h.ne⟩

/-- **The moves of a stretch**, attempt by attempt. -/
inductive Stretch : RolloutNode Snap η → List Move → RolloutNode Snap η → Prop
  | nil {node : RolloutNode Snap η} (hnode : Tracked node) : Stretch node [] node
  | failed {node node' last : RolloutNode Snap η} {moves : List Move}
      (hactive : node'.dataplane.activeVersion = node.dataplane.activeVersion)
      (hversions : node'.coordinator.successfulVersions = node.coordinator.successfulVersions)
      (hrest : Stretch node' moves last) : Stretch node moves last
  | moved {node node' last : RolloutNode Snap η} {moves : List Move} {left activated : Text}
      (hleft : node.dataplane.activeVersion = some left)
      (hcandidate : node.coordinator.rollbackCandidate node.dataplane.activeVersion = some activated)
      (hmoved : Moved node' left activated) (hrest : Stretch node' moves last) : Stretch node (⟨some left, activated⟩ :: moves) last

theorem runAll_stretch : ∀ (attempts : List (RollbackAttempt Snap)) {node : RolloutNode Snap η},
    (∀ attempt ∈ attempts, attempt.control.Coherent ops) → Tracked node →
      Stretch node (runAll ops hook attempts node).1 (runAll ops hook attempts node).2
  | [], _, _, hnode => .nil hnode
  | attempt :: attempts, node, hcon, hnode => by
    have hcontrol := hcon attempt List.mem_cons_self
    have htr := @rollbackAt_tracked _ _ ops hook node attempt.control hcontrol hnode attempt.request attempt.occurredAtUnixMs
    have hrest := @runAll_stretch attempts (attempt.run ops hook node).2 (fun a ha => hcon a (List.mem_cons_of_mem _ ha)) htr
    rw [runAll]
    rcases @run_cases _ _ ops hook attempt hcontrol node hnode with ⟨e, node', hrun, hactive, hversions, -⟩ |
      ⟨response, node', left, hrun, hleft, hcandidate, hmoved⟩
    · rw [hrun] at hrest ⊢
      exact .failed (congrArg (Option.map _) hactive) hversions hrest
    · rw [hrun] at hrest ⊢
      dsimp only
      rw [hleft]
      exact .moved hleft hcandidate hmoved hrest

namespace Stretch

variable {node last : RolloutNode Snap η} {moves : List Move}

variable (h : Stretch node moves last)
include h

/-- **The next move returns**: after a move, the first success of any attempts activates the version just left. -/
theorem returns {left activated : Text} (hmoved : Moved node left activated) :
    moves = [] ∨ ∃ rest, moves = ⟨some activated, left⟩ :: rest := by
  induction h with
  | nil => exact .inl rfl
  | failed hactive hversions _ ih => exact ih (hmoved.congr hactive hversions)
  | moved hleft hcandidate =>
    rw [candidate_of_moved hmoved] at hcandidate
    rw [← hleft, hmoved.active, Option.some.inj hcandidate]
    exact .inr ⟨_, rfl⟩

theorem walksBack_iff : WalksBack moves ↔ moves.length ≤ 1 := by
  induction h with
  | nil => exact iff_of_true .nil (Nat.zero_le 1)
  | failed _ _ _ ih => exact ih
  | moved _ _ hmoved hrest =>
    rcases hrest.returns hmoved with rfl | ⟨rest, rfl⟩
    · exact iff_of_true (List.pairwise_singleton _ _) (le_refl 1)
    · refine iff_of_false (fun h => ?_) (fun h => ?_)
      · exact (List.pairwise_cons.1 h).1 _ List.mem_cons_self rfl
      · simp only [List.length_cons] at h
        omega

theorem ends_moved {left activated : Text} (hmoved : Moved node left activated) : ∃ left activated, Moved last left activated := by
  induction h generalizing left activated with
  | nil => exact ⟨_, _, hmoved⟩
  | failed hactive hversions _ ih => exact ih (hmoved.congr hactive hversions)
  | moved _ _ hmoved' _ ih => exact ih hmoved'

/-- Where a stretch ends: without a success the versions are as they were, and else it is after a move. -/
theorem ends : Tracked last ∧ ((moves = [] ∧ last.dataplane.activeVersion = node.dataplane.activeVersion ∧
        last.coordinator.successfulVersions = node.coordinator.successfulVersions) ∨
      (moves ≠ [] ∧ ∃ left activated, Moved last left activated)) := by
  induction h with
  | nil hnode => exact ⟨hnode, .inl ⟨rfl, rfl, rfl⟩⟩
  | failed hactive hversions _ ih =>
    rw [← hactive, ← hversions]
    exact ih
  | moved _ _ hmoved hrest ih => exact ⟨ih.1, .inr ⟨List.cons_ne_nil _ _, hrest.ends_moved hmoved⟩⟩

end Stretch

/-- **A stretch of rollbacks without targets walks back exactly when at most one of them succeeds**; and an attempt fails for want
of a candidate exactly when none has succeeded before it and no version noted differs from the active one. -/
theorem runAll_walksBack_iff {node : RolloutNode Snap η} (hnode : node.Reachable ops hook) (attempts : List (RollbackAttempt Snap))
    (hcontrols : ∀ attempt ∈ attempts, attempt.control.Coherent ops) :
    (WalksBack (runAll ops hook attempts node).1 ↔ (runAll ops hook attempts node).1.length ≤ 1) ∧
    ∀ before attempt after, attempts = before ++ attempt :: after →
      ((attempt.run ops hook (runAll ops hook before node).2).1 = .error .noRollbackCandidate ↔
        (runAll ops hook before node).1 = [] ∧
          ∀ version ∈ node.coordinator.successfulVersions, node.dataplane.activeVersion = some version) := by
  have htr := tracked_of_reachable hnode
  refine ⟨(runAll_stretch attempts hcontrols htr).walksBack_iff, ?_⟩
  rintro before attempt after rfl
  have hcontrol : attempt.control.Coherent ops := hcontrols attempt (by simp)
  have hbef : ∀ a ∈ before, a.control.Coherent ops := fun a ha => hcontrols a (List.mem_append_left _ ha)
  obtain ⟨hl, hen⟩ := (@runAll_stretch _ _ ops hook before node hbef htr).ends
  -- the attempt fails so exactly when there is no candidate where it starts
  have hn : (attempt.run ops hook (runAll ops hook before node).2).1 = .error .noRollbackCandidate ↔
      (runAll ops hook before node).2.coordinator.rollbackCandidate
        (runAll ops hook before node).2.dataplane.activeVersion = none := by
    rcases @run_cases _ _ ops hook attempt hcontrol _ hl with ⟨e, node', hrun, -, -, he⟩ |
      ⟨response, node', left, hrun, -, hcandidate, -⟩
    · rw [hrun, ← he]
      exact ⟨fun h => Except.error.inj h, fun h => congrArg Except.error h⟩
    · rw [hrun, hcandidate]
      exact iff_of_false (fun h => by cases h) (fun h => by cases h)
  rw [hn]
  rcases hen with ⟨hnil, hactive, hversions⟩ | ⟨hmov, left, activated, hmoved⟩
  · rw [candidate_none_iff, hactive, hversions]
    exact ⟨fun h => ⟨hnil, h⟩, fun h => h.2⟩
  · rw [candidate_of_moved hmoved]
    exact iff_of_false (fun h => by cases h) (fun h => hmov h.1)

def twoVersions : SnapshotRegistry Text :=
  (publishAt digestOps (digestRequest (lit "v2") '2') 2
    (publishAt digestOps (digestRequest (lit "v1") '1') 1 {}).2).2

theorem twoVersions_coherent : twoVersions.Coherent digestOps := (SnapshotRegistry.Coherent.empty.publishAt _ 1).publishAt _ 2

def upgradedNode : RolloutNode Text Unit :=
  (RolloutCoordinator.rolloutAt digestOps (noopSnapshotActivationHook Text) twoVersions ⟨lit "v2", none, none⟩ 4
    (RolloutCoordinator.rolloutAt digestOps (noopSnapshotActivationHook Text) twoVersions ⟨lit "v1", none, none⟩ 3
      { dataplane := { hookState := () } }).2).2

theorem upgradedNode_reachable : upgradedNode.Reachable digestOps (noopSnapshotActivationHook Text) :=
  .rolledOut twoVersions_coherent _ 4 (.rolledOut twoVersions_coherent _ 3 (.new (.new ())))

/-- One rollback goes back to `v1`. -/
theorem upgradedNode_walksBack :
    WalksBack (runAll digestOps (noopSnapshotActivationHook Text)
      [{ control := twoVersions, occurredAtUnixMs := 5 }] upgradedNode).1 := by
  refine (runAll_walksBack_iff upgradedNode_reachable [{ control := twoVersions, occurredAtUnixMs := 5 }] ?_).1.2 (by decide +kernel)
  intro attempt hatt
  rw [List.mem_singleton] at hatt
  rw [hatt]
  exact twoVersions_coherent

/-- The second of two rollbacks goes forward to `v2` again. -/
theorem upgradedNode_returns :
    upgradedNode.Reachable digestOps (noopSnapshotActivationHook Text) ∧
    (runAll digestOps (noopSnapshotActivationHook Text)
      [{ control := twoVersions, occurredAtUnixMs := 5 }, { control := twoVersions, occurredAtUnixMs := 6 }] upgradedNode).1 =
        [⟨some (lit "v2"), lit "v1"⟩, ⟨some (lit "v1"), lit "v2"⟩] ∧
    ¬ WalksBack (runAll digestOps (noopSnapshotActivationHook Text)
      [{ control := twoVersions, occurredAtUnixMs := 5 }, { control := twoVersions, occurredAtUnixMs := 6 }] upgradedNode).1 := by
  refine ⟨upgradedNode_reachable, by decide +kernel, fun h => ?_⟩
  exact (List.pairwise_cons.1 h).1 _ List.mem_cons_self rfl

end RollbackAttempt

end WayBalancer
