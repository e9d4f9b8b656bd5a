import WayBalancer.FleetWaves
/-!
# FleetRollout — rolling a version out to a fleet, and back

`FleetRolloutCoordinator` (`crates/admin-api/src/fleet.rs`): a request is checked, then the nodes are acted on in order until
the strategy halts, then the fleet's convergence is read off the nodes.  The published versions are given by a lookup.
-/
namespace WayBalancer

open Str Word

inductive FleetConvergenceState
  | converged
  | progressing
  | diverged
  | degraded
deriving DecidableEq, Repr

inductive FleetRecommendedAction
  | observeOnly
  | waitForConvergence
  | retryFailedNodes
  | rollbackFleet
  | investigatePartition
deriving DecidableEq, Repr

inductive FleetNodeConvergenceState
  | converged
  | pending
  | diverged
  | unavailable
deriving DecidableEq, Repr

inductive FleetNodeActionResult
  | applied
  | unchanged
  | failed
  | skipped
deriving DecidableEq, Repr

structure FleetNodeStatus where
  nodeId : Text
  desiredVersion : Option Text
  desiredDigestSha256 : Option Text
  activeVersion : Option Text
  activeDigestSha256 : Option Text
  lastKnownGoodVersion : Option Text
  readiness : Option Text
  observedAtUnixMs : ℕ
  convergenceState : FleetNodeConvergenceState
  detail : Option Text
deriving DecidableEq, Repr

structure FleetNodeActionOutcome where
  nodeId : Text
  result : FleetNodeActionResult
  activeVersion : Option Text
  activeDigestSha256 : Option Text
  lastKnownGoodVersion : Option Text
  detail : Text
deriving DecidableEq, Repr

structure FleetConvergenceReport where
  desiredVersion : Text
  desiredDigestSha256 : Text
  state : FleetConvergenceState
  recommendedAction : FleetRecommendedAction
  rolloutStartedAtUnixMs : ℕ
  divergenceDeadlineUnixMs : ℕ
  exceededDivergenceBudget : Bool
  convergedNodes : ℕ
  pendingNodes : ℕ
  divergedNodes : ℕ
  unavailableNodes : ℕ
  partialRollout : Bool
  nodes : List FleetNodeStatus
deriving DecidableEq, Repr

structure FleetRollbackRequest where
  targetVersion : Option Text
  requestedBy : Option Text
  reason : Option Text
  nodeIds : List Text
  maxAllowedDivergenceMs : ℕ
deriving DecidableEq, Repr

structure FleetRolloutResponse where
  action : RolloutActionKind
  strategy : FleetRolloutStrategy
  desiredVersion : Text
  desiredDigestSha256 : Text
  sharedLastKnownGoodVersion : Option Text
  convergence : FleetConvergenceReport
  nodeOutcomes : List FleetNodeActionOutcome
deriving DecidableEq, Repr

structure FleetRolloutHistoryEntry where
  action : RolloutActionKind
  strategy : FleetRolloutStrategy
  targetVersion : Text
  desiredDigestSha256 : Text
  convergenceState : FleetConvergenceState
  convergedNodes : ℕ
  pendingNodes : ℕ
  divergedNodes : ℕ
  unavailableNodes : ℕ
  occurredAtUnixMs : ℕ
  detail : Text
deriving DecidableEq, Repr

structure FleetRolloutMetrics where
  rolloutCount : ℕ := 0
  rollbackCount : ℕ := 0
  convergedFleetCount : ℕ := 0
  partialFailureCount : ℕ := 0
  divergenceCount : ℕ := 0
  degradedCount : ℕ := 0
  auditEventCount : ℕ := 0
  historySize : ℕ := 0
deriving DecidableEq, Repr

structure FleetRolloutCoordinator where
  history : List FleetRolloutHistoryEntry := []
  metrics : FleetRolloutMetrics := {}
deriving DecidableEq, Repr

/-- The counters of `ListenerCanaryCoordinator`. -/
structure ListenerCanaryMetrics where
  applyCount : ℕ := 0
  blockedApplyCount : ℕ := 0
  autoRollbackCount : ℕ := 0
deriving DecidableEq, Repr

/-- The nodes, the coordinators, what has been asked of the nodes so far, and the clock readings to come. -/
structure FleetWorld (σ : Type) where
  backend : σ
  coordinator : FleetRolloutCoordinator := {}
  metrics : ListenerCanaryMetrics := {}
  trace : List FleetEvent := []
  readings : List (Option ℕ)

/-! ## Checks -/

inductive InvalidFleetRequest
  | emptyNodeIds
  | tooManyNodes
  | emptyNodeId
  | duplicateNodeId (nodeId : Text)
  | nodeIdTooLong
  | zeroMaxAllowedDivergenceMs
  | zeroCanaryNodes
deriving DecidableEq, Repr

inductive InvalidRolloutRequest
  | emptyVersion
  | invalidVersionFormat
  | versionTooLong
  | emptyRequestedBy
  | requestedByTooLong
  | emptyReason
  | reasonTooLong
deriving DecidableEq, Repr

inductive FleetRolloutError
  | invalidFleetRequest (error : InvalidFleetRequest)
  | invalidRolloutRequest (error : InvalidRolloutRequest)
  | unknownPublishedVersion (version : Text)
  | noSharedRollbackCandidate
  | statusUnavailable (nodeId detail : Text)
deriving DecidableEq, Repr

def maxFleetNodes : ℕ := 128

def maxNodeIdLen : ℕ := 128

def validateNodeIds (seen : List Text) : List Text → Except InvalidFleetRequest Unit
  | []           => .ok ()
  | node :: rest =>
    let nodeId := trim node
    if nodeId.isEmpty then .error .emptyNodeId
    else if byteLen nodeId > maxNodeIdLen then .error .nodeIdTooLong
    else if seen.contains nodeId then .error (.duplicateNodeId nodeId)
    else validateNodeIds (nodeId :: seen) rest

theorem validateNodeIds_nodup : ∀ {nodes seen : List Text}, validateNodeIds seen nodes = .ok () →
    (nodes.map trim).Nodup ∧ ∀ node ∈ nodes, trim node ∉ seen
  | [], _, _ => ⟨List.nodup_nil, fun _ h => (by cases h)⟩
  | node :: nodes, seen, h => by
    unfold validateNodeIds at h
    dsimp only at h
    split_ifs at h with _ _ hs
    obtain ⟨hnd, hnew⟩ := validateNodeIds_nodup h
    refine ⟨List.nodup_cons.2 ⟨fun hm => ?_, hnd⟩, fun other hoth => ?_⟩
    · obtain ⟨other, hoth, heq⟩ := List.mem_map.1 hm
      exact hnew other hoth (heq ▸ List.mem_cons_self)
    · rcases List.mem_cons.1 hoth with rfl | hoth
      · simpa using hs
      · exact fun hm => hnew other hoth (List.mem_cons_of_mem _ hm)

def validateFleetRequest (nodeIds : List Text) (strategy : FleetRolloutStrategy) (maxAllowedDivergenceMs : ℕ) :
    Except InvalidFleetRequest Unit :=
  if nodeIds.isEmpty then .error .emptyNodeIds
  else if nodeIds.length > maxFleetNodes then .error .tooManyNodes
  else if maxAllowedDivergenceMs = 0 then .error .zeroMaxAllowedDivergenceMs
  else match validateNodeIds [] nodeIds with
    | .error e => .error e
    | .ok ()   => if strategy = .canary 0 then .error .zeroCanaryNodes else .ok ()

def maxVersionLen : ℕ := 128

def maxActorLen : ℕ := 128

def maxReasonLen : ℕ := 256

/-- An optional text, trimmed, is neither empty nor too long. -/
def checkOptionalText (maxLen : ℕ) (empty tooLong : InvalidRolloutRequest) : Option Text → Except InvalidRolloutRequest Unit
  | none      => .ok ()
  | some text =>
    if (trim text).isEmpty then .error empty else if byteLen (trim text) > maxLen then .error tooLong else .ok ()

def isVersionByte (b : UInt8) : Bool :=
  (48 ≤ b && b ≤ 57) || (65 ≤ b && b ≤ 90) || (97 ≤ b && b ≤ 122) || b == 45 || b == 95 || b == 46

def validateRolloutRequest (version : Text) (requestedBy reason : Option Text) : Except InvalidRolloutRequest Unit :=
  let version := trim version
  if version.isEmpty then .error .emptyVersion
  else if byteLen version > maxVersionLen then .error .versionTooLong
  else if !(utf8 version).all isVersionByte then .error .invalidVersionFormat
  else do
    checkOptionalText maxActorLen .emptyRequestedBy .requestedByTooLong requestedBy
    checkOptionalText maxReasonLen .emptyReason .reasonTooLong reason

/-! ## Acting on the nodes -/

section
variable {σ : Type}

/-- The nodes' rollout as an operation on the world, noted in the trace. -/
def rolloutOperation (backend : FleetNodeBackend σ) (request : RolloutRequest) (now : ℕ) (node : Text) :
    Proc (FleetWorld σ) FleetNodeBackendError RolloutResponse := fun w =>
  let (r, s) := backend.rolloutNode node request now w.backend
  (r, { w with backend := s, trace := w.trace ++ [.rolloutNode node] })

def rollbackOperation (backend : FleetNodeBackend σ) (request : RollbackRequest) (now : ℕ) (node : Text) :
    Proc (FleetWorld σ) FleetNodeBackendError RolloutResponse := fun w =>
  let (r, s) := backend.rollbackNode node request now w.backend
  (r, { w with backend := s, trace := w.trace ++ [.rollbackNode node] })

/-- Whether an error at a node's index halts the loop. -/
def FleetRolloutStrategy.haltsAt (index : ℕ) : FleetRolloutStrategy → Bool
  | .immediate          => false
  | .sequential         => true
  | .canary canaryNodes => index < canaryNodes

def acceptedOutcome (action : RolloutActionKind) (node : Text) (response : RolloutResponse) : FleetNodeActionOutcome where
  nodeId := node
  result := match response.result with
    | .applied   => .applied
    | .unchanged => .unchanged
    | .rejected  => .failed
  activeVersion := some response.activeVersion
  activeDigestSha256 := some response.activeDigestSha256
  lastKnownGoodVersion := some response.lastKnownGoodVersion
  detail := match action with
    | .rollout  => lit "node accepted fleet rollout request"
    | .rollback => lit "node accepted fleet rollback request"

def unansweredOutcome (node : Text) (result : FleetNodeActionResult) (detail : Text) : FleetNodeActionOutcome :=
  ⟨node, result, none, none, none, detail⟩

/-- The loop of `execute_action` from a node's index on. -/
def actOnNodes (action : RolloutActionKind) (strategy : FleetRolloutStrategy)
    (operation : Text → Proc (FleetWorld σ) FleetNodeBackendError RolloutResponse) (index : ℕ) (halted : Bool) :
    List Text → FleetWorld σ → List FleetNodeActionOutcome × FleetWorld σ
  | [], w            => ([], w)
  | node :: nodes, w =>
    if halted then
      let (outcomes, w) := actOnNodes action strategy operation (index + 1) true nodes w
      (unansweredOutcome node .skipped (lit "rollout halted before this node was updated") :: outcomes, w)
    else match operation node w with
      | (.ok response, w) =>
        let (outcomes, w) := actOnNodes action strategy operation (index + 1) false nodes w
        (acceptedOutcome action node response :: outcomes, w)
      | (.error error, w) =>
        let (outcomes, w) := actOnNodes action strategy operation (index + 1) (strategy.haltsAt index) nodes w
        (unansweredOutcome node .failed error.toText :: outcomes, w)

section Loop

variable {action : RolloutActionKind} {strategy : FleetRolloutStrategy}
  {operation : Text → Proc (FleetWorld σ) FleetNodeBackendError RolloutResponse}

def skippedOutcome (node : Text) : FleetNodeActionOutcome :=
  unansweredOutcome node .skipped (lit "rollout halted before this node was updated")

theorem actOnNodes_skips : ∀ {nodes : List Text} {index : ℕ} {w : FleetWorld σ},
    actOnNodes action strategy operation index true nodes w = (nodes.map skippedOutcome, w)
  | [], _, _ => rfl
  | node :: nodes, index, w => by
    rw [actOnNodes, if_pos rfl, actOnNodes_skips]
    rfl

variable {w w' : FleetWorld σ} {node : Text}

theorem actOnNodes_ok {response : RolloutResponse} (h : operation node w = (.ok response, w')) (index : ℕ) (nodes : List Text) :
    actOnNodes action strategy operation index false (node :: nodes) w =
      (acceptedOutcome action node response :: (actOnNodes action strategy operation (index + 1) false nodes w').1,
        (actOnNodes action strategy operation (index + 1) false nodes w').2) := by
  rw [actOnNodes, if_neg Bool.false_ne_true, h]

theorem actOnNodes_error {error : FleetNodeBackendError} (h : operation node w = (.error error, w')) (index : ℕ) (nodes : List Text) :
    actOnNodes action strategy operation index false (node :: nodes) w = (unansweredOutcome node .failed error.toText ::
          (actOnNodes action strategy operation (index + 1) (strategy.haltsAt index) nodes w').1,
        (actOnNodes action strategy operation (index + 1) (strategy.haltsAt index) nodes w').2) := by
  rw [actOnNodes, if_neg Bool.false_ne_true, h]

theorem actOnNodes_keeps {P : FleetWorld σ → Prop} (hop : ∀ nodeId w, P w → P (operation nodeId w).2) :
    ∀ (nodes : List Text) (index : ℕ) (halted : Bool) (w : FleetWorld σ), P w →
      P (actOnNodes action strategy operation index halted nodes w).2
  | [], _, _, _, h => h
  | _ :: nodes, index, true, w, h => actOnNodes_keeps hop nodes (index + 1) true w h
  | nodeId :: nodes, index, false, w, h => by
    have hs := hop nodeId w h
    rcases hrun : operation nodeId w with ⟨error | response, w'⟩
    · rw [hrun] at hs
      rw [actOnNodes_error hrun]
      exact actOnNodes_keeps hop nodes (index + 1) (strategy.haltsAt index) w' hs
    · rw [hrun] at hs
      rw [actOnNodes_ok hrun]
      exact actOnNodes_keeps hop nodes (index + 1) false w' hs

end Loop

theorem rolloutOperation_of_call {backend : FleetNodeBackend σ} {request : RolloutRequest} {now : ℕ} {node : Text}
    {w : FleetWorld σ} {result : Except FleetNodeBackendError RolloutResponse} {s : σ}
    (h : backend.rolloutNode node request now w.backend = (result, s)) : rolloutOperation backend request now node w =
      (result, { w with backend := s, trace := w.trace ++ [.rolloutNode node] }) := by
  simp only [rolloutOperation, h]

/-! ## Convergence -/

def nodeStatus (outcomes : List FleetNodeActionOutcome) (desiredVersion desiredDigestSha256 : Text) (startedAt deadline : ℕ)
    (node : Text) : Except FleetNodeBackendError FleetNodeRuntimeStatus → FleetNodeStatus
  | .ok status =>
    let outcomeDetail := (outcomes.find? (fun o => o.nodeId = node)).map (·.detail)
    let (convergenceState, detail) : FleetNodeConvergenceState × Option Text :=
      if status.activeVersion = some desiredVersion ∧ status.activeDigestSha256 = some desiredDigestSha256 then
        (.converged, none)
      else if status.observedAtUnixMs ≤ deadline then (.pending, outcomeDetail)
      else (.diverged, outcomeDetail.or
        (some (lit "node did not apply the desired snapshot within the convergence budget")))
    ⟨status.nodeId, status.desiredVersion, status.desiredDigestSha256, status.activeVersion, status.activeDigestSha256,
      status.lastKnownGoodVersion, status.readiness, status.observedAtUnixMs, convergenceState, detail⟩
  | .error error => ⟨node, none, none, none, none, none, none, startedAt, .unavailable, some error.toText⟩

def countNodes (state : FleetNodeConvergenceState) (nodes : List FleetNodeStatus) : ℕ :=
  (nodes.filter (fun n => n.convergenceState = state)).length

def recommendedAction (state : FleetConvergenceState) (unavailable : ℕ) : FleetRecommendedAction :=
  match state with
  | .converged   => .observeOnly
  | .progressing => .waitForConvergence
  | .diverged    => .rollbackFleet
  | .degraded    => if unavailable > 0 then .investigatePartition else .retryFailedNodes

def buildConvergenceReport (backend : FleetNodeBackend σ) (s : σ) (nodeIds : List Text)
    (outcomes : List FleetNodeActionOutcome) (desiredVersion desiredDigestSha256 : Text)
    (rolloutStartedAtUnixMs maxAllowedDivergenceMs : ℕ) : FleetConvergenceReport :=
  let deadline := satAdd rolloutStartedAtUnixMs maxAllowedDivergenceMs
  let nodes := nodeIds.map (fun node =>
    nodeStatus outcomes desiredVersion desiredDigestSha256 rolloutStartedAtUnixMs deadline node (backend.fetchStatus s node))
  let converged := countNodes .converged nodes
  let unavailable := countNodes .unavailable nodes
  let diverged := countNodes .diverged nodes
  let state : FleetConvergenceState :=
    if converged = nodeIds.length then .converged
    else if unavailable > 0 ∨ outcomes.any (fun o => o.result = .failed) then .degraded
    else if diverged > 0 then .diverged
    else .progressing
  { desiredVersion, desiredDigestSha256, state, recommendedAction := recommendedAction state unavailable,
    rolloutStartedAtUnixMs, divergenceDeadlineUnixMs := deadline,
    exceededDivergenceBudget := decide (rolloutStartedAtUnixMs ≥ deadline) && decide (state ≠ .converged),
    convergedNodes := converged, pendingNodes := countNodes .pending nodes, divergedNodes := diverged,
    unavailableNodes := unavailable, partialRollout := decide (converged > 0) && decide (converged < nodeIds.length), nodes }

/-- The version all the nodes name, none where one names none or two differ. -/
def sharedVersion : List (Option Text) → Option Text
  | []               => none
  | none :: _        => none
  | some v :: others => if others.all (fun o => o = some v) then some v else none

def sharedLastKnownGoodVersion (nodes : List FleetNodeStatus) : Option Text :=
  sharedVersion (nodes.map (·.lastKnownGoodVersion))

/-! ## The coordinator -/

def historyDetail : FleetConvergenceState → Text
  | .converged   => lit "fleet converged on desired snapshot"
  | .progressing => lit "fleet rollout is within bounded eventual convergence window"
  | .diverged    => lit "fleet exceeded the configured convergence budget"
  | .degraded    => lit "fleet rollout completed with partial node failures"

def FleetRolloutCoordinator.pushHistory (c : FleetRolloutCoordinator) (entry : FleetRolloutHistoryEntry) :
    FleetRolloutCoordinator where
  history := c.history ++ [entry]
  metrics := { c.metrics with
    auditEventCount := satAdd c.metrics.auditEventCount 1
    historySize := (c.history ++ [entry]).length }

def FleetRolloutMetrics.count (m : FleetRolloutMetrics) (action : RolloutActionKind) (state : FleetConvergenceState) :
    FleetRolloutMetrics :=
  let m := match action with
    | .rollout  => { m with rolloutCount := satAdd m.rolloutCount 1 }
    | .rollback => { m with rollbackCount := satAdd m.rollbackCount 1 }
  match state with
  | .converged   => { m with convergedFleetCount := satAdd m.convergedFleetCount 1 }
  | .diverged    => { m with divergenceCount := satAdd m.divergenceCount 1 }
  | .degraded    => { m with
      degradedCount := satAdd m.degradedCount 1
      partialFailureCount := satAdd m.partialFailureCount 1 }
  | .progressing => m

def FleetRolloutCoordinator.record (c : FleetRolloutCoordinator) (action : RolloutActionKind)
    (strategy : FleetRolloutStrategy) (report : FleetConvergenceReport) (now : ℕ) : FleetRolloutCoordinator :=
  let c := c.pushHistory ⟨action, strategy, report.desiredVersion, report.desiredDigestSha256, report.state,
    report.convergedNodes, report.pendingNodes, report.divergedNodes, report.unavailableNodes, now,
    historyDetail report.state⟩
  { c with metrics := c.metrics.count action report.state }

def executeAction (backend : FleetNodeBackend σ) (action : RolloutActionKind) (nodeIds : List Text)
    (strategy : FleetRolloutStrategy) (maxAllowedDivergenceMs : ℕ) (desiredVersion desiredDigestSha256 : Text)
    (operation : Text → Proc (FleetWorld σ) FleetNodeBackendError RolloutResponse) (now : ℕ) :
    Proc (FleetWorld σ) FleetRolloutError FleetRolloutResponse := fun w =>
  let (nodeOutcomes, w) := actOnNodes action strategy operation 0 false nodeIds w
  let convergence := buildConvergenceReport backend w.backend nodeIds nodeOutcomes desiredVersion desiredDigestSha256 now
    maxAllowedDivergenceMs
  (.ok ⟨action, strategy, desiredVersion, desiredDigestSha256, sharedLastKnownGoodVersion convergence.nodes, convergence,
      nodeOutcomes⟩,
    { w with coordinator := w.coordinator.record action strategy convergence now })

structure PublishedVersion where
  version : Text
  digestSha256 : Text
deriving DecidableEq, Repr

def rolloutChecks (published : Text → Option PublishedVersion) (request : FleetRolloutRequest) :
    Except FleetRolloutError PublishedVersion :=
  match validateFleetRequest request.nodeIds request.strategy request.maxAllowedDivergenceMs with
  | .error e => .error (.invalidFleetRequest e)
  | .ok ()   => match validateRolloutRequest request.version request.requestedBy request.reason with
    | .error e => .error (.invalidRolloutRequest e)
    | .ok ()   => match published request.version with
      | none   => .error (.unknownPublishedVersion request.version)
      | some p => .ok p

theorem rolloutChecks_nodup {published : Text → Option PublishedVersion} {request : FleetRolloutRequest}
    {p : PublishedVersion} (h : rolloutChecks published request = .ok p) : request.nodeIds.Nodup := by
  have hfle : validateFleetRequest request.nodeIds request.strategy request.maxAllowedDivergenceMs = .ok () := by
    unfold rolloutChecks at h
    split at h
    · cases h
    · assumption
  unfold validateFleetRequest at hfle
  iterate 3 rw [ite_eq_iff] at hfle
  obtain ⟨_, he⟩ | ⟨_, ⟨_, he⟩ | ⟨_, ⟨_, he⟩ | ⟨_, hfle⟩⟩⟩ := hfle
  any_goals cases he
  split at hfle
  · cases hfle
  · exact ((validateNodeIds_nodup (by assumption)).1).of_map trim

def nodeRequest (p : PublishedVersion) (request : FleetRolloutRequest) : RolloutRequest :=
  ⟨p.version, request.requestedBy, request.reason⟩

def rolloutAt (backend : FleetNodeBackend σ) (published : Text → Option PublishedVersion) (request : FleetRolloutRequest)
    (now : ℕ) : Proc (FleetWorld σ) FleetRolloutError FleetRolloutResponse := do
  let p ← Proc.ofExcept (rolloutChecks published request)
  executeAction backend .rollout request.nodeIds request.strategy request.maxAllowedDivergenceMs p.version p.digestSha256
    (rolloutOperation backend (nodeRequest p request) now) now

def sharedRollbackCandidate (backend : FleetNodeBackend σ) (s : σ) (candidate : Option Text) :
    List Text → Except FleetRolloutError Text
  | []           => match candidate with
    | some version => .ok version
    | none         => .error .noSharedRollbackCandidate
  | node :: rest => match backend.fetchStatus s node with
    | .error e   => .error (.statusUnavailable node e.toText)
    | .ok status => match status.lastKnownGoodVersion with
      | none         => .error .noSharedRollbackCandidate
      | some version =>
        if candidate.any (fun existing => existing ≠ version) then .error .noSharedRollbackCandidate
        else sharedRollbackCandidate backend s (some version) rest

def rollbackChecks (backend : FleetNodeBackend σ) (s : σ) (published : Text → Option PublishedVersion)
    (request : FleetRollbackRequest) : Except FleetRolloutError PublishedVersion := do
  match validateFleetRequest request.nodeIds .sequential request.maxAllowedDivergenceMs with
  | .error e => throw (.invalidFleetRequest e)
  | .ok ()   => pure ()
  match request.targetVersion.map (fun version => validateRolloutRequest version request.requestedBy request.reason) with
  | some (.error e) => throw (.invalidRolloutRequest e)
  | _               => pure ()
  let target ← match request.targetVersion with
    | some version => pure version
    | none         => sharedRollbackCandidate backend s none request.nodeIds
  match published target with
  | none   => throw (.unknownPublishedVersion target)
  | some p => pure p

def rollbackAt (backend : FleetNodeBackend σ) (published : Text → Option PublishedVersion) (request : FleetRollbackRequest)
    (now : ℕ) : Proc (FleetWorld σ) FleetRolloutError FleetRolloutResponse := do
  let w ← Proc.get
  let p ← Proc.ofExcept (rollbackChecks backend w.backend published request)
  executeAction backend .rollback request.nodeIds .sequential request.maxAllowedDivergenceMs p.version p.digestSha256
    (rollbackOperation backend ⟨some p.version, request.requestedBy, request.reason⟩ now) now

/-! ## Aborts -/

inductive FleetAbortReason
  | waveGateFailed
  | waveGateTimedOut
deriving DecidableEq, Repr

inductive FleetAutoRollbackMode
  | disabled
  | onFailedGate
  | onFailedOrTimedOut
deriving DecidableEq, Repr

def FleetAutoRollbackMode.shouldAutoRollback (timedOut : Bool) : FleetAutoRollbackMode → Bool
  | .disabled           => false
  | .onFailedGate       => !timedOut
  | .onFailedOrTimedOut => true

structure FleetAbortRollbackDecision where
  waveId : Text
  shouldAbort : Bool
  shouldAutoRollback : Bool
  reason : Option FleetAbortReason
  detail : Text
deriving DecidableEq, Repr

structure FleetAutoRollbackOutcome where
  attempted : Bool
  succeeded : Bool
  targetVersion : Option Text
  convergenceState : Option FleetConvergenceState
  detail : Text
deriving DecidableEq, Repr

def decideWaveAbortAndRollback (gate : FleetWaveGateEvaluation) (mode : FleetAutoRollbackMode) : FleetAbortRollbackDecision :=
  if gate.verdict = .passed then ⟨gate.waveId, false, false, none, lit "wave gate passed; rollout can continue"⟩
  else if gate.verdict = .pending ∧ gate.timedOut = false then
    ⟨gate.waveId, false, false, none, lit "wave gate pending within timeout; keep observing"⟩
  else
    let rollback := mode.shouldAutoRollback gate.timedOut
    ⟨gate.waveId, true, rollback, some (if gate.timedOut then .waveGateTimedOut else .waveGateFailed),
      if rollback then lit "wave gate failed; aborting rollout and triggering automatic rollback"
      else lit "wave gate failed; aborting rollout and waiting for operator rollback"⟩

def executeAutoRollbackIfNeeded (backend : FleetNodeBackend σ) (published : Text → Option PublishedVersion)
    (nodeIds : List Text) (decision : FleetAbortRollbackDecision) (requestedBy reason : Option Text)
    (maxAllowedDivergenceMs now : ℕ) : Proc (FleetWorld σ) FleetRolloutError FleetAutoRollbackOutcome :=
  if decision.shouldAutoRollback then do
    let response ← rollbackAt backend published
      { targetVersion := none
        requestedBy
        reason := some ((reason.elim [] (fun existing => existing ++ lit "; ")) ++ lit "automatic rollback after " ++
          decision.detail)
        nodeIds
        maxAllowedDivergenceMs } now
    return ⟨true, response.convergence.state = .converged, some response.desiredVersion, some response.convergence.state,
      if response.convergence.state = .converged then
        lit "automatic rollback converged fleet to the shared last-known-good snapshot"
      else lit "automatic rollback executed but fleet did not fully converge"⟩
  else pure ⟨false, false, none, none, lit "automatic rollback not requested by decision policy"⟩

end

end WayBalancer
