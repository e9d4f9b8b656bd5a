import WayBalancer.FleetNodes
import WayBalancer.SortedMap
/-!
# FleetWaves — staged plans and the gates between their waves

`crates/admin-api/src/fleet_staged.rs` and `fleet_gate.rs`: a plan assigns every requested node to one wave; a wave's gate
compares the health signals of its nodes with the wave's policy.
-/
namespace WayBalancer

open Str Word

inductive FleetHealthGateMode
  | required
  | bestEffort
deriving DecidableEq, Repr

structure FleetHealthGatePolicy where
  mode : FleetHealthGateMode := .required
  minReadyPercent : ℕ := 95
  maxErrorPercent : ℕ := 5
  evaluationWindowMs : ℕ := 30000
  timeoutMs : ℕ := 120000
deriving DecidableEq, Repr

structure FleetRolloutWaveDefinition where
  waveId : Text
  nodeIds : List Text
  maxParallel : ℕ
  gatePolicy : FleetHealthGatePolicy
deriving DecidableEq, Repr

inductive FleetRolloutStrategy
  | immediate
  | sequential
  | canary (canaryNodes : ℕ)
deriving DecidableEq, Repr

structure FleetRolloutRequest where
  version : Text
  requestedBy : Option Text
  reason : Option Text
  nodeIds : List Text
  strategy : FleetRolloutStrategy
  maxAllowedDivergenceMs : ℕ
deriving DecidableEq, Repr

/-! ## Plans -/

structure FleetStagedRolloutRequest where
  rollout : FleetRolloutRequest
  waves : List FleetRolloutWaveDefinition
deriving DecidableEq, Repr

structure FleetStagedRolloutPlan where
  rollout : FleetRolloutRequest
  waves : List FleetRolloutWaveDefinition
  nodeToWave : SortedMap Text Text

inductive InvalidFleetStagedRolloutRequest
  | emptyWaves
  | emptyWaveId
  | waveIdTooLong
  | duplicateWaveId (waveId : Text)
  | emptyWaveNodes (waveId : Text)
  | zeroMaxParallel (waveId : Text)
  | maxParallelExceedsWaveSize (waveId : Text)
  | duplicateNodeAcrossWaves (nodeId : Text)
  | unassignedNode (nodeId : Text)
  | unknownNodeInWave (nodeId : Text)
  | zeroGateEvaluationWindow (waveId : Text)
  | zeroGateTimeout (waveId : Text)
  | invalidGateReadyPercent (waveId : Text)
  | invalidGateErrorPercent (waveId : Text)
deriving DecidableEq, Repr

def maxWaveIdLen : ℕ := 64

def checkWave (seen : List Text) (wave : FleetRolloutWaveDefinition) : Except InvalidFleetStagedRolloutRequest Unit :=
  let waveId := trim wave.waveId
  if waveId.isEmpty then .error .emptyWaveId
  else if byteLen waveId > maxWaveIdLen then .error .waveIdTooLong
  else if waveId ∈ seen then .error (.duplicateWaveId waveId)
  else if wave.nodeIds.isEmpty then .error (.emptyWaveNodes waveId)
  else if wave.maxParallel = 0 then .error (.zeroMaxParallel waveId)
  else if wave.maxParallel > wave.nodeIds.length then .error (.maxParallelExceedsWaveSize waveId)
  else if wave.gatePolicy.evaluationWindowMs = 0 then .error (.zeroGateEvaluationWindow waveId)
  else if wave.gatePolicy.timeoutMs = 0 then .error (.zeroGateTimeout waveId)
  else if wave.gatePolicy.minReadyPercent = 0 ∨ wave.gatePolicy.minReadyPercent > 100 then
    .error (.invalidGateReadyPercent waveId)
  else if wave.gatePolicy.maxErrorPercent > 100 then .error (.invalidGateErrorPercent waveId)
  else .ok ()

/-- A wave's nodes, one by one; the map's keys are the nodes assigned so far. -/
def assignNodes (expected : List Text) (waveId : Text) (nodeToWave : SortedMap Text Text) :
    List Text → Except InvalidFleetStagedRolloutRequest (SortedMap Text Text)
  | []           => .ok nodeToWave
  | node :: rest =>
    let nodeId := trim node
    if nodeId ∉ expected then .error (.unknownNodeInWave nodeId)
    else if (nodeToWave.get? nodeId).isSome then .error (.duplicateNodeAcrossWaves nodeId)
    else assignNodes expected waveId (nodeToWave.insert nodeId waveId) rest

def assignWaves (expected : List Text) (seen : List Text) (nodeToWave : SortedMap Text Text) :
    List FleetRolloutWaveDefinition → Except InvalidFleetStagedRolloutRequest (SortedMap Text Text)
  | []           => .ok nodeToWave
  | wave :: rest => do
    checkWave seen wave
    let nodeToWave ← assignNodes expected (trim wave.waveId) nodeToWave wave.nodeIds
    assignWaves expected (trim wave.waveId :: seen) nodeToWave rest

/-- The requested nodes, trimmed, in the order a `BTreeSet` lists them. -/
def expectedNodes (nodeIds : List Text) : List Text := ((nodeIds.map trim).insertionSort (· ≤ ·)).destutter (· ≠ ·)

def planStagedRollout (request : FleetStagedRolloutRequest) :
    Except InvalidFleetStagedRolloutRequest FleetStagedRolloutPlan :=
  if request.waves.isEmpty then .error .emptyWaves
  else do
    let expected := expectedNodes request.rollout.nodeIds
    let nodeToWave ← assignWaves expected [] .empty request.waves
    match expected.find? (fun node => (nodeToWave.get? node).isNone) with
    | some node => .error (.unassignedNode node)
    | none      => .ok { rollout := request.rollout, waves := request.waves, nodeToWave }

/-! ## Gates -/

structure FleetWaveGateEvaluation where
  waveId : Text
  verdict : FleetWaveGateVerdict
  degraded : Bool
  mode : FleetHealthGateMode
  evaluatedNodes : ℕ
  missingNodes : ℕ
  failingNodes : ℕ
  timedOut : Bool
  detail : Text
  signals : List FleetNodeHealthSignal
deriving DecidableEq, Repr

def collectWaveHealthSignals {σ : Type} (backend : FleetNodeBackend σ) (s : σ) (wave : FleetRolloutWaveDefinition) :
    SortedMap Text FleetNodeHealthSignal :=
  wave.nodeIds.foldl (fun signals node =>
    match backend.fetchHealthSignals s node wave.gatePolicy.evaluationWindowMs with
    | .ok (some signal) => signals.insert node signal
    | _                 => signals) .empty

def FleetHealthGatePolicy.failsOn (policy : FleetHealthGatePolicy) (signal : FleetNodeHealthSignal) : Bool :=
  signal.readyPercent < policy.minReadyPercent || signal.errorPercent > policy.maxErrorPercent

def countsText (before : String) (failing missing : ℕ) : Text :=
  lit before ++ Nat.toDigits 10 failing ++ lit " failing and " ++ Nat.toDigits 10 missing ++ lit " missing nodes"

def gateVerdict (mode : FleetHealthGateMode) (failing missing : ℕ) (timedOut : Bool) : FleetWaveGateVerdict × Bool × Text :=
  match mode with
  | .required =>
    if failing = 0 ∧ missing = 0 then (.passed, false, lit "all nodes satisfy required wave gate thresholds")
    else if timedOut then (.failed, true, countsText "required wave gate timed out with " failing missing)
    else (.pending, decide (failing > 0), countsText "required wave gate pending: " failing missing)
  | .bestEffort =>
    if failing > 0 ∨ missing > 0 then (.passed, true, countsText "best-effort wave gate accepted with " failing missing)
    else (.passed, false, lit "all nodes satisfy best-effort wave gate thresholds")

def evaluateWaveGateWithPolicy (waveId : Text) (nodeIds : List Text) (policy : FleetHealthGatePolicy)
    (signals : SortedMap Text FleetNodeHealthSignal) (waveStartedAtUnixMs evaluatedAtUnixMs : ℕ) : FleetWaveGateEvaluation :=
  let timedOut := decide (evaluatedAtUnixMs ≥ satAdd waveStartedAtUnixMs policy.timeoutMs)
  let ingested := nodeIds.filterMap signals.get?
  let missing := (nodeIds.filter (fun node => (signals.get? node).isNone)).length
  let failing := (ingested.filter policy.failsOn).length
  let (verdict, degraded, detail) := gateVerdict policy.mode failing missing timedOut
  { waveId, verdict, degraded, mode := policy.mode, evaluatedNodes := ingested.length, missingNodes := missing,
    failingNodes := failing, timedOut, detail, signals := ingested }

def evaluateWaveGate (wave : FleetRolloutWaveDefinition) (signals : SortedMap Text FleetNodeHealthSignal)
    (waveStartedAtUnixMs evaluatedAtUnixMs : ℕ) : FleetWaveGateEvaluation :=
  evaluateWaveGateWithPolicy wave.waveId wave.nodeIds wave.gatePolicy signals waveStartedAtUnixMs evaluatedAtUnixMs

end WayBalancer
