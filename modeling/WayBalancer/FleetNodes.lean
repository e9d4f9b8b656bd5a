import WayBalancer.Text
import WayBalancer.Proc
/-!
# FleetNodes — the nodes of a fleet and what is asked of them

The backend of `crates/admin-api/src/fleet.rs` is a trait; here it is any functions over any state.  Its `&self` methods
read the state, its `&mut self` methods change it.  Every call that changes a node, and every verdict of a wave's gate, is
noted in the world's trace; the clock is a list of readings, none where reading it fails.
-/
namespace WayBalancer

open Str Word

inductive RolloutActionKind
  | rollout
  | rollback
deriving DecidableEq, Repr

inductive RolloutResultKind
  | applied
  | unchanged
  | rejected
deriving DecidableEq, Repr

structure RolloutRequest where
  version : Text
  requestedBy : Option Text
  reason : Option Text
deriving DecidableEq, Repr

structure RollbackRequest where
  targetVersion : Option Text
  requestedBy : Option Text
  reason : Option Text
deriving DecidableEq, Repr

structure RolloutResponse where
  action : RolloutActionKind
  result : RolloutResultKind
  activeVersion : Text
  activeDigestSha256 : Text
  lastKnownGoodVersion : Text
deriving DecidableEq, Repr

structure FleetNodeRuntimeStatus where
  nodeId : Text
  desiredVersion : Option Text
  desiredDigestSha256 : Option Text
  activeVersion : Option Text
  activeDigestSha256 : Option Text
  lastKnownGoodVersion : Option Text
  readiness : Option Text
  observedAtUnixMs : ℕ
deriving DecidableEq, Repr

structure FleetNodeHealthSignal where
  nodeId : Text
  windowMs : ℕ
  observedAtUnixMs : ℕ
  readyPercent : ℕ
  errorPercent : ℕ
  requestCount : ℕ
deriving DecidableEq, Repr

inductive FleetNodeBackendError
  | unreachable (detail : Text)
  | rejected (detail : Text)
deriving DecidableEq, Repr

def FleetNodeBackendError.toText : FleetNodeBackendError → Text
  | .unreachable detail => lit "node unreachable: " ++ detail
  | .rejected detail    => lit "node rejected operation: " ++ detail

structure FleetNodeBackend (σ : Type) where
  fetchStatus : σ → Text → Except FleetNodeBackendError FleetNodeRuntimeStatus
  fetchHealthSignals : σ → Text → ℕ → Except FleetNodeBackendError (Option FleetNodeHealthSignal)
  rolloutNode : Text → RolloutRequest → ℕ → Proc σ FleetNodeBackendError RolloutResponse
  rollbackNode : Text → RollbackRequest → ℕ → Proc σ FleetNodeBackendError RolloutResponse

/-- Every node of the list takes the rollout, one after the other. -/
def FleetNodeBackend.rollsOut {σ : Type} (backend : FleetNodeBackend σ) (request : RolloutRequest) (now : ℕ) :
    List Text → σ → Bool
  | [], _          => true
  | node :: nodes, s => match backend.rolloutNode node request now s with
    | (.ok _, s')    => backend.rollsOut request now nodes s'
    | (.error _, _)  => false

inductive FleetWaveGateVerdict
  | passed
  | failed
  | pending
deriving DecidableEq, Repr

inductive FleetEvent
  | rolloutNode (nodeId : Text)
  | rollbackNode (nodeId : Text)
  | gateEvaluated (waveId : Text) (verdict : FleetWaveGateVerdict)
deriving DecidableEq, Repr

end WayBalancer
