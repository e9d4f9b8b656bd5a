import WayBalancer.FleetRollout
/-!
# FleetFailFast — when a failed node stops a fleet action

A node fails where its operation returns an error, and where it answers that it rejected the request.  Only the error halts
the loop of `execute_action`, so a strategy that should stop at a failed node goes on after a rejection.
-/
namespace WayBalancer

open Str Word

/-- What `execute_action` is called for: the request each node gets. -/
inductive FleetNodeAction
  | rollout (request : RolloutRequest)
  | rollback (request : RollbackRequest)
deriving DecidableEq, Repr

namespace FleetNodeAction

variable {σ : Type}

def kind : FleetNodeAction → RolloutActionKind
  | .rollout _  => .rollout
  | .rollback _ => .rollback

def answer (backend : FleetNodeBackend σ) (now : ℕ) (node : Text) : FleetNodeAction → Proc σ FleetNodeBackendError RolloutResponse
  | .rollout request  => backend.rolloutNode node request now
  | .rollback request => backend.rollbackNode node request now

def operation (backend : FleetNodeBackend σ) (now : ℕ) :
    FleetNodeAction → Text → Proc (FleetWorld σ) FleetNodeBackendError RolloutResponse
  | .rollout request  => rolloutOperation backend request now
  | .rollback request => rollbackOperation backend request now

def event : FleetNodeAction → Text → FleetEvent
  | .rollout _  => .rolloutNode
  | .rollback _ => .rollbackNode

theorem operation_eq (backend : FleetNodeBackend σ) (now : ℕ) (action : FleetNodeAction) (node : Text) (w : FleetWorld σ) :
    action.operation backend now node w = ((action.answer backend now node w.backend).1,
      { w with backend := (action.answer backend now node w.backend).2, trace := w.trace ++ [action.event node] }) := by
  cases action <;> rfl

theorem operation_trace (backend : FleetNodeBackend σ) (now : ℕ) (action : FleetNodeAction) (node : Text) (w : FleetWorld σ) :
    (action.operation backend now node w).2.trace = w.trace ++ [action.event node] := by
  rw [operation_eq]

end FleetNodeAction

/-! ## What the outcomes say -/

/-- From a node's index on: a failure that the strategy halts at is followed by skipped nodes only. -/
def FailFastFrom (strategy : FleetRolloutStrategy) (index : ℕ) (outcomes : List FleetNodeActionOutcome) : Prop :=
  ∀ i j failed later, outcomes[i]? = some failed → outcomes[j]? = some later → i < j → strategy.haltsAt (index + i) = true →
    failed.result = .failed → later.result = .skipped

/-- The nodes asked in turn, from an index on, until an error halts: one that the strategy should halt at, and that is not the
last, answers with a rejection. -/
def RejectsBeforeLastFrom {σ : Type} (strategy : FleetRolloutStrategy) (backend : FleetNodeBackend σ) (action : FleetNodeAction)
    (now : ℕ) : ℕ → List Text → σ → Prop
  | _, [], _                => False
  | index, node :: nodes, s => match action.answer backend now node s with
    | (.ok response, s') =>
      (nodes ≠ [] ∧ strategy.haltsAt index = true ∧ response.result = .rejected) ∨
        RejectsBeforeLastFrom strategy backend action now (index + 1) nodes s'
    | (.error _, s') =>
      strategy.haltsAt index = false ∧ RejectsBeforeLastFrom strategy backend action now (index + 1) nodes s'

variable {o : FleetNodeActionOutcome}

theorem failFastFrom_cons {strategy : FleetRolloutStrategy} {index : ℕ} {l : List FleetNodeActionOutcome} :
    FailFastFrom strategy index (o :: l) ↔ (strategy.haltsAt index = true → o.result = .failed → ∀ p ∈ l, p.result = .skipped) ∧
        FailFastFrom strategy (index + 1) l := by
  constructor
  · intro h
    refine ⟨fun hhal hf p hp => ?_, fun i j f later hi hj hlt hhal => ?_⟩
    · obtain ⟨j, hj⟩ := List.mem_iff_getElem?.1 hp
      exact h 0 (j + 1) o p rfl hj (Nat.succ_pos j) hhal hf
    · refine h (i + 1) (j + 1) f later hi hj (Nat.succ_lt_succ hlt) ?_
      rwa [Nat.add_right_comm] at hhal
  · rintro ⟨hhead, ht⟩ i j f later hi hj hlt hhal hf
    obtain ⟨j, rfl⟩ : ∃ j', j = j' + 1 := ⟨j - 1, by omega⟩
    cases i with
    | zero =>
      cases hi
      exact hhead hhal hf later (List.mem_of_getElem? hj)
    | succ i =>
      refine ht i j f later hi hj (Nat.lt_of_succ_lt_succ hlt) ?_ hf
      rwa [Nat.add_right_comm]

/-! ## The loop -/

theorem result_skippedOutcome {nodes : List Text} (h : o ∈ nodes.map skippedOutcome) : o.result = .skipped := by
  obtain ⟨node, -, rfl⟩ := List.mem_map.1 h
  rfl

theorem result_acceptedOutcome_ne_skipped (action : RolloutActionKind) (node : Text) (response : RolloutResponse) :
    (acceptedOutcome action node response).result ≠ .skipped := by
  intro h
  unfold acceptedOutcome at h
  cases hr : response.result <;> simp only [hr] at h <;> cases h

theorem result_acceptedOutcome_failed {action : RolloutActionKind} {node : Text} {response : RolloutResponse} :
    (acceptedOutcome action node response).result = .failed ↔ response.result = .rejected := by
  unfold acceptedOutcome
  cases response.result <;> simp

theorem failFastFrom_skipped (strategy : FleetRolloutStrategy) (index : ℕ) (nodes : List Text) :
    FailFastFrom strategy index (nodes.map skippedOutcome) := by
  intro i j f later hi _ _ _ hf
  rw [result_skippedOutcome (List.mem_of_getElem? hi)] at hf
  cases hf

section Run

variable {σ : Type} (strategy : FleetRolloutStrategy) (backend : FleetNodeBackend σ) (action : FleetNodeAction) (now : ℕ)

/-- **One outcome per node, in order, and a call for each that is not skipped.** -/
theorem actOnNodes_outcomes : ∀ {nodes : List Text} {index : ℕ} {halted : Bool} {w : FleetWorld σ},
    let r := actOnNodes action.kind strategy (action.operation backend now) index halted nodes w
    r.1.map (·.nodeId) = nodes ∧
      r.2.trace = w.trace ++ ((r.1.filter (fun o => o.result ≠ .skipped)).map (fun o => action.event o.nodeId))
  | nodes, index, true, w => by
    rw [actOnNodes_skips]
    refine ⟨?_, ?_⟩
    · rw [List.map_map]
      exact List.map_id nodes
    · rw [List.filter_eq_nil_iff.2, List.map_nil, List.append_nil]
      intro o ho
      rw [result_skippedOutcome ho]
      decide
  | [], _, false, w => ⟨rfl, (List.append_nil _).symm⟩
  | node :: nodes, index, false, w => by
    have htra := action.operation_trace backend now node w
    rcases hop : action.operation backend now node w with ⟨error | response, w'⟩
    · rw [hop] at htra
      rw [actOnNodes_error hop]
      obtain ⟨hnod, hr⟩ := actOnNodes_outcomes
      refine ⟨congrArg _ hnod, ?_⟩
      rw [hr, htra, List.append_assoc]
      rfl
    · rw [hop] at htra
      rw [actOnNodes_ok hop]
      obtain ⟨hnod, hr⟩ := actOnNodes_outcomes
      refine ⟨congrArg _ hnod, ?_⟩
      have hcal := result_acceptedOutcome_ne_skipped action.kind node response
      rw [hr, htra, List.append_assoc]
      simp only [List.filter_cons, hcal, ne_eq, not_false_eq_true, decide_true, if_true, List.map_cons]
      rfl

theorem actOnNodes_calls {nodes : List Text} (hne : nodes ≠ []) {index : ℕ} {w : FleetWorld σ} :
    ∃ o ∈ (actOnNodes action.kind strategy (action.operation backend now) index false nodes w).1, o.result ≠ .skipped := by
  cases nodes with
  | nil => exact absurd rfl hne
  | cons node nodes =>
    rcases hop : action.operation backend now node w with ⟨error | resp, w'⟩
    · rw [actOnNodes_error hop]
      exact ⟨_, List.mem_cons_self, fun h => by cases h⟩
    · rw [actOnNodes_ok hop]
      exact ⟨_, List.mem_cons_self, result_acceptedOutcome_ne_skipped _ _ _⟩

/-- By induction on the nodes: an error halts where the strategy says so and the nodes that are left are skipped; a rejection
fails its node and the next one is called all the same. -/
theorem actOnNodes_failFast_iff : ∀ {nodes : List Text} {index : ℕ} {w : FleetWorld σ},
    FailFastFrom strategy index (actOnNodes action.kind strategy (action.operation backend now) index false nodes w).1 ↔
      ¬ RejectsBeforeLastFrom strategy backend action now index nodes w.backend
  | [], index, w => by
    refine ⟨fun _ h => h, fun _ i => ?_⟩
    intro j failed later hi
    cases hi
  | node :: nodes, index, w => by
    have hop := action.operation_eq backend now node w
    rw [RejectsBeforeLastFrom]
    rcases hans : action.answer backend now node w.backend with ⟨error | response, s⟩
    · rw [hans] at hop
      rw [actOnNodes_error hop, failFastFrom_cons]
      cases hhal : strategy.haltsAt index with
      | true =>
        rw [actOnNodes_skips]
        refine iff_of_true ⟨fun _ _ p hp => result_skippedOutcome hp, failFastFrom_skipped _ _ _⟩ ?_
        rintro ⟨hfal, -⟩
        cases hfal
      | false =>
        simp only [Bool.false_eq_true, false_implies, true_and]
        exact actOnNodes_failFast_iff
    · rw [hans] at hop
      rw [actOnNodes_ok hop, failFastFrom_cons, not_or, result_acceptedOutcome_failed]
      refine and_congr ?_ actOnNodes_failFast_iff
      constructor
      · rintro hski ⟨hne, hhal, hrej⟩
        obtain ⟨o, ho, hcal⟩ := actOnNodes_calls strategy backend action now hne
        exact hcal (hski hhal hrej o ho)
      · intro h hhal hrej p hp
        refine absurd ⟨?_, hhal, hrej⟩ h
        rintro rfl
        cases hp

end Run

/-- **An action is fail-fast exactly when no node but the last answers with a rejection where the strategy halts.**  Whatever
the backend and the nodes, there is one outcome per node, in order, and the operation was called for the nodes that are not
skipped. -/
theorem executeAction_failFast_iff {σ : Type} (backend : FleetNodeBackend σ) (action : FleetNodeAction) (nodeIds : List Text)
    (strategy : FleetRolloutStrategy) (maxAllowedDivergenceMs : ℕ) (desiredVersion desiredDigestSha256 : Text) (now : ℕ)
    (w : FleetWorld σ) :
    ∃ response w', executeAction backend action.kind nodeIds strategy maxAllowedDivergenceMs desiredVersion
        desiredDigestSha256 (action.operation backend now) now w = (.ok response, w') ∧
      response.nodeOutcomes.map (·.nodeId) = nodeIds ∧
      w'.trace = w.trace ++
        ((response.nodeOutcomes.filter (fun o => o.result ≠ .skipped)).map (fun o => action.event o.nodeId)) ∧
      (FailFastFrom strategy 0 response.nodeOutcomes ↔
        ¬ RejectsBeforeLastFrom strategy backend action now 0 nodeIds w.backend) := by
  obtain ⟨hnod, htra⟩ := actOnNodes_outcomes strategy backend action now
  exact ⟨_, _, rfl, hnod, htra, actOnNodes_failFast_iff strategy backend action now⟩

def rejectingNodes : FleetNodeBackend Unit where
  fetchStatus _ _ := .error (.unreachable [])
  fetchHealthSignals _ _ _ := .ok none
  rolloutNode _ _ _ s := (.ok ⟨.rollout, .rejected, lit "v1", lit "d1", lit "v1"⟩, s)
  rollbackNode _ _ _ s := (.ok ⟨.rollback, .rejected, lit "v1", lit "d1", lit "v1"⟩, s)

/-- The second node is called after the first has failed. -/
theorem rejectingNodes_not_failFast :
    ∃ response w', executeAction rejectingNodes .rollout [lit "a", lit "b"] .sequential 1 (lit "v2") (lit "d2")
        (rolloutOperation rejectingNodes ⟨lit "v2", none, none⟩ 0) 0 { backend := (), readings := [] } = (.ok response, w') ∧
      response.nodeOutcomes.map (·.result) = [.failed, .failed] ∧
      w'.trace = [.rolloutNode (lit "a"), .rolloutNode (lit "b")] ∧
      ¬ FailFastFrom .sequential 0 response.nodeOutcomes := by
  refine ⟨_, _, rfl, rfl, rfl, fun h => ?_⟩
  have hski := h 0 1 _ _ rfl rfl Nat.zero_lt_one rfl rfl
  cases hski

end WayBalancer
