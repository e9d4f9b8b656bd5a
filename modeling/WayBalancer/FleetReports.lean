import WayBalancer.FleetCanary
/-!
# FleetReports — what gates, reports and plans say of a fleet

A required gate fails only once its time is up, and `OnFailedGate` rolls back only what is still in time.  A convergence report
asks of the start of the rollout, not of the nodes, whether the divergence budget is exceeded.
-/
namespace WayBalancer

open Str Word

/-! ## A failed gate -/

section
variable (wave : FleetRolloutWaveDefinition) (signals : SortedMap Text FleetNodeHealthSignal) (startedAt evaluatedAt : ℕ)

theorem failingNodes_eq_zero : (evaluateWaveGate wave signals startedAt evaluatedAt).failingNodes = 0 ↔
    ∀ node ∈ wave.nodeIds, ∀ signal, signals.get? node = some signal → wave.gatePolicy.failsOn signal = false := by
  change ((wave.nodeIds.filterMap signals.get?).filter wave.gatePolicy.failsOn).length = 0 ↔ _
  rw [List.length_eq_zero_iff, List.filter_eq_nil_iff]
  constructor
  · intro h node hn signal hsig
    exact Bool.eq_false_iff.2 (h signal (List.mem_filterMap.2 ⟨node, hn, hsig⟩))
  · intro h signal hsig
    obtain ⟨node, hn, hget⟩ := List.mem_filterMap.1 hsig
    rw [h node hn signal hget]
    exact Bool.false_ne_true

/-- **`OnFailedGate` rolls back whenever a required gate fails on a node exactly where no gate can have failed on one**: the time is
not up, or no node has a failing signal. -/
theorem onFailedGate_effective_iff (hmode : wave.gatePolicy.mode = .required) :
    ((evaluateWaveGate wave signals startedAt evaluatedAt).verdict = .failed →
      0 < (evaluateWaveGate wave signals startedAt evaluatedAt).failingNodes →
      (decideWaveAbortAndRollback (evaluateWaveGate wave signals startedAt evaluatedAt) .onFailedGate).shouldAutoRollback = true) ↔
    evaluatedAt < satAdd startedAt wave.gatePolicy.timeoutMs ∨
      ∀ node ∈ wave.nodeIds, ∀ signal, signals.get? node = some signal → wave.gatePolicy.failsOn signal = false := by
  rw [← failingNodes_eq_zero wave signals startedAt evaluatedAt]
  set gate := evaluateWaveGate wave signals startedAt evaluatedAt with hg
  have htimedOut : gate.timedOut = decide (evaluatedAt ≥ satAdd startedAt wave.gatePolicy.timeoutMs) := rfl
  have hver : gate.verdict = (gateVerdict .required gate.failingNodes gate.missingNodes gate.timedOut).1 := by
    rw [← hmode]
    rfl
  by_cases ht : evaluatedAt < satAdd startedAt wave.gatePolicy.timeoutMs
  · refine iff_of_true (fun hf => ?_) (.inl ht)
    rw [hver, htimedOut, decide_eq_false (Nat.not_le.2 ht), gateVerdict] at hf
    split at hf
    · cases hf
    · cases hf
  · rw [decide_eq_true (Nat.not_lt.1 ht)] at htimedOut
    by_cases hfai : gate.failingNodes = 0
    · exact iff_of_true (fun _ hpos => absurd hfai (Nat.ne_of_gt hpos)) (.inr hfai)
    · have hf : gate.verdict = .failed := by
        rw [hver, htimedOut, gateVerdict, if_neg (fun h => hfai h.1)]
        rfl
      refine iff_of_false (fun h => ?_) (fun h => h.elim ht hfai)
      have hrol := h hf (Nat.pos_of_ne_zero hfai)
      rw [decideWaveAbortAndRollback, hf, htimedOut] at hrol
      cases hrol

end

def failingWave : FleetRolloutWaveDefinition := ⟨lit "wave", [lit "a"], 1, {}⟩

def failingSignals : SortedMap Text FleetNodeHealthSignal := SortedMap.empty.insert (lit "a") ⟨lit "a", 30000, 0, 100, 50, 10⟩

theorem onFailedGate_effective_in_time : failingWave.gatePolicy.mode = .required ∧
    ((evaluateWaveGate failingWave failingSignals 0 5).verdict = .failed →
      0 < (evaluateWaveGate failingWave failingSignals 0 5).failingNodes →
      (decideWaveAbortAndRollback (evaluateWaveGate failingWave failingSignals 0 5) .onFailedGate).shouldAutoRollback = true) :=
  ⟨rfl, (onFailedGate_effective_iff failingWave failingSignals 0 5 rfl).2 (.inl (by decide))⟩

/-- At the end of its time the gate fails on the node, and nothing is rolled back. -/
theorem onFailedGate_ineffective :
    (evaluateWaveGate failingWave failingSignals 0 120000).verdict = .failed ∧
    (evaluateWaveGate failingWave failingSignals 0 120000).failingNodes = 1 ∧
    (decideWaveAbortAndRollback (evaluateWaveGate failingWave failingSignals 0 120000) .onFailedGate).shouldAutoRollback = false := by
  decide +kernel

/-! ## Convergence -/

section
variable {σ : Type} (backend : FleetNodeBackend σ) (s : σ) (nodeIds : List Text) (outcomes : List FleetNodeActionOutcome)
  (version digest : Text) (startedAt maxDivergence : ℕ)

/-- What the loop of `build_convergence_report` carries. -/
structure ConvergenceTally where
  converged : ℕ := 0
  pending : ℕ := 0
  diverged : ℕ := 0
  unavailable : ℕ := 0
  nodes : List FleetNodeStatus := []

def ConvergenceTally.push (t : ConvergenceTally) (node : FleetNodeStatus) : ConvergenceTally :=
  let t := { t with nodes := t.nodes ++ [node] }
  match node.convergenceState with
  | .converged   => { t with converged := t.converged + 1 }
  | .pending     => { t with pending := t.pending + 1 }
  | .diverged    => { t with diverged := t.diverged + 1 }
  | .unavailable => { t with unavailable := t.unavailable + 1 }

def convergenceTally : ConvergenceTally :=
  nodeIds.foldl (fun t node => t.push (nodeStatus outcomes version digest startedAt (satAdd startedAt maxDivergence) node
    (backend.fetchStatus s node))) {}

theorem foldl_push : ∀ (nodes : List FleetNodeStatus) (t : ConvergenceTally), nodes.foldl ConvergenceTally.push t =
    ⟨t.converged + countNodes .converged nodes, t.pending + countNodes .pending nodes, t.diverged + countNodes .diverged nodes,
      t.unavailable + countNodes .unavailable nodes, t.nodes ++ nodes⟩
  | [], t => by simp [countNodes]
  | node :: nodes, t => by
    rw [List.foldl_cons, foldl_push nodes]
    cases h : node.convergenceState <;> simp [ConvergenceTally.push, countNodes, h, Nat.add_assoc, Nat.add_comm]

theorem countNodes_sum {nodes : List FleetNodeStatus} : countNodes .converged nodes + countNodes .pending nodes +
    countNodes .diverged nodes + countNodes .unavailable nodes = nodes.length := by
  induction nodes with
  | nil => rfl
  | cons node nodes ih =>
    unfold countNodes at *
    cases h : node.convergenceState <;> simp [h] <;> omega

/-- The node answers, and has the desired snapshot. -/
def RunsDesired (node : Text) : Prop := ∃ status, backend.fetchStatus s node = .ok status ∧
  status.activeVersion = some version ∧ status.activeDigestSha256 = some digest

/-- The node was observed past the divergence deadline without the desired snapshot. -/
def Overdue (node : Text) : Prop := ∃ status, backend.fetchStatus s node = .ok status ∧
  satAdd startedAt maxDivergence < status.observedAtUnixMs ∧
  ¬ (status.activeVersion = some version ∧ status.activeDigestSha256 = some digest)

theorem state_converged : (buildConvergenceReport backend s nodeIds outcomes version digest startedAt maxDivergence).state =
    .converged ↔ ∀ node ∈ nodeIds, RunsDesired backend s version digest node := by
  have hst : ∀ node deadline, (nodeStatus outcomes version digest startedAt deadline node
      (backend.fetchStatus s node)).convergenceState = .converged ↔ RunsDesired backend s version digest node := by
    intro node deadline
    unfold RunsDesired
    cases backend.fetchStatus s node with
    | error e => simp [nodeStatus]
    | ok status =>
      simp only [nodeStatus]
      split_ifs with h h' <;> simp [h]
  unfold buildConvergenceReport
  dsimp only
  trans countNodes .converged (nodeIds.map (fun node => nodeStatus outcomes version digest startedAt
    (satAdd startedAt maxDivergence) node (backend.fetchStatus s node))) = nodeIds.length
  · split_ifs <;> simp [*]
  · rw [countNodes, ← List.length_map (fun node => nodeStatus outcomes version digest startedAt _ node (backend.fetchStatus s node)), List.length_filter_eq_length_iff]
    simp [hst]

end

/-- **A report tells one story exactly where the budget is asked of no node**: none is overdue, or the deadline is the start itself
and a node that has not converged is one that is overdue. -/
theorem convergenceReport_consistent_iff {σ : Type} (backend : FleetNodeBackend σ) (s : σ) (nodeIds : List Text)
    (outcomes : List FleetNodeActionOutcome) (version digest : Text) (startedAt maxDivergence : ℕ) :
    let report := buildConvergenceReport backend s nodeIds outcomes version digest startedAt maxDivergence
    (report.convergedNodes + report.pendingNodes + report.divergedNodes + report.unavailableNodes = nodeIds.length ∧
      convergenceTally backend s nodeIds outcomes version digest startedAt maxDivergence =
        ⟨report.convergedNodes, report.pendingNodes, report.divergedNodes, report.unavailableNodes, report.nodes⟩ ∧
      (report.convergedNodes = countNodes .converged report.nodes ∧ report.pendingNodes = countNodes .pending report.nodes ∧
        report.divergedNodes = countNodes .diverged report.nodes ∧
        report.unavailableNodes = countNodes .unavailable report.nodes) ∧
      (report.state = .converged ↔ ∀ node ∈ nodeIds, RunsDesired backend s version digest node) ∧
      (report.exceededDivergenceBudget = true ↔
        ∃ node ∈ nodeIds, Overdue backend s version digest startedAt maxDivergence node)) ↔
    if satAdd startedAt maxDivergence ≤ startedAt then (∀ node ∈ nodeIds, RunsDesired backend s version digest node) ∨
      ∃ node ∈ nodeIds, Overdue backend s version digest startedAt maxDivergence node
    else ∀ node ∈ nodeIds, ¬ Overdue backend s version digest startedAt maxDivergence node := by
  intro report
  have hcon : report.state = .converged ↔ _ := state_converged backend s nodeIds outcomes version digest startedAt maxDivergence
  have hsum : report.convergedNodes + report.pendingNodes + report.divergedNodes + report.unavailableNodes = nodeIds.length :=
    countNodes_sum.trans (List.length_map _)
  have htal : convergenceTally backend s nodeIds outcomes version digest startedAt maxDivergence =
      ⟨report.convergedNodes, report.pendingNodes, report.divergedNodes, report.unavailableNodes, report.nodes⟩ := by
    have hf := foldl_push report.nodes {}
    simp only [Nat.zero_add, List.nil_append] at hf
    exact (List.foldl_map (f := _) (g := ConvergenceTally.push)).symm.trans hf
  have hexc : report.exceededDivergenceBudget = true ↔ satAdd startedAt maxDivergence ≤ startedAt ∧ report.state ≠ .converged := by
    change (decide _ && decide _) = true ↔ _
    rw [Bool.and_eq_true, decide_eq_true_eq, decide_eq_true_eq]
    exact Iff.rfl
  have hove : (∃ node ∈ nodeIds, Overdue backend s version digest startedAt maxDivergence node) → report.state ≠ .converged := by
    rintro ⟨node, hn, status, hst, -, hnot⟩ h
    obtain ⟨status', hst', hdes⟩ := hcon.1 h node hn
    cases hst.symm.trans hst'
    exact hnot hdes
  rw [← hcon, hexc, and_iff_right hsum, and_iff_right htal, and_iff_right ⟨rfl, rfl, rfl, rfl⟩,
    and_iff_right Iff.rfl]
  split_ifs with hdea
  · rw [and_iff_right hdea]
    exact ⟨fun h => or_iff_not_imp_left.2 h.1, fun h => ⟨h.resolve_left, hove⟩⟩
  · simp only [hdea, false_and, false_iff, not_exists, not_and]

def lateBackend : FleetNodeBackend Unit where
  fetchStatus _ node := .ok ⟨node, none, none, some (lit "v1"), none, none, none, 10⟩
  fetchHealthSignals _ _ _ := .ok none
  rolloutNode _ _ _ := Proc.fail (.unreachable [])
  rollbackNode _ _ _ := Proc.fail (.unreachable [])

theorem overdue_not_exceeded :
    let report := buildConvergenceReport lateBackend () [lit "a"] [] (lit "v2") [] 0 5
    report.divergedNodes = 1 ∧ report.state = .diverged ∧ report.exceededDivergenceBudget = false := by
  decide +kernel

end WayBalancer
