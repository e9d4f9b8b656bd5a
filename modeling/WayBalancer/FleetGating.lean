import WayBalancer.FleetCanary
/-!
# FleetGating — what a canary rollout asks of its nodes, and when

The trace of an apply is the rollout's calls, then the gates' verdicts and the rollback's calls.  The rollout goes over all
the nodes in one loop that stops only at an error of a canary node, so the verdict of the canary wave's gate comes too late
to hold the other nodes back.
-/
namespace WayBalancer

open Str

/-- No node outside the canary wave is rolled out before the canary wave's gate has passed. -/
def CanaryGated (request : ListenerCanaryApplyRequest) (trace : List FleetEvent) : Prop :=
  ∀ before id after, trace = before ++ .rolloutNode id :: after → id ∉ request.canaryIds →
    .gateEvaluated request.canaryWaveId .passed ∈ before

section
variable {Snap σ ε α β : Type} {control : SnapshotControlService Snap} {backend : FleetNodeBackend σ}

/-! ## The calls of the node loop -/

theorem actOnNodes_rest {canaryNodes now : ℕ} {request : RolloutRequest} :
    ∀ {nodes : List Text} {index : ℕ} {w : FleetWorld σ}, canaryNodes ≤ index →
      (actOnNodes .rollout (.canary canaryNodes) (rolloutOperation backend request now) index false nodes w).2.trace =
        w.trace ++ nodes.map .rolloutNode
  | [], _, _, _ => (List.append_nil _).symm
  | node :: nodes, index, w, hle => by
    have hn : ∀ w', w'.trace = w.trace ++ [FleetEvent.rolloutNode node] →
        (actOnNodes .rollout (.canary canaryNodes) (rolloutOperation backend request now) (index + 1) false nodes w').2.trace =
          w.trace ++ (node :: nodes).map .rolloutNode := fun w' hw' => by
      rw [actOnNodes_rest (by omega), hw', List.append_assoc]
      rfl
    have htra : (rolloutOperation backend request now node w).2.trace = w.trace ++ [.rolloutNode node] := rfl
    have hg : (FleetRolloutStrategy.canary canaryNodes).haltsAt index = false := decide_eq_false (by omega)
    rcases hop : rolloutOperation backend request now node w with ⟨e | r, w'⟩ <;> rw [hop] at htra
    · rw [actOnNodes_error hop, hg]
      exact hn w' htra
    · rw [actOnNodes_ok hop]
      exact hn w' htra

/-- The loop over the canary nodes: where all of them take the rollout it goes on to all the others, and where one does not
it has reached canary nodes only. -/
theorem actOnNodes_canary (backend : FleetNodeBackend σ) (canaryNodes now : ℕ) (request : RolloutRequest) (others : List Text) :
    ∀ (nodes : List Text) (index : ℕ) (w : FleetWorld σ), index + nodes.length = canaryNodes →
      ∃ reached, (actOnNodes .rollout (.canary canaryNodes) (rolloutOperation backend request now) index false
          (nodes ++ others) w).2.trace = w.trace ++ reached.map .rolloutNode ∧
        (backend.rollsOut request now nodes w.backend = true → reached = nodes ++ others) ∧
        (backend.rollsOut request now nodes w.backend = false → reached ⊆ nodes)
  | [], index, w, hlen => ⟨others, actOnNodes_rest (by simp at hlen; omega), fun _ => rfl,
      fun h => (by cases h)⟩
  | node :: nodes, index, w, hlen => by
    have hhal : (FleetRolloutStrategy.canary canaryNodes).haltsAt index = true :=
      decide_eq_true (by simp at hlen; omega)
    rw [List.cons_append]
    rcases hop : backend.rolloutNode node request now w.backend with ⟨e | r, s⟩
    · refine ⟨[node], ?_, fun h => ?_, fun _ => by simp⟩
      · rw [actOnNodes_error (rolloutOperation_of_call hop), hhal, actOnNodes_skips]
        rfl
      · simp [FleetNodeBackend.rollsOut, hop] at h
    · obtain ⟨reached, ht, hall, hs⟩ := actOnNodes_canary backend canaryNodes now request others nodes (index + 1)
        { w with backend := s, trace := w.trace ++ [.rolloutNode node] } (by simp at hlen; omega)
      refine ⟨node :: reached, ?_, fun h => ?_, fun h => ?_⟩
      · rw [actOnNodes_ok (rolloutOperation_of_call hop), ht, List.append_assoc]
        rfl
      · rw [FleetNodeBackend.rollsOut, hop] at h
        rw [hall h]
      · rw [FleetNodeBackend.rollsOut, hop] at h
        exact List.cons_subset_cons _ (hs h)

theorem rolloutAt_of_checks (backend : FleetNodeBackend σ) {published : Text → Option PublishedVersion}
    {request : FleetRolloutRequest} {p : PublishedVersion} (h : rolloutChecks published request = .ok p) (now : ℕ) (w : FleetWorld σ) :
    ∃ response w', rolloutAt backend published request now w = (.ok response, w') ∧
      w'.trace = (actOnNodes .rollout request.strategy (rolloutOperation backend (nodeRequest p request) now) 0 false
        request.nodeIds w).2.trace := by
  have hchk : (Proc.ofExcept (rolloutChecks published request) : Proc (FleetWorld σ) _ _) w = (.ok p, w) := by
    rw [h]
    rfl
  unfold rolloutAt
  rw [Proc.bind_of_ok _ hchk]
  exact ⟨_, _, rfl, rfl⟩

/-! ## What comes after the rollout -/

/-- Nothing has been rolled out since the trace was `base`. -/
def QuietSince (base : List FleetEvent) (w : FleetWorld σ) : Prop :=
  ∃ later, w.trace = base ++ later ∧ ∀ id, FleetEvent.rolloutNode id ∉ later

def KeepsQuiet (x : Proc (FleetWorld σ) ε α) : Prop :=
  ∀ base, x.Meets (QuietSince base) (fun _ => QuietSince base) (QuietSince base)

variable {w : FleetWorld σ}

theorem QuietSince.note {base : List FleetEvent} {w' : FleetWorld σ} {event : FleetEvent} (h : QuietSince base w)
    (hw : w'.trace = w.trace ++ [event]) (heve : ∀ id, event ≠ .rolloutNode id) : QuietSince base w' := by
  obtain ⟨later, ht, hlat⟩ := h
  refine ⟨later ++ [event], by rw [hw, ht, List.append_assoc], fun id hm => ?_⟩
  rcases List.mem_append.1 hm with hm | hm
  · exact hlat id hm
  · exact heve id (List.mem_singleton.1 hm).symm

namespace KeepsQuiet

theorem pure (a : α) : KeepsQuiet (Pure.pure a : Proc (FleetWorld σ) ε α) := fun _ => Proc.meets_pure (fun _ hw => hw)

theorem get : KeepsQuiet (Proc.get : Proc (FleetWorld σ) ε (FleetWorld σ)) := fun _ => Proc.meets_get (fun _ hw => hw)

theorem ofExcept (x : Except ε α) : KeepsQuiet (Proc.ofExcept x : Proc (FleetWorld σ) ε α) :=
  fun _ => Proc.meets_ofExcept (fun _ hw => hw)

theorem update {f : FleetWorld σ → FleetWorld σ} (h : ∀ base w, QuietSince base w → QuietSince base (f w)) :
    KeepsQuiet (Proc.update f : Proc (FleetWorld σ) ε Unit) :=
  fun base => Proc.meets_update (h base)

theorem mapError {ε' : Type} {x : Proc (FleetWorld σ) ε α} (f : ε → ε') (h : KeepsQuiet x) : KeepsQuiet (Proc.mapError f x) :=
  fun base => Proc.meets_mapError (h base)

theorem bind {x : Proc (FleetWorld σ) ε α} {f : α → Proc (FleetWorld σ) ε β} (hx : KeepsQuiet x)
    (hf : ∀ a, KeepsQuiet (f a)) : KeepsQuiet (x >>= f) :=
  fun base => (hx base).bind (fun a => hf a base)

end KeepsQuiet

variable {now : ℕ}

theorem rollbackAt_quiet {published : Text → Option PublishedVersion} {request : FleetRollbackRequest} :
    KeepsQuiet (rollbackAt backend published request now) := by
  refine KeepsQuiet.get.bind (fun w => (KeepsQuiet.ofExcept _).bind (fun p => ?_))
  intro base w hw
  refine ⟨fun resp w' h => ?_, fun e w' h => (by cases h)⟩
  cases h
  exact actOnNodes_keeps (P := QuietSince base) (fun _ _ hw => hw.note rfl (fun _ => by simp)) request.nodeIds 0 false w hw

theorem currentUnixMs_quiet : KeepsQuiet (currentUnixMs : Proc (FleetWorld σ) ListenerCanaryError ℕ) := by
  intro base w hw
  unfold currentUnixMs
  split
  · exact ⟨fun _ _ h => (by cases h; exact hw), fun _ _ h => (by cases h)⟩
  · exact ⟨fun _ _ h => (by cases h), fun _ _ h => (by cases h; exact hw)⟩
  · exact ⟨fun _ _ h => (by cases h), fun _ _ h => (by cases h; exact hw)⟩

theorem evaluateGates_quiet {startedAt : ℕ} : ∀ {waves : List FleetRolloutWaveDefinition}
    {gates : SortedMap Text FleetWaveGateEvaluation}, KeepsQuiet (evaluateGates backend startedAt waves gates)
  | [], gates => KeepsQuiet.pure gates
  | wave :: waves, gates => by
    refine KeepsQuiet.get.bind (fun w => currentUnixMs_quiet.bind (fun evaluatedAt => ?_))
    refine KeepsQuiet.bind (KeepsQuiet.update (fun base w hw => hw.note rfl (fun _ => ?_))) (fun _ => ?_)
    · exact FleetEvent.noConfusion
    · exact evaluateGates_quiet

variable (request : ListenerCanaryApplyRequest)

variable {startedAt : ℕ}

theorem rollBackOn_quiet : ∀ decision, KeepsQuiet (rollBackOn control backend request startedAt decision)
  | none => KeepsQuiet.pure none
  | some decision => by
    refine KeepsQuiet.bind (KeepsQuiet.mapError _ ?_) (fun outcome => ?_)
    · unfold executeAutoRollbackIfNeeded
      split
      · exact rollbackAt_quiet.bind (fun response => KeepsQuiet.pure _)
      · exact KeepsQuiet.pure _
    · split
      · exact KeepsQuiet.bind (KeepsQuiet.update (fun _ _ hw => hw)) (fun _ => KeepsQuiet.pure _)
      · exact KeepsQuiet.pure none

theorem afterRollout_quiet {preview : SnapshotDiffPreview} {plan : FleetStagedRolloutPlan} {rollout : FleetRolloutResponse} :
    KeepsQuiet (afterRollout control backend request preview plan startedAt rollout) := by
  refine evaluateGates_quiet.bind (fun gates => ?_)
  refine (rollBackOn_quiet request _).bind (fun rollback => ?_)
  exact KeepsQuiet.bind (KeepsQuiet.update (fun _ _ hw => hw)) (fun _ => KeepsQuiet.pure _)

/-! ## The start of the rollout -/

/-- What each node is asked for and when, where `apply` gets as far as the rollout: its own checks and the plan's pass, the
clock is read, and `rollout_at`'s checks pass. -/
def rolloutStart (control : SnapshotControlService Snap) (request : ListenerCanaryApplyRequest) :
    List (Option ℕ) → Option (RolloutRequest × ℕ)
  | some now :: _ => match stagedPlan control request, rolloutChecks control.published request.rollout with
    | .ok _, .ok p => some (nodeRequest p request.rollout, now)
    | _, _         => none
  | _ => none

variable {plan : FleetStagedRolloutPlan}

theorem planStagedRollout_rollout {request : FleetStagedRolloutRequest} (h : planStagedRollout request = .ok plan) :
    plan.rollout = request.rollout := by
  unfold planStagedRollout at h
  split_ifs at h
  obtain ⟨nodeToWave, -, h⟩ := Proc.except_bind_ok.1 h
  split at h
  · cases h
  · cases h
    rfl

theorem stagedPlan_rollout {request : ListenerCanaryApplyRequest} {preview : SnapshotDiffPreview}
    (h : stagedPlan control request = .ok (preview, plan)) : plan.rollout = request.rollout := by
  obtain ⟨_, -, h⟩ := Proc.except_bind_ok.1 h
  obtain ⟨_, -, h⟩ := Proc.except_bind_ok.1 h
  obtain ⟨_, -, h⟩ := Proc.except_bind_ok.1 h
  obtain ⟨_, hp, h⟩ := Proc.except_bind_ok.1 h
  cases h
  exact planStagedRollout_rollout (Proc.except_mapError_ok.1 hp)

variable {readings : List (Option ℕ)}

theorem rolloutStart_nodup {request : ListenerCanaryApplyRequest} {start : RolloutRequest × ℕ}
    (h : rolloutStart control request readings = some start) : request.nodeIds.Nodup := by
  unfold rolloutStart at h
  split at h
  · split at h
    · rename_i hchk
      exact rolloutChecks_nodup hchk
    · cases h
  · cases h

/-! ## The trace of an apply -/

theorem ListenerCanaryApplyRequest.canaryIds_append_fleetIds :
    request.canaryIds ++ request.fleetIds = request.nodeIds := List.take_append_drop _ _

theorem checkedPlan_of_ok {request : ListenerCanaryApplyRequest} {planned : SnapshotDiffPreview × FleetStagedRolloutPlan}
    (h : stagedPlan control request = .ok planned) : checkedPlan control request w = (.ok planned, w) := by
  unfold checkedPlan
  rw [h]
  rfl

theorem checkedPlan_of_error {request : ListenerCanaryApplyRequest} {error : ListenerCanaryError}
    (h : stagedPlan control request = .error error) :
    ∃ w', checkedPlan control request w = (.error error, w') ∧ w'.trace = w.trace := by
  unfold checkedPlan
  rw [h]
  cases error <;> exact ⟨_, rfl, rfl⟩

/-- An apply whose plan is made and whose clock is read goes on with the rollout of the request. -/
theorem applyCanary_planned {request : ListenerCanaryApplyRequest} {preview : SnapshotDiffPreview}
    (hp : stagedPlan control request = .ok (preview, plan)) (hclo : w.readings = some now :: readings) :
    applyCanary control backend request w =
      (Proc.mapError ListenerCanaryError.fleet (rolloutAt backend control.published request.rollout now) >>=
        afterRollout control backend request preview plan now) { w with readings } := by
  have hr : currentUnixMs w = (.ok now, { w with readings }) := by simp only [currentUnixMs, hclo]
  rw [← stagedPlan_rollout hp]
  exact (Proc.bind_of_ok _ (checkedPlan_of_ok hp)).trans (Proc.bind_of_ok _ hr)

theorem applyCanary_not_started {request : ListenerCanaryApplyRequest} (h : rolloutStart control request w.readings = none) :
    (applyCanary control backend request w).2.trace = w.trace := by
  cases hp : stagedPlan control request with
  | error error =>
    obtain ⟨w', hw', htra⟩ := checkedPlan_of_error hp
    have hs : applyCanary control backend request w = (.error error, w') := Proc.bind_of_error _ hw'
    rw [hs, htra]
  | ok planned =>
    have hfai : ∀ w', currentUnixMs w = (.error .internal, w') →
        applyCanary control backend request w = (.error .internal, w') := fun w' hr =>
      (Proc.bind_of_ok _ (checkedPlan_of_ok hp)).trans (Proc.bind_of_error _ hr)
    rcases hclo : w.readings with _ | ⟨_ | now, readings⟩
    · rw [hfai w (by simp only [currentUnixMs, hclo])]
    · rw [hfai { w with readings } (by simp only [currentUnixMs, hclo])]
    · cases hchk : rolloutChecks control.published request.rollout with
      | ok p => simp [rolloutStart, hclo, hp, hchk] at h
      | error e =>
        have hro : Proc.mapError ListenerCanaryError.fleet (rolloutAt backend control.published request.rollout now)
            { w with readings } = (.error (.fleet e), { w with readings }) := by
          simp only [Proc.mapError, rolloutAt, Proc.ofExcept, hchk, bind]
        rw [applyCanary_planned hp hclo, Proc.bind_of_error _ hro]

/-- An apply that starts the rollout calls the nodes in one go and rolls out nothing after that. -/
theorem applyCanary_started (backend : FleetNodeBackend σ) {request : ListenerCanaryApplyRequest} {req : RolloutRequest}
    (h : rolloutStart control request w.readings = some (req, now)) :
    QuietSince (actOnNodes .rollout (.canary request.canaryNodes) (rolloutOperation backend req now) 0 false request.nodeIds
      { w with readings := w.readings.tail }).2.trace (applyCanary control backend request w).2 := by
  unfold rolloutStart at h
  split at h
  · rename_i started readings hclo
    split at h
    · rename_i planned p hp hchk
      cases h
      obtain ⟨resp, w', hr, htra⟩ := rolloutAt_of_checks backend hchk now { w with readings }
      have hrol : Proc.mapError ListenerCanaryError.fleet (rolloutAt backend control.published request.rollout now)
          { w with readings } = (.ok resp, w') := by simp only [Proc.mapError, hr]
      rw [applyCanary_planned hp hclo, Proc.bind_of_ok _ hrol, hclo]
      refine (afterRollout_quiet request _).final ⟨[], ?_, fun _ => List.not_mem_nil⟩
      rw [htra, List.append_nil]
      rfl
    · cases h
  · cases h

theorem canaryGated_calls {request : ListenerCanaryApplyRequest} {reached : List Text} {later : List FleetEvent}
    (hlat : ∀ id, FleetEvent.rolloutNode id ∉ later) :
    CanaryGated request (reached.map .rolloutNode ++ later) ↔ reached ⊆ request.canaryIds := by
  constructor
  · intro h id hid
    obtain ⟨pre, post, rfl⟩ := List.append_of_mem hid
    by_contra hout
    -- the events before a call of the loop are calls of the loop
    have hg := h (pre.map .rolloutNode) id (post.map .rolloutNode ++ later) (by simp) hout
    simp at hg
  · intro h b id after htra hout
    refine absurd (h ?_) hout
    have hc : FleetEvent.rolloutNode id ∈ reached.map .rolloutNode ++ later := htra ▸ by simp
    rcases List.mem_append.1 hc with hc | hc
    · simpa using hc
    · exact absurd hc (hlat id)

/-- **When an apply gates its rollout.**  An apply over more nodes than its canary nodes rolls a node outside the canary wave
out before the canary wave's gate has passed, unless it does not get as far as the rollout or a canary node refuses it. -/
theorem applyCanary_gated_iff (control : SnapshotControlService Snap) (backend : FleetNodeBackend σ)
    (request : ListenerCanaryApplyRequest) (w : FleetWorld σ) (htrace : w.trace = [])
    (hfewer : request.canaryNodes < request.nodeIds.length) :
    CanaryGated request (applyCanary control backend request w).2.trace ↔
      ∀ req now, rolloutStart control request w.readings = some (req, now) →
        backend.rollsOut req now request.canaryIds w.backend = false := by
  cases hsta : rolloutStart control request w.readings with
  | none =>
    rw [applyCanary_not_started hsta, htrace]
    exact ⟨fun _ _ _ h => (by cases h), fun _ b id after h => (by simp at h)⟩
  | some start =>
    obtain ⟨req, now⟩ := start
    have hcan : request.canaryIds.length = request.canaryNodes := List.length_take_of_le hfewer.le
    obtain ⟨reached, hcal, hall, hs⟩ := actOnNodes_canary backend request.canaryNodes now req request.fleetIds
      request.canaryIds 0 { w with readings := w.readings.tail } (by omega)
    rw [request.canaryIds_append_fleetIds] at hcal
    obtain ⟨later, haft, hlat⟩ := applyCanary_started backend hsta
    rw [haft, hcal]
    simp only [htrace, List.nil_append, canaryGated_calls hlat]
    constructor
    · rintro hsub _ _ ⟨⟩
      -- all the nodes would be canary nodes, though no node is named twice and there are fewer canary nodes
      by_contra htak
      rw [hall (by simpa using htak), request.canaryIds_append_fleetIds] at hsub
      have hle := (List.subperm_of_subset (rolloutStart_nodup hsta) hsub).length_le
      omega
    · intro h
      exact hs (h req now rfl)

end

/-! ## Two nodes, one of them the canary -/

/-- A control service with one published version, which differs from no other. -/
def oneVersion : SnapshotControlService Unit where
  recordsByVersion := SortedMap.empty.insert (lit "v2") ⟨lit "v2", lit "d2", ()⟩
  history := [lit "v2"]
  diff _ _ := ⟨lit "d2", lit "d2", [], [], []⟩
  digest _ := lit "d2"

/-- Nodes that send no signals and take a rollout where `takes` says so. -/
def silentNodes (takes : Text → Bool) : FleetNodeBackend Unit where
  fetchStatus _ _ := .error (.unreachable [])
  fetchHealthSignals _ _ _ := .ok none
  rolloutNode node request _ := fun s =>
    (if takes node then .ok ⟨.rollout, .applied, request.version, lit "d2", request.version⟩ else .error (.rejected []), s)
  rollbackNode _ _ _ := fun s => (.error (.rejected []), s)

def oneCanary : ListenerCanaryApplyRequest where
  listenerName := lit "web"
  candidateVersion := lit "v2"
  nodeIds := [lit "a", lit "b"]
  canaryNodes := 1
  canaryMaxParallel := 1
  fleetMaxParallel := 1
  maxAllowedDivergenceMs := 1000

/-- Three readings of the clock are enough for an apply with two waves. -/
def steadyClock : FleetWorld Unit := { backend := (), readings := [some 10, some 20, some 30] }

/-- The rollout starts and the canary refuses it. -/
theorem applyCanary_gated_refused :
    (rolloutStart oneVersion oneCanary steadyClock.readings).isSome = true ∧
      CanaryGated oneCanary (applyCanary oneVersion (silentNodes (· = lit "b")) oneCanary steadyClock).2.trace :=
  ⟨by decide +kernel, (applyCanary_gated_iff oneVersion (silentNodes (· = lit "b")) oneCanary steadyClock rfl (by decide)).2
    (fun _ _ _ => rfl)⟩

/-- Both nodes take the rollout before either gate is evaluated, and neither gate passes. -/
theorem applyCanary_not_gated : oneCanary.canaryNodes < oneCanary.nodeIds.length ∧
    ¬ CanaryGated oneCanary (applyCanary oneVersion (silentNodes (fun _ => true)) oneCanary steadyClock).2.trace := by
  have htra : (applyCanary oneVersion (silentNodes (fun _ => true)) oneCanary steadyClock).2.trace =
      [.rolloutNode (lit "a"), .rolloutNode (lit "b"), .gateEvaluated (lit "web-canary") .pending,
        .gateEvaluated (lit "web-fleet") .pending] := by decide +kernel
  refine ⟨by decide, fun h => ?_⟩
  have hg := h [.rolloutNode (lit "a")] (lit "b") _ htra (by decide +kernel)
  simp at hg

end WayBalancer
