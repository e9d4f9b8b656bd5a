import WayBalancer.CircuitBreakerSpec
/-!
# FailureManagement — the budget of retries, the hierarchy of timeouts and the breaker of a destination

`crates/runtime/src/failure_management.rs`: a retry budget counts requests and retries in a window of its own, a hierarchy bounds
an attempt by the request it is part of, and a failure manager holds both with a breaker.  Times are in nanoseconds.
-/
namespace WayBalancer

open Word

variable {base used : ℕ} {b : CircuitBreaker}

def UpstreamFailureClass.isRetryable : UpstreamFailureClass → Bool
  | .permanent => false
  | _          => true

/-! ## Retries -/

structure RetryBudgetPolicy where
  minRetryTokens : UInt32
  retryPercent : UInt8
  window : ℕ
deriving DecidableEq

def RetryBudgetPolicy.default : RetryBudgetPolicy := ⟨3, 20, 10 * 10 ^ 9⟩

structure RetryDecision where
  allowed : Bool
  remainingRetryTokens : ℕ
deriving DecidableEq, Repr

structure RetryBudgetState where
  windowStarted : ℕ
  baseRequestCount : ℕ
  retryCount : ℕ
deriving DecidableEq, Repr

/-- The count of refusals wraps at 64 bits. -/
structure RetryBudget where
  policy : RetryBudgetPolicy
  state : RetryBudgetState
  exhaustedCount : ℕ
deriving DecidableEq

def resetRetryWindowIfNeeded (policy : RetryBudgetPolicy) (now : ℕ) (state : RetryBudgetState) : RetryBudgetState :=
  if policy.window ≤ now - state.windowStarted then ⟨now, 0, 0⟩ else state

/-- The product wraps at 64 bits. -/
def retryCapacity (policy : RetryBudgetPolicy) (state : RetryBudgetState) : ℕ :=
  satAdd (state.baseRequestCount * policy.retryPercent.toNat % 2 ^ 64 / 100) policy.minRetryTokens.toNat

namespace RetryBudget

def new (policy : RetryBudgetPolicy) : Except FailureManagementError RetryBudget :=
  if policy.window = 0 then .error .zeroRetryWindow else .ok ⟨policy, ⟨0, 0, 0⟩, 0⟩

variable (budget : RetryBudget) (now : ℕ)

def recordBaseRequest : RetryBudget :=
  let state := resetRetryWindowIfNeeded budget.policy now budget.state
  { budget with state := { state with baseRequestCount := satAdd state.baseRequestCount 1 } }

def allowRetry : RetryDecision × RetryBudget :=
  let state := resetRetryWindowIfNeeded budget.policy now budget.state
  let available := retryCapacity budget.policy state - state.retryCount
  if available = 0 then (⟨false, 0⟩, { budget with state, exhaustedCount := wrapAdd budget.exhaustedCount 1 })
  else (⟨true, available - 1⟩, { budget with state := { state with retryCount := satAdd state.retryCount 1 } })

@[simp] theorem policy_recordBaseRequest : (budget.recordBaseRequest now).policy = budget.policy := rfl

@[simp] theorem policy_allowRetry : (budget.allowRetry now).2.policy = budget.policy := by
  unfold allowRetry
  dsimp only
  split_ifs <;> rfl

theorem allowRetry_of_zero {budget : RetryBudget} (htok : budget.policy.minRetryTokens = 0)
    (hper : budget.policy.retryPercent = 0) (now : ℕ) : (budget.allowRetry now).1.allowed = false := by
  have hcap : ∀ state, retryCapacity budget.policy state = 0 := by
    intro state
    rw [retryCapacity, htok, hper]
    simp [satAdd]
  unfold allowRetry
  simp only [hcap, Nat.zero_sub, if_true]

/-! ### At the start of a window -/

theorem resetRetryWindow_start {policy : RetryBudgetPolicy} (hwin : policy.window ≠ 0) :
    resetRetryWindowIfNeeded policy 0 ⟨0, base, used⟩ = ⟨0, base, used⟩ := by
  rw [resetRetryWindowIfNeeded, if_neg]
  omega

theorem allowRetry_of_used {budget : RetryBudget} (hwin : budget.policy.window ≠ 0) (hsta : budget.state = ⟨0, base, used⟩) :
    (budget.allowRetry 0).1.allowed = decide (used < retryCapacity budget.policy ⟨0, base, used⟩) := by
  unfold allowRetry
  rw [hsta]
  simp only [resetRetryWindow_start hwin]
  split_ifs with hav
  · rw [eq_comm, decide_eq_false_iff_not]
    omega
  · rw [eq_comm, decide_eq_true_iff]
    omega

theorem state_allowRetry {budget : RetryBudget} (hwin : budget.policy.window ≠ 0) (hsta : budget.state = ⟨0, base, used⟩)
    (hlt : used < retryCapacity budget.policy ⟨0, base, used⟩) : (budget.allowRetry 0).2.state = ⟨0, base, used + 1⟩ := by
  have hsat : satAdd used 1 = used + 1 := by
    have hle : retryCapacity budget.policy ⟨0, base, used⟩ ≤ u64Max := Nat.min_le_right _ _
    exact satAdd_of_le (by omega)
  unfold allowRetry
  rw [hsta]
  simp only [resetRetryWindow_start hwin]
  rw [if_neg (by omega), hsat]

theorem retryCapacity_fresh (policy : RetryBudgetPolicy) (used : ℕ) : retryCapacity policy ⟨0, 0, used⟩ = policy.minRetryTokens.toNat := by
  have hlt := policy.minRetryTokens.toNat_lt
  rw [retryCapacity, Nat.zero_mul, Nat.zero_mod, satAdd_of_le (by unfold u64Max; omega), Nat.zero_add]

/-- **As many retries as there are tokens leave none.** -/
theorem retries_exhaust {budget : RetryBudget} (hwin : budget.policy.window ≠ 0) (hsta : budget.state = ⟨0, 0, used⟩)
    {n : ℕ} (h : used + n = budget.policy.minRetryTokens.toNat) :
    (allowRetry ((fun budget : RetryBudget => (budget.allowRetry 0).2)^[n] budget) 0).1.allowed = false := by
  induction n generalizing budget used with
  | zero =>
    rw [Function.iterate_zero_apply, allowRetry_of_used hwin hsta, retryCapacity_fresh, decide_eq_false_iff_not]
    omega
  | succ n ih =>
    have hn := state_allowRetry hwin hsta (by rw [retryCapacity_fresh]; omega)
    refine ih ?_ hn ?_
    · rw [policy_allowRetry]
      exact hwin
    · rw [policy_allowRetry]
      omega

theorem state_requests {budget : RetryBudget} (hwin : budget.policy.window ≠ 0) (hsta : budget.state = ⟨0, base, 0⟩) :
    ∀ {n : ℕ}, base + n ≤ u64Max → ((fun budget : RetryBudget => budget.recordBaseRequest 0)^[n] budget).state = ⟨0, base + n, 0⟩ ∧
        ((fun budget : RetryBudget => budget.recordBaseRequest 0)^[n] budget).policy = budget.policy := by
  intro n
  induction n with
  | zero => exact fun _ => ⟨hsta, rfl⟩
  | succ n ih =>
    intro hle
    obtain ⟨hs, hp⟩ := ih (by omega)
    rw [Function.iterate_succ_apply']
    generalize (fun budget : RetryBudget => budget.recordBaseRequest 0)^[n] budget = counted at hs hp
    refine ⟨?_, hp⟩
    rw [← hp] at hwin
    simp only [recordBaseRequest, hs, resetRetryWindow_start hwin]
    rw [satAdd_of_le (by omega)]
    rfl

theorem requests_allow {budget : RetryBudget} (hwin : budget.policy.window ≠ 0) (hsta : budget.state = ⟨0, 0, 0⟩)
    (hper : budget.policy.retryPercent ≠ 0) :
    (allowRetry ((fun budget : RetryBudget => budget.recordBaseRequest 0)^[100] budget) 0).1.allowed = true := by
  obtain ⟨hs, hp⟩ := state_requests hwin hsta (n := 100) (by decide)
  have hpos : 0 < budget.policy.retryPercent.toNat :=
    Nat.pos_of_ne_zero fun h => hper (UInt8.toNat_inj.1 (by rw [h]; rfl))
  have hlt := budget.policy.retryPercent.toNat_lt
  have htok := budget.policy.minRetryTokens.toNat_lt
  rw [allowRetry_of_used (by rw [hp]; exact hwin) hs, hp, decide_eq_true_iff, retryCapacity]
  dsimp only
  rw [Nat.mod_eq_of_lt (by omega), satAdd_of_le (by unfold u64Max; omega)]
  omega

/-! ### Over a run

What was answered is cut into windows by the times alone: a call a whole window after the start of the last one starts the
next. -/

inductive Call
  | base
  | retry

inductive Event
  | base
  | granted
  | refused
deriving DecidableEq

def step : Call → Event × RetryBudget
  | .base  => (.base, budget.recordBaseRequest now)
  | .retry =>
    let (decision, budget) := budget.allowRetry now
    (if decision.allowed = true then .granted else .refused, budget)

def trace (budget : RetryBudget) : List (ℕ × Call) → List (ℕ × Event)
  | []                  => []
  | (now, call) :: rest => (now, (budget.step now call).1) :: trace (budget.step now call).2 rest

def windows (length started : ℕ) (current : List Event) : List (ℕ × Event) → List (List Event)
  | []                   => [current]
  | (now, event) :: rest =>
    if length ≤ now - started then current :: windows length now [event] rest
    else windows length started (current ++ [event]) rest

def Within (policy : RetryBudgetPolicy) (window : List Event) : Prop :=
  window.count .granted ≤ policy.minRetryTokens.toNat + window.count .base * policy.retryPercent.toNat / 100

/-- The counters against the events of the window that runs: a request may be lost to saturation, a grant never. -/
structure Counts (policy : RetryBudgetPolicy) (state : RetryBudgetState) (window : List Event) : Prop where
  base : state.baseRequestCount ≤ window.count .base
  granted : state.retryCount = window.count .granted
  within : Within policy window

theorem Counts.fresh (policy : RetryBudgetPolicy) (now : ℕ) : Counts policy ⟨now, 0, 0⟩ [] :=
  ⟨Nat.le_refl 0, rfl, Nat.zero_le _⟩

theorem allowRetry_of_refused {budget : RetryBudget} {now : ℕ} (h : (budget.allowRetry now).1.allowed = false) :
    (budget.allowRetry now).2.state = resetRetryWindowIfNeeded budget.policy now budget.state := by
  unfold allowRetry at h ⊢
  dsimp only at h ⊢
  split_ifs at h ⊢ with hav
  rfl

-- A product that wraps is no larger, so what it allows stays within the share of the requests.
theorem retryCapacity_le {policy : RetryBudgetPolicy} {state : RetryBudgetState} {n : ℕ} (h : state.baseRequestCount ≤ n) :
    retryCapacity policy state ≤ policy.minRetryTokens.toNat + n * policy.retryPercent.toNat / 100 := by
  have hpro : state.baseRequestCount * policy.retryPercent.toNat % 2 ^ 64 ≤ n * policy.retryPercent.toNat :=
    (Nat.mod_le _ _).trans (Nat.mul_le_mul_right _ h)
  have hdiv := Nat.div_le_div_right (c := 100) hpro
  unfold retryCapacity satAdd
  omega

theorem Counts.step {budget : RetryBudget} {now : ℕ} {window : List Event}
    (h : Counts budget.policy (resetRetryWindowIfNeeded budget.policy now budget.state) window) (call : Call) :
    Counts budget.policy (budget.step now call).2.state (window ++ [(budget.step now call).1]) := by
  obtain ⟨hb, hgra, hwit⟩ := h
  cases call with
  | base =>
    have hm := Nat.div_le_div_right (c := 100)
      (Nat.mul_le_mul_right budget.policy.retryPercent.toNat (Nat.le_succ (window.count .base)))
    refine ⟨?_, ?_, ?_⟩
    · rw [List.count_append]
      exact (Nat.min_le_left _ _).trans (Nat.add_le_add_right hb 1)
    · rw [List.count_append]
      exact hgra
    · simpa [Within, RetryBudget.step] using hwit.trans (Nat.add_le_add_left hm _)
  | retry =>
    unfold RetryBudget.step allowRetry
    dsimp only
    split_ifs with hav hall hall
    · cases hall
    · exact ⟨by simpa using hb, by simpa using hgra, by simpa [Within] using hwit⟩
    · have hcap := @retryCapacity_le budget.policy _ _ hb
      have hmax : retryCapacity budget.policy (resetRetryWindowIfNeeded budget.policy now budget.state) ≤ u64Max :=
        Nat.min_le_right _ _
      refine ⟨by simpa using hb, ?_, ?_⟩
      · rw [List.count_append, List.count_singleton_self, ← hgra]
        exact satAdd_of_le (by omega)
      · simp only [Within, List.count_append, List.count_singleton_self]
        simp
        omega
    · exact absurd rfl hall

theorem windowStarted_step (call : Call) : (budget.step now call).2.state.windowStarted =
    (resetRetryWindowIfNeeded budget.policy now budget.state).windowStarted := by
  cases call with
  | base => rfl
  | retry =>
    unfold step allowRetry
    dsimp only
    split_ifs <;> rfl

theorem policy_step (call : Call) : (budget.step now call).2.policy = budget.policy := by
  cases call with
  | base => rfl
  | retry => exact policy_allowRetry budget now

theorem Counts.trace (calls : List (ℕ × Call)) {budget : RetryBudget} {window : List Event}
    (h : Counts budget.policy budget.state window) :
    ∀ w ∈ windows budget.policy.window budget.state.windowStarted window (budget.trace calls), Within budget.policy w := by
  induction calls generalizing budget window with
  | nil =>
    intro w hw
    rw [List.mem_singleton.mp hw]
    exact h.within
  | cons c rest ih =>
    obtain ⟨now, call⟩ := c
    have hsta := windowStarted_step budget now call
    have hpol := policy_step budget now call
    rw [RetryBudget.trace, windows]
    by_cases hnew : budget.policy.window ≤ now - budget.state.windowStarted
    · have hres : resetRetryWindowIfNeeded budget.policy now budget.state = ⟨now, 0, 0⟩ := if_pos hnew
      have hn := Counts.step (hres ▸ Counts.fresh budget.policy now) call
      rw [hres] at hsta
      rw [if_pos hnew]
      intro w hw
      rcases List.mem_cons.mp hw with rfl | hw
      · exact h.within
      · have := @ih (budget.step now call).2 _ (hpol ▸ hn) w
        rw [hpol, hsta] at this
        exact this hw
    · have hres : resetRetryWindowIfNeeded budget.policy now budget.state = budget.state := if_neg hnew
      have hn := Counts.step (hres.symm ▸ h) call
      rw [hres] at hsta
      rw [if_neg hnew]
      intro w hw
      have := @ih (budget.step now call).2 _ (hpol ▸ hn) w
      rw [hpol, hsta] at this
      exact this hw

/-- **The retries granted in a window are within the tokens and the share of its requests**, and a refusal leaves the counters
of the window it falls in. -/
theorem retries_within (policy : RetryBudgetPolicy) (budget : RetryBudget) (h : new policy = .ok budget)
    (calls : List (ℕ × Call)) :
    (∀ w ∈ windows policy.window 0 [] (budget.trace calls), Within policy w) ∧
    ∀ (reached : RetryBudget) now, (reached.allowRetry now).1.allowed = false →
      (reached.allowRetry now).2.state = resetRetryWindowIfNeeded reached.policy now reached.state := by
  refine ⟨?_, fun reached now href => allowRetry_of_refused href⟩
  unfold new at h
  split_ifs at h
  cases h
  exact @Counts.trace calls ⟨policy, ⟨0, 0, 0⟩, 0⟩ [] (Counts.fresh policy 0)

theorem retries_within_default : ∃ budget, new .default = .ok budget ∧
    ∀ w ∈ windows RetryBudgetPolicy.default.window 0 [] (budget.trace [(0, .base), (1, .retry)]), Within .default w :=
  ⟨_, rfl, (retries_within .default _ rfl _).1⟩

end RetryBudget

/-! ## Timeouts -/

inductive TimeoutCategory
  | request
  | attempt
  | connect
  | idle
deriving DecidableEq, Repr

structure TimeoutHierarchy where
  requestTimeout : ℕ
  attemptTimeout : ℕ
  connectTimeout : ℕ
  idleTimeout : ℕ
deriving DecidableEq, Repr

namespace TimeoutHierarchy

def validate (h : TimeoutHierarchy) : Except FailureManagementError Unit :=
  if h.requestTimeout = 0 ∨ h.attemptTimeout = 0 ∨ h.connectTimeout = 0 ∨ h.idleTimeout = 0 then .error .zeroTimeout
  else if h.requestTimeout < h.attemptTimeout ∨ h.attemptTimeout < h.connectTimeout ∨ h.attemptTimeout < h.idleTimeout then
    .error .invalidTimeoutOrder
  else .ok ()

def effectiveTimeout (h : TimeoutHierarchy) : TimeoutCategory → ℕ
  | .request => h.requestTimeout
  | .attempt => min h.attemptTimeout h.requestTimeout
  | .connect => min h.connectTimeout h.attemptTimeout
  | .idle    => min h.idleTimeout h.attemptTimeout

end TimeoutHierarchy

/-! ## The manager -/

/-- The counts of timeouts, wrapping at 64 bits; a category without an entry counts zero. -/
structure FailureManager where
  retryBudget : RetryBudget
  timeoutHierarchy : TimeoutHierarchy
  circuitBreaker : CircuitBreaker
  timeoutCategoryCounts : TimeoutCategory → ℕ

namespace FailureManager

def new (retryBudget : RetryBudgetPolicy) (timeoutHierarchy : TimeoutHierarchy) (circuitBreaker : CircuitBreakerPolicy) :
    Except FailureManagementError FailureManager := do
  timeoutHierarchy.validate
  let retryBudget ← RetryBudget.new retryBudget
  let circuitBreaker ← CircuitBreaker.new circuitBreaker
  return ⟨retryBudget, timeoutHierarchy, circuitBreaker, fun _ => 0⟩

variable (m : FailureManager)

def recordBaseRequest (now : ℕ) : FailureManager := { m with retryBudget := m.retryBudget.recordBaseRequest now }

def allowRetry (now : ℕ) (failure : UpstreamFailureClass) : RetryDecision × FailureManager :=
  if failure.isRetryable then
    let (decision, retryBudget) := m.retryBudget.allowRetry now
    (decision, { m with retryBudget })
  else (⟨false, 0⟩, m)

def effectiveTimeout (category : TimeoutCategory) : ℕ := m.timeoutHierarchy.effectiveTimeout category

def recordTimeout (category : TimeoutCategory) : FailureManager :=
  { m with timeoutCategoryCounts := Function.update m.timeoutCategoryCounts category (wrapAdd (m.timeoutCategoryCounts category) 1) }

def allowRequest (now : ℕ) : Bool × FailureManager :=
  let (admitted, circuitBreaker) := m.circuitBreaker.allowRequest now
  (admitted, { m with circuitBreaker })

def recordSuccess : FailureManager := { m with circuitBreaker := m.circuitBreaker.recordSuccess }

def recordFailure (now : ℕ) (failure : UpstreamFailureClass) : FailureManager :=
  { m with circuitBreaker := m.circuitBreaker.recordFailure now failure }

theorem new_ok {retry : RetryBudgetPolicy} {timeouts : TimeoutHierarchy} {breaker : CircuitBreakerPolicy} {m : FailureManager}
    (h : new retry timeouts breaker = .ok m) :
    retry.window ≠ 0 ∧ m.retryBudget = ⟨retry, ⟨0, 0, 0⟩, 0⟩ ∧ CircuitBreaker.new breaker = .ok m.circuitBreaker := by
  unfold new RetryBudget.new at h
  by_cases hwin : retry.window = 0
  · cases ht : timeouts.validate <;> simp [ht, hwin, bind, Except.bind] at h
  · cases ht : timeouts.validate <;> cases hb : CircuitBreaker.new breaker <;>
      simp [ht, hb, hwin, bind, Except.bind, pure, Except.pure] at h
    subst h
    exact ⟨hwin, rfl, rfl⟩

end FailureManager

/-! ## Failures in a row -/

namespace CircuitBreaker

theorem recordFailure_of_lt (hclo : b.record.state = .closed)
    (hlt : b.record.consecutiveFailures + 1 < b.policy.openFailureThreshold) (now : ℕ) :
    b.recordFailure now .connect = { b with record := { b.record with consecutiveFailures := b.record.consecutiveFailures + 1 } } := by
  have hle := b.policy.openFailureThreshold_le
  have hsat : satAdd32 b.record.consecutiveFailures 1 = b.record.consecutiveFailures + 1 := satAdd32_of_le (by omega)
  simp only [recordFailure, UpstreamFailureClass.countsTowardBreaker, if_true, hclo, hsat]
  rw [if_neg (by omega)]

theorem recordFailure_of_eq (hclo : b.record.state = .closed)
    (heq : b.record.consecutiveFailures + 1 = b.policy.openFailureThreshold) (now : ℕ) :
    (b.recordFailure now .connect).record.state = .opened ∧ (b.recordFailure now .connect).record.openedAt = now ∧
      (b.recordFailure now .connect).policy = b.policy := by
  have hle := b.policy.openFailureThreshold_le
  have hsat : satAdd32 b.record.consecutiveFailures 1 = b.record.consecutiveFailures + 1 := satAdd32_of_le (by omega)
  simp only [recordFailure, UpstreamFailureClass.countsTowardBreaker, if_true, hclo, hsat]
  rw [if_pos (by omega)]
  simp [transition]

theorem allowRequest_of_opened (hope : b.record.state = .opened) (hpos : b.policy.openDuration ≠ 0) :
    (b.allowRequest b.record.openedAt).1 = false := by
  have hc : b.cooledDown b.record.openedAt = b := by
    rw [cooledDown, if_neg]
    omega
  rw [allowRequest, hc, hope]

/-- **As many failures as the threshold open a fresh breaker**: at that instant it admits nothing. -/
theorem failures_open (hclo : b.record.state = .closed) (hpos : b.policy.openDuration ≠ 0) (now : ℕ) {n : ℕ}
    (h : b.record.consecutiveFailures + (n + 1) = b.policy.openFailureThreshold) :
    (allowRequest ((fun b : CircuitBreaker => b.recordFailure now .connect)^[n + 1] b) now).1 = false := by
  induction n generalizing b with
  | zero =>
    obtain ⟨hope, hat, hpol⟩ := recordFailure_of_eq hclo h now
    have href := allowRequest_of_opened hope (by rw [hpol]; exact hpos)
    rw [hat] at href
    exact href
  | succ n ih =>
    rw [Function.iterate_succ_apply, recordFailure_of_lt hclo (by omega)]
    refine ih ?_ ?_ ?_
    · exact hclo
    · exact hpos
    · dsimp only
      omega

end CircuitBreaker

end WayBalancer
