import WayBalancer.CircuitBreaker
/-!
# CircuitBreakerSpec — what a breaker admits over a whole run

A run is watched from outside: the states before and after each call, and whether a request was admitted.  From that alone
`BreakerWatch` keeps the time of the last opening, the probe window with the requests admitted in it, and the counted failures
since the last success.  `Watched` ties it to the breaker's own record.
-/
namespace WayBalancer

open Word
open CircuitBreaker (new)

/-! ## The record after a call -/

namespace CircuitBreaker

variable (b : CircuitBreaker)

@[simp] theorem transition_record (s : CircuitBreakerState) (k : FailureManagementEventKind) (d : String) :
    (b.transition s k d).record = { b.record with state := s } := by
  by_cases h : b.record.state = s
  · rw [transition, if_pos h, ← h]
  · rw [transition, if_neg h]

@[simp] theorem transition_policy (s : CircuitBreakerState) (k : FailureManagementEventKind) (d : String) :
    (b.transition s k d).policy = b.policy := by
  unfold transition
  split_ifs <;> rfl

variable (now : ℕ)

/-- The probes a half-open breaker counts when a request arrives: none where the window is armed again. -/
def probesBefore : ℕ :=
  if b.policy.openDuration ≤ now - b.record.halfOpenWindowStarted then 0 else b.record.halfOpenAdmitted

/-- The start of the window the request falls into. -/
def windowAt : ℕ :=
  if b.policy.openDuration ≤ now - b.record.halfOpenWindowStarted then now else b.record.halfOpenWindowStarted

def hasBudget : Prop :=
  b.probesBefore now < b.policy.halfOpenSuccessThreshold - b.record.halfOpenSuccesses

instance (b : CircuitBreaker) (now : ℕ) : Decidable (b.hasBudget now) := inferInstanceAs (Decidable (_ < _))

theorem admitProbe_spec : (b.admitProbe now).1 = decide (b.hasBudget now) ∧ (b.admitProbe now).2.policy = b.policy ∧
    (b.admitProbe now).2.record =
      { b.record with halfOpenAdmitted := b.probesBefore now + (if b.hasBudget now then 1 else 0)
                      halfOpenWindowStarted := b.windowAt now } := by
  unfold admitProbe hasBudget probesBefore windowAt
  by_cases hw : b.policy.openDuration ≤ now - b.record.halfOpenWindowStarted
  · simp only [hw, if_true, armed]
    split_ifs with h <;> simp [h, rejected]
  · split_ifs with h <;> simp [h, rejected]

def probing : CircuitBreaker :=
  (b.transition .halfOpen .breakerHalfOpened "breaker cool-down elapsed; allowing probe traffic").armed now

variable {b}

/-! The calls by the state they find. -/

theorem allowRequest_closed (hs : b.record.state = .closed) : b.allowRequest now = (true, b) := by
  simp [allowRequest, cooledDown, hs]

theorem allowRequest_cooling (hs : b.record.state = .opened) (ht : now - b.record.openedAt < b.policy.openDuration) :
    b.allowRequest now = (false, b.rejected) := by
  simp [allowRequest, cooledDown, hs, Nat.not_le.2 ht]

theorem allowRequest_cooled (hs : b.record.state = .opened) (ht : b.policy.openDuration ≤ now - b.record.openedAt) :
    b.allowRequest now = (b.probing now).admitProbe now := by
  simp [allowRequest, cooledDown, hs, ht, armed, probing]

theorem allowRequest_halfOpen (hs : b.record.state = .halfOpen) : b.allowRequest now = b.admitProbe now := by
  simp [allowRequest, cooledDown, hs]

theorem recordSuccess_closed (hs : b.record.state = .closed) : b.recordSuccess.record = { b.record with consecutiveFailures := 0 } := by
  simp [recordSuccess, hs]

theorem recordSuccess_opened (hs : b.record.state = .opened) : b.recordSuccess = b := by
  simp [recordSuccess, hs]

theorem recordSuccess_halfOpen (hs : b.record.state = .halfOpen) : b.recordSuccess.record =
    if b.policy.halfOpenSuccessThreshold ≤ satAdd32 b.record.halfOpenSuccesses 1 then
      { b.record with state := .closed, consecutiveFailures := 0, halfOpenSuccesses := 0 }
    else { b.record with halfOpenSuccesses := satAdd32 b.record.halfOpenSuccesses 1 } := by
  simp only [recordSuccess, hs]
  split_ifs <;> simp

section
variable {failure : UpstreamFailureClass} (hf : failure.countsTowardBreaker = true)
include hf

theorem recordFailure_closed (hs : b.record.state = .closed) : (b.recordFailure now failure).record =
    if b.policy.openFailureThreshold ≤ satAdd32 b.record.consecutiveFailures 1 then
      { b.record with state := .opened, openedAt := now, halfOpenSuccesses := 0
                      consecutiveFailures := satAdd32 b.record.consecutiveFailures 1 }
    else { b.record with consecutiveFailures := satAdd32 b.record.consecutiveFailures 1 } := by
  simp only [recordFailure, hf, if_true, hs]
  split_ifs <;> simp

theorem recordFailure_opened (hs : b.record.state = .opened) :
    (b.recordFailure now failure).record = { b.record with openedAt := now } := by
  simp [recordFailure, hf, hs]

theorem recordFailure_halfOpen (hs : b.record.state = .halfOpen) : (b.recordFailure now failure).record =
    { b.record with state := .opened, openedAt := now, halfOpenSuccesses := 0
                    consecutiveFailures := b.policy.openFailureThreshold } := by
  simp [recordFailure, hf, hs]

end

theorem recordFailure_uncounted {failure : UpstreamFailureClass} (hf : ¬ failure.countsTowardBreaker = true) :
    b.recordFailure now failure = b := by
  rw [recordFailure, if_neg hf]

variable (b) in
theorem step_policy (call : BreakerCall) : (b.step call).2.policy = b.policy := by
  cases call with
  | allowRequest now =>
    show (b.allowRequest now).2.policy = _
    cases hs : b.record.state with
    | closed => rw [allowRequest_closed now hs]
    | halfOpen => rw [allowRequest_halfOpen now hs, (b.admitProbe_spec now).2.1]
    | opened =>
      by_cases ht : b.policy.openDuration ≤ now - b.record.openedAt
      · rw [allowRequest_cooled now hs ht, ((b.probing now).admitProbe_spec now).2.1]
        simp [probing, armed]
      · rw [allowRequest_cooling now hs (Nat.lt_of_not_le ht)]
        rfl
  | recordSuccess =>
    show b.recordSuccess.policy = _
    unfold recordSuccess
    cases b.record.state with
    | closed | opened => rfl
    | halfOpen =>
      dsimp only
      split_ifs <;> simp
  | recordFailure now failure =>
    show (b.recordFailure now failure).policy = _
    unfold recordFailure
    split_ifs
    · cases b.record.state with
      | closed =>
        dsimp only
        split_ifs <;> simp
      | opened => rfl
      | halfOpen => simp
    · rfl

theorem new_ok {policy : CircuitBreakerPolicy} {b : CircuitBreaker} (h : new policy = .ok b) :
    0 < policy.openFailureThreshold ∧ 0 < policy.halfOpenSuccessThreshold ∧ 0 < policy.openDuration ∧
      b = ⟨policy, ⟨.closed, 0, 0, 0, 0, 0⟩, 0, 0, []⟩ := by
  unfold new at h
  split_ifs at h with hz
  cases h
  exact ⟨by omega, by omega, by omega, rfl⟩

end CircuitBreaker

/-! ## Watching a run -/

structure BreakerEvent where
  before : CircuitBreakerState
  call : BreakerCall
  admitted : Bool
  after : CircuitBreakerState
deriving DecidableEq, Repr

variable (b : CircuitBreaker)

def CircuitBreaker.event (call : BreakerCall) : BreakerEvent :=
  ⟨b.record.state, call, (b.step call).1, (b.step call).2.record.state⟩

def CircuitBreaker.trace (b : CircuitBreaker) : List BreakerCall → List BreakerEvent
  | []            => []
  | call :: calls => b.event call :: (b.step call).2.trace calls

structure BreakerWatch where
  /-- When the breaker last opened. -/
  openedTime : ℕ
  /-- When the probe window began: the breaker became half-open, or the window was armed again. -/
  windowStarted : ℕ
  windowAdmitted : ℕ
  /-- The counted failures since the last success. -/
  failures : ℕ
deriving DecidableEq, Repr

variable (openDuration : ℕ)

/-- Whether a request that leaves the breaker half-open begins a probe window. -/
def BreakerWatch.begins (w : BreakerWatch) (e : BreakerEvent) (now : ℕ) : Bool :=
  e.before != .halfOpen || openDuration ≤ now - w.windowStarted

def BreakerWatch.next (w : BreakerWatch) (e : BreakerEvent) : BreakerWatch :=
  match e.call with
  | .recordSuccess => { w with failures := 0 }
  | .recordFailure now failure =>
    { w with openedTime := if e.before ≠ .opened ∧ e.after = .opened then now else w.openedTime
             failures := if failure.countsTowardBreaker then w.failures + 1 else w.failures }
  | .allowRequest now =>
    if e.after = .halfOpen then
      { w with windowStarted := if w.begins openDuration e now then now else w.windowStarted
               windowAdmitted := (if w.begins openDuration e now then 0 else w.windowAdmitted) + e.admitted.toNat }
    else w

def watch (trace : List BreakerEvent) : BreakerWatch :=
  trace.foldl (BreakerWatch.next openDuration) ⟨0, 0, 0, 0⟩

/-- **What a breaker keeps to at a call**, given what was watched before it. -/
structure BreakerSafeAt (policy : CircuitBreakerPolicy) (w : BreakerWatch) (e : BreakerEvent) : Prop where
  cooling : ∀ now, e.call = .allowRequest now → e.before = .opened → now < w.openedTime + policy.openDuration →
    e.admitted = false
  probes : (w.next policy.openDuration e).windowAdmitted ≤ policy.halfOpenSuccessThreshold
  opens : e.before = .closed → (e.after = .opened ↔ ∃ now failure, e.call = .recordFailure now failure ∧
    failure.countsTowardBreaker = true ∧ w.failures + 1 = policy.openFailureThreshold)

structure Watched (b : CircuitBreaker) (w : BreakerWatch) (now : ℕ) : Prop where
  opened : b.record.state = .opened → w.openedTime ≤ b.record.openedAt ∧ b.record.openedAt ≤ now
  halfOpen : b.record.state = .halfOpen →
    w.windowStarted = b.record.halfOpenWindowStarted ∧ w.windowAdmitted = b.record.halfOpenAdmitted
  admitted : w.windowAdmitted ≤ b.policy.halfOpenSuccessThreshold
  closed : b.record.state = .closed →
    w.failures = b.record.consecutiveFailures ∧ b.record.consecutiveFailures < b.policy.openFailureThreshold

theorem CircuitBreaker.event_request {t : ℕ} : b.event (.allowRequest t) =
    ⟨b.record.state, .allowRequest t, (b.allowRequest t).1, (b.allowRequest t).2.record.state⟩ := rfl

theorem CircuitBreaker.event_failure {t : ℕ} {failure : UpstreamFailureClass} : b.event (.recordFailure t failure) =
      ⟨b.record.state, .recordFailure t failure, false, (b.recordFailure t failure).record.state⟩ := rfl

section Step

variable {b : CircuitBreaker} {w : BreakerWatch} {now : ℕ}

theorem probes_le (h : b.record.halfOpenAdmitted ≤ b.policy.halfOpenSuccessThreshold) {t : ℕ} :
    b.probesBefore t + (if b.hasBudget t then 1 else 0) ≤ b.policy.halfOpenSuccessThreshold := by
  have hle : b.probesBefore t ≤ b.policy.halfOpenSuccessThreshold := by
    unfold CircuitBreaker.probesBefore
    split_ifs
    · exact Nat.zero_le _
    · exact h
  by_cases hb : b.hasBudget t
  · have hlt : b.probesBefore t < b.policy.halfOpenSuccessThreshold - b.record.halfOpenSuccesses := hb
    rw [if_pos hb]
    omega
  · rw [if_neg hb]
    exact hle

theorem Watched.mono (h : Watched b w now) {t : ℕ} (ht : now ≤ t) : Watched b w t :=
  ⟨fun hs => ⟨(h.opened hs).1, (h.opened hs).2.trans ht⟩, h.halfOpen, h.admitted, h.closed⟩

theorem Watched.of_closed (hs : b.record.state = .closed) (hadm : w.windowAdmitted ≤ b.policy.halfOpenSuccessThreshold)
    (hfai : w.failures = b.record.consecutiveFailures) (hlt : b.record.consecutiveFailures < b.policy.openFailureThreshold) :
    Watched b w now :=
  ⟨fun h => (by cases hs.symm.trans h), fun h => (by cases hs.symm.trans h), hadm, fun _ => ⟨hfai, hlt⟩⟩

theorem Watched.of_opened (hs : b.record.state = .opened) (hadm : w.windowAdmitted ≤ b.policy.halfOpenSuccessThreshold)
    (hle : w.openedTime ≤ b.record.openedAt) (hnow : b.record.openedAt ≤ now) : Watched b w now :=
  ⟨fun _ => ⟨hle, hnow⟩, fun h => (by cases hs.symm.trans h), hadm, fun h => (by cases hs.symm.trans h)⟩

theorem Watched.of_halfOpen (hs : b.record.state = .halfOpen) (hadm : w.windowAdmitted ≤ b.policy.halfOpenSuccessThreshold)
    (hsta : w.windowStarted = b.record.halfOpenWindowStarted) (hprb : w.windowAdmitted = b.record.halfOpenAdmitted) :
    Watched b w now :=
  ⟨fun h => (by cases hs.symm.trans h), fun _ => ⟨hsta, hprb⟩, hadm, fun h => (by cases hs.symm.trans h)⟩

/-- A half-open breaker and its watch after a request, once both agree on the window the request falls into. -/
theorem watched_probe {t : ℕ} (hsta : b.record.state = .halfOpen)
    (hle : b.record.halfOpenAdmitted ≤ b.policy.halfOpenSuccessThreshold) (hw : w.windowStarted = b.windowAt t)
    (ha : w.windowAdmitted = b.probesBefore t + (if b.hasBudget t then 1 else 0)) : Watched (b.admitProbe t).2 w now := by
  obtain ⟨-, hpol, hrec⟩ := b.admitProbe_spec t
  refine .of_halfOpen (by rw [hrec]; exact hsta) ?_ (by rw [hrec]; exact hw) (by rw [hrec]; exact ha)
  rw [hpol, ha]
  exact probes_le hle

theorem Watched.request (h : Watched b w now) (t : ℕ) (ht : now ≤ t) :
    Watched (b.allowRequest t).2 (w.next b.policy.openDuration (b.event (.allowRequest t))) t := by
  rw [b.event_request]
  cases hs : b.record.state with
  | closed =>
    rw [b.allowRequest_closed t hs, hs]
    exact h.mono ht
  | opened =>
    by_cases hc : b.policy.openDuration ≤ t - b.record.openedAt
    · -- the window begins with this request
      have hrec : (b.probing t).record = { b.record with state := .halfOpen, halfOpenAdmitted := 0, halfOpenWindowStarted := t } := by
        simp [CircuitBreaker.probing, CircuitBreaker.armed]
      have hbef : (b.probing t).probesBefore t = 0 := by simp [CircuitBreaker.probesBefore, hrec]
      have hat : (b.probing t).windowAt t = t := by simp [CircuitBreaker.windowAt, hrec]
      obtain ⟨ha, -, haft⟩ := (b.probing t).admitProbe_spec t
      rw [b.allowRequest_cooled t hs hc, show ((b.probing t).admitProbe t).2.record.state = .halfOpen by rw [haft, hrec]]
      refine watched_probe (by rw [hrec]) (by rw [hrec]; exact Nat.zero_le _) ?_ ?_
      · simp [BreakerWatch.next, BreakerWatch.begins, hat]
      · rw [hbef]
        by_cases hb : (b.probing t).hasBudget t <;> simp [BreakerWatch.next, BreakerWatch.begins, ha, hb]
    · rw [b.allowRequest_cooling t hs (Nat.lt_of_not_le hc), show b.rejected.record.state = .opened from hs]
      exact .of_opened hs h.admitted ((h.mono ht).opened hs).1 ((h.mono ht).opened hs).2
  | halfOpen =>
    obtain ⟨hsta, hadm⟩ := h.halfOpen hs
    obtain ⟨ha, -, haft⟩ := b.admitProbe_spec t
    rw [b.allowRequest_halfOpen t hs, show (b.admitProbe t).2.record.state = .halfOpen by rw [haft, hs]]
    refine watched_probe hs (by rw [← hadm]; exact h.admitted) ?_ ?_
    · simp [BreakerWatch.next, BreakerWatch.begins, CircuitBreaker.windowAt, hsta]
    · by_cases hb : b.hasBudget t <;>
        simp [BreakerWatch.next, BreakerWatch.begins, ha, hb, CircuitBreaker.probesBefore, hsta, hadm]

theorem Watched.success (h : Watched b w now) (hpos : 0 < b.policy.openFailureThreshold) :
    Watched b.recordSuccess (w.next b.policy.openDuration (b.event .recordSuccess)) now := by
  change Watched b.recordSuccess { w with failures := 0 } now
  have hpol : b.recordSuccess.policy = b.policy := b.step_policy .recordSuccess
  have hadm : w.windowAdmitted ≤ b.recordSuccess.policy.halfOpenSuccessThreshold := by rw [hpol]; exact h.admitted
  cases hs : b.record.state with
  | closed =>
    have hrec := b.recordSuccess_closed hs
    exact .of_closed (by rw [hrec, hs]) hadm (by rw [hrec]) (by rw [hrec, hpol]; exact hpos)
  | opened =>
    rw [b.recordSuccess_opened hs]
    exact .of_opened hs h.admitted (h.opened hs).1 (h.opened hs).2
  | halfOpen =>
    have hrec := b.recordSuccess_halfOpen hs
    split_ifs at hrec
    · exact .of_closed (by rw [hrec]) hadm (by rw [hrec]) (by rw [hrec, hpol]; exact hpos)
    · exact .of_halfOpen (by rw [hrec, hs]) hadm (by rw [hrec]; exact (h.halfOpen hs).1) (by rw [hrec]; exact (h.halfOpen hs).2)

theorem Watched.counts (h : Watched b w now) (hs : b.record.state = .closed) :
    satAdd32 b.record.consecutiveFailures 1 = w.failures + 1 := by
  obtain ⟨hf, hlt⟩ := h.closed hs
  rw [hf]
  exact satAdd32_of_le (le_trans hlt b.policy.openFailureThreshold_le)

theorem Watched.failure (h : Watched b w now) (t : ℕ) (ht : now ≤ t) (failure : UpstreamFailureClass) :
    Watched (b.recordFailure t failure) (w.next b.policy.openDuration (b.event (.recordFailure t failure))) t := by
  have hpol : (b.recordFailure t failure).policy = b.policy := b.step_policy (.recordFailure t failure)
  have hadm : w.windowAdmitted ≤ (b.recordFailure t failure).policy.halfOpenSuccessThreshold := by rw [hpol]; exact h.admitted
  rw [b.event_failure]
  by_cases hf : failure.countsTowardBreaker = true
  · cases hs : b.record.state with
    | closed =>
      have hrec := b.recordFailure_closed t hf hs
      split_ifs at hrec with hge
      · exact .of_opened (by rw [hrec]) hadm (by simp [BreakerWatch.next, hrec]) (by rw [hrec])
      · refine .of_closed (by rw [hrec, hs]) hadm ?_ ?_
        · simp [BreakerWatch.next, hf, hrec, h.counts hs]
        · rw [hrec, hpol]
          exact Nat.lt_of_not_le hge
    | opened =>
      obtain ⟨hle, hnow⟩ := h.opened hs
      have hrec := b.recordFailure_opened t hf hs
      refine .of_opened (by rw [hrec, hs]) hadm ?_ (by rw [hrec])
      simpa [BreakerWatch.next, hrec] using hle.trans (hnow.trans ht)
    | halfOpen =>
      have hrec := b.recordFailure_halfOpen t hf hs
      exact .of_opened (by rw [hrec]) hadm (by simp [BreakerWatch.next, hrec]) (by rw [hrec])
  · rw [b.recordFailure_uncounted t hf]
    have hne : ¬ (b.record.state ≠ .opened ∧ b.record.state = .opened) := fun ⟨h1, h2⟩ => h1 h2
    simp only [BreakerWatch.next, if_neg hne, if_neg hf]
    exact h.mono ht

def BreakerCall.timeAfter (call : BreakerCall) (now : ℕ) : ℕ := call.time.getD now

theorem Watched.step (h : Watched b w now) (hpos : 0 < b.policy.openFailureThreshold) (call : BreakerCall)
    (ht : ∀ t, call.time = some t → now ≤ t) :
    Watched (b.step call).2 (w.next b.policy.openDuration (b.event call)) (call.timeAfter now) := by
  cases call with
  | allowRequest t => exact h.request t (ht t rfl)
  | recordSuccess => exact h.success hpos
  | recordFailure t failure => exact h.failure t (ht t rfl) failure

variable {call : BreakerCall}

/-- A closed breaker opens at the counted failure that completes the threshold, and at no other call. -/
theorem Watched.opens_iff (h : Watched b w now) (hs : b.record.state = .closed) :
    (b.event call).after = .opened ↔ ∃ t failure, call = .recordFailure t failure ∧
      failure.countsTowardBreaker = true ∧ w.failures + 1 = b.policy.openFailureThreshold := by
  cases call with
  | allowRequest t =>
    rw [b.event_request, b.allowRequest_closed t hs, hs]
    simp
  | recordSuccess =>
    have haft : (b.event .recordSuccess).after = .closed := by
      change b.recordSuccess.record.state = _
      rw [b.recordSuccess_closed hs, hs]
    rw [haft]
    simp
  | recordFailure t failure =>
    rw [b.event_failure]
    by_cases hf : failure.countsTowardBreaker = true
    · obtain ⟨hfa, hlt⟩ := h.closed hs
      have hcnt := h.counts hs
      have hrec := b.recordFailure_closed t hf hs
      split_ifs at hrec with hge
      · rw [hrec]
        exact iff_of_true rfl ⟨t, failure, rfl, hf, by omega⟩
      · rw [hrec, hs]
        refine iff_of_false (by simp) ?_
        omega
    · rw [b.recordFailure_uncounted t hf, hs]
      refine iff_of_false (by simp) ?_
      rintro ⟨t', failure', he, hf', -⟩
      cases he
      exact hf hf'

theorem Watched.safeAt (h : Watched b w now) (hpos : 0 < b.policy.openFailureThreshold)
    (ht : ∀ t, call.time = some t → now ≤ t) : BreakerSafeAt b.policy w (b.event call) := by
  refine ⟨?_, ?_, fun hclo => ?_⟩
  · intro t hc ho hlt
    subst hc
    obtain ⟨hle, hnow⟩ := h.opened ho
    have hti := ht t rfl
    have hco : t - b.record.openedAt < b.policy.openDuration := by omega
    exact congrArg Prod.fst (b.allowRequest_cooling t ho hco)
  · have hadm := (h.step hpos call ht).admitted
    rw [b.step_policy call] at hadm
    exact hadm
  · exact h.opens_iff hclo

end Step

theorem safe_run {policy : CircuitBreakerPolicy} (hpos : 0 < policy.openFailureThreshold) :
    ∀ {calls : List BreakerCall} {b : CircuitBreaker} {w : BreakerWatch} {now : ℕ}, Watched b w now → b.policy = policy →
      (now :: calls.filterMap BreakerCall.time).Pairwise (· ≤ ·) → ∀ pre e post, b.trace calls = pre ++ e :: post →
        BreakerSafeAt policy (pre.foldl (BreakerWatch.next policy.openDuration) w) e
  | [], _, _, _, _, _, _, pre, e, post, h => by cases pre <;> cases h
  | call :: calls, b, w, now, hw, hp, ht, pre, e, post, h => by
    subst hp
    have hca : ∀ t, call.time = some t → now ≤ t := by
      intro t hc
      exact (List.pairwise_cons.1 ht).1 t (List.mem_filterMap.2 ⟨call, List.mem_cons_self, hc⟩)
    cases pre with
    | nil =>
      obtain ⟨rfl, -⟩ := List.cons.inj h
      exact hw.safeAt hpos hca
    | cons e₀ pre =>
      obtain ⟨rfl, hr⟩ := List.cons.inj h
      refine safe_run hpos (hw.step hpos call hca) (b.step_policy call) ?_ pre e post hr
      cases hc : call.time with
      | none =>
        rw [List.filterMap_cons_none hc] at ht
        rw [BreakerCall.timeAfter, hc]
        exact ht
      | some t =>
        rw [List.filterMap_cons_some hc] at ht
        rw [BreakerCall.timeAfter, hc]
        exact (List.pairwise_cons.1 ht).2

/-- **A breaker is safe over every run with non-decreasing times**: at every call, a request is refused while the cool-down
of the last opening lasts, the probe window holds at most as many requests as close the breaker, and a closed breaker opens
exactly at the failure that completes the threshold. -/
theorem circuitBreaker_safe (policy : CircuitBreakerPolicy) (b : CircuitBreaker) (hnew : new policy = .ok b)
    (calls : List BreakerCall) (htimes : (calls.filterMap BreakerCall.time).Pairwise (· ≤ ·))
    (pre : List BreakerEvent) (e : BreakerEvent) (post : List BreakerEvent) (h : b.trace calls = pre ++ e :: post) :
    BreakerSafeAt policy (watch policy.openDuration pre) e := by
  obtain ⟨hpos, -, -, rfl⟩ := CircuitBreaker.new_ok hnew
  have hsta : Watched ⟨policy, ⟨.closed, 0, 0, 0, 0, 0⟩, 0, 0, []⟩ ⟨0, 0, 0, 0⟩ 0 :=
    ⟨fun h => (by cases h), fun h => (by cases h), Nat.zero_le _, fun _ => ⟨rfl, hpos⟩⟩
  refine safe_run hpos hsta rfl ?_ pre e post h
  exact List.pairwise_cons.2 ⟨fun _ _ => Nat.zero_le _, htimes⟩

/-- A failure that opens the breaker, a request too early, one that probes. -/
theorem circuitBreaker_safe_probe :
    let policy : CircuitBreakerPolicy := ⟨1, 10, 1, by decide, by decide⟩
    let b : CircuitBreaker := ⟨policy, ⟨.closed, 0, 0, 0, 0, 0⟩, 0, 0, []⟩
    BreakerSafeAt policy (watch 10 (b.trace [.recordFailure 0 .connect, .allowRequest 9]))
      (((b.step (.recordFailure 0 .connect)).2.step (.allowRequest 9)).2.event (.allowRequest 10)) := by
  intro policy b
  exact circuitBreaker_safe policy b rfl [.recordFailure 0 .connect, .allowRequest 9, .allowRequest 10] (by decide) _ _ [] rfl

/-! ## Recovery -/

/-- Outside a half-open phase no probe success is on record. -/
def NoSuccesses : Prop := b.record.state ≠ .halfOpen → b.record.halfOpenSuccesses = 0

theorem NoSuccesses.step {b : CircuitBreaker} (h : NoSuccesses b) (call : BreakerCall) : NoSuccesses (b.step call).2 := by
  cases call with
  | allowRequest t =>
    change (b.allowRequest t).2.record.state ≠ _ → (b.allowRequest t).2.record.halfOpenSuccesses = 0
    cases hs : b.record.state with
    | closed =>
      rw [b.allowRequest_closed t hs]
      exact h
    | opened =>
      by_cases ht : b.policy.openDuration ≤ t - b.record.openedAt
      · rw [b.allowRequest_cooled t hs ht, ((b.probing t).admitProbe_spec t).2.2]
        simp [CircuitBreaker.probing, CircuitBreaker.armed]
      · rw [b.allowRequest_cooling t hs (Nat.lt_of_not_le ht)]
        exact h
    | halfOpen =>
      rw [b.allowRequest_halfOpen t hs, (b.admitProbe_spec t).2.2]
      simp [hs]
  | recordSuccess =>
    change b.recordSuccess.record.state ≠ _ → b.recordSuccess.record.halfOpenSuccesses = 0
    cases hs : b.record.state with
    | closed =>
      rw [b.recordSuccess_closed hs]
      exact h
    | opened =>
      rw [b.recordSuccess_opened hs]
      exact h
    | halfOpen =>
      rw [b.recordSuccess_halfOpen hs]
      split_ifs
      · exact fun _ => rfl
      · exact fun hne => absurd hs hne
  | recordFailure t failure =>
    change (b.recordFailure t failure).record.state ≠ _ → (b.recordFailure t failure).record.halfOpenSuccesses = 0
    by_cases hf : failure.countsTowardBreaker = true
    · cases hs : b.record.state with
      | closed =>
        rw [b.recordFailure_closed t hf hs]
        split_ifs
        · exact fun _ => rfl
        · exact h
      | opened =>
        rw [b.recordFailure_opened t hf hs]
        exact h
      | halfOpen =>
        rw [b.recordFailure_halfOpen t hf hs]
        exact fun _ => rfl
    · rw [b.recordFailure_uncounted t hf]
      exact h

theorem NoSuccesses.run : ∀ (calls : List BreakerCall) {b : CircuitBreaker}, NoSuccesses b → NoSuccesses (b.run calls)
  | [], _, h => h
  | call :: calls, _, h => NoSuccesses.run calls (h.step call)

theorem run_policy : ∀ (calls : List BreakerCall) (b : CircuitBreaker), (b.run calls).policy = b.policy
  | [], _ => rfl
  | call :: calls, b => (run_policy calls (b.step call).2).trans (b.step_policy call)

def CircuitBreaker.requestThenSuccess (now : ℕ) : CircuitBreaker :=
  let (admitted, b) := b.allowRequest now
  if admitted then b.recordSuccess else b

/-- The breaker after the first `k` of the requests that arrive at `times`, each reported before the next. -/
def CircuitBreaker.afterRequests (b : CircuitBreaker) (times : ℕ → ℕ) : ℕ → CircuitBreaker
  | 0     => b
  | k + 1 => (b.afterRequests times k).requestThenSuccess (times k)

/-- The first `n` requests are admitted and the last of them closes the breaker. -/
structure Recovers (b : CircuitBreaker) (times : ℕ → ℕ) (n : ℕ) : Prop where
  admitted : ∀ k < n, ((b.afterRequests times k).allowRequest (times k)).1 = true
  closed : (b.afterRequests times n).record.state = .closed

/-- The number of the first request in the probe window of request `k`: a window ends where a request comes a cool-down
after its first. -/
def windowFirst (openDuration : ℕ) (times : ℕ → ℕ) : ℕ → ℕ
  | 0     => 0
  | k + 1 =>
    if openDuration ≤ times (k + 1) - times (windowFirst openDuration times k) then k + 1
    else windowFirst openDuration times k

theorem windowFirst_le (openDuration : ℕ) (times : ℕ → ℕ) : ∀ k, windowFirst openDuration times k ≤ k
  | 0     => le_refl 0
  | k + 1 => by
    have ih := windowFirst_le openDuration times k
    rw [windowFirst]
    split_ifs <;> omega

/-- The next request is answered by a half-open breaker with `k` successes, as the request number `k`. -/
def ReadyFor (policy : CircuitBreakerPolicy) (times : ℕ → ℕ) (k : ℕ) (b : CircuitBreaker) : Prop :=
  ∃ b' : CircuitBreaker, b.allowRequest (times k) = b'.admitProbe (times k) ∧ b'.policy = policy ∧
    b'.record.state = .halfOpen ∧ b'.record.halfOpenSuccesses = k ∧
    b'.probesBefore (times k) = k - windowFirst policy.openDuration times k ∧
    b'.windowAt (times k) = times (windowFirst policy.openDuration times k)

section Recovery

variable {policy : CircuitBreakerPolicy} {times : ℕ → ℕ} {k : ℕ} {b : CircuitBreaker}

theorem ReadyFor.admitted_iff (h : ReadyFor policy times k b) : (b.allowRequest (times k)).1 = true ↔
    2 * k < policy.halfOpenSuccessThreshold + windowFirst policy.openDuration times k := by
  obtain ⟨b', e, rfl, -, hs, hprb, -⟩ := h
  have hle := windowFirst_le b'.policy.openDuration times k
  rw [e, (b'.admitProbe_spec (times k)).1, decide_eq_true_eq, CircuitBreaker.hasBudget]
  omega

theorem ReadyFor.next (h : ReadyFor policy times k b) (hk : k + 1 ≤ policy.halfOpenSuccessThreshold)
    (hadm : (b.allowRequest (times k)).1 = true) :
    (k + 1 = policy.halfOpenSuccessThreshold ∧ (b.requestThenSuccess (times k)).record.state = .closed) ∨
    (k + 1 < policy.halfOpenSuccessThreshold ∧ ReadyFor policy times (k + 1) (b.requestThenSuccess (times k))) := by
  obtain ⟨b', e, rfl, hsta, hs, hprb, hwin⟩ := h
  have hle := windowFirst_le b'.policy.openDuration times k
  obtain ⟨ha, hpol, hrec⟩ := b'.admitProbe_spec (times k)
  have hbud : b'.hasBudget (times k) := by
    rw [e, ha, decide_eq_true_eq] at hadm
    exact hadm
  have haft : b.requestThenSuccess (times k) = (b'.admitProbe (times k)).2.recordSuccess := by
    rw [e] at hadm
    simp only [CircuitBreaker.requestThenSuccess, e, hadm, if_true]
  rw [if_pos hbud, hprb, hwin] at hrec
  have hcnt : satAdd32 (b'.admitProbe (times k)).2.record.halfOpenSuccesses 1 = k + 1 := by
    rw [hrec]
    rw [hs]
    exact satAdd32_of_le (hk.trans b'.policy.halfOpenSuccessThreshold_le)
  rw [haft]
  have hsuc := CircuitBreaker.recordSuccess_halfOpen (b := (b'.admitProbe (times k)).2) (by rw [hrec]; exact hsta)
  rw [hcnt, hpol] at hsuc
  split_ifs at hsuc with hge
  · exact .inl ⟨by omega, by rw [hsuc]⟩
  · have hrec' : (b'.admitProbe (times k)).2.recordSuccess.record = { b'.record with
        halfOpenSuccesses := k + 1
        halfOpenAdmitted := k + 1 - windowFirst b'.policy.openDuration times k
        halfOpenWindowStarted := times (windowFirst b'.policy.openDuration times k) } := by
      rw [hsuc, hrec, Nat.sub_add_comm hle]
    have hpol' : (b'.admitProbe (times k)).2.recordSuccess.policy = b'.policy :=
      ((b'.admitProbe (times k)).2.step_policy .recordSuccess).trans hpol
    refine .inr ⟨Nat.lt_of_not_le hge, (b'.admitProbe (times k)).2.recordSuccess,
      CircuitBreaker.allowRequest_halfOpen _ (by rw [hrec', hsta]), hpol', by rw [hrec', hsta], by rw [hrec'], ?_, ?_⟩
    · rw [CircuitBreaker.probesBefore, hrec', hpol', windowFirst]
      split_ifs
      · exact (Nat.sub_self _).symm
      · rfl
    · rw [CircuitBreaker.windowAt, hrec', hpol', windowFirst]
      split_ifs <;> rfl

/-- While all requests are admitted, the breaker is ready for the next one or the last of them has closed it. -/
theorem ready_after (hn : 0 < policy.halfOpenSuccessThreshold) (h₀ : ReadyFor policy times 0 b) :
    ∀ k, k ≤ policy.halfOpenSuccessThreshold → (∀ i < k, ((b.afterRequests times i).allowRequest (times i)).1 = true) →
      (k = policy.halfOpenSuccessThreshold ∧ (b.afterRequests times k).record.state = .closed) ∨
      (k < policy.halfOpenSuccessThreshold ∧ ReadyFor policy times k (b.afterRequests times k))
  | 0, _, _ => .inr ⟨hn, h₀⟩
  | k + 1, hk, hadm => by
    rcases ready_after hn h₀ k (by omega) (fun i hi => hadm i (by omega)) with ⟨e, -⟩ | ⟨-, hrea⟩
    · omega
    · exact hrea.next hk (hadm k (by omega))

theorem recovers_iff (hn : 0 < policy.halfOpenSuccessThreshold) (h₀ : ReadyFor policy times 0 b) :
    Recovers b times policy.halfOpenSuccessThreshold ↔ ∀ k < policy.halfOpenSuccessThreshold,
      2 * k < policy.halfOpenSuccessThreshold + windowFirst policy.openDuration times k := by
  have hadm : ∀ k < policy.halfOpenSuccessThreshold, (∀ i < k, ((b.afterRequests times i).allowRequest (times i)).1 = true) →
      (((b.afterRequests times k).allowRequest (times k)).1 = true ↔
        2 * k < policy.halfOpenSuccessThreshold + windowFirst policy.openDuration times k) := by
    intro k hk hi
    rcases ready_after hn h₀ k (by omega) hi with ⟨e, -⟩ | ⟨-, hrea⟩
    · omega
    · exact hrea.admitted_iff
  constructor
  · intro h k hk
    exact (hadm k hk (fun i hi => h.admitted i (by omega))).1 (h.admitted k hk)
  · intro h
    have hall : ∀ k < policy.halfOpenSuccessThreshold, ((b.afterRequests times k).allowRequest (times k)).1 = true := by
      intro k
      induction k using Nat.strong_induction_on with
      | _ k ih =>
        intro hk
        exact (hadm k hk (fun i hi => ih i hi (by omega))).2 (h k hk)
    refine ⟨hall, ?_⟩
    rcases ready_after hn h₀ _ (le_refl _) hall with ⟨-, hclo⟩ | ⟨hlt, -⟩
    · exact hclo
    · omega

end Recovery

/-- **A half-open breaker closes after as many one-by-one successes as its policy asks for exactly when the requests are
spread over enough probe windows**: request `k`, in a window that began with request `j`, needs `2 k < n + j`.  The
requests are counted from the one that finds the cool-down over. -/
theorem circuitBreaker_recovers_iff (policy : CircuitBreakerPolicy) (b : CircuitBreaker)
    (hnew : new policy = .ok b) (calls : List BreakerCall) (times : ℕ → ℕ)
    (hopen : (b.run calls).record.state = .opened)
    (hcool : policy.openDuration ≤ times 0 - (b.run calls).record.openedAt) :
    Recovers (b.run calls) times policy.halfOpenSuccessThreshold ↔ ∀ k < policy.halfOpenSuccessThreshold,
      2 * k < policy.halfOpenSuccessThreshold + windowFirst policy.openDuration times k := by
  obtain ⟨-, hn, -, rfl⟩ := CircuitBreaker.new_ok hnew
  have hpol := run_policy calls ⟨policy, ⟨.closed, 0, 0, 0, 0, 0⟩, 0, 0, []⟩
  have hs := NoSuccesses.run calls (b := ⟨policy, ⟨.closed, 0, 0, 0, 0, 0⟩, 0, 0, []⟩) (fun _ => rfl) (by rw [hopen]; simp)
  generalize CircuitBreaker.run _ calls = b' at hpol hs hopen hcool
  refine recovers_iff hn ⟨b'.probing (times 0), b'.allowRequest_cooled _ hopen (by rw [hpol]; exact hcool), ?_, ?_, ?_, ?_, ?_⟩
  · simpa [CircuitBreaker.probing, CircuitBreaker.armed] using hpol
  · simp [CircuitBreaker.probing, CircuitBreaker.armed]
  · simpa [CircuitBreaker.probing, CircuitBreaker.armed] using hs
  · simp [CircuitBreaker.probing, CircuitBreaker.armed, CircuitBreaker.probesBefore]
  · simp [CircuitBreaker.probing, CircuitBreaker.armed, CircuitBreaker.windowAt, windowFirst]

/-- Two successes are asked for, and the second request, a moment after the first has succeeded, is refused. -/
theorem circuitBreaker_stalls :
    let policy : CircuitBreakerPolicy := ⟨1, 10, 2, by decide, by decide⟩
    let b : CircuitBreaker := ⟨policy, ⟨.closed, 0, 0, 0, 0, 0⟩, 0, 0, []⟩
    new policy = .ok b ∧ (b.run [.recordFailure 0 .connect]).record.state = .opened ∧
      ¬ Recovers (b.run [.recordFailure 0 .connect]) (fun k => 10 + k) 2 := by
  refine ⟨rfl, rfl, fun h => ?_⟩
  have hsec := h.admitted 1 (by decide)
  exact absurd hsec (by decide)

/-- The same breaker closes where the second request comes a cool-down after the first. -/
theorem circuitBreaker_recovers_spaced :
    let policy : CircuitBreakerPolicy := ⟨1, 10, 2, by decide, by decide⟩
    let b : CircuitBreaker := ⟨policy, ⟨.closed, 0, 0, 0, 0, 0⟩, 0, 0, []⟩
    Recovers (b.run [.recordFailure 0 .connect]) (fun k => 10 + 10 * k) 2 := by
  intro policy b
  refine (circuitBreaker_recovers_iff policy b rfl [.recordFailure 0 .connect] (fun k => 10 + 10 * k) rfl (by decide)).2 ?_
  decide

end WayBalancer
