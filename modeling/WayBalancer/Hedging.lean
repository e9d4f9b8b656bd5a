import Mathlib.Order.Basic
/-!
# Hedging — the first of two attempts that succeeds

`crates/runtime/src/hedging.rs`.  An attempt is given by the time it takes and what it ends with; of two things that happen at
one instant, `is_finished` and `select!` may see either first.  The delay is slept through before the primary is looked at, so
a primary that succeeds within it is returned at its end (`executeWithHedge_winnerRules_iff`).
-/
namespace WayBalancer

variable {T E : Type}

structure RequestHedgingPolicy where
  hedgeDelay : ℕ
  maxAttempts : UInt8

def RequestHedgingPolicy.enabled (policy : RequestHedgingPolicy) : Bool := policy.maxAttempts ≥ 2

structure HedgeOutcome where
  hedgeLaunched : Bool
  winnerAttempt : UInt8

/-- A launched attempt: when it completes, and with what. -/
structure HedgedAttempt (T E : Type) where
  number : UInt8
  completesAt : ℕ
  result : Except E T

structure HedgedRun (T E : Type) where
  launched : List (HedgedAttempt T E)
  result : Except E (T × HedgeOutcome)
  returnedAt : ℕ
  aborted : List UInt8

def awaitPrimary (primary : HedgedAttempt T E) (returnedAt : ℕ) : HedgedRun T E :=
  ⟨[primary], primary.result.map (·, ⟨false, 1⟩), returnedAt, []⟩

/-- The rest of the run once `first` is the first of the two to complete. -/
def afterFirst (launched : List (HedgedAttempt T E)) (first second : HedgedAttempt T E) : HedgedRun T E :=
  match first.result, second.result with
  | .ok value, _ => ⟨launched, .ok (value, ⟨true, first.number⟩), first.completesAt,
      if first.completesAt < second.completesAt then [second.number] else []⟩
  -- the other one is awaited for a possible recovery
  | .error _, .ok value          => ⟨launched, .ok (value, ⟨true, second.number⟩), second.completesAt, []⟩
  | .error firstError, .error _ => ⟨launched, .error firstError, second.completesAt, []⟩

def executeWithHedge (policy : RequestHedgingPolicy) (allowHedge primarySeen primaryPolled : Bool) (primaryTime hedgeTime : ℕ)
    (primaryResult hedgeResult : Except E T) : HedgedRun T E :=
  let primary : HedgedAttempt T E := ⟨1, primaryTime, primaryResult⟩
  if !policy.enabled || !allowHedge then awaitPrimary primary primaryTime
  else if primaryTime < policy.hedgeDelay ∨ primaryTime = policy.hedgeDelay ∧ primarySeen then
    awaitPrimary primary policy.hedgeDelay
  else
    let hedge : HedgedAttempt T E := ⟨2, policy.hedgeDelay + hedgeTime, hedgeResult⟩
    if primaryTime < hedge.completesAt ∨ primaryTime = hedge.completesAt ∧ primaryPolled then
      afterFirst [primary, hedge] primary hedge
    else afterFirst [primary, hedge] hedge primary

/-- The hedge is launched beside a primary that is unfinished at the delay; the first success is returned when it happens, a
failure only where every attempt failed, and then the earliest; and what is still running is aborted. -/
structure WinnerRules (hedgeDelay : ℕ) (run : HedgedRun T E) : Prop where
  launch : ∀ a ∈ run.launched, ∀ b ∈ run.launched, a.number ≠ b.number → hedgeDelay ≤ a.completesAt
  success : ∀ value outcome, run.result = .ok (value, outcome) → ∃ w ∈ run.launched, w.result = .ok value ∧
    w.number = outcome.winnerAttempt ∧ run.returnedAt = w.completesAt ∧
      ∀ a ∈ run.launched, a.result.isOk = true → w.completesAt ≤ a.completesAt
  failure : ∀ error, run.result = .error error → ∃ w ∈ run.launched, w.result = .error error ∧
    ∀ a ∈ run.launched, a.result.isOk = false ∧ w.completesAt ≤ a.completesAt
  running : ∀ a ∈ run.launched, run.returnedAt < a.completesAt → a.number ∈ run.aborted

theorem awaitPrimary_rules_iff {primary : HedgedAttempt T E} {hedgeDelay returnedAt : ℕ} (hnum : primary.number = 1)
    (hd : primary.completesAt ≤ returnedAt) :
    WinnerRules hedgeDelay (awaitPrimary primary returnedAt) ↔ (primary.result.isOk = true → returnedAt = primary.completesAt) := by
  obtain ⟨number, completesAt, r⟩ := primary
  cases r with
  | error error =>
    refine iff_of_true ⟨?_, ?_, ?_, ?_⟩ (fun h => by cases h) <;> simp_all [awaitPrimary, Except.map, Except.isOk, Except.toBool]
  | ok value =>
    constructor
    · intro h _
      obtain ⟨w, hw, -, -, hret, -⟩ := h.success value ⟨false, 1⟩ rfl
      rw [List.mem_singleton.1 hw] at hret
      exact hret
    · intro hret
      have hs := hret rfl
      refine ⟨?_, ?_, ?_, ?_⟩ <;> simp_all [awaitPrimary, Except.map]

theorem afterFirst_rules {launched : List (HedgedAttempt T E)} {first second : HedgedAttempt T E} {hedgeDelay : ℕ}
    (hlau : ∀ a, a ∈ launched ↔ a = first ∨ a = second) (hfir : first.completesAt ≤ second.completesAt)
    (hdel : hedgeDelay ≤ first.completesAt) : WinnerRules hedgeDelay (afterFirst launched first second) := by
  obtain ⟨number, completesAt, r⟩ := first
  obtain ⟨number', completesAt', r'⟩ := second
  dsimp only at hfir hdel
  have hdel' := Nat.le_trans hdel hfir
  cases r with
  | ok value =>
    refine ⟨?_, ?_, ?_, ?_⟩ <;> simp_all [afterFirst]
  | error error =>
    cases r' with
    | ok value => refine ⟨?_, ?_, ?_, ?_⟩ <;> simp_all [afterFirst, Except.isOk, Except.toBool]
    | error error' => refine ⟨?_, ?_, ?_, ?_⟩ <;> simp_all [afterFirst, Except.isOk, Except.toBool]

/-- **The winner rules hold exactly when no hedge is allowed, the primary fails, or it takes at least the delay.**  A primary
that succeeds sooner is returned when the delay is over. -/
theorem executeWithHedge_winnerRules_iff (policy : RequestHedgingPolicy) (allowHedge primarySeen primaryPolled : Bool)
    (primaryTime hedgeTime : ℕ) (primaryResult hedgeResult : Except E T) :
    WinnerRules policy.hedgeDelay
      (executeWithHedge policy allowHedge primarySeen primaryPolled primaryTime hedgeTime primaryResult hedgeResult) ↔
    (policy.enabled = true → allowHedge = true → primaryResult.isOk = true → policy.hedgeDelay ≤ primaryTime) := by
  unfold executeWithHedge
  dsimp only
  split
  · rename_i halo
    rw [awaitPrimary_rules_iff rfl (Nat.le_refl _)]
    exact iff_of_true (fun _ => rfl) (fun hen hall => by simp [hen, hall] at halo)
  · rename_i hhed
    simp only [Bool.or_eq_true, Bool.not_eq_true', not_or, Bool.not_eq_false] at hhed
    split
    · rename_i hfin
      rw [awaitPrimary_rules_iff rfl (by dsimp only; omega)]
      simp only [hhed, forall_const]
      refine forall_congr' (fun _ => ?_)
      omega
    · rename_i hunf
      have hdel : policy.hedgeDelay ≤ primaryTime := by omega
      refine iff_of_true ?_ (fun _ _ _ => hdel)
      split
      · refine afterFirst_rules (by simp) ?_ hdel
        dsimp only
        omega
      · refine afterFirst_rules (by simp [or_comm]) ?_ (Nat.le_add_right _ _)
        dsimp only
        omega

/-- An answer after one millisecond is held for the twenty of the default delay. -/
theorem quick_primary_held :
    ¬ WinnerRules 20 (executeWithHedge ⟨20, 2⟩ true false false 1 5 (.ok ()) (.ok ()) : HedgedRun Unit Unit) := by
  intro h
  obtain ⟨w, hw, -, -, hret, -⟩ := h.success () ⟨false, 1⟩ rfl
  rw [List.mem_singleton.1 hw] at hret
  cases hret

end WayBalancer
