import WayBalancer.UpstreamHealthSpec
/-!
# UpstreamStanding — failures and the standing of an endpoint

In every run a record's effective weight is what its status allows (`Weighted`), and from it: when a failure signal raises
the standing of a record, by making it available or heavier.
-/
namespace WayBalancer

open Word

variable {r r' : EndpointHealthRecord} {signal : HealthSignal}

/-! ## The weight of a record -/

namespace EndpointHealthRecord

/-- The effective weight a status allows. -/
structure Weighted (r : EndpointHealthRecord) : Prop where
  nominal_pos : 0 < r.nominalWeight
  full : r.status = .healthy ∨ r.status = .degraded → r.effectiveWeight = r.nominalWeight
  reduced : r.status = .warming → r.effectiveWeight ≤ r.nominalWeight
  none : r.status.isAvailable = false → r.effectiveWeight = 0

theorem Weighted.congr (h : r.Weighted) (hst : r'.status = r.status) (hwt : r'.effectiveWeight = r.effectiveWeight)
    (hnom : r'.nominalWeight = r.nominalWeight) : r'.Weighted := by
  constructor
  · rw [hnom]; exact h.nominal_pos
  · rw [hst, hwt, hnom]; exact h.full
  · rw [hst, hwt, hnom]; exact h.reduced
  · rw [hst, hwt]; exact h.none

theorem weighted_full (hpos : 0 < r.nominalWeight) (hwt : r.effectiveWeight = r.nominalWeight)
    (hav : r.status.isAvailable = true) : r.Weighted :=
  ⟨hpos, fun _ => hwt, fun _ => hwt.le, fun h => by rw [hav] at h; cases h⟩

theorem weighted_warming (hst : r.status = .warming) (hpos : 0 < r.nominalWeight)
    (hwt : r.effectiveWeight ≤ r.nominalWeight) : r.Weighted := by
  refine ⟨hpos, fun h => ?_, fun _ => hwt, fun h => ?_⟩
  · simp [hst] at h
  · simp [hst, EndpointHealthStatus.isAvailable] at h

theorem weighted_none (hpos : 0 < r.nominalWeight) (hwt : r.effectiveWeight = 0)
    (hst : r.status = .unhealthy ∨ r.status = .ejected) : r.Weighted := by
  refine ⟨hpos, fun h => ?_, fun h => ?_, fun _ => hwt⟩
  · rcases hst with e | e <;> simp [e] at h
  · rcases hst with e | e <;> simp [e] at h

variable {policy : EndpointHealthPolicy}

theorem weighted_new {e : UpstreamEndpoint} : (new e policy).Weighted := by
  have hpos : 0 < e.metadata.weight.toNat := by
    apply Nat.pos_of_ne_zero
    intro h
    exact e.weight_ne_zero (UInt16.toNat_inj.1 h)
  unfold new
  split_ifs with h
  · exact weighted_warming rfl hpos hpos
  · exact weighted_full hpos rfl rfl

theorem Weighted.capped (h : r.Weighted) : r.capped.Weighted :=
  weighted_none h.nominal_pos rfl (.inl rfl)

theorem Weighted.transitionOnFailures (h : r.Weighted) (policy : EndpointHealthPolicy) (force : Bool) :
    (r.transitionOnFailures policy force).Weighted := by
  unfold EndpointHealthRecord.transitionOnFailures
  split_ifs
  · exact h
  · exact weighted_none h.nominal_pos rfl (.inr rfl)
  · exact weighted_none h.nominal_pos rfl (.inl rfl)
  · exact weighted_full h.nominal_pos rfl rfl
  · exact h

theorem Weighted.transitionOnSuccess (h : r.Weighted) (policy : EndpointHealthPolicy) : (r.transitionOnSuccess policy).Weighted := by
  unfold EndpointHealthRecord.transitionOnSuccess
  cases hst : r.status with
  | ejected => exact h
  | healthy => exact h.congr rfl rfl rfl
  | warming => exact h.congr rfl rfl rfl
  | degraded | unhealthy =>
    dsimp only
    split_ifs
    · exact h.congr hst.symm rfl rfl
    · exact weighted_full h.nominal_pos rfl rfl
    · exact weighted_warming rfl h.nominal_pos h.nominal_pos

theorem notePassive_frame (r : EndpointHealthRecord) {success : Bool} {protocol : ProtocolHealthClass} :
    (r.notePassive policy success protocol).status = r.status ∧
    (r.notePassive policy success protocol).effectiveWeight = r.effectiveWeight ∧
    (r.notePassive policy success protocol).nominalWeight = r.nominalWeight := by
  unfold notePassive pushPassiveResult
  by_cases h : policy.outlierWindowSize = 0
  · simp only [if_pos h]
    cases success <;> exact ⟨rfl, rfl, rfl⟩
  · simp only [if_neg h]
    cases success <;> exact ⟨rfl, rfl, rfl⟩

theorem Weighted.notePassive (h : r.Weighted) (policy : EndpointHealthPolicy) (success : Bool)
    (protocol : ProtocolHealthClass) : (r.notePassive policy success protocol).Weighted := by
  obtain ⟨hst, hwt, hnom⟩ := r.notePassive_frame
  exact h.congr hst hwt hnom

theorem Weighted.signalled (h : r.Weighted) (policy : EndpointHealthPolicy) (signal : HealthSignal) :
    (r.signalled policy signal).Weighted := by
  cases signal with
  | activeSuccess => exact h.transitionOnSuccess policy
  | activeFailure => exact (h.congr rfl rfl rfl : Weighted { r with
      activeFailures := satAdd32 r.activeFailures 1, recoverySuccesses := 0 }).transitionOnFailures policy false
  | passiveSuccess p => exact (h.notePassive policy true p).transitionOnSuccess policy
  | passiveFailure p =>
    have hcou : Weighted { r.notePassive policy false p with recoverySuccesses := 0 } :=
      (h.notePassive policy false p).congr rfl rfl rfl
    exact hcou.transitionOnFailures policy _

theorem warmupWeight_le {nominal elapsed duration percent : ℕ} : warmupWeight nominal elapsed duration percent ≤ nominal := by
  unfold warmupWeight
  split_ifs
  · exact le_rfl
  · exact min_le_right _ _

theorem Weighted.advanced (h : r.Weighted) (policy : EndpointHealthPolicy) (elapsed : ℕ) : (r.advanced policy elapsed).Weighted := by
  unfold EndpointHealthRecord.advanced
  cases hst : r.status with
  | ejected =>
    have hz : r.effectiveWeight = 0 := h.none (by rw [hst]; rfl)
    dsimp only
    split_ifs
    · exact weighted_none h.nominal_pos hz (.inl rfl)
    · exact h.congr hst.symm rfl rfl
  | warming =>
    dsimp only
    split_ifs
    · exact weighted_full h.nominal_pos rfl rfl
    · exact weighted_warming rfl h.nominal_pos warmupWeight_le
  | healthy | degraded | unhealthy => exact h

end EndpointHealthRecord

theorem UpstreamHealthRegistry.weighted_run {policy : EndpointHealthPolicy} {calls : List HealthCall} {key : EndpointKey}
    (h : ((UpstreamHealthRegistry.new policy).run calls).records.get? key = some r) : r.Weighted :=
  records_run (fun e => EndpointHealthRecord.weighted_new) (fun _ signal hr => hr.signalled policy signal) (fun _ hr => hr.capped)
    (fun _ dt hr => hr.advanced policy dt) calls (.new policy) rfl (fun _ _ h => by cases h) key r h

/-! ## Failures and standing -/

def HealthSignal.isFailure : HealthSignal → Bool
  | .activeFailure | .passiveFailure _ => true
  | .activeSuccess | .passiveSuccess _ => false

namespace EndpointHealthRecord

/-- The record with a failure counted, before its status is looked at. -/
def withFailure (r : EndpointHealthRecord) (policy : EndpointHealthPolicy) : HealthSignal → EndpointHealthRecord
  | .activeFailure           => { r with activeFailures := satAdd32 r.activeFailures 1, recoverySuccesses := 0 }
  | .passiveFailure protocol => { r.notePassive policy false protocol with recoverySuccesses := 0 }
  | _                        => r

/-- Only a passive failure asks for an ejection below the threshold of failures. -/
def forcesEjection (r : EndpointHealthRecord) (policy : EndpointHealthPolicy) : HealthSignal → Bool
  | .passiveFailure protocol => (r.withFailure policy (.passiveFailure protocol)).passiveFailureTriggersEjection policy
  | _                        => false

/-- The record stands no higher than before: it has not become available, nor heavier. -/
def NoBetter (r r' : EndpointHealthRecord) : Prop :=
  (r.status.isAvailable = false → r'.status.isAvailable = false) ∧ r'.effectiveWeight ≤ r.effectiveWeight

/-- A record below its nominal weight, that is not ejected, whose failures, with the one reported, are enough for the
degraded status and for no worse one. -/
def RaisedBy (r : EndpointHealthRecord) (policy : EndpointHealthPolicy) (signal : HealthSignal) : Prop :=
  r.status ≠ .ejected ∧ r.effectiveWeight < r.nominalWeight ∧ r.forcesEjection policy signal = false ∧
    (r.withFailure policy signal).combinedFailures < policy.ejectionFailureThreshold ∧
    (r.withFailure policy signal).combinedFailures < policy.unhealthyFailureThreshold ∧
    policy.degradedFailureThreshold ≤ (r.withFailure policy signal).combinedFailures

variable {policy : EndpointHealthPolicy}

theorem signalled_failure (r : EndpointHealthRecord) (h : signal.isFailure = true) :
    r.signalled policy signal = (r.withFailure policy signal).transitionOnFailures policy (r.forcesEjection policy signal) := by
  cases signal with
  | activeFailure => rfl
  | passiveFailure p => rfl
  | activeSuccess => cases h
  | passiveSuccess p => cases h

theorem withFailure_frame (r : EndpointHealthRecord) :
    (r.withFailure policy signal).status = r.status ∧ (r.withFailure policy signal).effectiveWeight = r.effectiveWeight ∧
    (r.withFailure policy signal).nominalWeight = r.nominalWeight := by
  cases signal with
  | activeFailure => exact ⟨rfl, rfl, rfl⟩
  | passiveFailure p => exact r.notePassive_frame
  | activeSuccess => exact ⟨rfl, rfl, rfl⟩
  | passiveSuccess p => exact ⟨rfl, rfl, rfl⟩

theorem noBetter_of_unavailable (hav : r'.status.isAvailable = false) (hwt : r'.effectiveWeight = 0) :
    NoBetter r r' := ⟨fun _ => hav, by rw [hwt]; exact Nat.zero_le _⟩

theorem noBetter_of_same (hst : r'.status = r.status) (hwt : r'.effectiveWeight = r.effectiveWeight) :
    NoBetter r r' := ⟨fun h => by rw [hst]; exact h, hwt.le⟩

/-- A record at its full weight stands higher than one that was lighter, as every unavailable one is. -/
theorem noBetter_full_iff (h : r.Weighted) (hwt : r'.effectiveWeight = r.nominalWeight) :
    NoBetter r r' ↔ ¬ r.effectiveWeight < r.nominalWeight := by
  constructor
  · rintro ⟨-, hle⟩
    rw [hwt] at hle
    exact not_lt.2 hle
  · intro hf
    refine ⟨fun huna => ?_, by rw [hwt]; exact not_lt.1 hf⟩
    have hz := h.none huna
    have hpos := h.nominal_pos
    omega

/-- **When the transition on a failure does not raise a record**, before the budget is asked. -/
theorem noBetter_signalled_iff (h : r.Weighted) (hf : signal.isFailure = true) :
    NoBetter r (r.signalled policy signal) ↔ ¬ r.RaisedBy policy signal := by
  obtain ⟨hst, hwt, hnom⟩ := r.withFailure_frame
  rw [r.signalled_failure hf, RaisedBy, ← hst]
  generalize r.forcesEjection policy signal = force
  generalize hr₁ : r.withFailure policy signal = r₁ at hst hwt hnom
  unfold transitionOnFailures
  split_ifs with hej hfor hunh hdeg
  · exact iff_of_true (noBetter_of_same hst hwt) (fun hc => hc.1 hej)
  · refine iff_of_true (noBetter_of_unavailable rfl rfl) (fun ⟨_, _, hnot, hlt, _⟩ => ?_)
    rcases hfor with hfor | hfor
    · rw [hfor] at hnot
      cases hnot
    · exact absurd hfor (not_le.2 hlt)
  · exact iff_of_true (noBetter_of_unavailable rfl rfl) (fun ⟨_, _, _, _, hlt, _⟩ => absurd hunh (not_le.2 hlt))
  · rw [noBetter_full_iff h hnom]
    refine not_congr ⟨fun hlt => ?_, fun hc => hc.2.1⟩
    rw [not_or] at hfor
    exact ⟨hej, hlt, Bool.not_eq_true _ ▸ hfor.1, not_le.1 hfor.2, not_le.1 hunh, hdeg⟩
  · exact iff_of_true (noBetter_of_same hst hwt) (fun hc => hdeg hc.2.2.2.2.2)

/-- A record that a failure raises is not ejected by it, so the budget has no say. -/
theorem RaisedBy.status {policy : EndpointHealthPolicy} (h : r.RaisedBy policy signal) (hf : signal.isFailure = true) :
    (r.signalled policy signal).status = .degraded := by
  obtain ⟨heje, -, hfor, hej, hun, hdeg⟩ := h
  rw [← (r.withFailure_frame).1] at heje
  rw [r.signalled_failure hf, hfor, transitionOnFailures, if_neg heje, if_neg, if_neg (not_le.2 hun), if_pos hdeg]
  rintro (hcon | hcon)
  · cases hcon
  · exact absurd hcon (not_le.2 hej)

end EndpointHealthRecord

open EndpointHealthRecord

theorem UpstreamHealthRegistry.noBetter_settled_iff {s : UpstreamHealthRegistry} (h : r.Weighted) (key : EndpointKey)
    (hf : signal.isFailure = true) : NoBetter r (s.settled key r signal) ↔ ¬ r.RaisedBy s.policy signal := by
  rcases s.settled_cases with ⟨heq, hej⟩ | ⟨heq, -⟩
  · rw [heq]
    refine iff_of_true (noBetter_of_unavailable rfl rfl) (fun hrai => ?_)
    rw [hrai.status hf] at hej
    cases hej
  · rw [heq]
    exact noBetter_signalled_iff h hf

/-- **A failure leaves an endpoint no better off, unless it degrades one that stood below its nominal weight**: in every
run, whatever the policy, a failure signal neither makes the endpoint available nor adds to its weight exactly where it is
not one that `RaisedBy` describes. -/
theorem failure_noBetter_iff (policy : EndpointHealthPolicy) (calls : List HealthCall) (key : EndpointKey)
    (r : EndpointHealthRecord) (hr : ((UpstreamHealthRegistry.new policy).run calls).records.get? key = some r)
    (signal : HealthSignal) (hfail : signal.isFailure = true) :
    (∃ r', (((UpstreamHealthRegistry.new policy).run calls).note key signal).2.records.get? key = some r' ∧ NoBetter r r') ↔
      ¬ r.RaisedBy policy signal := by
  have hset := UpstreamHealthRegistry.noBetter_settled_iff (s := (UpstreamHealthRegistry.new policy).run calls)
    (UpstreamHealthRegistry.weighted_run hr) key hfail
  rw [UpstreamHealthRegistry.run_policy] at hset
  rw [UpstreamHealthRegistry.note_records signal hr, SortedMap.get?_insert, if_pos rfl]
  refine Iff.trans ⟨?_, fun h => ⟨_, rfl, h⟩⟩ hset
  rintro ⟨r', hr', h⟩
  cases hr'
  exact h

/-- Two failures make the endpoint unhealthy, a success clears their count, and the next failure, counted as the first,
makes it available at its full weight. -/
theorem failure_raises_unhealthy :
    let s := (UpstreamHealthRegistry.new .default).run [.insertCluster soleCluster, .note soleKey (.passiveFailure .generic),
      .note soleKey (.passiveFailure .generic), .note soleKey (.passiveSuccess .generic)]
    ∃ r r', s.records.get? soleKey = some r ∧
      (s.note soleKey (.passiveFailure .generic)).2.records.get? soleKey = some r' ∧ ¬ NoBetter r r' := by
  intro s
  have hbef : (s.records.get? soleKey).map (·.status) = some .unhealthy := by decide +kernel
  have haft : ((s.note soleKey (.passiveFailure .generic)).2.records.get? soleKey).map (·.status) = some .degraded := by
    decide +kernel
  obtain ⟨r, hr, hst⟩ := Option.map_eq_some_iff.1 hbef
  obtain ⟨r', hr', hst'⟩ := Option.map_eq_some_iff.1 haft
  refine ⟨r, r', hr, hr', fun hno => ?_⟩
  have hav := hno.1 (by rw [hst]; rfl)
  rw [hst'] at hav
  cases hav

/-- The second failure in a row of the same endpoint, which takes its weight away. -/
theorem failure_noBetter_second :
    let s := (UpstreamHealthRegistry.new .default).run [.insertCluster soleCluster, .note soleKey .activeFailure]
    ∃ r r', s.records.get? soleKey = some r ∧ (s.note soleKey .activeFailure).2.records.get? soleKey = some r' ∧ NoBetter r r' := by
  intro s
  have hbef : (s.records.get? soleKey).map (fun r => (r.effectiveWeight, r.nominalWeight)) = some (10, 10) := by
    decide +kernel
  obtain ⟨r, hr, hwt⟩ := Option.map_eq_some_iff.1 hbef
  obtain ⟨hw, hn⟩ := Prod.mk.inj hwt
  obtain ⟨r', hr', hno⟩ := (failure_noBetter_iff .default _ soleKey r hr .activeFailure rfl).2 (fun hrai => by
    have hlt := hrai.2.1
    omega)
  exact ⟨r, r', hr, hr', hno⟩

end WayBalancer
