import WayBalancer.UpstreamStanding
/-!
# UpstreamRecords — the representation invariant of the health records

The fields of a record go together in every run (`record_invariant`): its weight with its status and the time it has warmed up,
its ejection with its status, its counts with the counters and the window they are taken from.
-/
namespace WayBalancer

open Word

/-! ## The weight of a warm-up -/

section
variable {nominal a b duration percent : ℕ} (hnominal : 0 < nominal ∧ nominal < 2 ^ 16) (hpercent : percent ≤ 100)
include hnominal hpercent

/-- Neither cast cuts anything off. -/
theorem warmupWeight_eq (h : a < duration) : warmupWeight nominal a duration percent =
      min (max (nominal * asMillis a / max (asMillis duration) 1) (max (nominal * max percent 1 / 100) 1)) nominal := by
  have hmil : asMillis a ≤ max (asMillis duration) 1 := by
    unfold asMillis
    omega
  have hpro : nominal * asMillis a / max (asMillis duration) 1 ≤ nominal := by
    apply Nat.div_le_of_le_mul
    rw [Nat.mul_comm]
    exact Nat.mul_le_mul_right nominal hmil
  have hp : nominal * max percent 1 ≤ nominal * 100 := Nat.mul_le_mul_left nominal (by omega)
  have hsat : satMul32 nominal (max percent 1) = nominal * max percent 1 := by
    unfold satMul32 u32Max
    omega
  unfold warmupWeight
  dsimp only
  rw [if_neg (by omega), hsat, Nat.mod_eq_of_lt (Nat.lt_of_le_of_lt hpro hnominal.2), Nat.mod_eq_of_lt (by omega)]

theorem warmupWeight_pos : 1 ≤ warmupWeight nominal a duration percent := by
  by_cases h : a < duration
  · rw [warmupWeight_eq hnominal hpercent h]
    omega
  · rw [warmupWeight, if_pos (by omega)]
    exact hnominal.1

theorem warmupWeight_mono (hab : a ≤ b) : warmupWeight nominal a duration percent ≤ warmupWeight nominal b duration percent := by
  by_cases h : b < duration
  · have hpro : nominal * asMillis a / max (asMillis duration) 1 ≤ nominal * asMillis b / max (asMillis duration) 1 :=
      Nat.div_le_div_right (Nat.mul_le_mul_left nominal (Nat.div_le_div_right hab))
    rw [warmupWeight_eq hnominal hpercent h, warmupWeight_eq hnominal hpercent (by omega)]
    omega
  · refine EndpointHealthRecord.warmupWeight_le.trans ?_
    rw [warmupWeight, if_pos (by omega)]

end

/-! ## The fields of a record -/

namespace EndpointHealthRecord

variable {r : EndpointHealthRecord} {policy : EndpointHealthPolicy}

/-- What the fields of a record say together, beside its weight. -/
structure Sound (policy : EndpointHealthPolicy) (r : EndpointHealthRecord) : Prop where
  nominal : 0 < r.nominalWeight ∧ r.nominalWeight < 2 ^ 16
  elapsed : r.warmupElapsed ≤ durationMax
  ejection : r.status ≠ .ejected → r.remainingEjection = 0
  passive : r.passiveFailures = ((r.passiveFailuresByProtocol.entries.map (·.2)).max?).getD 0
  window : r.passiveResultsWindow.length ≤ policy.outlierWindowSize
  warming : r.status = .warming → 1 ≤ r.effectiveWeight ∧
    r.effectiveWeight ≤ warmupWeight r.nominalWeight r.warmupElapsed policy.warmupDuration policy.slowStartMinWeightPercent

theorem Sound.transitionOnFailures (h : r.Sound policy) (force : Bool) : (r.transitionOnFailures policy force).Sound policy := by
  unfold EndpointHealthRecord.transitionOnFailures
  split_ifs with hej
  · exact h
  · exact { h with ejection := fun hs => absurd rfl hs, warming := fun hs => by cases hs }
  · exact { h with ejection := fun _ => h.ejection hej, warming := fun hs => by cases hs }
  · exact { h with ejection := fun _ => h.ejection hej, warming := fun hs => by cases hs }
  · exact h

theorem passive_cleared (r : EndpointHealthRecord) :
    r.cleared.passiveFailures = ((r.cleared.passiveFailuresByProtocol.entries.map (·.2)).max?).getD 0 := by
  have hz : r.cleared.passiveFailuresByProtocol.entries.map (·.2) = List.replicate r.passiveFailuresByProtocol.entries.length 0 := by
    simp [cleared, clearProtocolFailureState, SortedMap.mapValues, Function.comp_def]
  rw [hz, List.max?_replicate]
  split_ifs <;> rfl

theorem Sound.notePassive (h : r.Sound policy) (success : Bool) (protocol : ProtocolHealthClass) :
    (r.notePassive policy success protocol).Sound policy := by
  have hwin : ∀ rs : List Bool, (rs.drop (rs.length - policy.outlierWindowSize)).length ≤ policy.outlierWindowSize := by
    intro rs
    rw [List.length_drop]
    omega
  unfold EndpointHealthRecord.notePassive pushPassiveResult
  by_cases hs : policy.outlierWindowSize = 0
  · simp only [if_pos hs]
    cases success <;> exact { h with passive := rfl }
  · simp only [if_neg hs]
    cases success <;> exact { h with passive := rfl, window := hwin _ }

section
variable (hpercent : policy.slowStartMinWeightPercent ≤ 100)
include hpercent

theorem sound_new {e : UpstreamEndpoint} : (new e policy).Sound policy := by
  have hpos := (weighted_new : (new e policy).Weighted).nominal_pos
  unfold new at hpos ⊢
  split_ifs at hpos ⊢
  · have hnominal : 0 < e.metadata.weight.toNat ∧ e.metadata.weight.toNat < 2 ^ 16 := ⟨hpos, e.metadata.weight.toNat_lt⟩
    exact ⟨hnominal, Nat.zero_le _, fun _ => rfl, rfl, Nat.zero_le _, fun _ => ⟨le_rfl, warmupWeight_pos hnominal hpercent⟩⟩
  · exact ⟨⟨hpos, e.metadata.weight.toNat_lt⟩, Nat.zero_le _, fun _ => rfl, rfl, Nat.zero_le _, fun hs => by cases hs⟩

theorem Sound.transitionOnSuccess (h : r.Sound policy) : (r.transitionOnSuccess policy).Sound policy := by
  unfold EndpointHealthRecord.transitionOnSuccess
  cases hst : r.status with
  | ejected => exact h
  | healthy | warming => exact { h with passive := r.passive_cleared }
  | degraded | unhealthy =>
    have hl : r.remainingEjection = 0 := h.ejection (by simp [hst])
    dsimp only
    split_ifs
    · exact { h with ejection := fun _ => hl, warming := fun hs => by cases hs }
    · exact { h with ejection := fun _ => hl, passive := r.passive_cleared, warming := fun hs => by cases hs }
    · exact { h with
        elapsed := Nat.zero_le _, ejection := fun _ => hl, passive := r.passive_cleared
        warming := fun _ => ⟨le_rfl, warmupWeight_pos h.nominal hpercent⟩ }

theorem Sound.signalled (h : r.Sound policy) (signal : HealthSignal) : (r.signalled policy signal).Sound policy := by
  have hres : ∀ {r : EndpointHealthRecord} (n : ℕ), r.Sound policy →
      Sound policy { r with activeFailures := n, recoverySuccesses := 0 } := fun _ h => { h with }
  cases signal with
  | activeSuccess => exact h.transitionOnSuccess hpercent
  | passiveSuccess p => exact (h.notePassive true p).transitionOnSuccess hpercent
  | activeFailure => exact (hres _ h).transitionOnFailures false
  | passiveFailure p => exact (hres _ (h.notePassive false p)).transitionOnFailures _

theorem Sound.advanced (h : r.Sound policy) (elapsed : ℕ) : (r.advanced policy elapsed).Sound policy := by
  unfold EndpointHealthRecord.advanced
  cases hst : r.status with
  | ejected =>
    dsimp only
    split_ifs
    · exact { h with ejection := fun _ => rfl, warming := fun hs => by cases hs }
    · exact { h with ejection := fun hs => absurd rfl hs, warming := fun hs => by cases hs }
  | warming =>
    have hl : r.remainingEjection = 0 := h.ejection (by simp [hst])
    dsimp only
    split_ifs
    · exact { h with elapsed := min_le_right _ _, ejection := fun _ => hl, warming := fun hs => by cases hs }
    · exact { h with
        elapsed := min_le_right _ _, ejection := fun _ => hl
        warming := fun _ => ⟨warmupWeight_pos h.nominal hpercent, le_rfl⟩ }
  | healthy | degraded | unhealthy => exact h

theorem Sound.weight_le_advanced (h : r.Sound policy) (hst : r.status = .warming) (elapsed : ℕ) :
    r.effectiveWeight ≤ (r.advanced policy elapsed).effectiveWeight := by
  have hwar : r.warmupElapsed ≤ r.warmedFor elapsed := le_min (Nat.le_add_right _ _) h.elapsed
  have hwt := (h.warming hst).2.trans (warmupWeight_mono h.nominal hpercent hwar)
  unfold EndpointHealthRecord.advanced
  rw [hst]
  dsimp only
  split_ifs
  · exact hwt.trans warmupWeight_le
  · exact hwt

end

end EndpointHealthRecord

namespace UpstreamHealthRegistry

variable {r : EndpointHealthRecord} {policy : EndpointHealthPolicy}

/-- **The health records of every run keep their representation invariant**, where the slow start takes at most the whole
weight: the weight is the one of the status, a warm-up only adds to it, time is left of an ejection only to an ejected
endpoint, the passive failures are the most of any protocol, and the window is within its size. -/
theorem record_invariant (hpercent : policy.slowStartMinWeightPercent ≤ 100) (calls : List HealthCall) {key : EndpointKey}
    (h : ((new policy).run calls).records.get? key = some r) :
    (r.status = .unhealthy ∨ r.status = .ejected → r.effectiveWeight = 0) ∧
    (r.status = .healthy ∨ r.status = .degraded → r.effectiveWeight = r.nominalWeight) ∧
    (r.status = .warming → 1 ≤ r.effectiveWeight ∧ r.effectiveWeight ≤ r.nominalWeight ∧
      ∀ elapsed r', (((new policy).run calls).advanceTime elapsed).records.get? key = some r' →
        r.effectiveWeight ≤ r'.effectiveWeight) ∧
    (r.remainingEjection ≠ 0 → r.status = .ejected) ∧
    r.passiveFailures = ((r.passiveFailuresByProtocol.entries.map (·.2)).max?).getD 0 ∧
    r.passiveResultsWindow.length ≤ policy.outlierWindowSize := by
  have hsou : r.Sound policy := records_run (fun _ => EndpointHealthRecord.sound_new hpercent)
    (fun _ s hr => hr.signalled hpercent s)
    (fun _ hr => { hr with ejection := fun _ => rfl, warming := fun hs => by cases hs }) (fun _ elapsed hr => hr.advanced hpercent elapsed)
    calls (new policy) rfl (fun _ _ h => by cases h) key r h
  have hwtd : r.Weighted := weighted_run h
  refine ⟨fun hs => ?_, hwtd.full, fun hs => ⟨(hsou.warming hs).1, hwtd.reduced hs, fun elapsed r' hr' => ?_⟩, ?_,
    hsou.passive, hsou.window⟩
  · apply hwtd.none
    rcases hs with hs | hs <;> rw [hs] <;> rfl
  · by_cases hz : elapsed = 0
    · rw [advanceTime, if_pos hz, h] at hr'
      cases hr'
      exact le_rfl
    · rw [advanceTime_records _ hz, SortedMap.get?_mapValues, h, run_policy] at hr'
      cases hr'
      exact hsou.weight_le_advanced hpercent hs elapsed
  · intro hl
    by_contra hs
    exact hl (hsou.ejection hs)

/-- A registered endpoint starts to warm up with some weight. -/
theorem record_warms : ∃ r, ((new .default).run [.insertCluster soleCluster]).records.get? soleKey = some r ∧ 1 ≤ r.effectiveWeight :=
  ⟨_, rfl, ((@record_invariant _ .default (by decide) [.insertCluster soleCluster] soleKey rfl).2.2.1 rfl).1⟩

end UpstreamHealthRegistry

end WayBalancer
