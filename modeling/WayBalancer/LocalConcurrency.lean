import WayBalancer.LocalLimits
import WayBalancer.Proc
/-!
# LocalConcurrency — the counts of the concurrency limiter and the leases that are out

A lease may be dropped at any time after it was acquired.  Over every interleaving of acquisitions and drops the limiter's
counts are those of the leases that are still out.
-/
namespace WayBalancer

open Str Word

structure ConcurrencyWorld where
  limiter : LocalConcurrencyLimiter
  leases : List LocalConcurrencyLease

def liveFor (leases : List LocalConcurrencyLease) (key : NormalizedLimitKey) : ℕ := (leases.map (·.key)).count key

/-- The worlds a limiter of this configuration reaches.  A lease owns the heap block of its key, so the leases that are out at
once are fewer than there are addresses: the acquisition of one more aborts the process before it returns. -/
inductive ConcurrencyReachable (config : LocalConcurrencyLimitConfig) : ConcurrencyWorld → Prop
  | start {limiter} : LocalConcurrencyLimiter.new config = .ok limiter → ConcurrencyReachable config ⟨limiter, []⟩
  | acquired {w context lease limiter} : ConcurrencyReachable config w → w.leases.length < u64Max →
      w.limiter.tryAcquire context = (.ok lease, limiter) → ConcurrencyReachable config ⟨limiter, lease :: w.leases⟩
  | rejected {w context e limiter} : ConcurrencyReachable config w → w.limiter.tryAcquire context = (.error e, limiter) →
      ConcurrencyReachable config ⟨limiter, w.leases⟩
  | dropped {w lease} : ConcurrencyReachable config w → lease ∈ w.leases →
      ConcurrencyReachable config ⟨{ w.limiter with state := lease.drop w.limiter.state }, w.leases.erase lease⟩

/-! ## What an acquisition does -/

/-- What may come of an acquisition: no room for another key, no room in the key, or one more of it. -/
theorem tryAcquire_cases {limiter : LocalConcurrencyLimiter} {context : LimitContext} : let key := limiter.keyOf context
    let current := (limiter.state.counts.get? key).getD 0
    (limiter.state.counts.get? key = none ∧ limiter.state.counts.size = limiter.config.maxTrackedKeys ∧
      limiter.tryAcquire context = (.error .stateSaturated, { limiter with state := { limiter.state with
        concurrencyRejectionCount := wrapAdd limiter.state.concurrencyRejectionCount 1 } })) ∨
    (limiter.config.maxConcurrent ≤ current ∧
      limiter.tryAcquire context = (.error .concurrencyLimitExceeded, { limiter with state := { limiter.state with
        counts := limiter.state.counts.insert key current
        concurrencyRejectionCount := wrapAdd limiter.state.concurrencyRejectionCount 1 } })) ∨
    ((limiter.state.counts.get? key = none → limiter.state.counts.size ≠ limiter.config.maxTrackedKeys) ∧
      current < limiter.config.maxConcurrent ∧
      limiter.tryAcquire context = (.ok ⟨key⟩, { limiter with state := { limiter.state with
        counts := limiter.state.counts.insert key (current + 1)
        activeConcurrency := wrapAdd limiter.state.activeConcurrency 1
        acquiredCount := wrapAdd limiter.state.acquiredCount 1 } })) := by
  unfold LocalConcurrencyLimiter.tryAcquire
  simp only
  split
  · rename_i h
    exact .inl ⟨Option.isNone_iff_eq_none.1 h.1, h.2, rfl⟩
  · rename_i h
    split
    · rename_i hf
      exact .inr (.inl ⟨hf, rfl⟩)
    · rename_i hr
      exact .inr (.inr ⟨fun hn hs => h ⟨Option.isNone_iff_eq_none.2 hn, hs⟩, Nat.not_le.1 hr, rfl⟩)

/-! ## The accounts -/

/-- The counts are those of the leases that are out. -/
structure LeaseAccounts (config : LocalConcurrencyLimitConfig) (w : ConcurrencyWorld) : Prop where
  config_eq : w.limiter.config = config
  maxConcurrent_pos : 0 < config.maxConcurrent
  counts_eq : ∀ key, w.limiter.state.counts.get? key = if liveFor w.leases key = 0 then none else some (liveFor w.leases key)
  live_le : ∀ key, liveFor w.leases key ≤ config.maxConcurrent
  size_le : w.limiter.state.counts.size ≤ config.maxTrackedKeys
  active_eq : w.limiter.state.activeConcurrency = w.leases.length
  leases_le : w.leases.length ≤ u64Max

namespace LeaseAccounts

variable {config : LocalConcurrencyLimitConfig} {w : ConcurrencyWorld}

theorem getD_counts (h : LeaseAccounts config w) (key : NormalizedLimitKey) :
    (w.limiter.state.counts.get? key).getD 0 = liveFor w.leases key := by
  rw [h.counts_eq]
  split
  · rename_i hz
    rw [hz]
    rfl
  · rfl

variable {limiter : LocalConcurrencyLimiter}

theorem start (hnew : LocalConcurrencyLimiter.new config = .ok limiter) : LeaseAccounts config ⟨limiter, []⟩ := by
  obtain ⟨_, hval, hlim⟩ := Proc.except_bind_ok.1 hnew
  cases hlim
  have hpos : 0 < config.maxConcurrent := Nat.pos_of_ne_zero (fun hz => by
    obtain ⟨_, -, hval⟩ := Proc.except_bind_ok.1 hval
    rw [if_pos hz] at hval
    cases hval)
  exact ⟨rfl, hpos, fun _ => rfl, fun _ => Nat.zero_le _, Nat.zero_le _, rfl, Nat.zero_le _⟩

variable {e : LocalLimitError}

/-- **A refusal changes no count.** -/
theorem rejected_state (h : LeaseAccounts config w) {context : LimitContext}
    (hrej : w.limiter.tryAcquire context = (.error e, limiter)) :
    limiter.config = w.limiter.config ∧ limiter.state.counts = w.limiter.state.counts ∧
      limiter.state.activeConcurrency = w.limiter.state.activeConcurrency := by
  rcases tryAcquire_cases with ⟨-, -, hc⟩ | ⟨hf, hc⟩ | ⟨-, -, hc⟩
  · rw [hc] at hrej
    cases hrej
    exact ⟨rfl, rfl, rfl⟩
  · rw [hc] at hrej
    cases hrej
    refine ⟨rfl, ?_, rfl⟩
    -- a key that is full is in the map already, with this count
    have hl : liveFor w.leases (w.limiter.keyOf context) ≠ 0 := by
      have hpos := h.maxConcurrent_pos
      rw [h.getD_counts, h.config_eq] at hf
      omega
    have hget := h.counts_eq (w.limiter.keyOf context)
    rw [if_neg hl] at hget
    rw [hget]
    exact SortedMap.insert_self hget
  · rw [hc] at hrej
    cases hrej

theorem rejected (h : LeaseAccounts config w) {context : LimitContext}
    (hrej : w.limiter.tryAcquire context = (.error e, limiter)) : LeaseAccounts config ⟨limiter, w.leases⟩ := by
  obtain ⟨hcfg, hcou, hact⟩ := h.rejected_state hrej
  exact ⟨hcfg.trans h.config_eq, h.maxConcurrent_pos, fun key => by rw [hcou]; exact h.counts_eq key, h.live_le,
    by rw [hcou]; exact h.size_le, hact.trans h.active_eq, h.leases_le⟩

theorem liveFor_cons (leases : List LocalConcurrencyLease) (lease : LocalConcurrencyLease) (key : NormalizedLimitKey) :
    liveFor (lease :: leases) key = if key = lease.key then liveFor leases key + 1 else liveFor leases key := by
  unfold liveFor
  by_cases hk : key = lease.key
  · simp [hk]
  · simp [hk, Ne.symm hk]

theorem acquired (h : LeaseAccounts config w) (hr : w.leases.length < u64Max) {context : LimitContext}
    {lease : LocalConcurrencyLease} {limiter : LocalConcurrencyLimiter}
    (hacq : w.limiter.tryAcquire context = (.ok lease, limiter)) : LeaseAccounts config ⟨limiter, lease :: w.leases⟩ := by
  rcases tryAcquire_cases with ⟨-, -, hc⟩ | ⟨-, hc⟩ | ⟨hs, hcur, hc⟩
  · rw [hc] at hacq
    cases hacq
  · rw [hc] at hacq
    cases hacq
  · rw [hc] at hacq
    cases hacq
    rw [h.getD_counts, h.config_eq] at hcur
    refine ⟨h.config_eq, h.maxConcurrent_pos, fun key => ?_, fun key => ?_, ?_, ?_, ?_⟩
    · rw [liveFor_cons]
      simp only [SortedMap.get?_insert, h.getD_counts]
      split
      · rename_i hk
        rw [hk, if_neg (Nat.succ_ne_zero _)]
      · exact h.counts_eq key
    · rw [liveFor_cons]
      split
      · rename_i hk
        rw [hk]
        exact hcur
      · exact h.live_le key
    · cases hget : w.limiter.state.counts.get? (w.limiter.keyOf context) with
      | none =>
        have hne := hs hget
        have hle := h.size_le
        rw [h.config_eq] at hne
        rw [SortedMap.size_insert_of_none hget]
        omega
      | some n =>
        rw [SortedMap.size_insert_of_some hget]
        exact h.size_le
    · show wrapAdd w.limiter.state.activeConcurrency 1 = w.leases.length + 1
      rw [h.active_eq, wrapAdd]
      unfold u64Max at hr
      omega
    · exact hr

variable {lease : LocalConcurrencyLease}

theorem liveFor_erase {leases : List LocalConcurrencyLease} (hlea : lease ∈ leases) (key : NormalizedLimitKey) :
    liveFor leases key = liveFor (leases.erase lease) key + if key = lease.key then 1 else 0 := by
  unfold liveFor
  rw [((List.perm_cons_erase hlea).map _).count_eq, List.map_cons]
  by_cases hk : key = lease.key
  · simp [hk]
  · simp [hk, Ne.symm hk]

theorem dropped (h : LeaseAccounts config w) (hlea : lease ∈ w.leases) :
    LeaseAccounts config ⟨{ w.limiter with state := lease.drop w.limiter.state }, w.leases.erase lease⟩ := by
  have hl := liveFor_erase hlea
  have hkey := hl lease.key
  rw [if_pos rfl] at hkey
  have hget := h.counts_eq lease.key
  rw [if_neg (by omega)] at hget
  have hlen := List.length_erase_of_mem hlea
  have hpos : 0 < w.leases.length := List.length_pos_of_mem hlea
  have hleas := h.leases_le
  have hd : lease.drop w.limiter.state = { w.limiter.state with
      counts := if liveFor w.leases lease.key - 1 = 0 then w.limiter.state.counts.erase lease.key
        else w.limiter.state.counts.insert lease.key (liveFor w.leases lease.key - 1)
      activeConcurrency := wrapAdd w.limiter.state.activeConcurrency u64Max } := by
    unfold LocalConcurrencyLease.drop
    simp only [hget]
  refine ⟨h.config_eq, h.maxConcurrent_pos, fun key => ?_, fun key => ?_, ?_, ?_, ?_⟩
  · have hkey' := hl key
    simp only [hd]
    by_cases hk : key = lease.key
    · subst hk
      by_cases hz : liveFor w.leases lease.key - 1 = 0
      · rw [if_pos hz, SortedMap.get?_erase, if_pos rfl, if_pos (by omega)]
      · rw [if_neg hz, SortedMap.get?_insert, if_pos rfl, if_neg (by omega)]
        congr 1
        omega
    · rw [if_neg hk] at hkey'
      have hoth := h.counts_eq key
      split
      · rw [SortedMap.get?_erase, if_neg hk, hoth, hkey', Nat.add_zero]
      · rw [SortedMap.get?_insert, if_neg hk, hoth, hkey', Nat.add_zero]
  · have hle := h.live_le key
    have hkey' := hl key
    simp only
    omega
  · simp only [hd]
    split
    · exact (SortedMap.size_erase_le _ _).trans h.size_le
    · rw [SortedMap.size_insert_of_some hget]
      exact h.size_le
  · simp only [hd]
    rw [h.active_eq]
    unfold wrapAdd u64Max at *
    omega
  · simp only
    omega

theorem sum_counts (h : LeaseAccounts config w) : (w.limiter.state.counts.entries.map (·.2)).sum = w.leases.length := by
  have hk : ∀ key, (w.limiter.state.counts.get? key).isSome = true ↔ key ∈ (w.leases.map (·.key)).toFinset := by
    intro key
    rw [h.counts_eq, List.mem_toFinset, ← List.count_pos_iff, ← liveFor]
    split
    · simp only [Option.isSome_none, Bool.false_eq_true, false_iff]
      omega
    · simp only [Option.isSome_some, true_iff]
      omega
  rw [SortedMap.sum_values _ hk]
  calc ∑ key ∈ (w.leases.map (·.key)).toFinset, (w.limiter.state.counts.get? key).getD 0
      = ∑ key ∈ (w.leases.map (·.key)).toFinset, (w.leases.map (·.key)).count key :=
        Finset.sum_congr rfl (fun key _ => h.getD_counts key)
    _ = (w.leases.map (·.key)).length := by
        convert List.sum_toFinset_count_eq_length (w.leases.map (·.key))
    _ = w.leases.length := List.length_map _

end LeaseAccounts

theorem ConcurrencyReachable.leaseAccounts {config : LocalConcurrencyLimitConfig} {w : ConcurrencyWorld}
    (h : ConcurrencyReachable config w) : LeaseAccounts config w := by
  induction h with
  | start hnew => exact .start hnew
  | acquired _ hr hacq ih => exact ih.acquired hr hacq
  | rejected _ hrej ih => exact ih.rejected hrej
  | dropped _ hlea ih => exact ih.dropped hlea

/-- **The limiter's counts are those of the leases that are out.**  In every reachable world a key is counted exactly when a
lease is out for it, with as many as there are, from one to the limit; the total is the sum of the counts; no more keys are
tracked than may be; and a refused acquisition changes no count. -/
theorem concurrencyReachable_counts {config : LocalConcurrencyLimitConfig} {w : ConcurrencyWorld}
    (h : ConcurrencyReachable config w) :
    (∀ key, (w.limiter.state.counts.get? key).getD 0 = liveFor w.leases key) ∧
    (∀ key n, w.limiter.state.counts.get? key = some n → n = liveFor w.leases key ∧ 1 ≤ n ∧ n ≤ config.maxConcurrent) ∧
    w.limiter.state.activeConcurrency = (w.limiter.state.counts.entries.map (·.2)).sum ∧
    w.limiter.state.counts.size ≤ config.maxTrackedKeys ∧
    ∀ context e limiter, w.limiter.tryAcquire context = (.error e, limiter) →
      limiter.state.counts = w.limiter.state.counts ∧
        limiter.state.activeConcurrency = w.limiter.state.activeConcurrency := by
  have hacc := h.leaseAccounts
  refine ⟨hacc.getD_counts, fun key n hget => ?_, hacc.active_eq.trans hacc.sum_counts.symm, hacc.size_le,
    fun context e limiter hrej => (hacc.rejected_state hrej).2⟩
  rw [hacc.counts_eq] at hget
  split at hget
  · cases hget
  · cases hget
    exact ⟨rfl, by omega, hacc.live_le key⟩

/-- One request at a time for a whole listener, and the limiter that has let one in. -/
def publicConcurrencyLimit : LocalConcurrencyLimitConfig := ⟨.listener (lit "public"), .global, 1, 1⟩

def publicBusy : LocalConcurrencyLimiter :=
  (LocalConcurrencyLimiter.tryAcquire ⟨publicConcurrencyLimit, ⟨.empty, 0, 0, 0⟩⟩ ⟨none, none, none⟩).2

theorem publicBusy_reachable : ConcurrencyReachable publicConcurrencyLimit ⟨publicBusy, [⟨lit "listener:public|key:global"⟩]⟩ :=
  @ConcurrencyReachable.acquired _ _ ⟨none, none, none⟩ _ _ (.start rfl) (by decide) rfl

theorem publicBusy_counts :
    publicBusy.state.activeConcurrency = 1 ∧ (publicBusy.state.counts.entries.map (·.2)).sum = 1 := by
  have hcou := concurrencyReachable_counts publicBusy_reachable
  have hact : publicBusy.state.activeConcurrency = 1 := rfl
  exact ⟨hact, hcou.2.2.1.symm.trans hact⟩

end WayBalancer
