import WayBalancer.FixedWindow
import WayBalancer.LocalLimits
import WayBalancer.Proc
/-!
# LocalRateLimits — what a key is allowed over a run of checks

As long as the calls name no more keys than the limiter tracks, no key is evicted, and what a call is answered is a fixed
window of its own key (`run_filter_key`): the bounds are the windows' own.
-/
namespace WayBalancer

open Str Word

/-! ## Runs -/

structure CheckCall where
  now : ℕ
  context : LimitContext
deriving DecidableEq, Repr

structure CheckRecord where
  now : ℕ
  key : NormalizedLimitKey
  result : Except LocalLimitError RateLimitDecision
  windowStarted : Option ℕ
deriving DecidableEq

def CheckRecord.allowed (r : CheckRecord) : Bool :=
  match r.result with
  | .ok decision => decision.allowed
  | .error _     => false

namespace LocalRateLimiter

def run : LocalRateLimiter → List CheckCall → List CheckRecord
  | _, [] => []
  | limiter, call :: calls =>
    let (result, limiter') := limiter.check call.now call.context
    ⟨call.now, limiter.keyOf call.context, result,
      (limiter'.state.get? (limiter.keyOf call.context)).map (·.windowStarted)⟩ :: run limiter' calls

end LocalRateLimiter

/-! ## One key by itself -/

/-- The entry a key is served from: its own, or a new one. -/
def entryAt (now : ℕ) (entry : Option RateWindowState) : RateWindowState :=
  entry.getD ⟨now, 0, LocalRateLimiter.durationTick now⟩

def serveAll (config : LocalRateLimitConfig) (key : NormalizedLimitKey) : Option RateWindowState → List ℕ → List CheckRecord
  | _, [] => []
  | entry, now :: times =>
    let (decision, entry') := (entryAt now entry).serve config now
    ⟨now, key, .ok decision, some entry'.windowStarted⟩ :: serveAll config key (some entry') times

def RateWindowState.toWindow (entry : RateWindowState) : FixedWindow.Window := ⟨entry.windowStarted, entry.count⟩

def CheckRecord.toArrival (r : CheckRecord) : FixedWindow.Arrival := ⟨r.now, r.windowStarted.getD 0, r.allowed⟩

theorem seen_toWindow {config : LocalRateLimitConfig} (hwin : 0 < config.window) {now : ℕ} {entry : Option RateWindowState} :
    ((entryAt now entry).seen config now).toWindow = FixedWindow.roll config.window now (entry.map RateWindowState.toWindow) := by
  cases entry with
  | some e =>
    unfold RateWindowState.seen FixedWindow.roll entryAt
    simp only [Option.getD_some, Option.map_some, RateWindowState.toWindow]
    split <;> rfl
  | none =>
    -- a window that starts now is not over
    have ho : ¬ config.window ≤ now - now := by omega
    unfold RateWindowState.seen entryAt
    simp only [Option.getD_none, if_neg ho]
    rfl

theorem serve_toWindow (config : LocalRateLimitConfig) (now : ℕ) (entry : RateWindowState) :
    (entry.serve config now).2.toWindow = (entry.seen config now).toWindow.serve config.requestsPerWindow ∧
      (entry.serve config now).1.allowed = decide ((entry.seen config now).toWindow.count < config.requestsPerWindow) := by
  unfold RateWindowState.serve FixedWindow.Window.serve
  by_cases hf : config.requestsPerWindow ≤ (entry.seen config now).count
  · have hcnt : ¬ (entry.seen config now).toWindow.count < config.requestsPerWindow := Nat.not_lt.2 hf
    rw [if_pos hf, if_neg hcnt]
    exact ⟨rfl, (decide_eq_false hcnt).symm⟩
  · have hcnt : (entry.seen config now).toWindow.count < config.requestsPerWindow := Nat.not_le.1 hf
    rw [if_neg hf, if_pos hcnt]
    exact ⟨rfl, (decide_eq_true hcnt).symm⟩

theorem serveAll_toArrival {config : LocalRateLimitConfig} (hw : 0 < config.window) (key : NormalizedLimitKey) :
    ∀ (times : List ℕ) (entry : Option RateWindowState), (serveAll config key entry times).map CheckRecord.toArrival =
        FixedWindow.run config.requestsPerWindow config.window (entry.map RateWindowState.toWindow) times
  | [], _ => rfl
  | now :: times, entry => by
    obtain ⟨hwin, hall⟩ := serve_toWindow config now (entryAt now entry)
    rw [seen_toWindow hw] at hwin hall
    have hsta : ((entryAt now entry).serve config now).2.windowStarted =
        (FixedWindow.roll config.window now (entry.map RateWindowState.toWindow)).start := by
      rw [← @FixedWindow.Window.serve_start config.requestsPerWindow, ← hwin]
      rfl
    have hr := serveAll_toArrival hw key times (some ((entryAt now entry).serve config now).2)
    rw [Option.map_some, hwin] at hr
    unfold serveAll
    rw [List.map_cons]
    congr 1
    show FixedWindow.Arrival.mk now ((entryAt now entry).serve config now).2.windowStarted
      ((entryAt now entry).serve config now).1.allowed = _
    rw [hsta, hall]

theorem serveAll_key {config : LocalRateLimitConfig} {key : NormalizedLimitKey} :
    ∀ {times : List ℕ} {entry : Option RateWindowState}, ∀ r ∈ serveAll config key entry times,
      r.key = key ∧ (∃ decision, r.result = .ok decision) ∧ ∃ s, r.windowStarted = some s
  | now :: times, entry, r, hr => by
    rcases List.mem_cons.1 hr with rfl | hr
    · exact ⟨rfl, ⟨_, rfl⟩, ⟨_, rfl⟩⟩
    · exact serveAll_key r hr

/-! ## No key is evicted -/

namespace LocalRateLimiter

/-- The limiter tracks keys of `K` only. -/
def TracksWithin (limiter : LocalRateLimiter) (K : Finset NormalizedLimitKey) : Prop :=
  ∀ k, (limiter.state.get? k).isSome = true → k ∈ K

variable {limiter : LocalRateLimiter}

variable {K : Finset NormalizedLimitKey}

/-- A check of a key there is room for serves the key's own entry, and leaves the others alone. -/
theorem check_of_room (hK : limiter.TracksWithin K) (hc : K.card ≤ limiter.config.maxTrackedKeys) {context : LimitContext}
    (hkey : limiter.keyOf context ∈ K) (now : ℕ) :
    ∃ limiter', limiter.check now context =
        (.ok ((entryAt now (limiter.state.get? (limiter.keyOf context))).serve limiter.config now).1, limiter') ∧
      limiter'.config = limiter.config ∧
      limiter'.state = limiter.state.insert (limiter.keyOf context)
        ((entryAt now (limiter.state.get? (limiter.keyOf context))).serve limiter.config now).2 := by
  have hr : ¬ ((limiter.state.get? (limiter.keyOf context)).isNone = true ∧ limiter.state.size = limiter.config.maxTrackedKeys) := by
    rintro ⟨hn, hs⟩
    have hlt := SortedMap.size_lt_card hK hkey (Option.isNone_iff_eq_none.1 hn)
    omega
  unfold check
  simp only [if_neg hr]
  split
  · exact ⟨_, rfl, rfl, rfl⟩
  · exact ⟨_, rfl, rfl, rfl⟩

theorem TracksWithin.insert {limiter' : LocalRateLimiter} (hK : limiter.TracksWithin K) {key : NormalizedLimitKey}
    (hkey : key ∈ K) {entry : RateWindowState} (h : limiter'.state = limiter.state.insert key entry) :
    limiter'.TracksWithin K := by
  intro k hk
  rw [h, SortedMap.get?_insert] at hk
  split at hk
  · rename_i he
    rw [he]
    exact hkey
  · exact hK k hk

def timesOf (config : LocalRateLimitConfig) (key : NormalizedLimitKey) (calls : List CheckCall) : List ℕ :=
  (calls.filter (fun c => normalizeLimitKey config.scope config.keyKind c.context = key)).map (·.now)

/-- **What a key is answered in a run is what it is answered by itself.** -/
theorem run_filter_key {K : Finset NormalizedLimitKey} (key : NormalizedLimitKey) :
    ∀ {calls : List CheckCall} {limiter : LocalRateLimiter}, limiter.TracksWithin K → K.card ≤ limiter.config.maxTrackedKeys →
      (∀ c ∈ calls, limiter.keyOf c.context ∈ K) →
      (limiter.run calls).filter (fun r => r.key = key) =
        serveAll limiter.config key (limiter.state.get? key) (timesOf limiter.config key calls)
  | [], _, _, _, _ => rfl
  | call :: calls, limiter, hK, hca, hcal => by
    have hkey : limiter.keyOf call.context ∈ K := hcal call List.mem_cons_self
    obtain ⟨limiter', hche, hcfg, hsta⟩ := check_of_room hK hca hkey call.now
    have hr := run_filter_key key (hK.insert hkey hsta) (by rw [hcfg]; exact hca) (fun c hc => by
        have := hcal c (List.mem_cons_of_mem call hc)
        unfold keyOf at this ⊢
        rw [hcfg]
        exact this)
    rw [hcfg, hsta, SortedMap.get?_insert] at hr
    unfold run timesOf
    simp only [hche, hsta, SortedMap.get?_insert, if_true, Option.map_some, List.filter_cons]
    by_cases hk : limiter.keyOf call.context = key
    · have hk' : normalizeLimitKey limiter.config.scope limiter.config.keyKind call.context = key := hk
      rw [if_pos hk.symm] at hr
      simp only [hk, hk', decide_true, if_true, List.map_cons, serveAll]
      rw [hr, hk]
      rfl
    · have hk' : ¬ normalizeLimitKey limiter.config.scope limiter.config.keyKind call.context = key := hk
      rw [if_neg (fun h => hk h.symm)] at hr
      simp only [hk, hk', decide_false, Bool.false_eq_true, if_false]
      exact hr

/-! ## Whole runs -/

theorem new_ok {config : LocalRateLimitConfig} (h : new config = .ok limiter) :
    limiter = ⟨config, .empty, 0, 0⟩ ∧ 0 < config.window := by
  obtain ⟨_, hval, hlim⟩ := Proc.except_bind_ok.1 h
  cases hlim
  refine ⟨rfl, Nat.pos_of_ne_zero (fun hz => ?_)⟩
  obtain ⟨_, -, hval⟩ := Proc.except_bind_ok.1 hval
  by_cases hr : config.requestsPerWindow = 0
  · rw [if_pos hr] at hval
    cases hval
  · rw [if_neg hr, if_pos hz] at hval
    cases hval

theorem check_config {now : ℕ} {context : LimitContext} : (limiter.check now context).2.config = limiter.config := by
  unfold check
  simp only
  split_ifs <;> rfl

theorem key_of_mem_run : ∀ (calls : List CheckCall) (limiter : LocalRateLimiter), ∀ r ∈ limiter.run calls,
    ∃ c ∈ calls, r.key = limiter.keyOf c.context
  | call :: calls, limiter, r, hr => by
    rcases List.mem_cons.1 hr with rfl | hr
    · exact ⟨call, List.mem_cons_self, rfl⟩
    · obtain ⟨c, hc, hkey⟩ := key_of_mem_run calls (limiter.check call.now call.context).2 r hr
      refine ⟨c, List.mem_cons_of_mem call hc, ?_⟩
      rwa [keyOf, check_config] at hkey

section Runs

variable {config : LocalRateLimitConfig} {limiter : LocalRateLimiter} {calls : List CheckCall}

def keysOf (limiter : LocalRateLimiter) (calls : List CheckCall) : Finset NormalizedLimitKey :=
  (calls.map (fun c => limiter.keyOf c.context)).toFinset

theorem run_key_of_new (hnew : new config = .ok limiter) (hke : (limiter.keysOf calls).card ≤ config.maxTrackedKeys)
    (key : NormalizedLimitKey) :
    (limiter.run calls).filter (fun r => r.key = key) = serveAll config key none (timesOf config key calls) := by
  obtain ⟨rfl, -⟩ := new_ok hnew
  refine run_filter_key (K := keysOf ⟨config, .empty, 0, 0⟩ calls) key (fun k hk => by cases hk) hke (fun c hc => ?_)
  exact List.mem_toFinset.2 (List.mem_map_of_mem hc)

theorem timesOf_sorted (hsrt : calls.Pairwise (fun a b => a.now ≤ b.now)) (key : NormalizedLimitKey) :
    (timesOf config key calls).Pairwise (· ≤ ·) := List.pairwise_map.2 (hsrt.sublist List.filter_sublist)

theorem timesOf_filter (key : NormalizedLimitKey) :
    timesOf config key (calls.filter (fun c => normalizeLimitKey config.scope config.keyKind c.context = key)) =
      timesOf config key calls := by
  unfold timesOf
  rw [List.filter_filter]
  simp only [Bool.and_self]

theorem length_filter_toArrival {p : FixedWindow.Arrival → Bool} {key : NormalizedLimitKey} (hwin : 0 < config.window)
    {times : List ℕ} :
    ((serveAll config key none times).filter (fun r => p r.toArrival)).length =
      ((FixedWindow.run config.requestsPerWindow config.window none times).filter p).length := by
  have harr := serveAll_toArrival hwin key times none
  rw [Option.map_none] at harr
  rw [← harr, List.filter_map, List.length_map]
  rfl

theorem filter_key_and (l : List CheckRecord) (key : NormalizedLimitKey) (p : CheckRecord → Prop) [DecidablePred p] :
    l.filter (fun r => r.key = key ∧ p r) = (l.filter (fun r => r.key = key)).filter (fun r => p r) := by
  rw [List.filter_filter]
  refine List.filter_congr (fun r _ => ?_)
  rw [Bool.decide_and, Bool.and_comm]

/-- **The limit holds per key.**  In a run of checks in order of time over no more keys than the limiter tracks, every call is
decided, in a window of its key that it lies in; a window allows its key at most the limit, a half-open interval of a
window's length at most twice that; and a key is answered as if its calls were the only ones. -/
theorem run_limits_each_key (hnew : new config = .ok limiter) (hsorted : calls.Pairwise (fun a b => a.now ≤ b.now))
    (hkeys : (limiter.keysOf calls).card ≤ config.maxTrackedKeys) :
    (∀ r ∈ limiter.run calls, r.result ≠ .error .stateSaturated ∧
      ∃ s, r.windowStarted = some s ∧ s ≤ r.now ∧ r.now < s + config.window) ∧
    (∀ key s, ((limiter.run calls).filter (fun r => r.key = key ∧ r.windowStarted = some s ∧ r.allowed = true)).length ≤
      config.requestsPerWindow) ∧
    (∀ key t, ((limiter.run calls).filter
        (fun r => r.key = key ∧ t ≤ r.now ∧ r.now < t + config.window ∧ r.allowed = true)).length ≤
      2 * config.requestsPerWindow) ∧
    ∀ key, (limiter.run calls).filter (fun r => r.key = key) =
      limiter.run (calls.filter (fun c => limiter.keyOf c.context = key)) := by
  have hwin := (new_ok hnew).2
  have hkey := run_key_of_new hnew hkeys
  refine ⟨fun r hr => ?_, fun key s => ?_, fun key t => ?_, fun key => ?_⟩
  · have hmem : r ∈ (limiter.run calls).filter (fun r' => r'.key = r.key) :=
      List.mem_filter.2 ⟨hr, decide_eq_true rfl⟩
    rw [hkey] at hmem
    obtain ⟨-, ⟨decision, hres⟩, s, hs⟩ := serveAll_key r hmem
    have harr : r.toArrival ∈ FixedWindow.run config.requestsPerWindow config.window none (timesOf config r.key calls) := by
      have ha := serveAll_toArrival hwin r.key (timesOf config r.key calls) none
      rw [Option.map_none] at ha
      rw [← ha]
      exact List.mem_map_of_mem hmem
    have ht := FixedWindow.time_of_mem hwin _ none (timesOf_sorted hsorted r.key) (fun v hv => by cases hv) _ harr
    simp only [CheckRecord.toArrival, hs, Option.getD_some] at ht
    refine ⟨fun hsat => ?_, s, hs, ht⟩
    rw [hres] at hsat
    cases hsat
  · have hbou := @FixedWindow.length_admittedIn_le config.requestsPerWindow _ hwin s (timesOf config key calls)
    unfold FixedWindow.admittedIn at hbou
    rw [← length_filter_toArrival hwin] at hbou
    rw [filter_key_and, hkey]
    refine le_trans (le_of_eq (congrArg List.length (List.filter_congr (fun r hr => ?_)))) hbou
    obtain ⟨-, -, s', hs'⟩ := serveAll_key r hr
    simp only [CheckRecord.toArrival, hs', Option.getD_some, Option.some.injEq]
  · have hbou := @FixedWindow.length_interval_le config.requestsPerWindow _ hwin t _
      (@timesOf_sorted config _ hsorted key)
    unfold FixedWindow.admittedWithin at hbou
    rw [← length_filter_toArrival hwin] at hbou
    rw [filter_key_and, hkey]
    exact hbou
  · have hfew : (limiter.keysOf (calls.filter (fun c => limiter.keyOf c.context = key))).card ≤ config.maxTrackedKeys :=
      (Finset.card_le_card (Multiset.toFinset_subset.2 (List.map_subset _ (List.filter_subset_self calls)))).trans hkeys
    have hown := run_key_of_new hnew hfew key
    have hall : (limiter.run (calls.filter (fun c => limiter.keyOf c.context = key))).filter (fun r => r.key = key) =
        limiter.run (calls.filter (fun c => limiter.keyOf c.context = key)) := by
      refine List.filter_eq_self.2 (fun r hr => ?_)
      obtain ⟨c, hc, hrk⟩ := key_of_mem_run _ limiter r hr
      rw [hrk]
      exact (List.mem_filter.1 hc).2
    obtain ⟨rfl, -⟩ := new_ok hnew
    rw [hkey, ← hall, hown]
    exact congrArg _ (timesOf_filter key).symm

end Runs

def publicRateLimit : LocalRateLimitConfig := ⟨.listener (lit "public"), .global, 2, 1000000000, 1⟩

def publicCalls : List CheckCall := [0, 400000000, 900000000, 1000000000].map (fun now => ⟨now, ⟨none, none, none⟩⟩)

theorem publicRateLimit_new : new publicRateLimit = .ok ⟨publicRateLimit, .empty, 0, 0⟩ := rfl

theorem run_limits_publicCalls :
    ((run ⟨publicRateLimit, .empty, 0, 0⟩ publicCalls).map CheckRecord.allowed = [true, true, false, true]) ∧
    ∀ r ∈ run ⟨publicRateLimit, .empty, 0, 0⟩ publicCalls, r.result ≠ .error .stateSaturated := by
  refine ⟨by decide +kernel, fun r hr => ?_⟩
  have hsrt : publicCalls.Pairwise (fun a b => a.now ≤ b.now) := by decide
  have hk : (keysOf ⟨publicRateLimit, .empty, 0, 0⟩ publicCalls).card ≤ publicRateLimit.maxTrackedKeys := by decide +kernel
  exact ((run_limits_each_key publicRateLimit_new hsrt hk).1 r hr).1

end LocalRateLimiter

end WayBalancer
