import WayBalancer.SmoothWrr
import WayBalancer.UpstreamSelection
/-!
# UpstreamWeighted — the shares of weighted round robin

The loop of `select_weighted_round_robin` adds the weights and keeps the best candidate in one pass; over candidates with
distinct identifiers it is a round of the smooth scheme, and calls with the same candidates go through its rounds.
-/
namespace WayBalancer

open SmoothWrr Proc
open FirstBest (keep)

/-- The candidates of a call, which are distinct endpoints. -/
structure CandidateList where
  list : List EndpointSelectionCandidate
  nonempty : list ≠ []
  distinct : (list.map (·.endpointId)).Nodup

namespace CandidateList

def ids (l : CandidateList) : List UpstreamEndpointId := l.list.map (·.endpointId)

def rounds (l : CandidateList) : Rounds UpstreamEndpointId :=
  ofList (·.endpointId) weightIn l.list l.nonempty (fun _ _ => lt_of_lt_of_le Nat.zero_lt_one (le_max_right _ _))

theorem mem_keys {l : CandidateList} {id : UpstreamEndpointId} : id ∈ l.rounds.keys ↔ id ∈ l.ids := List.mem_toFinset

theorem rounds_weight (l : CandidateList) {c : EndpointSelectionCandidate} (hc : c ∈ l.list) :
    l.rounds.weight c.endpointId = weightIn c := weightOf_of_nodup l.distinct hc

theorem rounds_total (l : CandidateList) : l.rounds.total = (l.list.map weightIn).sum := ofList_total _ _ _ _

end CandidateList

/-! ## One call -/

theorem rank_lt_iff {v : UpstreamEndpointId → ℤ} {m c : EndpointSelectionCandidate} :
    rank (·.endpointId) v m < rank (·.endpointId) v c ↔
      v m.endpointId < v c.endpointId ∨ v c.endpointId = v m.endpointId ∧ c.endpointId < m.endpointId := by
  unfold rank
  rw [Prod.Lex.toLex_lt_toLex, OrderDual.toDual_lt_toDual, eq_comm]

/-- **The loop**: over distinct endpoints it gives each its weight, and keeps the first of the best. -/
theorem weightedTurn_loop {v : UpstreamEndpointId → ℤ} : ∀ {l : List EndpointSelectionCandidate}
    {weights : SortedMap UpstreamEndpointId ℤ} {best : Option EndpointSelectionCandidate}, (l.map (·.endpointId)).Nodup →
    (∀ c ∈ l, v c.endpointId = (weights.get? c.endpointId).getD 0 + weightIn c) →
      (l.foldl weightedTurn (weights, best.map (fun c => (c, v c.endpointId)))).2 =
        (l.foldl (keep (rank (·.endpointId) v)) best).map (fun c => (c, v c.endpointId)) ∧
      ∀ k, (l.foldl weightedTurn (weights, best.map (fun c => (c, v c.endpointId)))).1.get? k =
        if k ∈ l.map (·.endpointId) then some (v k) else weights.get? k
  | [], weights, best, _, _ => ⟨rfl, fun k => by simp⟩
  | c :: l, weights, best, hnd, hv => by
    rw [List.map_cons, List.nodup_cons] at hnd
    have hcur := hv c List.mem_cons_self
    have ht : weightedTurn (weights, best.map (fun c => (c, v c.endpointId))) c = (weights.insert c.endpointId (v c.endpointId),
          (keep (rank (·.endpointId) v) best c).map (fun c => (c, v c.endpointId))) := by
      unfold weightedTurn
      rw [← hcur]
      cases best with
      | none => rfl
      | some m =>
        by_cases hlt : rank (·.endpointId) v m < rank (·.endpointId) v c
        · simp only [keep, if_pos hlt, Option.map_some, if_pos (rank_lt_iff.1 hlt)]
        · simp only [keep, if_neg hlt, Option.map_some, if_neg (fun h => hlt (rank_lt_iff.2 h))]
    -- the turn leaves the weights of the candidates to come alone
    have hr : ∀ c' ∈ l, v c'.endpointId = ((weights.insert c.endpointId (v c.endpointId)).get? c'.endpointId).getD 0 + weightIn c' := by
      intro c' hc'
      have hne : c'.endpointId ≠ c.endpointId := fun e => hnd.1 (e ▸ List.mem_map_of_mem hc')
      rw [SortedMap.get?_insert, if_neg hne]
      exact hv c' (List.mem_cons_of_mem _ hc')
    obtain ⟨hb, hwts⟩ := weightedTurn_loop hnd.2 hr
    rw [List.foldl_cons, ht, List.foldl_cons]
    refine ⟨hb, fun k => ?_⟩
    rw [hwts, SortedMap.get?_insert, List.map_cons]
    by_cases hk : k ∈ l.map (·.endpointId)
    · rw [if_pos hk, if_pos (List.mem_cons_of_mem _ hk)]
    · rw [if_neg hk]
      by_cases hkc : k = c.endpointId
      · rw [if_pos hkc, hkc, if_pos List.mem_cons_self]
      · rw [if_neg hkc, if_neg (fun h => (List.mem_cons.1 h).elim hkc hk)]

def WeightedState.current (state : WeightedState) (id : UpstreamEndpointId) : ℤ := (state.currentWeights.get? id).getD 0

/-- **A call is a round**: from weights on these endpoints only, it picks as the scheme does and leaves the weights that the
scheme leaves, one for each endpoint. -/
theorem WeightedState.select_round (l : CandidateList) {state : WeightedState} (hoff : ∀ k ∉ l.ids, state.current k = 0) :
    ∃ c ∈ l.list, ∃ state', state.select l.list = some (c, state') ∧ c.endpointId = l.rounds.pick state.current ∧
      state'.current = l.rounds.next state.current ∧ ∀ k, (state'.currentWeights.get? k).isSome = true ↔ k ∈ l.rounds.keys := by
  let kept := state.currentWeights.filterKeys (fun id => l.list.any (fun c => c.endpointId = id))
  let v : UpstreamEndpointId → ℤ := fun k => state.current k + l.rounds.weight k
  have hmem : ∀ k, l.list.any (fun c => c.endpointId = k) = true ↔ k ∈ l.ids := by
    intro k
    rw [List.any_eq_true, CandidateList.ids, List.mem_map]
    simp only [decide_eq_true_eq]
  have hv : ∀ c ∈ l.list, v c.endpointId = (kept.get? c.endpointId).getD 0 + weightIn c := by
    intro c hc
    have hin : l.list.any (fun c' => c'.endpointId = c.endpointId) = true := (hmem _).2 (List.mem_map_of_mem hc)
    change state.current c.endpointId + (l.rounds.weight c.endpointId : ℤ) = _
    rw [l.rounds_weight hc, SortedMap.get?_filterKeys, if_pos hin]
    rfl
  obtain ⟨hb, hwts⟩ := weightedTurn_loop l.distinct hv
  obtain ⟨c, hc⟩ := exists_bestItem (·.endpointId) l.nonempty
  have hl : (l.list.foldl weightedTurn (kept, none)).2 = some (c, v c.endpointId) := by
    rw [show (l.list.foldl (keep (rank (·.endpointId) v)) none) = some c from hc] at hb
    exact hb
  have hp : c.endpointId = l.rounds.pick state.current := (ofList_pick _ _ hc).symm
  have hcli : c ∈ l.list := (FirstBest.isFirstBest_of_firstBest hc).mem
  have hget : ∀ k, ((l.list.foldl weightedTurn (kept, none)).1.modify c.endpointId (· - (((l.list.map weightIn).sum : ℕ) : ℤ))).get? k =
        if k ∈ l.ids then some (l.rounds.next state.current k) else none := by
    intro k
    have hwk := hwts k
    rw [Option.map_none] at hwk
    rw [SortedMap.get?_modify, hwk]
    by_cases hk : k ∈ l.ids
    · rw [if_pos hk, if_pos (show k ∈ l.list.map (·.endpointId) from hk)]
      unfold Rounds.next
      rw [← hp, l.rounds_total]
      split_ifs with hkc
      · rfl
      · rw [sub_zero]
    · have hkc : k ≠ c.endpointId := fun e => hk (e ▸ List.mem_map_of_mem hcli)
      rw [if_neg hk, if_neg hkc, if_neg (show k ∉ l.list.map (·.endpointId) from hk), SortedMap.get?_filterKeys,
        if_neg (fun h => hk ((hmem k).1 h))]
  refine ⟨c, hcli, _, (by simp only [select, hl, Option.map_some, kept]; rfl), hp, ?_, fun k => ?_⟩
  · funext k
    change Option.getD (SortedMap.get? _ k) 0 = l.rounds.next state.current k
    rw [hget]
    split_ifs with hk
    · rw [Option.getD_some]
    · rw [Option.getD_none, l.rounds.next_of_notMem (fun h => hk (CandidateList.mem_keys.1 h)), hoff k hk]
  · rw [hget, CandidateList.mem_keys]
    split_ifs with hk
    · exact iff_of_true rfl hk
    · exact iff_of_false (by simp) hk

/-! ## Runs -/

section Runs

variable (n : UpstreamClusterName) (fallback : Bool) (l : CandidateList)

def UpstreamBalancer.weightedState (b : UpstreamBalancer) : WeightedState := (b.weightedStates.get? ⟨n, fallback⟩).getD .default

def balancerAfter (calls : ℕ) : UpstreamBalancer :=
  (fun b => (selectWeightedRoundRobin n l.list fallback b).2)^[calls] .new

def selectionAt (k : ℕ) : Except SelectionFailure EndpointSelectionCandidate :=
  (selectWeightedRoundRobin n l.list fallback (balancerAfter n fallback l k)).1

variable {n fallback l}

theorem selectWeightedRoundRobin_eq {b : UpstreamBalancer} {c : EndpointSelectionCandidate} {state' : WeightedState}
    (h : (b.weightedState n fallback).select l.list = some (c, state')) :
    selectWeightedRoundRobin n l.list fallback b =
      (.ok c, { b with weightedStates := b.weightedStates.insert ⟨n, fallback⟩ state' }) := by
  have hok : (okOr ((b.weightedState n fallback).select l.list) .panicked : Selecting _) b = (.ok (c, state'), b) := by
    rw [h]
    rfl
  change (((okOr ((b.weightedState n fallback).select l.list) .panicked : Selecting _) >>= _) b) = _
  rw [bind_of_ok _ hok]
  rfl

theorem call_round {b : UpstreamBalancer} {k : ℕ} (hb : (b.weightedState n fallback).current = l.rounds.current k) :
    ∃ c ∈ l.list, ∃ state', selectWeightedRoundRobin n l.list fallback b =
        (.ok c, { b with weightedStates := b.weightedStates.insert ⟨n, fallback⟩ state' }) ∧
      c.endpointId = l.rounds.picked k ∧ state'.current = l.rounds.current (k + 1) ∧
      ∀ id, (state'.currentWeights.get? id).isSome = true ↔ id ∈ l.rounds.keys := by
  have hoff : ∀ id ∉ l.ids, (b.weightedState n fallback).current id = 0 := by
    intro id hid
    rw [hb]
    exact l.rounds.current_of_notMem (fun h => hid (CandidateList.mem_keys.1 h)) k
  obtain ⟨c, hc, state', hsel, hp, hn, hk⟩ := WeightedState.select_round l hoff
  rw [hb] at hp hn
  exact ⟨c, hc, state', selectWeightedRoundRobin_eq hsel, hp, hn, hk⟩

theorem weightedState_insert (b : UpstreamBalancer) (state : WeightedState) :
    ({ b with weightedStates := b.weightedStates.insert ⟨n, fallback⟩ state } : UpstreamBalancer).weightedState n fallback = state := by
  unfold UpstreamBalancer.weightedState
  rw [SortedMap.get?_insert, if_pos rfl, Option.getD_some]

variable (n fallback l)

theorem balancerAfter_succ (k : ℕ) : balancerAfter n fallback l (k + 1) =
    (selectWeightedRoundRobin n l.list fallback (balancerAfter n fallback l k)).2 := Function.iterate_succ_apply' _ k _

/-- **The calls go through the rounds.** -/
theorem balancerAfter_current (k : ℕ) : ((balancerAfter n fallback l k).weightedState n fallback).current = l.rounds.current k := by
  refine l.rounds.current_of_seq (v := fun k => ((balancerAfter n fallback l k).weightedState n fallback).current) rfl
    (fun k hk => ?_) k
  obtain ⟨c, -, state', hc, -, hn, -⟩ := call_round hk
  rw [balancerAfter_succ, hc, weightedState_insert]
  exact hn

theorem selectionAt_picked (k : ℕ) : ∃ c ∈ l.list, selectionAt n fallback l k = .ok c ∧ c.endpointId = l.rounds.picked k := by
  obtain ⟨c, hc, state', hca, hp, -⟩ := call_round (balancerAfter_current n fallback l k)
  exact ⟨c, hc, by rw [selectionAt, hca], hp⟩

theorem weights_sum_zero (k : ℕ) : ∃ state, (balancerAfter n fallback l (k + 1)).weightedStates.get? ⟨n, fallback⟩ = some state ∧
    (state.currentWeights.entries.map (·.2)).sum = 0 := by
  obtain ⟨c, -, state', hc, -, hn, hk⟩ := call_round (balancerAfter_current n fallback l k)
  refine ⟨state', ?_, ?_⟩
  · rw [balancerAfter_succ, hc, SortedMap.get?_insert, if_pos rfl]
  · have hsum := l.rounds.sum_current (k + 1)
    rw [← hn] at hsum
    exact (state'.currentWeights.sum_values hk).trans hsum

end Runs

/-- **Weighted round robin is exactly proportional**: from a fresh balancer, with the same candidates in every call, the
current weights sum to zero after every call, every call selects a candidate, and in every stretch of as many calls as the
weights sum up to, wherever it starts, each candidate is selected as often as its weight says. -/
theorem weightedRoundRobin_proportional (n : UpstreamClusterName) (fallback : Bool) (l : CandidateList)
    (hweights : ∀ c ∈ l.list, 1 ≤ c.health.effectiveWeight) :
    (∀ k, ∃ state, (balancerAfter n fallback l (k + 1)).weightedStates.get? ⟨n, fallback⟩ = some state ∧
      (state.currentWeights.entries.map (·.2)).sum = 0) ∧
    (∀ k, ∃ c ∈ l.list, selectionAt n fallback l k = .ok c) ∧
    ∀ start, ∀ c ∈ l.list,
      ((Finset.range (l.list.map (·.health.effectiveWeight)).sum).filter
        (fun k => (selectionAt n fallback l (start + k)).toOption.map (·.endpointId) = some c.endpointId)).card =
      c.health.effectiveWeight := by
  have hweightIn : ∀ c ∈ l.list, weightIn c = c.health.effectiveWeight := fun c hc => max_eq_left (hweights c hc)
  refine ⟨weights_sum_zero n fallback l, fun k => ?_, fun start c hc => ?_⟩
  · obtain ⟨c, hc, hsel, -⟩ := selectionAt_picked n fallback l k
    exact ⟨c, hc, hsel⟩
  · have htot : (l.list.map (·.health.effectiveWeight)).sum = l.rounds.total := by
      rw [l.rounds_total, List.map_congr_left hweightIn]
    have hpic : ∀ k, (selectionAt n fallback l k).toOption.map (·.endpointId) = some c.endpointId ↔
        l.rounds.picked k = c.endpointId := by
      intro k
      obtain ⟨c', -, hsel, hp⟩ := selectionAt_picked n fallback l k
      rw [hsel, ← hp]
      exact Option.some_inj
    rw [htot, Finset.filter_congr (fun k _ => hpic (start + k)), ← hweightIn c hc, ← l.rounds_weight hc]
    exact l.rounds.picks_total start c.endpointId

def healthyCandidate (id : UpstreamEndpointId) (weight : ℕ) : EndpointSelectionCandidate :=
  ⟨soleKey.cluster, id, ⟨.v4 127 0 0 1, 8080⟩, ⟨none, none, 1⟩, ⟨.healthy, 0, 0, 0, weight, none, none, .empty⟩⟩

def twoCandidates : CandidateList where
  list := [healthyCandidate ⟨['a'], by decide⟩ 2, healthyCandidate ⟨['b'], by decide⟩ 1]
  nonempty := List.cons_ne_nil _ _
  distinct := by decide

/-- Two candidates of weights two and one: the first is selected twice in any three calls. -/
theorem weightedRoundRobin_proportional_two :
    (∀ c ∈ twoCandidates.list, 1 ≤ c.health.effectiveWeight) ∧ ∀ start,
      ((Finset.range 3).filter (fun k => (selectionAt soleKey.cluster false twoCandidates (start + k)).toOption.map
        (·.endpointId) = some ⟨['a'], by decide⟩)).card = 2 := by
  have hwts : ∀ c ∈ twoCandidates.list, 1 ≤ c.health.effectiveWeight := by
    simp [twoCandidates, healthyCandidate]
  refine ⟨hwts, fun start => ?_⟩
  have hsha := (weightedRoundRobin_proportional soleKey.cluster false twoCandidates hwts).2.2 start
    (healthyCandidate ⟨['a'], by decide⟩ 2) List.mem_cons_self
  exact hsha

end WayBalancer
