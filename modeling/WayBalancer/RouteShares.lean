import WayBalancer.RouteBackendPool
import WayBalancer.SmoothWrr
import WayBalancer.UpstreamHealthSpec
/-!
# RouteShares — the shares of the destinations of a route

A call of a weighted pool is a round of the smooth scheme over the cluster names: a name weighs what its entries weigh
together, and the first of them has the turn of the name.  The order of a call goes over every destination once.
-/
namespace WayBalancer

open SmoothWrr Str
open List (getElem?_map map_map mem_cons mem_cons_self mem_map mem_of_getElem? range)
open FirstBest (keep)

/-! ## The order is exhaustive -/

section MaxBy

variable {α κ : Type} [LinearOrder κ] (key : α → κ)

theorem maxBy_loop : ∀ {l : List α} {m : α}, ∃ a, l.foldl (fun best a => match best with
    | none   => some a
    | some m => if key a < key m then some m else some a) (some m) = some a ∧ (a = m ∨ a ∈ l)
  | [], m => ⟨m, rfl, .inl rfl⟩
  | b :: l, m => by
    rw [List.foldl_cons]
    by_cases h : key b < key m
    · obtain ⟨a, ha, hmem⟩ := maxBy_loop
      simp only [if_pos h]
      exact ⟨a, ha, hmem.imp_right (List.mem_cons_of_mem _)⟩
    · obtain ⟨a, ha, hmem⟩ := maxBy_loop
      simp only [if_neg h]
      refine ⟨a, ha, .inr ?_⟩
      rcases hmem with rfl | hmem
      · exact mem_cons_self
      · exact List.mem_cons_of_mem _ hmem

theorem maxBy_mem {l : List α} (hne : l ≠ []) : ∃ a ∈ l, maxBy key l = some a := by
  cases l with
  | nil => exact absurd rfl hne
  | cons m l =>
    obtain ⟨a, ha, hmem⟩ := maxBy_loop key
    exact ⟨a, mem_cons.2 hmem, ha⟩

end MaxBy

theorem exists_not_in_order (shares : List RouteShare) (order : List ℕ) (hlt : order.length < shares.length) :
    shares.zipIdx.filter (fun next => !order.contains next.2) ≠ [] := by
  intro hnil
  have hsub : range shares.length ⊆ order := by
    intro i hi
    have hi : i < shares.length := List.mem_range.1 hi
    by_contra hnot
    have hmem : (shares[i], i) ∈ shares.zipIdx.filter (fun next => !order.contains next.2) := by
      refine List.mem_filter.2 ⟨List.mem_zipIdx_iff_getElem?.2 (List.getElem?_eq_getElem hi), ?_⟩
      simpa using hnot
    rw [hnil] at hmem
    cases hmem
  have hlen := (List.nodup_range.subperm hsub).length_le
  rw [List.length_range] at hlen
  omega

/-- **The fallbacks complete the order**: they stand behind what is there, and every index is there once. -/
theorem fallbackOrder_perm {shares : List RouteShare} {total : ℤ} : ∀ (k : ℕ) (order : List ℕ)
    (weights : SortedMap UpstreamClusterName ℤ), order.Nodup → (∀ i ∈ order, i < shares.length) →
    order.length + k = shares.length →
      ∃ rest, fallbackOrder shares total k order weights = order ++ rest ∧ (order ++ rest).Perm (range shares.length)
  | 0, order, weights, hnd, hlt, hlen => by
    refine ⟨[], (List.append_nil order).symm, ?_⟩
    rw [List.append_nil]
    have hsub : order ⊆ range shares.length := fun i hi => List.mem_range.2 (hlt i hi)
    refine (hnd.subperm hsub).perm_of_length_le ?_
    rw [List.length_range]
    omega
  | k + 1, order, weights, hnd, hlt, hlen => by
    obtain ⟨next, hn, hmax⟩ := maxBy_mem (fallbackRank weights) (exists_not_in_order shares order (by omega))
    obtain ⟨hmem, hnot⟩ := List.mem_filter.1 hn
    have hnew : next.2 ∉ order := by simpa using hnot
    have hidx : next.2 < shares.length := by
      have hget : shares[next.2]? = some next.1 := List.mem_zipIdx_iff_getElem?.1 hmem
      exact (List.getElem?_eq_some_iff.1 hget).1
    obtain ⟨rest, hr, hperm⟩ := fallbackOrder_perm k (order ++ [next.2]) (weights.modify next.1.clusterName (· - total)) (by
        rw [← List.concat_eq_append]
        exact hnd.concat hnew)
      (by
        intro i hi
        rcases List.mem_append.1 hi with hi | hi
        · exact hlt i hi
        · rw [List.mem_singleton.1 hi]
          exact hidx)
      (by
        rw [List.length_append, List.length_singleton]
        omega)
    refine ⟨next.2 :: rest, ?_, ?_⟩
    · rw [fallbackOrder, hmax]
      simp only
      rw [hr, List.append_assoc, List.singleton_append]
    · rw [List.append_assoc, List.singleton_append] at hperm
      exact hperm

/-! ## A call is a round -/

/-- The shares of a route, with something to share. -/
structure ShareList where
  list : List RouteShare
  nonempty : list ≠ []
  weight_pos : ∀ s ∈ list, 0 < s.weight

namespace ShareList

theorem zipIdx_ne_nil (l : ShareList) : l.list.zipIdx ≠ [] := by
  intro h
  exact l.nonempty (List.zipIdx_eq_nil_iff.1 h)

/-- The scheme over the names, with the indexed entries as its items. -/
def rounds (l : ShareList) : Rounds UpstreamClusterName :=
  ofList (·.1.clusterName) (·.1.weight) l.list.zipIdx l.zipIdx_ne_nil
    (fun s hs => l.weight_pos s.1 (mem_of_getElem? (List.mem_zipIdx_iff_getElem?.1 hs)))

theorem mem_keys {l : ShareList} {name : UpstreamClusterName} : name ∈ l.rounds.keys ↔ name ∈ l.list.map (·.clusterName) := by
  have hns : l.list.zipIdx.map (·.1.clusterName) = l.list.map (·.clusterName) := by
    conv_rhs => rw [← List.zipIdx_map_fst 0 l.list, map_map]
    rfl
  change name ∈ (l.list.zipIdx.map (·.1.clusterName)).toFinset ↔ _
  rw [List.mem_toFinset, hns]

theorem rounds_weight (l : ShareList) : l.rounds.weight = weightOf l.list (·.clusterName) (·.weight) := by
  conv_rhs => rw [← List.zipIdx_map_fst 0 l.list, weightOf_map]
  rfl

theorem rounds_total (l : ShareList) : l.rounds.total = (l.list.map (·.weight)).sum := by
  rw [rounds, ofList_total]
  conv_rhs => rw [← List.zipIdx_map_fst 0 l.list, map_map]
  rfl

theorem off_of_current (l : ShareList) {k : ℕ} {v : UpstreamClusterName → ℤ} (hv : v = l.rounds.current k) :
    ∀ name ∉ l.list.map (·.clusterName), v name = 0 := by
  intro name hn
  rw [hv]
  exact l.rounds.current_of_notMem (fun h => hn (mem_keys.1 h)) k

end ShareList

def currentWeight (weights : SortedMap UpstreamClusterName ℤ) (name : UpstreamClusterName) : ℤ := (weights.get? name).getD 0

theorem addWeights_get? : ∀ (l : List RouteShare) (weights : SortedMap UpstreamClusterName ℤ) (name : UpstreamClusterName),
    (addWeights l weights).get? name = if name ∈ l.map (·.clusterName)
      then some (currentWeight weights name + weightOf l (·.clusterName) (·.weight) name) else weights.get? name
  | [], weights, name => by simp [addWeights]
  | s :: l, weights, name => by
    change (addWeights l (weights.insert s.clusterName (weightUnder weights s + s.weight))).get? name = _
    rw [addWeights_get? l, weightOf_cons, currentWeight, SortedMap.get?_insert, List.map_cons]
    by_cases hn : s.clusterName = name
    · subst hn
      rw [if_pos mem_cons_self, if_pos rfl, if_pos rfl]
      split_ifs with hmem
      · rw [Nat.cast_add, ← add_assoc]
        rfl
      · rw [weightOf_of_notMem hmem]
        rfl
    · rw [if_neg hn, if_neg (Ne.symm hn), Nat.zero_add]
      by_cases hmem : name ∈ l.map (·.clusterName)
      · rw [if_pos hmem, if_pos (List.mem_cons_of_mem _ hmem)]
        rfl
      · rw [if_neg hmem, if_neg (fun h => (mem_cons.1 h).elim (fun e => hn e.symm) hmem)]

variable {weights : SortedMap UpstreamClusterName ℤ}

theorem bestTurn_eq : bestTurn weights = keep (rank (·.1.clusterName) (currentWeight weights)) := by
  funext best next
  cases best with
  | none => rfl
  | some best =>
    have hlt : rank (·.1.clusterName) (currentWeight weights) best < rank (·.1.clusterName) (currentWeight weights) next ↔
        weightUnder weights best.1 < weightUnder weights next.1 ∨
          weightUnder weights next.1 = weightUnder weights best.1 ∧ next.1.clusterName < best.1.clusterName := by
      unfold rank
      rw [Prod.Lex.toLex_lt_toLex, eq_comm]
      rfl
    unfold bestTurn keep
    simp only [hlt]

theorem bestItem_first {l : List RouteShare} {v : UpstreamClusterName → ℤ} {best : RouteShare × ℕ}
    (h : bestItem l.zipIdx (·.1.clusterName) v = some best) :
    l[best.2]? = some best.1 ∧ best.1.clusterName ∉ (l.take best.2).map (·.clusterName) := by
  obtain ⟨pre, post, hspl, hpre, -⟩ := FirstBest.isFirstBest_of_firstBest h
  have hget : l[best.2]? = some best.1 := by
    apply List.mem_zipIdx_iff_getElem?.1
    rw [hspl]
    exact List.mem_append_right _ mem_cons_self
  have hidx : best.2 = pre.length := by
    have hat : l.zipIdx[pre.length]? = some best := by
      rw [hspl, List.getElem?_append_right (le_refl _), Nat.sub_self]
      rfl
    rw [List.getElem?_zipIdx] at hat
    obtain ⟨s, -, rfl⟩ := Option.map_eq_some_iff.1 hat
    exact Nat.zero_add _
  refine ⟨hget, fun hmem => ?_⟩
  obtain ⟨s, hs, hn⟩ := mem_map.1 hmem
  obtain ⟨j, hj⟩ := List.mem_iff_getElem?.1 hs
  rw [List.getElem?_take] at hj
  by_cases hlt : j < best.2
  · -- an earlier entry of the name would rank as high
    rw [if_pos hlt] at hj
    have hat : l.zipIdx[j]? = some (s, j) := by rw [List.getElem?_zipIdx, hj, Option.map_some, Nat.zero_add]
    rw [hspl, List.getElem?_append_left (by omega)] at hat
    have hbef := hpre _ (mem_of_getElem? hat)
    have hsa : rank (·.1.clusterName) v (s, j) = rank (·.1.clusterName) v best := by
      simp only [rank, hn]
    rw [hsa] at hbef
    exact lt_irrefl _ hbef
  · rw [if_neg hlt] at hj
    cases hj

/-- The weights a call works with: those of the names of the route, each with its own weight added. -/
theorem currentWeight_addWeights {l : ShareList} (hoff : ∀ name ∉ l.list.map (·.clusterName), currentWeight weights name = 0)
    (name : UpstreamClusterName) :
    currentWeight (addWeights l.list (weights.filterKeys (fun name => l.list.any (fun s => s.clusterName = name)))) name =
      currentWeight weights name + l.rounds.weight name := by
  have hany : l.list.any (fun s => s.clusterName = name) = true ↔ name ∈ l.list.map (·.clusterName) := by
    rw [List.any_eq_true, mem_map]
    simp only [decide_eq_true_eq]
  rw [currentWeight, addWeights_get?, currentWeight, SortedMap.get?_filterKeys, l.rounds_weight]
  simp only [hany]
  split_ifs with hn
  · rfl
  · rw [hoff name hn, weightOf_of_notMem hn]
    rfl

/-- **A call is a round**: from weights on the names of the route only, the order starts with the first entry of the name the
scheme picks, it is exhaustive, and the weights are those that the scheme leaves. -/
theorem routeDestinationOrder_round {l : ShareList} {state : RouteDestinationWeightedState}
    (hoff : ∀ name ∉ l.list.map (·.clusterName), currentWeight state.currentWeights name = 0) :
    ∃ s i rest, (selectWeightedRouteDestinationOrder l.list state).1 = i :: rest ∧ (i :: rest).Perm (range l.list.length) ∧
      l.list[i]? = some s ∧ s.clusterName ∉ (l.list.take i).map (·.clusterName) ∧
      s.clusterName = l.rounds.pick (currentWeight state.currentWeights) ∧
      currentWeight (selectWeightedRouteDestinationOrder l.list state).2.currentWeights =
        l.rounds.next (currentWeight state.currentWeights) := by
  let kept := state.currentWeights.filterKeys (fun name => l.list.any (fun s => s.clusterName = name))
  have hadd : currentWeight (addWeights l.list kept) = fun name => currentWeight state.currentWeights name + l.rounds.weight name :=
    funext (currentWeight_addWeights hoff)
  obtain ⟨best, hb⟩ := exists_bestItem (·.1.clusterName) l.zipIdx_ne_nil
  have hidx : bestWeightedRouteDestinationIndex l.list (addWeights l.list kept) = some best := by
    rw [bestWeightedRouteDestinationIndex, bestTurn_eq]
    exact hb
  obtain ⟨hget, hfir⟩ := bestItem_first hb
  have hp : best.1.clusterName = l.rounds.pick (currentWeight state.currentWeights) := by
    rw [hadd] at hb
    exact (ofList_pick _ _ hb).symm
  have hlt : best.2 < l.list.length := (List.getElem?_eq_some_iff.1 hget).1
  obtain ⟨rest, hr, hperm⟩ := fallbackOrder_perm (l.list.length - 1) [best.2]
    ((addWeights l.list kept).modify best.1.clusterName (· - (((l.list.map (·.weight)).sum : ℕ) : ℤ))) (List.nodup_singleton _)
    (fun i hi => by rw [List.mem_singleton.1 hi]; exact hlt) (by rw [List.length_singleton]; omega)
  have hord : selectWeightedRouteDestinationOrder l.list state = (best.2 :: rest, { state with
      totalWeight := (((l.list.map (·.weight)).sum : ℕ) : ℤ)
      currentWeights := (addWeights l.list kept).modify best.1.clusterName (· - (((l.list.map (·.weight)).sum : ℕ) : ℤ)) }) := by
    unfold selectWeightedRouteDestinationOrder
    simp only [show bestWeightedRouteDestinationIndex l.list (addWeights l.list (state.currentWeights.filterKeys
      (fun name => l.list.any (fun s => s.clusterName = name)))) = some best from hidx]
    exact congrArg (·, _) hr
  refine ⟨best.1, best.2, rest, by rw [hord], hperm, hget, hfir, hp, ?_⟩
  rw [hord]
  funext name
  change (SortedMap.get? (SortedMap.modify _ _ _) name).getD 0 = _
  have hn : ((addWeights l.list kept).get? name).getD 0 = currentWeight state.currentWeights name + l.rounds.weight name :=
    congrFun hadd name
  rw [SortedMap.get?_modify, Rounds.next, ← hp, l.rounds_total, ← hn]
  by_cases hbes : name = best.1.clusterName
  · -- the name that was picked is there
    have hmem : name ∈ l.list.map (·.clusterName) := hbes ▸ List.mem_map_of_mem (mem_of_getElem? hget)
    rw [if_pos hbes, if_pos hbes, addWeights_get?, if_pos hmem]
    rfl
  · rw [if_neg hbes, if_neg hbes, sub_zero]

/-! ## What a call leaves alone -/

namespace WeightedPool

theorem shares_mapPools (p : WeightedPool) {f : ℕ → SinglePool → SinglePool}
    (hf : ∀ i d, p.destinations[i]? = some d → (f i d.pool).clusterName = d.pool.clusterName) : (p.mapPools f).shares = p.shares := by
  unfold shares mapPools
  apply List.ext_getElem?
  intro i
  rw [getElem?_map, getElem?_map, List.getElem?_mapIdx]
  cases hd : p.destinations[i]? with
  | none => rfl
  | some d => simp only [Option.map_some, WeightedRouteDestination.share, hf i d hd]

theorem shares_withPool {p : WeightedPool} {index : ℕ} {d : WeightedRouteDestination} (hd : p.destinations[index]? = some d)
    {pool : SinglePool} (hp : pool.clusterName = d.pool.clusterName) : (p.withPool index pool).shares = p.shares := by
  refine p.shares_mapPools (fun i d' hd' => ?_)
  by_cases hi : i = index
  · rw [if_pos hi, hp]
    rw [hi, hd] at hd'
    cases hd'
    rfl
  · rw [if_neg hi]

end WeightedPool

section Selection

variable (affinityScore : Text → EndpointSelectionCandidate → ℤ)

theorem selectBackend_cluster (p : SinglePool) (context : SelectionContext) :
    (p.selectBackend affinityScore context).2.clusterName = p.clusterName ∧
      ∀ selected, (p.selectBackend affinityScore context).1 = .ok selected → selected.clusterName = p.clusterName := by
  unfold SinglePool.selectBackend
  rcases selectEndpoint affinityScore p.registry p.clusterName p.selectionPolicy context p.balancer with ⟨_ | _, _⟩
  · exact ⟨rfl, fun _ h => by cases h⟩
  · exact ⟨rfl, fun _ h => by cases h; rfl⟩

theorem tryInOrder_frame (context : SelectionContext) : ∀ (order : List ℕ) (rank : ℕ) (lastError : Option UpstreamSelectionError)
    (p : WeightedPool), (p.tryInOrder affinityScore context rank order lastError).2.shares = p.shares ∧
      (p.tryInOrder affinityScore context rank order lastError).2.state.currentWeights = p.state.currentWeights
  | [], _, _, _ => ⟨rfl, rfl⟩
  | index :: order, rank, lastError, p => by
    unfold WeightedPool.tryInOrder
    cases hd : p.destinations[index]? with
    | none => exact ⟨rfl, rfl⟩
    | some d =>
      have hcl := (selectBackend_cluster affinityScore d.pool context).1
      rcases hsel : d.pool.selectBackend affinityScore context with ⟨result, pool⟩
      rw [hsel] at hcl
      have hsha := WeightedPool.shares_withPool hd hcl
      -- the rest of the order, after a destination that failed
      have hr : ∀ error, _ := fun error => tryInOrder_frame context order (rank + 1) error (p.withPool index pool)
      rcases result with (error | _) | selected
      · cases error with
        | noEligibleEndpoints cluster =>
          simp only [hsel]
          exact ⟨(hr _).1.trans hsha, (hr _).2⟩
        | health error =>
          simp only [hsel]
          exact ⟨(hr _).1.trans hsha, (hr _).2⟩
      · simp only [hsel]
        exact ⟨hsha, rfl⟩
      · simp only [hsel]
        exact ⟨hsha, rfl⟩

variable {p : WeightedPool} {d : WeightedRouteDestination}

theorem tryInOrder_first {context : SelectionContext} {order : List ℕ} {index : ℕ} {selected : SelectedRouteBackend}
    (hd : p.destinations[index]? = some d) (hs : (d.pool.selectBackend affinityScore context).1 = .ok selected) :
    (p.tryInOrder affinityScore context 0 (index :: order) none).1 = .ok selected := by
  unfold WeightedPool.tryInOrder
  rcases hsel : d.pool.selectBackend affinityScore context with ⟨r, pool⟩
  rw [hsel] at hs
  subst hs
  simp only [hd, hsel]

variable {s : RouteShare}

theorem firstIndex_unique {l : List RouteShare} {i j : ℕ} {t : RouteShare} (hs : l[j]? = some s) (ht : l[i]? = some t)
    (hn : s.clusterName = t.clusterName) (hsfi : s.clusterName ∉ (l.take j).map (·.clusterName))
    (htfi : t.clusterName ∉ (l.take i).map (·.clusterName)) : j = i := by
  -- the entry with the smaller index stands among those before the other
  have hbef : ∀ {a b : ℕ} {u : RouteShare}, a < b → l[a]? = some u → u.clusterName ∈ (l.take b).map (·.clusterName) := by
    intro a b u hab hu
    apply List.mem_map_of_mem
    apply mem_of_getElem? (i := a)
    rw [List.getElem?_take, if_pos hab, hu]
  rcases lt_trichotomy j i with hlt | heq | hgt
  · exact absurd (hn ▸ hbef hlt hs) htfi
  · exact heq
  · exact absurd (hn.symm ▸ hbef hgt ht) hsfi

theorem getElem?_shares {i : ℕ} (hd : p.destinations[i]? = some d) : p.shares[i]? = some d.share := by
  rw [WeightedPool.shares, getElem?_map, hd, Option.map_some]

theorem share_getElem? {i : ℕ} (h : p.shares[i]? = some s) : ∃ d, p.destinations[i]? = some d ∧ d.share = s := by
  rw [WeightedPool.shares, getElem?_map, Option.map_eq_some_iff] at h
  exact h

/-! ## Runs -/

namespace WeightedPool

theorem shares_ne_nil (p : WeightedPool) : p.shares ≠ [] := fun e => p.nonempty (List.map_eq_nil_iff.1 e)

theorem shares_weight_pos (p : WeightedPool) : ∀ s ∈ p.shares, 0 < s.weight := by
  intro s hs
  obtain ⟨d, hd, rfl⟩ := mem_map.1 hs
  apply Nat.pos_of_ne_zero
  intro h
  exact p.weight_ne_zero d hd (UInt16.toNat_inj.1 h)

def shareList (p : WeightedPool) : ShareList := ⟨p.shares, p.shares_ne_nil, p.shares_weight_pos⟩

def nextOrder (p : WeightedPool) : List ℕ := (selectWeightedRouteDestinationOrder p.shares p.state).1

/-- The pool as call number `k`, from zero, finds it; before each call the destinations' own pools may have changed. -/
def atCall (contexts : ℕ → SelectionContext) (changes : ℕ → ℕ → SinglePool → SinglePool) (p : WeightedPool) : ℕ → WeightedPool
  | 0     => p.mapPools (changes 0)
  | k + 1 => ((atCall contexts changes p k).selectBackend affinityScore (contexts k)).2.mapPools (changes (k + 1))

end WeightedPool

section Run

variable (contexts : ℕ → SelectionContext) {changes : ℕ → ℕ → SinglePool → SinglePool} {p : WeightedPool}

variable {q : WeightedPool}

theorem shares_selectBackend {context : SelectionContext} :
    (q.selectBackend affinityScore context).2.shares = q.shares := (tryInOrder_frame affinityScore context _ 0 none _).1

theorem currentWeights_selectBackend {context : SelectionContext} : (q.selectBackend affinityScore context).2.state.currentWeights =
      (selectWeightedRouteDestinationOrder q.shares q.state).2.currentWeights :=
  (tryInOrder_frame affinityScore context _ 0 none _).2

variable (hchanges : ∀ k i pool, (changes k i pool).clusterName = pool.clusterName)
include hchanges

theorem shares_atCall : ∀ k, (p.atCall affinityScore contexts changes k).shares = p.shares
  | 0     => p.shares_mapPools (fun i d _ => hchanges 0 i d.pool)
  | k + 1 => by
    rw [WeightedPool.atCall, WeightedPool.shares_mapPools _ (fun i d _ => hchanges (k + 1) i d.pool), shares_selectBackend]
    exact shares_atCall k

variable (hstart : p.state.currentWeights = .empty)
include hstart

/-- **The calls go through the rounds.** -/
theorem currentWeight_atCall (k : ℕ) :
    currentWeight (p.atCall affinityScore contexts changes k).state.currentWeights = p.shareList.rounds.current k := by
  refine p.shareList.rounds.current_of_seq
    (v := fun k => currentWeight (p.atCall affinityScore contexts changes k).state.currentWeights) ?_ (fun k hk => ?_) k
  · change currentWeight p.state.currentWeights = _
    rw [hstart]
    rfl
  · change currentWeight
      ((p.atCall affinityScore contexts changes k).selectBackend affinityScore (contexts k)).2.state.currentWeights = _
    rw [currentWeights_selectBackend, shares_atCall affinityScore contexts hchanges]
    obtain ⟨-, -, -, -, -, -, -, -, hn⟩ := routeDestinationOrder_round (p.shareList.off_of_current hk)
    rw [hk] at hn
    exact hn

/-- The order of call number `k`: exhaustive, and first the first entry of the name the scheme picks. -/
theorem nextOrder_atCall (k : ℕ) : ∃ s i rest, (p.atCall affinityScore contexts changes k).nextOrder = i :: rest ∧
      (i :: rest).Perm (range p.shares.length) ∧ p.shares[i]? = some s ∧
      s.clusterName ∉ (p.shares.take i).map (·.clusterName) ∧ s.clusterName = p.shareList.rounds.picked k := by
  have hcur := currentWeight_atCall affinityScore contexts hchanges hstart k
  obtain ⟨s, i, rest, hord, hperm, hget, hfir, hp, -⟩ :=
    routeDestinationOrder_round (p.shareList.off_of_current hcur)
  rw [hcur] at hp
  refine ⟨s, i, rest, ?_, hperm, hget, hfir, hp⟩
  rw [WeightedPool.nextOrder, shares_atCall affinityScore contexts hchanges]
  exact hord

theorem head?_nextOrder_iff {i : ℕ} (hd : p.destinations[i]? = some d) (k : ℕ) :
    (p.atCall affinityScore contexts changes k).nextOrder.head? = some i ↔
      p.shareList.rounds.picked k = d.pool.clusterName ∧ d.pool.clusterName ∉ (p.shares.take i).map (·.clusterName) := by
  obtain ⟨s, j, rest, hord, -, hget, hfir, hp⟩ := nextOrder_atCall affinityScore contexts hchanges hstart k
  rw [hord, ← hp]
  constructor
  · intro hij
    cases hij
    rw [getElem?_shares hd] at hget
    cases hget
    exact ⟨rfl, hfir⟩
  · rintro ⟨hn, hear⟩
    exact congrArg some (firstIndex_unique hget (getElem?_shares hd) hn hfir hear)

theorem selectBackend_first (k : ℕ) (hsv : ∀ d ∈ (p.atCall affinityScore contexts changes k).destinations,
      ∃ selected, (d.pool.selectBackend affinityScore (contexts k)).1 = .ok selected) :
    ∃ i d selected, (p.atCall affinityScore contexts changes k).nextOrder.head? = some i ∧ p.destinations[i]? = some d ∧
      ((p.atCall affinityScore contexts changes k).selectBackend affinityScore (contexts k)).1 = .ok selected ∧
      selected.clusterName = d.pool.clusterName := by
  obtain ⟨s, i, rest, hord, -, hget, -⟩ := nextOrder_atCall affinityScore contexts hchanges hstart k
  have hsha := shares_atCall affinityScore contexts hchanges k (p := p)
  generalize p.atCall affinityScore contexts changes k = q at hord hsv hsha ⊢
  obtain ⟨d, hd, hds⟩ := share_getElem? hget
  obtain ⟨d', hd', hds'⟩ := share_getElem? (hsha ▸ hget)
  obtain ⟨selected, hsel⟩ := hsv d' (mem_of_getElem? hd')
  refine ⟨i, d, selected, by rw [hord]; rfl, hd, ?_, ?_⟩
  · change (WeightedPool.tryInOrder affinityScore (contexts k) 0 q.nextOrder none _).1 = _
    rw [hord]
    exact tryInOrder_first affinityScore hd' hsel
  · rw [(selectBackend_cluster affinityScore d'.pool (contexts k)).2 selected hsel]
    have hs : d'.share = d.share := hds'.trans hds.symm
    exact congrArg RouteShare.clusterName hs

end Run

end Selection

theorem fromWeightedDestinations_state {destinations : List (UInt16 × RouteBackendPool)} {p : WeightedPool}
    (h : fromWeightedDestinations destinations = .ok p) : p.state.currentWeights = .empty := by
  unfold fromWeightedDestinations at h
  split at h
  · cases h
  · split at h
    · cases h
    · cases h
      rfl

def WeightedPool.clusterWeight (p : WeightedPool) (clusterName : UpstreamClusterName) : ℕ :=
  ((p.destinations.filter (fun d => d.pool.clusterName = clusterName)).map (·.weight.toNat)).sum

theorem WeightedPool.rounds_total (p : WeightedPool) : p.shareList.rounds.total = (p.destinations.map (·.weight.toNat)).sum := by
  rw [p.shareList.rounds_total]
  change (p.shares.map (·.weight)).sum = _
  rw [WeightedPool.shares, map_map]
  rfl

theorem WeightedPool.rounds_weight (p : WeightedPool) (clusterName : UpstreamClusterName) :
    p.shareList.rounds.weight clusterName = p.clusterWeight clusterName := by
  rw [p.shareList.rounds_weight]
  change weightOf (p.destinations.map (·.share)) (·.clusterName) (·.weight) _ = _
  rw [weightOf_map]
  rfl

/-- **Each cluster of a route gets the share of its entries, through the first of them**: from an accepted list, whatever
happens to the destinations' own pools between the calls, every call orders all the destinations; in every stretch of as many
calls as the weights sum up to, the first entry of a cluster is the first choice as often as the entries of the cluster weigh
together, and its other entries never; and where every destination can serve a call, the first choice does. -/
theorem routeShares_exact (affinityScore : Text → EndpointSelectionCandidate → ℤ)
    (destinations : List (UInt16 × RouteBackendPool)) (p : WeightedPool) (hp : fromWeightedDestinations destinations = .ok p)
    (contexts : ℕ → SelectionContext) (changes : ℕ → ℕ → SinglePool → SinglePool)
    (hchanges : ∀ k i pool, (changes k i pool).clusterName = pool.clusterName) :
    (∀ k, (p.atCall affinityScore contexts changes k).nextOrder.Perm (range p.destinations.length)) ∧
    (∀ start i d, p.destinations[i]? = some d →
      ((Finset.range (p.destinations.map (·.weight.toNat)).sum).filter
        (fun k => (p.atCall affinityScore contexts changes (start + k)).nextOrder.head? = some i)).card =
      if d.pool.clusterName ∈ (p.destinations.take i).map (·.pool.clusterName) then 0 else p.clusterWeight d.pool.clusterName) ∧
    ∀ k, (∀ d ∈ (p.atCall affinityScore contexts changes k).destinations,
        ∃ selected, (d.pool.selectBackend affinityScore (contexts k)).1 = .ok selected) →
      ∃ i d selected, (p.atCall affinityScore contexts changes k).nextOrder.head? = some i ∧ p.destinations[i]? = some d ∧
        ((p.atCall affinityScore contexts changes k).selectBackend affinityScore (contexts k)).1 = .ok selected ∧
        selected.clusterName = d.pool.clusterName := by
  have hstart := fromWeightedDestinations_state hp
  refine ⟨fun k => ?_, fun start i d hd => ?_, fun k => selectBackend_first affinityScore contexts hchanges hstart k⟩
  · obtain ⟨s, i, rest, hord, hperm, -⟩ := nextOrder_atCall affinityScore contexts hchanges hstart k
    rw [hord, ← show p.shares.length = p.destinations.length from List.length_map _]
    exact hperm
  · have hns : (p.destinations.take i).map (·.pool.clusterName) = (p.shares.take i).map (·.clusterName) := by
      rw [WeightedPool.shares, ← List.map_take, map_map]
      rfl
    have hhead := fun k => head?_nextOrder_iff affinityScore contexts hchanges hstart hd (start + k)
    rw [hns, Finset.filter_congr (fun k _ => hhead k), ← p.rounds_total]
    by_cases hear : d.pool.clusterName ∈ (p.shares.take i).map (·.clusterName)
    · -- a later entry of a cluster never has its turn
      rw [if_pos hear, Finset.card_eq_zero]
      apply Finset.filter_eq_empty_iff.2
      intro k _ hpic
      exact hpic.2 hear
    · rw [if_neg hear, Finset.filter_congr (fun k _ => and_iff_left hear), ← p.rounds_weight]
      exact p.shareList.rounds.picks_total start d.pool.clusterName

def solePool (clusterName : UpstreamClusterName) : SinglePool where
  clusterName := clusterName
  registry := ((UpstreamHealthRegistry.new .default).insertCluster ⟨clusterName, [soleEndpoint], List.nodup_singleton _⟩).2
  balancer := .new
  selectionPolicy := ⟨.powerOfTwoChoices, .disabled, .fail, none⟩

def soleContext : SelectionContext := ⟨none, none, none, 0⟩

def stable : UpstreamClusterName := ⟨"stable".toList, by decide⟩

def canary : UpstreamClusterName := ⟨"canary".toList, by decide⟩

/-- Of two entries of one weight that name one cluster, each able to serve every call, the second is never the first choice. -/
theorem routeShares_repeated :
    ∃ p, fromWeightedDestinations [(1, .single (solePool stable)), (1, .single (solePool stable))] = .ok p ∧
      p.destinations.map (·.weight.toNat) = [1, 1] ∧
      (∀ d ∈ p.destinations, ∀ balancer, ∃ selected,
        (({ d.pool with balancer } : SinglePool).selectBackend (fun _ _ => 0) soleContext).1 = .ok selected) ∧
      ((Finset.range 2).filter (fun k =>
        (p.atCall (fun _ _ => 0) (fun _ => soleContext) (fun _ _ pool => pool) k).nextOrder.head? = some 1)).card ≠ 1 := by
  refine ⟨_, rfl, by decide +kernel, ?_, by decide +kernel⟩
  intro d hd balancer
  have hall : ∀ d ∈ [(⟨1, solePool stable⟩ : WeightedRouteDestination), ⟨1, solePool stable⟩], d.pool = solePool stable := by simp
  have hp : d.pool = solePool stable := hall d hd
  rw [hp]
  exact ⟨_, rfl⟩

theorem routeShares_exact_canary :
    ∃ p, fromWeightedDestinations [(3, .single (solePool stable)), (2, .single (solePool canary))] = .ok p ∧
      p.destinations.map (·.pool.clusterName) = [canary, stable] ∧
      ∀ start, ((Finset.range 5).filter (fun k =>
        (p.atCall (fun _ _ => 0) (fun _ => soleContext) (fun _ _ pool => pool) (start + k)).nextOrder.head? = some 0)).card = 2 := by
  refine ⟨_, rfl, by decide +kernel, fun start => ?_⟩
  exact (routeShares_exact (fun _ _ => 0) [(3, .single (solePool stable)), (2, .single (solePool canary))] _ rfl
    (fun _ => soleContext) (fun _ _ pool => pool) (fun _ _ _ => rfl)).2.1 start 0 _ rfl

end WayBalancer
