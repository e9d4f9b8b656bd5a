import WayBalancer.FirstBest
/-!
# SmoothWrr — smooth weighted round robin

Every key carries a current weight, at first zero.  A round adds each key's weight to it, picks a key whose current weight is
greatest, and takes the total of the weights from that key.  The current weights sum to zero and none falls to minus the total
(`neg_total_lt_current`).  After as many rounds as the total every current weight is a multiple of the total, hence zero, so
the picks repeat and every stretch of that length picks each key as often as its weight says.  `ofList` is the scheme over a
list of weighted items, several of which may share a key, with the smallest key picked among equals.
-/
namespace SmoothWrr

open Finset

variable {ι : Type} [DecidableEq ι]

/-- Weights on finitely many keys, and a choice of a key that is greatest once the weights are added. -/
structure Rounds (ι : Type) [DecidableEq ι] where
  keys : Finset ι
  weight : ι → ℕ
  weight_pos : ∀ i ∈ keys, 0 < weight i
  weight_zero : ∀ i ∉ keys, weight i = 0
  pick : (ι → ℤ) → ι
  pick_mem : ∀ c, pick c ∈ keys
  pick_max : ∀ c, ∀ i ∈ keys, c i + weight i ≤ c (pick c) + weight (pick c)

namespace Rounds

variable (r : Rounds ι)

def total : ℕ := ∑ i ∈ r.keys, r.weight i

/-- The current weights after a round. -/
def next (c : ι → ℤ) : ι → ℤ := fun i => c i + r.weight i - if i = r.pick c then (r.total : ℤ) else 0

/-- The current weights before round `n`. -/
def current : ℕ → ι → ℤ
  | 0     => fun _ => 0
  | n + 1 => r.next (current n)

/-- The key picked in round `n`. -/
def picked (n : ℕ) : ι := r.pick (r.current n)

/-- How often a key is picked in the `m` rounds from round `n` on. -/
def picks (n m : ℕ) (i : ι) : ℕ := #{k ∈ range m | r.picked (n + k) = i}

theorem total_pos : 0 < r.total := by
  refine sum_pos r.weight_pos ?_
  exact ⟨r.pick (fun _ => 0), r.pick_mem _⟩

variable {c : ι → ℤ}

theorem sum_next : ∑ i ∈ r.keys, r.next c i = ∑ i ∈ r.keys, c i := by
  unfold next
  rw [sum_sub_distrib, sum_add_distrib, sum_ite_eq' r.keys (r.pick c), if_pos (r.pick_mem c)]
  unfold total
  push_cast
  ring

/-- **The current weights sum to zero.** -/
theorem sum_current : ∀ n, ∑ i ∈ r.keys, r.current n i = 0
  | 0     => sum_const_zero
  | n + 1 => r.sum_next.trans (sum_current n)

/-- The key picked has a positive weight when it is picked: the weights then sum to the total. -/
theorem pick_pos (hc : ∑ i ∈ r.keys, c i = 0) : 0 < c (r.pick c) + r.weight (r.pick c) := by
  by_contra hneg
  have hall : ∀ i ∈ r.keys, c i + r.weight i ≤ 0 := fun i hi => (r.pick_max c i hi).trans (not_lt.1 hneg)
  have hsum : ∑ i ∈ r.keys, (c i + r.weight i) ≤ 0 := sum_nonpos hall
  have htot : ∑ i ∈ r.keys, (c i + r.weight i) = r.total := by
    rw [sum_add_distrib, hc, zero_add]
    unfold total
    push_cast
    rfl
  have hpos := r.total_pos
  omega

theorem neg_total_lt_current : ∀ n, ∀ i ∈ r.keys, -(r.total : ℤ) < r.current n i
  | 0, i, _ => by
    have hpos := r.total_pos
    change -(r.total : ℤ) < 0
    omega
  | n + 1, i, hi => by
    change -(r.total : ℤ) < r.current n i + r.weight i - if i = r.picked n then (r.total : ℤ) else 0
    by_cases h : i = r.picked n
    · have hpos := r.pick_pos (r.sum_current n)
      subst h
      change 0 < r.current n (r.picked n) + r.weight (r.picked n) at hpos
      rw [if_pos rfl]
      omega
    · have ih := neg_total_lt_current n i hi
      rw [if_neg h]
      omega

theorem picks_succ (n m : ℕ) (i : ι) : r.picks n (m + 1) i = r.picks n m i + if r.picked (n + m) = i then 1 else 0 := by
  have hfil : filter (fun k => r.picked (n + k) = i) (range (m + 1)) =
      if r.picked (n + m) = i then insert m (filter (fun k => r.picked (n + k) = i) (range m))
      else filter (fun k => r.picked (n + k) = i) (range m) := by
    rw [range_add_one, filter_insert]
  split_ifs at hfil ⊢ with h
  · have hnew : m ∉ filter (fun k => r.picked (n + k) = i) (range m) := by simp
    rw [picks, hfil, card_insert_of_notMem hnew, picks]
  · rw [picks, hfil, picks, Nat.add_zero]

/-- What a key has gained over some rounds: its weight each time, less the total for each pick. -/
theorem current_add (n : ℕ) (i : ι) : ∀ m, r.current (n + m) i = r.current n i + m * r.weight i - r.total * r.picks n m i
  | 0     => by simp [picks]
  | m + 1 => by
    have hs : r.current (n + (m + 1)) i = r.current (n + m) i + r.weight i - if i = r.picked (n + m) then (r.total : ℤ) else 0 := rfl
    rw [hs, current_add n i m, r.picks_succ]
    by_cases h : r.picked (n + m) = i
    · rw [if_pos h.symm, if_pos h]
      push_cast
      ring
    · rw [if_neg (fun e => h e.symm), if_neg h]
      push_cast
      ring

theorem next_of_notMem {i : ι} (hi : i ∉ r.keys) : r.next c i = c i := by
  have hne : i ≠ r.pick c := fun e => hi (e ▸ r.pick_mem c)
  rw [next, if_neg hne, r.weight_zero i hi, Nat.cast_zero, add_zero, sub_zero]

theorem current_of_notMem {i : ι} (hi : i ∉ r.keys) : ∀ n, r.current n i = 0
  | 0     => rfl
  | n + 1 => (r.next_of_notMem hi).trans (current_of_notMem hi n)

/-- **After as many rounds as the total, every current weight is zero again.** -/
theorem current_total : r.current r.total = fun _ => 0 := by
  funext i
  by_cases hi : i ∈ r.keys
  · have hf : ∀ j, r.current r.total j = r.total * ((r.weight j : ℤ) - r.picks 0 r.total j) := by
      intro j
      have h := r.current_add 0 j r.total
      rw [Nat.zero_add] at h
      rw [h]
      change (0 : ℤ) + _ - _ = _
      ring
    -- a multiple of the total above minus the total is not negative
    have hnon : ∀ j ∈ r.keys, 0 ≤ r.current r.total j := by
      intro j hj
      have hlow := r.neg_total_lt_current r.total j hj
      have hpos : (0 : ℤ) < r.total := by exact_mod_cast r.total_pos
      rw [hf j] at hlow ⊢
      have hge : -1 < (r.weight j : ℤ) - r.picks 0 r.total j := by
        by_contra hle
        have := mul_le_mul_of_nonneg_left (not_lt.1 hle) hpos.le
        linarith
      exact mul_nonneg hpos.le (by omega)
    exact (sum_eq_zero_iff_of_nonneg hnon).1 (r.sum_current r.total) i hi
  · exact r.current_of_notMem hi r.total

theorem current_periodic : ∀ n, r.current (n + r.total) = r.current n
  | 0     => by rw [Nat.zero_add, r.current_total]; rfl
  | n + 1 => by
    rw [Nat.succ_add]
    exact congrArg r.next (current_periodic n)

/-- **Every stretch of rounds as long as the total picks each key as often as its weight.** -/
theorem picks_total (n : ℕ) (i : ι) : r.picks n r.total i = r.weight i := by
  have h := r.current_add n i r.total
  rw [r.current_periodic n] at h
  have hpos : (r.total : ℤ) ≠ 0 := by exact_mod_cast r.total_pos.ne'
  have hmul : (r.total : ℤ) * r.picks n r.total i = r.total * r.weight i := by linarith
  exact_mod_cast mul_left_cancel₀ hpos hmul

theorem current_of_seq {v : ℕ → ι → ℤ} (hsta : v 0 = fun _ => 0)
    (hs : ∀ n, v n = r.current n → v (n + 1) = r.next (r.current n)) : ∀ n, v n = r.current n
  | 0     => hsta
  | n + 1 => hs n (current_of_seq hsta hs n)

end Rounds

/-! ## Rounds over a list of items -/

section OfList

variable {α κ : Type} [LinearOrder κ] (l : List α) (key : α → κ) (weight : α → ℕ)

/-- The weight of a key: that of all its items. -/
def weightOf (k : κ) : ℕ := ((l.filter (fun a => key a = k)).map weight).sum

/-- Items are compared by the current weight of their key, and by the smaller key among equals. -/
def rank (v : κ → ℤ) (a : α) : ℤ ×ₗ κᵒᵈ := toLex (v (key a), OrderDual.toDual (key a))

/-- The first item whose key is picked. -/
def bestItem (v : κ → ℤ) : Option α := FirstBest.firstBest (rank key v) l

variable {l key weight}

theorem le_of_rank_le {v : κ → ℤ} {a b : α} (h : rank key v a ≤ rank key v b) : v (key a) ≤ v (key b) := by
  rcases Prod.Lex.toLex_le_toLex.1 h with hlt | ⟨heq, -⟩
  · exact hlt.le
  · exact heq.le

theorem weightOf_pos (hpos : ∀ a ∈ l, 0 < weight a) {a : α} (ha : a ∈ l) : 0 < weightOf l key weight (key a) := by
  have hmem : weight a ∈ (l.filter (fun b => key b = key a)).map weight :=
    List.mem_map_of_mem (List.mem_filter.2 ⟨ha, decide_eq_true rfl⟩)
  exact lt_of_lt_of_le (hpos a ha) (List.single_le_sum (fun _ _ => Nat.zero_le _) _ hmem)

theorem weightOf_of_notMem {k : κ} (hk : k ∉ l.map key) : weightOf l key weight k = 0 := by
  have hn : l.filter (fun a => key a = k) = [] := by
    apply List.filter_eq_nil_iff.2
    intro a ha h
    exact hk (List.mem_map.2 ⟨a, ha, of_decide_eq_true h⟩)
  rw [weightOf, hn]
  rfl

theorem weightOf_of_nodup (hnd : (l.map key).Nodup) {a : α} (ha : a ∈ l) : weightOf l key weight (key a) = weight a := by
  have hone : l.filter (fun b => key b = key a) = [a] := by
    obtain ⟨pre, post, rfl⟩ := List.append_of_mem ha
    rw [List.map_append, List.map_cons, List.nodup_append, List.nodup_cons] at hnd
    obtain ⟨-, ⟨hp, -⟩, hd⟩ := hnd
    have hpre' : pre.filter (fun b => key b = key a) = [] := List.filter_eq_nil_iff.2 (fun b hb h =>
      hd _ (List.mem_map_of_mem hb) _ List.mem_cons_self (of_decide_eq_true h))
    have hp' : post.filter (fun b => key b = key a) = [] := List.filter_eq_nil_iff.2 (fun b hb h =>
      hp (List.mem_map.2 ⟨b, hb, of_decide_eq_true h⟩))
    rw [List.filter_append, hpre', List.filter_cons, if_pos (decide_eq_true rfl), hp', List.nil_append]
  rw [weightOf, hone]
  exact List.sum_singleton

theorem weightOf_cons (a : α) (l : List α) (k : κ) :
    weightOf (a :: l) key weight k = (if key a = k then weight a else 0) + weightOf l key weight k := by
  unfold weightOf
  by_cases hk : key a = k
  · rw [List.filter_cons, if_pos (decide_eq_true hk), if_pos hk, List.map_cons, List.sum_cons]
  · rw [List.filter_cons, if_neg (by simpa using hk), if_neg hk, Nat.zero_add]

theorem weightOf_map {β : Type} (f : β → α) (l : List β) :
    weightOf (l.map f) key weight = weightOf l (fun b => key (f b)) (fun b => weight (f b)) := by
  funext k
  unfold weightOf
  rw [List.filter_map, List.map_map]
  rfl

theorem sum_weightOf {S : Finset κ} : ∀ {l : List α}, (∀ a ∈ l, key a ∈ S) → ∑ k ∈ S, weightOf l key weight k = (l.map weight).sum
  | [], _ => by simp [weightOf]
  | a :: l, h => by
    rw [Finset.sum_congr rfl (fun k _ => weightOf_cons a l k), sum_add_distrib, sum_ite_eq S (key a) (fun _ => weight a),
      if_pos (h a List.mem_cons_self), sum_weightOf (fun b hb => h b (List.mem_cons_of_mem _ hb)), List.map_cons, List.sum_cons]

variable (key weight)

theorem exists_bestItem (hne : l ≠ []) {v : κ → ℤ} : ∃ a, bestItem l key v = some a := by
  apply Option.ne_none_iff_exists'.1
  intro hn
  exact hne (FirstBest.firstBest_eq_none.1 hn)

/-- The scheme over a list of items of positive weight. -/
def ofList (l : List α) (hne : l ≠ []) (hpos : ∀ a ∈ l, 0 < weight a) : Rounds κ where
  keys := (l.map key).toFinset
  weight := weightOf l key weight
  weight_pos := by
    intro k hk
    obtain ⟨a, ha, rfl⟩ := List.mem_map.1 (List.mem_toFinset.1 hk)
    exact weightOf_pos hpos ha
  weight_zero := fun k hk => weightOf_of_notMem (fun h => hk (List.mem_toFinset.2 h))
  pick c := ((bestItem l key (fun k => c k + weightOf l key weight k)).map key).getD (key (l.head hne))
  pick_mem := by
    intro c
    obtain ⟨a, ha⟩ := exists_bestItem key hne
    rw [ha]
    exact List.mem_toFinset.2 (List.mem_map_of_mem (FirstBest.isFirstBest_of_firstBest ha).mem)
  pick_max := by
    intro c k hk
    obtain ⟨a, ha⟩ := exists_bestItem key hne
    obtain ⟨b, hb, rfl⟩ := List.mem_map.1 (List.mem_toFinset.1 hk)
    rw [ha]
    exact le_of_rank_le ((FirstBest.isFirstBest_of_firstBest ha).le hb)

theorem ofList_total (hne : l ≠ []) (hpos : ∀ a ∈ l, 0 < weight a) : (ofList key weight l hne hpos).total = (l.map weight).sum :=
  sum_weightOf (fun _ ha => List.mem_toFinset.2 (List.mem_map_of_mem ha))

theorem ofList_pick {hne : l ≠ []} {hpos : ∀ a ∈ l, 0 < weight a} {c : κ → ℤ} {a : α}
    (h : bestItem l key (fun k => c k + weightOf l key weight k) = some a) : (ofList key weight l hne hpos).pick c = key a := by
  change ((bestItem l key (fun k => c k + weightOf l key weight k)).map key).getD _ = _
  rw [h]
  rfl

end OfList

end SmoothWrr
