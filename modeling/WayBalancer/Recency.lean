import Mathlib.Data.List.Basic
import Mathlib.Data.List.MinMax
import Mathlib.Order.Basic
/-!
# Recency — keys by last use, and the shortest prefix to drop

A sequence of uses orders the used keys by their last use, the least recent first: each use moves its key to the back.
`shortestDrop` is the first suffix of a list that passes a test, which is what dropping from the front one by one until it
passes comes to.
-/
namespace Recency

variable {κ : Type} [DecidableEq κ]

/-- A use moves its key to the back. -/
def touch (order : List κ) (k : κ) : List κ := order.filter (· ≠ k) ++ [k]

/-- The used keys, least recently used first. -/
def recency (uses : List κ) : List κ := uses.foldl touch []

theorem touch_nodup {order : List κ} (h : order.Nodup) (k : κ) : (touch order k).Nodup := by
  refine List.nodup_append.2 ⟨h.filter _, by simp, ?_⟩
  intro a ha b hb hab
  rw [List.mem_singleton.1 hb] at hab
  exact of_decide_eq_true (List.mem_filter.1 ha).2 hab

theorem mem_touch {order : List κ} {k a : κ} : a ∈ touch order k ↔ a ∈ order ∨ a = k := by
  unfold touch
  rw [List.mem_append, List.mem_filter, List.mem_singleton, decide_eq_true_eq]
  constructor
  · rintro (⟨h, -⟩ | h)
    · exact .inl h
    · exact .inr h
  · rintro (h | h)
    · by_cases hk : a = k
      · exact .inr hk
      · exact .inl ⟨h, hk⟩
    · exact .inr h

/-- What is left of a list once elements are dropped from its front until it passes. -/
def shortestDrop {α : Type} (fits : List α → Bool) : List α → List α
  | []        => []
  | a :: rest => if fits (a :: rest) then a :: rest else shortestDrop fits rest

/-- **No shorter prefix would do.** -/
theorem shortestDrop_spec {α : Type} (fits : List α → Bool) : ∀ (l : List α), (∃ n ≤ l.length, fits (l.drop n) = true) →
    ∃ n ≤ l.length, shortestDrop fits l = l.drop n ∧ fits (l.drop n) = true ∧ ∀ j < n, fits (l.drop j) = false
  | [], ⟨n, hn, hf⟩ => ⟨0, le_refl _, rfl, by simpa using hf, fun j hj => absurd hj (Nat.not_lt_zero j)⟩
  | a :: rest, ⟨n, hn, hf⟩ => by
    by_cases h : fits (a :: rest) = true
    · exact ⟨0, Nat.zero_le _, by rw [shortestDrop, if_pos h]; rfl, h, fun j hj => absurd hj (Nat.not_lt_zero j)⟩
    · have hr : ∃ n ≤ rest.length, fits (rest.drop n) = true := by
        cases n with
        | zero => exact absurd hf h
        | succ n => exact ⟨n, by simpa using hn, hf⟩
      obtain ⟨m, hm, hd, hfit, hmin⟩ := shortestDrop_spec fits rest hr
      refine ⟨m + 1, by simpa using hm, by rw [shortestDrop, if_neg h, hd]; rfl, hfit, fun j hj => ?_⟩
      cases j with
      | zero => exact Bool.eq_false_iff.2 h
      | succ j => exact hmin j (by omega)

theorem argmin_eq_head {α β : Type} [LinearOrder β] {f : α → β} {l rest : List α} {a : α} (hp : l.Perm (a :: rest))
    (h : ∀ b ∈ rest, f a < f b) : l.argmin f = some a := by
  cases hm : l.argmin f with
  | none =>
    rw [List.argmin_eq_none] at hm
    rw [hm] at hp
    exact absurd hp.length_eq (by simp)
  | some m =>
    have hmem : m ∈ a :: rest := hp.mem_iff.1 (List.argmin_mem hm)
    rcases List.mem_cons.1 hmem with rfl | hr
    · rfl
    · have hle : f m ≤ f a := List.le_of_mem_argmin (hp.mem_iff.2 (by simp)) hm
      exact absurd hle (not_le_of_gt (h m hr))

end Recency
