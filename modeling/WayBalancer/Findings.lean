import Mathlib
/-!
# Findings — checks that gather what they find

A validator that goes on after a finding: each check adds to a list, and its loops number what they look at or remember what
they have seen.
-/
namespace Findings

variable {α β ε σ : Type}

/-- The finding `e` where `c` holds. -/
def flag (c : Prop) [Decidable c] (e : ε) : List ε := if c then [e] else []

/-- The findings of a numbered loop, from number `i` on. -/
def eachFrom (f : ℕ → α → List ε) : ℕ → List α → List ε
  | _, []      => []
  | i, x :: xs => f i x ++ eachFrom f (i + 1) xs

def each (xs : List α) (f : ℕ → α → List ε) : List ε := eachFrom f 0 xs

/-- The findings of a numbered loop that carries a state, and the state it ends in. -/
def scanFrom (f : σ → ℕ → α → List ε × σ) : σ → ℕ → List α → List ε × σ
  | s, _, []      => ([], s)
  | s, i, x :: xs =>
    let turn := f s i x
    let rest := scanFrom f turn.2 (i + 1) xs
    (turn.1 ++ rest.1, rest.2)

def scan (s : σ) (xs : List α) (f : σ → ℕ → α → List ε × σ) : List ε × σ := scanFrom f s 0 xs

@[simp] theorem flag_eq_nil {c : Prop} [Decidable c] {e : ε} : flag c e = [] ↔ ¬c := by
  unfold flag
  split
  · simpa
  · simpa

@[simp] theorem flag_false (e : ε) : flag (false = true) e = [] := rfl

theorem eachFrom_eq_nil {f : ℕ → α → List ε} : ∀ {i : ℕ} {xs : List α}, eachFrom f i xs = [] ↔ ∀ k x, xs[k]? = some x → f (i + k) x = []
  | _, []      => by simp [eachFrom]
  | i, x :: xs => by
    rw [eachFrom, List.append_eq_nil_iff, eachFrom_eq_nil]
    constructor
    · rintro ⟨hx, hxs⟩ k y hy
      cases k with
      | zero => cases hy; exact hx
      | succ k => simpa [Nat.add_assoc, Nat.add_comm 1 k] using hxs k y hy
    · intro h
      refine ⟨h 0 x rfl, fun k y hy => ?_⟩
      simpa [Nat.add_assoc, Nat.add_comm 1 k] using h (k + 1) y hy

variable {f : ℕ → α → List ε} {xs : List α}

theorem each_eq_nil : each xs f = [] ↔ ∀ k x, xs[k]? = some x → f k x = [] := by
  rw [each, eachFrom_eq_nil]
  simp

theorem eachFrom_map {g : β → α} {f : ℕ → α → List ε} : ∀ {i : ℕ} {xs : List β},
    eachFrom f i (xs.map g) = eachFrom (fun i x => f i (g x)) i xs
  | _, []      => rfl
  | i, x :: xs => by rw [List.map_cons, eachFrom, eachFrom, eachFrom_map]

theorem each_map (g : β → α) (f : ℕ → α → List ε) (xs : List β) : each (xs.map g) f = each xs (fun i x => f i (g x)) :=
  eachFrom_map

variable {f' : ℕ → α → List ε}

theorem each_eq_nil_imp (h : ∀ k x, f k x = [] → f' k x = []) (hnil : each xs f = []) :
    each xs f' = [] := each_eq_nil.2 (fun k x hx => h k x (each_eq_nil.1 hnil k x hx))

/-- A second loop over what the first passed finds nothing exactly when its own condition holds throughout. -/
theorem each_eq_nil_iff {P : α → Prop} (h : ∀ k x, f k x = [] → (f' k x = [] ↔ P x)) (hnil : each xs f = []) :
    each xs f' = [] ↔ ∀ x ∈ xs, P x := by
  rw [each_eq_nil] at hnil ⊢
  constructor
  · intro hnil' x hx
    obtain ⟨k, hk⟩ := List.mem_iff_getElem?.1 hx
    exact (h k x (hnil k x hk)).1 (hnil' k x hk)
  · intro hP k x hk
    exact (h k x (hnil k x hk)).2 (hP x (List.mem_of_getElem? hk))

/-- A loop finds nothing where every turn that found nothing in another loop finds nothing here and leaves the same state. -/
theorem scanFrom_eq_nil_of_turns {f f' : σ → ℕ → α → List ε × σ} : ∀ {xs : List α} {s : σ} {i : ℕ},
    (∀ s i x, x ∈ xs → (f s i x).1 = [] → f' s i x = ([], (f s i x).2)) → (scanFrom f s i xs).1 = [] → (scanFrom f' s i xs).1 = []
  | [], _, _, _, _         => rfl
  | x :: xs, s, i, h, hnil => by
    obtain ⟨hx, hxs⟩ := List.append_eq_nil_iff.1 hnil
    rw [scanFrom, h s i x List.mem_cons_self hx]
    exact scanFrom_eq_nil_of_turns (fun s i y hy => h s i y (List.mem_cons_of_mem x hy)) hxs

/-- A loop that remembers a key of each thing it passes, and passes nothing whose key it remembers. -/
theorem scanFrom_distinct {κ : Type} {key : α → κ} {P : α → Prop} {f : List κ → ℕ → α → List ε × List κ}
    (h : ∀ seen i x, (f seen i x).1 = [] → P x ∧ key x ∉ seen ∧ (f seen i x).2 = key x :: seen) :
    ∀ {xs : List α} {seen : List κ} {i : ℕ}, (scanFrom f seen i xs).1 = [] →
      (∀ x ∈ xs, P x) ∧ (∀ x ∈ xs, key x ∉ seen) ∧ (xs.map key).Nodup ∧ ∀ k, k ∈ (scanFrom f seen i xs).2 ↔ k ∈ seen ∨ k ∈ xs.map key
  | [], seen, i, _ => by simp [scanFrom]
  | x :: xs, seen, i, hnil => by
    obtain ⟨hx, hxs⟩ := List.append_eq_nil_iff.1 hnil
    obtain ⟨hP, hs, hsta⟩ := h seen i x hx
    obtain ⟨hPs, hfre, hnd, hmem⟩ := scanFrom_distinct h hxs
    rw [hsta] at hfre hmem
    refine ⟨List.forall_mem_cons.2 ⟨hP, hPs⟩, List.forall_mem_cons.2 ⟨hs, fun y hy hys => ?_⟩,
      List.nodup_cons.2 ⟨fun hxm => ?_, hnd⟩, fun k => ?_⟩
    · exact hfre y hy (List.mem_cons_of_mem _ hys)
    · obtain ⟨y, hy, hyx⟩ := List.mem_map.1 hxm
      exact hfre y hy (hyx ▸ List.mem_cons_self)
    · rw [scanFrom, hsta, hmem k, List.mem_cons, List.map_cons, List.mem_cons]
      tauto

end Findings
