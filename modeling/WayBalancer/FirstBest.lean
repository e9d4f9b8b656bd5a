import Mathlib
/-!
# FirstBest — the first of the greatest elements of a list

A loop that keeps the best element so far and replaces it only by a strictly better one ends with the earliest of the
elements whose key is greatest.  Where the keys differ, the order of the list does not matter.
-/
namespace FirstBest

variable {α κ : Type} [LinearOrder κ] (key : α → κ)

/-- The best element so far after one more. -/
def keep (best : Option α) (a : α) : Option α :=
  match best with
  | none   => some a
  | some m => if key m < key a then some a else some m

def firstBest (l : List α) : Option α := l.foldl (keep key) none

/-- `a` stands in the list with only smaller keys before it and no greater one behind it. -/
def IsFirstBest (l : List α) (a : α) : Prop :=
  ∃ pre post, l = pre ++ a :: post ∧ (∀ x ∈ pre, key x < key a) ∧ ∀ x ∈ post, key x ≤ key a

variable {key}

variable {l : List α}

theorem IsFirstBest.mem {a : α} (h : IsFirstBest key l a) : a ∈ l := by
  obtain ⟨pre, post, rfl, -, -⟩ := h
  simp

theorem IsFirstBest.le {l : List α} {a x : α} (h : IsFirstBest key l a) (hx : x ∈ l) : key x ≤ key a := by
  obtain ⟨pre, post, rfl, hpre, hp⟩ := h
  rcases List.mem_append.1 hx with hx | hx
  · exact (hpre x hx).le
  · rcases List.mem_cons.1 hx with rfl | hx
    · exact le_refl _
    · exact hp x hx

theorem IsFirstBest.of_filter {p : α → Bool} {a : α} (h : IsFirstBest key (l.filter p) a) :
    ∃ pre post, l = pre ++ a :: post ∧ p a = true ∧ (∀ x ∈ pre, p x = true → key x < key a) ∧
      ∀ x ∈ post, p x = true → key x ≤ key a := by
  obtain ⟨pre, post, e, hpre, hp⟩ := h
  obtain ⟨l₁, l₂, rfl, rfl, hr⟩ := List.filter_eq_append_iff.1 e
  obtain ⟨skipped, l₃, rfl, hski, ha, rfl⟩ := List.filter_eq_cons_iff.1 hr
  refine ⟨l₁ ++ skipped, l₃, (List.append_assoc _ _ _).symm, ha, ?_, ?_⟩
  · intro x hx hpa
    rcases List.mem_append.1 hx with hx | hx
    · exact hpre x (List.mem_filter.2 ⟨hx, hpa⟩)
    · exact absurd hpa (hski x hx)
  · intro x hx hpa
    exact hp x (List.mem_filter.2 ⟨hx, hpa⟩)

theorem foldl_keep_some : ∀ {l : List α} {m : α}, ∃ a, l.foldl (keep key) (some m) = some a ∧ IsFirstBest key (m :: l) a
  | [], m => ⟨m, rfl, [], [], rfl, by simp, by simp⟩
  | b :: l, m => by
    by_cases h : key m < key b
    · obtain ⟨a, ha, hb⟩ := foldl_keep_some
      refine ⟨a, ?_, ?_⟩
      · rw [List.foldl_cons, keep, if_pos h]
        exact ha
      · have hlt : key m < key a := lt_of_lt_of_le h (hb.le List.mem_cons_self)
        obtain ⟨pre, post, e, hpre, hp⟩ := hb
        refine ⟨m :: pre, post, by rw [e, List.cons_append], ?_, hp⟩
        intro x hx
        rcases List.mem_cons.1 hx with rfl | hx
        · exact hlt
        · exact hpre x hx
    · obtain ⟨a, ha, hb⟩ := foldl_keep_some
      refine ⟨a, ?_, ?_⟩
      · rw [List.foldl_cons, keep, if_neg h]
        exact ha
      · -- the element passed over stands right behind the incumbent
        obtain ⟨pre, post, e, hpre, hp⟩ := hb
        cases pre with
        | nil =>
          obtain ⟨rfl, rfl⟩ := List.cons.inj e
          refine ⟨[], b :: l, rfl, by simp, ?_⟩
          intro x hx
          rcases List.mem_cons.1 hx with rfl | hx
          · exact not_lt.1 h
          · exact hp x hx
        | cons m' pre =>
          obtain ⟨rfl, rfl⟩ := List.cons.inj e
          have hm := hpre m List.mem_cons_self
          refine ⟨m :: b :: pre, post, rfl, ?_, hp⟩
          intro x hx
          rcases List.mem_cons.1 hx with rfl | hx
          · exact hm
          rcases List.mem_cons.1 hx with rfl | hx
          · exact lt_of_le_of_lt (not_lt.1 h) hm
          · exact hpre x (List.mem_cons_of_mem _ hx)

variable (key) in
theorem firstBest_cons (a : α) (l : List α) : ∃ b, firstBest key (a :: l) = some b ∧ IsFirstBest key (a :: l) b :=
  foldl_keep_some

theorem firstBest_eq_none : firstBest key l = none ↔ l = [] := by
  cases l with
  | nil => exact iff_of_true rfl rfl
  | cons a l =>
    obtain ⟨b, hb, -⟩ := firstBest_cons key a l
    rw [hb]
    simp

theorem isFirstBest_of_firstBest {a : α} (h : firstBest key l = some a) : IsFirstBest key l a := by
  cases l with
  | nil => cases h
  | cons b l =>
    obtain ⟨c, hc, hb⟩ := firstBest_cons key b l
    cases hc.symm.trans h
    exact hb

/-- **The loop finds the same element in every order of the list**, where no two elements share a key. -/
theorem firstBest_perm {l' : List α} (hp : l.Perm l') (hk : l.Pairwise (fun a b => key a ≠ key b)) :
    firstBest key l = firstBest key l' := by
  cases h : firstBest key l with
  | none =>
    rw [firstBest_eq_none.1 h] at hp
    exact (firstBest_eq_none.2 (List.nil_perm.1 hp)).symm
  | some a =>
    cases h' : firstBest key l' with
    | none =>
      rw [firstBest_eq_none.1 h'] at hp
      rw [List.perm_nil.1 hp] at h
      cases h
    | some b =>
      have ha := isFirstBest_of_firstBest h
      have hb := isFirstBest_of_firstBest h'
      have hkey : key a = key b := le_antisymm (hb.le (hp.mem_iff.1 ha.mem)) (ha.le (hp.mem_iff.2 hb.mem))
      have : Std.Symm (fun a b : α => key a ≠ key b) := ⟨fun _ _ h => h.symm⟩
      by_contra hne
      have hab : a ≠ b := fun e => hne (by rw [e])
      exact hk.forall ha.mem (hp.mem_iff.2 hb.mem) hab hkey

end FirstBest
