import WayBalancer.SortedMap
/-!
# SeenWindow — keys admitted once, and forgotten by age

A guard against replays keeps each key it admitted with the time it did so.  Every attempt first forgets the keys older
than the window, then refuses a key that is still known, and otherwise notes it.  Over a clock that never runs back, two
admissions of one key therefore lie more than the window apart (`admitted_apart`), and nothing more can be said.
-/
namespace SeenWindow

variable {κ ε : Type} [LinearOrder κ]

/-- What is still known at time `now`. -/
def known (window now : ℕ) (seen : SortedMap κ ℕ) : SortedMap κ ℕ := seen.retain (fun _ seenAt => now - seenAt ≤ window)

/-- One attempt at time `now`: whether the key is admitted, and what is known after. -/
def attempt (window now : ℕ) (key : κ) (seen : SortedMap κ ℕ) : Bool × SortedMap κ ℕ :=
  if ((known window now seen).get? key).isSome then (false, known window now seen)
  else (true, (known window now seen).insert key now)

/-- The attempts of a run that were admitted. -/
def admitted (window : ℕ) (time : ε → ℕ) (key : ε → κ) : SortedMap κ ℕ → List ε → List ε
  | _, []           => []
  | seen, e :: rest =>
    let (fresh, seen) := attempt window (time e) (key e) seen
    if fresh then e :: admitted window time key seen rest else admitted window time key seen rest

variable {window : ℕ} {time : ε → ℕ} {key : ε → κ}

variable {now : ℕ} {k : κ}

theorem attempt_of_known {seenAt : ℕ} {seen : SortedMap κ ℕ} (hs : seen.get? k = some seenAt) (hage : now - seenAt ≤ window) (k' : κ) :
    (attempt window now k' seen).2.get? k = some seenAt ∧ (k' = k → (attempt window now k' seen).1 = false) := by
  have hkn : (known window now seen).get? k = some seenAt := by
    rw [known, SortedMap.get?_retain, hs]
    simpa using hage
  unfold attempt
  split
  · exact ⟨hkn, fun _ => rfl⟩
  · rename_i hfre
    have hne : k ≠ k' := by
      rintro rfl
      exact hfre (by rw [hkn]; rfl)
    exact ⟨by rw [SortedMap.get?_insert, if_neg hne, hkn], fun he => absurd he.symm hne⟩

theorem attempt_fresh {seen : SortedMap κ ℕ} (h : (attempt window now k seen).1 = true) :
    (attempt window now k seen).2.get? k = some now := by
  unfold attempt at h ⊢
  split
  · rename_i hkn
    simp [hkn] at h
  · rw [SortedMap.get?_insert, if_pos rfl]

theorem attempt_of_forgotten {seen : SortedMap κ ℕ} (h : ∀ seenAt, seen.get? k = some seenAt → window < now - seenAt) :
    (attempt window now k seen).1 = true := by
  have hn : (known window now seen).get? k = none := by
    rw [known, SortedMap.get?_retain, Option.filter_eq_none_iff]
    intro seenAt hs
    have hp := h seenAt hs
    rw [decide_eq_true_eq, not_le]
    exact hp
  rw [attempt, hn]
  rfl

/-- The window is all the guard has: once it has passed, the same key is admitted again. -/
theorem admitted_again {a b : ε} (hkey : key a = key b) (hp : time a + window < time b) :
    admitted window time key .empty [a, b] = [a, b] := by
  have hfir : (attempt window (time a) (key a) .empty).1 = true := attempt_of_forgotten (fun seenAt h => nomatch h)
  have hsec : (attempt window (time b) (key b) (attempt window (time a) (key a) .empty).2).1 = true := by
    refine attempt_of_forgotten (fun seenAt h => ?_)
    rw [← hkey, attempt_fresh hfir] at h
    have := Option.some.inj h
    omega
  simp only [admitted, hfir, hsec, if_true]

/-- Attempts with a key of their own each are all admitted. -/
theorem admitted_of_nodup : ∀ {events : List ε} {seen : SortedMap κ ℕ}, (events.map key).Nodup →
    (∀ e ∈ events, seen.get? (key e) = none) → admitted window time key seen events = events
  | [], _, _, _ => rfl
  | e :: rest, seen, hk, hnew => by
    obtain ⟨he, hk⟩ := List.nodup_cons.1 hk
    have hfre : (attempt window (time e) (key e) seen).1 = true :=
      attempt_of_forgotten (fun seenAt h => by rw [hnew e List.mem_cons_self] at h; cases h)
    have haft : ∀ e' ∈ rest, (attempt window (time e) (key e) seen).2.get? (key e') = none := by
      intro e' he'
      have hne : key e' ≠ key e := fun h => he (h ▸ List.mem_map_of_mem he')
      unfold attempt known
      split <;> simp [SortedMap.get?_insert, SortedMap.get?_retain, hne, hnew e' (List.mem_cons_of_mem _ he')]
    rw [admitted]
    simp only [hfre, if_true, admitted_of_nodup hk haft]

theorem mem_of_mem_admitted : ∀ {events : List ε} {seen : SortedMap κ ℕ} {e : ε}, e ∈ admitted window time key seen events → e ∈ events
  | [], _, _, h            => h
  | e' :: rest, seen, e, h => by
    rw [admitted] at h
    cases hfre : (attempt window (time e') (key e') seen).1 with
    | false =>
      simp only [hfre, Bool.false_eq_true, if_false] at h
      exact List.mem_cons_of_mem _ (mem_of_mem_admitted h)
    | true =>
      simp only [hfre, if_true] at h
      rcases List.mem_cons.1 h with rfl | h
      · exact List.mem_cons_self
      · exact List.mem_cons_of_mem _ (mem_of_mem_admitted h)

theorem lt_of_mem_admitted : ∀ {events : List ε} {seen : SortedMap κ ℕ} {e : ε} {seenAt : ℕ},
    events.Pairwise (fun a b => time a ≤ time b) → seen.get? (key e) = some seenAt →
      e ∈ admitted window time key seen events → seenAt + window < time e
  | e' :: rest, seen, e, seenAt, hclo, hs, h => by
    obtain ⟨hlat, hclo⟩ := List.pairwise_cons.1 hclo
    by_cases hage : time e' - seenAt ≤ window
    · obtain ⟨hsta, href⟩ := attempt_of_known hs hage (key e')
      refine lt_of_mem_admitted hclo hsta ?_
      rw [admitted] at h
      cases hfre : (attempt window (time e') (key e') seen).1 with
      | false => simpa only [hfre, Bool.false_eq_true, if_false] using h
      | true =>
        simp only [hfre, if_true] at h
        rcases List.mem_cons.1 h with rfl | h
        · exact absurd hfre (by rw [href rfl]; exact Bool.false_ne_true)
        · exact h
    · -- the attempt at `e'` is already past the window, and `e` is no earlier
      have hle : time e' ≤ time e := by
        rcases List.mem_cons.1 (mem_of_mem_admitted h) with rfl | hmem
        · exact le_rfl
        · exact hlat e hmem
      omega

/-- **Admissions of one key are more than the window apart.** -/
theorem admitted_apart : ∀ {events : List ε} {seen : SortedMap κ ℕ}, events.Pairwise (fun a b => time a ≤ time b) →
    (admitted window time key seen events).Pairwise (fun a b => key a = key b → time a + window < time b)
  | [], _, _ => .nil
  | e :: rest, seen, hclo => by
    have hr := (List.pairwise_cons.1 hclo).2
    rw [admitted]
    cases hfre : (attempt window (time e) (key e) seen).1 with
    | false =>
      simp only [hfre, Bool.false_eq_true, if_false]
      exact admitted_apart hr
    | true =>
      simp only [hfre, if_true]
      refine List.pairwise_cons.2 ⟨fun b hb hkey => ?_, admitted_apart hr⟩
      exact lt_of_mem_admitted hr (hkey ▸ attempt_fresh hfre) hb

end SeenWindow
