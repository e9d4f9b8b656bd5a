import Mathlib
/-!
# FixedWindow — arrivals counted in windows of one width

A window opens at an arrival and lets at most `limit` arrivals through; the first arrival at least `width` after its start
opens the next one.  Two windows are at least `width` apart, so a half-open interval of that width meets at most two of them
(`length_interval_le`).
-/
namespace FixedWindow

/-- An open window: its start, and the arrivals it has let through. -/
structure Window where
  start : ℕ
  count : ℕ

/-- An arrival: its time, the start of the window it fell into, and whether it was let through. -/
structure Arrival where
  time : ℕ
  start : ℕ
  admitted : Bool
deriving DecidableEq, Repr

variable (limit width : ℕ)

/-- The window an arrival falls into. -/
def roll (now : ℕ) : Option Window → Window
  | none   => ⟨now, 0⟩
  | some w => if width ≤ now - w.start then ⟨now, 0⟩ else w

/-- The window once an arrival in it is let through or turned away. -/
def Window.serve (w : Window) : Window := if w.count < limit then ⟨w.start, w.count + 1⟩ else w

/-- Every arrival in turn. -/
def run : Option Window → List ℕ → List Arrival
  | _, [] => []
  | w, now :: times =>
    let rolled := roll width now w
    ⟨now, rolled.start, decide (rolled.count < limit)⟩ :: run (some (rolled.serve limit)) times

variable {limit width}

theorem Window.serve_start (w : Window) : (w.serve limit).start = w.start := by
  unfold serve
  split <;> rfl

theorem roll_some (hwid : 0 < width) (now : ℕ) (w : Window) :
    roll width now (some w) = w ∨ (roll width now (some w) = ⟨now, 0⟩ ∧ w.start + width ≤ now) := by
  by_cases h : width ≤ now - w.start
  · exact .inr ⟨if_pos h, by omega⟩
  · exact .inl (if_neg h)

/-! ## Where the windows lie -/

theorem start_of_mem (hwid : 0 < width) : ∀ {times : List ℕ} {w : Window} {a : Arrival},
    a ∈ run limit width (some w) times → a.start = w.start ∨ w.start + width ≤ a.start
  | now :: times, w, a, ha => by
    have hrol := roll_some hwid now w
    rcases List.mem_cons.1 ha with rfl | ha
    · rcases hrol with e | ⟨e, hlat⟩
      · exact .inl (by rw [e])
      · exact .inr (by rw [e]; exact hlat)
    · have hr := start_of_mem hwid ha
      rw [Window.serve_start] at hr
      rcases hrol with e | ⟨e, hlat⟩
      · rwa [e] at hr
      · rw [e] at hr
        exact .inr (by rcases hr with h | h <;> simp only at h <;> omega)

/-- **Two windows are a width apart**, or the same. -/
theorem starts_apart (hwid : 0 < width) : ∀ (times : List ℕ) (w : Option Window),
    (run limit width w times).Pairwise (fun a b => b.start = a.start ∨ a.start + width ≤ b.start)
  | [], _ => .nil
  | now :: times, w => by
    refine List.pairwise_cons.2 ⟨fun b hb => ?_, starts_apart hwid times _⟩
    have hsta := start_of_mem hwid hb
    rwa [Window.serve_start] at hsta

theorem time_of_mem (hwid : 0 < width) : ∀ (times : List ℕ) (w : Option Window), times.Pairwise (· ≤ ·) →
    (∀ v ∈ w, ∀ now ∈ times, v.start ≤ now) → ∀ a ∈ run limit width w times, a.start ≤ a.time ∧ a.time < a.start + width
  | now :: times, w, hsrt, hw, a, ha => by
    obtain ⟨hnow, hsrt⟩ := List.pairwise_cons.1 hsrt
    have hrol : (roll width now w).start ≤ now ∧ now < (roll width now w).start + width := by
      cases w with
      | none => exact ⟨le_refl now, by simp only [roll]; omega⟩
      | some v =>
        have hv := hw v rfl now List.mem_cons_self
        simp only [roll]
        split
        · exact ⟨le_refl now, by simp only; omega⟩
        · exact ⟨hv, by omega⟩
    rcases List.mem_cons.1 ha with rfl | ha
    · exact hrol
    · refine time_of_mem hwid times _ hsrt (fun v hv later hlat => ?_) a ha
      cases hv
      rw [Window.serve_start]
      exact hrol.1.trans (hnow later hlat)

/-! ## How many a window lets through -/

/-- The arrivals let through in the window that started at `s`. -/
def admittedIn (s : ℕ) (l : List Arrival) : List Arrival := l.filter (fun a => a.start = s ∧ a.admitted = true)

/-- What the window that started at `s` can still let through once `w` is open: nothing after its time, the limit before. -/
def room (limit s : ℕ) (w : Window) : ℕ := if s < w.start then 0 else if s = w.start then limit - w.count else limit

theorem room_le (s : ℕ) (w : Window) : room limit s w ≤ limit := by
  unfold room
  split
  · exact Nat.zero_le _
  · split
    · exact Nat.sub_le _ _
    · exact le_refl _

theorem room_roll (hwid : 0 < width) (s now : ℕ) (w : Window) : room limit s (roll width now (some w)) ≤ room limit s w := by
  rcases roll_some hwid now w with e | ⟨e, hlat⟩
  · rw [e]
  · rw [e]
    unfold room
    simp only
    split_ifs <;> omega

theorem room_serve (s : ℕ) (w : Window) :
    (if w.start = s ∧ w.count < limit then 1 else 0) + room limit s (w.serve limit) ≤ room limit s w := by
  unfold Window.serve room
  by_cases hcnt : w.count < limit
  · simp only [if_pos hcnt]
    split_ifs <;> omega
  · split_ifs <;> omega

theorem admittedIn_cons (s now : ℕ) (w : Window) (l : List Arrival) :
    (admittedIn s (⟨now, w.start, decide (w.count < limit)⟩ :: l)).length =
      (if w.start = s ∧ w.count < limit then 1 else 0) + (admittedIn s l).length := by
  unfold admittedIn
  rw [List.filter_cons]
  simp only [decide_eq_true_eq]
  split
  · rw [List.length_cons, Nat.add_comm]
  · rw [Nat.zero_add]

theorem length_admittedIn_le_room (hwid : 0 < width) (s : ℕ) : ∀ (times : List ℕ) (w : Window),
    (admittedIn s (run limit width (some w) times)).length ≤ room limit s w
  | [], _ => Nat.zero_le _
  | now :: times, w => by
    have hr := length_admittedIn_le_room hwid s times ((roll width now (some w)).serve limit)
    have hser := @room_serve limit s (roll width now (some w))
    have hro := @room_roll limit width hwid s now w
    have hhead := @admittedIn_cons limit s now (roll width now (some w))
      (run limit width (some ((roll width now (some w)).serve limit)) times)
    unfold run
    simp only at hhead ⊢
    omega

/-- **A window lets at most the limit through.** -/
theorem length_admittedIn_le (hwid : 0 < width) (s : ℕ) (times : List ℕ) :
    (admittedIn s (run limit width none times)).length ≤ limit := by
  cases times with
  | nil => exact Nat.zero_le _
  | cons now times =>
    have hr := @length_admittedIn_le_room limit width hwid s times ((roll width now none).serve limit)
    have hser := @room_serve limit s (roll width now none)
    have hle := @room_le limit s (roll width now none)
    have hhead := @admittedIn_cons limit s now (roll width now none) (run limit width (some ((roll width now none).serve limit)) times)
    unfold run
    simp only at hhead ⊢
    omega

/-! ## How many an interval sees -/

theorem starts_of_mem (hwid : 0 < width) {times : List ℕ} {w : Option Window} {a b : Arrival}
    (ha : a ∈ run limit width w times) (hb : b ∈ run limit width w times) :
    a.start = b.start ∨ a.start + width ≤ b.start ∨ b.start + width ≤ a.start := by
  have hapa := @starts_apart limit width hwid times w
  refine List.Pairwise.forall_of_forall_of_flip
    (R := fun a b => a.start = b.start ∨ a.start + width ≤ b.start ∨ b.start + width ≤ a.start)
    (fun _ _ => .inl rfl) (hapa.imp (fun h => ?_)) (hapa.imp (fun h => ?_)) ha hb
  · omega
  · show _ ∨ _
    omega

theorem exists_start (hwid : 0 < width) (times : List ℕ) (w : Option Window) (u : ℕ) :
    ∃ s, ∀ a ∈ run limit width w times, u < a.start + width → a.start ≤ u → a.start = s := by
  by_cases h : ∃ a ∈ run limit width w times, u < a.start + width ∧ a.start ≤ u
  · obtain ⟨b, hb, hlo, hhi⟩ := h
    refine ⟨b.start, fun a ha hlo' hhi' => ?_⟩
    rcases starts_of_mem hwid ha hb with h | h | h <;> omega
  · exact ⟨0, fun a ha hlo hhi => absurd ⟨a, ha, hlo, hhi⟩ h⟩

/-- The arrivals let through at a time in `[t, t + width)`. -/
def admittedWithin (width t : ℕ) (l : List Arrival) : List Arrival :=
  l.filter (fun a => t ≤ a.time ∧ a.time < t + width ∧ a.admitted = true)

theorem length_filter_le_add {α : Type} {p q r : α → Bool} : ∀ {l : List α},
    (∀ a ∈ l, p a = true → q a = true ∨ r a = true) → (l.filter p).length ≤ (l.filter q).length + (l.filter r).length
  | [], _ => Nat.zero_le _
  | a :: l, h => by
    have hl := length_filter_le_add (l := l) (fun b hb => h b (List.mem_cons_of_mem a hb))
    simp only [List.filter_cons]
    split_ifs <;> simp_all <;> omega

/-- **An interval of a window's width sees at most twice the limit.** -/
theorem length_interval_le (hwid : 0 < width) (t : ℕ) {times : List ℕ} (hsrt : times.Pairwise (· ≤ ·)) :
    (admittedWithin width t (run limit width none times)).length ≤ 2 * limit := by
  -- the windows the interval meets start in `(t - width, t]` or in `(t, t + width)`
  obtain ⟨s₁, hs₁⟩ := @exists_start limit width hwid times none t
  obtain ⟨s₂, hs₂⟩ := @exists_start limit width hwid times none (t + width - 1)
  have hmee : ∀ a ∈ run limit width none times, (t ≤ a.time ∧ a.time < t + width ∧ a.admitted = true) →
      (a.start = s₁ ∧ a.admitted = true) ∨ (a.start = s₂ ∧ a.admitted = true) := by
    rintro a ha ⟨hlo, hhi, hadm⟩
    obtain ⟨hsta, ht⟩ := time_of_mem hwid times none hsrt (fun v hv => nomatch hv) a ha
    by_cases h : a.start ≤ t
    · exact .inl ⟨hs₁ a ha (by omega) h, hadm⟩
    · exact .inr ⟨hs₂ a ha (by omega) (by omega), hadm⟩
  have hcnt : (admittedWithin width t (run limit width none times)).length ≤
      (admittedIn s₁ (run limit width none times)).length + (admittedIn s₂ (run limit width none times)).length := by
    refine length_filter_le_add (fun a ha h => ?_)
    rw [decide_eq_true_eq] at h
    simpa only [decide_eq_true_eq] using hmee a ha h
  have h₁ := @length_admittedIn_le limit width hwid s₁ times
  have h₂ := @length_admittedIn_le limit width hwid s₂ times
  omega

end FixedWindow
