import Mathlib
/-!
# Proc — computations over a state that return or fail

A `Proc σ ε α` reads and changes a state `σ` and returns an `α` or fails with an `ε`; the state is kept either way, so what
a failed run has already done to the state is still there.  `loop` runs a body turn after turn while it asks for another
one, under a measure every further turn lowers.  `Meets` is the triple of such a computation: from every state in `P` it
returns into `Q`, or fails into `E`.  `Returns` says that it does return.
-/

/-- A computation over a state `σ` that returns an `α` or fails with an `ε`. -/
def Proc (σ ε α : Type) := σ → Except ε α × σ

namespace Proc

variable {σ τ ε α β γ : Type}

instance : Monad (Proc σ ε) where
  pure a := fun s => (.ok a, s)
  bind x f := fun s => match x s with
    | (.ok a, s')    => f a s'
    | (.error e, s') => (.error e, s')

def get : Proc σ ε σ := fun s => (.ok s, s)

def update (f : σ → σ) : Proc σ ε Unit := fun s => (.ok (), f s)

def fail (e : ε) : Proc σ ε α := fun s => (.error e, s)

def ensure (c : Bool) (e : ε) : Proc σ ε Unit := if c then pure () else fail e

/-- The value of an `Option`, or a failure where there is none. -/
def okOr (o : Option α) (e : ε) : Proc σ ε α := match o with
  | some a => pure a
  | none   => fail e

/-- The same computation with its failures renamed. -/
def mapError {ε' : Type} (f : ε → ε') (x : Proc σ ε α) : Proc σ ε' α := fun s =>
  match x s with
  | (.ok a, s')    => (.ok a, s')
  | (.error e, s') => (.error (f e), s')

/-- A result that is already there. -/
def ofExcept (x : Except ε α) : Proc σ ε α := fun s => (x, s)

/-- A computation over a part of the state. -/
def focus (part : τ → σ) (put : σ → τ → τ) (x : Proc σ ε α) : Proc τ ε α := fun t =>
  match x (part t) with
  | (r, s) => (r, put s t)

/-- A loop over a list. -/
def forEach (f : β → Proc σ ε Unit) : List β → Proc σ ε Unit
  | []      => pure ()
  | b :: bs => do
    f b
    forEach f bs

/-! ## What a successful run went through -/

variable {a : α} {s s' : σ} {x : Proc σ ε α}

theorem bind_of_ok (f : α → Proc σ ε β) (h : x s = (.ok a, s')) : (x >>= f) s = f a s' := by
  show (match x s with
    | (.ok a, s')    => f a s'
    | (.error e, s') => (.error e, s')) = _
  rw [h]

variable {e : ε}

theorem bind_of_error (f : α → Proc σ ε β) (h : x s = (.error e, s')) : (x >>= f) s = (.error e, s') := by
  show (match x s with
    | (.ok a, s')    => f a s'
    | (.error e, s') => (.error e, s')) = _
  rw [h]

variable {b : β}

theorem bind_ok {f : α → Proc σ ε β} {s'' : σ} : (x >>= f) s = (.ok b, s'') ↔ ∃ a s', x s = (.ok a, s') ∧ f a s' = (.ok b, s'') := by
  rcases hx : x s with ⟨e | a, s'⟩
  · simp [bind_of_error f hx]
  · rw [bind_of_ok f hx]
    constructor
    · intro h; exact ⟨a, s', rfl, h⟩
    · rintro ⟨_, _, e, h⟩; cases e; exact h

theorem bind_bind (x : Proc σ ε α) (f : α → Proc σ ε β) (g : β → Proc σ ε γ) (s : σ) :
    ((x >>= f) >>= g) s = (x >>= fun a => f a >>= g) s := by
  rcases hx : x s with ⟨e | a, s'⟩
  · rw [bind_of_error _ (bind_of_error _ hx), bind_of_error _ hx]
  · rw [bind_of_ok _ hx]
    rcases hf : f a s' with ⟨e | b, s''⟩
    · rw [bind_of_error _ hf]
      exact bind_of_error _ ((bind_of_ok f hx).trans hf)
    · rw [bind_of_ok _ hf]
      exact bind_of_ok _ ((bind_of_ok f hx).trans hf)

theorem pure_ok {b : α} : (pure a : Proc σ ε α) s = (.ok b, s') ↔ a = b ∧ s = s' := by
  show (Except.ok a, s) = _ ↔ _
  simp

theorem get_ok {a : σ} : (get : Proc σ ε σ) s = (.ok a, s') ↔ s = a ∧ s = s' := pure_ok

theorem update_ok {f : σ → σ} {u : Unit} : (update f : Proc σ ε Unit) s = (.ok u, s') ↔ f s = s' := by
  simp [update]

theorem fail_ok : ¬ (fail e : Proc σ ε α) s = (.ok a, s') := by simp [fail]

theorem ensure_ok {c : Bool} {u : Unit} : (ensure c e : Proc σ ε Unit) s = (.ok u, s') ↔ c = true ∧ s = s' := by
  cases c
  · simp [ensure, fail]
  · simp only [ensure, if_true]; exact pure_ok.trans (by simp)

theorem ensure_of_true {c : Bool} (h : c = true) : (ensure c e : Proc σ ε Unit) s = (.ok (), s) :=
  ensure_ok.2 ⟨h, rfl⟩

variable {o : Option α}

theorem okOr_ok : (okOr o e : Proc σ ε α) s = (.ok a, s') ↔ o = some a ∧ s = s' := by
  cases o with
  | none => simp [okOr, fail]
  | some b => exact pure_ok.trans (by simp)

theorem focus_ok {part : τ → σ} {put : σ → τ → τ} {t t' : τ} :
    focus part put x t = (.ok a, t') ↔ ∃ s, x (part t) = (.ok a, s) ∧ put s t = t' := by
  unfold focus
  rcases x (part t) with ⟨r, s⟩
  simp only [Prod.mk.injEq]
  constructor
  · rintro ⟨rfl, h⟩; exact ⟨s, ⟨rfl, rfl⟩, h⟩
  · rintro ⟨_, ⟨rfl, rfl⟩, h⟩; exact ⟨rfl, h⟩

theorem mapError_ok {ε' : Type} {f : ε → ε'} : mapError f x s = (.ok a, s') ↔ x s = (.ok a, s') := by
  unfold mapError
  rcases x s with ⟨e | b, t⟩
  · simp
  · simp

theorem ofExcept_ok {x : Except ε α} : (ofExcept x : Proc σ ε α) s = (.ok a, s') ↔ x = .ok a ∧ s = s' := by
  simp [ofExcept]

variable {f : α → Except ε β}

theorem except_bind_ok {x : Except ε α} : x >>= f = .ok b ↔ ∃ a, x = .ok a ∧ f a = .ok b := by
  cases x with
  | error e => simp [bind, Except.bind]
  | ok a => simp [bind, Except.bind]

theorem except_ok_bind (a : α) (f : α → Except ε β) : (Except.ok a >>= f) = f a := rfl

theorem except_seq_ok {x : Except ε Unit} {f : Unit → Except ε β} : x >>= f = .ok b ↔ x = .ok () ∧ f () = .ok b := by
  rw [except_bind_ok]
  constructor
  · rintro ⟨u, hx, hf⟩; exact ⟨hx, hf⟩
  · rintro ⟨hx, hf⟩; exact ⟨(), hx, hf⟩

theorem except_mapError_ok {ε' : Type} {x : Except ε α} {f : ε → ε'} : x.mapError f = .ok a ↔ x = .ok a := by
  cases x <;> simp [Except.mapError]

theorem except_map_ok {x : Except ε α} {f : α → β} : x.map f = .ok b ↔ ∃ a, x = .ok a ∧ f a = b := by
  cases x <;> simp [Except.map]

theorem except_mapM_ok {f : α → Except ε β} : ∀ {xs : List α} {ys : List β},
    xs.mapM f = .ok ys ↔ List.Forall₂ (fun x y => f x = .ok y) xs ys
  | [], ys => by
    constructor
    · intro h
      cases h
      exact .nil
    · intro h
      cases h
      rfl
  | x :: xs, ys => by
    rw [List.mapM_cons, except_bind_ok]
    constructor
    · rintro ⟨y, hy, h⟩
      obtain ⟨ys', hys, h⟩ := except_bind_ok.1 h
      cases h
      exact .cons hy (except_mapM_ok.1 hys)
    · intro h
      cases h with
      | cons hy hys => exact ⟨_, hy, except_bind_ok.2 ⟨_, except_mapM_ok.2 hys, rfl⟩⟩

variable {xs : List α}

theorem exists_mapM_ok : (∃ ys, xs.mapM f = .ok ys) ↔ ∀ x ∈ xs, ∃ y, f x = .ok y := by
  simp only [except_mapM_ok]
  constructor
  · rintro ⟨ys, hys⟩ x hx
    induction hys with
    | nil => cases hx
    | cons hy _ ih =>
      rcases List.mem_cons.1 hx with rfl | hx
      · exact ⟨_, hy⟩
      · exact ih hx
  · intro h
    induction xs with
    | nil => exact ⟨[], .nil⟩
    | cons x xs ih =>
      obtain ⟨y, hy⟩ := h x List.mem_cons_self
      obtain ⟨ys, hys⟩ := ih (fun z hz => h z (List.mem_cons_of_mem x hz))
      exact ⟨y :: ys, .cons hy hys⟩

theorem forall_of_mapM_ok {P : β → Prop} (hf : ∀ a b, f a = .ok b → P b) {ys : List β} (h : xs.mapM f = .ok ys) : ∀ y ∈ ys, P y := by
  have hall := except_mapM_ok.1 h
  clear h
  induction hall with
  | nil => exact fun y hy => absurd hy List.not_mem_nil
  | cons hy _ ih => exact List.forall_mem_cons.2 ⟨hf _ _ hy, ih⟩

theorem ite_error_ok {c : Prop} [Decidable c] {x : Except ε α} : (if c then .error e else x) = .ok a ↔ ¬ c ∧ x = .ok a := by
  by_cases hc : c
  · simp [hc]
  · simp [hc]

/-! ## Loops -/

/-- What a turn of a loop asks for: another turn with a new loop variable, or to leave with a result. -/
inductive Turn (β α : Type)
  | again (b : β)
  | done (a : α)

/-- What is asked of a turn: the one of another turn, the other of a result. -/
def Turn.Meets (again : β → Prop) (done : α → Prop) : Turn β α → Prop
  | .again b => again b
  | .done a  => done a

/-- Turn after turn until one leaves or fails; a turn that asks for another one lowers the measure `m`. -/
def loop (m : β → σ → ℕ) (turn : β → Proc σ ε (Turn β α))
    (hm : ∀ b s b' s', turn b s = (.ok (.again b'), s') → m b' s' < m b s) (b : β) (s : σ) : Except ε α × σ :=
  match _h : turn b s with
  | (.error e, s')        => (.error e, s')
  | (.ok (.done a), s')   => (.ok a, s')
  | (.ok (.again b'), s') => loop m turn hm b' s'
termination_by m b s
decreasing_by exact hm _ _ _ _ _h

section Loop

variable (m : β → σ → ℕ) (turn : β → Proc σ ε (Turn β α))
  (hm : ∀ b s b' s', turn b s = (.ok (.again b'), s') → m b' s' < m b s)

variable {b : β}

theorem loop_done (h : turn b s = (.ok (.done a), s')) : loop m turn hm b s = (.ok a, s') := by
  unfold loop
  split <;> simp_all

theorem loop_again {b' : β} (h : turn b s = (.ok (.again b'), s')) : loop m turn hm b s = loop m turn hm b' s' := by
  conv => lhs; unfold loop
  split <;> simp_all

theorem loop_error {e : ε} (h : turn b s = (.error e, s')) : loop m turn hm b s = (.error e, s') := by
  unfold loop
  split <;> simp_all

/-- **The induction of a loop**: what holds of a last turn, and goes back over each earlier one, holds of the whole loop. -/
theorem loop_rule {P : β → σ → Except ε α × σ → Prop} (hf : ∀ b s e s', turn b s = (.error e, s') → P b s (.error e, s'))
    (hd : ∀ b s a s', turn b s = (.ok (.done a), s') → P b s (.ok a, s'))
    (haga : ∀ b s b' s' r, turn b s = (.ok (.again b'), s') → P b' s' r → P b s r) (b : β) (s : σ) :
    P b s (loop m turn hm b s) := by
  induction b, s using loop.induct m turn hm with
  | case1 b s e s' h => rw [loop_error m turn hm h]; exact hf b s e s' h
  | case2 b s a s' h => rw [loop_done m turn hm h]; exact hd b s a s' h
  | case3 b s b' s' h ih => rw [loop_again m turn hm h]; exact haga b s b' s' _ h ih

theorem loop_ok {P : β → σ → α → σ → Prop} (hd : ∀ b s a s', turn b s = (.ok (.done a), s') → P b s a s')
    (haga : ∀ b s b' s' a s'', turn b s = (.ok (.again b'), s') → P b' s' a s'' → P b s a s'')
    (h : loop m turn hm b s = (.ok a, s')) : P b s a s' := by
  refine loop_rule m turn hm (P := fun b s r => ∀ a s', r = (.ok a, s') → P b s a s') ?_ ?_ ?_ b s a s' h
  · intro b s e s' _ a s'' hr
    cases hr
  · intro b s a s' ht a' s'' hr
    cases hr
    exact hd b s a s' ht
  · intro b s b' s' r ht ih a s'' hr
    exact haga b s b' s' a s'' ht (ih a s'' hr)

end Loop

/-! ## Triples -/

/-- From every state in `P`, the computation returns into `Q` or fails into `E`. -/
def Meets (P : σ → Prop) (x : Proc σ ε α) (Q : α → σ → Prop) (E : σ → Prop) : Prop :=
  ∀ s, P s → (∀ a s', x s = (.ok a, s') → Q a s') ∧ ∀ e s', x s = (.error e, s') → E s'

section Triples

variable {P : σ → Prop} {E : σ → Prop}

theorem Meets.final {Q : σ → Prop} (h : Meets P x (fun _ => Q) Q) (hs : P s) : Q (x s).2 := by
  rcases hx : x s with ⟨e | a, s'⟩
  · exact (h s hs).2 e s' hx
  · exact (h s hs).1 a s' hx

variable {Q : α → σ → Prop}

theorem Meets.bind {f : α → Proc σ ε β} {R : β → σ → Prop} (hx : Meets P x Q E) (hf : ∀ a, Meets (Q a) (f a) R E) :
    Meets P (x >>= f) R E := by
  intro s hs
  obtain ⟨hok, herr⟩ := hx s hs
  rcases hr : x s with ⟨e | a, s'⟩
  · rw [bind_of_error f hr]
    refine ⟨fun b s'' h => ?_, fun e' s'' h => ?_⟩
    · cases h
    · cases h
      exact herr e s' hr
  · rw [bind_of_ok f hr]
    exact hf a s' (hok a s' hr)

theorem meets_pure (h : ∀ s, P s → Q a s) : Meets P (pure a : Proc σ ε α) Q E := by
  intro s hs
  refine ⟨fun b s' hb => ?_, fun e s' he => ?_⟩
  · obtain ⟨rfl, rfl⟩ := pure_ok.1 hb
    exact h _ hs
  · cases he

variable {e : ε}

theorem meets_fail (h : ∀ s, P s → E s) : Meets P (fail e : Proc σ ε α) Q E := by
  intro s hs
  refine ⟨fun b s' hb => absurd hb fail_ok, fun e' s' he => ?_⟩
  cases he
  exact h _ hs

theorem meets_ensure {c : Bool} {Q : Unit → σ → Prop} (ht : c = true → ∀ s, P s → Q () s) (hf : ∀ s, P s → E s) :
    Meets P (ensure c e : Proc σ ε Unit) Q E := by
  cases c with
  | true => exact meets_pure (ht rfl)
  | false => exact meets_fail hf

theorem meets_check {c : Bool} (hf : ∀ s, P s → E s) : Meets P (ensure c e : Proc σ ε Unit) (fun _ => P) E :=
  meets_ensure (fun _ _ hs => hs) hf

theorem meets_okOr {o : Option α} (hs : ∀ a, o = some a → ∀ s, P s → Q a s) (hn : ∀ s, P s → E s) :
    Meets P (okOr o e : Proc σ ε α) Q E := by
  cases o with
  | some a => exact meets_pure (hs a rfl)
  | none => exact meets_fail hn

theorem meets_mapError {ε' : Type} {f : ε → ε'} (h : Meets P x Q E) : Meets P (mapError f x) Q E := by
  intro s hs
  obtain ⟨hok, herr⟩ := h s hs
  unfold mapError
  rcases hx : x s with ⟨e | a, s'⟩
  · exact ⟨fun _ _ h => (by cases h), fun _ _ h => (by cases h; exact herr e s' hx)⟩
  · exact ⟨fun _ _ h => (by cases h; exact hok a s' hx), fun _ _ h => (by cases h)⟩

theorem meets_ofExcept {x : Except ε α} (hE : ∀ s, P s → E s) : Meets P (ofExcept x : Proc σ ε α) (fun _ => P) E :=
  fun s hs => ⟨fun _ _ h => (by cases h; exact hs), fun _ _ h => (by cases h; exact hE s hs)⟩

theorem meets_update {f : σ → σ} {Q : Unit → σ → Prop} (h : ∀ s, P s → Q () (f s)) : Meets P (update f : Proc σ ε Unit) Q E :=
  fun s hs => ⟨fun _ _ hb => (by cases hb; exact h s hs), fun _ _ he => (by cases he)⟩

theorem meets_get {Q : σ → σ → Prop} (h : ∀ s, P s → Q s s) : Meets P (get : Proc σ ε σ) Q E := by
  intro s hs
  refine ⟨fun b s' hb => ?_, fun e s' he => ?_⟩
  · obtain ⟨rfl, rfl⟩ := get_ok.1 hb
    exact h _ hs
  · cases he

/-- **The invariant rule**: what every turn keeps while it asks for another, and leaves for the result or the failure. -/
theorem meets_loop {m : β → σ → ℕ} {turn : β → Proc σ ε (Turn β α)}
    {hm : ∀ b s b' s', turn b s = (.ok (.again b'), s') → m b' s' < m b s} {I : β → σ → Prop}
    (h : ∀ b, Meets (I b) (turn b) (fun t s => t.Meets (I · s) (Q · s)) E) (b : β) : Meets (I b) (loop m turn hm b) Q E := by
  intro s hs
  have key := loop_rule m turn hm (P := fun b s r => I b s →
    (∀ a s', r = (.ok a, s') → Q a s') ∧ ∀ e s', r = (.error e, s') → E s') ?_ ?_ ?_ b s hs
  · exact key
  · intro b s e s' ht hI
    refine ⟨fun a s'' hr => ?_, fun e' s'' hr => ?_⟩
    · cases hr
    · cases hr
      exact (h b s hI).2 e s' ht
  · intro b s a s' ht hI
    refine ⟨fun a' s'' hr => ?_, fun e' s'' hr => ?_⟩
    · cases hr
      exact (h b s hI).1 (.done a) s' ht
    · cases hr
  · intro b s b' s' r ht ih hI
    exact ih ((h b s hI).1 (.again b') s' ht)

end Triples

/-! ## Computations that always return -/

/-- From every state the computation returns, and its value is in `Q`. -/
def Returns (x : Proc σ ε α) (Q : α → Prop) : Prop := ∀ s, ∃ a s', x s = (.ok a, s') ∧ Q a

variable {Q : α → Prop}

theorem Returns.bind {f : α → Proc σ ε β} {R : β → Prop} (hx : Returns x Q) (hf : ∀ a, Q a → Returns (f a) R) :
    Returns (x >>= f) R := by
  intro s
  obtain ⟨a, s', ha, hQ⟩ := hx s
  rw [bind_of_ok f ha]
  exact hf a hQ s'

theorem returns_pure (h : Q a) : Returns (pure a : Proc σ ε α) Q := fun s => ⟨a, s, rfl, h⟩

theorem returns_update (f : σ → σ) : Returns (update f : Proc σ ε Unit) (fun _ => True) := fun s => ⟨(), f s, rfl, trivial⟩

theorem returns_get : Returns (get : Proc σ ε σ) (fun _ => True) := fun s => ⟨s, s, rfl, trivial⟩

theorem returns_okOr (h : o = some a) (hQ : Q a) : Returns (okOr o e : Proc σ ε α) Q := by
  rw [h]
  exact returns_pure hQ

theorem returns_ofExcept {x : Except ε α} (h : x = .ok a) (hQ : Q a) : Returns (ofExcept x : Proc σ ε α) Q := by
  intro s
  exact ⟨a, s, by rw [ofExcept, h], hQ⟩

end Proc
