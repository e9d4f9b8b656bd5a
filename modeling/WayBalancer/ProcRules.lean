import WayBalancer.Proc
/-!
# ProcRules — outcomes, collected results and their rules

`attempt` hands a failure on as a value, `collect` gathers what the turns over a list return, `skipIf` is a step made where a
condition fails.  `Keeps R` says of a computation that it takes every state to one in the relation `R`, whatever its outcome;
for a relation that is reflexive and transitive it is put together from the computation's steps.  `Traces log x P` says that a
computation only adds to a log, and that its outcome with what it added is in `P`.
-/
namespace Proc

variable {σ τ ε ε' α β : Type}

/-- The outcome of a computation, a failure included. -/
def attempt (x : Proc σ ε α) : Proc σ ε' (Except ε α) := fun s => match x s with
  | (r, s') => (.ok r, s')

def skipIf (c : Bool) (x : Proc σ ε Unit) : Proc σ ε Unit := if c then pure () else x

/-- A loop over a list that collects what its turns return. -/
def collect (f : β → Proc σ ε α) : List β → Proc σ ε (List α)
  | []      => pure []
  | b :: bs => do
    let a ← f b
    let as ← collect f bs
    return a :: as

/-- **The rule of a collecting loop**: a relation `R` every turn keeps between its states, and a property `Q` of what a turn
returned that `R` carries on. -/
theorem collect_ok {R : σ → σ → Prop} (hr : ∀ s, R s s) (htra : ∀ s s' s'', R s s' → R s' s'' → R s s'')
    {Q : β → α → σ → Prop} (hQ : ∀ b a s s', R s s' → Q b a s → Q b a s') {f : β → Proc σ ε α}
    (hf : ∀ b s a s', f b s = (.ok a, s') → R s s' ∧ Q b a s') :
    ∀ {bs : List β} {as : List α} {s s' : σ}, collect f bs s = (.ok as, s') → R s s' ∧ List.Forall₂ (fun b a => Q b a s') bs as
  | [], as, s, s', h => by
    obtain ⟨rfl, rfl⟩ := pure_ok.1 h
    exact ⟨hr _, .nil⟩
  | b :: bs, as, s, s', h => by
    obtain ⟨a, s₁, ha, h⟩ := bind_ok.1 h
    obtain ⟨rest, s₂, hre, h⟩ := bind_ok.1 h
    obtain ⟨rfl, rfl⟩ := pure_ok.1 h
    obtain ⟨hR, hq⟩ := hf b s a s₁ ha
    obtain ⟨hR', hall⟩ := collect_ok hr htra hQ hf hre
    exact ⟨htra _ _ _ hR hR', .cons (hQ b a s₁ s₂ hR' hq) hall⟩

/-! ## Relations between the first and the last state -/

/-- Every run ends in a state the first one is related to. -/
def Keeps (R : σ → σ → Prop) (x : Proc σ ε α) : Prop := ∀ s, R s (x s).2

section Keeps

variable {R : σ → σ → Prop}

theorem keeps_pure (hr : ∀ s, R s s) (a : α) : Keeps R (pure a : Proc σ ε α) := fun s => hr s

theorem keeps_fail (hr : ∀ s, R s s) (e : ε) : Keeps R (fail e : Proc σ ε α) := fun s => hr s

theorem keeps_update {f : σ → σ} (hf : ∀ s, R s (f s)) : Keeps R (update f : Proc σ ε Unit) := fun s => hf s

theorem Keeps.bind (htra : ∀ s s' s'', R s s' → R s' s'' → R s s'') {x : Proc σ ε α} {f : α → Proc σ ε β} (hx : Keeps R x)
    (hf : ∀ a, Keeps R (f a)) : Keeps R (x >>= f) := by
  intro s
  have hfir := hx s
  rcases hr : x s with ⟨e | a, s'⟩
  · rw [bind_of_error f hr]
    rwa [hr] at hfir
  · rw [bind_of_ok f hr]
    rw [hr] at hfir
    exact htra s s' _ hfir (hf a s')

theorem Keeps.mapError {x : Proc σ ε α} {f : ε → ε'} (hx : Keeps R x) : Keeps R (mapError f x) := by
  intro s
  have hfir := hx s
  unfold Proc.mapError
  rcases hr : x s with ⟨e | a, s'⟩
  · rwa [hr] at hfir
  · rwa [hr] at hfir

theorem Keeps.skipIf (hr : ∀ s, R s s) {c : Bool} {x : Proc σ ε Unit} (hx : Keeps R x) : Keeps R (skipIf c x) := by
  cases c with
  | true => exact keeps_pure hr ()
  | false => exact hx

theorem keeps_focus {part : τ → σ} {put : σ → τ → τ} {R : τ → τ → Prop} (hput : ∀ s t, R t (put s t)) (x : Proc σ ε α) :
    Keeps R (focus part put x) := by
  intro t
  unfold focus
  rcases x (part t) with ⟨r, s'⟩
  exact hput s' t

end Keeps

/-! ## What a computation adds to a log -/

/-- Every run appends to the log, and what it appends fits its outcome. -/
def Traces (log : σ → List τ) (x : Proc σ ε α) (P : Except ε α → List τ → Prop) : Prop :=
  ∀ s, ∃ events, log (x s).2 = log s ++ events ∧ P (x s).1 events

section Traces

variable {log : σ → List τ}

variable {P : Except ε α → List τ → Prop}

theorem traces_pure {a : α} (h : P (.ok a) []) : Traces log (pure a : Proc σ ε α) P :=
  fun s => ⟨[], (List.append_nil (log s)).symm, h⟩

theorem traces_fail {e : ε} (h : P (.error e) []) : Traces log (fail e : Proc σ ε α) P :=
  fun s => ⟨[], (List.append_nil (log s)).symm, h⟩

variable {x : Proc σ ε α}

theorem traces_silent (hlog : ∀ s, log (x s).2 = log s) (h : ∀ r, P r []) : Traces log x P :=
  fun s => ⟨[], (hlog s).trans (List.append_nil (log s)).symm, h _⟩

theorem Traces.weaken {Q : Except ε α → List τ → Prop} (hx : Traces log x P) (h : ∀ r t, P r t → Q r t) : Traces log x Q := by
  intro s
  obtain ⟨t, hlog, ht⟩ := hx s
  exact ⟨t, hlog, h _ t ht⟩

theorem Traces.bind {f : α → Proc σ ε β} {Q : α → Except ε β → List τ → Prop} {R : Except ε β → List τ → Prop}
    (hx : Traces log x P) (hf : ∀ a, Traces log (f a) (Q a)) (herr : ∀ e t, P (.error e) t → R (.error e) t)
    (hok : ∀ a t r t', P (.ok a) t → Q a r t' → R r (t ++ t')) : Traces log (x >>= f) R := by
  intro s
  obtain ⟨t, hlog, ht⟩ := hx s
  rcases hr : x s with ⟨e | a, s'⟩
  · rw [hr] at hlog ht
    rw [bind_of_error f hr]
    exact ⟨t, hlog, herr e t ht⟩
  · rw [hr] at hlog ht
    rw [bind_of_ok f hr]
    obtain ⟨t', hlog', ht'⟩ := hf a s'
    exact ⟨t ++ t', by rw [hlog', hlog, List.append_assoc], hok a t _ t' ht ht'⟩

end Traces

end Proc
