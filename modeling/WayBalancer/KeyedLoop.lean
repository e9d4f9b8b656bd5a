import WayBalancer.Proc
/-!
# KeyedLoop — loops whose turns touch one key each

A state is seen through what it holds under each key.  `Refines` says that every turn of a loop does to its own key what a
pure action does to the value there, and nothing to any other key, over elements that are well formed and as long as a
context holds that no turn changes.  Over distinct keys such a loop does what the actions do to the values at its start (`forEach_ok`, `forEach_error`).
-/

namespace Proc

variable {σ ε α β κ ν : Type}

/-- Each turn acts on the value at its key, with the same result, and leaves the other keys and the context alone. -/
structure Refines (W : β → Prop) (C : σ → Prop) (view : σ → κ → ν) (key : β → κ) (act : β → ν → Except ε Unit × ν)
    (f : β → Proc σ ε Unit) : Prop where
  result : ∀ {b s}, W b → C s → (f b s).1 = (act b (view s (key b))).1
  at_key : ∀ {b s}, W b → C s → view (f b s).2 (key b) = (act b (view s (key b))).2
  frame : ∀ {b s k}, W b → C s → k ≠ key b → view (f b s).2 k = view s k
  context : ∀ {b s}, W b → C s → C (f b s).2

theorem forEach_append (f : β → Proc σ ε Unit) (g : α → Proc σ ε Unit) (as : List α) : ∀ (bs : List β) (s : σ),
    (forEach f bs >>= fun _ => forEach g as) s = forEach (Sum.elim f g) (bs.map Sum.inl ++ as.map Sum.inr) s
  | [], s => by
    show forEach g as s = _
    rw [List.map_nil, List.nil_append]
    induction as generalizing s with
    | nil => rfl
    | cons a as ih =>
      rw [List.map_cons, forEach, forEach]
      rcases h : g a s with ⟨e | u, s'⟩
      · have h' : Sum.elim f g (Sum.inr a) s = (.error e, s') := h
        rw [bind_of_error _ h, bind_of_error _ h']
      · have h' : Sum.elim f g (Sum.inr a) s = (.ok u, s') := h
        rw [bind_of_ok _ h, bind_of_ok _ h']
        exact ih s'
  | b :: bs, s => by
    rw [List.map_cons, List.cons_append, forEach, forEach, bind_bind]
    rcases h : f b s with ⟨e | u, s'⟩
    · have h' : Sum.elim f g (Sum.inl b) s = (.error e, s') := h
      rw [bind_of_error _ h, bind_of_error _ h']
    · have h' : Sum.elim f g (Sum.inl b) s = (.ok u, s') := h
      rw [bind_of_ok _ h, bind_of_ok _ h']
      exact forEach_append f g as bs s'

section Keyed

variable {W : β → Prop} {C : σ → Prop} {view : σ → κ → ν} {key : β → κ} {act : β → ν → Except ε Unit × ν} {f : β → Proc σ ε Unit}

/-- **A loop that returns acted on every key**, from the value it had at the start. -/
theorem Refines.forEach_ok (hf : Refines W C view key act f) : ∀ {bs : List β} {s s' : σ}, (bs.map key).Nodup → (∀ b ∈ bs, W b) →
    C s → forEach f bs s = (.ok (), s') →
      C s' ∧ (∀ b ∈ bs, act b (view s (key b)) = (.ok (), view s' (key b))) ∧ ∀ k ∉ bs.map key, view s' k = view s k
  | [], s, s', _, _, hC, h => by
    obtain ⟨-, rfl⟩ := pure_ok.1 h
    exact ⟨hC, fun b hb => absurd hb List.not_mem_nil, fun _ _ => rfl⟩
  | b :: bs, s, s', hke, hW, hC, h => by
    obtain ⟨hb, hbs⟩ := List.nodup_cons.1 hke
    obtain ⟨hWb, hWbs⟩ := List.forall_mem_cons.1 hW
    obtain ⟨⟨⟩, s₁, ht, hr⟩ := bind_ok.1 h
    have hs₁ : (f b s).2 = s₁ := by rw [ht]
    have hres : (act b (view s (key b))).1 = .ok () := by rw [← hf.result hWb hC, ht]
    have hv : (act b (view s (key b))).2 = view s₁ (key b) := by rw [← hf.at_key hWb hC, hs₁]
    obtain ⟨hC', hact, hfr⟩ := hf.forEach_ok hbs hWbs (hs₁ ▸ hf.context hWb hC) hr
    refine ⟨hC', List.forall_mem_cons.2 ⟨?_, fun a ha => ?_⟩, fun k hk => ?_⟩
    · rw [hfr (key b) hb]
      exact Prod.ext hres hv
    · have hne : key a ≠ key b := fun he => hb (he ▸ List.mem_map_of_mem ha)
      rw [← hf.frame hWb hC hne, hs₁]
      exact hact a ha
    · rw [List.map_cons, List.mem_cons, not_or] at hk
      rw [hfr k hk.2, ← hs₁, hf.frame hWb hC hk.1]

/-- **A loop that fails acted on the keys before the one it failed at**, and on that one as far as its action went. -/
theorem Refines.forEach_error (hf : Refines W C view key act f) : ∀ {bs : List β} {s s' : σ} {e : ε}, (bs.map key).Nodup →
    (∀ b ∈ bs, W b) → C s → forEach f bs s = (.error e, s') →
      C s' ∧ ∃ done b rest, bs = done ++ b :: rest ∧ (∀ a ∈ done, act a (view s (key a)) = (.ok (), view s' (key a))) ∧
        act b (view s (key b)) = (.error e, view s' (key b)) ∧
        ∀ k, k ≠ key b → k ∉ done.map key → view s' k = view s k
  | b :: bs, s, s', e, hke, hW, hC, h => by
    obtain ⟨hb, hbs⟩ := List.nodup_cons.1 hke
    obtain ⟨hWb, hWbs⟩ := List.forall_mem_cons.1 hW
    have hres := hf.result hWb hC
    have hv := hf.at_key hWb hC
    rcases ht : f b s with ⟨e' | u, s₁⟩
    · rw [forEach, bind_of_error _ ht] at h
      cases h
      rw [ht] at hres hv
      have hcon := hf.context hWb hC
      rw [ht] at hcon
      refine ⟨hcon, [], b, bs, rfl, fun a ha => absurd ha List.not_mem_nil, Prod.ext hres.symm hv.symm, ?_⟩
      intro k hk _
      have := hf.frame hWb hC hk
      rwa [ht] at this
    · rw [forEach, bind_of_ok _ ht] at h
      have hs₁ : (f b s).2 = s₁ := by rw [ht]
      obtain ⟨hC', done, a, rest, rfl, hd, ha, hfr⟩ := hf.forEach_error hbs hWbs (hs₁ ▸ hf.context hWb hC) h
      have hfre : key b ≠ key a ∧ key b ∉ done.map key := by
        rw [List.map_append, List.mem_append, not_or, List.map_cons, List.mem_cons, not_or] at hb
        exact ⟨hb.2.1, hb.1⟩
      have hoth : ∀ c, key c ≠ key b → view s₁ (key c) = view s (key c) := fun c hc => by rw [← hs₁, hf.frame hWb hC hc]
      refine ⟨hC', b :: done, a, rest, rfl, List.forall_mem_cons.2 ⟨?_, fun c hc => ?_⟩, ?_, fun k hk hkd => ?_⟩
      · rw [hfr (key b) hfre.1 hfre.2]
        rw [ht] at hres hv
        exact Prod.ext hres.symm hv.symm
      · have hne : key c ≠ key b := fun he => hfre.2 (he ▸ List.mem_map_of_mem hc)
        rw [← hoth c hne]
        exact hd c hc
      · rw [← hoth a hfre.1.symm]
        exact ha
      · rw [List.map_cons, List.mem_cons, not_or] at hkd
        rw [hfr k hk hkd.2, ← hs₁, hf.frame hWb hC hkd.1]

theorem Refines.forEach_returns (hf : Refines W C view key act f) {bs : List β} {s : σ} (hk : (bs.map key).Nodup)
    (hW : ∀ b ∈ bs, W b) (hC : C s) (hact : ∀ b ∈ bs, (act b (view s (key b))).1 = .ok ()) : ∃ s', forEach f bs s = (.ok (), s') := by
  rcases h : forEach f bs s with ⟨e | u, s'⟩
  · obtain ⟨-, done, b, rest, rfl, -, hb, -⟩ := hf.forEach_error hk hW hC h
    have hok := hact b (List.mem_append_right _ List.mem_cons_self)
    rw [hb] at hok
    cases hok
  · exact ⟨s', rfl⟩

end Keyed

end Proc
