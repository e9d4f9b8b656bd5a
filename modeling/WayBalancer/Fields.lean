import Mathlib.Data.List.Basic
/-!
# Fields — lists joined by a separator, read back

Pieces joined by a separator none of them holds are determined by what they join to; so are labelled fields, a label and a
value each, when the labels are known and the values hold no separator.  The value of the last field ends where the text
does, or at a stop that no value holds.
-/
namespace Fields

open List (cons_append intercalate intercalate_cons_cons map_cons mem_append mem_cons_of_mem)

variable {α : Type}

/-- A text that is over, or goes on at a stop. -/
def EndsAt (stop : α) (x : List α) : Prop := x = [] ∨ ∃ t, x = stop :: t

/-- Two splits of a list at the first element with a property are one. -/
theorem first_unique {P : α → Prop} {v w rest rest' : List α} {a b : α} (h : v ++ a :: rest = w ++ b :: rest')
    (hv : ∀ c ∈ v, ¬ P c) (ha : P a) (hw : ∀ c ∈ w, ¬ P c) (hb : P b) : v = w ∧ a :: rest = b :: rest' := by
  classical
  have ht : ∀ {v : List α} {a rest}, (∀ c ∈ v, ¬ P c) → P a → (v ++ a :: rest).takeWhile (fun c => ¬ P c) = v := by
    intro v a rest hv ha
    rw [List.takeWhile_append_of_pos (by simpa using hv), List.takeWhile_cons_of_neg (by simpa using ha), List.append_nil]
  obtain rfl : v = w := by rw [← ht hv ha, h, ht hw hb]
  exact ⟨rfl, List.append_cancel_left h⟩

/-- A piece without the stop is what precedes the first stop. -/
theorem append_inj_of_stop {stop : α} {v w x y : List α} (hv : stop ∉ v) (hw : stop ∉ w) (hx : EndsAt stop x)
    (hy : EndsAt stop y) (h : v ++ x = w ++ y) : v = w ∧ x = y := by
  have hne : ∀ {v : List α}, stop ∉ v → ∀ c ∈ v, c ≠ stop := fun hv c hc e => hv (e ▸ hc)
  rcases hx with rfl | ⟨t, rfl⟩
  · rcases hy with rfl | ⟨u, rfl⟩
    · simpa using h
    · exact absurd (by rw [← List.append_nil v, h]; simp) hv
  · rcases hy with rfl | ⟨u, rfl⟩
    · exact absurd (by rw [← List.append_nil w, ← h]; simp) hw
    · exact first_unique h (hne hv) rfl (hne hw) rfl

/-- A labelled field as text. -/
def render (f : List α × List α) : List α := f.1 ++ f.2

/-- **Labelled fields are read back from their joined text**, given the labels. -/
theorem joined_inj {sep stop : α} : ∀ {fs gs : List (List α × List α)} {x y : List α}, fs.map (·.1) = gs.map (·.1) →
    (∀ f ∈ fs, sep ∉ f.2 ∧ stop ∉ f.2) → (∀ f ∈ gs, sep ∉ f.2 ∧ stop ∉ f.2) → EndsAt stop x → EndsAt stop y →
    intercalate [sep] (fs.map render) ++ x = intercalate [sep] (gs.map render) ++ y → fs = gs ∧ x = y
  | [], [], _, _, _, _, _, _, _, h => ⟨rfl, h⟩
  | [], _ :: _, _, _, hl, _, _, _, _, _ => by cases hl
  | _ :: _, [], _, _, hl, _, _, _, _, _ => by cases hl
  | [(l, v)], [(l', v')], x, y, hl, hf, hg, hx, hy, h => by
    cases hl
    simp only [map_cons, List.map_nil, List.intercalate_singleton, render, List.append_assoc] at h
    obtain ⟨rfl, hxy⟩ := append_inj_of_stop (hf (l, v) (by simp)).2 (hg (l, v') (by simp)).2 hx hy (List.append_cancel_left h)
    exact ⟨rfl, hxy⟩
  | [_], _ :: _ :: _, _, _, hl, _, _, _, _, _ => by simp at hl
  | _ :: _ :: _, [_], _, _, hl, _, _, _, _, _ => by simp at hl
  | (l, v) :: f :: fs, (l', v') :: g :: gs, x, y, hl, hf, hg, hx, hy, h => by
    simp only [map_cons, List.cons.injEq] at hl
    obtain ⟨rfl, hl⟩ := hl
    simp only [map_cons, intercalate_cons_cons, render, List.append_assoc, cons_append] at h
    obtain ⟨rfl, h'⟩ := append_inj_of_stop (hf (l, v) (by simp)).1 (hg (l, v') (by simp)).1 (.inr ⟨_, rfl⟩)
      (.inr ⟨_, rfl⟩) (List.append_cancel_left h)
    have hf' : ∀ e ∈ f :: fs, sep ∉ e.2 ∧ stop ∉ e.2 := fun e he => hf e (mem_cons_of_mem _ he)
    have hg' : ∀ e ∈ g :: gs, sep ∉ e.2 ∧ stop ∉ e.2 := fun e he => hg e (mem_cons_of_mem _ he)
    have hl' : (f :: fs).map (·.1) = (g :: gs).map (·.1) := by simpa using hl
    obtain ⟨e, hxy⟩ := joined_inj hl' hf' hg' hx hy (List.cons.inj h').2
    rw [e]
    exact ⟨rfl, hxy⟩

theorem mem_intercalate {sep c : α} : ∀ {l : List (List α)}, c ∈ intercalate [sep] l → c = sep ∨ ∃ p ∈ l, c ∈ p
  | [], h => by simp at h
  | [p], h => .inr ⟨p, by simp, by simpa using h⟩
  | p :: q :: l, h => by
    rw [intercalate_cons_cons, mem_append, mem_append, List.mem_singleton] at h
    rcases h with (h | h) | h
    · exact .inr ⟨p, by simp, h⟩
    · exact .inl h
    · rcases mem_intercalate h with h | ⟨q', hq', h⟩
      · exact .inl h
      · exact .inr ⟨q', mem_cons_of_mem _ hq', h⟩

theorem mem_intercalate_of_mem {sep c : α} {p : List α} (hc : c ∈ p) : ∀ {l : List (List α)}, p ∈ l → c ∈ intercalate [sep] l
  | [q], h => by
    rw [List.mem_singleton.1 h] at hc
    simpa using hc
  | q :: r :: l, h => by
    rw [intercalate_cons_cons, mem_append, mem_append]
    rcases List.mem_cons.1 h with rfl | h
    · exact .inl (.inl hc)
    · exact .inr (mem_intercalate_of_mem hc h)

theorem eq_of_intercalate_nil {sep : α} : ∀ {l : List (List α)}, intercalate [sep] l = [] → l = [] ∨ l = [[]]
  | [], _ => .inl rfl
  | [p], h => .inr (by simpa using h)
  | p :: q :: l, h => by simp at h

/-- The last piece of a join, behind pieces and separators that do not depend on it. -/
theorem intercalate_concat {sep x : List α} : ∀ l : List (List α), intercalate sep (l ++ [x]) = l.flatMap (· ++ sep) ++ x
  | [] => by simp
  | [a] => by simp [intercalate_cons_cons]
  | a :: b :: l => by
    rw [cons_append, cons_append, intercalate_cons_cons, ← cons_append, intercalate_concat (b :: l)]
    simp

/-- **Pieces without the separator are read back from their join**, unless one side is none at all and the other a lone
empty piece. -/
theorem intercalate_inj [DecidableEq α] {sep : α} {as bs : List (List α)} (ha : ∀ p ∈ as, sep ∉ p) (hb : ∀ p ∈ bs, sep ∉ p)
    (hna : as ≠ [[]]) (hnb : bs ≠ [[]]) (h : intercalate [sep] as = intercalate [sep] bs) : as = bs := by
  by_cases ea : as = []
  · subst ea
    exact ((eq_of_intercalate_nil (h.symm.trans List.intercalate_nil)).resolve_right hnb).symm
  by_cases eb : bs = []
  · subst eb
    exact (eq_of_intercalate_nil (h.trans List.intercalate_nil)).resolve_right hna
  rw [← List.splitOn_intercalate sep ha ea, h, List.splitOn_intercalate sep hb eb]

theorem map_inj_on {β : Type} {f : β → List α} : ∀ {l l' : List β}, (∀ a ∈ l, ∀ b ∈ l', f a = f b → a = b) → l.map f = l'.map f → l = l'
  | [], [], _, _ => rfl
  | [], _ :: _, _, h => by cases h
  | _ :: _, [], _, h => by cases h
  | a :: l, b :: l', hinj, h => by
    simp only [map_cons, List.cons.injEq] at h
    rw [hinj a (by simp) b (by simp) h.1, map_inj_on (fun a ha b hb => hinj a (by simp [ha]) b (by simp [hb])) h.2]

end Fields
