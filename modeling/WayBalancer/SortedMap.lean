import Mathlib
/-!
# SortedMap — an ordered map as its list of entries

A map over a linearly ordered key type, listed by increasing key: what a `BTreeMap` is to the code that looks keys up,
inserts, removes, and iterates.  An insertion and a removal are known by the entries they leave up to order
(`insert_perm`, `erase_perm`), which is all that a size or a sum over the entries needs.
-/

/-- Entries by increasing key. -/
structure SortedMap (κ α : Type) [LinearOrder κ] where
  entries : List (κ × α)
  sorted : entries.Pairwise (fun a b => a.1 < b.1)

namespace SortedMap

open List (filter_sublist find?_some map_map mem_cons mem_filter mem_map mem_reverse mem_toFinset pairwise_map)

variable {κ α : Type} [LinearOrder κ]

def empty : SortedMap κ α := ⟨[], .nil⟩

def get? (m : SortedMap κ α) (k : κ) : Option α := (m.entries.find? (fun e => e.1 = k)).map (·.2)

def keys (m : SortedMap κ α) : List κ := m.entries.map (·.1)

def size (m : SortedMap κ α) : ℕ := m.entries.length

/-- The entries whose key passes. -/
def filterKeys (p : κ → Bool) (m : SortedMap κ α) : SortedMap κ α where
  entries := m.entries.filter (fun e => p e.1)
  sorted := m.sorted.sublist filter_sublist

def erase (m : SortedMap κ α) (k : κ) : SortedMap κ α := m.filterKeys (fun k' => k' ≠ k)

/-- `BTreeMap::retain`: the entries whose key and value pass. -/
def retain (p : κ → α → Bool) (m : SortedMap κ α) : SortedMap κ α where
  entries := m.entries.filter (fun e => p e.1 e.2)
  sorted := m.sorted.sublist filter_sublist

def insert (m : SortedMap κ α) (k : κ) (v : α) : SortedMap κ α where
  entries := m.entries.filter (fun e => e.1 < k) ++ (k, v) :: m.entries.filter (fun e => k < e.1)
  sorted := by
    refine List.pairwise_append.2 ⟨m.sorted.sublist filter_sublist,
      List.pairwise_cons.2 ⟨fun e he => ?_, m.sorted.sublist filter_sublist⟩, fun a ha b hb => ?_⟩
    · exact of_decide_eq_true (mem_filter.1 he).2
    · have hak : a.1 < k := of_decide_eq_true (mem_filter.1 ha).2
      rcases mem_cons.1 hb with rfl | hb
      · exact hak
      · exact lt_trans hak (of_decide_eq_true (mem_filter.1 hb).2)

/-- The value under a key changed, where there is one. -/
def modify (m : SortedMap κ α) (k : κ) (f : α → α) : SortedMap κ α where
  entries := m.entries.map (fun e => if e.1 = k then (e.1, f e.2) else e)
  sorted := by
    refine pairwise_map.2 (m.sorted.imp (fun {a b} hab => ?_))
    split <;> split <;> exact hab

/-- Every value changed. -/
def mapValues {β : Type} (f : κ → α → β) (m : SortedMap κ α) : SortedMap κ β where
  entries := m.entries.map (fun e => (e.1, f e.1 e.2))
  sorted := pairwise_map.2 m.sorted

/-- The entries inserted in turn, so that of two under one key the later stays. -/
def ofList (l : List (κ × α)) : SortedMap κ α := l.foldl (fun m e => m.insert e.1 e.2) .empty

variable {m : SortedMap κ α}

variable {m' : SortedMap κ α}

theorem entries_injective (h : m.entries = m'.entries) : m = m' := by
  cases m; cases m'; simp only at h; subst h; rfl

/-! ## Membership -/

variable {k : κ}

variable {v : α}

theorem eq_of_mem {w : α} (hv : (k, v) ∈ m.entries) (hw : (k, w) ∈ m.entries) : v = w := by
  have hinj : ∀ (l : List (κ × α)), l.Pairwise (fun a b => a.1 < b.1) → (k, v) ∈ l → (k, w) ∈ l → v = w := by
    intro l hl
    induction hl with
    | nil => intro h; cases h
    | cons hlt _ ih =>
      intro h₁ h₂
      rcases mem_cons.1 h₁ with e₁ | h₁ <;> rcases mem_cons.1 h₂ with e₂ | h₂
      · exact (Prod.mk.inj (e₁.trans e₂.symm)).2
      · exact absurd (hlt _ h₂) (by rw [← e₁]; exact lt_irrefl k)
      · exact absurd (hlt _ h₁) (by rw [← e₂]; exact lt_irrefl k)
      · exact ih h₁ h₂
  exact hinj m.entries m.sorted hv hw

theorem get?_eq_some : m.get? k = some v ↔ (k, v) ∈ m.entries := by
  unfold get?
  rw [Option.map_eq_some_iff]
  constructor
  · rintro ⟨⟨k', v'⟩, hf, rfl⟩
    have hk : k' = k := by simpa using find?_some hf
    subst hk
    exact List.mem_of_find?_eq_some hf
  · intro h
    cases hf : m.entries.find? (fun e => e.1 = k) with
    | none =>
      have hn := List.find?_eq_none.1 hf (k, v) h
      simp at hn
    | some e =>
      have hk : e.1 = k := by simpa using find?_some hf
      have hm : (k, e.2) ∈ m.entries := by rw [← hk]; exact List.mem_of_find?_eq_some hf
      exact ⟨e, rfl, eq_of_mem hm h⟩

theorem get?_eq_none : m.get? k = none ↔ ∀ v, (k, v) ∉ m.entries := by
  constructor
  · intro h v hv
    rw [get?_eq_some.2 hv] at h
    cases h
  · intro h
    cases hg : m.get? k with
    | none => rfl
    | some v => exact absurd (get?_eq_some.1 hg) (h v)

theorem mem_filterKeys {p : κ → Bool} {e : κ × α} : e ∈ (m.filterKeys p).entries ↔ e ∈ m.entries ∧ p e.1 = true := mem_filter

theorem mem_erase {e : κ × α} : e ∈ (m.erase k).entries ↔ e ∈ m.entries ∧ e.1 ≠ k := by
  unfold erase
  rw [mem_filterKeys, decide_eq_true_eq]

section
variable (m : SortedMap κ α)

theorem get?_filterKeys (p : κ → Bool) (k : κ) : (m.filterKeys p).get? k = if p k then m.get? k else none := by
  split_ifs with hp
  · cases hg : m.get? k with
    | none => exact get?_eq_none.2 (fun v hv => get?_eq_none.1 hg v (mem_filterKeys.1 hv).1)
    | some v => exact get?_eq_some.2 (mem_filterKeys.2 ⟨get?_eq_some.1 hg, hp⟩)
  · exact get?_eq_none.2 (fun v hv => hp (mem_filterKeys.1 hv).2)

theorem get?_erase (k k' : κ) : (m.erase k).get? k' = if k' = k then none else m.get? k' := by
  unfold erase
  rw [get?_filterKeys]
  by_cases h : k' = k <;> simp [h]

theorem get?_retain (p : κ → α → Bool) (k : κ) : (m.retain p).get? k = (m.get? k).filter (p k) := by
  refine Option.ext (fun v => ?_)
  rw [get?_eq_some, Option.filter_eq_some_iff, get?_eq_some]
  exact mem_filter

/-! ## What is left, up to order -/

theorem entries_nodup : m.entries.Nodup :=
  m.sorted.imp (fun {a b} hab he => by rw [he] at hab; exact lt_irrefl _ hab)

theorem cons_erase_nodup (k : κ) (v : α) : ((k, v) :: (m.erase k).entries).Nodup :=
  List.nodup_cons.2 ⟨fun h => (mem_erase.1 h).2 rfl, (m.erase k).entries_nodup⟩

theorem insert_perm (k : κ) (v : α) : (m.insert k v).entries.Perm ((k, v) :: (m.erase k).entries) := by
  refine (List.perm_ext_iff_of_nodup (m.insert k v).entries_nodup (m.cons_erase_nodup k v)).2 (fun e => ?_)
  simp only [insert, List.mem_append, mem_cons, mem_filter, decide_eq_true_eq, mem_erase]
  constructor
  · rintro (⟨he, hlt⟩ | rfl | ⟨he, hlt⟩)
    · exact .inr ⟨he, ne_of_lt hlt⟩
    · exact .inl rfl
    · exact .inr ⟨he, (ne_of_lt hlt).symm⟩
  · rintro (rfl | ⟨he, hne⟩)
    · exact .inr (.inl rfl)
    · rcases lt_or_gt_of_ne hne with hlt | hlt
      · exact .inl ⟨he, hlt⟩
      · exact .inr (.inr ⟨he, hlt⟩)

end

theorem erase_perm (h : m.get? k = some v) : m.entries.Perm ((k, v) :: (m.erase k).entries) := by
  refine (List.perm_ext_iff_of_nodup m.entries_nodup (m.cons_erase_nodup k v)).2 (fun e => ?_)
  rw [mem_cons, mem_erase]
  constructor
  · intro he
    by_cases hk : e.1 = k
    · have hv : e.2 = v := eq_of_mem (k := k) (by rw [← hk]; exact he) (get?_eq_some.1 h)
      exact .inl (Prod.ext hk hv)
    · exact .inr ⟨he, hk⟩
  · rintro (rfl | ⟨he, -⟩)
    · exact get?_eq_some.1 h
    · exact he

theorem erase_of_none (h : m.get? k = none) : m.erase k = m := by
  refine entries_injective (List.filter_eq_self.2 (fun e he => ?_))
  rw [decide_eq_true_eq]
  rintro rfl
  exact get?_eq_none.1 h e.2 he

theorem eq_of_get? (h : ∀ k, m.get? k = m'.get? k) : m = m' := by
  have hperm : m.entries.Perm m'.entries :=
    (List.perm_ext_iff_of_nodup m.entries_nodup m'.entries_nodup).2 (fun e => by
      rw [← get?_eq_some, ← get?_eq_some, h])
  refine entries_injective (List.Perm.eq_of_pairwise (fun a b _ _ hab hba => ?_) m.sorted m'.sorted hperm)
  exact absurd (lt_trans hab hba) (lt_irrefl _)

variable {β : Type}

section
variable (m : SortedMap κ α)

theorem map_modify (k : κ) (f : α → α) (g : κ → α → β) (hg : ∀ k v, g k (f v) = g k v) :
    (m.modify k f).entries.map (fun e => g e.1 e.2) = m.entries.map (fun e => g e.1 e.2) := by
  show (m.entries.map _).map _ = _
  rw [map_map]
  refine List.map_congr_left (fun e _ => ?_)
  show g (if e.1 = k then (e.1, f e.2) else e).1 (if e.1 = k then (e.1, f e.2) else e).2 = _
  split
  · exact hg e.1 e.2
  · rfl

theorem get?_modify (k k' : κ) (f : α → α) : (m.modify k f).get? k' = if k' = k then (m.get? k').map f else m.get? k' := by
  have hmem : ∀ v, (k', v) ∈ (m.modify k f).entries ↔ ∃ w, (k', w) ∈ m.entries ∧ v = if k' = k then f w else w := by
    intro v
    simp only [modify, mem_map]
    constructor
    · rintro ⟨⟨k₁, w⟩, he, h⟩
      split at h
      · rename_i hk
        obtain ⟨rfl, rfl⟩ := Prod.mk.inj h
        exact ⟨w, he, (if_pos hk).symm⟩
      · rename_i hk
        obtain ⟨rfl, rfl⟩ := Prod.mk.inj h
        exact ⟨w, he, (if_neg hk).symm⟩
    · rintro ⟨w, he, rfl⟩
      refine ⟨(k', w), he, ?_⟩
      by_cases hk : k' = k <;> simp [hk]
  cases hg : m.get? k' with
  | none =>
    have hn : (m.modify k f).get? k' = none := get?_eq_none.2 (fun v hv => by
      obtain ⟨w, hw, -⟩ := (hmem v).1 hv
      exact get?_eq_none.1 hg w hw)
    rw [hn]
    split <;> rfl
  | some w =>
    rw [get?_eq_some.2 ((hmem _).2 ⟨w, get?_eq_some.1 hg, rfl⟩)]
    split <;> rfl

theorem get?_mapValues (f : κ → α → β) (k : κ) : (m.mapValues f).get? k = (m.get? k).map (f k) := by
  cases hg : m.get? k with
  | none =>
    refine get?_eq_none.2 (fun w hw => ?_)
    obtain ⟨⟨k', v⟩, he, heq⟩ := mem_map.1 hw
    obtain ⟨rfl, -⟩ := Prod.mk.inj heq
    exact get?_eq_none.1 hg v he
  | some v => exact get?_eq_some.2 (mem_map.2 ⟨(k, v), get?_eq_some.1 hg, rfl⟩)

theorem get?_insert (k k' : κ) (v : α) : (m.insert k v).get? k' = if k' = k then some v else m.get? k' := by
  have hmem : ∀ e, e ∈ (m.insert k v).entries ↔ e = (k, v) ∨ (e ∈ m.entries ∧ e.1 ≠ k) := fun e => by
    rw [(m.insert_perm k v).mem_iff, mem_cons, mem_erase]
  split_ifs with h
  · rw [h]
    exact get?_eq_some.2 ((hmem _).2 (.inl rfl))
  · cases hg : m.get? k' with
    | none =>
      refine get?_eq_none.2 (fun w hw => ?_)
      rcases (hmem _).1 hw with e | ⟨hw, -⟩
      · exact h (Prod.mk.inj e).1
      · exact get?_eq_none.1 hg w hw
    | some w => exact get?_eq_some.2 ((hmem _).2 (.inr ⟨get?_eq_some.1 hg, h⟩))

end

theorem insert_self (h : m.get? k = some v) : m.insert k v = m := by
  refine eq_of_get? (fun k' => ?_)
  rw [get?_insert]
  split
  · rename_i hk
    rw [hk, h]
  · rfl

/-! ## Lists of entries -/

theorem get?_foldl_insert (k : κ) : ∀ (l : List (κ × α)) (m : SortedMap κ α),
    (l.foldl (fun m e => m.insert e.1 e.2) m).get? k = ((l.reverse.find? (fun e => e.1 = k)).map (·.2)).or (m.get? k)
  | [], m     => rfl
  | e :: l, m => by
    rw [List.foldl_cons, get?_foldl_insert k l, List.reverse_cons, List.find?_append, get?_insert]
    cases l.reverse.find? (fun e => e.1 = k) with
    | some _ => rfl
    | none =>
      by_cases hk : e.1 = k
      · simp [hk]
      · simp [hk, Ne.symm hk]

theorem get?_ofList (l : List (κ × α)) (k : κ) : (ofList l).get? k = (l.reverse.find? (fun e => e.1 = k)).map (·.2) := by
  rw [ofList, get?_foldl_insert]
  exact Option.or_none

theorem get?_ofList_map (f : α → β) (l : List (κ × α)) (k : κ) :
    (ofList (l.map (fun e => (e.1, f e.2)))).get? k = ((ofList l).get? k).map f := by
  rw [get?_ofList, get?_ofList, ← List.map_reverse, List.find?_map]
  cases h : l.reverse.find? ((fun e => decide (e.1 = k)) ∘ fun e => (e.1, f e.2)) with
  | none =>
    have h' : l.reverse.find? (fun e => decide (e.1 = k)) = none := h
    rw [h']
    rfl
  | some e =>
    have h' : l.reverse.find? (fun e => decide (e.1 = k)) = some e := h
    rw [h']
    rfl

variable {l : List (κ × α)}

theorem mem_of_get?_ofList (h : (ofList l).get? k = some v) : (k, v) ∈ l := by
  rw [get?_ofList, Option.map_eq_some_iff] at h
  obtain ⟨e, he, rfl⟩ := h
  obtain rfl : e.1 = k := by simpa using find?_some he
  exact mem_reverse.1 (List.mem_of_find?_eq_some he)

/-! ## Keys and sizes -/

theorem mem_keys : k ∈ m.keys ↔ (m.get? k).isSome = true := by
  rw [keys, mem_map, Option.isSome_iff_exists]
  constructor
  · rintro ⟨⟨k', v⟩, he, rfl⟩
    exact ⟨v, get?_eq_some.2 he⟩
  · rintro ⟨v, hv⟩
    exact ⟨(k, v), get?_eq_some.1 hv, rfl⟩

theorem mem_keys_ofList : k ∈ (ofList l).keys ↔ k ∈ l.map (·.1) := by
  rw [mem_keys, get?_ofList, Option.isSome_map, List.find?_isSome, mem_map]
  simp only [mem_reverse, decide_eq_true_eq]

theorem get?_ofList_eq_some (hl : (l.map (·.1)).Nodup) : (ofList l).get? k = some v ↔ (k, v) ∈ l := by
  refine ⟨mem_of_get?_ofList, fun hmem => ?_⟩
  obtain ⟨w, hw⟩ := Option.isSome_iff_exists.1 (mem_keys.1 (mem_keys_ofList.2 (List.mem_map_of_mem hmem)))
  obtain rfl : w = v := congrArg Prod.snd (List.inj_on_of_nodup_map hl (mem_of_get?_ofList hw) hmem rfl)
  exact hw

theorem get?_ofList_eq_iff_perm {key : α → κ} {l l' : List α} (hl : (l.map key).Nodup) (hl' : (l'.map key).Nodup) :
    (∀ k, (ofList (l.map (fun x => (key x, x)))).get? k = (ofList (l'.map (fun x => (key x, x)))).get? k) ↔ l.Perm l' := by
  have hlo : ∀ {xs : List α}, (xs.map key).Nodup → ∀ k x,
      (ofList (xs.map (fun x => (key x, x)))).get? k = some x ↔ x ∈ xs ∧ key x = k := by
    intro xs hxs k x
    have hk : ((xs.map (fun x => (key x, x))).map (·.1)).Nodup := by
      rw [map_map]
      exact hxs
    rw [get?_ofList_eq_some hk, mem_map]
    constructor
    · rintro ⟨y, hy, hp⟩
      cases hp
      exact ⟨hy, rfl⟩
    · rintro ⟨hx, rfl⟩
      exact ⟨x, hx, rfl⟩
  rw [List.perm_ext_iff_of_nodup (List.Nodup.of_map _ hl) (List.Nodup.of_map _ hl')]
  constructor
  · intro h x
    have hx := h (key x)
    rw [Option.ext_iff] at hx
    have hiff := hx x
    rw [hlo hl, hlo hl'] at hiff
    simpa using hiff
  · intro h k
    refine Option.ext fun x => ?_
    rw [hlo hl, hlo hl', h x]

theorem keys_nodup (m : SortedMap κ α) : m.keys.Nodup := pairwise_map.2 (m.sorted.imp (fun hlt => ne_of_lt hlt))

theorem size_erase_le (m : SortedMap κ α) (k : κ) : (m.erase k).size ≤ m.size := List.length_filter_le _ _

theorem size_insert_of_none (h : m.get? k = none) (v : α) : (m.insert k v).size = m.size + 1 := by
  have hperm := (m.insert_perm k v).length_eq
  rwa [erase_of_none h] at hperm

theorem size_insert_of_some {w : α} (h : m.get? k = some w) (v : α) : (m.insert k v).size = m.size := by
  have hins := (m.insert_perm k v).length_eq
  have hera := (erase_perm h).length_eq
  exact hins.trans hera.symm

theorem size_lt_card {K : Finset κ} (hK : ∀ k, (m.get? k).isSome = true → k ∈ K) (hk : k ∈ K) (hn : m.get? k = none) :
    m.size < K.card := by
  have hc : m.size = m.keys.toFinset.card := by
    rw [List.toFinset_card_of_nodup m.keys_nodup]
    exact (List.length_map _).symm
  rw [hc]
  refine Finset.card_lt_card (Finset.ssubset_iff_subset_ne.2 ⟨fun k' hk' => ?_, fun he => ?_⟩)
  · exact hK k' (mem_keys.1 (mem_toFinset.1 hk'))
  · rw [← he, mem_toFinset, mem_keys, hn] at hk
    cases hk

theorem sum_values [AddCommMonoid α] (m : SortedMap κ α) {S : Finset κ} (hS : ∀ k, (m.get? k).isSome = true ↔ k ∈ S) :
    (m.entries.map (·.2)).sum = ∑ k ∈ S, (m.get? k).getD 0 := by
  have hk : m.keys.toFinset = S := by
    ext k
    rw [mem_toFinset, ← hS, mem_keys]
  rw [← hk, List.sum_toFinset _ m.keys_nodup, keys, map_map]
  congr 1
  refine List.map_congr_left (fun e he => ?_)
  have hget : m.get? e.1 = some e.2 := get?_eq_some.2 he
  rw [Function.comp_apply, hget, Option.getD_some]

end SortedMap
