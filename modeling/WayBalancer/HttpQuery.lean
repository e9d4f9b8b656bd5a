import WayBalancer.Fields
import WayBalancer.HttpPercent
/-!
# HttpQuery — query pairs, raw and canonical

A query is its raw pairs between ampersands.  Each of them is canonicalized on its own and the results are sorted, so the
order of the raw pairs does not matter (`canonicalizePairs_perm`).  A canonical pair of ASCII text is read back from its
rendering (`canonicalizePair_renderPair`), except the pair of an empty name and an empty value, which renders as nothing.
-/
namespace WayBalancer

open Str

/-! ## One pair -/

section Pair

variable {raw : Text} {pair : Text × Text} (h : canonicalizePair raw = .ok pair)
include h

/-- The bytes of a raw pair are the characters of its canonical pair, and an equals sign. -/
theorem canonicalizePair_byteLen : byteLen raw = pair.1.length + pair.2.length + if '=' ∈ raw then 1 else 0 := by
  obtain ⟨-, hn, hval⟩ := canonicalizePair_iff.1 h
  rw [canonicalizePercentEncoded_length hn, canonicalizePercentEncoded_length hval]
  rcases splitOnce_cases '=' raw with heq | ⟨name, value, heq, rfl⟩
  · rw [splitPair_of_notMem heq, if_neg heq]
    rfl
  · rw [splitPair_append heq, if_pos (by simp), ← List.singleton_append, byteLen_append, byteLen_append,
      byteLen_of_isAscii (s := ['=']) (by decide), List.length_singleton]
    dsimp only
    omega

theorem length_renderPair_le : (renderPair pair).length ≤ byteLen raw := by
  have hlen := canonicalizePair_byteLen h
  unfold renderPair
  by_cases hval : pair.2 = []
  · rw [if_pos (List.isEmpty_iff.2 hval)]
    omega
  · -- a value that is not empty came behind an equals sign
    have heq : '=' ∈ raw := by
      by_contra heq
      obtain ⟨-, -, hv⟩ := canonicalizePair_iff.1 h
      rw [splitPair_of_notMem heq] at hv
      exact hval ((canonicalizePercentEncoded_nil_iff hv).2 rfl)
    rw [if_pos heq] at hlen
    rw [if_neg (fun he => hval (List.isEmpty_iff.1 he)), List.length_append, List.length_cons]
    omega

theorem countP_renderPair {f : Char → Bool} (hf : Beyond f) : (renderPair pair).countP f = byteCount f raw := by
  obtain ⟨-, hn, hval⟩ := canonicalizePair_iff.1 h
  have heq : ¬ f '=' = true := fun hp => absurd (hf _ hp) (by decide)
  have hren : (renderPair pair).countP f = pair.1.countP f + pair.2.countP f := by
    unfold renderPair
    split_ifs with he
    · rw [List.isEmpty_iff.1 he]
      rfl
    · rw [List.countP_append, List.countP_cons_of_neg heq]
  rw [hren, countP_canonicalizePercentEncoded hn hf, countP_canonicalizePercentEncoded hval hf]
  rcases splitOnce_cases '=' raw with hno | ⟨name, value, hno, rfl⟩
  · rw [splitPair_of_notMem hno]
    rfl
  · rw [splitPair_append hno, byteCount_append, byteCount_cons, byteCount_of_ascii hf (by decide), Nat.zero_add]

theorem renderPair_small : ∀ c ∈ renderPair pair, c.toNat < 256 := by
  obtain ⟨-, hn, hval⟩ := canonicalizePair_iff.1 h
  intro c hc
  rcases mem_renderPair hc with hc | rfl | hc
  · exact canonicalizePercentEncoded_small hn c hc
  · decide
  · exact canonicalizePercentEncoded_small hval c hc

theorem canonicalizePair_eq_nil_iff : pair = ([], []) ↔ raw = lit "=" := by
  obtain ⟨hne, hn, hval⟩ := canonicalizePair_iff.1 h
  rw [Prod.ext_iff, canonicalizePercentEncoded_nil_iff hn, canonicalizePercentEncoded_nil_iff hval]
  rcases splitOnce_cases '=' raw with heq | ⟨name, value, heq, rfl⟩
  · rw [splitPair_of_notMem heq]
    refine iff_of_false (fun hnil => hne hnil.1) (fun e => heq ?_)
    rw [e]
    decide
  · rw [splitPair_append heq]
    constructor
    · rintro ⟨rfl, rfl⟩
      rfl
    · intro e
      cases name with
      | nil => exact ⟨rfl, (List.cons.inj e).2⟩
      | cons c name =>
        have hr := (List.cons.inj e).2
        simp at hr

/-- **A canonical pair of ASCII text is read back from its rendering.** -/
theorem canonicalizePair_renderPair (hne : pair ≠ ([], [])) (hasc : IsAscii (renderPair pair)) :
    canonicalizePair (renderPair pair) = .ok pair := by
  obtain ⟨-, hn, hval⟩ := canonicalizePair_iff.1 h
  have heq : '=' ∉ pair.1 := by
    obtain ⟨name, -, heq, -, -, hn', -⟩ := canonicalizePair_ok h
    exact fun hm => heq (mem_canonicalizePercentEncoded hn' (by decide) (by decide) hm)
  rw [canonicalizePair_iff]
  unfold renderPair at hasc ⊢
  by_cases hnil : pair.2 = []
  · have hname_ne : pair.1 ≠ [] := fun e => hne (Prod.ext e hnil)
    rw [if_pos (List.isEmpty_iff.2 hnil)] at hasc ⊢
    rw [splitPair_of_notMem heq, hnil]
    exact ⟨hname_ne, canonicalizePercentEncoded_again hn hasc, rfl⟩
  · rw [if_neg (fun he => hnil (List.isEmpty_iff.1 he))] at hasc ⊢
    obtain ⟨hasc1, hasc2⟩ := isAscii_append.1 hasc
    rw [splitPair_append heq]
    exact ⟨by simp, canonicalizePercentEncoded_again hn hasc1, canonicalizePercentEncoded_again hval (isAscii_cons.1 hasc2).2⟩

end Pair

def asciiPair (raw : Text) : Text × Text := (upcaseEscapes (splitPair raw).1, upcaseEscapes (splitPair raw).2)

theorem canonicalizePair_ascii (h : canonicalizePair raw = .ok pair) (hraw : IsAscii raw) : pair = asciiPair raw := by
  obtain ⟨-, hn, hval⟩ := canonicalizePair_iff.1 h
  have hspl : IsAscii (splitPair raw).1 ∧ IsAscii (splitPair raw).2 := by
    rcases splitOnce_cases '=' raw with heq | ⟨name, value, heq, rfl⟩
    · rw [splitPair_of_notMem heq]
      exact ⟨hraw, nofun⟩
    · rw [splitPair_append heq]
      obtain ⟨h1, h2⟩ := isAscii_append.1 hraw
      exact ⟨h1, (isAscii_cons.1 h2).2⟩
  exact Prod.ext (canonicalizePercentEncoded_ascii hspl.1 hn) (canonicalizePercentEncoded_ascii hspl.2 hval)

/-! ## The pairs of a query -/

theorem canonicalizePairs_iff : ∀ {raws : List Text} {pairs : List (Text × Text)},
    canonicalizePairs raws = .ok pairs ↔ List.Forall₂ (fun raw pair => canonicalizePair raw = .ok pair) raws pairs
  | [], pairs => by
    constructor
    · intro h
      cases h
      exact .nil
    · intro h
      cases h
      rfl
  | raw :: raws, pairs => by
    rw [canonicalizePairs]
    constructor
    · intro h
      cases hraw : canonicalizePair raw with
      | error e => rw [hraw] at h; cases h
      | ok pair =>
        cases hr : canonicalizePairs raws with
        | error e => rw [hraw, hr] at h; cases h
        | ok rest =>
          rw [hraw, hr] at h
          cases h
          exact .cons hraw (canonicalizePairs_iff.1 hr)
    · intro h
      cases h with
      | cons hraw hr =>
        rw [hraw, canonicalizePairs_iff.2 hr]
        rfl

variable {pairs : List (Text × Text)}

variable {raws : List Text}

/-- **Reordered raw pairs give the same pairs, reordered.** -/
theorem canonicalizePairs_perm {raws' : List Text} (hp : raws'.Perm raws) (h : canonicalizePairs raws = .ok pairs) :
    ∃ pairs', canonicalizePairs raws' = .ok pairs' ∧ pairs'.Perm pairs := by
  obtain ⟨pairs', hall, hperm⟩ := List.perm_comp_forall₂ hp (canonicalizePairs_iff.1 h)
  exact ⟨pairs', canonicalizePairs_iff.2 hall, hperm⟩

instance : Std.Total pairLe := ⟨fun a b => le_total (toLex a) (toLex b)⟩

instance : IsTrans (Text × Text) pairLe := ⟨fun _ _ _ => le_trans (α := Text ×ₗ Text)⟩

instance : Std.Antisymm pairLe := ⟨fun _ _ h h' => toLex.injective (le_antisymm h h')⟩

theorem insertionSort_pairs_congr {l l' : List (Text × Text)} (h : l.Perm l') : l.insertionSort pairLe = l'.insertionSort pairLe :=
  ((List.perm_insertionSort pairLe l).trans (h.trans (List.perm_insertionSort pairLe l').symm)).eq_of_pairwise'
    (List.pairwise_insertionSort pairLe l) (List.pairwise_insertionSort pairLe l')

def rawPairs (query : Text) : List Text := if query.isEmpty then [] else query.splitOn '&'

variable {query : Text}

theorem rawPairs_of_ne_nil (h : query ≠ []) : rawPairs query = query.splitOn '&' :=
  if_neg (fun he => h (List.isEmpty_iff.1 he))

theorem joinWith_rawPairs (query : Text) : joinWith (lit "&") (rawPairs query) = query := by
  by_cases h : query = []
  · rw [h]
    rfl
  · rw [rawPairs_of_ne_nil h]
    exact List.intercalate_splitOn '&'

theorem amp_notMem_rawPairs (h : raw ∈ rawPairs query) : '&' ∉ raw := by
  unfold rawPairs at h
  split_ifs at h
  · cases h
  · exact (mem_splitOn h).1

theorem rawPairs_joinWith (hamp : ∀ raw ∈ raws, '&' ∉ raw) (hne : joinWith (lit "&") raws ≠ []) :
    rawPairs (joinWith (lit "&") raws) = raws := by
  have hr : raws ≠ [] := by
    rintro rfl
    exact hne rfl
  rw [rawPairs_of_ne_nil hne]
  exact List.splitOn_intercalate '&' hamp hr

theorem canonicalizeQueryPairs_iff : canonicalizeQueryPairs query = .ok pairs ↔
    ∃ l, canonicalizePairs (rawPairs query) = .ok l ∧ pairs = l.insertionSort pairLe := by
  unfold canonicalizeQueryPairs rawPairs
  split_ifs with hemp
  · constructor
    · intro h
      cases h
      exact ⟨[], rfl, rfl⟩
    · rintro ⟨l, hl, rfl⟩
      cases hl
      rfl
  · constructor
    · intro h
      cases hl : canonicalizePairs (query.splitOn '&') with
      | error e => rw [hl] at h; cases h
      | ok l =>
        rw [hl] at h
        cases h
        exact ⟨l, rfl, rfl⟩
    · rintro ⟨l, hl, rfl⟩
      rw [hl]
      rfl

/-! ## Measures of a query -/

/-- What adds up over a text adds up over its pieces and the separators between them. -/
theorem measure_joinWith {μ : Text → ℕ} (hμ : ∀ a b, μ (a ++ b) = μ a + μ b) (sep : Text) :
    ∀ l : List Text, μ (joinWith sep l) = (l.map μ).sum + (l.length - 1) * μ sep
  | [] => by
    have h := hμ [] []
    rw [List.append_nil] at h
    simp only [joinWith, List.intercalate_nil, List.map_nil, List.sum_nil, List.length_nil]
    omega
  | [a] => by simp [joinWith]
  | a :: b :: l => by
    have ih := measure_joinWith hμ sep (b :: l)
    unfold joinWith at ih ⊢
    rw [List.intercalate_cons_cons, hμ, hμ, ih]
    simp only [List.map_cons, List.sum_cons, List.length_cons, Nat.add_sub_cancel, Nat.succ_mul]
    omega

section Query

variable {query : Text} {pairs : List (Text × Text)} (h : canonicalizeQueryPairs query = .ok pairs)
include h

theorem canonicalizeQueryPairs_forall₂ :
    ∃ l, List.Forall₂ (fun raw pair => canonicalizePair raw = .ok pair) (rawPairs query) l ∧ pairs.Perm l := by
  obtain ⟨l, hl, rfl⟩ := canonicalizeQueryPairs_iff.1 h
  exact ⟨l, canonicalizePairs_iff.1 hl, List.perm_insertionSort pairLe l⟩

theorem length_pairs : pairs.length = (rawPairs query).length := by
  obtain ⟨l, hall, hperm⟩ := canonicalizeQueryPairs_forall₂ h
  rw [hperm.length_eq, hall.length_eq]

theorem exists_raw (hp : pair ∈ pairs) : ∃ raw ∈ rawPairs query, canonicalizePair raw = .ok pair := by
  obtain ⟨l, hl, rfl⟩ := canonicalizeQueryPairs_iff.1 h
  exact canonicalizePairs_mem hl ((List.perm_insertionSort pairLe l).mem_iff.1 hp)

theorem exists_pair (hraw : raw ∈ rawPairs query) : ∃ pair ∈ pairs, canonicalizePair raw = .ok pair := by
  obtain ⟨l, hall, hperm⟩ := canonicalizeQueryPairs_forall₂ h
  obtain ⟨i, hi, e⟩ := List.mem_iff_getElem.1 hraw
  have hi' : i < l.length := hall.length_eq ▸ hi
  refine ⟨l[i], hperm.mem_iff.2 (List.getElem_mem hi'), ?_⟩
  rw [← e]
  exact hall.get hi hi'

theorem countP_canonicalQuery {f : Char → Bool} (hf : Beyond f) :
    (joinWith (lit "&") (pairs.map renderPair)).countP f = byteCount f query := by
  obtain ⟨l, hall, hperm⟩ := canonicalizeQueryPairs_forall₂ h
  have hamp : (lit "&").countP f = 0 := by
    rw [List.countP_eq_zero]
    intro c hc hp
    rw [List.mem_singleton.1 hc] at hp
    exact absurd (hf _ hp) (by decide)
  have hmap : l.map (fun pair => (renderPair pair).countP f) = (rawPairs query).map (byteCount f) := by
    rw [← List.forall₂_eq_eq_eq, List.forall₂_map_left_iff, List.forall₂_map_right_iff]
    exact (hall.imp (fun _ _ hraw => countP_renderPair hraw hf)).flip
  have hamp' : byteCount f (lit "&") = 0 := byteCount_of_ascii (c := '&') hf (by decide)
  rw [measure_joinWith (fun _ _ => List.countP_append), hamp, List.map_map]
  conv_rhs => rw [← joinWith_rawPairs query, measure_joinWith (byteCount_append f), hamp']
  rw [← hmap]
  exact congrArg (· + 0) ((hperm.map _).sum_eq)

theorem length_canonicalQuery_le : (joinWith (lit "&") (pairs.map renderPair)).length ≤ byteLen query := by
  obtain ⟨l, hall, hperm⟩ := canonicalizeQueryPairs_forall₂ h
  have hsum : (l.map (fun pair => (renderPair pair).length)).sum ≤ ((rawPairs query).map byteLen).sum := by
    apply List.Forall₂.sum_le_sum
    rw [List.forall₂_map_left_iff, List.forall₂_map_right_iff]
    exact (hall.imp (fun _ _ hraw => length_renderPair_le hraw)).flip
  have hamp : byteLen (lit "&") = 1 := by decide
  rw [measure_joinWith (fun _ _ => List.length_append), List.map_map, List.length_map, length_pairs h]
  conv_rhs => rw [← joinWith_rawPairs query, measure_joinWith byteLen_append, hamp]
  refine Nat.add_le_add ?_ (Nat.le_refl _)
  calc (pairs.map (List.length ∘ renderPair)).sum
    _ = (l.map (fun pair => (renderPair pair).length)).sum := (hperm.map _).sum_eq
    _ ≤ ((rawPairs query).map byteLen).sum := hsum

end Query

/-! ## Reordered queries -/

theorem endsPlain_front (l : List Text) : EndsPlain (l.flatMap (· ++ lit "&")) := by
  induction l using List.reverseRecOn with
  | nil => exact endsPlain_nil
  | append_singleton l x _ =>
    rw [List.flatMap_append, List.flatMap_singleton, ← List.append_assoc]
    exact endsPlain_concat.2 (by decide)

theorem joinWith_concat (l : List Text) (x : Text) : joinWith (lit "&") (l ++ [x]) = l.flatMap (· ++ lit "&") ++ x :=
  Fields.intercalate_concat _

theorem trimEnd_joinWith (l : List Text) (x : Text) :
    trimEnd (joinWith (lit "&") (l ++ [x])) = joinWith (lit "&") (l ++ [trimEnd x]) := by
  rw [joinWith_concat, joinWith_concat, trimEnd_append (endsPlain_front l)]

theorem canonicalizePairs_concat : canonicalizePairs (raws ++ [raw]) = .ok pairs ↔
      ∃ rest pair, canonicalizePairs raws = .ok rest ∧ canonicalizePair raw = .ok pair ∧ pairs = rest ++ [pair] := by
  constructor
  · intro h
    have hall := (canonicalizePairs_iff.1 h).flip
    have hr := (List.forall₂_take_append pairs raws [raw] hall).flip
    have hl := (List.forall₂_drop_append pairs raws [raw] hall).flip
    obtain ⟨pair, rest, hp, hnil, hd⟩ := List.forall₂_cons_left_iff.1 hl
    rw [List.forall₂_nil_left_iff.1 hnil] at hd
    refine ⟨pairs.take raws.length, pair, canonicalizePairs_iff.2 hr, hp, ?_⟩
    rw [← hd, List.take_append_drop]
  · rintro ⟨rest, pair, hr, hp, rfl⟩
    exact canonicalizePairs_iff.2 (List.rel_append (canonicalizePairs_iff.1 hr) (.cons hp .nil))

theorem endsPlain_of_same_pair (h : canonicalizePair raw = .ok pair) (ht : canonicalizePair (trimEnd raw) = .ok pair) :
    EndsPlain raw := by
  obtain ⟨blank, e, hbla⟩ := exists_trimmed raw
  have heq : '=' ∈ raw ↔ '=' ∈ trimEnd raw := by
    conv_lhs => rw [e]
    rw [List.mem_append]
    refine or_iff_left (fun hm => ?_)
    exact absurd (hbla _ hm) (by decide)
  have hlen : byteLen raw = byteLen (trimEnd raw) := by
    rw [canonicalizePair_byteLen h, canonicalizePair_byteLen ht]
    simp only [heq]
  have hnil : blank = [] := by
    rw [← byteLen_eq_zero]
    have hsum : byteLen raw = byteLen (trimEnd raw) + byteLen blank := by
      conv_lhs => rw [e]
      exact byteLen_append _ _
    omega
  rw [hnil, List.append_nil] at e
  exact trimEnd_eq_self.1 e.symm

section Reordered

variable {query : Text} {pairs : List (Text × Text)} (h : canonicalizeQueryPairs query = .ok pairs)
include h

theorem reordered_of_endsPlain (hpla : ∀ raw ∈ rawPairs query, EndsPlain raw) {raws : List Text}
    (hp : raws.Perm (query.splitOn '&')) : canonicalizeQueryPairs (trimEnd (joinWith (lit "&") raws)) = .ok pairs := by
  by_cases hemp : query = []
  · subst hemp
    rw [List.perm_singleton.1 hp]
    exact h
  rw [← rawPairs_of_ne_nil hemp] at hp
  have ht : trimEnd (joinWith (lit "&") raws) = joinWith (lit "&") raws := by
    cases raws using List.reverseRecOn with
    | nil => rfl
    | append_singleton raws raw =>
      rw [trimEnd_joinWith, trimEnd_eq_self.2 (hpla raw (hp.mem_iff.1 (by simp)))]
  have hne : joinWith (lit "&") raws ≠ [] := by
    intro hnil
    rcases Fields.eq_of_intercalate_nil hnil with rfl | rfl
    · have hr : rawPairs query = [] := List.nil_perm.1 hp
      have hj := joinWith_rawPairs query
      rw [hr] at hj
      exact hemp hj.symm
    · have hj := joinWith_rawPairs query
      rw [← List.singleton_perm.1 hp] at hj
      exact hemp hj.symm
  obtain ⟨l, hl, rfl⟩ := canonicalizeQueryPairs_iff.1 h
  obtain ⟨l', hl', hperm⟩ := canonicalizePairs_perm hp hl
  rw [ht, canonicalizeQueryPairs_iff, rawPairs_joinWith (fun raw hraw => amp_notMem_rawPairs (hp.mem_iff.1 hraw)) hne]
  exact ⟨l', hl', insertionSort_pairs_congr hperm.symm⟩

/-- **The raw pairs of a query may be reordered exactly if none of them ends in white space**, which is trimmed where the pair
comes last. -/
theorem reordered_iff : (∀ raws : List Text, raws.Perm (query.splitOn '&') →
      canonicalizeQueryPairs (trimEnd (joinWith (lit "&") raws)) = .ok pairs) ↔ ∀ raw ∈ rawPairs query, EndsPlain raw := by
  refine ⟨fun hall raw hraw => ?_, fun hpla raws hp => reordered_of_endsPlain h hpla hp⟩
  have hemp : query ≠ [] := by
    rintro rfl
    cases hraw
  -- the pair in question comes last
  obtain ⟨b, after, hspl⟩ := List.append_of_mem hraw
  have hp : ((b ++ after) ++ [raw]).Perm (rawPairs query) := by
    rw [hspl]
    exact (List.perm_append_singleton raw (b ++ after)).trans List.perm_middle.symm
  have hla := hall ((b ++ after) ++ [raw]) (rawPairs_of_ne_nil hemp ▸ hp)
  rw [trimEnd_joinWith] at hla
  have hne : joinWith (lit "&") ((b ++ after) ++ [trimEnd raw]) ≠ [] := by
    intro hnil
    rw [hnil] at hla
    cases hla
    have hlen := length_pairs h
    rw [hspl] at hlen
    simp at hlen
  have hamp : ∀ x ∈ (b ++ after) ++ [trimEnd raw], '&' ∉ x := by
    intro x hx
    rcases List.mem_append.1 hx with hx | hx
    · exact amp_notMem_rawPairs (hp.mem_iff.1 (List.mem_append_left _ hx))
    · rw [List.mem_singleton.1 hx]
      exact fun hm => amp_notMem_rawPairs hraw ((trimEnd_isPrefix raw).subset hm)
  obtain ⟨l, hl, hsrt⟩ := canonicalizeQueryPairs_iff.1 h
  obtain ⟨l₁, hl₁, hperm₁⟩ := canonicalizePairs_perm hp hl
  obtain ⟨l₂, hl₂, hsrt₂⟩ := canonicalizeQueryPairs_iff.1 hla
  rw [rawPairs_joinWith hamp hne] at hl₂
  obtain ⟨rest, pair, hr, hpa, rfl⟩ := canonicalizePairs_concat.1 hl₁
  obtain ⟨rest', pair', hr', hp', rfl⟩ := canonicalizePairs_concat.1 hl₂
  rw [hr] at hr'
  cases hr'
  have hperm : (rest ++ [pair]).Perm (rest ++ [pair']) := by
    refine hperm₁.trans ((List.perm_insertionSort pairLe l).symm.trans ?_)
    rw [← hsrt, hsrt₂]
    exact List.perm_insertionSort pairLe _
  have hs : pair = pair' := List.singleton_perm_singleton.1 ((List.perm_append_left_iff rest).1 hperm)
  rw [← hs] at hp'
  exact endsPlain_of_same_pair hpa hp'

end Reordered

end WayBalancer
