import WayBalancer.HttpQuery
import WayBalancer.HttpTargetForms
/-!
# HttpTargetStable — canonical targets canonicalized again

A canonical target written out in origin form is read back as it is where its text is ASCII, does not end in white space and
has no pair of an empty name and an empty value (`readBack_iff`).  Told by the target it came from, and together with the
order of the query pairs not mattering, this is `PlainTarget` (`targetStable_iff`).
-/
namespace WayBalancer

open Str
open List (append_assoc append_cons cons_append cons_ne_nil getLast? isEmpty_iff mem_append mem_cons mem_map mem_pair)

/-! ## Rendering -/

/-- A path and query pairs in origin form; without pairs there is no question mark. -/
def renderTarget (path : Text) (pairs : List (Text × Text)) : Text :=
  path ++ if pairs.isEmpty then [] else '?' :: joinWith (lit "&") (pairs.map renderPair)

def CanonicalRequestTarget.rendered (c : CanonicalRequestTarget) : Text := renderTarget c.path c.queryPairs

example : CanonicalRequestTarget.rendered ⟨none, lit "/a", [(lit "x", lit "1"), (lit "y", [])]⟩ = lit "/a?x=1&y" := by decide

theorem renderTarget_nil (path : Text) : renderTarget path [] = path := List.append_nil path

variable {pairs : List (Text × Text)}

theorem renderTarget_of_ne_nil {path : Text} (h : pairs ≠ []) :
    renderTarget path pairs = path ++ '?' :: joinWith (lit "&") (pairs.map renderPair) := by
  rw [renderTarget, if_neg (fun he => h (isEmpty_iff.1 he))]

variable {path : Text}

theorem mem_renderTarget {c : Char} (h : c ∈ renderTarget path pairs) :
    c ∈ path ∨ c ∈ lit "?&" ∨ ∃ pair ∈ pairs, c ∈ renderPair pair := by
  rcases mem_append.1 h with h | h
  · exact .inl h
  split_ifs at h
  · cases h
  rcases mem_cons.1 h with rfl | h
  · exact .inr (.inl (by decide))
  rcases Fields.mem_intercalate h with rfl | ⟨piece, hpie, h⟩
  · exact .inr (.inl (by decide))
  obtain ⟨pair, hp, rfl⟩ := mem_map.1 hpie
  exact .inr (.inr ⟨pair, hp, h⟩)

variable {s : Text}

theorem splitPathAndQuery_plain (hs : s.head? = some '/') : (splitPathAndQuery s).1.head? = some '/' ∧ '?' ∉ (splitPathAndQuery s).1 ∧
      (splitPathAndQuery s).1 ⊆ s ∧ (splitPathAndQuery s).2 ⊆ s := by
  rcases splitPathAndQuery_cases hs with ⟨hno, e⟩ | ⟨p, q, hne, hno, rfl, e⟩
  · rw [e]
    exact ⟨hs, hno, fun _ hd => hd, nofun⟩
  · rw [e]
    rw [List.head?_append_of_ne_nil _ hne] at hs
    exact ⟨hs, hno, fun _ hd => List.mem_append_left _ hd, fun _ hd => List.mem_append_right _ (List.mem_cons_of_mem _ hd)⟩

section Parts

variable {s path : Text} {pairs : List (Text × Text)} (hs : s.head? = some '/') (h : targetParts s = .ok (path, pairs))
include hs h

theorem countP_renderTarget {f : Char → Bool} (hf : Beyond f) : (renderTarget path pairs).countP f = byteCount f s := by
  obtain ⟨hp, hque⟩ := targetParts_ok.1 h
  have hm : ¬ f '?' = true := fun hpa => absurd (hf _ hpa) (by decide)
  have hren : (renderTarget path pairs).countP f = path.countP f + (joinWith (lit "&") (pairs.map renderPair)).countP f := by
    by_cases hpai : pairs = []
    · rw [hpai, renderTarget_nil]
      rfl
    · rw [renderTarget_of_ne_nil hpai, List.countP_append, List.countP_cons_of_neg hm]
  rw [hren, countP_canonicalizePercentEncoded hp hf, countP_canonicalQuery hque hf]
  rcases splitPathAndQuery_cases hs with ⟨-, e⟩ | ⟨p, q, -, -, rfl, e⟩
  · rw [e]
    rfl
  · rw [e, byteCount_append, byteCount_cons, byteCount_of_ascii hf (by decide), Nat.zero_add]

theorem length_renderTarget_le : (renderTarget path pairs).length ≤ byteLen s := by
  obtain ⟨hp, hque⟩ := targetParts_ok.1 h
  have hlen := length_canonicalQuery_le hque
  have hpl := canonicalizePercentEncoded_length hp
  rcases splitPathAndQuery_cases hs with ⟨-, e⟩ | ⟨p, q, -, -, rfl, e⟩
  · rw [e] at hque hpl
    cases hque
    rw [renderTarget_nil, hpl]
  · rw [e] at hlen hpl
    have hm : byteLen (p ++ '?' :: q) = byteLen p + (1 + byteLen q) := by
      rw [← List.singleton_append, byteLen_append, byteLen_append]
      rfl
    rw [hm]
    by_cases hpai : pairs = []
    · rw [hpai, renderTarget_nil, hpl]
      exact Nat.le_add_right _ _
    · rw [renderTarget_of_ne_nil hpai, List.length_append, List.length_cons, hpl]
      dsimp only at hlen ⊢
      omega

theorem isAscii_renderTarget : IsAscii (renderTarget path pairs) ↔ IsAscii s := by
  rw [← countP_isBeyond_eq_zero, countP_renderTarget hs h beyond_isBeyond, byteCount_isBeyond_eq_zero]

omit hs in
theorem renderTarget_small : ∀ c ∈ renderTarget path pairs, c.toNat < 256 := by
  obtain ⟨hp, hque⟩ := targetParts_ok.1 h
  intro c hc
  rcases mem_renderTarget hc with hc | hc | ⟨pair, hpa, hc⟩
  · exact canonicalizePercentEncoded_small hp c hc
  · rcases mem_pair.1 hc with rfl | rfl
    · decide
    · decide
  · obtain ⟨raw, -, hraw⟩ := exists_raw hque hpa
    exact renderPair_small hraw c hc

theorem mem_of_mem_renderTarget {c : Char} (hasc : c.toNat < 128) (hesc : c ∉ escapeChars) (hsep : c ∉ lit "?&=")
    (hc : c ∈ renderTarget path pairs) : c ∈ s := by
  obtain ⟨hp, hque⟩ := targetParts_ok.1 h
  obtain ⟨-, -, hpathSub, hquerySub⟩ := splitPathAndQuery_plain hs
  have hse : lit "?&" ⊆ lit "?&=" := by decide
  rcases mem_renderTarget hc with hc | hc | ⟨pair, hpa, hc⟩
  · exact hpathSub (mem_canonicalizePercentEncoded hp hasc hesc hc)
  · exact absurd (hse hc) hsep
  have hpla := (canonicalizeQueryPairs_plain hque hpa).2.2.2 c hasc hesc
  rcases mem_renderPair hc with hc | rfl | hc
  · exact hquerySub (hpla (.inl hc))
  · exact absurd (by decide) hsep
  · exact hquerySub (hpla (.inr hc))

end Parts

/-! ## Reading a rendering back -/

theorem splitPathAndQuery_renderTarget (hne : path ≠ []) (hno : '?' ∉ path) (pairs : List (Text × Text)) :
    splitPathAndQuery (renderTarget path pairs) = (path, joinWith (lit "&") (pairs.map renderPair)) := by
  by_cases hpai : pairs = []
  · rw [hpai, renderTarget_nil]
    exact splitPathAndQuery_path hne hno
  · rw [renderTarget_of_ne_nil hpai]
    exact splitPathAndQuery_query hne hno _

theorem renderPair_eq_nil {pair : Text × Text} (h : renderPair pair = []) : pair = ([], []) := by
  obtain ⟨name, value⟩ := pair
  cases value with
  | nil => exact Prod.ext h rfl
  | cons c value => simp [renderPair] at h

theorem joinWith_renderPair_ne_nil (hne : pairs ≠ []) (hb : ([], []) ∉ pairs) : joinWith (lit "&") (pairs.map renderPair) ≠ [] := by
  intro hnil
  rcases Fields.eq_of_intercalate_nil hnil with hmap | hmap
  · exact hne (List.map_eq_nil_iff.1 hmap)
  · obtain ⟨pair, rfl, hren⟩ := List.map_eq_singleton_iff.1 hmap
    refine hb ?_
    rw [renderPair_eq_nil hren]
    exact List.mem_cons_self

section Pairs

variable {query : Text} {pairs : List (Text × Text)} (h : canonicalizeQueryPairs query = .ok pairs)
include h

theorem rawPairs_canonicalQuery (hne : joinWith (lit "&") (pairs.map renderPair) ≠ []) :
    rawPairs (joinWith (lit "&") (pairs.map renderPair)) = pairs.map renderPair :=
  rawPairs_joinWith (amp_notMem_renderPair h) hne

theorem insertionSort_pairs : pairs.insertionSort pairLe = pairs := by
  obtain ⟨l, -, rfl⟩ := canonicalizeQueryPairs_iff.1 h
  exact (List.pairwise_insertionSort pairLe l).insertionSort_eq

theorem canonicalQuery_readBack (hasc : IsAscii (joinWith (lit "&") (pairs.map renderPair))) (hb : ([], []) ∉ pairs) :
    canonicalizeQueryPairs (joinWith (lit "&") (pairs.map renderPair)) = .ok pairs := by
  by_cases hpai : pairs = []
  · rw [hpai]
    rfl
  rw [canonicalizeQueryPairs_iff, rawPairs_canonicalQuery h (joinWith_renderPair_ne_nil hpai hb)]
  refine ⟨pairs, canonicalizePairs_iff.2 ?_, (insertionSort_pairs h).symm⟩
  rw [List.forall₂_map_left_iff, List.forall₂_same]
  intro pair hp
  obtain ⟨raw, -, hraw⟩ := exists_raw h hp
  refine canonicalizePair_renderPair hraw (fun e => hb (e ▸ hp)) (fun c hc => ?_)
  exact hasc c (Fields.mem_intercalate_of_mem hc (List.mem_map_of_mem hp))

theorem bare_notMem_of_readBack (hb : canonicalizeQueryPairs (joinWith (lit "&") (pairs.map renderPair)) = .ok pairs) :
    ([], []) ∉ pairs := by
  intro hba
  have hne : joinWith (lit "&") (pairs.map renderPair) ≠ [] := by
    intro hnil
    rw [hnil] at hb
    cases hb
    cases hba
  have hraw : [] ∈ rawPairs (joinWith (lit "&") (pairs.map renderPair)) := by
    rw [rawPairs_canonicalQuery h hne]
    exact mem_map.2 ⟨([], []), hba, rfl⟩
  obtain ⟨pair, -, hp⟩ := exists_pair hb hraw
  exact (canonicalizePair_iff.1 hp).1 rfl

end Pairs

section ReadBack

variable {s path : Text} {pairs : List (Text × Text)} (hs : s.head? = some '/') (h : targetParts s = .ok (path, pairs))
include hs h

theorem path_plain : path.head? = some '/' ∧ '?' ∉ path := by
  obtain ⟨hp, -⟩ := targetParts_ok.1 h
  obtain ⟨hhead, hno, -, -⟩ := splitPathAndQuery_plain hs
  obtain ⟨rest, e⟩ := List.head?_eq_some_iff.1 hhead
  refine ⟨?_, fun hm => hno (mem_canonicalizePercentEncoded hp (by decide) (by decide) hm)⟩
  rw [e] at hp
  exact canonicalizePercentEncoded_slash hp

theorem renderTarget_slash : ∃ rest, renderTarget path pairs = '/' :: rest := by
  obtain ⟨rest, e⟩ := List.head?_eq_some_iff.1 (path_plain hs h).1
  exact ⟨_, by rw [renderTarget, e, cons_append]⟩

/-- Canonicalizing the rendering looks at the rendering without the white space at its end. -/
theorem readBack_parts (hfragment : '#' ∉ s) :
    (∃ c, canonicalizeRequestTarget (renderTarget path pairs) = .ok c ∧ c.path = path ∧ c.queryPairs = pairs) ↔
      targetParts (trimEnd (renderTarget path pairs)) = .ok (path, pairs) := by
  obtain ⟨rest, e⟩ := renderTarget_slash hs h
  have ht : trim (renderTarget path pairs) = trimEnd (renderTarget path pairs) := by
    rw [e, trim_cons (by decide), trimEnd_cons (by decide)]
  have hsplit : splitTarget (trim (renderTarget path pairs)) = .ok (none, trimEnd (renderTarget path pairs)) := by
    rw [ht, e, trimEnd_cons (by decide)]
    exact splitTarget_origin _
  have hno : '#' ∉ trim (renderTarget path pairs) := fun hm =>
    hfragment (mem_of_mem_renderTarget hs h (by decide) (by decide) (by decide) (mem_of_mem_trim hm))
  constructor
  · rintro ⟨c, hc, rfl, rfl⟩
    exact ((canonicalizeRequestTarget_ok_iff hno hsplit).1 hc).2
  · intro hparts
    exact ⟨⟨none, path, pairs⟩, (canonicalizeRequestTarget_ok_iff hno hsplit).2 ⟨rfl, hparts⟩, rfl, rfl⟩

/-- **What is read back as it was**: ASCII text that does not end in white space, and no pair that renders as nothing. -/
theorem readBack_iff : targetParts (trimEnd (renderTarget path pairs)) = .ok (path, pairs) ↔
    IsAscii (renderTarget path pairs) ∧ EndsPlain (renderTarget path pairs) ∧ ([], []) ∉ pairs := by
  obtain ⟨hp, hque⟩ := targetParts_ok.1 h
  obtain ⟨hsla, hm⟩ := path_plain hs h
  have hne : path ≠ [] := by
    rintro rfl
    cases hsla
  have hsplit := splitPathAndQuery_renderTarget hne hm pairs
  constructor
  · intro hb
    have hhead : (trimEnd (renderTarget path pairs)).head? = some '/' := by
      obtain ⟨rest, e⟩ := renderTarget_slash hs h
      rw [e, trimEnd_cons (by decide)]
      rfl
    have hasc : IsAscii (renderTarget path pairs) :=
      isAscii_of_byteCount (renderTarget_small h) (fun f hf => countP_renderTarget hhead hb hf)
    -- nothing was trimmed: the rendering is no longer than what it is read from
    have ht : trimEnd (renderTarget path pairs) = renderTarget path pairs := by
      have hlen := length_renderTarget_le hhead hb
      have hsub := trimEnd_isPrefix (renderTarget path pairs)
      rw [byteLen_of_isAscii (fun c hc => hasc c (hsub.subset hc))] at hlen
      exact hsub.eq_of_length (le_antisymm hsub.length_le hlen)
    rw [ht, targetParts_ok, hsplit] at hb
    exact ⟨hasc, trimEnd_eq_self.1 ht, bare_notMem_of_readBack hque hb.2⟩
  · rintro ⟨hasc, hpla, hba⟩
    have hquery_ascii : IsAscii (joinWith (lit "&") (pairs.map renderPair)) := by
      by_cases hpai : pairs = []
      · rw [hpai]
        exact nofun
      · rw [renderTarget_of_ne_nil hpai] at hasc
        exact (isAscii_cons.1 (isAscii_append.1 hasc).2).2
    rw [trimEnd_eq_self.2 hpla, targetParts_ok, hsplit]
    exact ⟨canonicalizePercentEncoded_again hp (isAscii_append.1 hasc).1, canonicalQuery_readBack hque hquery_ascii hba⟩

end ReadBack

/-! ## Targets that are stable -/

/-- **The targets whose canonical form is stable**: ASCII; no lone `=` between the ampersands; no white space at the end of the
path, where there is no query, and of any raw pair; and none at the end of a name with an empty value, where that pair would
come last. -/
structure PlainTarget (path query : Text) : Prop where
  asciiPath : IsAscii path
  asciiQuery : IsAscii query
  pathEnd : query = [] → EndsPlain path
  notBare : lit "=" ∉ rawPairs query
  pairEnds : ∀ raw ∈ rawPairs query, EndsPlain raw
  lastName : ∀ name, '=' ∉ name → name ++ ['='] ∈ rawPairs query → ¬ EndsPlain name →
    ∃ raw ∈ rawPairs query, toLex (asciiPair (name ++ ['='])) < toLex (asciiPair raw)

theorem endsPlain_renderPair {raw : Text} (hpla : EndsPlain raw) :
    EndsPlain (renderPair (asciiPair raw)) ↔ ¬ ∃ name, '=' ∉ name ∧ raw = name ++ ['='] ∧ ¬ EndsPlain name := by
  unfold asciiPair renderPair
  rcases splitOnce_cases '=' raw with heq | ⟨name, value, heq, rfl⟩
  · rw [splitPair_of_notMem heq]
    refine iff_of_true (endsPlain_upcaseEscapes.2 hpla) ?_
    rintro ⟨name, -, rfl, -⟩
    exact heq (by simp)
  · have huni : ∀ name', '=' ∉ name' → name ++ '=' :: value = name' ++ ['='] → name = name' ∧ value = [] := by
      intro name' hn' e
      obtain ⟨rfl, hr⟩ := Fields.append_inj_of_stop heq hn' (.inr ⟨_, rfl⟩) (.inr ⟨_, rfl⟩) e
      exact ⟨rfl, (List.cons.inj hr).2⟩
    rw [splitPair_append heq]
    cases value with
    | nil =>
      refine endsPlain_upcaseEscapes.trans ⟨?_, fun hno => ?_⟩
      · rintro hn ⟨name', hn', e, hen⟩
        rw [(huni name' hn' e).1] at hn
        exact hen hn
      · by_contra hen
        exact hno ⟨name, heq, rfl, hen⟩
    | cons c value =>
      have hval : upcaseEscapes (c :: value) ≠ [] := fun e => by
        have hlen := congrArg List.length (map_isWhitespace_upcaseEscapes (c :: value))
        rw [e] at hlen
        simp at hlen
      have hen : EndsPlain (c :: value) := by
        rw [append_cons] at hpla
        exact (endsPlain_append (cons_ne_nil _ _)).1 hpla
      refine iff_of_true ?_ ?_
      · rw [if_neg (fun he => hval (isEmpty_iff.1 he)), append_cons, endsPlain_append hval]
        exact endsPlain_upcaseEscapes.2 hen
      · rintro ⟨name', hn', e, -⟩
        cases (huni name' hn' e).2

section Query

variable {query : Text} {pairs : List (Text × Text)} (h : canonicalizeQueryPairs query = .ok pairs)
include h

theorem bare_mem_iff : ([], []) ∈ pairs ↔ lit "=" ∈ rawPairs query := by
  constructor
  · intro hb
    obtain ⟨raw, hmem, hraw⟩ := exists_raw h hb
    rw [(canonicalizePair_eq_nil_iff hraw).1 rfl] at hmem
    exact hmem
  · intro hmem
    obtain ⟨pair, hp, hraw⟩ := exists_pair h hmem
    rw [(canonicalizePair_eq_nil_iff hraw).2 rfl] at hp
    exact hp

theorem mem_pairs_iff (hasc : IsAscii query) {pair : Text × Text} : pair ∈ pairs ↔ ∃ raw ∈ rawPairs query, pair = asciiPair raw := by
  have hr : ∀ raw ∈ rawPairs query, IsAscii raw := by
    intro raw hraw c hc
    unfold rawPairs at hraw
    split_ifs at hraw
    · cases hraw
    · exact hasc c ((mem_splitOn hraw).2 hc)
  constructor
  · intro hp
    obtain ⟨raw, hmem, hraw⟩ := exists_raw h hp
    exact ⟨raw, hmem, canonicalizePair_ascii hraw (hr raw hmem)⟩
  · rintro ⟨raw, hmem, rfl⟩
    obtain ⟨pair, hp, hraw⟩ := exists_pair h hmem
    rw [← canonicalizePair_ascii hraw (hr raw hmem)]
    exact hp

theorem exists_last (hne : query ≠ []) : ∃ init last, pairs = init ++ [last] ∧ ∀ pair ∈ pairs, toLex pair ≤ toLex last := by
  have hpai : pairs ≠ [] := by
    rintro rfl
    exact hne (canonicalizeQueryPairs_nil_iff.1 h)
  refine ⟨pairs.dropLast, pairs.getLast hpai, (List.dropLast_append_getLast hpai).symm, fun pair hp => ?_⟩
  have hsrt : pairs.Pairwise pairLe := by
    rw [← insertionSort_pairs h]
    exact List.pairwise_insertionSort pairLe pairs
  rw [← List.dropLast_append_getLast hpai] at hp hsrt
  rcases mem_append.1 hp with hp | hp
  · exact (List.pairwise_append.1 hsrt).2.2 pair hp _ (List.mem_singleton_self _)
  · rw [List.mem_singleton.1 hp]

theorem endsPlain_canonicalQuery (hne : query ≠ []) (hasc : IsAscii query) (hb : lit "=" ∉ rawPairs query)
    (he : ∀ raw ∈ rawPairs query, EndsPlain raw) :
    EndsPlain (joinWith (lit "&") (pairs.map renderPair)) ↔ ∀ name, '=' ∉ name → name ++ ['='] ∈ rawPairs query → ¬ EndsPlain name →
        ∃ raw ∈ rawPairs query, toLex (asciiPair (name ++ ['='])) < toLex (asciiPair raw) := by
  obtain ⟨init, last, e, hgre⟩ := exists_last h hne
  have hl : last ∈ pairs := by
    rw [e]
    simp
  have hren : renderPair last ≠ [] := fun hnil => hb ((bare_mem_iff h).1 (renderPair_eq_nil hnil ▸ hl))
  obtain ⟨raw₀, hraw₀, rfl⟩ := (mem_pairs_iff h hasc).1 hl
  have hque : EndsPlain (joinWith (lit "&") (pairs.map renderPair)) ↔ EndsPlain (renderPair (asciiPair raw₀)) := by
    rw [e, List.map_append, List.map_singleton, joinWith_concat, endsPlain_append hren]
  rw [hque, endsPlain_renderPair (he raw₀ hraw₀)]
  constructor
  · intro hno name heq hn hpla
    by_contra hnone
    push Not at hnone
    -- without a greater pair it is the last one, whose rendering ends in white space
    have hle : toLex (asciiPair raw₀) ≤ toLex (asciiPair (name ++ ['='])) := hnone raw₀ hraw₀
    have hge := hgre _ ((mem_pairs_iff h hasc).2 ⟨_, hn, rfl⟩)
    have hs : asciiPair (name ++ ['=']) = asciiPair raw₀ := toLex.injective (le_antisymm hge hle)
    have he' := (endsPlain_renderPair (he raw₀ hraw₀)).2 hno
    rw [← hs, endsPlain_renderPair (he _ hn)] at he'
    exact he' ⟨name, heq, rfl, hpla⟩
  · rintro hg ⟨name, heq, rfl, hpla⟩
    obtain ⟨raw, hraw, hlt⟩ := hg name heq hraw₀ hpla
    exact absurd (hgre _ ((mem_pairs_iff h hasc).2 ⟨raw, hraw, rfl⟩)) (not_le.2 hlt)

end Query

/-- **Read back and reordered alike, told by the target.** -/
theorem plainTarget_iff (hs : s.head? = some '/') (h : targetParts s = .ok (path, pairs)) :
    (IsAscii (renderTarget path pairs) ∧ EndsPlain (renderTarget path pairs) ∧ ([], []) ∉ pairs) ∧
      (∀ raw ∈ rawPairs (splitPathAndQuery s).2, EndsPlain raw) ↔
    PlainTarget (splitPathAndQuery s).1 (splitPathAndQuery s).2 := by
  obtain ⟨hpa, hque⟩ := targetParts_ok.1 h
  have hasc : IsAscii s ↔ IsAscii (splitPathAndQuery s).1 ∧ IsAscii (splitPathAndQuery s).2 := by
    rcases splitPathAndQuery_cases hs with ⟨-, e⟩ | ⟨p, q, -, -, rfl, e⟩
    · rw [e]
      exact (and_iff_left nofun).symm
    · rw [e, isAscii_append, isAscii_cons]
      exact and_congr_right (fun _ => and_iff_right (by decide))
  rw [isAscii_renderTarget hs h, hasc, bare_mem_iff hque]
  generalize (splitPathAndQuery s).1 = rawPath at *
  generalize (splitPathAndQuery s).2 = query at *
  -- how the rendering ends, once the rest is known
  have hend : IsAscii rawPath → IsAscii query → lit "=" ∉ rawPairs query → (∀ raw ∈ rawPairs query, EndsPlain raw) →
      (EndsPlain (renderTarget path pairs) ↔ (query = [] → EndsPlain rawPath) ∧
        ∀ name, '=' ∉ name → name ++ ['='] ∈ rawPairs query → ¬ EndsPlain name →
          ∃ raw ∈ rawPairs query, toLex (asciiPair (name ++ ['='])) < toLex (asciiPair raw)) := by
    intro hasciiPath hasciiQuery hb hen
    by_cases hemp : query = []
    · subst hemp
      cases hque
      rw [renderTarget_nil, canonicalizePercentEncoded_ascii hasciiPath hpa, endsPlain_upcaseEscapes]
      exact ⟨fun hp => ⟨fun _ => hp, nofun⟩, fun hp => hp.1 rfl⟩
    · have hpai : pairs ≠ [] := by
        rintro rfl
        exact hemp (canonicalizeQueryPairs_nil_iff.1 hque)
      have hne := joinWith_renderPair_ne_nil hpai (fun hm => hb ((bare_mem_iff hque).1 hm))
      rw [renderTarget_of_ne_nil hpai, append_cons, endsPlain_append hne, endsPlain_canonicalQuery hque hemp hasciiQuery hb hen]
      exact (and_iff_right (fun he => absurd he hemp)).symm
  constructor
  · rintro ⟨⟨⟨hasciiPath, hasciiQuery⟩, hpla, hb⟩, hen⟩
    obtain ⟨hpathEnd, hlastName⟩ := (hend hasciiPath hasciiQuery hb hen).1 hpla
    exact ⟨hasciiPath, hasciiQuery, hpathEnd, hb, hen, hlastName⟩
  · rintro ⟨hasciiPath, hasciiQuery, hpathEnd, hb, hen, hlastName⟩
    exact ⟨⟨⟨hasciiPath, hasciiQuery⟩, (hend hasciiPath hasciiQuery hb hen).2 ⟨hpathEnd, hlastName⟩, hb⟩, hen⟩

/-! ## Reordering the query of a target -/

theorem mark_notMem_front {scheme a : Text} (hsch : isHttpScheme scheme) (ha : ∀ c ∈ a, delimitsAuthority c = false) :
    '?' ∉ scheme ++ (lit "://" ++ a) := by
  intro hm
  rcases mem_append.1 hm with hm | hm
  · exact absurd (mem_of_isHttpScheme hsch hm) (by decide)
  rcases mem_append.1 hm with hm | hm
  · exact absurd hm (by decide)
  · exact absurd (ha _ hm) (by decide)

variable {query pathAndQuery : Text} {authority : Option Text}

/-- A target with a question mark, split for every query behind it: the query is read behind a path, or dropped. -/
theorem splitTarget_query {pre : Text} (hpre : '?' ∉ pre) (h : splitTarget (pre ++ '?' :: query) = .ok (authority, pathAndQuery)) :
    (∃ path, path ≠ [] ∧ '?' ∉ path ∧ pathAndQuery = path ++ '?' :: query ∧
      ∀ query', splitTarget (pre ++ '?' :: query') = .ok (authority, path ++ '?' :: query')) ∨
    (pathAndQuery = [] ∧ ∀ query', splitTarget (pre ++ '?' :: query') = .ok (authority, [])) := by
  rcases splitTarget_cases h with ⟨rest, e, rfl, rfl⟩ | ⟨sch, a, tail, host, hsch, hh, ha, ht, e, rfl, rfl⟩
  · cases pre with
    | nil => cases e
    | cons c pre =>
      obtain ⟨rfl, -⟩ := List.cons.inj e
      exact .inl ⟨_, cons_ne_nil _ _, hpre, rfl, fun _ => rfl⟩
  · have hfro := mark_notMem_front hsch ha
    have hsplit : ∀ tail', (∀ c rest, tail' = c :: rest → delimitsAuthority c = true) →
        splitTarget ((sch ++ (lit "://" ++ a)) ++ tail') = .ok (some host, pathAndQueryAfter tail') := by
      intro tail' ht'
      rw [append_assoc]
      exact splitTarget_absolute hsch hh ha ht'
    rw [← append_assoc, ← append_assoc, append_assoc sch] at e
    cases tail with
    | nil =>
      rw [List.append_nil] at e
      exact absurd (by rw [← e]; simp) hfro
    | cons c tail =>
      rcases delimitsAuthority_cases (ht c tail rfl) with rfl | rfl
      · -- the question mark stands in the path behind the authority
        have hma : '?' ∈ tail := by
          have hm : '?' ∈ (sch ++ (lit "://" ++ a)) ++ '/' :: tail := by rw [← e]; simp
          rcases mem_append.1 hm with hm | hm
          · exact absurd hm hfro
          · exact (mem_cons.1 hm).resolve_left (by decide)
        rcases splitOnce_cases '?' tail with hno | ⟨rest, query', hr, rfl⟩
        · exact absurd hma hno
        · have hno : '?' ∉ (sch ++ (lit "://" ++ a)) ++ '/' :: rest := by
            intro hm
            rcases mem_append.1 hm with hm | hm
            · exact hfro hm
            · exact hr ((mem_cons.1 hm).resolve_left (by decide))
          rw [← cons_append, ← append_assoc] at e
          obtain ⟨rfl, hq⟩ := Fields.append_inj_of_stop hpre hno (.inr ⟨_, rfl⟩) (.inr ⟨_, rfl⟩) e
          cases hq
          refine .inl ⟨'/' :: rest, cons_ne_nil _ _, fun hm => hr ((mem_cons.1 hm).resolve_left (by decide)), rfl, ?_⟩
          intro query'
          rw [append_assoc]
          exact hsplit _ (fun c rest e => by cases e; rfl)
      · obtain ⟨rfl, hq⟩ := Fields.append_inj_of_stop hpre hfro (.inr ⟨_, rfl⟩) (.inr ⟨_, rfl⟩) e
        exact .inr ⟨rfl, fun query' => hsplit _ (fun c rest e => by cases e; rfl)⟩

theorem trim_query {t pre : Text} (h : trim t = pre ++ '?' :: query) (query' : Text) :
    trim (pre ++ '?' :: query') = pre ++ '?' :: trimEnd query' := by
  cases pre with
  | nil => exact trim_cons (by decide)
  | cons c pre =>
    rw [cons_append, trim_cons (trim_head h), trimEnd_append_cons pre (by decide)]
    rfl

theorem mem_joinWith_of_perm {raws : List Text} (hp : raws.Perm (query.splitOn '&')) {c : Char}
    (hc : c ∈ joinWith (lit "&") raws) : c = '&' ∨ c ∈ query := by
  rcases Fields.mem_intercalate hc with rfl | ⟨raw, hraw, hc⟩
  · exact .inl rfl
  · exact .inr ((mem_splitOn (hp.mem_iff.1 hraw)).2 hc)

theorem query_of_notMem {target : Text} (h : splitTarget target = .ok (authority, pathAndQuery)) (hno : '?' ∉ target) :
    (splitPathAndQuery pathAndQuery).2 = [] := by
  unfold splitPathAndQuery
  split_ifs
  · rfl
  · rw [splitOnce_of_notMem]
    intro hm
    rcases splitTarget_fromSlash h with rfl | ⟨-, hsub⟩
    · cases hm
    · exact hno ((mem_cons.1 (hsub hm)).resolve_left (by decide))

section Reordered

variable {t pathAndQuery : Text} {c : CanonicalRequestTarget} (hfragment : '#' ∉ trim t)
  (hsplit : splitTarget (trim t) = .ok (c.authority, pathAndQuery))
  (hparts : targetParts pathAndQuery = .ok (c.path, c.queryPairs))
include hfragment hsplit hparts

omit hsplit hparts in
theorem reorderedTarget_ok_iff {pre query : Text} {raws : List Text} {pathAndQuery' : Text} (hma : trim t = pre ++ '?' :: query)
    (hp : raws.Perm (query.splitOn '&'))
    (hsplit' : splitTarget (pre ++ '?' :: trimEnd (joinWith (lit "&") raws)) = .ok (c.authority, pathAndQuery')) :
    canonicalizeRequestTarget (pre ++ '?' :: joinWith (lit "&") raws) = .ok c ↔
      targetParts pathAndQuery' = .ok (c.path, c.queryPairs) := by
  have hno : '#' ∉ trim (pre ++ '?' :: joinWith (lit "&") raws) := by
    intro hm
    rw [hma] at hfragment
    rcases mem_append.1 (mem_of_mem_trim hm) with hm | hm
    · exact hfragment (List.mem_append_left _ hm)
    rcases mem_cons.1 hm with hm | hm
    · exact absurd hm (by decide)
    rcases mem_joinWith_of_perm hp hm with hm | hm
    · exact absurd hm (by decide)
    · exact hfragment (List.mem_append_right _ (List.mem_cons_of_mem _ hm))
  rw [← trim_query hma] at hsplit'
  rw [canonicalizeRequestTarget_ok_iff hno hsplit']
  exact and_iff_right rfl

/-- **The order of the query pairs does not matter exactly where none of them ends in white space.** -/
theorem reorderedTarget_iff : (∀ pre query raws, trim t = pre ++ '?' :: query → '?' ∉ pre → raws.Perm (query.splitOn '&') →
      canonicalizeRequestTarget (pre ++ '?' :: joinWith (lit "&") raws) = .ok c) ↔
    ∀ raw ∈ rawPairs (splitPathAndQuery pathAndQuery).2, EndsPlain raw := by
  cases hm : splitOnce '?' (trim t) with
  | none =>
    -- no question mark: no query to reorder, and none that is read
    have hno := not_mem_of_splitOnce_none hm
    refine iff_of_true (fun pre query raws e _ _ => absurd (by rw [e]; simp) hno) (fun raw hraw => ?_)
    rw [query_of_notMem hsplit hno] at hraw
    cases hraw
  | some p =>
    obtain ⟨pre, query⟩ := p
    obtain ⟨e, hpre⟩ := splitOnce_some hm
    have huni : ∀ {pre' query' : Text}, trim t = pre' ++ '?' :: query' → '?' ∉ pre' → pre' = pre ∧ query' = query := by
      intro pre' query' e' hpre'
      rw [e'] at hm
      rw [splitOnce_append hpre'] at hm
      cases hm
      exact ⟨rfl, rfl⟩
    have hsplit' := hsplit
    rw [e] at hsplit'
    rcases splitTarget_query hpre hsplit' with ⟨path, hne, hno, rfl, hall⟩ | ⟨rfl, hall⟩
    · obtain ⟨hpa, hque⟩ := targetParts_ok.1 hparts
      rw [splitPathAndQuery_query hne hno] at hpa hque ⊢
      rw [← reordered_iff hque]
      have hrea : ∀ raws : List Text, raws.Perm (query.splitOn '&') →
          (canonicalizeRequestTarget (pre ++ '?' :: joinWith (lit "&") raws) = .ok c ↔
            canonicalizeQueryPairs (trimEnd (joinWith (lit "&") raws)) = .ok c.queryPairs) := by
        intro raws hp
        rw [reorderedTarget_ok_iff hfragment e hp (hall _), targetParts_ok, splitPathAndQuery_query hne hno]
        exact and_iff_right hpa
      constructor
      · intro hreo raws hp
        exact (hrea raws hp).1 (hreo pre query raws e hpre hp)
      · intro hreo pre' query' raws e' hpre' hp
        obtain ⟨rfl, rfl⟩ := huni e' hpre'
        exact (hrea raws hp).2 (hreo raws hp)
    · -- a query right behind the authority is not looked at
      refine iff_of_true ?_ nofun
      intro pre' query' raws e' hpre' hp
      obtain ⟨rfl, rfl⟩ := huni e' hpre'
      exact (reorderedTarget_ok_iff hfragment e hp (hall _)).2 hparts

end Reordered

/-- Canonicalizing the canonical form, and any order of the query pairs, gives the same again. -/
structure TargetStable (t : Text) (c : CanonicalRequestTarget) : Prop where
  again : ∃ c', canonicalizeRequestTarget c.rendered = .ok c' ∧ c'.path = c.path ∧ c'.queryPairs = c.queryPairs
  reordered : ∀ pre query raws, trim t = pre ++ '?' :: query → '?' ∉ pre → raws.Perm (query.splitOn '&') →
    canonicalizeRequestTarget (pre ++ '?' :: joinWith (lit "&") raws) = .ok c

/-- The raw path and query a target is split into. -/
def rawTarget (t : Text) : Text × Text :=
  match splitTarget (trim t) with
  | .error _                => ([], [])
  | .ok (_, pathAndQuery) => splitPathAndQuery pathAndQuery

/-- **Canonicalization is idempotent and insensitive to the order of the query exactly on plain targets.** -/
theorem targetStable_iff (t : Text) (c : CanonicalRequestTarget) (h : canonicalizeRequestTarget t = .ok c) :
    TargetStable t c ↔ PlainTarget (rawTarget t).1 (rawTarget t).2 := by
  obtain ⟨hfragment, pathAndQuery, hsplit, hparts⟩ := canonicalizeRequestTarget_parts h
  have hraw : rawTarget t = splitPathAndQuery pathAndQuery := by
    rw [rawTarget, hsplit]
  -- a dropped query leaves the path of a lone slash
  obtain ⟨s, hs, hsa, hno⟩ : ∃ s, s.head? = some '/' ∧ splitPathAndQuery s = splitPathAndQuery pathAndQuery ∧ '#' ∉ s := by
    rcases splitTarget_fromSlash hsplit with rfl | ⟨hs, hsub⟩
    · exact ⟨lit "/", rfl, rfl, by decide⟩
    · exact ⟨pathAndQuery, hs, rfl, fun hm => hfragment ((mem_cons.1 (hsub hm)).resolve_left (by decide))⟩
  have hspa : targetParts s = .ok (c.path, c.queryPairs) := by
    rw [targetParts_ok, hsa]
    exact targetParts_ok.1 hparts
  rw [hraw, ← hsa, ← plainTarget_iff hs hspa, ← readBack_iff hs hspa, ← readBack_parts hs hspa hno, hsa,
    ← reorderedTarget_iff hfragment hsplit hparts]
  exact ⟨fun hsta => ⟨hsta.again, hsta.reordered⟩, fun hb => ⟨hb.1, hb.2⟩⟩

/-- The pair of an empty name and an empty value is lost. -/
theorem target_not_stable :
    canonicalizeRequestTarget (lit "/?=") = .ok ⟨none, lit "/", [([], [])]⟩ ∧
      canonicalizeRequestTarget (CanonicalRequestTarget.rendered ⟨none, lit "/", [([], [])]⟩) = .ok ⟨none, lit "/", []⟩ := by
  decide +kernel

theorem targetStable_escaped :
    canonicalizeRequestTarget (lit "/a%2fb?y=2&x") = .ok ⟨none, lit "/a%2Fb", [(lit "x", []), (lit "y", lit "2")]⟩ ∧
      TargetStable (lit "/a%2fb?y=2&x") ⟨none, lit "/a%2Fb", [(lit "x", []), (lit "y", lit "2")]⟩ := by
  have h : canonicalizeRequestTarget (lit "/a%2fb?y=2&x") = .ok ⟨none, lit "/a%2Fb", [(lit "x", []), (lit "y", lit "2")]⟩ := by
    decide +kernel
  have hraw : rawTarget (lit "/a%2fb?y=2&x") = (lit "/a%2fb", lit "y=2&x") := by decide +kernel
  have hpai : rawPairs (lit "y=2&x") = [lit "y=2", lit "x"] := by decide +kernel
  refine ⟨h, (targetStable_iff _ _ h).2 ?_⟩
  rw [hraw]
  refine ⟨by decide, by decide, nofun, ?_, ?_, ?_⟩
  · decide
  · intro raw hmem
    rcases mem_pair.1 hmem with rfl | rfl
    · exact (endsPlain_concat (s := lit "y=") (c := '2')).2 (by decide)
    · exact (endsPlain_concat (s := []) (c := 'x')).2 (by decide)
  · intro name _ hmem
    rw [hpai] at hmem
    rcases mem_pair.1 hmem with e | e
    · have hl := congrArg getLast? e
      simp [lit] at hl
    · have hl := congrArg getLast? e
      simp [lit] at hl

end WayBalancer
