import WayBalancer.HttpTarget
import WayBalancer.TextTrim
/-!
# HttpTargetForms — targets in absolute form and in origin form

What `canonicalize_request_target` makes of a target depends on its authority and on its path with the query
(`canonicalizeRequestTarget_eq`).  An absolute form reads like its origin form, with one exception: a query that follows the
authority directly is dropped (`targetForms_agree_iff`).
-/
namespace WayBalancer

open Str

variable {pathAndQuery target : Text} {authority : Option Text} {c : Char}

/-! ## Absolute forms -/

theorem mem_of_isHttpScheme {scheme : Text} (h : isHttpScheme scheme) (hc : c ∈ scheme) : c.toLower ∈ lit "https" := by
  have hmem : c.toLower ∈ lower scheme := List.mem_map_of_mem hc
  rcases h with h | h
  · rw [(eqIgnoreCase_iff _ _).1 h] at hmem
    exact List.mem_of_mem_dropLast (l := lower (lit "https")) hmem
  · rw [(eqIgnoreCase_iff _ _).1 h] at hmem
    exact hmem

/-- The first occurrence of a separator is not inside a text without the separator's first character. -/
theorem splitOnceStr_append (c : Char) (sep : Text) : ∀ {s : Text}, c ∉ s → ∀ rest,
    splitOnceStr (c :: sep) (s ++ (c :: sep ++ rest)) = some (s, rest)
  | [], _, rest => by
    have hpre : (c :: sep).isPrefixOf (c :: (sep ++ rest)) = true := List.isPrefixOf_iff_prefix.2 ⟨rest, rfl⟩
    rw [List.nil_append, List.cons_append, splitOnceStr]
    simp
  | d :: s, h, rest => by
    have hne : c ≠ d := fun e => h (by rw [e]; exact List.mem_cons_self)
    have hpre : ¬ (c :: sep).isPrefixOf (d :: (s ++ (c :: sep ++ rest))) = true := by
      simp [List.isPrefixOf, hne]
    rw [List.cons_append, splitOnceStr, if_neg hpre, splitOnceStr_append c sep (fun hm => h (List.mem_cons_of_mem _ hm)) rest]
    rfl

theorem splitAtFirst_append {p : Char → Bool} {a tail : Text} (ha : ∀ c ∈ a, p c = false)
    (htail : ∀ c rest, tail = c :: rest → p c = true) : splitAtFirst p (a ++ tail) = (a, tail) := by
  have hp : ∀ c ∈ a, (!p c) = true := fun c hc => by rw [ha c hc]; rfl
  unfold splitAtFirst
  rw [List.takeWhile_append_of_pos hp, List.dropWhile_append_of_pos hp]
  cases tail with
  | nil => simp
  | cons c rest =>
    have hc := htail c rest rfl
    simp [hc]

theorem canonicalizeHost_trim_ne_nil {a host : Text} (h : canonicalizeHost a = .ok host) : trim a ≠ [] := by
  intro he
  unfold canonicalizeHost at h
  rw [he] at h
  cases h

theorem delimitsAuthority_plain (h : delimitsAuthority c = true) : isWhitespace c = false := by
  rcases delimitsAuthority_cases h with rfl | rfl <;> decide

theorem slash_notMem_of_canonicalizeHost {a host : Text} (h : canonicalizeHost a = .ok host) : '/' ∉ a := by
  intro hm
  have hlow : '/' ∈ lower (trim a) := List.mem_map.2 ⟨'/', mem_trim (by decide) hm, by decide⟩
  unfold canonicalizeHost at h
  rw [if_pos (by simp [hlow])] at h
  cases h

/-- **An absolute form is read by its scheme, authority and tail.** -/
theorem splitTarget_absolute {scheme a tail host : Text} (hsch : isHttpScheme scheme) (hh : canonicalizeHost a = .ok host)
    (ha : ∀ c ∈ a, delimitsAuthority c = false) (htail : ∀ c rest, tail = c :: rest → delimitsAuthority c = true) :
    splitTarget (scheme ++ (lit "://" ++ (a ++ tail))) = .ok (some host, pathAndQueryAfter tail) := by
  have hcol : ':' ∉ scheme := fun hm => absurd (mem_of_isHttpScheme hsch hm) (by decide)
  have hori : ¬ (lit "/").isPrefixOf (scheme ++ (lit "://" ++ (a ++ tail))) = true := by
    intro hp
    obtain ⟨rest, e⟩ := List.isPrefixOf_iff_prefix.1 hp
    cases scheme with
    | nil => rcases hsch with h | h <;> cases h
    | cons c scheme =>
      have hc : '/' = c := (List.cons.inj e).1
      exact absurd (mem_of_isHttpScheme hsch List.mem_cons_self) (by rw [← hc]; decide)
  have hsep : splitOnceStr (lit "://") (scheme ++ (lit "://" ++ (a ++ tail))) = some (scheme, a ++ tail) :=
    splitOnceStr_append ':' (lit "//") hcol _
  have hacc : ¬ (!eqIgnoreCase scheme (lit "http") && !eqIgnoreCase scheme (lit "https")) = true := by
    rcases hsch with h | h <;> simp [h]
  have ht : ¬ (trim a).isEmpty = true := fun he => canonicalizeHost_trim_ne_nil hh (List.isEmpty_iff.1 he)
  have hspl : splitAtFirst (fun c => c == '/' || c == '?') (a ++ tail) = (a, tail) := splitAtFirst_append ha htail
  unfold splitTarget
  simp only [if_neg hori, hsep, if_neg hacc, hspl, if_neg ht, hh]

theorem splitTarget_origin (rest : Text) : splitTarget ('/' :: rest) = .ok (none, '/' :: rest) := rfl

/-! ## The two forms of a target -/

def originForm (tail : Text) : Text := if tail.head? = some '/' then tail else '/' :: tail

/-- Both targets are accepted or neither is, and then they have the same path and query pairs. -/
def SameParts (left right : Except RequestTargetError CanonicalRequestTarget) : Prop :=
  (left.isOk = right.isOk) ∧ ∀ c d, left = .ok c → right = .ok d → c.path = d.path ∧ c.queryPairs = d.queryPairs

theorem sameParts_map {f g : Text × List (Text × Text) → CanonicalRequestTarget}
    (hf : ∀ parts, ((f parts).path, (f parts).queryPairs) = parts) (hg : ∀ parts, ((g parts).path, (g parts).queryPairs) = parts)
    (x y : Except RequestTargetError (Text × List (Text × Text))) :
    SameParts (x.map f) (y.map g) ↔ x.toOption = y.toOption := by
  cases x with
  | error e =>
    cases y with
    | error e' => exact iff_of_true ⟨rfl, nofun⟩ rfl
    | ok q => exact iff_of_false (fun h => nomatch h.1) nofun
  | ok p =>
    cases y with
    | error e' => exact iff_of_false (fun h => nomatch h.1) nofun
    | ok q =>
      constructor
      · intro h
        obtain ⟨hp, hpai⟩ := h.2 (f p) (g q) rfl rfl
        have e : p = q := by rw [← hf p, ← hg q, hp, hpai]
        rw [e]
      · intro h
        cases h
        refine ⟨rfl, ?_⟩
        intro c d hc hd
        cases hc
        cases hd
        have e := (hf p).trans (hg p).symm
        exact ⟨congrArg Prod.fst e, congrArg Prod.snd e⟩

theorem canonicalizePairs_ne_nil {raws : List Text} (h : raws ≠ []) : canonicalizePairs raws ≠ .ok [] := by
  cases raws with
  | nil => exact absurd rfl h
  | cons raw raws =>
    rw [canonicalizePairs]
    intro hnil
    cases hp : canonicalizePair raw with
    | error e =>
      rw [hp] at hnil
      cases hnil
    | ok pair =>
      rw [hp] at hnil
      cases hpai : canonicalizePairs raws with
      | error e =>
        rw [hpai] at hnil
        cases hnil
      | ok pairs =>
        rw [hpai] at hnil
        cases hnil

theorem canonicalizeQueryPairs_nil_iff {query : Text} : canonicalizeQueryPairs query = .ok [] ↔ query = [] := by
  unfold canonicalizeQueryPairs
  by_cases hemp : query = []
  · rw [hemp]
    exact iff_of_true rfl rfl
  · have hr : canonicalizePairs (query.splitOn '&') ≠ .ok [] := canonicalizePairs_ne_nil (List.splitOn_ne_nil _ _)
    rw [if_neg (fun h => hemp (List.isEmpty_iff.1 h))]
    refine iff_of_false (fun h => ?_) hemp
    cases hpai : canonicalizePairs (query.splitOn '&') with
    | error e => rw [hpai] at h; cases h
    | ok pairs =>
      rw [hpai] at h
      have hs : pairs.insertionSort pairLe = [] := Except.ok.inj h
      have hnil : pairs = [] := List.nil_perm.1 (hs ▸ List.perm_insertionSort pairLe pairs)
      exact hr (by rw [hpai, hnil])

section Forms

variable {a tail host : Text} (htail : ∀ c rest, tail = c :: rest → delimitsAuthority c = true)
include htail

theorem trim_originForm : trim (originForm tail) = originForm (trimEnd tail) := by
  cases tail with
  | nil => rfl
  | cons c rest =>
    have hpla := delimitsAuthority_plain (htail c rest rfl)
    unfold originForm
    rw [trimEnd_cons hpla, List.head?_cons, List.head?_cons]
    split_ifs
    · exact trim_cons hpla
    · rw [trim_cons (by decide), trimEnd_cons hpla]

theorem head_trimEnd : ∀ c rest, trimEnd tail = c :: rest → delimitsAuthority c = true := by
  intro c rest e
  obtain ⟨blank, hbla, -⟩ := exists_trimmed tail
  rw [e] at hbla
  exact htail c (rest ++ blank) hbla

theorem splitTarget_trim_absolute (hh : canonicalizeHost a = .ok host) (ha : ∀ c ∈ a, delimitsAuthority c = false) :
    splitTarget (trim (lit "http://" ++ (a ++ tail))) = .ok (some host, pathAndQueryAfter (trimEnd tail)) := by
  have hsch : isHttpScheme (lit "http") := .inl (by decide)
  have ht : trim (lit "http://" ++ (a ++ tail)) = lit "http" ++ (lit "://" ++ trimEnd (a ++ tail)) := by
    rw [show lit "http://" ++ (a ++ tail) = 'h' :: (lit "ttp:/" ++ '/' :: (a ++ tail)) from rfl, trim_cons (by decide),
      trimEnd_append_cons _ (by decide)]
    rfl
  rw [ht]
  cases tail with
  | nil =>
    have hh' : canonicalizeHost (trimEnd a) = .ok host := by
      unfold canonicalizeHost
      rw [trim_trimEnd]
      exact hh
    rw [List.append_nil, ← List.append_nil (trimEnd a)]
    refine splitTarget_absolute hsch hh' (fun c hc => ?_) nofun
    exact ha c ((trimEnd_isPrefix a).subset hc)
  | cons c rest =>
    have hpla := delimitsAuthority_plain (htail c rest rfl)
    rw [trimEnd_append_cons _ hpla, ← trimEnd_cons hpla]
    exact splitTarget_absolute hsch hh ha (head_trimEnd htail)

/-- The two forms of a target agree where the parts read off their trimmed tail do. -/
theorem sameParts_iff (hh : canonicalizeHost a = .ok host) (ha : ∀ c ∈ a, delimitsAuthority c = false)
    (hfra : '#' ∉ a) (hno : '#' ∉ tail) :
    SameParts (canonicalizeRequestTarget (lit "http://" ++ (a ++ tail))) (canonicalizeRequestTarget (originForm tail)) ↔
      (targetParts (pathAndQueryAfter (trimEnd tail))).toOption = (targetParts (originForm (trimEnd tail))).toOption := by
  have habs : '#' ∉ trim (lit "http://" ++ (a ++ tail)) := by
    intro hm
    rcases List.mem_append.1 (mem_of_mem_trim hm) with hm | hm
    · exact absurd hm (by decide)
    · rcases List.mem_append.1 hm with hm | hm
      · exact hfra hm
      · exact hno hm
  have hori : '#' ∉ trim (originForm tail) := by
    intro hm
    have hm := mem_of_mem_trim hm
    unfold originForm at hm
    split_ifs at hm
    · exact hno hm
    · rcases List.mem_cons.1 hm with hm | hm
      · exact absurd hm (by decide)
      · exact hno hm
  have hsla : ∃ rest, originForm (trimEnd tail) = '/' :: rest := by
    unfold originForm
    split_ifs with h
    · obtain ⟨rest, e⟩ := List.head?_eq_some_iff.1 h
      exact ⟨rest, e⟩
    · exact ⟨_, rfl⟩
  have hspl : splitTarget (trim (originForm tail)) = .ok (none, originForm (trimEnd tail)) := by
    obtain ⟨rest, e⟩ := hsla
    rw [trim_originForm htail, e]
    exact splitTarget_origin rest
  rw [canonicalizeRequestTarget_eq habs (splitTarget_trim_absolute htail hh ha), canonicalizeRequestTarget_eq hori hspl]
  exact sameParts_map (fun _ => rfl) (fun _ => rfl) _ _

end Forms

/-- A query right behind the authority is dropped, so it has to be empty. -/
theorem droppedQuery_iff {query : Text} : (targetParts []).toOption = (targetParts ('/' :: '?' :: query)).toOption ↔ query = [] := by
  have hori : targetParts ('/' :: '?' :: query) = (canonicalizeQueryPairs query).map (fun pairs => (lit "/", pairs)) := by
    have hspl : splitPathAndQuery ('/' :: '?' :: query) = (lit "/", query) := rfl
    have hp : canonicalizePercentEncoded (lit "/") = .ok (lit "/") := by decide
    simp only [targetParts, hspl, hp]
    cases canonicalizeQueryPairs query with
    | error e => rfl
    | ok pairs => rfl
  rw [hori, ← canonicalizeQueryPairs_nil_iff]
  cases canonicalizeQueryPairs query with
  | error e => exact iff_of_false nofun nofun
  | ok pairs =>
    constructor
    · intro h
      cases h
      rfl
    · intro h
      cases h
      rfl

/-- **An absolute form canonicalizes like its origin form, except for a query right behind the authority**: there the query
has to be empty, up to the white space at its end. -/
theorem targetForms_agree_iff (a tail : Text) (ha : (canonicalizeHost a).isOk = true) (hquery : '?' ∉ a) (hfragment : '#' ∉ a)
    (htail : tail = [] ∨ tail.head? = some '/' ∨ tail.head? = some '?') (hno : '#' ∉ tail) :
    SameParts (canonicalizeRequestTarget (lit "http://" ++ (a ++ tail))) (canonicalizeRequestTarget (originForm tail)) ↔
      ∀ query, tail = '?' :: query → ∀ c ∈ query, isWhitespace c = true := by
  obtain ⟨host, hh⟩ : ∃ host, canonicalizeHost a = .ok host := by
    cases h : canonicalizeHost a with
    | error e => rw [h] at ha; cases ha
    | ok host => exact ⟨host, rfl⟩
  have hau : ∀ c ∈ a, delimitsAuthority c = false := by
    intro c hc
    rw [Bool.eq_false_iff]
    intro hd
    rcases delimitsAuthority_cases hd with rfl | rfl
    · exact slash_notMem_of_canonicalizeHost hh hc
    · exact hquery hc
  have hdel : ∀ c rest, tail = c :: rest → delimitsAuthority c = true := by
    rintro c rest rfl
    rcases htail with h | h | h
    · cases h
    · cases h
      rfl
    · cases h
      rfl
  rw [sameParts_iff hdel hh hau hfragment hno]
  cases tail with
  | nil => exact iff_of_true rfl nofun
  | cons c rest =>
    rcases delimitsAuthority_cases (hdel c rest rfl) with rfl | rfl
    · rw [trimEnd_cons (by decide)]
      exact iff_of_true rfl nofun
    · rw [trimEnd_cons (by decide)]
      refine droppedQuery_iff.trans (trimEnd_eq_nil.trans ⟨?_, fun h => h rest rfl⟩)
      rintro h query e
      cases e
      exact h

/-- A query behind the authority is lost. -/
theorem targetForms_differ :
    canonicalizeRequestTarget (lit "http://a?x=1") = .ok ⟨some (lit "a"), lit "/", []⟩ ∧
      canonicalizeRequestTarget (originForm (lit "?x=1")) = .ok ⟨none, lit "/", [(lit "x", lit "1")]⟩ := by
  decide +kernel

theorem targetForms_agree_slash :
    SameParts (canonicalizeRequestTarget (lit "http://a/?x=1")) (canonicalizeRequestTarget (originForm (lit "/?x=1"))) :=
  (targetForms_agree_iff (lit "a") (lit "/?x=1") (by decide) (by decide) (by decide) (.inr (.inl rfl)) (by decide)).2 nofun

end WayBalancer
