import WayBalancer.Text
/-!
# HttpTarget — request targets and hosts in canonical form

`crates/proto-http/src/lib.rs`: a request target is an optional authority, a path and a query, the query a sorted list of
pairs.  Canonical text is read byte by byte, so a byte of a multi-byte character becomes the character of that number; a
percent escape is kept with its digits in upper case.
-/
namespace WayBalancer

open Str

variable {bs : List UInt8} {t query target : Text} {c : Char} {pair : Text × Text} {pairs : List (Text × Text)}

inductive RequestTargetError
  | unsupportedForm
  | emptyAuthority
  | fragmentNotAllowed
  | invalidPercentEncoding
  | invalidQuery
  | invalidAuthority
deriving DecidableEq, Repr

structure CanonicalRequestTarget where
  authority : Option Text
  path : Text
  queryPairs : List (Text × Text)
deriving DecidableEq, Repr

/-- A query pair as text: the `=` only where there is a value. -/
def renderPair (pair : Text × Text) : Text := if pair.2.isEmpty then pair.1 else pair.1 ++ '=' :: pair.2

def joinWith (sep : Text) (pieces : List Text) : Text := List.intercalate sep pieces

def CanonicalRequestTarget.canonicalQuery (t : CanonicalRequestTarget) : Text :=
  joinWith (lit "&") (t.queryPairs.map renderPair)

def canonicalizeHost (value : Text) : Except RequestTargetError Text :=
  let normalized := lower (trim value)
  if normalized.isEmpty || normalized.contains '/' || normalized.contains '@' || normalized.contains ',' ||
      normalized.any isAsciiWhitespace then .error .invalidAuthority
  else
    let normalized := if normalized.getLast? = some '.' then normalized.dropLast else normalized
    if normalized.isEmpty then .error .invalidAuthority else .ok normalized

/-- `canonicalize_percent_encoded` over the bytes its index has not passed. -/
def canonicalizeBytes : List UInt8 → Except RequestTargetError Text
  | []        => .ok []
  | b :: rest =>
    if b = 37 then
      match rest with
      | hi :: lo :: rest =>
        if isHexDigit hi && isHexDigit lo then
          (canonicalizeBytes rest).map (fun t => '%' :: (byteChar hi).toUpper :: (byteChar lo).toUpper :: t)
        else .error .invalidPercentEncoding
      | _ => .error .invalidPercentEncoding
    else (canonicalizeBytes rest).map (byteChar b :: ·)

def canonicalizePercentEncoded (value : Text) : Except RequestTargetError Text := canonicalizeBytes (utf8 value)

/-- A raw pair, split at its first `=`. -/
def canonicalizePair (rawPair : Text) : Except RequestTargetError (Text × Text) :=
  if rawPair.isEmpty then .error .invalidQuery
  else
    let split := (splitOnce '=' rawPair).getD (rawPair, [])
    match canonicalizePercentEncoded split.1 with
    | .error e => .error e
    | .ok name => match canonicalizePercentEncoded split.2 with
      | .error e  => .error e
      | .ok value => .ok (name, value)

def canonicalizePairs : List Text → Except RequestTargetError (List (Text × Text))
  | []              => .ok []
  | rawPair :: rest => match canonicalizePair rawPair with
    | .error e => .error e
    | .ok pair => (canonicalizePairs rest).map (pair :: ·)

/-- The order `Vec::sort` puts pairs of strings in. -/
def pairLe (a b : Text × Text) : Prop := toLex a ≤ toLex b

instance : DecidableRel pairLe := fun a b => inferInstanceAs (Decidable (toLex a ≤ toLex b))

def canonicalizeQueryPairs (query : Text) : Except RequestTargetError (List (Text × Text)) :=
  if query.isEmpty then .ok []
  else (canonicalizePairs (query.splitOn '&')).map (List.insertionSort pairLe)

def splitPathAndQuery (pathAndQuery : Text) : Text × Text :=
  if pathAndQuery.isEmpty then (lit "/", [])
  else match splitOnce '?' pathAndQuery with
    | some (path, query) => (if path.isEmpty then lit "/" else path, query)
    | none               => (pathAndQuery, [])

/-- What an absolute form holds behind its authority; a query that follows the authority directly is not looked at. -/
def pathAndQueryAfter (tail : Text) : Text :=
  if tail.isEmpty then lit "/" else if (lit "?").isPrefixOf tail then [] else tail

/-- The authority and the path with its query of a target, in origin form or absolute form. -/
def splitTarget (target : Text) : Except RequestTargetError (Option Text × Text) :=
  let absolute := if (lit "/").isPrefixOf target then none else splitOnceStr (lit "://") target
  match absolute with
  | some (scheme, remainder) =>
    if !eqIgnoreCase scheme (lit "http") && !eqIgnoreCase scheme (lit "https") then .error .unsupportedForm
    else
      let (authority, tail) := splitAtFirst (fun c => c == '/' || c == '?') remainder
      if (trim authority).isEmpty then .error .emptyAuthority
      else match canonicalizeHost authority with
        | .error e => .error e
        | .ok host => .ok (some host, pathAndQueryAfter tail)
  | none => if (lit "/").isPrefixOf target then .ok (none, target) else .error .unsupportedForm

def canonicalizeRequestTarget (target : Text) : Except RequestTargetError CanonicalRequestTarget :=
  let target := trim target
  if target.isEmpty || target == lit "*" then .error .unsupportedForm
  else if target.contains '#' then .error .fragmentNotAllowed
  else match splitTarget target with
    | .error e => .error e
    | .ok (authority, pathAndQuery) =>
      let (path, query) := splitPathAndQuery pathAndQuery
      match canonicalizePercentEncoded path with
      | .error e => .error e
      | .ok path => match canonicalizeQueryPairs query with
        | .error e       => .error e
        | .ok queryPairs => .ok { authority, path, queryPairs }

example : (canonicalizeRequestTarget (lit "HTTP://A.b.:1/x%2f?b=1&a")).map (fun t => (t.authority, t.path, t.canonicalQuery))
    = .ok (some (lit "a.b.:1"), lit "/x%2F", lit "a&b=1") := by decide +kernel

/-! ## The characters of canonical text -/

/-- The bytes read and the text that comes out, escape by escape and byte by byte. -/
inductive CanonicalBytes : List UInt8 → Text → Prop
  | nil : CanonicalBytes [] []
  | escape {hi lo : UInt8} {bs : List UInt8} {t : Text} (hhi : isHexDigit hi = true) (hlo : isHexDigit lo = true)
      (rest : CanonicalBytes bs t) :
      CanonicalBytes (37 :: hi :: lo :: bs) ('%' :: (byteChar hi).toUpper :: (byteChar lo).toUpper :: t)
  | plain {b : UInt8} {bs : List UInt8} {t : Text} (hb : b ≠ 37) (rest : CanonicalBytes bs t) :
      CanonicalBytes (b :: bs) (byteChar b :: t)

theorem CanonicalBytes.of_ok (h : canonicalizeBytes bs = .ok t) : CanonicalBytes bs t := by
  fun_induction canonicalizeBytes bs generalizing t with
  | case1 => cases h; exact .nil
  | case2 hi lo rest hhex ih =>
    cases hr : canonicalizeBytes rest with
    | error e => rw [hr] at h; cases h
    | ok t' =>
      rw [hr] at h
      cases h
      rw [Bool.and_eq_true] at hhex
      exact .escape hhex.1 hhex.2 (ih hr)
  | case3 hi lo rest hhex => cases h
  | case4 rest hre => cases h
  | case5 b rest hb ih =>
    cases hr : canonicalizeBytes rest with
    | error e => rw [hr] at h; cases h
    | ok t' =>
      rw [hr] at h
      cases h
      exact .plain hb (ih hr)

theorem CanonicalBytes.ok (h : CanonicalBytes bs t) : canonicalizeBytes bs = .ok t := by
  induction h with
  | nil => rfl
  | escape hhi hlo _ ih => simp only [canonicalizeBytes, hhi, hlo, ih, Bool.and_self, if_true, Except.map]
  | plain hb _ ih =>
    unfold canonicalizeBytes
    rw [if_neg hb, ih]
    rfl

/-- The characters percent-encoding puts into canonical text. -/
def escapeChars : Text := lit "%0123456789ABCDEF"

theorem mem_canonicalizeBytes (h : canonicalizeBytes bs = .ok t) (hc : c ∈ t) : c ∈ escapeChars ∨ ∃ b ∈ bs, c = byteChar b := by
  induction CanonicalBytes.of_ok h with
  | nil => cases hc
  | escape hhi hlo rest ih =>
    rcases List.mem_cons.1 hc with rfl | hc
    · exact .inl (by decide)
    rcases List.mem_cons.1 hc with rfl | hc
    · exact .inl (List.mem_cons_of_mem _ (hexDigit_upper hhi))
    rcases List.mem_cons.1 hc with rfl | hc
    · exact .inl (List.mem_cons_of_mem _ (hexDigit_upper hlo))
    rcases ih rest.ok hc with he | ⟨b, hb, e⟩
    · exact .inl he
    · exact .inr ⟨b, by simp [hb], e⟩
  | plain hb rest ih =>
    rcases List.mem_cons.1 hc with rfl | hc
    · exact .inr ⟨_, List.mem_cons_self, rfl⟩
    rcases ih rest.ok hc with he | ⟨b', hb', e⟩
    · exact .inl he
    · exact .inr ⟨b', List.mem_cons_of_mem _ hb', e⟩

theorem mem_canonicalizePercentEncoded {value : Text} (h : canonicalizePercentEncoded value = .ok t) (hasc : c.toNat < 128)
    (hesc : c ∉ escapeChars) (hc : c ∈ t) : c ∈ value := by
  obtain ⟨b, hb, rfl⟩ := (mem_canonicalizeBytes h hc).resolve_left hesc
  refine byteChar_mem_of_mem_utf8 ?_ hb
  rw [← byteChar_toNat]
  exact hasc

theorem canonicalizePercentEncoded_slash {rest : Text} (h : canonicalizePercentEncoded ('/' :: rest) = .ok t) : t.head? = some '/' := by
  have hby : CanonicalBytes (47 :: utf8 rest) t := .of_ok h
  generalize hbs : (47 :: utf8 rest : List UInt8) = bs at hby
  cases hby with
  | nil => cases hbs
  | escape _ _ _ => exact absurd (List.cons.inj hbs).1 (by decide)
  | plain _ _ =>
    rw [← (List.cons.inj hbs).1]
    rfl

theorem canonicalizePairs_mem : ∀ {raws : List Text} {pairs : List (Text × Text)} {pair : Text × Text},
    canonicalizePairs raws = .ok pairs → pair ∈ pairs → ∃ raw ∈ raws, canonicalizePair raw = .ok pair
  | [], _, _, h, hp => by cases h; cases hp
  | raw :: raws, pairs, pair, h, hp => by
    rw [canonicalizePairs] at h
    cases hraw : canonicalizePair raw with
    | error e => rw [hraw] at h; cases h
    | ok first =>
      cases hr : canonicalizePairs raws with
      | error e => rw [hraw, hr] at h; cases h
      | ok rest =>
        rw [hraw, hr] at h
        cases h
        rcases List.mem_cons.1 hp with rfl | hp
        · exact ⟨raw, by simp, hraw⟩
        · obtain ⟨raw', hm, e⟩ := canonicalizePairs_mem hr hp
          exact ⟨raw', List.mem_cons_of_mem _ hm, e⟩

def splitPair (raw : Text) : Text × Text := (splitOnce '=' raw).getD (raw, [])

variable {raw : Text}

theorem splitPair_of_notMem (h : '=' ∉ raw) : splitPair raw = (raw, []) := by
  rw [splitPair, splitOnce_of_notMem h]
  rfl

theorem splitPair_append {name : Text} (h : '=' ∉ name) (value : Text) : splitPair (name ++ '=' :: value) = (name, value) := by
  rw [splitPair, splitOnce_append h]
  rfl

theorem canonicalizePair_iff : canonicalizePair raw = .ok pair ↔ raw ≠ [] ∧ canonicalizePercentEncoded (splitPair raw).1 = .ok pair.1 ∧
      canonicalizePercentEncoded (splitPair raw).2 = .ok pair.2 := by
  unfold canonicalizePair
  by_cases hraw : raw = []
  · rw [hraw]
    exact iff_of_false (fun h => by cases h) (fun h => h.1 rfl)
  · rw [if_neg (fun h => hraw (List.isEmpty_iff.1 h))]
    simp only [splitPair]
    cases canonicalizePercentEncoded ((splitOnce '=' raw).getD (raw, [])).1 with
    | error e => simp
    | ok name =>
      cases canonicalizePercentEncoded ((splitOnce '=' raw).getD (raw, [])).2 with
      | error e => simp
      | ok value => simp [hraw, Prod.ext_iff]

theorem canonicalizePair_ok (h : canonicalizePair raw = .ok pair) : ∃ name value, '=' ∉ name ∧ name ⊆ raw ∧ value ⊆ raw ∧
      canonicalizePercentEncoded name = .ok pair.1 ∧ canonicalizePercentEncoded value = .ok pair.2 := by
  obtain ⟨-, hn, hval⟩ := canonicalizePair_iff.1 h
  rcases splitOnce_cases '=' raw with hno | ⟨name, value, hno, rfl⟩
  · rw [splitPair_of_notMem hno] at hn hval
    exact ⟨raw, [], hno, List.Subset.refl raw, List.nil_subset raw, hn, hval⟩
  · rw [splitPair_append hno] at hn hval
    exact ⟨name, value, hno, fun c hc => by simp [hc], fun c hc => by simp [hc], hn, hval⟩

theorem canonicalizeQueryPairs_mem (h : canonicalizeQueryPairs query = .ok pairs) (hp : pair ∈ pairs) :
    ∃ raw, '&' ∉ raw ∧ raw ⊆ query ∧ canonicalizePair raw = .ok pair := by
  unfold canonicalizeQueryPairs at h
  split_ifs at h with hemp
  · cases h
    cases hp
  · cases hs : canonicalizePairs (query.splitOn '&') with
    | error e => rw [hs] at h; cases h
    | ok raws =>
      rw [hs] at h
      cases h
      obtain ⟨raw, hraw, e⟩ := canonicalizePairs_mem hs (((List.perm_insertionSort pairLe raws).mem_iff).1 hp)
      exact ⟨raw, (mem_splitOn hraw).1, (mem_splitOn hraw).2, e⟩

/-- **A canonical query pair holds no ampersand, its name no equals sign**, and any other plain character of it is one of
the query's. -/
theorem mem_renderPair (h : c ∈ renderPair pair) : c ∈ pair.1 ∨ c = '=' ∨ c ∈ pair.2 := by
  unfold renderPair at h
  split_ifs at h
  · exact .inl h
  · rcases List.mem_append.1 h with h | h
    · exact .inl h
    · exact .inr (List.mem_cons.1 h)

theorem canonicalizeQueryPairs_plain (h : canonicalizeQueryPairs query = .ok pairs) (hp : pair ∈ pairs) :
    '=' ∉ pair.1 ∧ '&' ∉ pair.1 ∧ '&' ∉ pair.2 ∧ ∀ c : Char, c.toNat < 128 → c ∉ escapeChars → c ∈ pair.1 ∨ c ∈ pair.2 → c ∈ query := by
  obtain ⟨raw, hamp, hsub, hpa⟩ := canonicalizeQueryPairs_mem h hp
  obtain ⟨name, value, heq, hn, hval, h1, h2⟩ := canonicalizePair_ok hpa
  refine ⟨fun hm => heq (mem_canonicalizePercentEncoded h1 (by decide) (by decide) hm),
    fun hm => hamp (hn (mem_canonicalizePercentEncoded h1 (by decide) (by decide) hm)),
    fun hm => hamp (hval (mem_canonicalizePercentEncoded h2 (by decide) (by decide) hm)), ?_⟩
  intro c hasc hesc hc
  rcases hc with hc | hc
  · exact hsub (hn (mem_canonicalizePercentEncoded h1 hasc hesc hc))
  · exact hsub (hval (mem_canonicalizePercentEncoded h2 hasc hesc hc))

theorem amp_notMem_renderPair (h : canonicalizeQueryPairs query = .ok pairs) : ∀ piece ∈ pairs.map renderPair, '&' ∉ piece := by
  intro piece hpie hm
  obtain ⟨pair, hp, rfl⟩ := List.mem_map.1 hpie
  obtain ⟨-, hn, hval, -⟩ := canonicalizeQueryPairs_plain h hp
  rcases mem_renderPair hm with hm | hm | hm
  · exact hn hm
  · exact absurd hm (by decide)
  · exact hval hm

/-! ## The parts of a canonical target -/

def isHttpScheme (scheme : Text) : Prop := eqIgnoreCase scheme (lit "http") = true ∨ eqIgnoreCase scheme (lit "https") = true

/-- What an authority holds no character of. -/
def delimitsAuthority (c : Char) : Bool := c == '/' || c == '?'

theorem delimitsAuthority_cases (h : delimitsAuthority c = true) : c = '/' ∨ c = '?' := by
  simpa [delimitsAuthority] using h

variable {pathAndQuery : Text} {authority : Option Text}

theorem splitTarget_cases (h : splitTarget target = .ok (authority, pathAndQuery)) :
    (∃ rest, target = '/' :: rest ∧ authority = none ∧ pathAndQuery = target) ∨
    ∃ scheme a tail host, isHttpScheme scheme ∧ canonicalizeHost a = .ok host ∧ (∀ c ∈ a, delimitsAuthority c = false) ∧
      (∀ c rest, tail = c :: rest → delimitsAuthority c = true) ∧ target = scheme ++ (lit "://" ++ (a ++ tail)) ∧
      authority = some host ∧ pathAndQuery = pathAndQueryAfter tail := by
  unfold splitTarget at h
  by_cases hori : (lit "/").isPrefixOf target = true
  · simp only [hori, if_true] at h
    cases h
    obtain ⟨rest, e⟩ := List.isPrefixOf_iff_prefix.1 hori
    exact .inl ⟨rest, e.symm, rfl, rfl⟩
  simp only [hori, Bool.false_eq_true, if_false] at h
  cases habs : splitOnceStr (lit "://") target with
  | none => rw [habs] at h; cases h
  | some p =>
    obtain ⟨scheme, remainder⟩ := p
    rw [habs] at h
    simp only at h
    split_ifs at h with hsch hemp
    have hacc : isHttpScheme scheme := by
      by_contra hno
      unfold isHttpScheme at hno
      rw [not_or, Bool.not_eq_true, Bool.not_eq_true] at hno
      exact hsch (by rw [hno.1, hno.2]; rfl)
    cases hh : canonicalizeHost (splitAtFirst (fun c => c == '/' || c == '?') remainder).1 with
    | error e => rw [hh] at h; cases h
    | ok host =>
      rw [hh] at h
      cases h
      refine .inr ⟨scheme, (splitAtFirst delimitsAuthority remainder).1, (splitAtFirst delimitsAuthority remainder).2, host,
        hacc, hh, ?_, fun c rest e => splitAtFirst_tail e, ?_, rfl, rfl⟩
      · intro c hc
        have hp := List.mem_takeWhile_imp hc
        simpa using hp
      · have hpar : (splitAtFirst delimitsAuthority remainder).1 ++ (splitAtFirst delimitsAuthority remainder).2 = remainder :=
          List.takeWhile_append_dropWhile
        rw [hpar, splitOnceStr_some habs, List.append_assoc]

/-- A path with its query, taken from a target: empty, or from a slash on. -/
def FromSlash (target s : Text) : Prop := s = [] ∨ (s.head? = some '/' ∧ s ⊆ '/' :: target)

theorem slash_subset : lit "/" ⊆ '/' :: target := fun _ hc => List.mem_cons.2 (.inl (List.mem_singleton.1 hc))

theorem pathAndQueryAfter_fromSlash {tail : Text} (ht : ∀ c rest, tail = c :: rest → delimitsAuthority c = true) :
    FromSlash tail (pathAndQueryAfter tail) := by
  cases tail with
  | nil => exact .inr ⟨rfl, slash_subset⟩
  | cons c rest =>
    unfold pathAndQueryAfter
    split_ifs with hemp hque
    · cases hemp
    · exact .inl rfl
    · rcases delimitsAuthority_cases (ht c rest rfl) with rfl | rfl
      · exact .inr ⟨rfl, fun d hd => List.mem_cons_of_mem _ hd⟩
      · exact absurd rfl hque

theorem splitTarget_fromSlash (h : splitTarget target = .ok (authority, pathAndQuery)) : FromSlash target pathAndQuery := by
  rcases splitTarget_cases h with ⟨rest, rfl, -, rfl⟩ | ⟨sch, a, tail, host, -, -, -, ht, rfl, -, rfl⟩
  · exact .inr ⟨rfl, fun c hc => List.mem_cons_of_mem _ hc⟩
  · rcases pathAndQueryAfter_fromSlash ht with he | ⟨hh, hs⟩
    · exact .inl he
    · exact .inr ⟨hh, fun c hc => List.cons_subset_cons _ (fun d hd => by simp [hd]) (hs hc)⟩

variable {path s : Text}

theorem splitPathAndQuery_query (hne : path ≠ []) (hno : '?' ∉ path) (query : Text) :
    splitPathAndQuery (path ++ '?' :: query) = (path, query) := by
  unfold splitPathAndQuery
  rw [splitOnce_append hno]
  simp [hne]

theorem splitPathAndQuery_path (hne : path ≠ []) (hno : '?' ∉ path) : splitPathAndQuery path = (path, []) := by
  unfold splitPathAndQuery
  rw [if_neg (fun he => hne (List.isEmpty_iff.1 he)), splitOnce_of_notMem hno]

/-- What a target holds behind its authority, taken apart: a path from a slash on, and a query behind a question mark. -/
theorem splitPathAndQuery_cases (hs : s.head? = some '/') : ('?' ∉ s ∧ splitPathAndQuery s = (s, [])) ∨
      ∃ path query, path ≠ [] ∧ '?' ∉ path ∧ s = path ++ '?' :: query ∧ splitPathAndQuery s = (path, query) := by
  rcases splitOnce_cases '?' s with hno | ⟨path, query, hno, rfl⟩
  · refine .inl ⟨hno, splitPathAndQuery_path ?_ hno⟩
    rintro rfl
    cases hs
  · have hne : path ≠ [] := by
      rintro rfl
      cases hs
    exact .inr ⟨path, query, hne, hno, rfl, splitPathAndQuery_query hne hno query⟩

theorem splitPathAndQuery_fromSlash (h : FromSlash target s) :
    (splitPathAndQuery s).1.head? = some '/' ∧ (splitPathAndQuery s).1 ⊆ '/' :: target ∧ (splitPathAndQuery s).2 ⊆ '/' :: target := by
  rcases h with rfl | ⟨hh, hs⟩
  · exact ⟨rfl, slash_subset, fun c hc => nomatch hc⟩
  · rcases splitPathAndQuery_cases hh with ⟨-, e⟩ | ⟨path, query, hne, -, rfl, e⟩
    · rw [e]
      exact ⟨hh, hs, fun c hc => nomatch hc⟩
    · rw [e]
      rw [List.head?_append_of_ne_nil _ hne] at hh
      exact ⟨hh, fun d hd => hs (List.mem_append_left _ hd), fun d hd => hs (by simp [show d ∈ query from hd])⟩

/-- The canonical path and query pairs of a path with its query. -/
def targetParts (pathAndQuery : Text) : Except RequestTargetError (Text × List (Text × Text)) :=
  match canonicalizePercentEncoded (splitPathAndQuery pathAndQuery).1 with
  | .error e => .error e
  | .ok path => match canonicalizeQueryPairs (splitPathAndQuery pathAndQuery).2 with
    | .error e       => .error e
    | .ok queryPairs => .ok (path, queryPairs)

theorem targetParts_ok {queryPairs : List (Text × Text)} : targetParts pathAndQuery = .ok (path, queryPairs) ↔
      canonicalizePercentEncoded (splitPathAndQuery pathAndQuery).1 = .ok path ∧
        canonicalizeQueryPairs (splitPathAndQuery pathAndQuery).2 = .ok queryPairs := by
  unfold targetParts
  cases canonicalizePercentEncoded (splitPathAndQuery pathAndQuery).1 with
  | error e => simp
  | ok path' =>
    cases canonicalizeQueryPairs (splitPathAndQuery pathAndQuery).2 with
    | error e => simp
    | ok queryPairs' => simp

theorem canonicalizeRequestTarget_eq (hfra : '#' ∉ trim target) (h : splitTarget (trim target) = .ok (authority, pathAndQuery)) :
    canonicalizeRequestTarget target = (targetParts pathAndQuery).map (fun parts => ⟨authority, parts.1, parts.2⟩) := by
  have hf : ¬ ((trim target).isEmpty || trim target == lit "*") = true := by
    intro hf
    rcases Bool.or_eq_true_iff.1 hf with hf | hf
    · rw [List.isEmpty_iff.1 hf] at h
      cases h
    · rw [beq_iff_eq.1 hf] at h
      cases h
  unfold canonicalizeRequestTarget targetParts
  simp only [if_neg hf, List.contains_iff_mem, if_neg hfra, h]
  cases canonicalizePercentEncoded (splitPathAndQuery pathAndQuery).1 with
  | error e => rfl
  | ok path =>
    cases canonicalizeQueryPairs (splitPathAndQuery pathAndQuery).2 with
    | error e => rfl
    | ok queryPairs => rfl

theorem canonicalizeRequestTarget_ok_iff (hfra : '#' ∉ trim target)
    (h : splitTarget (trim target) = .ok (authority, pathAndQuery)) {c : CanonicalRequestTarget} :
    canonicalizeRequestTarget target = .ok c ↔ c.authority = authority ∧ targetParts pathAndQuery = .ok (c.path, c.queryPairs) := by
  rw [canonicalizeRequestTarget_eq hfra h]
  cases targetParts pathAndQuery with
  | error e => exact iff_of_false nofun (fun hc => nomatch hc.2)
  | ok parts =>
    constructor
    · intro he
      cases he
      exact ⟨rfl, rfl⟩
    · rintro ⟨rfl, he⟩
      cases he
      rfl

theorem canonicalizeRequestTarget_parts {c : CanonicalRequestTarget} (h : canonicalizeRequestTarget target = .ok c) :
    '#' ∉ trim target ∧ ∃ pathAndQuery, splitTarget (trim target) = .ok (c.authority, pathAndQuery) ∧
      targetParts pathAndQuery = .ok (c.path, c.queryPairs) := by
  have hfra : '#' ∉ trim target := by
    intro hmem
    unfold canonicalizeRequestTarget at h
    simp only [List.contains_iff_mem, if_pos hmem] at h
    split_ifs at h
  cases hspl : splitTarget (trim target) with
  | error e =>
    unfold canonicalizeRequestTarget at h
    simp only [hspl] at h
    split_ifs at h
  | ok split =>
    obtain ⟨authority, pathAndQuery⟩ := split
    obtain ⟨rfl, hpar⟩ := (canonicalizeRequestTarget_ok_iff hfra hspl).1 h
    exact ⟨hfra, pathAndQuery, rfl, hpar⟩

/-- **A canonical target is read off its text**: the path from a slash on, the query pairs between ampersands. -/
theorem canonicalizeRequestTarget_ok {t : CanonicalRequestTarget} (h : canonicalizeRequestTarget target = .ok t) :
    ∃ path query, path.head? = some '/' ∧ path ⊆ '/' :: target ∧ query ⊆ '/' :: target ∧
      canonicalizePercentEncoded path = .ok t.path ∧ canonicalizeQueryPairs query = .ok t.queryPairs := by
  obtain ⟨-, pathAndQuery, hspl, hpar⟩ := canonicalizeRequestTarget_parts h
  obtain ⟨hpa, hque⟩ := targetParts_ok.1 hpar
  obtain ⟨hh, hp, hq⟩ := splitPathAndQuery_fromSlash (splitTarget_fromSlash hspl)
  have hsub : '/' :: trim target ⊆ '/' :: target := List.cons_subset_cons _ (trim_sublist target).subset
  exact ⟨_, _, hh, fun c hc => hsub (hp hc), fun c hc => hsub (hq hc), hpa, hque⟩

end WayBalancer
