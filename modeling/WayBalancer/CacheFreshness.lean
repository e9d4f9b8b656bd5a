import WayBalancer.CacheKey
/-!
# CacheFreshness — how long an origin's response stays fresh

`derive_freshness_windows_from_origin` (`crates/runtime/src/http1_proxy/cache_headers_and_freshness.rs`): the `Cache-Control`
directives of all lines are read in order, the last value of a directive counts, and the `Age` is subtracted where it is
given once.  Windows are in seconds.  HTTP dates are parsed by a library, so their parser is a parameter.
-/
namespace WayBalancer

open Str

structure CacheFreshnessWindows where
  freshFor : ℕ
  staleWhileRevalidateFor : Option ℕ
  staleIfErrorFor : Option ℕ
deriving DecidableEq, Repr

structure ParsedCacheControl where
  noStore : Bool := false
  isPrivate : Bool := false
  noCache : Bool := false
  maxAge : Option ℕ := none
  sharedMaxAge : Option ℕ := none
  staleWhileRevalidate : Option ℕ := none
  staleIfError : Option ℕ := none
deriving DecidableEq, Repr

/-! ## Directives -/

inductive CacheDirective
  | noStore
  | isPrivate
  | noCache
  | maxAge
  | sharedMaxAge
  | staleWhileRevalidate
  | staleIfError
  | unknown
deriving DecidableEq, Repr

def directiveNamed (name : Text) : CacheDirective :=
  if eqIgnoreCase name (lit "no-store") then .noStore
  else if eqIgnoreCase name (lit "private") then .isPrivate
  else if eqIgnoreCase name (lit "no-cache") then .noCache
  else if eqIgnoreCase name (lit "max-age") then .maxAge
  else if eqIgnoreCase name (lit "s-maxage") then .sharedMaxAge
  else if eqIgnoreCase name (lit "stale-while-revalidate") then .staleWhileRevalidate
  else if eqIgnoreCase name (lit "stale-if-error") then .staleIfError
  else .unknown

variable (directive : Text)

def splitDirective : Text × Option Text :=
  match splitOnce '=' directive with
  | some (name, value) => (trim name, some (trim value))
  | none               => (directive, none)

def directiveOf : CacheDirective := directiveNamed (splitDirective directive).1

/-- `parse_cache_delta`: a number of seconds, in quotes or not. -/
def parseCacheDelta (value : Text) : Option ℕ := parseU64 ((value.dropWhile (· = '"')).rdropWhile (· = '"'))

def deltaOf : Option ℕ := (splitDirective directive).2.bind parseCacheDelta

/-- One turn of `parse_cache_control`'s loop; a directive without its number ends the parse. -/
def ParsedCacheControl.apply (parsed : ParsedCacheControl) (directive : Text) : Option ParsedCacheControl :=
  match directiveOf directive with
  | .noStore              => some { parsed with noStore := true }
  | .isPrivate            => some { parsed with isPrivate := true }
  | .noCache              => some { parsed with noCache := true }
  | .maxAge               => (deltaOf directive).map (fun v => { parsed with maxAge := some v })
  | .sharedMaxAge         => (deltaOf directive).map (fun v => { parsed with sharedMaxAge := some v })
  | .staleWhileRevalidate => (deltaOf directive).map (fun v => { parsed with staleWhileRevalidate := some v })
  | .staleIfError         => (deltaOf directive).map (fun v => { parsed with staleIfError := some v })
  | .unknown              => some parsed

def ParsedCacheControl.applyAll (parsed : ParsedCacheControl) : List Text → Option ParsedCacheControl
  | []                => some parsed
  | directive :: rest => (parsed.apply directive).bind (fun parsed => parsed.applyAll rest)

variable (hs : List HttpHeader)

def cacheDirectives : List Text := tokensOf hs (lit "cache-control")

def parseCacheControl : Option ParsedCacheControl :=
  ParsedCacheControl.applyAll {} (cacheDirectives hs)

def headerValue (name : Text) : Option Text :=
  match linesOf hs name with
  | [h] => some (trim h.value)
  | _   => none

def hasPragmaNoCache : Bool :=
  hs.any (fun h => h.isNamed (lit "pragma") && eqIgnoreCase h.value (lit "no-cache"))

def durationIfNonZero (seconds : ℕ) : Option ℕ := if seconds ≠ 0 then some seconds else none

/-! ## The windows -/

section
variable (parseHttpDate : Text → Option ℕ) (policy : HttpCachePolicyConfig) (hs : List HttpHeader)

/-- The age the response states; an unreadable one ends the derivation. -/
def ageSecs : Option ℕ :=
  match headerValue hs (lit "age") with
  | some value => parseU64 value
  | none       => some 0

/-- Seconds of freshness left, from the directives, from `Expires` and `Date`, or by default. -/
def freshnessSecs (directives : ParsedCacheControl) (age : ℕ) : Option ℕ :=
  match directives.sharedMaxAge.or directives.maxAge with
  | some maxAge => some (maxAge - age)
  | none => match headerValue hs (lit "expires") with
    | none => some policy.defaultTtlSecs
    | some expires => (parseHttpDate expires).bind (fun expiresAt => match headerValue hs (lit "date") with
      | none      => some policy.defaultTtlSecs
      | some date => (parseHttpDate date).map (fun originDate => expiresAt - originDate - age))

def deriveFreshnessWindowsFromOrigin : Option CacheFreshnessWindows := do
  let directives ← parseCacheControl hs
  if directives.noStore || directives.isPrivate || directives.noCache || hasPragmaNoCache hs then none
  else
    let age ← ageSecs hs
    let fresh ← freshnessSecs parseHttpDate policy hs directives age
    return {
      freshFor := min fresh policy.maxTtlSecs
      staleWhileRevalidateFor := durationIfNonZero
        (min (directives.staleWhileRevalidate.getD policy.staleWhileRevalidateSecs) policy.staleWhileRevalidateSecs)
      staleIfErrorFor := durationIfNonZero
        (min (directives.staleIfError.getD policy.staleIfErrorSecs) policy.staleIfErrorSecs) }

end

/-! ## What the directives say -/

def deltasOf (kind : CacheDirective) (directives : List Text) : List ℕ :=
  (directives.filter (fun d => directiveOf d = kind)).filterMap deltaOf

theorem deltasOf_cons (kind : CacheDirective) (d : Text) (ds : List Text) :
    deltasOf kind (d :: ds) = (if directiveOf d = kind then (deltaOf d).toList else []) ++ deltasOf kind ds := by
  unfold deltasOf
  rw [List.filter_cons]
  by_cases hk : directiveOf d = kind
  · simp only [hk, decide_true, if_true, List.filterMap_cons]
    cases deltaOf d <;> rfl
  · simp [hk]

/-- What a run over directives makes of the fields: a flag is raised by its directive, a number is the last one given. -/
structure ReadFrom (parsed : ParsedCacheControl) (ds : List Text) (result : ParsedCacheControl) : Prop where
  noStore : result.noStore = (parsed.noStore || ds.any (fun d => directiveOf d = .noStore))
  isPrivate : result.isPrivate = (parsed.isPrivate || ds.any (fun d => directiveOf d = .isPrivate))
  noCache : result.noCache = (parsed.noCache || ds.any (fun d => directiveOf d = .noCache))
  maxAge : result.maxAge = (deltasOf .maxAge ds).getLast?.or parsed.maxAge
  sharedMaxAge : result.sharedMaxAge = (deltasOf .sharedMaxAge ds).getLast?.or parsed.sharedMaxAge
  sharedGiven : ∀ d ∈ ds, directiveOf d = .sharedMaxAge → (deltaOf d).isSome = true

theorem apply_readFrom {parsed result : ParsedCacheControl} {d : Text} (h : parsed.apply d = some result) :
    ReadFrom parsed [d] result := by
  unfold ParsedCacheControl.apply at h
  cases hk : directiveOf d <;> simp only [hk] at h
  case maxAge | sharedMaxAge | staleWhileRevalidate | staleIfError =>
    obtain ⟨v, hv, rfl⟩ := Option.map_eq_some_iff.1 h
    constructor <;> simp [hk, hv, deltasOf]
  all_goals
    cases h
    constructor <;> simp [hk, deltasOf]

theorem getLast?_append_or {α : Type} (a b : List α) (x : Option α) : (a ++ b).getLast?.or x = b.getLast?.or (a.getLast?.or x) := by
  rw [List.getLast?_append, Option.or_assoc]

theorem ReadFrom.cons {parsed mid result : ParsedCacheControl} {d : Text} {ds : List Text} (h₁ : ReadFrom parsed [d] mid)
    (h₂ : ReadFrom mid ds result) : ReadFrom parsed (d :: ds) result where
  noStore := by rw [h₂.noStore, h₁.noStore, Bool.or_assoc]; simp
  isPrivate := by rw [h₂.isPrivate, h₁.isPrivate, Bool.or_assoc]; simp
  noCache := by rw [h₂.noCache, h₁.noCache, Bool.or_assoc]; simp
  maxAge := by
    rw [h₂.maxAge, h₁.maxAge, deltasOf_cons, deltasOf_cons, getLast?_append_or, getLast?_append_or]
    rfl
  sharedMaxAge := by
    rw [h₂.sharedMaxAge, h₁.sharedMaxAge, deltasOf_cons, deltasOf_cons, getLast?_append_or, getLast?_append_or]
    rfl
  sharedGiven := fun e he => by
    rcases List.mem_cons.1 he with rfl | he
    · exact h₁.sharedGiven _ (by simp)
    · exact h₂.sharedGiven e he

theorem applyAll_readFrom : ∀ {ds : List Text} {parsed result : ParsedCacheControl}, parsed.applyAll ds = some result →
    ReadFrom parsed ds result
  | [], parsed, result, h => by
    cases h
    constructor <;> simp [deltasOf]
  | d :: ds, parsed, result, h => by
    obtain ⟨mid, hmid, hr⟩ := Option.bind_eq_some_iff.1 h
    exact (apply_readFrom hmid).cons (applyAll_readFrom hr)

/-! ## What the response says -/

/-- The values of `s-maxage`, or of `max-age` where there is no `s-maxage`. -/
def effectiveMaxAges : List ℕ :=
  if (cacheDirectives hs).any (fun d => directiveOf d = .sharedMaxAge) then deltasOf .sharedMaxAge (cacheDirectives hs)
  else deltasOf .maxAge (cacheDirectives hs)

def statedAges : List ℕ := (linesOf hs (lit "age")).filterMap (fun h => parseDecimal (trim h.value))

/-- The response carries `no-store`, `private`, `no-cache` or `Pragma: no-cache`. -/
def ForbidsStoring : Prop :=
  (∃ d ∈ cacheDirectives hs, directiveOf d = .noStore ∨ directiveOf d = .isPrivate ∨ directiveOf d = .noCache) ∨
    ∃ h ∈ hs, h.isNamed (lit "pragma") = true ∧ eqIgnoreCase h.value (lit "no-cache") = true

variable {directives : ParsedCacheControl}

theorem parseCacheControl_maxAge {hs : List HttpHeader} (h : parseCacheControl hs = some directives) :
    directives.sharedMaxAge.or directives.maxAge = (effectiveMaxAges hs).getLast? := by
  have hr := applyAll_readFrom h
  rw [hr.sharedMaxAge, hr.maxAge, Option.or_none, Option.or_none]
  unfold effectiveMaxAges
  split_ifs with hsh
  · obtain ⟨d, hd, hk⟩ := List.any_eq_true.1 hsh
    rw [decide_eq_true_eq] at hk
    obtain ⟨v, hv⟩ := Option.isSome_iff_exists.1 (hr.sharedGiven d hd hk)
    have hmem : v ∈ deltasOf .sharedMaxAge (cacheDirectives hs) :=
      List.mem_filterMap.2 ⟨d, List.mem_filter.2 ⟨hd, by simpa using hk⟩, hv⟩
    cases hl : (deltasOf .sharedMaxAge (cacheDirectives hs)).getLast? with
    | none => rw [List.getLast?_eq_none_iff.1 hl] at hmem; cases hmem
    | some last => rfl
  · have hnil : deltasOf .sharedMaxAge (cacheDirectives hs) = [] := by
      unfold deltasOf
      rw [List.filter_eq_nil_iff.2 (fun d hd hk => hsh (List.any_eq_true.2 ⟨d, hd, hk⟩))]
      rfl
    rw [hnil]
    rfl

theorem parseCacheControl_allows {hs : List HttpHeader} (h : parseCacheControl hs = some directives)
    (hfla : (directives.noStore || directives.isPrivate || directives.noCache || hasPragmaNoCache hs) = false) :
    ¬ ForbidsStoring hs := by
  have hr := applyAll_readFrom h
  rw [hr.noStore, hr.isPrivate, hr.noCache] at hfla
  simp only [Bool.or_eq_false_iff, List.any_eq_false, decide_eq_true_eq] at hfla
  obtain ⟨⟨⟨⟨-, hsto⟩, -, hpri⟩, -, hcac⟩, hpra⟩ := hfla
  rintro (⟨d, hd, hk | hk | hk⟩ | ⟨hd, hmem, hn, hval⟩)
  · exact hsto d hd hk
  · exact hpri d hd hk
  · exact hcac d hd hk
  · exact List.any_eq_false.1 hpra hd hmem (by rw [hn, hval]; rfl)

theorem deriveFreshnessWindowsFromOrigin_some {parseHttpDate : Text → Option ℕ} {policy : HttpCachePolicyConfig}
    {hs : List HttpHeader} {w : CacheFreshnessWindows} (h : deriveFreshnessWindowsFromOrigin parseHttpDate policy hs = some w) :
    ¬ ForbidsStoring hs ∧ w.freshFor ≤ policy.maxTtlSecs ∧ ∃ age, ageSecs hs = some age ∧
      ∀ last, (effectiveMaxAges hs).getLast? = some last → w.freshFor = min (last - age) policy.maxTtlSecs := by
  obtain ⟨directives, hpar, h⟩ := Option.bind_eq_some_iff.1 h
  split_ifs at h with hfla
  obtain ⟨age, hage, h⟩ := Option.bind_eq_some_iff.1 h
  obtain ⟨fresh, hfre, h⟩ := Option.bind_eq_some_iff.1 h
  cases h
  refine ⟨parseCacheControl_allows hpar (by simpa using hfla), Nat.min_le_right .., age, hage, fun last hl => ?_⟩
  rw [freshnessSecs, parseCacheControl_maxAge hpar, hl] at hfre
  rw [Option.some.inj hfre]

theorem ageSecs_of_once {hs : List HttpHeader} {age : ℕ} (h : ageSecs hs = some age)
    (ho : (linesOf hs (lit "age")).length = 1) : statedAges hs = [age] := by
  obtain ⟨line, hl⟩ := List.length_eq_one_iff.1 ho
  unfold ageSecs headerValue at h
  rw [hl] at h
  unfold statedAges
  rw [hl]
  have hdec : parseDecimal (trim line.value) = some age := (Option.filter_eq_some_iff.1 h).1
  simp [hdec]

theorem ageSecs_of_not_once {hs : List HttpHeader} {age : ℕ} (h : ageSecs hs = some age)
    (ho : (linesOf hs (lit "age")).length ≠ 1) : age = 0 := by
  unfold ageSecs headerValue at h
  split at h
  · rename_i hv
    split at hv
    · rename_i hl
      exact absurd (by rw [hl]; rfl) ho
    · cases hv
  · exact (Option.some.inj h).symm

/-- The last value of the directive, less the age that is subtracted, stays within every value and age the response
states. -/
def AgeCovers (policy : HttpCachePolicyConfig) (hs : List HttpHeader) : Prop :=
  ∀ v ∈ effectiveMaxAges hs, ∀ a ∈ statedAges hs, ∀ last ∈ (effectiveMaxAges hs).getLast?,
    policy.maxTtlSecs = 0 ∨ policy.maxTtlSecs + a ≤ v ∨
      if (linesOf hs (lit "age")).length = 1 then last ≤ v ∨ last ≤ a else last = 0 ∨ last + a ≤ v

instance (policy : HttpCachePolicyConfig) (hs : List HttpHeader) : Decidable (AgeCovers policy hs) :=
  inferInstanceAs (Decidable (∀ v ∈ effectiveMaxAges hs, ∀ a ∈ statedAges hs, ∀ last ∈ (effectiveMaxAges hs).getLast?,
    policy.maxTtlSecs = 0 ∨ policy.maxTtlSecs + a ≤ v ∨
      if (linesOf hs (lit "age")).length = 1 then last ≤ v ∨ last ≤ a else last = 0 ∨ last + a ≤ v))

/-- **Windows stay within what the origin states exactly where the last value and the age read do.** -/
theorem freshness_within_origin_iff (parseHttpDate : Text → Option ℕ) (policy : HttpCachePolicyConfig)
    (hs : List HttpHeader) (w : CacheFreshnessWindows) (h : deriveFreshnessWindowsFromOrigin parseHttpDate policy hs = some w) :
    (w.freshFor ≤ policy.maxTtlSecs ∧ (∀ v ∈ effectiveMaxAges hs, ∀ a ∈ statedAges hs, w.freshFor ≤ v - a) ∧
      ¬ ForbidsStoring hs) ↔ AgeCovers policy hs := by
  obtain ⟨hall, hmax, age, hage, hfre⟩ := deriveFreshnessWindowsFromOrigin_some h
  have hbou : ∀ v a last, (effectiveMaxAges hs).getLast? = some last → a ∈ statedAges hs →
      (w.freshFor ≤ v - a ↔ policy.maxTtlSecs = 0 ∨ policy.maxTtlSecs + a ≤ v ∨
        if (linesOf hs (lit "age")).length = 1 then last ≤ v ∨ last ≤ a else last = 0 ∨ last + a ≤ v) := by
    intro v a last hl ha
    rw [hfre last hl]
    split_ifs with ho
    · rw [ageSecs_of_once hage ho, List.mem_singleton] at ha
      omega
    · rw [ageSecs_of_not_once hage ho]
      omega
  constructor
  · rintro ⟨-, hwit, -⟩ v hv a ha last hl
    exact (hbou v a last hl ha).1 (hwit v hv a ha)
  · intro hcov
    refine ⟨hmax, fun v hv a ha => ?_, hall⟩
    cases hl : (effectiveMaxAges hs).getLast? with
    | none => rw [List.getLast?_eq_none_iff.1 hl] at hv; cases hv
    | some last => exact (hbou v a last hl ha).2 (hcov v hv a ha last hl)

/-- Two `Age` lines: the age is taken as zero, and the response is kept for the whole `max-age`. -/
theorem freshness_ignores_repeated_age :
    let hs : List HttpHeader := [⟨lit "Cache-Control", lit "max-age=100"⟩, ⟨lit "Age", lit "90"⟩, ⟨lit "Age", lit "90"⟩]
    deriveFreshnessWindowsFromOrigin (fun _ => none) {} hs = some ⟨100, some 30, some 60⟩ ∧
      effectiveMaxAges hs = [100] ∧ statedAges hs = [90, 90] ∧ ¬ ∀ v ∈ effectiveMaxAges hs, ∀ a ∈ statedAges hs, 100 ≤ v - a := by
  decide +kernel

theorem freshness_within_origin_once :
    let hs : List HttpHeader := [⟨lit "Cache-Control", lit "max-age=120, s-maxage=90"⟩, ⟨lit "Age", lit "20"⟩]
    70 ≤ 300 ∧ (∀ v ∈ effectiveMaxAges hs, ∀ a ∈ statedAges hs, 70 ≤ v - a) ∧ ¬ ForbidsStoring hs :=
  (freshness_within_origin_iff (fun _ => none) {} _ ⟨70, some 30, some 60⟩ (by decide +kernel)).2 (by decide +kernel)

end WayBalancer
