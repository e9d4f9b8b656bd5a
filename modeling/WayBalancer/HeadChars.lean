import WayBalancer.CacheKeySpec
import WayBalancer.HttpHead
/-!
# HeadChars — the characters of a head that was read

What the tokenizer lets through stays so on the way to a head: names are tokens in lower case, a target holds no blank and no
control character, a value no control character but the tab (`requestHeadOf_wellFormed`).  So no part of a head that was read
holds a delimiter of a cache key (`Http1RequestHead.WellFormed.plain`).
-/
namespace WayBalancer

open Str
open Crlf (Bytes)

/-- A character of a header value: no control character but the tab. -/
def isHeaderValueChar (c : Char) : Bool := c == '\t' || (decide (32 ≤ c.toNat) && c.toNat != 127)

structure Http1RequestHead.WellFormed (head : Http1RequestHead) : Prop where
  method : head.method.all isHttpTokenChar = true
  target : head.target.all isUriChar = true
  names : ∀ h ∈ head.headers, h.name.all isHttpTokenChar = true
  values : ∀ h ∈ head.headers, h.value.all isHeaderValueChar = true

instance (head : Http1RequestHead) : Decidable head.WellFormed :=
  decidable_of_iff (head.method.all isHttpTokenChar = true ∧ head.target.all isUriChar = true ∧
    (∀ h ∈ head.headers, h.name.all isHttpTokenChar = true) ∧ ∀ h ∈ head.headers, h.value.all isHeaderValueChar = true)
    ⟨fun h => ⟨h.1, h.2.1, h.2.2.1, h.2.2.2⟩, fun h => ⟨h.method, h.target, h.names, h.values⟩⟩

/-! ## Characters -/

variable {text : Text}

theorem utf8_of_fromUtf8 {bytes : Bytes} (h : fromUtf8 bytes = some text) : utf8 text = bytes := by
  obtain ⟨chars, hcha, rfl⟩ := Option.map_eq_some_iff.1 h
  have hs : bytes.toByteArray.utf8Decode?.isSome = true := by rw [hcha]; rfl
  have e := ByteArray.utf8Encode_get_utf8Decode? (h := hs)
  simp only [hcha, Option.get_some] at e
  have elist := congrArg (fun b : ByteArray => b.data.toList) e
  simpa [List.utf8Encode, utf8] using elist

variable {c : Char}

/-- The table of the ASCII characters: their cases, their kinds, and the byte each is written as. -/
theorem ascii_facts (h : c.toNat < 128) :
    c.toLower.toLower = c.toLower ∧ isHttpTokenChar c.toLower = isHttpTokenChar c ∧ (isHttpTokenChar c = true → 32 ≤ c.toNat) ∧
      UInt8.ofNat c.toNat ∈ String.utf8EncodeChar c ∧
      (isHeaderValueByte (UInt8.ofNat c.toNat) = true → isHeaderValueChar c = true) := by
  apply char_of_lt _ h
  decide +kernel

theorem toLower_of_not_ascii (h : 128 ≤ c.toNat) : c.toLower = c := by
  unfold Char.toLower
  rw [dif_neg]
  rintro ⟨-, hle⟩
  have hle' : c.toNat ≤ 90 := hle
  omega

theorem toLower_toLower (c : Char) : c.toLower.toLower = c.toLower := by
  by_cases hlt : c.toNat < 128
  · exact (ascii_facts hlt).1
  · have hs := toLower_of_not_ascii (Nat.le_of_not_lt hlt)
    rw [hs, hs]

theorem lower_lower (s : Text) : lower (lower s) = lower s := by
  unfold lower
  rw [List.map_map]
  exact List.map_congr_left fun c _ => toLower_toLower c

theorem isHttpTokenChar_toLower (c : Char) : isHttpTokenChar c.toLower = isHttpTokenChar c := by
  by_cases hlt : c.toNat < 128
  · exact (ascii_facts hlt).2.1
  · rw [toLower_of_not_ascii (by omega)]

theorem all_token_lower (name : Text) : (lower name).all isHttpTokenChar = name.all isHttpTokenChar := by
  unfold lower
  rw [List.all_map]
  congr 1
  funext c
  exact isHttpTokenChar_toLower c

theorem isHttpTokenChar_lt (h : isHttpTokenChar c = true) : c.toNat < 128 := by
  have htab : ∀ d ∈ lit "!#$%&'*+-.^_`|~", d.toNat < 128 := by simp [lit]
  rcases (Bool.or_eq_true ..).mp h with h | h
  · exact htab c (by simpa using h)
  · simp only [Char.isAlphanum, Char.isAlpha, Char.isUpper, Char.isLower, Char.isDigit, Bool.or_eq_true, Bool.and_eq_true,
      decide_eq_true_eq, ge_iff_le, UInt32.le_iff_toNat_le] at h
    rcases h with (⟨-, h⟩ | ⟨-, h⟩) | ⟨-, h⟩
    · exact lt_of_le_of_lt h (by decide)
    · exact lt_of_le_of_lt h (by decide)
    · exact lt_of_le_of_lt h (by decide)

theorem printable_of_tokenChar (h : isHttpTokenChar c = true) : 32 ≤ c.toNat :=
  (ascii_facts (isHttpTokenChar_lt h)).2.2.1 h

theorem byte_mem_utf8 (hc : c ∈ text) (hlt : c.toNat < 128) : UInt8.ofNat c.toNat ∈ utf8 text := by
  exact List.mem_flatMap.2 ⟨c, hc, (ascii_facts hlt).2.2.2.1⟩

theorem isHeaderValueChar_of_byte (h : (utf8 text).all isHeaderValueByte = true) : text.all isHeaderValueChar = true := by
  rw [List.all_eq_true] at h ⊢
  intro c hc
  by_cases hlt : c.toNat < 128
  · exact (ascii_facts hlt).2.2.2.2 (h _ (byte_mem_utf8 hc hlt))
  · simp only [isHeaderValueChar, Bool.or_eq_true, Bool.and_eq_true, decide_eq_true_eq, bne_iff_ne]
    exact .inr ⟨by omega, by omega⟩

/-! ## Heads that were read -/

def HttpHeader.Clean (h : HttpHeader) : Prop := h.name.all isHttpTokenChar = true ∧ h.value.all isHeaderValueChar = true

theorem ownedHeader_ok {header : ParsedHeader} {h : HttpHeader} (hok : ownedHeader header = .ok h) : h.Clean := by
  unfold ownedHeader at hok
  cases hval : fromUtf8 header.value with
  | none => rw [hval] at hok; cases hok
  | some value =>
    rw [hval] at hok
    cases hok
    refine ⟨(all_token_lower _).trans header.name_token, ?_⟩
    have hpla : value.all isHeaderValueChar = true :=
      isHeaderValueChar_of_byte (by rw [utf8_of_fromUtf8 hval]; exact header.value_plain)
    rw [List.all_eq_true] at hpla ⊢
    exact fun c hc => hpla c (mem_of_mem_trim hc)

theorem absoluteFormAuthority_subset {target authority : Text} (h : absoluteFormAuthority target = .ok (some authority)) :
    authority ⊆ target := by
  unfold absoluteFormAuthority at h
  split at h
  · cases h
  · split at h
    · cases h
    · rename_i scheme remainder hspl
      dsimp only at h
      split_ifs at h
      cases h
      rw [splitOnceStr_some hspl]
      intro c hc
      exact List.mem_append_right _ (List.takeWhile_subset _ hc)

theorem replaceHost_clean {headers : List HttpHeader} {authority : Option Text} (hhs : ∀ h ∈ headers, h.Clean)
    (ha : ∀ a ∈ authority, a.all isHeaderValueChar = true) : ∀ h ∈ replaceHost headers authority, h.Clean := by
  cases authority with
  | none => exact hhs
  | some a =>
    intro h hh
    obtain ⟨g, hg, rfl⟩ := List.mem_map.1 hh
    split_ifs
    · exact ⟨(hhs g hg).1, ha a rfl⟩
    · exact hhs g hg

theorem elim_ok {α ε : Type} {o : Option α} {e : ε} {a : α} : o.elim (.error e) .ok = Except.ok a ↔ o = some a := by
  cases o <;> simp

variable {parsed : ParsedRequest} {head : Http1RequestHead} {routes : List RoutePrefixRule}

theorem requestHeadOf_ok (h : requestHeadOf routes parsed = .ok head) :
    ∃ received authority, parsed.method = some head.method ∧ parsed.path = some head.target ∧
      ownedHeaders parsed.headers = .ok received ∧ absoluteFormAuthority head.target = .ok authority ∧
      head.headers = replaceHost received authority := by
  obtain ⟨method, hm, h⟩ := Proc.except_bind_ok.1 h
  obtain ⟨target, ht, h⟩ := Proc.except_bind_ok.1 h
  -- the two ways to a version go on alike
  dsimp only at h
  split at h
  all_goals
    obtain ⟨v, -, h⟩ := Proc.except_bind_ok.1 h
    obtain ⟨received, hrec, h⟩ := Proc.except_bind_ok.1 h
    obtain ⟨_, -, h⟩ := Proc.except_bind_ok.1 h
    obtain ⟨authority, ha, h⟩ := Proc.except_bind_ok.1 h
    obtain ⟨bodyKind, -, h⟩ := Proc.except_bind_ok.1 h
    cases h
    exact ⟨received, authority, elim_ok.1 hm, elim_ok.1 ht, hrec, ha, rfl⟩

theorem Http1RequestHead.WellFormed.plain {head : Http1RequestHead} (h : head.WellFormed) :
    (HttpCacheRequest.mk head.method head.target head.headers).Plain := by
  intro d hd
  have hlt := delimiter_control hd
  have htab : d ≠ '\t' := by rintro rfl; exact absurd hd (by decide)
  refine ⟨fun hm => ?_, fun hm => ?_, fun line hl hm => ?_⟩
  · have htok := printable_of_tokenChar (List.all_eq_true.1 h.method d hm)
    omega
  · have huri := List.all_eq_true.1 h.target d hm
    simp only [isUriChar, Bool.and_eq_true, decide_eq_true_eq] at huri
    omega
  · have hval := List.all_eq_true.1 (h.values line hl) d hm
    simp only [isHeaderValueChar, Bool.or_eq_true, beq_iff_eq, Bool.and_eq_true, decide_eq_true_eq] at hval
    rcases hval with hval | hval
    · exact htab hval
    · omega

end WayBalancer
