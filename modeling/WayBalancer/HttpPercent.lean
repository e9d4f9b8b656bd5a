import WayBalancer.ByteText
import WayBalancer.HttpTarget
/-!
# HttpPercent — what `canonicalize_percent_encoded` does to a text

Every byte becomes one character: a text that is not ASCII grows.  On ASCII the function only raises the digits of the
escapes to upper case (`upcaseEscapes`), and what it returns it returns again.
-/
namespace WayBalancer

open Str

/-! ## Bytes and characters -/

variable {s : Text} {bs : List UInt8}

theorem CanonicalBytes.length_eq (h : CanonicalBytes bs s) : s.length = bs.length := by
  induction h with
  | nil => rfl
  | escape _ _ _ ih => simp only [List.length_cons, ih]
  | plain _ _ ih => simp only [List.length_cons, ih]

theorem hexDigit_table {b : UInt8} (h : isHexDigit b = true) :
    (b.toNat < 128 ∧ (byteChar b).toUpper.toNat < 128) ∧ isHexDigit (asciiByte (byteChar b).toUpper) = true ∧
      (byteChar (asciiByte (byteChar b).toUpper)).toUpper = (byteChar b).toUpper := by
  revert h
  apply byte_of_table _ b
  decide +kernel

/-- A test that passes no ASCII character counts the bytes as it counts the characters. -/
theorem CanonicalBytes.countP_eq {f : Char → Bool} (hf : Beyond f) (h : CanonicalBytes bs s) :
    s.countP f = bs.countP (fun b => f (byteChar b)) := by
  have hpla : ∀ {c : Char}, c.toNat < 128 → ¬ f c = true := fun hc hp => absurd (hf _ hp) (by omega)
  induction h with
  | nil => rfl
  | @escape hi lo bs t hhi hlo rest ih =>
    obtain ⟨hhi, hHi⟩ := (hexDigit_table hhi).1
    obtain ⟨hlo, hLo⟩ := (hexDigit_table hlo).1
    rw [← byteChar_toNat] at hhi hlo
    have hper : (byteChar 37).toNat < 128 := by decide
    have hby : (37 :: hi :: lo :: bs).countP (fun b => f (byteChar b)) = bs.countP (fun b => f (byteChar b)) := by
      rw [List.countP_cons_of_neg (p := fun b => f (byteChar b)) (hpla hper), List.countP_cons_of_neg (p := fun b => f (byteChar b)) (hpla hhi),
        List.countP_cons_of_neg (p := fun b => f (byteChar b)) (hpla hlo)]
    rw [hby, List.countP_cons_of_neg (hpla (by decide)), List.countP_cons_of_neg (hpla hHi), List.countP_cons_of_neg (hpla hLo), ih]
  | plain _ _ ih => rw [List.countP_cons, List.countP_cons, ih]

section

variable {x s : Text} (h : canonicalizePercentEncoded x = .ok s)
include h

theorem canonicalizePercentEncoded_length : s.length = byteLen x := (CanonicalBytes.of_ok h).length_eq

theorem countP_canonicalizePercentEncoded {f : Char → Bool} (hf : Beyond f) : s.countP f = byteCount f x :=
  (CanonicalBytes.of_ok h).countP_eq hf

theorem canonicalizePercentEncoded_small : ∀ c ∈ s, c.toNat < 256 := by
  intro c hc
  rcases mem_canonicalizeBytes h hc with hesc | ⟨b, -, rfl⟩
  · have hasc : IsAscii escapeChars := by decide
    exact (hasc c hesc).trans (by decide)
  · rw [byteChar_toNat]
    exact b.toNat_lt

theorem canonicalizePercentEncoded_nil_iff : s = [] ↔ x = [] := by
  rw [← List.length_eq_zero_iff, canonicalizePercentEncoded_length h, byteLen_eq_zero]

end

/-! ## ASCII text -/

/-- The text with the digits of its escapes in upper case. -/
def upcaseEscapes : Text → Text
  | '%' :: hi :: lo :: rest => '%' :: hi.toUpper :: lo.toUpper :: upcaseEscapes rest
  | c :: rest               => c :: upcaseEscapes rest
  | []                      => []

example : upcaseEscapes (lit "a%2fb%c3") = lit "a%2Fb%C3" := by decide

theorem upcaseEscapes_plain {c : Char} (hc : c ≠ '%') (rest : Text) : upcaseEscapes (c :: rest) = c :: upcaseEscapes rest := by
  rw [upcaseEscapes]
  rintro hi lo rest' rfl
  exact absurd rfl hc

theorem byteChar_ne_percent {b : UInt8} (hb : b ≠ 37) : byteChar b ≠ '%' := by
  intro e
  have hnat := congrArg Char.toNat e
  rw [byteChar_toNat] at hnat
  exact hb (UInt8.toNat_inj.1 hnat)

theorem CanonicalBytes.eq_upcaseEscapes (h : CanonicalBytes bs s) : s = upcaseEscapes (bs.map byteChar) := by
  induction h with
  | nil => rfl
  | escape _ _ _ ih =>
    rw [ih]
    rfl
  | plain hb _ ih => rw [ih, List.map_cons, upcaseEscapes_plain (byteChar_ne_percent hb)]

/-- **On ASCII the canonical text is the text with its escapes in upper case.** -/
theorem canonicalizePercentEncoded_ascii {x : Text} (hx : IsAscii x) (h : canonicalizePercentEncoded x = .ok s) :
    s = upcaseEscapes x := by
  rw [(CanonicalBytes.of_ok h).eq_upcaseEscapes, map_byteChar_utf8 hx]

theorem CanonicalBytes.again (h : CanonicalBytes bs s) (hs : IsAscii s) : CanonicalBytes (utf8 s) s := by
  induction h with
  | nil => exact .nil
  | escape hhi hlo _ ih =>
    obtain ⟨hp, hs⟩ := isAscii_cons.1 hs
    obtain ⟨hHi, hs⟩ := isAscii_cons.1 hs
    obtain ⟨hLo, hs⟩ := isAscii_cons.1 hs
    obtain ⟨hhi', hup⟩ := (hexDigit_table hhi).2
    obtain ⟨hlo', hup'⟩ := (hexDigit_table hlo).2
    have h := CanonicalBytes.escape hhi' hlo' (ih hs)
    rw [hup, hup'] at h
    rw [utf8_cons_of_ascii hp, utf8_cons_of_ascii hHi, utf8_cons_of_ascii hLo]
    exact h
  | @plain b _ _ hb _ ih =>
    obtain ⟨hc, hs⟩ := isAscii_cons.1 hs
    have hsa : asciiByte (byteChar b) = b := by rw [asciiByte, byteChar_toNat, UInt8.ofNat_toNat]
    rw [utf8_cons_of_ascii hc, hsa]
    exact .plain hb (ih hs)

/-- **Canonical ASCII text is canonical already.** -/
theorem canonicalizePercentEncoded_again {x : Text} (h : canonicalizePercentEncoded x = .ok s) (hs : IsAscii s) :
    canonicalizePercentEncoded s = .ok s :=
  ((CanonicalBytes.of_ok h).again hs).ok

/-! ## White space -/

theorem not_whitespace_of_letter {c : Char} (hle : 65 ≤ c.toNat) (hge : c.toNat ≤ 122) : isWhitespace c = false := by
  simp only [isWhitespace, Bool.or_eq_false_iff, Bool.and_eq_false_iff, decide_eq_false_iff_not, beq_eq_false_iff_ne]
  omega

theorem isWhitespace_toUpper (c : Char) : isWhitespace c.toUpper = isWhitespace c := by
  generalize hd : c.toUpper = d
  unfold Char.toUpper at hd
  split at hd
  · rename_i hc
    have hle : 97 ≤ c.val.toNat := hc.1
    have hge : c.val.toNat ≤ 122 := hc.2
    have hup : d.toNat = (c.val.toNat + (2 ^ 32 - 32)) % 2 ^ 32 := by rw [← hd]; exact UInt32.toNat_add c.val _
    rw [not_whitespace_of_letter (by omega) (by omega), not_whitespace_of_letter (c := c) (by change 65 ≤ c.val.toNat; omega) hge]
  · rw [hd]

theorem map_isWhitespace_upcaseEscapes (x : Text) : (upcaseEscapes x).map isWhitespace = x.map isWhitespace := by
  fun_induction upcaseEscapes x with
  | case1 hi lo rest ih => simp only [List.map_cons, isWhitespace_toUpper, ih]
  | case2 c rest _ ih => rw [List.map_cons, List.map_cons, ih]
  | case3 => rfl

theorem endsPlain_upcaseEscapes {x : Text} : EndsPlain (upcaseEscapes x) ↔ EndsPlain x := by
  have hmap : ∀ s : Text, EndsPlain s ↔ (s.map isWhitespace).getLast? ≠ some true := by
    intro s
    cases hl : s.getLast? with
    | none => simp [EndsPlain, hl]
    | some c => simp [EndsPlain, hl]
  rw [hmap, hmap, map_isWhitespace_upcaseEscapes]

end WayBalancer
