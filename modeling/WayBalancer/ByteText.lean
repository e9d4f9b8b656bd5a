import WayBalancer.TextTrim
/-!
# ByteText — the bytes of a text read as characters

Reading every UTF-8 byte as the character of its number leaves ASCII as it is and makes two or more characters out of any
other one.  So a text that comes out of its own bytes again is ASCII, even if its white space at the end was trimmed off
before (`isAscii_of_byteCount`): what the trimmed characters could be, no two bytes in a row can make up for.
-/
namespace Str

variable {c : Char} {s : Text}

def IsAscii (s : Text) : Prop := ∀ c ∈ s, c.toNat < 128

instance (s : Text) : Decidable (IsAscii s) := List.decidableBAll (fun c : Char => c.toNat < 128) s

theorem isAscii_append {a b : Text} : IsAscii (a ++ b) ↔ IsAscii a ∧ IsAscii b := List.forall_mem_append

theorem isAscii_cons : IsAscii (c :: s) ↔ c.toNat < 128 ∧ IsAscii s := List.forall_mem_cons

/-- A test no ASCII character passes. -/
def Beyond (f : Char → Bool) : Prop := ∀ c, f c = true → 128 ≤ c.toNat

/-- How many bytes of a text pass a test as characters. -/
def byteCount (f : Char → Bool) (s : Text) : ℕ := (utf8 s).countP (fun b => f (byteChar b))

theorem byteCount_append (f : Char → Bool) (a b : Text) : byteCount f (a ++ b) = byteCount f a + byteCount f b := by
  rw [byteCount, utf8_append, List.countP_append]
  rfl

theorem byteCount_cons (f : Char → Bool) (c : Char) (s : Text) : byteCount f (c :: s) = byteCount f [c] + byteCount f s :=
  byteCount_append f [c] s

theorem byteLen_append (a b : Text) : byteLen (a ++ b) = byteLen a + byteLen b := by
  rw [byteLen, utf8_append, List.length_append]
  rfl

/-! ## Characters of one byte and of two -/

def asciiByte (c : Char) : UInt8 := UInt8.ofNat c.toNat

theorem utf8_of_ascii (h : c.toNat < 128) : utf8 [c] = [asciiByte c] := by
  have hle : c.toNat ≤ 127 := Nat.le_of_lt_succ h
  simp [utf8, String.utf8EncodeChar, asciiByte, hle]

theorem utf8_cons_of_ascii (h : c.toNat < 128) (s : Text) : utf8 (c :: s) = asciiByte c :: utf8 s := by
  rw [← List.singleton_append, utf8_append, utf8_of_ascii h]
  rfl

theorem byteChar_asciiByte (h : c.toNat < 128) : byteChar (asciiByte c) = c := by
  rw [byteChar, asciiByte, UInt8.toNat_ofNat', Nat.mod_eq_of_lt (by omega), Char.ofNat_toNat]

theorem byteCount_of_ascii {f : Char → Bool} (hf : Beyond f) (h : c.toNat < 128) : byteCount f [c] = 0 := by
  rw [byteCount, utf8_of_ascii h, List.countP_eq_zero]
  intro b hb hp
  rw [List.mem_singleton.1 hb, byteChar_asciiByte h] at hp
  exact absurd (hf c hp) (by omega)

theorem map_byteChar_utf8 : ∀ {s : Text}, IsAscii s → (utf8 s).map byteChar = s
  | [], _ => rfl
  | c :: s, h => by
    obtain ⟨hc, hs⟩ := isAscii_cons.1 h
    rw [utf8_cons_of_ascii hc, List.map_cons, byteChar_asciiByte hc, map_byteChar_utf8 hs]

theorem byteLen_of_isAscii : ∀ {s : Text}, IsAscii s → byteLen s = s.length
  | [], _ => rfl
  | c :: s, h => by
    obtain ⟨hc, hs⟩ := isAscii_cons.1 h
    rw [byteLen, utf8_cons_of_ascii hc, List.length_cons, List.length_cons, ← byteLen_of_isAscii hs]
    rfl

theorem byteLen_eq_zero : byteLen s = 0 ↔ s = [] := by
  rw [byteLen, List.length_eq_zero_iff]
  constructor
  · intro h
    exact utf8_injective h
  · rintro rfl
    rfl

/-! ## Texts that come out of their own bytes -/

def isBeyond (c : Char) : Bool := decide (128 ≤ c.toNat)

/-- The characters of the first bytes of two-byte characters below 256. -/
def isLead (c : Char) : Bool := c.toNat == 0xC2 || c.toNat == 0xC3

/-- The white space below 256 that is not ASCII. -/
def isHighBlank (c : Char) : Bool := c.toNat == 0x85 || c.toNat == 0xA0

theorem beyond_isBeyond : Beyond isBeyond := fun _ h => by simpa [isBeyond] using h

theorem countP_isBeyond_eq_zero : s.countP isBeyond = 0 ↔ IsAscii s := by
  simp [List.countP_eq_zero, isBeyond, IsAscii]

theorem byteCount_isBeyond_eq_zero : byteCount isBeyond s = 0 ↔ IsAscii s := by
  constructor
  · intro h c hc
    have hby : ∀ b ∈ utf8 [c], b.toNat < 128 := by
      intro b hb
      have hmem : b ∈ utf8 s := List.mem_flatMap.2 ⟨c, hc, by simpa [utf8] using hb⟩
      have hno := List.countP_eq_zero.1 h b hmem
      rw [← byteChar_toNat]
      simpa [isBeyond] using hno
    obtain ⟨b, hb⟩ : ∃ b, b ∈ utf8 [c] := by
      apply List.exists_mem_of_ne_nil
      intro hnil
      have hsa : utf8 [c] = utf8 [] := hnil
      cases utf8_injective hsa
    have e := List.mem_singleton.1 (byteChar_mem_of_mem_utf8 (hby b hb) hb)
    rw [← e, byteChar_toNat]
    exact hby b hb
  · intro h
    induction s with
    | nil => rfl
    | cons c s ih =>
      obtain ⟨hc, hs⟩ := isAscii_cons.1 h
      rw [byteCount_cons, byteCount_of_ascii beyond_isBeyond hc, ih hs]

theorem beyond_isLead : Beyond isLead := fun c h => by
  simp only [isLead, Bool.or_eq_true, beq_iff_eq] at h
  omega

theorem beyond_isHighBlank : Beyond isHighBlank := fun c h => by
  simp only [isHighBlank, Bool.or_eq_true, beq_iff_eq] at h
  omega

/-- The two bytes of a character below 256: a lead, and a second one that is white space for no lead. -/
theorem byteCount_singleton (h : c.toNat < 256) :
    byteCount isBeyond [c] = 2 * [c].countP isBeyond ∧ byteCount isLead [c] = [c].countP isBeyond ∧
      byteCount isHighBlank [c] + [c].countP isLead ≤ [c].countP isBeyond := by
  apply char_of_lt _ h
  decide +kernel

theorem byteCount_small : ∀ {s : Text}, (∀ c ∈ s, c.toNat < 256) →
    byteCount isBeyond s = 2 * s.countP isBeyond ∧ byteCount isLead s = s.countP isBeyond ∧
      byteCount isHighBlank s + s.countP isLead ≤ s.countP isBeyond
  | [], _ => ⟨rfl, rfl, Nat.le_refl _⟩
  | c :: s, h => by
    obtain ⟨h1, h2, h3⟩ := byteCount_singleton (h c List.mem_cons_self)
    obtain ⟨ih1, ih2, ih3⟩ := byteCount_small (fun d hd => h d (List.mem_cons_of_mem _ hd))
    have hcnt : ∀ f : Char → Bool, (c :: s).countP f = [c].countP f + s.countP f := by
      intro f
      rw [← List.countP_append]
      rfl
    have hbey := hcnt isBeyond
    have hl := hcnt isLead
    refine ⟨?_, ?_, ?_⟩ <;> rw [byteCount_cons] <;> omega

theorem countP_isLead_blank (h : ∀ c ∈ s, isWhitespace c = true) : s.countP isLead = 0 := by
  rw [List.countP_eq_zero]
  intro c hc hl
  have hbla := h c hc
  simp only [isLead, Bool.or_eq_true, beq_iff_eq] at hl
  rcases hl with e | e <;> simp [isWhitespace, e] at hbla

theorem countP_isBeyond_blank (hsma : ∀ c ∈ s, c.toNat < 256) (h : ∀ c ∈ s, isWhitespace c = true) :
    s.countP isBeyond ≤ s.countP isHighBlank := by
  apply List.countP_mono_left
  intro c hc hbey
  have hlt := hsma c hc
  have hbla := h c hc
  simp only [isWhitespace, Bool.or_eq_true, Bool.and_eq_true, decide_eq_true_eq, beq_iff_eq] at hbla
  simp only [isBeyond, decide_eq_true_eq] at hbey
  simp only [isHighBlank, Bool.or_eq_true, beq_iff_eq]
  omega

/-- **A text of characters below 256 that comes out of the bytes of its trimmed self is ASCII.** -/
theorem isAscii_of_byteCount (hsma : ∀ c ∈ s, c.toNat < 256) (h : ∀ f, Beyond f → s.countP f = byteCount f (trimEnd s)) :
    IsAscii s := by
  obtain ⟨blank, e, hbla⟩ := exists_trimmed s
  have hk : ∀ c ∈ trimEnd s, c.toNat < 256 := fun c hc => hsma c (by rw [e]; exact List.mem_append_left _ hc)
  have htri : ∀ c ∈ blank, c.toNat < 256 := fun c hc => hsma c (by rw [e]; exact List.mem_append_right _ hc)
  have hcnt : ∀ f : Char → Bool, s.countP f = (trimEnd s).countP f + blank.countP f := by
    intro f
    rw [← List.countP_append, ← e]
  obtain ⟨h1, h2, h3⟩ := byteCount_small hk
  have hbey := h isBeyond beyond_isBeyond
  have hl := h isLead beyond_isLead
  have hh := h isHighBlank beyond_isHighBlank
  have hnol := countP_isLead_blank hbla
  have hle := countP_isBeyond_blank htri hbla
  rw [hcnt] at hbey hl hh
  -- the leads are all there is beyond ASCII, so no byte is white space, and none was trimmed
  have hz : s.countP isBeyond = 0 := by
    rw [hcnt]
    omega
  exact countP_isBeyond_eq_zero.1 hz

end Str
