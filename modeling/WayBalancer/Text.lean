import WayBalancer.Word
/-!
# Text — strings as the code handles them

A string is its list of scalar values.  What the code calls on a `str` is here under the library's own meaning: trimming
takes the Unicode white space off both ends, the ASCII case maps touch ASCII letters only, a split at a character always
yields at least one piece, and a number is parsed from ASCII digits after at most one `+`.  Splitting and joining are
`List.splitOn` and `List.intercalate`; a byte of a string is a byte of its UTF-8 encoding.
-/
namespace Str

open Word

/-- A string: its scalar values in order. -/
abbrev Text := List Char

instance : LawfulBEq Text := inferInstance

def lit (s : String) : Text := s.toList

/-! ## White space and case -/

variable (c : Char)

/-- The characters of Unicode's `White_Space` property. -/
def isWhitespace : Bool :=
  let n := c.toNat
  (decide (9 ≤ n) && decide (n ≤ 13)) || n == 0x20 || n == 0x85 || n == 0xA0 || n == 0x1680 ||
    (decide (0x2000 ≤ n) && decide (n ≤ 0x200A)) || n == 0x2028 || n == 0x2029 || n == 0x202F || n == 0x205F ||
    n == 0x3000

/-- The ASCII white space of `char::is_ascii_whitespace`: space, tab, line feed, form feed, carriage return. -/
def isAsciiWhitespace : Bool :=
  c == ' ' || c == '\t' || c == '\n' || c == '\x0c' || c == '\r'

variable (s : Text)

def trimStart : Text := s.dropWhile isWhitespace

def trimEnd : Text := s.rdropWhile isWhitespace

def trim : Text := trimEnd (trimStart s)

def lower : Text := s.map Char.toLower

def upper : Text := s.map Char.toUpper

variable (a b : Text)

def eqIgnoreCase : Bool := lower a == lower b

theorem eqIgnoreCase_iff : eqIgnoreCase a b = true ↔ lower a = lower b := by
  simp [eqIgnoreCase]

theorem toLower_of_control {c d : Char} (hd : d.toNat < 32) (h : c.toLower = d) : c = d := by
  unfold Char.toLower at h
  split at h
  · rename_i hc
    have h2 : c.val.toNat ≤ 90 := hc.2
    have h3 : d.toNat = (c.val.toNat + 32) % 2 ^ 32 := by rw [← h]; exact UInt32.toNat_add c.val 32
    omega
  · exact h

theorem toUpper_of_control {c d : Char} (hd : d.toNat < 32) (h : c.toUpper = d) : c = d := by
  unfold Char.toUpper at h
  split at h
  · rename_i hc
    have h1 : 97 ≤ c.val.toNat := hc.1
    have h2 : c.val.toNat ≤ 122 := hc.2
    have h3 : d.toNat = (c.val.toNat + (2 ^ 32 - 32)) % 2 ^ 32 := by rw [← h]; exact UInt32.toNat_add c.val _
    omega
  · exact h

theorem trim_sublist : (trim s).Sublist s :=
  ((List.rdropWhile_prefix _ _).sublist).trans (List.dropWhile_sublist _)

theorem mem_of_mem_trim {s : Text} {c : Char} (h : c ∈ trim s) : c ∈ s := (trim_sublist s).subset h

/-! ## Splitting -/

/-- The text before and after the first `sep`. -/
def splitOnce (sep : Char) (s : Text) : Option (Text × Text) :=
  match s.dropWhile (· ≠ sep) with
  | []        => none
  | _ :: rest => some (s.takeWhile (· ≠ sep), rest)

section

variable {sep : Char} {s a b : Text}

theorem splitOnce_some (h : splitOnce sep s = some (a, b)) : s = a ++ sep :: b ∧ sep ∉ a := by
  unfold splitOnce at h
  split at h
  · cases h
  · rename_i c rest hd
    cases h
    have hc : c = sep := by
      have := List.head_dropWhile_not (fun x => decide (x ≠ sep)) (l := s) (by rw [hd]; simp)
      simp only [hd, List.head_cons] at this
      simpa using this
    subst hc
    refine ⟨?_, fun hm => ?_⟩
    · rw [← hd]
      exact List.takeWhile_append_dropWhile.symm
    · simpa using List.mem_takeWhile_imp hm

theorem not_mem_of_splitOnce_none (h : splitOnce sep s = none) : sep ∉ s := by
  unfold splitOnce at h
  split at h
  · rename_i hd
    intro hm
    simpa using List.dropWhile_eq_nil_iff.1 hd sep hm
  · cases h

theorem splitOnce_append (h : sep ∉ a) (b : Text) : splitOnce sep (a ++ sep :: b) = some (a, b) := by
  have hp : ∀ c ∈ a, decide (c ≠ sep) = true := by
    intro c hc
    exact decide_eq_true (fun e => h (e ▸ hc))
  unfold splitOnce
  rw [List.dropWhile_append_of_pos hp, List.takeWhile_append_of_pos hp]
  simp

theorem splitOnce_of_notMem (h : sep ∉ s) : splitOnce sep s = none := by
  cases hs : splitOnce sep s with
  | none => rfl
  | some p =>
    obtain ⟨e, -⟩ := splitOnce_some hs
    exact absurd (by rw [e]; simp) h

theorem splitOnce_cases (sep : Char) (s : Text) : sep ∉ s ∨ ∃ a b, sep ∉ a ∧ s = a ++ sep :: b := by
  cases hs : splitOnce sep s with
  | none => exact .inl (not_mem_of_splitOnce_none hs)
  | some p =>
    obtain ⟨e, ha⟩ := splitOnce_some hs
    exact .inr ⟨p.1, p.2, ha, e⟩

theorem mem_splitOn : ∀ {s piece : Text}, piece ∈ s.splitOn sep → sep ∉ piece ∧ piece ⊆ s
  | [], piece, h => by
    rw [List.splitOn_nil, List.mem_singleton] at h
    subst h
    exact ⟨List.not_mem_nil, fun _ hc => hc⟩
  | c :: s, piece, h => by
    rw [List.splitOn_cons_eq_if_modifyHead] at h
    have ih : ∀ {q}, q ∈ s.splitOn sep → sep ∉ q ∧ q ⊆ c :: s := fun hq =>
      ⟨(mem_splitOn hq).1, fun _ hd => List.mem_cons_of_mem _ ((mem_splitOn hq).2 hd)⟩
    split at h
    · rcases List.mem_cons.1 h with rfl | h
      · exact ⟨List.not_mem_nil, fun _ hc => nomatch hc⟩
      · exact ih h
    · rename_i hne
      cases hs : s.splitOn sep with
      | nil => exact absurd hs (List.splitOn_ne_nil _ _)
      | cons q qs =>
        rw [hs] at h ih
        rcases List.mem_cons.1 h with rfl | h
        · obtain ⟨hq, hsub⟩ := ih (q := q) (by simp)
          exact ⟨fun hm => by rcases List.mem_cons.1 hm with rfl | hm; exacts [hne (by simp), hq hm],
            List.cons_subset.2 ⟨by simp, hsub⟩⟩
        · exact ih (List.mem_cons_of_mem _ h)

end

/-- The text before and after the first occurrence of `sep`. -/
def splitOnceStr (sep : Text) : Text → Option (Text × Text)
  | []        => if sep.isEmpty then some ([], []) else none
  | c :: rest =>
    if sep.isPrefixOf (c :: rest) then some ([], (c :: rest).drop sep.length)
    else (splitOnceStr sep rest).map (fun p => (c :: p.1, p.2))

theorem splitOnceStr_some {sep : Text} : ∀ {s a b : Text}, splitOnceStr sep s = some (a, b) → s = a ++ sep ++ b
  | [], a, b, h => by
    unfold splitOnceStr at h
    split at h
    · cases h
      simp_all
    · cases h
  | c :: s, a, b, h => by
    unfold splitOnceStr at h
    split at h
    · rename_i hp
      cases h
      obtain ⟨t, ht⟩ := List.isPrefixOf_iff_prefix.1 hp
      simp [← ht]
    · obtain ⟨⟨a', b'⟩, hs, e⟩ := Option.map_eq_some_iff.1 h
      cases e
      rw [splitOnceStr_some hs]
      simp

/-- The text before the first character that passes, and the text from it on. -/
def splitAtFirst (p : Char → Bool) (s : Text) : Text × Text := (s.takeWhile (fun c => !p c), s.dropWhile (fun c => !p c))

theorem splitAtFirst_tail {p : Char → Bool} {s : Text} {c : Char} {rest : Text} (h : (splitAtFirst p s).2 = c :: rest) :
    p c = true := by
  have hd : s.dropWhile (fun c => !p c) = c :: rest := h
  have hh := List.head_dropWhile_not (fun c => !p c) (l := s) (by rw [hd]; simp)
  simp only [hd, List.head_cons] at hh
  simpa using hh

def stripPrefix (p s : Text) : Option Text := if p.isPrefixOf s then some (s.drop p.length) else none

/-- A line without the carriage return it may end in. -/
def chomp (p : Text) : Text := if p.getLast? = some '\r' then p.dropLast else p

/-- The pieces of a text that end at a line feed, and the last one where it is not empty; a carriage return before the
line feed goes with it. -/
def lines : List Text :=
  let pieces := s.splitOn '\n'
  let whole := pieces.dropLast.map chomp
  match pieces.getLast? with
  | some (c :: rest) => whole ++ [c :: rest]
  | _                => whole

theorem lines_of_no_newline {s : Text} (hs : '\n' ∉ s) (hne : s ≠ []) : lines s = [s] := by
  obtain ⟨c, rest, rfl⟩ := List.exists_cons_of_ne_nil hne
  rw [lines, List.splitOn_eq_singleton hs]
  rfl

theorem lines_append_newline {s t : Text} (hs : '\n' ∉ s) : lines (s ++ '\n' :: t) = chomp s :: lines t := by
  unfold lines
  rw [List.splitOn_append_cons_self_of_not_mem hs]
  cases ht : t.splitOn '\n' with
  | nil => exact absurd ht (List.splitOn_ne_nil _ _)
  | cons p ps =>
    simp only [List.dropLast_cons_cons, List.map_cons, List.getLast?_cons_cons]
    split <;> rfl

/-! ## Numbers -/

def digitValue : Nat := c.toNat - 48

def decimalValue : Nat := s.foldl (fun n c => n * 10 + digitValue c) 0

/-- A decimal numeral: at most one leading `+`, then one or more digits. -/
def parseDecimal : Option Nat :=
  let digits := match s with
    | '+' :: rest => rest
    | _           => s
  if digits.isEmpty || !digits.all Char.isDigit then none else some (decimalValue digits)

/-- `str::parse::<u64>`: a numeral that does not overflow. -/
def parseU64 : Option Nat := (parseDecimal s).filter (fun n => decide (n ≤ u64Max))

theorem parseDecimal_toDigits (n : ℕ) : parseDecimal (Nat.toDigits 10 n) = some n := by
  have hdig : ∀ c ∈ Nat.toDigits 10 n, c.isDigit = true := fun c hc => Nat.isDigit_of_mem_toDigits (by omega) le_rfl hc
  have hval : decimalValue (Nat.toDigits 10 n) = n := by
    have hof : Nat.ofDigitChars 10 (Nat.toDigits 10 n) 0 = n := Nat.ofDigitChars_toDigits (by omega) le_rfl
    simp only [Nat.ofDigitChars, Nat.mul_comm] at hof
    exact hof
  unfold parseDecimal
  cases hd : Nat.toDigits 10 n with
  | nil => exact absurd hd Nat.toDigits_ne_nil
  | cons c rest =>
    rw [hd] at hdig hval
    -- the first digit is not a sign
    have hs : c ≠ '+' := by
      rintro rfl
      exact absurd (hdig '+' List.mem_cons_self) (by decide)
    split
    · rename_i hp
      exact absurd (List.cons.inj hp).1 hs
    · rw [if_neg (by simpa using hdig), hval]

theorem parseU64_toDigits {n : ℕ} (h : n ≤ u64Max) : parseU64 (Nat.toDigits 10 n) = some n := by
  rw [parseU64, parseDecimal_toDigits]
  exact Option.filter_some_pos (by simpa using h)

/-- `format!("{n:016x}")` at a width: the last lower-case hexadecimal digits, zeros in front. -/
def hexPadded : ℕ → ℕ → Text
  | 0, _     => []
  | k + 1, n => hexPadded k (n / 16) ++ [Nat.digitChar (n % 16)]

theorem digitChar_inj {a b : ℕ} (ha : a < 16) (hb : b < 16) (h : Nat.digitChar a = Nat.digitChar b) : a = b := by
  have table : ∀ a < 16, ∀ b < 16, Nat.digitChar a = Nat.digitChar b → a = b := by decide
  exact table a ha b hb h

theorem hexPadded_inj : ∀ {k a b : ℕ}, a < 16 ^ k → b < 16 ^ k → hexPadded k a = hexPadded k b → a = b
  | 0, a, b, ha, hb, _ => by simp only [Nat.pow_zero] at ha hb; omega
  | k + 1, a, b, ha, hb, h => by
    obtain ⟨hq, hr⟩ := List.append_inj' h rfl
    have eq : a / 16 = b / 16 := hexPadded_inj (by omega) (by omega) hq
    have er : a % 16 = b % 16 := digitChar_inj (Nat.mod_lt _ (by omega)) (Nat.mod_lt _ (by omega)) (List.cons.inj hr).1
    omega

theorem length_hexPadded : ∀ k n : ℕ, (hexPadded k n).length = k
  | 0, _     => rfl
  | k + 1, n => by simp [hexPadded, length_hexPadded k]

theorem mem_hexPadded : ∀ {k n : ℕ} {c : Char}, c ∈ hexPadded k n → c ∈ lit "0123456789abcdef"
  | k + 1, n, c, h => by
    have table : ∀ d < 16, Nat.digitChar d ∈ lit "0123456789abcdef" := by decide
    rcases List.mem_append.1 h with h | h
    · exact mem_hexPadded h
    · rw [List.mem_singleton.1 h]
      exact table _ (Nat.mod_lt _ (by omega))

/-! ## Bytes -/

def utf8 : List UInt8 := s.flatMap String.utf8EncodeChar

/-- `str::len`: the number of UTF-8 bytes. -/
def byteLen : Nat := (utf8 s).length

def fromUtf8 (bytes : List UInt8) : Option Text := bytes.toByteArray.utf8Decode?.map Array.toList

theorem fromUtf8_utf8 : fromUtf8 (utf8 s) = some s := by
  have e : (utf8 s).toByteArray.utf8Decode? = some s.toArray := List.utf8Decode?_utf8Encode
  rw [fromUtf8, e]
  simp

theorem utf8_append : utf8 (a ++ b) = utf8 a ++ utf8 b := List.flatMap_append

theorem utf8_injective : Function.Injective utf8 := fun a b h => by
  have e : some a = some b := by rw [← fromUtf8_utf8 a, h, fromUtf8_utf8]
  exact Option.some.inj e

def isHexDigit (b : UInt8) : Bool :=
  (decide (48 ≤ b) && decide (b ≤ 57)) || (decide (65 ≤ b) && decide (b ≤ 70)) || (decide (97 ≤ b) && decide (b ≤ 102))

/-- `u8 as char`: the scalar value of the same number. -/
def byteChar (b : UInt8) : Char := Char.ofNat b.toNat

theorem byteChar_toNat (b : UInt8) : (byteChar b).toNat = b.toNat := by
  have hlt := b.toNat_lt
  have hv : b.toNat.isValidChar := .inl (by omega)
  unfold byteChar Char.ofNat
  rw [dif_pos hv]
  rfl

/-- What a table of the 256 bytes says holds of every byte. -/
theorem byte_of_table {P : UInt8 → Prop} (table : ∀ n < 256, P (UInt8.ofNat n)) (b : UInt8) : P b := by
  have hb := table b.toNat b.toNat_lt
  rw [UInt8.ofNat_toNat] at hb
  exact hb

/-- What a table of the characters below `n` says holds of each of them. -/
theorem char_of_lt {P : Char → Prop} {c : Char} {n : ℕ} (h : ∀ k < n, P (Char.ofNat k)) (hc : c.toNat < n) : P c := by
  have hk := h c.toNat hc
  rwa [Char.ofNat_toNat] at hk

theorem hexDigit_upper {b : UInt8} (h : isHexDigit b = true) : (byteChar b).toUpper ∈ lit "0123456789ABCDEF" := by
  revert h
  apply byte_of_table _ b
  decide +kernel

theorem byteChar_mem_of_mem_utf8 {s : Text} {b : UInt8} (hb : b.toNat < 128) (h : b ∈ utf8 s) : byteChar b ∈ s := by
  obtain ⟨c, hc, hbc⟩ := List.mem_flatMap.1 h
  have e : b.toNat = c.val.toNat := by
    unfold String.utf8EncodeChar at hbc
    dsimp only at hbc
    -- every byte of a longer encoding is 128 or more
    split_ifs at hbc <;> simp only [List.mem_cons, List.not_mem_nil, or_false] at hbc
    · rw [hbc, UInt8.toNat_ofNat']
      omega
    · rcases hbc with rfl | rfl <;> rw [UInt8.toNat_ofNat'] at hb <;> omega
    · rcases hbc with rfl | rfl | rfl <;> rw [UInt8.toNat_ofNat'] at hb <;> omega
    · rcases hbc with rfl | rfl | rfl | rfl <;> rw [UInt8.toNat_ofNat'] at hb <;> omega
  have hc' : byteChar b = c := by rw [byteChar, e]; exact Char.ofNat_toNat c
  rw [hc']
  exact hc

theorem utf8_takeWhile_nul : ∀ s : Text, (utf8 s).takeWhile (· ≠ 0) = utf8 (s.takeWhile (· ≠ '\x00'))
  | []     => rfl
  | c :: s => by
    by_cases hc : c = '\x00'
    · subst hc
      rfl
    · have hz : ∀ b ∈ utf8 [c], b ≠ 0 := by
        rintro b hb rfl
        exact hc (List.mem_singleton.1 (byteChar_mem_of_mem_utf8 (by decide) hb)).symm
      rw [← List.singleton_append, utf8_append, List.takeWhile_append_of_pos (by simpa using hz), utf8_takeWhile_nul s,
        List.takeWhile_append_of_pos (by simpa using hc), utf8_append]

end Str
