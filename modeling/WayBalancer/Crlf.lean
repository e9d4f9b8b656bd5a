import Mathlib.Data.List.Basic
/-!
# Crlf — byte strings as CRLF-terminated lines

Where the first CRLF of a byte string is, and the lines this cuts it into.  A search that has found no CRLF need not start
over when bytes are appended: only a final CR can be completed (`find_resume`).  Lines are read off a byte string in one way
only (`isLine_append_inj`).
-/
namespace Crlf

abbrev Bytes := List UInt8

def crlf : Bytes := [13, 10]

/-- The position of the first CRLF. -/
def find : Bytes → Option ℕ
  | a :: b :: rest => if a = 13 ∧ b = 10 then some 0 else (find (b :: rest)).map (· + 1)
  | _              => none

variable {l : Bytes}

/-- What a search finds is a CRLF, and only the bytes up to it decide that it is found. -/
theorem find_some : ∀ {p : ℕ}, find l = some p →
    ∃ body rest, l = body ++ crlf ++ rest ∧ body.length = p ∧ ∀ r, find (body ++ crlf ++ r) = some p := by
  induction l using find.induct with
  | case1 a b rest h =>
    intro p hp
    rw [find, if_pos h] at hp
    cases hp
    obtain ⟨rfl, rfl⟩ := h
    exact ⟨[], rest, rfl, rfl, fun _ => rfl⟩
  | case2 a b rest h ih =>
    intro p hp
    rw [find, if_neg h, Option.map_eq_some_iff] at hp
    obtain ⟨q, hq, rfl⟩ := hp
    obtain ⟨body, rest', e, hb, hf⟩ := ih hq
    refine ⟨a :: body, rest', by rw [e]; rfl, by rw [List.length_cons, hb], fun r => ?_⟩
    -- the byte after `a` is the same whatever follows the CRLF
    have hn : ∃ t, body ++ crlf ++ r = b :: t := by
      cases body with
      | nil => exact ⟨_, congrArg (· :: _) (List.cons.inj e).1.symm⟩
      | cons c body => exact ⟨_, congrArg (· :: _) (List.cons.inj e).1.symm⟩
    obtain ⟨t, ht⟩ := hn
    have hq' := hf r
    rw [ht] at hq'
    rw [List.cons_append, List.cons_append, ht, find, if_neg h, hq']
    rfl
  | case3 l h =>
    intro p hp
    rw [find] at hp
    · cases hp
    · exact h

theorem find_append (r : Bytes) {p : ℕ} (h : find l = some p) : find (l ++ r) = some p := by
  obtain ⟨body, rest, rfl, -, hf⟩ := find_some h
  rw [List.append_assoc]
  exact hf (rest ++ r)

/-- **A search that found nothing resumes at the last byte it saw.** -/
theorem find_resume (r : Bytes) : find l = none → find (l ++ r) = (find ((l ++ r).drop (l.length - 1))).map (· + (l.length - 1)) := by
  induction l using find.induct with
  | case1 a b rest h => intro hn; rw [find, if_pos h] at hn; cases hn
  | case2 a b rest h ih =>
    intro hn
    rw [find, if_neg h, Option.map_eq_none_iff] at hn
    have e := ih hn
    simp only [List.cons_append, List.length_cons, Nat.add_sub_cancel] at e ⊢
    rw [find, if_neg h, e, Option.map_map]
    rfl
  | case3 l h =>
    have hl : l.length - 1 = 0 := by
      match l with
      | []     => rfl
      | [_]    => rfl
      | a :: b :: rest => exact (h a b rest rfl).elim
    rw [hl]
    simp

/-- `windows(marker.len()).position(|window| window == marker)`: where a marker first starts. -/
def findMarker (marker l : Bytes) : Option ℕ := l.tails.findIdx? (fun t => marker.isPrefixOf t)

/-! ## Lines -/

/-- A line: bytes whose first CRLF ends them. -/
def IsLine (line : Bytes) : Prop := ∃ body, line = body ++ crlf ∧ find line = some body.length

/-- A line without its CRLF. -/
def bodyOf (line : Bytes) : Bytes := line.take (line.length - 2)

theorem bodyOf_append (body : Bytes) : bodyOf (body ++ crlf) = body := by
  simp [bodyOf, crlf]

theorem IsLine.eq_body {line : Bytes} (h : IsLine line) : line = bodyOf line ++ crlf := by
  obtain ⟨body, rfl, -⟩ := h
  rw [bodyOf_append]

theorem IsLine.find_append {line : Bytes} (h : IsLine line) (r : Bytes) : find (line ++ r) = some (bodyOf line).length := by
  obtain ⟨body, rfl, hf⟩ := h
  rw [bodyOf_append]
  exact Crlf.find_append r hf

theorem isLine_take {p : ℕ} (h : find l = some p) : IsLine (l.take (p + 2)) := by
  obtain ⟨body, rest, e, hb, hf⟩ := find_some h
  have ht : l.take (p + 2) = body ++ crlf := by
    rw [e, ← hb]
    exact List.take_left' (by simp [crlf])
  refine ⟨body, ht, ?_⟩
  rw [ht, hb, ← List.append_nil (body ++ crlf)]
  exact hf []

theorem IsLine.length {line : Bytes} (h : IsLine line) : line.length = (bodyOf line).length + 2 := by
  conv_lhs => rw [h.eq_body]
  simp [crlf]

theorem IsLine.take_body {line : Bytes} (h : IsLine line) (r : Bytes) : (line ++ r).take (bodyOf line).length = bodyOf line := by
  conv_lhs => rw [h.eq_body, List.append_assoc]
  exact List.take_left' (by rw [bodyOf_append])

theorem IsLine.drop_line {line : Bytes} (h : IsLine line) (r : Bytes) : (line ++ r).drop ((bodyOf line).length + 2) = r := by
  rw [← h.length]
  exact List.drop_left

/-- **Lines are read off a byte string in one way.** -/
theorem isLine_append_inj {a b x y : Bytes} (ha : IsLine a) (hb : IsLine b) (h : a ++ x = b ++ y) : a = b ∧ x = y := by
  have hl : (bodyOf a).length = (bodyOf b).length := by
    have e := ha.find_append x
    rw [h, hb.find_append y] at e
    exact (Option.some.inj e).symm
  exact List.append_inj h (by rw [ha.length, hb.length, hl])

theorem isLine_crlf : IsLine crlf := ⟨[], rfl, rfl⟩

theorem isLine_of_notMem {body : Bytes} (h : 13 ∉ body) : IsLine (body ++ crlf) := by
  refine ⟨body, rfl, ?_⟩
  induction body with
  | nil => rfl
  | cons a body ih =>
    obtain ⟨ha, hb⟩ := not_or.1 (mt List.mem_cons.2 h)
    have hf := ih hb
    cases body <;> simp_all [find, crlf, eq_comm]

/-- The first line and what follows it. -/
def splitLine (l : Bytes) : Option (Bytes × Bytes) := (find l).map (fun p => (l.take (p + 2), l.drop (p + 2)))

theorem splitLine_append {line : Bytes} (h : IsLine line) (r : Bytes) : splitLine (line ++ r) = some (line, r) := by
  unfold splitLine
  rw [h.find_append r]
  simp only [Option.map_some, ← h.length, List.take_left, List.drop_left]

theorem splitLine_lt {line rest : Bytes} (h : splitLine l = some (line, rest)) : rest.length < l.length := by
  obtain ⟨p, hp, e⟩ := Option.map_eq_some_iff.1 h
  obtain ⟨body, tail, rfl, hb, -⟩ := find_some hp
  cases e
  simp only [List.length_drop, List.length_append, crlf, List.length_cons, List.length_nil]
  omega

/-- No CR, LF or NUL besides a terminating CRLF; a line cut short is held to the same. -/
def clean : Bytes → Bool
  | []        => true
  | b :: rest => if b = 13 then rest = [] ∨ rest = [10] else b != 10 && b != 0 && clean rest

/-- The bytes a line's body is free of. -/
def isPlain (b : UInt8) : Bool := b != 13 && b != 10 && b != 0

theorem clean_line : ∀ (body : Bytes), clean (body ++ crlf) = body.all isPlain
  | [] => rfl
  | b :: body => by
    have hne : ¬ (body ++ crlf = [] ∨ body ++ crlf = [10]) := by
      rintro (h | h)
      · exact absurd (congrArg List.length h) (by simp [crlf])
      · exact absurd (congrArg List.length h) (by simp [crlf])
    rw [List.cons_append, clean, List.all_cons, ← clean_line body]
    by_cases hb : b = 13
    · subst hb
      rw [decide_eq_false hne]
      rfl
    · have h13 : (b != 13) = true := bne_iff_ne.2 hb
      rw [if_neg hb, isPlain, h13, Bool.true_and]

theorem clean_take : ∀ {l : Bytes} {n : ℕ}, clean l = true → clean (l.take n) = true
  | [], n, _ => by simp [clean]
  | b :: rest, 0, _ => rfl
  | b :: rest, n + 1, h => by
    rw [List.take_succ_cons, clean]
    rw [clean] at h
    split_ifs at h ⊢ with hb
    · rcases of_decide_eq_true h with rfl | rfl
      · simp
      · cases n <;> simp
    · simp only [Bool.and_eq_true] at h ⊢
      exact ⟨h.1, clean_take h.2⟩

end Crlf
