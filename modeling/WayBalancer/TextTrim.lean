import WayBalancer.Text
/-!
# TextTrim — white space at the ends of a text

Trimming looks at the two ends only: a text that starts and ends in other characters stays as it is, and what stands before
such a character is not touched by trimming the end.
-/
namespace Str

/-- The last character, if there is one, is not white space. -/
def EndsPlain (s : Text) : Prop := ∀ c, s.getLast? = some c → isWhitespace c = false

theorem endsPlain_nil : EndsPlain [] := nofun

variable {c : Char} {s : Text}

theorem endsPlain_concat : EndsPlain (s ++ [c]) ↔ isWhitespace c = false := by
  simp [EndsPlain]

theorem endsPlain_append {a b : Text} (hb : b ≠ []) : EndsPlain (a ++ b) ↔ EndsPlain b := by
  unfold EndsPlain
  rw [List.getLast?_append_of_ne_nil _ hb]

theorem trimEnd_concat (s : Text) (c : Char) : trimEnd (s ++ [c]) = if isWhitespace c then trimEnd s else s ++ [c] :=
  List.rdropWhile_concat _ _ _

theorem trimEnd_isPrefix (s : Text) : trimEnd s <+: s := List.rdropWhile_prefix _ _

theorem trimEnd_eq_self : trimEnd s = s ↔ EndsPlain s := by
  induction s using List.reverseRecOn with
  | nil => exact iff_of_true rfl endsPlain_nil
  | append_singleton s c _ =>
    rw [trimEnd_concat, endsPlain_concat]
    cases hc : isWhitespace c with
    | false => exact iff_of_true rfl rfl
    | true =>
      refine iff_of_false (fun e => ?_) (by simp)
      have hle := (trimEnd_isPrefix s).length_le
      rw [if_pos rfl] at e
      rw [e, List.length_append, List.length_singleton] at hle
      omega

theorem trimEnd_eq_nil : trimEnd s = [] ↔ ∀ c ∈ s, isWhitespace c = true := List.rdropWhile_eq_nil_iff

theorem exists_trimmed (s : Text) : ∃ blank, s = trimEnd s ++ blank ∧ ∀ c ∈ blank, isWhitespace c = true :=
  ⟨s.rtakeWhile isWhitespace, List.rdropWhile_append_rtakeWhile.symm, fun _ hc => List.mem_rtakeWhile_imp hc⟩

/-- **A trimmed end goes back no further than the last other character.** -/
theorem trimEnd_append {a : Text} (ha : EndsPlain a) (b : Text) : trimEnd (a ++ b) = a ++ trimEnd b := by
  induction b using List.reverseRecOn with
  | nil => rw [List.append_nil, trimEnd_eq_self.2 ha]; exact (List.append_nil a).symm
  | append_singleton b c ih =>
    rw [← List.append_assoc, trimEnd_concat, trimEnd_concat]
    cases isWhitespace c with
    | false => exact List.append_assoc _ _ _
    | true => exact ih

theorem trimEnd_append_cons (a : Text) (hc : isWhitespace c = false) (s : Text) : trimEnd (a ++ c :: s) = a ++ c :: trimEnd s := by
  have hpla : EndsPlain (a ++ [c]) := endsPlain_concat.2 hc
  rw [List.append_cons a c s, trimEnd_append hpla]
  exact (List.append_cons a c _).symm

theorem trimEnd_cons (hc : isWhitespace c = false) (s : Text) : trimEnd (c :: s) = c :: trimEnd s :=
  trimEnd_append_cons [] hc s

theorem trimStart_cons (hc : isWhitespace c = false) (s : Text) : trimStart (c :: s) = c :: s :=
  List.dropWhile_cons_of_neg (by simp [hc])

theorem trim_cons (hc : isWhitespace c = false) {s : Text} : trim (c :: s) = c :: trimEnd s := by
  rw [trim, trimStart_cons hc, trimEnd_cons hc]

theorem trimStart_trimEnd (s : Text) : trimStart (trimEnd s) = trimEnd (trimStart s) := by
  induction s using List.reverseRecOn with
  | nil => rfl
  | append_singleton s c ih =>
    have hd : trimStart (s ++ [c]) = if (trimStart s).isEmpty then trimStart [c] else trimStart s ++ [c] := List.dropWhile_append
    rw [trimEnd_concat, hd]
    cases hc : isWhitespace c with
    | false =>
      have hs : trimStart [c] = [] ++ [c] := trimStart_cons hc []
      rw [if_neg (by simp), hd, hs]
      split_ifs
      · rw [trimEnd_concat, hc, if_neg (by simp)]
      · rw [trimEnd_concat, hc, if_neg (by simp)]
    | true =>
      have hs : trimStart [c] = [] := List.dropWhile_cons_of_pos hc
      rw [if_pos rfl, ih, hs]
      split_ifs with hemp
      · rw [List.isEmpty_iff.1 hemp]
      · rw [trimEnd_concat, hc, if_pos rfl]

theorem trim_trimEnd (s : Text) : trim (trimEnd s) = trim s := by
  rw [trim, trimStart_trimEnd]
  exact List.rdropWhile_idempotent _ _

theorem trim_head {rest : Text} (h : trim s = c :: rest) : isWhitespace c = false := by
  rw [trim, ← trimStart_trimEnd] at h
  have hhead := List.head_dropWhile_not isWhitespace (l := trimEnd s) (by
    change trimStart (trimEnd s) ≠ []
    rw [h]
    exact List.cons_ne_nil _ _)
  have hd : (trimEnd s).dropWhile isWhitespace = c :: rest := h
  simp only [hd, List.head_cons] at hhead
  simpa using hhead

theorem mem_trim (hc : isWhitespace c = false) (h : c ∈ s) : c ∈ trim s := by
  have hsta : c ∈ trimStart s := by
    rw [← List.takeWhile_append_dropWhile (p := isWhitespace) (l := s)] at h
    rcases List.mem_append.1 h with h | h
    · rw [List.mem_takeWhile_imp h] at hc
      cases hc
    · exact h
  obtain ⟨blank, e, hbla⟩ := exists_trimmed (trimStart s)
  rw [e] at hsta
  rcases List.mem_append.1 hsta with h | h
  · exact h
  · rw [hbla c h] at hc
    cases hc

end Str
