import WayBalancer.RelayBody
/-!
# RelayPayload — the payload a relay passes on

A body that ends with its connection goes out in chunks, one for each piece that was read, and the decoder gets the pieces back
(`closeDelimited_decodes`).
-/
namespace WayBalancer

open Crlf Word Str
open Proc (loop_again loop_done)

variable {d : RelayDirection} {s s' : Relay}

/-! ## Size lines -/

theorem lowerHex_spec (n : ℕ) : (∀ b ∈ lowerHex n, isHexDigit b = true) ∧ hexValue (lowerHex n) = n := by
  have digit : ∀ k < 16, isHexDigit k.digitChar.toNat.toUInt8 = true ∧ hexDigitValue k.digitChar.toNat.toUInt8 = k := by decide
  induction n using Nat.strong_induction_on with
  | _ n ih =>
    unfold lowerHex
    rw [Nat.toDigits_eq_if (by decide)]
    split_ifs with h
    · obtain ⟨hdig, hval⟩ := digit n h
      simp [hexValue, hdig, hval]
    · obtain ⟨hall, hr⟩ := ih (n / 16) (by omega)
      obtain ⟨hdig, hval⟩ := digit (n % 16) (Nat.mod_lt _ (by decide))
      rw [List.map_append]
      constructor
      · intro b hb
        rcases List.mem_append.1 hb with hb | hb
        · exact hall b hb
        · rw [List.mem_singleton.1 hb]
          exact hdig
      · rw [hexValue, List.foldl_append]
        change hexValue (lowerHex (n / 16)) * 16 + hexDigitValue _ = n
        rw [hr, hval]
        omega

theorem isLine_lowerHex {n : ℕ} : IsLine (lowerHex n ++ crlf) := by
  refine isLine_of_notMem (fun h => ?_)
  exact absurd ((lowerHex_spec n).1 13 h) (by decide)

theorem parseChunkSizeLine_lowerHex {n : ℕ} (h : n ≤ u64Max) : parseChunkSizeLine (lowerHex n) = some n := by
  obtain ⟨hdig, hval⟩ := lowerHex_spec n
  have hlen : (lowerHex n).length ≤ 16 := by
    unfold lowerHex
    rw [List.length_map, Nat.length_toDigits_le_iff (by decide) (by decide)]
    exact Nat.lt_of_le_of_lt h (by decide)
  have hne : lowerHex n ≠ [] := fun h => Nat.toDigits_ne_nil (List.map_eq_nil_iff.1 h)
  unfold parseChunkSizeLine
  dsimp only
  rw [List.takeWhile_eq_self_iff.2 hdig, List.dropWhile_eq_nil_iff.2 hdig, hval, if_neg]
  · simp [h]
  · exact not_or.2 ⟨hne, by omega⟩

/-! ## Close-delimited bodies -/

/-- **A body that ended with its connection is decoded from its chunks as it was.** -/
theorem closeDelimited_decodes {maxBodyBytes : ℕ} {u : Unit} (h : relayCloseDelimitedAsChunked d maxBodyBytes s = (.ok u, s')) :
    ∃ out, s'.written = s.written ++ out ∧ decodeChunkedBody out = some s.unread := by
  have key := Proc.loop_ok _ (closeDelimitedTurn d maxBodyBytes) (closeDelimitedTurn_lt d maxBodyBytes)
    (P := fun _ s _ s' => ∃ b : ChunkedBody, s'.written = s.written ++ b.encode ∧ b.payload = s.unread) ?_ ?_ h
  · obtain ⟨b, hwri, hpay⟩ := key
    refine ⟨b.encode, hwri, ?_⟩
    rw [← hpay, ← decode_encode b [], List.append_nil]
  · intro _ s _ s' ht
    obtain ⟨-, -, -, hend, hw⟩ := closeDelimitedTurn_ok ht
    refine ⟨⟨[], [48, 13, 10], [], ⟨[48], rfl, rfl⟩, rfl, by simp⟩, ?_, hend.symm⟩
    rw [Relay.written, hw, Writer.written_push]
    rfl
  · rintro _ s _ s' _ s'' ht ⟨b, hwri, hpay⟩
    obtain ⟨got, hun, hlen, hne, hw⟩ := closeDelimitedTurn_ok ht
    have hs : parseChunkSizeLine (bodyOf (lowerHex got.length ++ crlf)) = some got.length := by
      rw [bodyOf_append]
      exact parseChunkSizeLine_lowerHex (le_trans hlen (by decide))
    let c : Chunk := ⟨_, got, isLine_lowerHex, hs, hne⟩
    refine ⟨b.cons c, ?_, ?_⟩
    · rw [hwri, Relay.written, hw, Writer.written_push, ChunkedBody.encode_cons, Chunk.encode, List.append_assoc]
      simp only [c, List.append_assoc]
      rfl
    · rw [ChunkedBody.payload_cons, hpay, hun]

theorem closeDelimited_decodes_byte :
    let s : Relay := ⟨⟨[.data 7 []], []⟩, ⟨[], none⟩⟩
    ∃ s' out, relayCloseDelimitedAsChunked .response 100 s = (.ok (), s') ∧ s'.written = [] ++ out ∧
      decodeChunkedBody out = some [7] := by
  intro s
  have hrun : relayCloseDelimitedAsChunked .response 100 s = (.ok (), _) :=
    (loop_again _ _ _ rfl).trans (loop_done _ _ _ rfl)
  obtain ⟨out, hout⟩ := closeDelimited_decodes hrun
  exact ⟨_, out, hrun, hout⟩

end WayBalancer
