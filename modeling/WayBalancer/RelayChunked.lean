import WayBalancer.RelayIo
/-!
# RelayChunked — the chunked relay and the chunked decoder

`crates/runtime/src/http1_proxy/body_relay.rs`: a line is read off the buffer and the stream up to its first CRLF, a run of
bytes is copied, and a chunked body is a size line, that many bytes and a CRLF, over and over, up to a zero size and the
trailer lines after it.  Each `loop` and `while` of the source is one turn here, run by `Proc.loop`.  `decodeChunkedBody` is
the second parser, which reads a body already buffered.
-/
namespace WayBalancer

open Crlf Word Str
open Proc (Turn bind_ok ensure_ok get_ok loop_ok pure_ok update_ok)

variable {d : RelayDirection} {i i' : Input} {remaining n : ℕ} {s s' : Relay} {u : Unit}

def maxChunkLineBytes : ℕ := 4 * 1024

def maxChunkTrailerBytes : ℕ := 16 * 1024

/-! ## Lines and runs of bytes -/

/-- A turn of `read_crlf_line`, which has searched the buffer up to `scanned`. -/
def lineTurn (d : RelayDirection) (scanned : ℕ) : Proc Input Http1ProxyError (Turn ℕ Bytes) := do
  let i ← Proc.get
  match find (i.buffer.drop scanned) with
  | some position => do
    Proc.update (fun i => { i with buffer := i.buffer.drop (scanned + position + 2) })
    return .done (i.buffer.take (scanned + position + 2))
  | none => do
    Proc.ensure (i.buffer.length ≤ maxChunkLineBytes) (parseSideError d .headTooLarge)
    let got ← readSome d 1024
    Proc.ensure (!got.isEmpty) (parseSideError d .incompleteHead)
    Proc.update (fun i => { i with buffer := i.buffer ++ got })
    return .again (i.buffer.length - 1)

theorem lineTurn_done {scanned : ℕ} {line : Bytes} (h : lineTurn d scanned i = (.ok (.done line), i')) :
    ∃ p, find (i.buffer.drop scanned) = some p ∧ line = i.buffer.take (scanned + p + 2) ∧
      i' = { i with buffer := i.buffer.drop (scanned + p + 2) } := by
  simp only [lineTurn, bind_ok, get_ok] at h
  obtain ⟨_, _, ⟨rfl, rfl⟩, h⟩ := h
  cases hp : find (i.buffer.drop scanned) with
  | some p =>
    simp only [hp, bind_ok, update_ok, pure_ok, Turn.done.injEq] at h
    obtain ⟨_, _, rfl, rfl, rfl⟩ := h
    exact ⟨p, rfl, rfl, rfl⟩
  | none => simp only [hp, bind_ok, pure_ok, reduceCtorEq, false_and, and_false, exists_false] at h

theorem lineTurn_again {scanned next : ℕ} (h : lineTurn d scanned i = (.ok (.again next), i')) :
    find (i.buffer.drop scanned) = none ∧ next = i.buffer.length - 1 ∧ ∃ got, got ≠ [] ∧ i'.buffer = i.buffer ++ got ∧
      i.stream.flatMap ReadEvent.bytes = got ++ i'.stream.flatMap ReadEvent.bytes := by
  simp only [lineTurn, bind_ok, get_ok] at h
  obtain ⟨_, _, ⟨rfl, rfl⟩, h⟩ := h
  cases hp : find (i.buffer.drop scanned) with
  | some p => simp only [hp, bind_ok, pure_ok, reduceCtorEq, false_and, and_false, exists_false] at h
  | none =>
    simp only [hp, bind_ok, ensure_ok, update_ok, pure_ok, Turn.again.injEq] at h
    obtain ⟨_, _, ⟨-, rfl⟩, got, i₁, hr, _, _, ⟨hg, rfl⟩, _, _, rfl, rfl, rfl⟩ := h
    obtain ⟨hb, hs, -⟩ := readSome_ok hr
    exact ⟨rfl, rfl, got, by simpa using hg, by rw [hb], hs⟩

theorem lineTurn_lt (d : RelayDirection) (scanned : ℕ) (i : Input) (next : ℕ) (i' : Input)
    (h : lineTurn d scanned i = (.ok (.again next), i')) :
    (i'.stream.flatMap ReadEvent.bytes).length < (i.stream.flatMap ReadEvent.bytes).length := by
  obtain ⟨-, -, got, hg, -, hs⟩ := lineTurn_again h
  have hpos := List.length_pos_iff.2 hg
  rw [hs, List.length_append]
  omega

def readCrlfLine (d : RelayDirection) : Proc Input Http1ProxyError Bytes :=
  Proc.loop (fun _ i => (i.stream.flatMap ReadEvent.bytes).length) (lineTurn d) (lineTurn_lt d) 0

/-- **A line read is the first line of the unread bytes, however they are split into reads.** -/
theorem readCrlfLine_ok {line : Bytes} (h : readCrlfLine d i = (.ok line, i')) : IsLine line ∧ i.unread = line ++ i'.unread := by
  -- the search may start at `scanned` because no CRLF starts before it
  have key := loop_ok _ (lineTurn d) (lineTurn_lt d) (P := fun sc i line i' => find i.buffer = (find (i.buffer.drop sc)).map (· + sc) →
      IsLine line ∧ i.unread = line ++ i'.unread) ?_ ?_ h
  · exact key (by simp)
  · intro sc i line i' ht hs
    obtain ⟨p, hp, rfl, rfl⟩ := lineTurn_done ht
    have hf : find i.buffer = some (sc + p) := by rw [hs, hp, Option.map_some, Nat.add_comm]
    refine ⟨isLine_take hf, ?_⟩
    unfold Input.unread
    rw [← List.append_assoc, List.take_append_drop]
  · intro sc i next i' line i'' ht ih hs
    obtain ⟨hn, rfl, got, -, hb, hst⟩ := lineTurn_again ht
    have hf : find i.buffer = none := by rw [hs, hn]; rfl
    obtain ⟨hl, hu⟩ := ih (by rw [hb]; exact find_resume got hf)
    refine ⟨hl, ?_⟩
    rw [← hu]
    unfold Input.unread
    rw [hb, hst, List.append_assoc]

theorem readCrlfLine_lt {line : Bytes} (h : readCrlfLine d i = (.ok line, i')) : i'.unread.length < i.unread.length := by
  obtain ⟨hl, hu⟩ := readCrlfLine_ok h
  have e := hl.length
  rw [hu, List.length_append]
  omega

/-- A turn of `relay_exact_bytes`: what the buffer holds first, then what the stream gives. -/
def exactTurn (d : RelayDirection) (remaining : ℕ) : RelayProc (Turn ℕ Unit) :=
  if remaining = 0 then pure (.done ())
  else do
    let s ← Proc.get
    if s.input.buffer.isEmpty then do
      let got ← onInput (readSome d (min remaining 8192))
      Proc.ensure (!got.isEmpty) (parseSideError d .incompleteHead)
      onWriter (writeAll d .data got)
      return .again (remaining - got.length)
    else do
      let buffered := s.input.buffer.take remaining
      onWriter (writeAll d .data buffered)
      onInput (Proc.update (fun i => { i with buffer := i.buffer.drop buffered.length }))
      return .again (remaining - buffered.length)

theorem exactTurn_done (h : exactTurn d remaining s = (.ok (.done u), s')) : remaining = 0 ∧ s' = s := by
  unfold exactTurn at h
  split_ifs at h with hr
  · rw [pure_ok] at h
    exact ⟨hr, h.2.symm⟩
  · simp only [bind_ok, get_ok] at h
    obtain ⟨_, _, ⟨rfl, rfl⟩, h⟩ := h
    cases hb : s.input.buffer.isEmpty <;>
      simp only [hb, if_true, Bool.false_eq_true, if_false, bind_ok, pure_ok, reduceCtorEq, false_and, and_false, exists_false] at h

theorem exactTurn_read {next : ℕ} {w : Writer} (hr : remaining ≠ 0) (hb : i.buffer = []) :
    exactTurn d remaining ⟨i, w⟩ = (.ok (.again next), s') ↔ ∃ got i', readSome d (min remaining 8192) i = (.ok got, i') ∧
      got ≠ [] ∧ w.takes got.length = true ∧ remaining - got.length = next ∧ ⟨i', w.push .data got⟩ = s' := by
  unfold exactTurn
  rw [if_neg hr, bind_ok]
  constructor
  · rintro ⟨_, _, ⟨rfl, rfl⟩, h⟩
    simp only [hb, List.isEmpty_nil, if_true, bind_ok, pure_ok, ensure_ok, onInput_ok, onWriter_ok, writeAll_ok, Turn.again.injEq] at h
    obtain ⟨got, _, ⟨i', hre, rfl⟩, _, _, ⟨hg, rfl⟩, _, _, ⟨_, ⟨ht, rfl⟩, rfl⟩, rfl, rfl⟩ := h
    exact ⟨got, i', hre, by simpa using hg, ht, rfl, rfl⟩
  · rintro ⟨got, i', hre, hg, ht, rfl, rfl⟩
    refine ⟨_, _, rfl, ?_⟩
    simp only [hb, List.isEmpty_nil, if_true, bind_ok, pure_ok, ensure_ok, onInput_ok, onWriter_ok, writeAll_ok]
    exact ⟨got, _, ⟨i', hre, rfl⟩, (), _, ⟨by simpa using hg, rfl⟩, (), _, ⟨_, ⟨ht, rfl⟩, rfl⟩, rfl, rfl⟩

theorem exactTurn_buffered {next : ℕ} {w : Writer} (hr : remaining ≠ 0) (hb : i.buffer ≠ []) :
    exactTurn d remaining ⟨i, w⟩ = (.ok (.again next), s') ↔ w.takes (i.buffer.take remaining).length = true ∧
      remaining - (i.buffer.take remaining).length = next ∧
      ⟨{ i with buffer := i.buffer.drop (i.buffer.take remaining).length }, w.push .data (i.buffer.take remaining)⟩ = s' := by
  have hne : i.buffer.isEmpty = false := by simpa using hb
  unfold exactTurn
  rw [if_neg hr, bind_ok]
  constructor
  · rintro ⟨_, _, ⟨rfl, rfl⟩, h⟩
    simp only [hne, Bool.false_eq_true, if_false, bind_ok, pure_ok, update_ok, onInput_ok, onWriter_ok,
      writeAll_ok, Turn.again.injEq] at h
    obtain ⟨_, _, ⟨_, ⟨ht, rfl⟩, rfl⟩, _, _, ⟨_, rfl, rfl⟩, rfl, rfl⟩ := h
    exact ⟨ht, rfl, rfl⟩
  · rintro ⟨ht, rfl, rfl⟩
    refine ⟨_, _, rfl, ?_⟩
    simp only [hne, Bool.false_eq_true, if_false, bind_ok, pure_ok, update_ok, onInput_ok, onWriter_ok, writeAll_ok]
    exact ⟨(), _, ⟨_, ⟨ht, rfl⟩, rfl⟩, (), _, ⟨_, rfl, rfl⟩, trivial, rfl⟩

/-- A further turn moves a run of bytes from the front of the unread ones to the writer, whichever writer it is. -/
theorem exactTurn_again {next : ℕ} (h : exactTurn d remaining s = (.ok (.again next), s')) :
    remaining ≠ 0 ∧ ∃ bytes, bytes ≠ [] ∧ bytes.length + next = remaining ∧ s.unread = bytes ++ s'.unread ∧
      s.writer.takes bytes.length = true ∧ s'.writer = s.writer.push .data bytes ∧
      ∀ w : Writer, w.takes bytes.length = true →
        exactTurn d remaining ⟨s.input, w⟩ = (.ok (.again next), ⟨s'.input, w.push .data bytes⟩) := by
  have hr : remaining ≠ 0 := by
    rintro rfl
    cases h
  refine ⟨hr, ?_⟩
  by_cases hb : s.input.buffer = []
  · obtain ⟨got, i, hre, hg, ht, hn, rfl⟩ := (exactTurn_read hr hb).1 h
    obtain ⟨hib, hst, hlen⟩ := readSome_ok hre
    refine ⟨got, hg, by omega, ?_, ht, rfl, fun w hw => (exactTurn_read hr hb).2 ⟨got, i, hre, hg, hw, hn, rfl⟩⟩
    show s.input.buffer ++ _ = got ++ (i.buffer ++ _)
    rw [hib, hb, hst]
    rfl
  · obtain ⟨ht, hn, rfl⟩ := (exactTurn_buffered hr hb).1 h
    refine ⟨s.input.buffer.take remaining, ?_, ?_, ?_, ht, rfl, fun w hw => (exactTurn_buffered hr hb).2 ⟨hw, hn, rfl⟩⟩
    · intro e
      rcases List.take_eq_nil_iff.1 e with e | e
      · exact hr e
      · exact hb e
    · have hl := List.length_take_le remaining s.input.buffer
      omega
    · show s.input.buffer ++ _ = s.input.buffer.take remaining ++ (s.input.buffer.drop _ ++ _)
      rw [← List.append_assoc, List.prefix_iff_eq_append.1 (List.take_prefix remaining s.input.buffer)]

theorem exactTurn_lt (d : RelayDirection) (remaining : ℕ) (s : Relay) (next : ℕ) (s' : Relay)
    (h : exactTurn d remaining s = (.ok (.again next), s')) : next < remaining := by
  obtain ⟨-, bytes, hne, hl, -⟩ := exactTurn_again h
  have hpos := List.length_pos_iff.2 hne
  omega

def relayExactBytes (d : RelayDirection) (length : ℕ) : RelayProc Unit :=
  Proc.loop (fun remaining _ => remaining) (exactTurn d) (exactTurn_lt d) length

/-- Between the two states `n` bytes went from the unread ones to the writer, as they would to any writer with the room. -/
def Copied (d : RelayDirection) (n : ℕ) (s s' : Relay) : Prop :=
  ∃ bytes, bytes.length = n ∧ s.unread = bytes ++ s'.unread ∧ s'.written = s.written ++ bytes ∧
    ∀ w : Writer, s.writer.Roomier w → ∃ w' : Writer, relayExactBytes d n ⟨s.input, w⟩ = (.ok (), ⟨s'.input, w'⟩) ∧
      w'.written = w.written ++ bytes ∧ s'.writer.Roomier w'

/-- **A run of bytes is copied as it stands.** -/
theorem relayExactBytes_ok (h : relayExactBytes d n s = (.ok u, s')) : Copied d n s s' := by
  refine loop_ok _ (exactTurn d) (exactTurn_lt d) (P := fun n s _ s' => Copied d n s s') ?_ ?_ h
  · intro n s _ s' ht
    obtain ⟨rfl, rfl⟩ := exactTurn_done ht
    refine ⟨[], rfl, rfl, by simp, fun w hw => ⟨w, ?_, by simp, hw⟩⟩
    exact Proc.loop_done _ _ _ (by unfold exactTurn; rw [if_pos rfl]; rfl)
  · intro n s next s' _ s'' ht ih
    obtain ⟨-, bytes, -, hl, hu, htk, hw', hfr⟩ := exactTurn_again ht
    obtain ⟨more, hlm, hum, hwm, hrun⟩ := ih
    refine ⟨bytes ++ more, by rw [List.length_append, hlm, hl], by rw [hu, hum, List.append_assoc], ?_, fun w hw => ?_⟩
    · rw [hwm]
      unfold Relay.written
      rw [hw', Writer.written_push, List.append_assoc]
    · obtain ⟨w', hr', hwr, hr⟩ := hrun (w.push .data bytes) (by rw [hw']; exact hw.push htk)
      refine ⟨w', ?_, ?_, hr⟩
      · exact (Proc.loop_again _ _ _ (hfr w (hw _ htk))).trans hr'
      · rw [hwr, Writer.written_push, List.append_assoc]

/-! ## Chunk-size lines -/

def hexDigitValue (b : UInt8) : ℕ :=
  if b ≤ 57 then b.toNat - 48 else if b ≤ 70 then b.toNat - 55 else b.toNat - 87

def hexValue (digits : Bytes) : ℕ := digits.foldl (fun n b => n * 16 + hexDigitValue b) 0

/-- `chunk-size [ chunk-ext ]`: one to sixteen hex digits, then blanks, then nothing or an extension. -/
def parseChunkSizeLine (line : Bytes) : Option ℕ :=
  let sizeDigits := line.takeWhile isHexDigit
  let rest := line.dropWhile isHexDigit
  if sizeDigits = [] ∨ 16 < sizeDigits.length then none
  else
    let remainder := rest.dropWhile (fun b => b == 32 || b == 9)
    if remainder ≠ [] ∧ remainder.head? ≠ some 59 then none
    else if remainder.any (fun b => !isPlain b) then none
    else if hexValue sizeDigits ≤ u64Max then some (hexValue sizeDigits)
    else none

theorem isPlain_of_isHexDigit {b : UInt8} (h : isHexDigit b = true) : isPlain b = true := by
  unfold isPlain
  simp only [Bool.and_eq_true, bne_iff_ne]
  refine ⟨⟨?_, ?_⟩, ?_⟩ <;> rintro rfl <;> exact absurd h (by decide)

theorem isPlain_of_blank {b : UInt8} (h : (b == 32 || b == 9) = true) : isPlain b = true := by
  simp only [Bool.or_eq_true, beq_iff_eq] at h
  rcases h with rfl | rfl <;> rfl

/-- **A size line the parser takes holds no CR, LF or NUL.** -/
theorem parseChunkSizeLine_plain {line : Bytes} (h : parseChunkSizeLine line = some n) : line.all isPlain = true := by
  unfold parseChunkSizeLine at h
  simp only at h
  split at h
  · cases h
  · split at h
    · cases h
    · split at h
      · cases h
      · rename_i hrem
        rw [← List.takeWhile_append_dropWhile (p := isHexDigit) (l := line), List.all_append, Bool.and_eq_true]
        constructor
        · rw [List.all_eq_true]
          intro b hb
          exact isPlain_of_isHexDigit (List.mem_takeWhile_imp hb)
        · generalize line.dropWhile isHexDigit = rest at hrem
          rw [← List.takeWhile_append_dropWhile (p := fun b : UInt8 => b == 32 || b == 9) (l := rest), List.all_append,
            Bool.and_eq_true]
          constructor
          · rw [List.all_eq_true]
            intro b hb
            have hbla := List.mem_takeWhile_imp hb
            exact isPlain_of_blank hbla
          · rw [List.all_eq_true]
            intro b hb
            by_contra hp
            exact hrem (List.any_eq_true.2 ⟨b, hb, by simpa using hp⟩)

/-! ## The relay -/

/-- A part of the framing, written only where framing is forwarded. -/
def forward (d : RelayDirection) (forwardFraming : Bool) (part : Part) (bytes : Bytes) : RelayProc Unit :=
  if forwardFraming then onWriter (writeAll d part bytes) else pure ()

theorem forward_true_ok {part : Part} {bytes : Bytes} : forward d true part bytes s = (.ok u, s') ↔
      s.writer.takes bytes.length = true ∧ { s with writer := s.writer.push part bytes } = s' := by
  simp only [forward, if_true, onWriter_ok, writeAll_ok]
  constructor
  · rintro ⟨_, ⟨ht, rfl⟩, rfl⟩; exact ⟨ht, rfl⟩
  · rintro ⟨ht, rfl⟩; exact ⟨_, ⟨ht, rfl⟩, rfl⟩

theorem forward_input {forwardFraming : Bool} {part : Part} {bytes : Bytes}
    (h : forward d forwardFraming part bytes s = (.ok u, s')) : s'.input = s.input := by
  cases forwardFraming with
  | true =>
    obtain ⟨-, rfl⟩ := forward_true_ok.1 h
    rfl
  | false =>
    cases h
    rfl

/-- A turn of the trailer loop, which has taken `trailerBytes` bytes so far. -/
def trailerTurn (d : RelayDirection) (forwardFraming : Bool) (trailerBytes : ℕ) : RelayProc (Turn ℕ Unit) := do
  let trailerLine ← onInput (readCrlfLine d)
  let trailerBytes := satAdd trailerBytes trailerLine.length
  Proc.ensure (trailerBytes ≤ maxChunkTrailerBytes) (parseSideError d .headTooLarge)
  forward d forwardFraming .trailerLine trailerLine
  return if trailerLine = crlf then .done () else .again trailerBytes

theorem trailerTurn_lt (d : RelayDirection) (forwardFraming : Bool) (trailerBytes : ℕ) (s : Relay) (next : ℕ) (s' : Relay)
    (h : trailerTurn d forwardFraming trailerBytes s = (.ok (.again next), s')) : s'.unread.length < s.unread.length := by
  simp only [trailerTurn, bind_ok, onInput_ok, ensure_ok] at h
  obtain ⟨line, _, ⟨i, hr, rfl⟩, _, _, ⟨-, rfl⟩, _, s₂, hf, hp⟩ := h
  rw [← (pure_ok.1 hp).2]
  unfold Relay.unread
  rw [forward_input hf]
  exact readCrlfLine_lt hr

theorem trailerTurn_ok {t : Turn ℕ Unit} (h : trailerTurn d true n s = (.ok t, s')) :
    ∃ line i, readCrlfLine d s.input = (.ok line, i) ∧ s.writer.takes line.length = true ∧
      s' = ⟨i, s.writer.push .trailerLine line⟩ ∧ t = (if line = crlf then .done () else .again (satAdd n line.length)) ∧
      ∀ w : Writer, trailerTurn d false n ⟨s.input, w⟩ = (.ok t, ⟨i, w⟩) := by
  simp only [trailerTurn, bind_ok, onInput_ok, ensure_ok, forward_true_ok, pure_ok] at h
  obtain ⟨line, _, ⟨i, hr, rfl⟩, _, _, ⟨hle, rfl⟩, _, _, ⟨htk, rfl⟩, rfl, rfl⟩ := h
  refine ⟨line, i, hr, htk, rfl, rfl, fun w => ?_⟩
  simp only [trailerTurn, bind_ok, onInput_ok, ensure_ok, pure_ok]
  exact ⟨line, _, ⟨i, hr, rfl⟩, (), _, ⟨hle, rfl⟩, (), _, rfl, rfl, rfl⟩

def relayTrailers (d : RelayDirection) (forwardFraming : Bool) : ℕ → RelayProc Unit :=
  Proc.loop (fun _ s => s.unread.length) (trailerTurn d forwardFraming) (trailerTurn_lt d forwardFraming)

/-- What follows a size line: the trailer section after a zero size, the data and its CRLF after any other. -/
def afterSizeLine (d : RelayDirection) (forwardFraming : Bool) (chunkSize totalBodyBytes : ℕ) : RelayProc (Turn ℕ Unit) :=
  if chunkSize = 0 then do
    relayTrailers d forwardFraming 0
    return .done ()
  else do
    relayExactBytes d chunkSize
    let terminator ← onInput (readCrlfLine d)
    Proc.ensure (terminator = crlf) (parseSideError d (.invalid "invalid chunk data terminator"))
    forward d forwardFraming .terminator terminator
    return .again totalBodyBytes

/-- A turn of `relay_chunked_with_framing`: one chunk, or the last one and the trailer section after it. -/
def chunkTurn (d : RelayDirection) (maxBodyBytes : ℕ) (forwardFraming : Bool) (totalBodyBytes : ℕ) :
    RelayProc (Turn ℕ Unit) := do
  let line ← onInput (readCrlfLine d)
  let chunkSize ← Proc.okOr (parseChunkSizeLine (bodyOf line)) (parseSideError d (.invalid "invalid chunk size"))
  let totalBodyBytes := satAdd totalBodyBytes chunkSize
  Proc.ensure (totalBodyBytes ≤ maxBodyBytes) (bodyLimitError d)
  forward d forwardFraming .sizeLine line
  afterSizeLine d forwardFraming chunkSize totalBodyBytes

theorem chunkTurn_lt (d : RelayDirection) (maxBodyBytes : ℕ) (forwardFraming : Bool) (total : ℕ) (s : Relay) (next : ℕ)
    (s' : Relay) (h : chunkTurn d maxBodyBytes forwardFraming total s = (.ok (.again next), s')) :
    s'.unread.length < s.unread.length := by
  simp only [chunkTurn, afterSizeLine, bind_ok, onInput_ok, Proc.okOr_ok, ensure_ok] at h
  obtain ⟨line, _, ⟨i, hr, rfl⟩, size, _, ⟨hs, rfl⟩, _, _, ⟨-, rfl⟩, _, s₂, hf, h⟩ := h
  have hlt := readCrlfLine_lt hr
  have hi := forward_input hf
  by_cases hz : size = 0
  · simp only [hz, if_true, bind_ok, pure_ok, reduceCtorEq, false_and, and_false, exists_false] at h
  · simp only [hz, if_false, bind_ok, onInput_ok, ensure_ok, pure_ok] at h
    obtain ⟨_, s₃, hx, term, _, ⟨i₂, hr₂, rfl⟩, _, _, ⟨-, rfl⟩, _, s₄, hf₂, -, rfl⟩ := h
    obtain ⟨bytes, -, hu, -⟩ := relayExactBytes_ok hx
    have hlt₂ := readCrlfLine_lt hr₂
    have hlen := congrArg List.length hu
    unfold Relay.unread at hlen ⊢
    rw [hi, List.length_append] at hlen
    rw [forward_input hf₂]
    simp only at hlen ⊢
    omega

/-- The loop of `relay_chunked_with_framing` from a running total on. -/
def chunkLoop (d : RelayDirection) (maxBodyBytes : ℕ) (forwardFraming : Bool) (total : ℕ) : RelayProc Unit :=
  Proc.loop (fun _ s => s.unread.length) (chunkTurn d maxBodyBytes forwardFraming)
    (chunkTurn_lt d maxBodyBytes forwardFraming) total

/-- Relays a chunked body; without `forwardFraming` only the payload bytes are written. -/
def relayChunkedWithFraming (d : RelayDirection) (maxBodyBytes : ℕ) (forwardFraming : Bool) : RelayProc Unit :=
  Proc.loop (fun _ s => s.unread.length) (chunkTurn d maxBodyBytes forwardFraming)
    (chunkTurn_lt d maxBodyBytes forwardFraming) 0

/-! ## The buffered decoder -/

/-- `decode_chunked_body` from its cursor on: `raw` is what the cursor has not passed.  An end position past `usize::MAX`
is past the end of `raw` too, so the checked addition needs no case of its own. -/
def decodeFrom (decoded raw : Bytes) : Option Bytes :=
  match find raw with
  | none         => none
  | some lineLen =>
    match parseChunkSizeLine (raw.take lineLen) with
    | none      => none
    | some size =>
      let body := raw.drop (lineLen + 2)
      if size = 0 then some decoded
      else if body.length < size then none
      else if _hcr : (body.drop size).take 2 = crlf then decodeFrom (decoded ++ body.take size) (body.drop (size + 2))
      else none
termination_by raw.length
decreasing_by
  have h2 := congrArg List.length _hcr
  simp only [List.length_take, List.length_drop, crlf, List.length_cons, List.length_nil, body] at h2 ⊢
  omega

def decodeChunkedBody (raw : Bytes) : Option Bytes := decodeFrom [] raw

end WayBalancer
