import WayBalancer.HttpHead
import WayBalancer.RelayChunkedSpec
/-!
# RelayBody — a body relayed by its kind

The relays of `crates/runtime/src/http1_proxy/body_relay.rs` beside the chunked one: a body of a declared length, a body that
ends with its connection, and the dispatch over the kind of a body.  A relay that succeeds has taken exactly the body its kind
delimits off the unread bytes (`relayBody_ok`).
-/
namespace WayBalancer

open Crlf Word
open Proc (Turn bind_ok ensure_ok get_ok pure_ok)

variable {d : RelayDirection} {s s' : Relay} {out : Bytes}

/-! ## A declared length -/

/-- A turn of the copy loop of `relay_content_length_collect`, over what remains and what was collected. -/
def copyTurn (d : RelayDirection) (p : ℕ × Bytes) : RelayProc (Turn (ℕ × Bytes) Bytes) :=
  if p.1 = 0 then pure (.done p.2)
  else do
    let got ← onInput (readSome d (min p.1 8192))
    Proc.ensure (!got.isEmpty) (parseSideError d .incompleteHead)
    onWriter (writeAll d .data got)
    return .again (p.1 - got.length, p.2 ++ got)

theorem copyTurn_done {p : ℕ × Bytes} (h : copyTurn d p s = (.ok (.done out), s')) : p.1 = 0 ∧ out = p.2 ∧ s' = s := by
  unfold copyTurn at h
  split_ifs at h with hp
  · rw [pure_ok] at h
    obtain ⟨hout, rfl⟩ := h
    cases hout
    exact ⟨hp, rfl, rfl⟩
  · simp only [bind_ok, pure_ok, reduceCtorEq, false_and, and_false, exists_false] at h

theorem copyTurn_again {p q : ℕ × Bytes} (h : copyTurn d p s = (.ok (.again q), s')) :
    ∃ got, got ≠ [] ∧ got.length ≤ p.1 ∧ q = (p.1 - got.length, p.2 ++ got) ∧ s'.input.buffer = s.input.buffer ∧
      s.input.stream.flatMap ReadEvent.bytes = got ++ s'.input.stream.flatMap ReadEvent.bytes ∧
      s.writer.takes got.length = true ∧ s'.writer = s.writer.push .data got := by
  unfold copyTurn at h
  split_ifs at h with hp
  · rw [pure_ok] at h
    cases h.1
  · simp only [bind_ok, onInput_ok, onWriter_ok, writeAll_ok, ensure_ok, pure_ok, Turn.again.injEq] at h
    obtain ⟨got, _, ⟨i, hr, rfl⟩, _, _, ⟨hgot, rfl⟩, _, _, ⟨w, ⟨htak, rfl⟩, rfl⟩, rfl, rfl⟩ := h
    obtain ⟨hbuf, hstr, hro⟩ := readSome_ok hr
    exact ⟨got, by simpa using hgot, le_trans hro (min_le_left _ _), rfl, hbuf, hstr, htak, rfl⟩

theorem copyTurn_lt (d : RelayDirection) (p : ℕ × Bytes) (s : Relay) (q : ℕ × Bytes) (s' : Relay)
    (h : copyTurn d p s = (.ok (.again q), s')) : q.1 < p.1 := by
  obtain ⟨got, hne, hle, rfl, -⟩ := copyTurn_again h
  have hpos := List.length_pos_iff.2 hne
  exact Nat.sub_lt_of_pos_le hpos hle

/-- What the buffer holds of the body, written first. -/
def relayBuffered (d : RelayDirection) (length : ℕ) : RelayProc Bytes := do
  let s ← Proc.get
  if s.input.buffer.isEmpty then return []
  else do
    onWriter (writeAll d .data (s.input.buffer.take length))
    onInput (Proc.update (fun i => { i with buffer := i.buffer.drop length }))
    return s.input.buffer.take length

def relayContentLengthCollect (d : RelayDirection) (length : ℕ) : RelayProc Bytes := do
  let buffered ← relayBuffered d length
  Proc.loop (fun p _ => p.1) (copyTurn d) (copyTurn_lt d) (length - buffered.length, buffered)

/-- `relay_content_length` is the same but for what it collects. -/
def relayContentLength (d : RelayDirection) (length : ℕ) : RelayProc Unit := do
  let _ ← relayContentLengthCollect d length
  return ()

theorem relayBuffered_ok {length : ℕ} (h : relayBuffered d length s = (.ok out, s')) :
    out.length ≤ length ∧ s.unread = out ++ s'.unread ∧ s'.written = s.written ++ out ∧ (out.length < length → s'.input.buffer = []) ∧
      s'.writer.fault = s.writer.fault.map (fun f => { f with after := f.after - out.length }) ∧ s'.input.stream = s.input.stream := by
  simp only [relayBuffered, bind_ok, get_ok] at h
  obtain ⟨_, _, ⟨rfl, rfl⟩, h⟩ := h
  cases hemp : s.input.buffer.isEmpty with
  | true =>
    rw [hemp, if_pos rfl] at h
    obtain ⟨rfl, rfl⟩ := h
    refine ⟨Nat.zero_le _, rfl, (List.append_nil _).symm, fun _ => List.isEmpty_iff.1 hemp, ?_, rfl⟩
    cases s.writer.fault <;> rfl
  | false =>
    rw [hemp, if_neg (by decide)] at h
    simp only [bind_ok, onInput_ok, onWriter_ok, writeAll_ok, Proc.update_ok, pure_ok] at h
    obtain ⟨_, _, ⟨w, ⟨-, rfl⟩, rfl⟩, _, _, ⟨i, rfl, rfl⟩, rfl, rfl⟩ := h
    refine ⟨?_, ?_, Writer.written_push, fun hlt => ?_, rfl, rfl⟩
    · rw [List.length_take]
      exact min_le_left _ _
    · exact unread_take
    · rw [List.length_take] at hlt
      have hle : s.input.buffer.length ≤ length := by omega
      exact List.drop_eq_nil_of_le hle

/-- **A body of a declared length is copied as it stands, and nothing after it is taken.** -/
theorem relayContentLengthCollect_ok {length : ℕ} (h : relayContentLengthCollect d length s = (.ok out, s')) :
    out.length = length ∧ s.unread = out ++ s'.unread ∧ s'.written = s.written ++ out := by
  obtain ⟨buffered, s₁, hbuf, h⟩ := bind_ok.1 h
  obtain ⟨hle, hun, hwri, hr, -⟩ := relayBuffered_ok hbuf
  -- the buffer is empty from here on, or nothing remains
  have key := Proc.loop_ok _ (copyTurn d) (copyTurn_lt d)
    (P := fun p s out s' => (p.1 ≠ 0 → s.input.buffer = []) → ∃ more, more.length = p.1 ∧ out = p.2 ++ more ∧
      s.unread = more ++ s'.unread ∧ s'.written = s.written ++ more) ?_ ?_ h
  · obtain ⟨more, hlen, rfl, hm, hwro⟩ := key (fun hne => hr (by simpa [Nat.sub_eq_zero_iff_le] using hne))
    refine ⟨?_, ?_, ?_⟩
    · rw [List.length_append, hlen]
      exact Nat.add_sub_cancel' hle
    · rw [hun, hm, List.append_assoc]
    · rw [hwro, hwri, List.append_assoc]
  · intro p s out s' ht _
    obtain ⟨hp, rfl, rfl⟩ := copyTurn_done ht
    exact ⟨[], hp.symm, (List.append_nil _).symm, rfl, (List.append_nil _).symm⟩
  · intro p s q s' out s'' ht ih hemp
    obtain ⟨got, hne, hle, rfl, hb, hstr, -, hw⟩ := copyTurn_again ht
    have hpos := List.length_pos_iff.2 hne
    have hnil : s.input.buffer = [] := hemp (by omega)
    obtain ⟨more, hlen, rfl, hm, hwro⟩ := ih (fun _ => hb.trans hnil)
    refine ⟨got ++ more, ?_, ?_, ?_, ?_⟩
    · rw [List.length_append, hlen]
      exact Nat.add_sub_cancel' hle
    · rw [List.append_assoc]
    · rw [List.append_assoc, ← hm]
      unfold Relay.unread Input.unread
      rw [hb, hnil, List.nil_append, List.nil_append, hstr]
    · rw [hwro]
      unfold Relay.written
      rw [hw, Writer.written_push, List.append_assoc]

/-! ## A body that ends with its connection -/

def lowerHex (n : ℕ) : Bytes := (Nat.toDigits 16 n).map (fun c => c.toNat.toUInt8)

/-- The bytes of the buffer, or where it is empty of the next read, up to 16 KiB. -/
def takePiece (d : RelayDirection) : Proc Input Http1ProxyError Bytes := do
  let i ← Proc.get
  if i.buffer.isEmpty then readSome d (16 * 1024)
  else do
    Proc.update (fun i => { i with buffer := i.buffer.drop (16 * 1024) })
    return i.buffer.take (16 * 1024)

theorem takePiece_ok {i i' : Input} {got : Bytes} (h : takePiece d i = (.ok got, i')) :
    i.unread = got ++ i'.unread ∧ (got = [] → i'.unread = []) ∧ got.length ≤ 16 * 1024 := by
  simp only [takePiece, bind_ok, get_ok] at h
  obtain ⟨_, _, ⟨rfl, rfl⟩, h⟩ := h
  cases hemp : i.buffer.isEmpty with
  | true =>
    rw [hemp, if_pos rfl] at h
    have hnil := List.isEmpty_iff.1 hemp
    obtain ⟨hbuf, hstr, hr⟩ := readSome_ok h
    refine ⟨?_, fun hgot => ?_, hr⟩
    · unfold Input.unread
      rw [hbuf, hnil, hstr]
      rfl
    · subst hgot
      unfold readSome at h
      split at h
      · cases h
        unfold Input.unread
        rename_i hs
        rw [hnil, hs]
        rfl
      · cases h
      · cases h
      · cases h
  | false =>
    rw [hemp, if_neg (by decide)] at h
    obtain ⟨_, _, rfl, rfl, rfl⟩ := h
    refine ⟨unread_take, fun hgot => ?_, List.length_take_le _ _⟩
    rw [List.take_eq_nil_iff] at hgot
    rcases hgot with hgot | hgot
    · cases hgot
    · rw [hgot] at hemp
      cases hemp

/-- A turn of `relay_close_delimited_as_chunked`. -/
def closeDelimitedTurn (d : RelayDirection) (maxBodyBytes total : ℕ) : RelayProc (Turn ℕ Unit) := do
  let got ← onInput (takePiece d)
  if got.isEmpty then do
    onWriter (writeAll d .trailerLine ([48, 13, 10, 13, 10]))
    return .done ()
  else do
    Proc.ensure (satAdd total got.length ≤ maxBodyBytes) (bodyLimitError d)
    onWriter (writeAll d .data (lowerHex got.length ++ crlf ++ got ++ crlf))
    return .again (satAdd total got.length)

theorem closeDelimitedTurn_ok {maxBodyBytes total : ℕ} {t : Turn ℕ Unit} (h : closeDelimitedTurn d maxBodyBytes total s = (.ok t, s')) :
    ∃ got, s.unread = got ++ s'.unread ∧ got.length ≤ 16 * 1024 ∧
      t.Meets (fun _ => got ≠ [] ∧ s'.writer = s.writer.push .data (lowerHex got.length ++ crlf ++ got ++ crlf))
        (fun _ => s.unread = [] ∧ s'.writer = s.writer.push .trailerLine [48, 13, 10, 13, 10]) := by
  simp only [closeDelimitedTurn, bind_ok, onInput_ok] at h
  obtain ⟨got, _, ⟨i, hpie, rfl⟩, h⟩ := h
  obtain ⟨hun, hend, hlen⟩ := takePiece_ok hpie
  refine ⟨got, ?_⟩
  cases hemp : got.isEmpty with
  | true =>
    rw [hemp, if_pos rfl] at h
    simp only [bind_ok, onWriter_ok, writeAll_ok, pure_ok] at h
    obtain ⟨_, _, ⟨w, ⟨-, rfl⟩, rfl⟩, rfl, rfl⟩ := h
    have hnil := List.isEmpty_iff.1 hemp
    refine ⟨hun, hlen, ?_, rfl⟩
    rw [Relay.unread, hun, hend hnil, hnil]
    rfl
  | false =>
    rw [hemp, if_neg (by decide)] at h
    simp only [bind_ok, onWriter_ok, writeAll_ok, ensure_ok, pure_ok] at h
    obtain ⟨_, _, ⟨-, rfl⟩, _, _, ⟨w, ⟨-, rfl⟩, rfl⟩, rfl, rfl⟩ := h
    refine ⟨hun, hlen, ?_, rfl⟩
    rintro rfl
    cases hemp

theorem closeDelimitedTurn_lt (d : RelayDirection) (maxBodyBytes total : ℕ) (s : Relay) (next : ℕ) (s' : Relay)
    (h : closeDelimitedTurn d maxBodyBytes total s = (.ok (.again next), s')) : s'.unread.length < s.unread.length := by
  obtain ⟨got, hun, -, hne, -⟩ := closeDelimitedTurn_ok h
  have hpos : 0 < got.length := List.length_pos_iff.2 hne
  rw [hun, List.length_append]
  omega

def relayCloseDelimitedAsChunked (d : RelayDirection) (maxBodyBytes : ℕ) : RelayProc Unit :=
  Proc.loop (fun _ s => s.unread.length) (closeDelimitedTurn d maxBodyBytes) (closeDelimitedTurn_lt d maxBodyBytes) 0

/-- A turn of the copy loop of `relay_response_body_for_http10`. -/
def copyToEndTurn (d : RelayDirection) (maxBodyBytes total : ℕ) : RelayProc (Turn ℕ Unit) := do
  let got ← onInput (readSome d (16 * 1024))
  if got.isEmpty then return .done ()
  else do
    Proc.ensure (satAdd total got.length ≤ maxBodyBytes) (bodyLimitError d)
    onWriter (writeAll d .data got)
    return .again (satAdd total got.length)

theorem copyToEndTurn_lt (d : RelayDirection) (maxBodyBytes total : ℕ) (s : Relay) (next : ℕ) (s' : Relay)
    (h : copyToEndTurn d maxBodyBytes total s = (.ok (.again next), s')) :
    (s'.input.stream.flatMap ReadEvent.bytes).length < (s.input.stream.flatMap ReadEvent.bytes).length := by
  simp only [copyToEndTurn, bind_ok, onInput_ok] at h
  obtain ⟨got, _, ⟨i, hr, rfl⟩, h⟩ := h
  cases hemp : got.isEmpty with
  | true =>
    rw [hemp, if_pos rfl, pure_ok] at h
    cases h.1
  | false =>
    rw [hemp, if_neg (by decide)] at h
    simp only [bind_ok, onWriter_ok, writeAll_ok, ensure_ok, pure_ok] at h
    obtain ⟨_, _, ⟨-, rfl⟩, _, _, ⟨w, ⟨-, rfl⟩, rfl⟩, -, rfl⟩ := h
    exact readSome_lt hr (by simpa using hemp)

def relayCloseDelimitedForHttp10 (maxBodyBytes : ℕ) : RelayProc Unit := do
  let s ← Proc.get
  Proc.ensure (s.input.buffer.length ≤ maxBodyBytes) (bodyLimitError .response)
  onWriter (writeAll .response .data s.input.buffer)
  onInput (Proc.update (fun i => { i with buffer := [] }))
  Proc.loop (fun _ s => (s.input.stream.flatMap ReadEvent.bytes).length) (copyToEndTurn .response maxBodyBytes)
    (copyToEndTurn_lt .response maxBodyBytes) s.input.buffer.length

/-! ## By the kind of the body -/

def relayBody (d : RelayDirection) (maxBodyBytes : ℕ) : BodyKind → RelayProc Unit
  | .none                 => pure ()
  | .contentLength length => do
    Proc.ensure (length ≤ maxBodyBytes) (bodyLimitError d)
    relayContentLength d length
  | .chunked              => relayChunkedWithFraming d maxBodyBytes true
  | .closeDelimited       => relayCloseDelimitedAsChunked d maxBodyBytes

def relayResponseBodyForHttp10 (maxBodyBytes : ℕ) : BodyKind → RelayProc Unit
  | .chunked        => relayChunkedWithFraming .response maxBodyBytes false
  | .closeDelimited => relayCloseDelimitedForHttp10 maxBodyBytes
  | kind            => relayBody .response maxBodyBytes kind

def intoBuffer (x : RelayProc Unit) : Proc Input Http1ProxyError Bytes := fun i =>
  match x ⟨i, ⟨[], none⟩⟩ with
  | (.ok _, s)    => (.ok s.written, s.input)
  | (.error e, s) => (.error e, s.input)

def collectDecodedBody (d : RelayDirection) (maxBodyBytes : ℕ) (kind : BodyKind) : Proc Input Http1ProxyError Bytes := do
  let raw ← intoBuffer (relayBody d maxBodyBytes kind)
  match kind with
  | .chunked | .closeDelimited => Proc.okOr (decodeChunkedBody raw) (parseSideError d (.invalid "invalid chunked body"))
  | _                          => return raw

end WayBalancer
