import WayBalancer.RelayChunked
/-!
# RelayChunkedSpec — what the chunked relay passes on

The chunked bodies themselves: chunks of a size line, that many bytes and a CRLF, a last size line of zero, trailer lines
and a blank line.  A byte string starts with at most one of them (`encode_append_inj`), and the decoder reads its payload
back (`decode_encode`).  A relay that succeeds has taken exactly one off the front of its unread bytes, whatever the reads;
it wrote that body, or its payload where framing is not forwarded.
-/
namespace WayBalancer

open Crlf Word
open List (append_assoc flatMap_cons flatMap_nil flatten_cons nil_append)
open Proc (Turn bind_ok ensure_ok loop_ok okOr_ok pure_ok)

variable {x y : Bytes} {d : RelayDirection} {s s' : Relay} {u : Unit}

structure Chunk where
  line : Bytes
  data : Bytes
  isLine : IsLine line
  size : parseChunkSizeLine (bodyOf line) = some data.length
  nonempty : data ≠ []

/-- A chunked body: chunks, a zero size line, and trailer lines up to the blank one. -/
structure ChunkedBody where
  chunks : List Chunk
  last : Bytes
  trailers : List Bytes
  last_isLine : IsLine last
  last_size : parseChunkSizeLine (bodyOf last) = some 0
  trailers_lines : ∀ t ∈ trailers, IsLine t ∧ t ≠ crlf

variable (c : Chunk)

def Chunk.encode : Bytes := c.line ++ (c.data ++ crlf)

variable (b : ChunkedBody)

def ChunkedBody.trailerSection : Bytes := b.trailers.flatten ++ crlf

def ChunkedBody.encode (b : ChunkedBody) : Bytes := b.chunks.flatMap Chunk.encode ++ (b.last ++ b.trailerSection)

def ChunkedBody.payload : Bytes := b.chunks.flatMap Chunk.data

/-- A body with one chunk more at its front. -/
def ChunkedBody.cons (c : Chunk) (b : ChunkedBody) : ChunkedBody := { b with chunks := c :: b.chunks }

theorem ChunkedBody.encode_cons : (b.cons c).encode = c.encode ++ b.encode := by
  simp [ChunkedBody.encode, ChunkedBody.cons, ChunkedBody.trailerSection]

theorem ChunkedBody.payload_cons : (b.cons c).payload = c.data ++ b.payload := rfl

/-! ## One reading only -/

theorem trailers_append_inj : ∀ {a b : List Bytes} {x y : Bytes}, (∀ t ∈ a, IsLine t ∧ t ≠ crlf) →
    (∀ t ∈ b, IsLine t ∧ t ≠ crlf) → a.flatten ++ crlf ++ x = b.flatten ++ crlf ++ y → a = b ∧ x = y
  | [], [], x, y, _, _, h => by
    exact ⟨rfl, List.append_cancel_left h⟩
  | [], t :: b, x, y, _, hb, h => by
    obtain ⟨ht, hne⟩ := hb t (by simp)
    simp only [List.flatten_nil, nil_append, flatten_cons, append_assoc] at h
    exact absurd (isLine_append_inj isLine_crlf ht h).1.symm hne
  | t :: a, [], x, y, ha, _, h => by
    obtain ⟨ht, hne⟩ := ha t (by simp)
    simp only [List.flatten_nil, nil_append, flatten_cons, append_assoc] at h
    exact absurd (isLine_append_inj ht isLine_crlf h).1 hne
  | t :: a, t' :: b, x, y, ha, hb, h => by
    simp only [flatten_cons, append_assoc] at h
    obtain ⟨rfl, h'⟩ := isLine_append_inj (ha t (by simp)).1 (hb t' (by simp)).1 h
    have ha' : ∀ u ∈ a, IsLine u ∧ u ≠ crlf := fun u hu => ha u (List.mem_cons_of_mem _ hu)
    have hb' : ∀ u ∈ b, IsLine u ∧ u ≠ crlf := fun u hu => hb u (List.mem_cons_of_mem _ hu)
    obtain ⟨rfl, hxy⟩ := trailers_append_inj ha' hb' (by simpa only [append_assoc] using h')
    exact ⟨rfl, hxy⟩

theorem Chunk.ext_parts {a b : Chunk} (hl : a.line = b.line) (hd : a.data = b.data) : a = b := by
  cases a; cases b; simp only at hl hd; subst hl hd; rfl

theorem chunk_append_inj {a b : Chunk} (h : a.encode ++ x = b.encode ++ y) : a = b ∧ x = y := by
  simp only [Chunk.encode, append_assoc] at h
  obtain ⟨hl, h'⟩ := isLine_append_inj a.isLine b.isLine h
  have hs : a.data.length = b.data.length := by
    have e := a.size
    rw [hl, b.size] at e
    exact (Option.some.inj e).symm
  obtain ⟨hd, h''⟩ := List.append_inj h' hs
  exact ⟨Chunk.ext_parts hl hd, List.append_cancel_left h''⟩

theorem chunk_ne_last {c : Chunk} {last : Bytes} (hl : IsLine last) (hz : parseChunkSizeLine (bodyOf last) = some 0)
    (h : c.encode ++ x = last ++ y) : False := by
  simp only [Chunk.encode, append_assoc] at h
  obtain ⟨rfl, -⟩ := isLine_append_inj c.isLine hl h
  have hsz := c.size
  rw [hz] at hsz
  exact c.nonempty (List.length_eq_zero_iff.1 (Option.some.inj hsz).symm)

/-- **A byte string starts with at most one chunked body.** -/
theorem encode_append_inj {a b : ChunkedBody} (h : a.encode ++ x = b.encode ++ y) : a = b ∧ x = y := by
  obtain ⟨cs, last, ts, hl, hz, hts⟩ := a
  obtain ⟨cs', last', ts', hl', hz', hts'⟩ := b
  simp only [ChunkedBody.encode, ChunkedBody.trailerSection, append_assoc] at h
  induction cs generalizing cs' with
  | nil =>
    cases cs' with
    | nil =>
      obtain ⟨rfl, h'⟩ := isLine_append_inj hl hl' h
      obtain ⟨rfl, hxy⟩ := trailers_append_inj hts hts' (by simpa only [append_assoc] using h')
      exact ⟨rfl, hxy⟩
    | cons c cs' =>
      simp only [flatMap_nil, nil_append, flatMap_cons, append_assoc] at h
      exact (chunk_ne_last hl hz h.symm).elim
  | cons c cs ih =>
    cases cs' with
    | nil =>
      simp only [flatMap_nil, nil_append, flatMap_cons, append_assoc] at h
      exact (chunk_ne_last hl' hz' h).elim
    | cons c' cs' =>
      simp only [flatMap_cons, append_assoc] at h
      obtain ⟨rfl, h'⟩ := chunk_append_inj h
      obtain ⟨e, hxy⟩ := ih cs' h'
      cases e
      exact ⟨rfl, hxy⟩

/-! ## The decoder reads the payload -/

theorem decodeFrom_chunk (acc rest : Bytes) : decodeFrom acc (c.encode ++ rest) = decodeFrom (acc ++ c.data) rest := by
  conv_lhs => unfold decodeFrom
  have e : c.encode ++ rest = c.line ++ (c.data ++ (crlf ++ rest)) := by simp [Chunk.encode]
  have hd : (c.data ++ (crlf ++ rest)).drop (c.data.length + 2) = rest := by
    rw [← append_assoc]
    exact List.drop_left' (by simp [crlf])
  rw [e, c.isLine.find_append]
  simp only [c.isLine.take_body, c.size, c.isLine.drop_line, List.length_append, List.drop_left, List.take_left, hd]
  rw [if_neg (fun h => c.nonempty (List.length_eq_zero_iff.1 h)), if_neg (by omega),
    dif_pos (show (crlf ++ rest).take 2 = crlf from rfl)]

theorem decodeFrom_last {last : Bytes} (hl : IsLine last) (hz : parseChunkSizeLine (bodyOf last) = some 0)
    (acc rest : Bytes) : decodeFrom acc (last ++ rest) = some acc := by
  unfold decodeFrom
  rw [hl.find_append]
  simp only [hl.take_body, hz, if_true]

theorem decodeFrom_body (acc rest : Bytes) : decodeFrom acc (b.encode ++ rest) = some (acc ++ b.payload) := by
  obtain ⟨cs, last, ts, hl, hz, hts⟩ := b
  simp only [ChunkedBody.encode, ChunkedBody.payload, ChunkedBody.trailerSection, append_assoc]
  induction cs generalizing acc with
  | nil =>
    simp only [flatMap_nil, nil_append, List.append_nil]
    exact decodeFrom_last hl hz acc _
  | cons c cs ih =>
    simp only [flatMap_cons, append_assoc]
    rw [decodeFrom_chunk, ih, append_assoc]

/-- **The decoder returns the payload of the body its input starts with.** -/
theorem decode_encode (rest : Bytes) : decodeChunkedBody (b.encode ++ rest) = some b.payload :=
  decodeFrom_body b [] rest

/-! ## What a successful relay took and wrote -/

/-- Between the two states a trailer section was taken and written; without framing the same one is taken. -/
def TookTrailers (d : RelayDirection) (n : ℕ) (s s' : Relay) : Prop :=
  ∃ ts : List Bytes, (∀ t ∈ ts, IsLine t ∧ t ≠ crlf) ∧ s.unread = ts.flatten ++ crlf ++ s'.unread ∧
    s'.written = s.written ++ (ts.flatten ++ crlf) ∧
    ∀ w : Writer, relayTrailers d false n ⟨s.input, w⟩ = (.ok (), ⟨s'.input, w⟩)

theorem relayTrailers_ok {n : ℕ} (h : relayTrailers d true n s = (.ok u, s')) : TookTrailers d n s s' := by
  refine loop_ok _ (trailerTurn d true) (trailerTurn_lt d true) (P := fun n s _ s' => TookTrailers d n s s') ?_ ?_ h
  · intro n s _ s' ht
    obtain ⟨line, i, hr, -, rfl, htu, hfr⟩ := trailerTurn_ok ht
    have hb : line = crlf := by
      by_contra hb
      rw [if_neg hb] at htu
      cases htu
    subst hb
    refine ⟨[], by simp, (readCrlfLine_ok hr).2, ?_, fun w => Proc.loop_done _ _ _ (hfr w)⟩
    exact Writer.written_push
  · intro n s next s' _ s'' ht ih
    obtain ⟨line, i, hr, -, rfl, htu, hfr⟩ := trailerTurn_ok ht
    have hb : line ≠ crlf := by
      rintro rfl
      cases htu
    obtain ⟨hl, hu⟩ := readCrlfLine_ok hr
    obtain ⟨ts, hts, hu', hw', hrun⟩ := ih
    refine ⟨line :: ts, ?_, ?_, ?_, fun w => ?_⟩
    · rintro t (_ | ⟨_, ht⟩)
      · exact ⟨hl, hb⟩
      · exact hts t ht
    · rw [Relay.unread, hu, flatten_cons, append_assoc, append_assoc, ← append_assoc ts.flatten]
      exact congrArg (line ++ ·) hu'
    · rw [hw', flatten_cons, append_assoc line, ← append_assoc s.written]
      exact congrArg (· ++ _) Writer.written_push
    · exact (Proc.loop_again _ _ _ (hfr w)).trans (hrun w)

theorem chunkTurn_done {maxBodyBytes total : ℕ} (h : chunkTurn d maxBodyBytes true total s = (.ok (.done u), s')) :
    ∃ b : ChunkedBody, b.chunks = [] ∧ s.unread = b.encode ++ s'.unread ∧ s'.written = s.written ++ b.encode ∧
      ∀ w : Writer, chunkTurn d maxBodyBytes false total ⟨s.input, w⟩ = (.ok (.done ()), ⟨s'.input, w⟩) := by
  simp only [chunkTurn, afterSizeLine, bind_ok, onInput_ok, okOr_ok, ensure_ok, forward_true_ok] at h
  obtain ⟨line, _, ⟨i, hr, rfl⟩, size, _, ⟨hs, rfl⟩, _, _, ⟨hmax, rfl⟩, _, _, ⟨htk, rfl⟩, h⟩ := h
  obtain ⟨hl, hu⟩ := readCrlfLine_ok hr
  by_cases hz : size = 0
  · subst hz
    simp only [if_true, bind_ok, pure_ok] at h
    obtain ⟨_, s₂, ht, -, rfl⟩ := h
    obtain ⟨ts, hts, hu', hw', hfr⟩ := relayTrailers_ok ht
    refine ⟨⟨[], line, ts, hl, hs, hts⟩, rfl, ?_, ?_, fun w => ?_⟩
    · show s.input.unread = line ++ (ts.flatten ++ crlf) ++ s₂.unread
      rw [hu, append_assoc, ← hu']
      rfl
    · show s₂.written = s.written ++ (line ++ (ts.flatten ++ crlf))
      rw [hw', ← append_assoc s.written]
      exact congrArg (· ++ _) Writer.written_push
    · simp only [chunkTurn, afterSizeLine, bind_ok, onInput_ok, okOr_ok, ensure_ok]
      refine ⟨line, _, ⟨i, hr, rfl⟩, 0, _, ⟨hs, rfl⟩, (), _, ⟨hmax, rfl⟩, (), _, rfl, ?_⟩
      simp only [if_true, bind_ok, pure_ok]
      exact ⟨(), _, hfr w, trivial, rfl⟩
  · simp only [hz, if_false, bind_ok, pure_ok, reduceCtorEq, false_and, and_false, exists_false] at h

theorem chunkTurn_again {maxBodyBytes total next : ℕ} (h : chunkTurn d maxBodyBytes true total s = (.ok (.again next), s')) :
    ∃ c : Chunk, s.unread = c.encode ++ s'.unread ∧ s'.written = s.written ++ c.encode ∧
      ∀ w : Writer, s.writer.Roomier w → ∃ w' : Writer,
        chunkTurn d maxBodyBytes false total ⟨s.input, w⟩ = (.ok (.again next), ⟨s'.input, w'⟩) ∧
          w'.written = w.written ++ c.data ∧ s'.writer.Roomier w' := by
  simp only [chunkTurn, afterSizeLine, bind_ok, onInput_ok, okOr_ok, ensure_ok, forward_true_ok] at h
  obtain ⟨line, _, ⟨i, hr, rfl⟩, size, _, ⟨hs, rfl⟩, _, _, ⟨hmax, rfl⟩, _, _, ⟨htk, rfl⟩, h⟩ := h
  obtain ⟨hl, hu⟩ := readCrlfLine_ok hr
  by_cases hz : size = 0
  · simp only [hz, if_true, bind_ok, pure_ok, reduceCtorEq, false_and, and_false, exists_false] at h
  · simp only [hz, if_false, bind_ok, onInput_ok, ensure_ok, forward_true_ok, pure_ok, decide_eq_true_eq, Turn.again.injEq] at h
    obtain ⟨_, s₂, hx, term, _, ⟨i₂, hr₂, rfl⟩, _, _, ⟨rfl, rfl⟩, _, _, ⟨htk₂, rfl⟩, rfl, rfl⟩ := h
    obtain ⟨data, hlen, hud, hwd, hfr⟩ := relayExactBytes_ok hx
    have hne : data ≠ [] := by
      rintro rfl
      exact hz hlen.symm
    refine ⟨⟨line, data, hl, by rw [hlen]; exact hs, hne⟩, ?_, ?_, fun w hw => ?_⟩
    · show s.input.unread = line ++ (data ++ crlf) ++ i₂.unread
      have hux : i.unread = data ++ s₂.input.unread := hud
      rw [hu, hux, (readCrlfLine_ok hr₂).2]
      simp only [append_assoc]
    · show (s₂.writer.push .terminator crlf).written = s.written ++ (line ++ (data ++ crlf))
      have hwx : s₂.writer.written = s.writer.written ++ line ++ data := by
        rw [← Writer.written_push]
        exact hwd
      rw [Writer.written_push, hwx]
      simp only [Relay.written, append_assoc]
    · obtain ⟨w', hrun, hw', hro⟩ := hfr w (hw.push_left htk)
      refine ⟨w', ?_, hw', hro.push_left htk₂⟩
      simp only [chunkTurn, afterSizeLine, bind_ok, onInput_ok, okOr_ok, ensure_ok]
      refine ⟨line, _, ⟨i, hr, rfl⟩, size, _, ⟨hs, rfl⟩, (), _, ⟨hmax, rfl⟩, (), _, rfl, ?_⟩
      simp only [hz, if_false, bind_ok, onInput_ok, ensure_ok, pure_ok, decide_eq_true_eq]
      exact ⟨(), _, hrun, crlf, _, ⟨i₂, hr₂, rfl⟩, (), _, ⟨rfl, rfl⟩, (), _, rfl, trivial, rfl⟩

/-- Between the two states one chunked body was taken off the unread bytes and written as it stands; without framing the same
one is taken, and its payload written. -/
def TookBody (d : RelayDirection) (maxBodyBytes total : ℕ) (s s' : Relay) : Prop :=
  ∃ b : ChunkedBody, s.unread = b.encode ++ s'.unread ∧ s'.written = s.written ++ b.encode ∧
    ∀ w : Writer, s.writer.Roomier w → ∃ w' : Writer,
      chunkLoop d maxBodyBytes false total ⟨s.input, w⟩ = (.ok (), ⟨s'.input, w'⟩) ∧ w'.written = w.written ++ b.payload

theorem chunkLoop_ok {maxBodyBytes total : ℕ} (h : chunkLoop d maxBodyBytes true total s = (.ok u, s')) :
    TookBody d maxBodyBytes total s s' := by
  refine loop_ok _ (chunkTurn d maxBodyBytes true) (chunkTurn_lt d maxBodyBytes true)
    (P := fun total s _ s' => TookBody d maxBodyBytes total s s') ?_ ?_ h
  · intro total s _ s' ht
    obtain ⟨b, hnil, hu, hw, hfr⟩ := chunkTurn_done ht
    refine ⟨b, hu, hw, fun w _ => ⟨w, Proc.loop_done _ _ _ (hfr w), ?_⟩⟩
    simp [ChunkedBody.payload, hnil]
  · intro total s next s' _ s'' ht ih
    obtain ⟨c, hu, hw, hfr⟩ := chunkTurn_again ht
    obtain ⟨b, hu', hw', hrun⟩ := ih
    refine ⟨b.cons c, ?_, ?_, fun w hr => ?_⟩
    · rw [hu, hu', ChunkedBody.encode_cons, append_assoc]
    · rw [hw', hw, ChunkedBody.encode_cons, append_assoc]
    · obtain ⟨w₁, ht₁, hw₁, hr₁⟩ := hfr w hr
      obtain ⟨w₂, hr₂, hw₂⟩ := hrun w₁ hr₁
      refine ⟨w₂, (Proc.loop_again _ _ _ ht₁).trans hr₂, ?_⟩
      rw [hw₂, hw₁, ChunkedBody.payload_cons, append_assoc]

/-- **The chunked relay keeps the payload and the message boundary.**  A run that succeeds with framing forwarded has
taken the one chunked body its unread bytes start with and left what follows it; what it wrote decodes to the body's
payload, and the same run without framing writes that payload. -/
theorem relayChunked_payload (d : RelayDirection) (maxBodyBytes : ℕ) (s s' : Relay)
    (h : relayChunkedWithFraming d maxBodyBytes true s = (.ok (), s')) :
    ∃ b : ChunkedBody, s.unread = b.encode ++ s'.unread ∧
      (∀ (b' : ChunkedBody) (rest : Bytes), s.unread = b'.encode ++ rest → b' = b ∧ rest = s'.unread) ∧
      (∃ out, s'.written = s.written ++ out ∧ decodeChunkedBody out = some b.payload) ∧
      ∃ s'', relayChunkedWithFraming d maxBodyBytes false s = (.ok (), s'') ∧ s''.written = s.written ++ b.payload ∧
        s''.unread = s'.unread := by
  obtain ⟨b, hu, hw, hfr⟩ := chunkLoop_ok h
  obtain ⟨w', hrun, hw'⟩ := hfr s.writer (fun _ hn => hn)
  refine ⟨b, hu, fun b' rest hb => ?_, ⟨b.encode, hw, ?_⟩, ⟨s'.input, w'⟩, hrun, hw', rfl⟩
  · exact encode_append_inj (hb.symm.trans hu)
  · have hd := decode_encode b []
    rwa [List.append_nil] at hd

/-- A one-byte chunk, the last chunk and a byte of the next message, in two reads after a buffered byte. -/
theorem relayChunked_payload_split :
    ∃ b : ChunkedBody, [49, 13, 10, 97, 13, 10, 48, 13, 10, 13, 10, 90] = b.encode ++ [90] ∧ b.payload = [97] := by
  obtain ⟨b, hu, -, ⟨out, hout, hd⟩, -⟩ := relayChunked_payload .response 100
    ⟨⟨[.data 13 [10, 97, 13], .data 10 [48, 13, 10, 13, 10, 90]], [49]⟩, ⟨[], none⟩⟩
    ⟨⟨[], [90]⟩, ⟨[⟨.sizeLine, [49, 13, 10]⟩, ⟨.data, [97]⟩, ⟨.terminator, [13, 10]⟩, ⟨.sizeLine, [48, 13, 10]⟩,
      ⟨.trailerLine, [13, 10]⟩], none⟩⟩ (by decide +kernel)
  have hdec : decodeChunkedBody [49, 13, 10, 97, 13, 10, 48, 13, 10, 13, 10] = some [97] := by decide +kernel
  have hb : decodeChunkedBody [49, 13, 10, 97, 13, 10, 48, 13, 10, 13, 10] = some b.payload := by
    rw [← hd]
    exact congrArg decodeChunkedBody hout
  exact ⟨b, hu, Option.some.inj (hb.symm.trans hdec)⟩

end WayBalancer
