import WayBalancer.RelayChunked
/-!
# RelayLines — the lines the chunked relay writes

Whether a size line or a trailer line that goes out can be split further by a recipient that ends lines at a bare LF.  A
size line cannot: its parser refuses CR, LF and NUL.  Nothing looks inside a trailer line, so the lines of the trailer
section go out as they came in, up to the size limit of the section (`trailerLines`).
-/
namespace WayBalancer

open Crlf Word Proc
open Proc (Turn)

variable {w : Writer} {part : Part} {P : Relay → Prop} {d : RelayDirection} {s : Relay}

/-- Whether a write carries a line of the framing that a recipient reads as one. -/
def Part.isLine : Part → Bool
  | .sizeLine | .trailerLine => true
  | .data | .terminator      => false

/-- **Every size line and trailer line written holds no CR, LF or NUL besides its own CRLF.** -/
def LinesClean (w : Writer) : Prop := ∀ x ∈ w.log, x.part.isLine = true → clean x.bytes = true

theorem linesClean_push {bytes : Bytes} (h : LinesClean w) (hb : part.isLine = true → clean bytes = true) :
    LinesClean (w.push part bytes) := by
  intro x hx
  rcases List.mem_append.1 hx with hx | hx
  · exact h x hx
  · rw [List.mem_singleton.1 hx]
    exact hb

/-! ## The trailer lines of a byte string -/

/-- The trailer lines a byte string starts with, the blank one included, as far as the size limit lets them through. -/
def trailerLinesFrom (trailerBytes : ℕ) (bytes : Bytes) : List Bytes :=
  match _h : splitLine bytes with
  | none              => []
  | some (line, rest) =>
    if maxChunkTrailerBytes < satAdd trailerBytes line.length then []
    else if line = crlf then [line]
    else line :: trailerLinesFrom (satAdd trailerBytes line.length) rest
termination_by bytes.length
decreasing_by exact splitLine_lt _h

/-- The trailer lines of the chunked body a byte string starts with. -/
def trailerLines (bytes : Bytes) : List Bytes :=
  match _h : splitLine bytes with
  | none              => []
  | some (line, rest) =>
    match parseChunkSizeLine (bodyOf line) with
    | none      => []
    | some size =>
      if size = 0 then trailerLinesFrom 0 rest
      else if (rest.drop size).take 2 = crlf then trailerLines (rest.drop (size + 2))
      else []
termination_by bytes.length
decreasing_by
  have hlt := splitLine_lt _h
  rw [List.length_drop]
  omega

variable {n : ℕ}

theorem trailerLinesFrom_line {line : Bytes} (h : IsLine line) {rest : Bytes} (hn : satAdd n line.length ≤ maxChunkTrailerBytes) :
    trailerLinesFrom n (line ++ rest) = if line = crlf then [line] else line :: trailerLinesFrom (satAdd n line.length) rest := by
  conv_lhs => unfold trailerLinesFrom
  split
  · rename_i hs
    rw [splitLine_append h] at hs
    cases hs
  · rename_i hs
    rw [splitLine_append h] at hs
    cases hs
    rw [if_neg (by omega)]

theorem trailerLines_last {line : Bytes} (h : IsLine line) (hz : parseChunkSizeLine (bodyOf line) = some 0) {rest : Bytes} :
    trailerLines (line ++ rest) = trailerLinesFrom 0 rest := by
  unfold trailerLines
  split
  · rename_i hs
    rw [splitLine_append h] at hs
    cases hs
  · rename_i hs
    rw [splitLine_append h] at hs
    cases hs
    simp only [hz, if_true]

theorem trailerLines_chunk {line data : Bytes} (h : IsLine line) (hz : parseChunkSizeLine (bodyOf line) = some data.length)
    (hne : data.length ≠ 0) {rest : Bytes} : trailerLines (line ++ (data ++ (crlf ++ rest))) = trailerLines rest := by
  have hd : (data ++ (crlf ++ rest)).drop (data.length + 2) = rest := by
    rw [← List.append_assoc]
    exact List.drop_left' (by simp [crlf])
  conv_lhs => unfold trailerLines
  split
  · rename_i hs
    rw [splitLine_append h] at hs
    cases hs
  · rename_i hs
    rw [splitLine_append h] at hs
    cases hs
    simp only [hz, hne, if_false, List.drop_left, hd]
    exact if_pos rfl

/-! ## Clean trailer lines are enough -/

variable {E : Relay → Prop}

theorem meets_onInput {α : Type} {x : Proc Input Http1ProxyError α} {Q : α → Relay → Prop}
    (hok : ∀ s a i, P s → x s.input = (.ok a, i) → Q a { s with input := i }) (herr : ∀ s i, P s → E { s with input := i }) :
    Meets P (onInput x) Q E := by
  intro s hs
  refine ⟨fun a s' h => ?_, fun e s' h => ?_⟩
  · obtain ⟨i, hx, rfl⟩ := onInput_ok.1 h
    exact hok s a i hs hx
  · have h2 : (onInput x s).2 = s' := by rw [h]
    rw [← h2]
    exact herr s _ hs

variable {R : Writer → Prop}

theorem meets_onInput_writer {α : Type} {x : Proc Input Http1ProxyError α} :
    Meets (fun s => R s.writer) (onInput x) (fun _ s => R s.writer) (fun s => R s.writer) :=
  meets_onInput (fun _ _ _ hs _ => hs) (fun _ _ hs => hs)

theorem meets_readLine {T : Bytes → Prop} : Meets (fun s => R s.writer ∧ T s.unread) (onInput (readCrlfLine d))
      (fun line s => R s.writer ∧ IsLine line ∧ T (line ++ s.unread)) (fun s => R s.writer) := by
  refine meets_onInput ?_ (fun s _ hs => hs.1)
  rintro s line i ⟨hs, ht⟩ hr
  obtain ⟨hl, hu⟩ := readCrlfLine_ok hr
  exact ⟨hs, hl, by rw [Relay.unread, hu] at ht; exact ht⟩

theorem meets_write {bytes : Bytes} {Q : Unit → Relay → Prop} (hok : ∀ s, P s → Q () { s with writer := s.writer.push part bytes })
    (herr : ∀ s n, P s → E { s with writer := s.writer.push part (bytes.take n) }) :
    Meets P (onWriter (writeAll d part bytes)) Q E := by
  intro s hs
  refine ⟨fun a s' h => ?_, fun e s' h => ?_⟩
  · obtain ⟨w, hw, rfl⟩ := onWriter_ok.1 h
    obtain ⟨-, rfl⟩ := writeAll_ok.1 hw
    exact hok s hs
  · unfold onWriter Proc.focus at h
    rcases hw : writeAll d part bytes s.writer with ⟨r, w⟩
    rw [hw] at h
    cases h
    obtain ⟨n, rfl⟩ := writeAll_error hw
    exact herr s n hs

/-- A clean line leaves the log clean, also where the peer stops in the middle of it. -/
theorem meets_forward_line {line : Bytes} (hP : ∀ s, P s → LinesClean s.writer) (hc : ∀ s, P s → clean line = true) :
    Meets P (forward d true part line) (fun _ s => LinesClean s.writer ∧ ∃ w, P { s with writer := w })
      (fun s => LinesClean s.writer) :=
  meets_write (fun s hs => ⟨linesClean_push (hP s hs) (fun _ => hc s hs), s.writer, hs⟩)
    (fun s _ hs => linesClean_push (hP s hs) (fun _ => clean_take (hc s hs)))

section
variable (d : RelayDirection)

theorem exactTurn_linesClean {n : ℕ} :
    Meets (fun s => LinesClean s.writer) (exactTurn d n) (fun _ s => LinesClean s.writer) (fun s => LinesClean s.writer) := by
  have hwri : ∀ bytes, Meets (fun s : Relay => LinesClean s.writer) (onWriter (writeAll d .data bytes))
      (fun _ s => LinesClean s.writer) (fun s => LinesClean s.writer) := fun bytes =>
    meets_write (fun s hs => linesClean_push hs (fun h => by cases h)) (fun s n hs => linesClean_push hs (fun h => by cases h))
  unfold exactTurn
  split
  · exact meets_pure (fun s hs => hs)
  · refine Meets.bind (meets_get (Q := fun _ s => LinesClean s.writer) (fun s hs => hs)) (fun t => ?_)
    split
    · refine Meets.bind meets_onInput_writer (fun got => ?_)
      refine Meets.bind (meets_check (fun s hs => hs)) (fun _ => ?_)
      exact Meets.bind (hwri got) (fun _ => meets_pure (fun s hs => hs))
    · refine Meets.bind (hwri _) (fun _ => ?_)
      exact Meets.bind meets_onInput_writer (fun _ => meets_pure (fun s hs => hs))

theorem relayExactBytes_linesClean {n : ℕ} {u : Bytes} : Meets (fun s => LinesClean s.writer ∧ s.unread = u) (relayExactBytes d n)
      (fun _ s => LinesClean s.writer ∧ ∃ data, data.length = n ∧ u = data ++ s.unread) (fun s => LinesClean s.writer) := by
  have hl : Meets (fun s => LinesClean s.writer) (relayExactBytes d n) (fun _ s => LinesClean s.writer)
      (fun s => LinesClean s.writer) := by
    refine meets_loop (I := fun _ (s : Relay) => LinesClean s.writer) (fun m s hs => ?_) n
    obtain ⟨hok, herr⟩ := exactTurn_linesClean d s hs
    refine ⟨fun t s' h => ?_, herr⟩
    cases t <;> exact hok _ s' h
  rintro s ⟨hs, rfl⟩
  obtain ⟨hok, herr⟩ := hl s hs
  refine ⟨fun a s' h => ⟨hok a s' h, ?_⟩, herr⟩
  obtain ⟨data, hlen, hu, -⟩ := relayExactBytes_ok h
  exact ⟨data, hlen, hu⟩

theorem trailerTurn_linesClean (n : ℕ) :
    Meets (fun s => LinesClean s.writer ∧ ∀ l ∈ trailerLinesFrom n s.unread, clean l = true) (trailerTurn d true n)
      (fun t s => t.Meets (fun n' => LinesClean s.writer ∧ ∀ l ∈ trailerLinesFrom n' s.unread, clean l = true)
        (fun _ => LinesClean s.writer)) (fun s => LinesClean s.writer) := by
  refine Meets.bind (meets_readLine (R := LinesClean) (T := fun u => ∀ l ∈ trailerLinesFrom n u, clean l = true)) (fun line => ?_)
  refine Meets.bind (meets_ensure (Q := fun _ s => LinesClean s.writer ∧ clean line = true ∧ (line ≠ crlf →
    ∀ l ∈ trailerLinesFrom (satAdd n line.length) s.unread, clean l = true)) ?_ (fun s hs => hs.1)) (fun _ => ?_)
  · rintro hle s ⟨hs, hl, ht⟩
    rw [trailerLinesFrom_line hl (of_decide_eq_true hle)] at ht
    split_ifs at ht with hb
    · exact ⟨hs, ht line (by simp), fun hn => absurd hb hn⟩
    · exact ⟨hs, ht line (by simp), fun _ l hm => ht l (List.mem_cons_of_mem _ hm)⟩
  refine Meets.bind (meets_forward_line (fun s hs => hs.1) (fun s hs => hs.2.1)) (fun _ => meets_pure ?_)
  rintro s ⟨hs, w, -, -, hr⟩
  split_ifs with hb
  · exact hs
  · exact ⟨hs, hr hb⟩

theorem chunkTurn_linesClean (maxBodyBytes total : ℕ) :
    Meets (fun s => LinesClean s.writer ∧ ∀ l ∈ trailerLines s.unread, clean l = true) (chunkTurn d maxBodyBytes true total)
      (fun t s => t.Meets (fun _ => LinesClean s.writer ∧ ∀ l ∈ trailerLines s.unread, clean l = true)
        (fun _ => LinesClean s.writer)) (fun s => LinesClean s.writer) := by
  refine Meets.bind (meets_readLine (R := LinesClean) (T := fun u => ∀ l ∈ trailerLines u, clean l = true)) (fun line => ?_)
  refine Meets.bind (meets_okOr (Q := fun size s => LinesClean s.writer ∧ clean line = true ∧ IsLine line ∧
    parseChunkSizeLine (bodyOf line) = some size ∧ ∀ l ∈ trailerLines (line ++ s.unread), clean l = true) ?_
    (fun s hs => hs.1)) (fun size => ?_)
  · rintro size hsi s ⟨hs, hl, ht⟩
    refine ⟨hs, ?_, hl, hsi, ht⟩
    rw [hl.eq_body, clean_line]
    exact parseChunkSizeLine_plain hsi
  refine Meets.bind (meets_check (fun s hs => hs.1)) (fun _ => ?_)
  refine Meets.bind (meets_forward_line (fun s hs => hs.1) (fun s hs => hs.2.1)) (fun _ => ?_)
  unfold afterSizeLine
  split_ifs with hz
  · refine Meets.bind (Q := fun _ s => LinesClean s.writer) ?_ (fun _ => meets_pure (fun s hs => by exact hs))
    rintro s ⟨hs, w, -, -, hl, hsi, ht⟩
    rw [trailerLines_last hl (by rw [hsi, hz])] at ht
    exact meets_loop (I := fun n s => LinesClean s.writer ∧ ∀ l ∈ trailerLinesFrom n s.unread, clean l = true)
      (Q := fun _ s => LinesClean s.writer) (trailerTurn_linesClean d) 0 s ⟨hs, ht⟩
  · rintro s ⟨hs, w, -, -, hl, hsi, ht⟩
    refine Meets.bind (relayExactBytes_linesClean d) (fun _ => ?_) s ⟨hs, rfl⟩
    refine Meets.bind (meets_readLine (R := LinesClean) (T := fun u => ∃ data, data.length = size ∧ s.unread = data ++ u))
      (fun term => ?_)
    refine Meets.bind (meets_ensure (Q := fun _ s' => LinesClean s'.writer ∧
      ∀ l ∈ trailerLines s'.unread, clean l = true) ?_ (fun s' h => h.1)) (fun _ => ?_)
    · rintro hte s' ⟨hs', -, data, rfl, hu⟩
      refine ⟨hs', ?_⟩
      have hu' : s.unread = data ++ (crlf ++ s'.unread) := by rw [hu, of_decide_eq_true hte]
      have ht' : ∀ l ∈ trailerLines (line ++ s.unread), clean l = true := ht
      rw [hu', trailerLines_chunk hl hsi hz] at ht'
      exact ht'
    refine Meets.bind (Q := fun _ s' => LinesClean s'.writer ∧ ∀ l ∈ trailerLines s'.unread, clean l = true)
      (meets_write (fun s' h => ⟨linesClean_push h.1 (fun e => by cases e), h.2⟩)
        (fun s' n h => linesClean_push h.1 (fun e => by cases e))) (fun _ => meets_pure (fun s' h => by exact h))

end

/-- A body whose trailer lines are clean goes out in clean lines, however the run ends. -/
theorem relayChunked_linesClean {maxBodyBytes : ℕ} (hs : LinesClean s.writer) (ht : ∀ l ∈ trailerLines s.unread, clean l = true) :
    LinesClean (relayChunkedWithFraming d maxBodyBytes true s).2.writer := by
  have hl : Meets (fun s => LinesClean s.writer ∧ ∀ l ∈ trailerLines s.unread, clean l = true)
      (relayChunkedWithFraming d maxBodyBytes true) (fun _ s => LinesClean s.writer) (fun s => LinesClean s.writer) :=
    meets_loop (I := fun _ (s : Relay) => LinesClean s.writer ∧ ∀ l ∈ trailerLines s.unread, clean l = true)
      (chunkTurn_linesClean d maxBodyBytes) 0
  exact Meets.final (Q := fun s : Relay => LinesClean s.writer) hl ⟨hs, ht⟩

/-! ## A body that is already in the read buffer -/

variable {es : List ReadEvent}

theorem readCrlfLine_buffered {bytes line rest : Bytes} (h : splitLine bytes = some (line, rest)) :
    readCrlfLine d ⟨es, bytes⟩ = (.ok line, ⟨es, rest⟩) := by
  obtain ⟨p, hp, e⟩ := Option.map_eq_some_iff.1 h
  cases e
  refine loop_done _ _ _ ?_
  unfold lineTurn
  rw [bind_of_ok _ (get_ok.2 ⟨rfl, rfl⟩)]
  simp only [List.drop_zero, hp, Nat.zero_add]
  rfl

theorem relayExactBytes_buffered {bytes : Bytes} (hn : n ≠ 0) (hle : n ≤ bytes.length) (hw : w.fault = none) :
    relayExactBytes d n ⟨⟨es, bytes⟩, w⟩ = (.ok (), ⟨⟨es, bytes.drop n⟩, w.push .data (bytes.take n)⟩) := by
  have hlen : (bytes.take n).length = n := by rw [List.length_take]; omega
  have hne : bytes ≠ [] := List.length_pos_iff.1 (by omega)
  have ht : exactTurn d n ⟨⟨es, bytes⟩, w⟩ = (.ok (.again 0), ⟨⟨es, bytes.drop n⟩, w.push .data (bytes.take n)⟩) :=
    (exactTurn_buffered hn hne).2 ⟨by simp [Writer.takes, hw], by rw [hlen, Nat.sub_self], by rw [hlen]⟩
  refine (loop_again _ _ _ ht).trans (loop_done _ _ _ ?_)
  unfold exactTurn
  rfl

theorem forward_buffered {bytes : Bytes} (hw : s.writer.fault = none) :
    forward d true part bytes s = (.ok (), { s with writer := s.writer.push part bytes }) :=
  forward_true_ok.2 ⟨by simp [Writer.takes, hw], rfl⟩

theorem relayTrailers_keeps {x : Write} :
    Meets (fun s => x ∈ s.writer.log) (relayTrailers d true n) (fun _ s => x ∈ s.writer.log) (fun s => x ∈ s.writer.log) := by
  refine meets_loop (I := fun _ (s : Relay) => x ∈ s.writer.log) (fun n => ?_) n
  refine Meets.bind (meets_onInput_writer (R := fun w => x ∈ w.log)) (fun line => ?_)
  refine Meets.bind (meets_check (fun s hs => hs)) (fun _ => ?_)
  refine Meets.bind (meets_write (Q := fun _ s => x ∈ s.writer.log) (fun s hs => List.mem_append_left _ hs)
    (fun s _ hs => List.mem_append_left _ hs)) (fun _ => meets_pure (fun s hs => ?_))
  split <;> exact hs

theorem trailerTurn_buffered {bytes line rest : Bytes} (h : splitLine bytes = some (line, rest))
    (hn : satAdd n line.length ≤ maxChunkTrailerBytes) (hw : w.fault = none) :
    trailerTurn d true n ⟨⟨[], bytes⟩, w⟩ = (.ok (if line = crlf then .done () else .again (satAdd n line.length)),
      ⟨⟨[], rest⟩, w.push .trailerLine line⟩) := by
  unfold trailerTurn
  rw [bind_of_ok _ (onInput_ok.2 ⟨_, readCrlfLine_buffered h, rfl⟩), bind_of_ok _ (ensure_of_true (decide_eq_true hn)),
    bind_of_ok _ (forward_buffered hw)]
  rfl

theorem relayTrailers_writes (d : RelayDirection) {n : ℕ} {bytes : Bytes} {w : Writer} (hw : w.fault = none) :
    ∀ l ∈ trailerLinesFrom n bytes, ⟨.trailerLine, l⟩ ∈ (relayTrailers d true n ⟨⟨[], bytes⟩, w⟩).2.writer.log := by
  intro l hl
  unfold trailerLinesFrom at hl
  split at hl
  · cases hl
  · rename_i line rest hs
    split at hl
    · cases hl
    · rename_i hle
      have ht := trailerTurn_buffered (d := d) hs (Nat.le_of_not_lt hle) hw
      have hin : (⟨.trailerLine, line⟩ : Write) ∈ (w.push .trailerLine line).log := List.mem_append_right _ (by simp)
      split at hl
      · rename_i hb
        rw [if_pos hb] at ht
        rw [List.mem_singleton.1 hl, relayTrailers, loop_done _ _ _ ht]
        exact hin
      · rename_i hb
        rw [if_neg hb] at ht
        rw [relayTrailers, loop_again _ _ _ ht]
        rcases List.mem_cons.1 hl with rfl | hl
        · exact Meets.final (Q := fun s : Relay => _ ∈ s.writer.log) relayTrailers_keeps hin
        · have hlt := splitLine_lt hs
          exact relayTrailers_writes d (by simp [Writer.push, hw]) l hl
termination_by bytes.length

theorem chunkTurn_buffered (total : ℕ) {size : ℕ} {bytes line rest : Bytes} (hs : splitLine bytes = some (line, rest))
    (hsi : parseChunkSizeLine (bodyOf line) = some size) (hw : w.fault = none) :
    chunkTurn d u64Max true total ⟨⟨[], bytes⟩, w⟩ =
      afterSizeLine d true size (satAdd total size) ⟨⟨[], rest⟩, w.push .sizeLine line⟩ := by
  have hmax : satAdd total size ≤ u64Max := Nat.min_le_right _ _
  unfold chunkTurn
  rw [bind_of_ok _ (onInput_ok.2 ⟨_, readCrlfLine_buffered hs, rfl⟩), bind_of_ok _ (okOr_ok.2 ⟨hsi, rfl⟩),
    bind_of_ok _ (ensure_of_true (decide_eq_true hmax)), bind_of_ok _ (forward_buffered hw)]

theorem afterSizeLine_buffered {total size : ℕ} {rest : Bytes} (hz : size ≠ 0) (hcr : (rest.drop size).take 2 = crlf)
    (hw : w.fault = none) :
    afterSizeLine d true size total ⟨⟨[], rest⟩, w⟩ =
      (.ok (.again total), ⟨⟨[], rest.drop (size + 2)⟩, (w.push .data (rest.take size)).push .terminator crlf⟩) := by
  have hlen : size + 2 ≤ rest.length := by
    have h2 := congrArg List.length hcr
    simp only [List.length_take, List.length_drop, crlf, List.length_cons, List.length_nil] at h2
    omega
  have ht : splitLine (rest.drop size) = some (crlf, rest.drop (size + 2)) := by
    have e : rest.drop size = crlf ++ rest.drop (size + 2) := by
      rw [← List.take_append_drop 2 (rest.drop size), hcr, List.drop_drop]
    rw [e]
    exact splitLine_append isLine_crlf _
  have hw' : (w.push .data (rest.take size)).fault = none := by simp [Writer.push, hw]
  unfold afterSizeLine
  rw [if_neg hz, bind_of_ok _ (relayExactBytes_buffered hz (by omega) hw),
    bind_of_ok _ (onInput_ok.2 ⟨_, readCrlfLine_buffered ht, rfl⟩), bind_of_ok _ (ensure_of_true (decide_eq_true rfl)),
    bind_of_ok _ (forward_buffered hw')]
  rfl

theorem chunkLoop_trailers {maxBodyBytes total next : ℕ} {s₁ : Relay}
    (h : chunkTurn d maxBodyBytes true total s = afterSizeLine d true 0 next s₁) :
    (chunkLoop d maxBodyBytes true total s).2 = (relayTrailers d true 0 s₁).2 := by
  unfold afterSizeLine at h
  rw [if_pos rfl] at h
  unfold chunkLoop
  rcases hr : relayTrailers d true 0 s₁ with ⟨e | u, s'⟩
  · rw [bind_of_error _ hr] at h
    rw [loop_error _ _ _ h]
  · rw [bind_of_ok _ hr] at h
    rw [loop_done _ _ _ h]

/-- With no limit and a peer that takes everything, the trailer lines of a buffered body all go out. -/
theorem relayChunked_writes (d : RelayDirection) (total : ℕ) (bytes : Bytes) (w : Writer) (hw : w.fault = none) :
    ∀ l ∈ trailerLines bytes, ⟨.trailerLine, l⟩ ∈ (chunkLoop d u64Max true total ⟨⟨[], bytes⟩, w⟩).2.writer.log := by
  intro l hl
  unfold trailerLines at hl
  split at hl
  · cases hl
  · rename_i line rest hs
    split at hl
    · cases hl
    · rename_i size hsi
      have ht := chunkTurn_buffered (d := d) total hs hsi hw
      have hw' : (w.push .sizeLine line).fault = none := by simp [Writer.push, hw]
      split at hl
      · rename_i hz
        rw [hz] at ht
        rw [chunkLoop_trailers ht]
        exact relayTrailers_writes d hw' l hl
      · rename_i hz
        split at hl
        · rename_i hcr
          have hlt := splitLine_lt hs
          rw [afterSizeLine_buffered hz hcr hw'] at ht
          rw [chunkLoop, loop_again _ _ _ ht]
          exact relayChunked_writes d _ (rest.drop (size + 2)) _ (by simp [Writer.push, hw]) l hl
        · cases hl
termination_by bytes.length
decreasing_by
  rw [List.length_drop]
  omega

/-- **The lines the chunked relay writes are clean on every run over a byte string exactly when its trailer lines are.**
The size lines always are; nothing looks inside a trailer line. -/
theorem relayedLines_clean_iff (bytes : Bytes) :
    (∀ (d : RelayDirection) (maxBodyBytes : ℕ) (s : Relay), s.unread = bytes → s.writer.log = [] →
      LinesClean (relayChunkedWithFraming d maxBodyBytes true s).2.writer) ↔
    ∀ l ∈ trailerLines bytes, clean l = true := by
  constructor
  · intro h l hl
    have hin := relayChunked_writes .request 0 bytes ⟨[], none⟩ rfl l hl
    have hc := h .request u64Max ⟨⟨[], bytes⟩, ⟨[], none⟩⟩ (by simp [Relay.unread, Input.unread]) rfl
    exact hc _ hin rfl
  · intro h d maxBodyBytes s hu hlog
    exact relayChunked_linesClean (fun x hx => by rw [hlog] at hx; cases hx) (by rw [hu]; exact h)

/-- A last chunk with the trailer `a LF b`: the relay succeeds and passes the trailer line on whole. -/
theorem relayedLines_not_clean :
    let s : Relay := ⟨⟨[.data 48 [13, 10, 97, 10, 98, 13, 10, 13, 10]], []⟩, ⟨[], none⟩⟩
    (relayChunkedWithFraming .request 100 true s).1 = .ok () ∧
      ¬ LinesClean (relayChunkedWithFraming .request 100 true s).2.writer := by
  refine ⟨by decide +kernel, fun h => ?_⟩
  have hin : (⟨.trailerLine, [97, 10, 98, 13, 10]⟩ : Write) ∈ (relayChunkedWithFraming .request 100 true
      ⟨⟨[.data 48 [13, 10, 97, 10, 98, 13, 10, 13, 10]], []⟩, ⟨[], none⟩⟩).2.writer.log := by decide +kernel
  exact absurd (h _ hin rfl) (by decide)

end WayBalancer
