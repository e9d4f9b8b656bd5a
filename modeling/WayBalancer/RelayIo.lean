import WayBalancer.Proc
import WayBalancer.Crlf
import WayBalancer.HttpFraming
/-!
# RelayIo — the streams a body is relayed between

`crates/runtime/src/http1_proxy/body_relay.rs` reads a body from one stream, through a read buffer, and writes it to
another.  The reading side is the list of what its reads will meet: a non-empty segment of bytes, an I/O failure, or silence
past the idle timeout; after the last one the stream has ended.  How a byte stream is split into reads is this list, so what
is proved for every list holds for every segmentation.  The writing side is the log of its writes, each with the part of the
message it carries, and the point after which the peer takes no more.
-/
namespace WayBalancer

open Crlf

inductive RelayDirection
  | request
  | response
deriving DecidableEq, Repr

inductive Http1ProxyError
  | parseRequest (source : Http1ParseError)
  | parseResponse (source : Http1ParseError)
  | bodyLimitExceeded (direction : String)
  | idleTimeout (stage : String)
  | requestIo (source : String)
  | responseIo (source : String)
deriving DecidableEq, Repr

def idleError : RelayDirection → Http1ProxyError
  | .request  => .idleTimeout "request body"
  | .response => .idleTimeout "response body"

def bodyLimitError : RelayDirection → Http1ProxyError
  | .request  => .bodyLimitExceeded "request body"
  | .response => .bodyLimitExceeded "response body"

def ioError : RelayDirection → String → Http1ProxyError
  | .request, source  => .requestIo source
  | .response, source => .responseIo source

def parseSideError : RelayDirection → Http1ParseError → Http1ProxyError
  | .request, source  => .parseRequest source
  | .response, source => .parseResponse source

/-! ## Reading -/

inductive ReadEvent
  | data (first : UInt8) (rest : Bytes)
  | failed (source : String)
  | silent
deriving DecidableEq, Repr

def ReadEvent.bytes : ReadEvent → Bytes
  | .data first rest => first :: rest
  | _                => []

/-- A byte string as the next segment of a stream, where it is not empty. -/
def segment (bytes : Bytes) (es : List ReadEvent) : List ReadEvent := match bytes with
  | []            => es
  | first :: rest => .data first rest :: es

/-- The reading side: the stream and the bytes already read off it. -/
structure Input where
  stream : List ReadEvent
  buffer : Bytes
deriving DecidableEq, Repr

/-- The bytes not yet relayed: the read buffer, then the rest of the stream. -/
def Input.unread (i : Input) : Bytes := i.buffer ++ i.stream.flatMap ReadEvent.bytes

/-- `reader.read` into a buffer of `room` bytes, under the idle timeout.  No bytes means the end of the stream. -/
def readSome (d : RelayDirection) (room : ℕ) : Proc Input Http1ProxyError Bytes := fun i =>
  match i.stream with
  | []                       => (.ok [], i)
  | .data first rest :: es   =>
    (.ok ((first :: rest).take room), { i with stream := segment ((first :: rest).drop room) es })
  | .failed source :: es     => (.error (ioError d source), { i with stream := es })
  | .silent :: es            => (.error (idleError d), { i with stream := es })

theorem flatMap_segment (bytes : Bytes) (es : List ReadEvent) :
    (segment bytes es).flatMap ReadEvent.bytes = bytes ++ es.flatMap ReadEvent.bytes := by
  cases bytes <;> simp [segment, ReadEvent.bytes]

variable {d : RelayDirection}

theorem readSome_ok {room : ℕ} {i i' : Input} {got : Bytes} (h : readSome d room i = (.ok got, i')) :
    i'.buffer = i.buffer ∧ i.stream.flatMap ReadEvent.bytes = got ++ i'.stream.flatMap ReadEvent.bytes ∧ got.length ≤ room := by
  unfold readSome at h
  split at h
  · cases h; simp
  · cases h
    rename_i first rest es e
    refine ⟨rfl, ?_, by rw [List.length_take]; omega⟩
    rw [flatMap_segment, ← List.append_assoc, List.take_append_drop, e]
    rfl
  · cases h
  · cases h

theorem readSome_lt {room : ℕ} {i i' : Input} {got : Bytes} (h : readSome d room i = (.ok got, i')) (hgot : got ≠ []) :
    (i'.stream.flatMap ReadEvent.bytes).length < (i.stream.flatMap ReadEvent.bytes).length := by
  obtain ⟨-, hstr, -⟩ := readSome_ok h
  rw [hstr, List.length_append]
  exact Nat.lt_add_of_pos_left (List.length_pos_iff.2 hgot)

/-! ## Writing -/

inductive Part
  | sizeLine
  | data
  | terminator
  | trailerLine
deriving DecidableEq, Repr

structure Write where
  part : Part
  bytes : Bytes
deriving DecidableEq, Repr

/-- A peer that stops taking bytes: how many more it takes, and the failure after them. -/
structure WriteFault where
  after : ℕ
  source : String
deriving DecidableEq, Repr

structure Writer where
  log : List Write
  fault : Option WriteFault
deriving DecidableEq, Repr

def Writer.written (w : Writer) : Bytes := w.log.flatMap Write.bytes

def Writer.takes (w : Writer) (n : ℕ) : Bool := match w.fault with
  | none   => true
  | some f => n ≤ f.after

def Writer.push (w : Writer) (part : Part) (bytes : Bytes) : Writer where
  log := w.log ++ [⟨part, bytes⟩]
  fault := w.fault.map (fun f => { f with after := f.after - bytes.length })

/-- `writer.write_all`: all of the bytes, or those the peer still takes and then its failure. -/
def writeAll (d : RelayDirection) (part : Part) (bytes : Bytes) : Proc Writer Http1ProxyError Unit := fun w =>
  match w.fault with
  | none   => (.ok (), w.push part bytes)
  | some f =>
    if bytes.length ≤ f.after then (.ok (), w.push part bytes)
    else (.error (ioError d f.source), w.push part (bytes.take f.after))

theorem Writer.written_push {w : Writer} {part : Part} {bytes : Bytes} : (w.push part bytes).written = w.written ++ bytes := by
  simp [Writer.written, Writer.push]

variable {part : Part} {w : Writer}

theorem Writer.takes_push {bytes : Bytes} (n : ℕ) (h : w.takes bytes.length = true) :
    (w.push part bytes).takes n = w.takes (bytes.length + n) := by
  unfold Writer.takes Writer.push at *
  cases hf : w.fault with
  | none => rfl
  | some f =>
    simp only [hf, Option.map_some, decide_eq_true_eq] at h ⊢
    rw [decide_eq_decide]
    omega

variable {w' : Writer}

theorem writeAll_ok {bytes : Bytes} {u : Unit} :
    writeAll d part bytes w = (.ok u, w') ↔ w.takes bytes.length = true ∧ w.push part bytes = w' := by
  unfold writeAll Writer.takes
  cases w.fault with
  | none => simp
  | some f => by_cases hl : bytes.length ≤ f.after <;> simp [hl]

theorem writeAll_error {bytes : Bytes} {e : Http1ProxyError} (h : writeAll d part bytes w = (.error e, w')) :
    ∃ n, w' = w.push part (bytes.take n) := by
  unfold writeAll at h
  split at h
  · cases h
  · split at h
    · cases h
    · cases h
      exact ⟨_, rfl⟩

/-- The peer of `w'` takes whatever the peer of `w` does. -/
def Writer.Roomier (w w' : Writer) : Prop := ∀ n, w.takes n = true → w'.takes n = true

theorem Writer.takes_of_le {n k : ℕ} (hnk : n ≤ k) (h : w.takes k = true) : w.takes n = true := by
  unfold Writer.takes at *
  cases hf : w.fault with
  | none => rfl
  | some f =>
    simp only [hf, decide_eq_true_eq] at h ⊢
    omega

theorem Writer.Roomier.push {w w' : Writer} {p p' : Part} {bytes : Bytes} (h : w.Roomier w')
    (ht : w.takes bytes.length = true) : (w.push p bytes).Roomier (w'.push p' bytes) := fun n hn => by
  rw [Writer.takes_push n ht] at hn
  rw [Writer.takes_push n (h _ ht)]
  exact h _ hn

theorem Writer.Roomier.push_left {p : Part} {bytes : Bytes} (h : w.Roomier w') (ht : w.takes bytes.length = true) :
    (w.push p bytes).Roomier w' := fun n hn => by
  rw [Writer.takes_push n ht] at hn
  exact h n (Writer.takes_of_le (by omega) hn)

/-! ## Both sides -/

structure Relay where
  input : Input
  writer : Writer
deriving DecidableEq, Repr

abbrev RelayProc (α : Type) := Proc Relay Http1ProxyError α

def onInput {α : Type} (x : Proc Input Http1ProxyError α) : RelayProc α :=
  x.focus Relay.input (fun i s => { s with input := i })

def onWriter {α : Type} (x : Proc Writer Http1ProxyError α) : RelayProc α :=
  x.focus Relay.writer (fun w s => { s with writer := w })

theorem onInput_ok {α : Type} {x : Proc Input Http1ProxyError α} {s s' : Relay} {a : α} :
    onInput x s = (.ok a, s') ↔ ∃ i, x s.input = (.ok a, i) ∧ { s with input := i } = s' := Proc.focus_ok

theorem onWriter_ok {α : Type} {x : Proc Writer Http1ProxyError α} {s s' : Relay} {a : α} :
    onWriter x s = (.ok a, s') ↔ ∃ w, x s.writer = (.ok a, w) ∧ { s with writer := w } = s' := Proc.focus_ok

def Relay.unread (s : Relay) : Bytes := s.input.unread

def Relay.written (s : Relay) : Bytes := s.writer.written

end WayBalancer
