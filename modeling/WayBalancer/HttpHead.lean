import WayBalancer.HttpRoute
import WayBalancer.RelayIo
/-!
# HttpHead — message heads on the wire

`crates/proto-http/src/lib.rs`: a head is read up to its first blank line, parsed, checked and taken off the read buffer,
and a head is written as its start line and its header lines.  The tokenizer is `httparse`'s, a parameter here: what it
returns is a parsed head whose parts are of the characters it lets through, and the number of bytes the head takes, which
is not more than it was given.  Reading keeps the unread bytes: what a head does not take is still there for what follows
it (`readRequestHead_ok`, `readResponseHead_ok`).
-/
namespace WayBalancer

open Str Crlf
open Proc (Turn)

structure Http1Limits where
  maxHeadBytes : UInt64
  maxHeaderCount : UInt64
  maxBodyBytes : UInt64
deriving DecidableEq

inductive SupportedHttpVersion
  | http1
  | http2
deriving DecidableEq, Repr

structure Http1RequestHead where
  method : Text
  target : Text
  version : SupportedHttpVersion
  headers : List HttpHeader
  bodyKind : BodyKind
  keepAlive : Bool
  route : Option RouteMatch
  http10 : Bool
deriving DecidableEq, Repr

structure Http1ResponseHead where
  version : SupportedHttpVersion
  status : UInt16
  reason : Text
  headers : List HttpHeader
  bodyKind : BodyKind
  keepAlive : Bool
deriving DecidableEq, Repr

/-! ## The tokenizer -/

inductive HttparseError
  | headerName
  | headerValue
  | newLine
  | status
  | token
  | tooManyHeaders
  | version
deriving DecidableEq, Repr

def isUriChar (c : Char) : Bool := decide (0x20 < c.toNat) && c.toNat != 0x7f

def isHeaderValueByte (b : UInt8) : Bool := b == 9 || (decide (32 ≤ b.toNat) && b != 127)

/-- A header line as it was tokenized: a token, and a value without control characters but the tab. -/
structure ParsedHeader where
  name : Text
  value : Bytes
  name_token : name.all isHttpTokenChar = true
  value_plain : value.all isHeaderValueByte = true
deriving DecidableEq

/-- `httparse::Request`, complete: the bytes it took and what they hold. -/
structure ParsedRequest where
  consumed : ℕ
  method : Option Text
  path : Option Text
  version : Option UInt8
  headers : List ParsedHeader
  method_token : ∀ m ∈ method, m.all isHttpTokenChar = true
  path_plain : ∀ p ∈ path, p.all isUriChar = true
deriving DecidableEq

structure ParsedResponse where
  consumed : ℕ
  version : Option UInt8
  code : Option UInt16
  reason : Option Text
  headers : List ParsedHeader
deriving DecidableEq

/-- The tokenizer, for a number of header slots; `none` is `Status::Partial`. -/
structure HeadParser where
  request : ℕ → Bytes → Except HttparseError (Option ParsedRequest)
  response : ℕ → Bytes → Except HttparseError (Option ParsedResponse)
  request_consumed : ∀ {slots bytes parsed}, request slots bytes = .ok (some parsed) → parsed.consumed ≤ bytes.length
  response_consumed : ∀ {slots bytes parsed}, response slots bytes = .ok (some parsed) → parsed.consumed ≤ bytes.length

def mapHttparseError : HttparseError → Http1ParseError
  | .tooManyHeaders => .tooManyHeaders
  | _               => .invalid "malformed HTTP/1.1 head"

/-! ## Parsing -/

def hardeningMessage : ProtocolHardeningError → String
  | .ambiguousMessageLength      => "ambiguous content-length and transfer-encoding"
  | .unsupportedTransferEncoding => "unsupported transfer-encoding chain"
  | .missingHost                 => "missing required host header"
  | .multipleHostHeaders         => "multiple host headers are not allowed"

def parseVersion : Option UInt8 → Except Http1ParseError SupportedHttpVersion
  | some 1 => .ok .http1
  | some _ => .error (.invalid "unsupported HTTP version")
  | none   => .error (.invalid "missing HTTP version")

def ownedHeader (header : ParsedHeader) : Except Http1ParseError HttpHeader :=
  match fromUtf8 header.value with
  | none       => .error (.invalid "header value is not valid ASCII/UTF-8")
  | some value => .ok ⟨lower header.name, trim value⟩

def ownedHeaders (headers : List ParsedHeader) : Except Http1ParseError (List HttpHeader) := headers.mapM ownedHeader

def absoluteFormAuthority (target : Text) : Except Http1ParseError (Option Text) :=
  -- an origin-form target may hold `://`, as `?next=https://...` does
  if (lit "/").isPrefixOf target then .ok none
  else match splitOnceStr (lit "://") target with
    | none => .ok none
    | some (scheme, remainder) =>
      if !eqIgnoreCase scheme (lit "http") && !eqIgnoreCase scheme (lit "https") then
        .error (.invalid "unsupported absolute-form request target")
      else
        let authority := (splitAtFirst (fun c => c == '/' || c == '?') remainder).1
        if (canonicalizeHost authority).isOk then .ok (some authority)
        else .error (.invalid "invalid absolute-form request authority")

variable (headers : List HttpHeader)

def replaceHost : Option Text → List HttpHeader
  | none           => headers
  | some authority => headers.map (fun h => if h.name = lit "host" then { h with value := authority } else h)

def detectKeepAlive : SupportedHttpVersion → Bool
  | .http1 => !headerValueContainsToken headers (lit "connection") (lit "close")
  | .http2 => true

def matchRoute (target : Text) (host method : Option Text) (rules : List RoutePrefixRule) : Option RouteMatch :=
  matchRouteRequestWithContext { target, host, method, headers := [], sourceIp := none } rules

/-- The head `read_request_head` makes of a tokenized one. -/
def requestHeadOf (routes : List RoutePrefixRule) (parsed : ParsedRequest) : Except Http1ParseError Http1RequestHead := do
  let method ← parsed.method.elim (.error (.invalid "missing request method")) .ok
  let target ← parsed.path.elim (.error (.invalid "missing request target")) .ok
  let http10 := parsed.version == some 0
  let version ← if http10 then .ok .http1 else parseVersion parsed.version
  let received ← ownedHeaders parsed.headers
  (validateHttp1RequestHardening received).mapError (fun error => .invalid (hardeningMessage error))
  let authority ← absoluteFormAuthority target
  let headers := replaceHost received authority
  let bodyKind ← detectRequestBodyKind headers
  return {
    method, target, version, headers, bodyKind
    keepAlive := !http10 && detectKeepAlive headers version
    route := matchRoute target (extractHostHeader headers) (some method) routes
    http10 }

def responseHasConflictingFraming : Bool :=
  hasHeader headers (lit "transfer-encoding") && hasHeader headers (lit "content-length")

/-- Whether the upstream keeps its connection: HTTP/1.0 must say so, HTTP/1.1 must not say otherwise. -/
def detectResponseKeepAlive (isHttp10 : Bool) (version : SupportedHttpVersion) (headers : List HttpHeader) : Bool :=
  if isHttp10 then
    headerValueContainsToken headers (lit "connection") (lit "keep-alive") &&
      !headerValueContainsToken headers (lit "connection") (lit "close")
  else detectKeepAlive headers version

/-- The head `read_response_head` makes of a tokenized one. -/
def responseHeadOf (requestMethod : Text) (parsed : ParsedResponse) : Except Http1ParseError Http1ResponseHead := do
  let isHttp10 := parsed.version == some 0
  let version ← if isHttp10 then .ok .http1 else parseVersion parsed.version
  let status ← parsed.code.elim (.error (.invalid "missing status code")) .ok
  let headers ← ownedHeaders parsed.headers
  let bodyKind ← detectResponseBodyKind headers status.toNat requestMethod
  return {
    version, status, headers, bodyKind
    keepAlive := detectResponseKeepAlive isHttp10 version headers && bodyKind != .closeDelimited &&
      !responseHasConflictingFraming headers
    reason := parsed.reason.getD [] }

/-! ## Reading -/

def findHeadEnd (buffer : Bytes) : Option ℕ := (findMarker (crlf ++ crlf) buffer).map (· + 4)

def headStage : RelayDirection → String
  | .request  => "request head"
  | .response => "response head"

variable (d : RelayDirection)

/-- What a failed read is to the reader of a head: its stream failed, or the idle timeout around the whole head passed. -/
def headReadError : Http1ProxyError → Http1ProxyError
  | .requestIo source  => parseSideError d (.io source)
  | .responseIo source => parseSideError d (.io source)
  | _                  => .idleTimeout (headStage d)

variable (limits : Http1Limits)

def headTurn (_ : Unit) : Proc Input Http1ProxyError (Turn Unit (Option ℕ)) := do
  let i ← Proc.get
  match findHeadEnd i.buffer with
  | some position => return .done (some position)
  | none => do
    Proc.ensure (i.buffer.length < limits.maxHeadBytes.toNat) (parseSideError d .headTooLarge)
    let got ← (readSome d (min (limits.maxHeadBytes.toNat - i.buffer.length) 1024)).mapError (headReadError d)
    if got.isEmpty then
      if i.buffer.isEmpty then return .done none
      else Proc.fail (parseSideError d .incompleteHead)
    else do
      Proc.update (fun i => { i with buffer := i.buffer ++ got })
      return .again ()

theorem headTurn_ok {d : RelayDirection} {limits : Http1Limits} {u : Unit} {i i' : Input} {t : Turn Unit (Option ℕ)}
    (h : headTurn d limits u i = (.ok t, i')) :
    i'.unread = i.unread ∧ ∀ u', t = .again u' →
      (i'.stream.flatMap ReadEvent.bytes).length < (i.stream.flatMap ReadEvent.bytes).length := by
  simp only [headTurn, Proc.bind_ok, Proc.get_ok] at h
  obtain ⟨_, _, ⟨rfl, rfl⟩, h⟩ := h
  cases hend : findHeadEnd i.buffer with
  | some position =>
    simp only [hend, Proc.pure_ok] at h
    obtain ⟨rfl, rfl⟩ := h
    exact ⟨rfl, fun _ e => by cases e⟩
  | none =>
    simp only [hend, Proc.bind_ok, Proc.ensure_ok, Proc.mapError_ok] at h
    obtain ⟨_, _, ⟨-, rfl⟩, got, i₁, hr, h⟩ := h
    obtain ⟨hb, hs, -⟩ := readSome_ok hr
    have hun : { i₁ with buffer := i₁.buffer ++ got }.unread = i.unread := by
      unfold Input.unread
      rw [hb, hs, List.append_assoc]
    split at h
    · rename_i hgot
      rw [List.isEmpty_iff.1 hgot, List.append_nil] at hun
      split at h
      · obtain ⟨rfl, rfl⟩ := Proc.pure_ok.1 h
        exact ⟨hun, fun _ e => by cases e⟩
      · exact absurd h Proc.fail_ok
    · rename_i hgot
      obtain ⟨_, _, rfl, rfl, rfl⟩ := h
      have hlt := readSome_lt hr (by simpa using hgot)
      exact ⟨hun, fun _ _ => hlt⟩

theorem headTurn_lt (u : Unit) (i : Input) (u' : Unit) (i' : Input) (h : headTurn d limits u i = (.ok (.again u'), i')) :
    (i'.stream.flatMap ReadEvent.bytes).length < (i.stream.flatMap ReadEvent.bytes).length :=
  (headTurn_ok h).2 u' rfl

def fillUntilHeadEnd : Proc Input Http1ProxyError (Option ℕ) :=
  Proc.loop (fun _ i => (i.stream.flatMap ReadEvent.bytes).length) (headTurn d limits) (headTurn_lt d limits) ()

/-- A tokenized head made into a head, and taken off the buffer: what both readers do once a head is there. -/
def takeHead {π α : Type} (parse : Bytes → Except HttparseError (Option π)) (consumed : π → ℕ)
    (headOf : π → Except Http1ParseError α) (headEnd : ℕ) : Proc Input Http1ProxyError α := do
  let i ← Proc.get
  let status ← Proc.ofExcept ((parse (i.buffer.take headEnd)).mapError (fun error => parseSideError d (mapHttparseError error)))
  let parsed ← Proc.okOr status (parseSideError d .incompleteHead)
  let head ← Proc.ofExcept ((headOf parsed).mapError (parseSideError d))
  Proc.update (fun i => { i with buffer := i.buffer.drop (consumed parsed) })
  return head

def readRequestHead (parser : HeadParser) (limits : Http1Limits) (routes : List RoutePrefixRule) :
    Proc Input Http1ProxyError (Option Http1RequestHead) := do
  match ← fillUntilHeadEnd .request limits with
  | none         => return none
  | some headEnd => do
    let head ← takeHead .request (parser.request limits.maxHeaderCount.toNat) ParsedRequest.consumed (requestHeadOf routes) headEnd
    return some head

def readResponseHead (parser : HeadParser) (limits : Http1Limits) (requestMethod : Text) :
    Proc Input Http1ProxyError Http1ResponseHead := do
  let headEnd ← Proc.okOr (← fillUntilHeadEnd .response limits) (.parseResponse .incompleteHead)
  takeHead .response (parser.response limits.maxHeaderCount.toNat) ParsedResponse.consumed (responseHeadOf requestMethod) headEnd

theorem unread_take {i : Input} {n : ℕ} : i.unread = i.buffer.take n ++ { i with buffer := i.buffer.drop n }.unread := by
  unfold Input.unread
  rw [← List.append_assoc, List.take_append_drop]

/-! ## Writing -/

def versionText : SupportedHttpVersion → Text
  | .http1 => lit "HTTP/1.1"
  | .http2 => lit "HTTP/2"

def defaultReason (status : UInt16) : Text :=
  match status.toNat with
  | 200 => lit "OK"
  | 201 => lit "Created"
  | 202 => lit "Accepted"
  | 204 => lit "No Content"
  | 400 => lit "Bad Request"
  | 403 => lit "Forbidden"
  | 404 => lit "Not Found"
  | 413 => lit "Payload Too Large"
  | 500 => lit "Internal Server Error"
  | 502 => lit "Bad Gateway"
  | 504 => lit "Gateway Timeout"
  | _   => []

/-- The bytes `append_headers` adds. -/
def appendHeaders : Bytes :=
  headers.flatMap (fun header => utf8 header.name ++ utf8 (lit ": ") ++ utf8 header.value ++ crlf) ++ crlf

def encodeRequestHead (method target : Text) (version : SupportedHttpVersion) (headers : List HttpHeader) : Bytes :=
  utf8 (method ++ lit " " ++ target ++ lit " " ++ versionText version ++ lit "\r\n") ++ appendHeaders headers

def encodeResponseHead (version : SupportedHttpVersion) (status : UInt16) (reason : Text) (headers : List HttpHeader) : Bytes :=
  utf8 (versionText version ++ lit " " ++ Nat.toDigits 10 status.toNat ++ lit " " ++
    (if reason.isEmpty then defaultReason status else reason) ++ lit "\r\n") ++ appendHeaders headers

end WayBalancer
