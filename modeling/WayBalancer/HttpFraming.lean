import WayBalancer.HttpHeaders
import WayBalancer.IpAddr
/-!
# HttpFraming — where an HTTP/1.1 message ends, and the headers it is forwarded with

`crates/proto-http/src/lib.rs`: the body kind read off a header list, the hardening a request must pass, and the header
lists a request and a response are forwarded with.  A forwarded list is the received one less the hop-by-hop names, less
every name its `Connection` lines nominate, and less the framing lines the body kind does not use.
-/
namespace WayBalancer

open Str

inductive BodyKind
  | none
  | contentLength (length : Nat)
  | chunked
  | closeDelimited
deriving DecidableEq, Repr

def BodyKind.isChunked : BodyKind → Bool
  | .chunked => true
  | _        => false

def BodyKind.isContentLength : BodyKind → Bool
  | .contentLength _ => true
  | _                => false

theorem BodyKind.eq_chunked : ∀ {k : BodyKind}, k.isChunked = true → k = .chunked
  | .chunked, _ => rfl

theorem BodyKind.eq_contentLength : ∀ {k : BodyKind}, k.isContentLength = true → ∃ n, k = .contentLength n
  | .contentLength n, _ => ⟨n, rfl⟩

inductive Http1ParseError
  | io (source : String)
  | incompleteHead
  | headTooLarge
  | tooManyHeaders
  | invalid (message : String)
deriving DecidableEq, Repr

inductive ProtocolHardeningError
  | ambiguousMessageLength
  | unsupportedTransferEncoding
  | missingHost
  | multipleHostHeaders
deriving DecidableEq, Repr

/-! ## Detection -/

variable (hs : List HttpHeader)

def contentLengths : List Text := (linesOf hs (lit "content-length")).map (·.value)

/-- The kind the `Content-Length` values name: all equal once trimmed, bare digits, and zero for no body. -/
def contentLengthKind : List Text → Except Http1ParseError BodyKind
  | [] => .ok .none
  | value :: rest =>
    let first := trim value
    if rest.any (fun candidate => trim candidate != first) then .error (.invalid "conflicting content-length headers")
    -- `u64::from_str` would take a leading `+`, which other parsers reject
    else if first.isEmpty || !first.all Char.isDigit then .error (.invalid "invalid content-length header")
    else match parseU64 first with
      | Option.none => .error (.invalid "invalid content-length header")
      | some length => .ok (if length = 0 then .none else .contentLength length)

def detectBodyKind : Except Http1ParseError BodyKind :=
  if headerValueContainsToken hs (lit "transfer-encoding") (lit "chunked") then .ok .chunked
  else contentLengthKind (contentLengths hs)

def detectRequestBodyKind : Except Http1ParseError BodyKind := detectBodyKind hs

/-- `HEAD`, and the statuses that never carry a body. -/
def bodyForbidden (status : Nat) (requestMethod : Text) : Bool :=
  eqIgnoreCase requestMethod (lit "HEAD") || (decide (100 ≤ status) && decide (status ≤ 199)) || status == 204 ||
    status == 304

def detectResponseBodyKind (status : Nat) (requestMethod : Text) : Except Http1ParseError BodyKind :=
  if bodyForbidden status requestMethod then .ok .none
  else
    let transferCodings := transferCodingTokens hs
    if !transferCodings.isEmpty then
      .ok (if transferCodings.getLast?.any (fun t => eqIgnoreCase t (lit "chunked")) then .chunked else .closeDelimited)
    else match detectBodyKind hs with
      | .error e => .error e
      | .ok .none => if hasHeader hs (lit "content-length") then .ok .none else .ok .closeDelimited
      | .ok other => .ok other

/-! ## Hardening -/

def validateHttp1RequestHardening : Except ProtocolHardeningError Unit :=
  let hostCount := (linesOf hs (lit "host")).length
  if hostCount = 0 then .error .missingHost
  else if 1 < hostCount then .error .multipleHostHeaders
  else if hasHeader hs (lit "content-length") && hasHeader hs (lit "transfer-encoding") then
    .error .ambiguousMessageLength
  else
    let tokens := transferCodingTokens hs
    if !tokens.isEmpty && tokens.any (fun t => !eqIgnoreCase t (lit "chunked")) then .error .unsupportedTransferEncoding
    else .ok ()

/-! ## Forwarding -/

/-- The names `filter_headers` drops whatever the message. -/
def hopByHopNames : List Text :=
  [lit "connection", lit "proxy-connection", lit "keep-alive", lit "upgrade", lit "proxy-authenticate",
    lit "proxy-authorization", lit "te", lit "trailer", lit "x-forwarded-for", lit "x-forwarded-proto"]

variable (tokens : List Text)

/-- Whether `filter_headers` keeps a header of this name, given the message's `Connection` tokens. -/
def keepsName (bodyKind : BodyKind) (isResponse : Bool) (name : Text) : Bool :=
  if hopByHopNames.any (fun n => eqIgnoreCase name n) || tokens.any (fun t => eqIgnoreCase t name) then false
  else if eqIgnoreCase name (lit "transfer-encoding") then bodyKind.isChunked
  else if eqIgnoreCase name (lit "content-length") then bodyKind.isContentLength
  else if isResponse && eqIgnoreCase name (lit "server") then true
  else true

def filterHeaders (bodyKind : BodyKind) (isResponse : Bool) : List HttpHeader :=
  hs.filter (fun h => keepsName (connectionTokens hs) bodyKind isResponse h.name)

/-- The `Connection: close` line of a message that ends its connection. -/
def closeLine (keepAlive : Bool) : List HttpHeader :=
  if keepAlive then [] else [⟨lit "connection", lit "close"⟩]

def normalizeRequestHeaders (clientIp : IpAddr) (keepAlive : Bool) (bodyKind : BodyKind) : List HttpHeader :=
  filterHeaders hs bodyKind false ++ [⟨lit "x-forwarded-for", clientIp.toText⟩] ++ closeLine keepAlive

/-- The re-framing line of a close-delimited body: its other codings, then our own `chunked`. -/
def reframingLine : HttpHeader :=
  ⟨lit "transfer-encoding", List.intercalate (lit ", ")
    ((transferCodingTokens hs).filter (fun t => !eqIgnoreCase t (lit "chunked")) ++ [lit "chunked"])⟩

def reframing : BodyKind → List HttpHeader
  | .closeDelimited => [reframingLine hs]
  | _               => []

def normalizeResponseHeaders (keepAlive : Bool) (bodyKind : BodyKind) : List HttpHeader :=
  filterHeaders hs bodyKind true ++ reframing hs bodyKind ++ closeLine keepAlive

/-- Whether a `Connection` line of the message names the header. -/
def nominates (name : Text) : Bool := (connectionTokens hs).any (fun t => eqIgnoreCase t name)

/-! ## What a forwarded list keeps of one name -/

variable (k : BodyKind) (r : Bool)

theorem keepsName_congr {a b : Text} (h : lower a = lower b) : keepsName tokens k r a = keepsName tokens k r b := by
  unfold keepsName eqIgnoreCase; rw [h]

/-- **The lines of a name are forwarded all or none.** -/
theorem linesOf_filterHeaders (name : Text) :
    linesOf (filterHeaders hs k r) name = if keepsName (connectionTokens hs) k r name then linesOf hs name else [] := by
  unfold linesOf filterHeaders
  generalize connectionTokens hs = tokens
  rw [List.filter_filter]
  split_ifs with hk
  · apply List.filter_congr
    intro h _
    by_cases hn : h.isNamed name = true
    · rw [keepsName_congr tokens k r ((eqIgnoreCase_iff _ _).1 hn), hk, Bool.and_true]
    · simp [hn]
  · rw [List.filter_eq_nil_iff]
    intro h _ hc
    obtain ⟨hn, hkeep⟩ := Bool.and_eq_true_iff.1 hc
    exact hk (keepsName_congr tokens k r ((eqIgnoreCase_iff _ _).1 hn) ▸ hkeep)

/-- A name `filter_headers` does not drop whatever the message. -/
def endToEnd (name : Text) : Bool := !hopByHopNames.any (fun n => eqIgnoreCase name n)

/-- Whether a message of this body kind may carry the name: the framing lines go with their own kinds only. -/
def BodyKind.carries (name : Text) : Bool :=
  if eqIgnoreCase name (lit "transfer-encoding") then k.isChunked
  else if eqIgnoreCase name (lit "content-length") then k.isContentLength
  else true

theorem keepsName_of_endToEnd {name : Text} (h : endToEnd name = true) :
    keepsName tokens k r name = (!tokens.any (fun t => eqIgnoreCase t name) && k.carries name) := by
  have hhop : hopByHopNames.any (fun n => eqIgnoreCase name n) = false := by simpa [endToEnd] using h
  simp only [keepsName, hhop, Bool.false_or, BodyKind.carries, ite_self]
  cases tokens.any (fun t => eqIgnoreCase t name) <;> simp

/-- What is forwarded of the lines of an end-to-end name. -/
def forwardedLines (name : Text) : List HttpHeader :=
  if nominates hs name || !k.carries name then [] else linesOf hs name

section
variable {hs : List HttpHeader} {k : BodyKind} {name : Text}

theorem forwardedLines_nominated (h : nominates hs name = true) : forwardedLines hs k name = [] := by
  simp [forwardedLines, h]

theorem forwardedLines_uncarried (h : k.carries name = false) : forwardedLines hs k name = [] := by
  simp [forwardedLines, h]

theorem forwardedLines_kept (hn : nominates hs name = false) (hk : k.carries name = true) :
    forwardedLines hs k name = linesOf hs name := by
  simp [forwardedLines, hn, hk]

theorem linesOf_filterHeaders_endToEnd {r : Bool} (h : endToEnd name = true) :
    linesOf (filterHeaders hs k r) name = forwardedLines hs k name := by
  rw [linesOf_filterHeaders, keepsName_of_endToEnd _ _ _ h, forwardedLines, nominates]
  cases (connectionTokens hs).any (fun t => eqIgnoreCase t name) <;> cases k.carries name <;> rfl

end

theorem not_named_of_hopByHop {n name : Text} (hn : n ∈ hopByHopNames) (h : endToEnd name = true) : eqIgnoreCase n name = false := by
  rw [endToEnd, Bool.not_eq_true', List.any_eq_false] at h
  have hne : ¬ eqIgnoreCase name n = true := h n hn
  rw [eqIgnoreCase_iff] at hne
  rw [← Bool.not_eq_true, eqIgnoreCase_iff]
  exact fun e => hne e.symm

end WayBalancer
