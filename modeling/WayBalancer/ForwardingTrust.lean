import WayBalancer.ForwardedHead
/-!
# ForwardingTrust — whom a request says it comes from

`crates/runtime/src/trusted_client_ip.rs` takes the client's address from the forwarding headers, and the request goes on with
the proxy's own.  An HTTP/2 line whose value is no visible ASCII is read as if it were not there, where HTTP/1 refuses it
(`clientIp_agrees_iff`), and a `Forwarded` line of the client goes upstream on both (`forwarding_own_iff`).
-/
namespace WayBalancer

open Str
open Crlf (Bytes)

/-! ## Reading the client's address -/

def HttpHeader.isForwarding (h : HttpHeader) : Bool := h.isNamed (lit "forwarded") || h.isNamed (lit "x-forwarded-for")

namespace TrustedClientIpPolicy

section
variable (policy : TrustedClientIpPolicy) (peerIp : IpAddr)

def resolveFromHttp1Headers (headers : List HttpHeader) : Except TrustedClientIpError IpAddr :=
  (policy.resolveResolutionFromHttp1Headers peerIp headers).map (·.clientIp)

def resolveFromHttp2Headers (headers : List (Text × Bytes)) : Except TrustedClientIpError IpAddr :=
  (policy.resolveResolutionFromHttp2Headers peerIp headers).map (·.clientIp)

/-- Both protocols resolve the same, and refuse the forwarding lines of a peer that is no trusted proxy. -/
def Agrees (headers : List HttpHeader) : Prop :=
  let http1 := policy.resolveFromHttp1Headers peerIp headers
  let http2 := policy.resolveFromHttp2Headers peerIp (headers.map fun h => (h.name, utf8 h.value))
  http1 = http2 ∧ (policy.enabled = true → policy.isTrustedProxy peerIp = false → (∃ h ∈ headers, h.isForwarding = true) →
    http1 = .error .untrustedForwardingHeader ∧ http2 = .error .untrustedForwardingHeader)

end

variable {policy : TrustedClientIpPolicy} {peerIp : IpAddr}

theorem resolveFromHeaderIter_congr {a b : List (Text × Text)}
    (h : ∀ name ∈ [lit "forwarded", lit "x-forwarded-for"], valuesOf name a = valuesOf name b) :
    policy.resolveFromHeaderIter peerIp a = policy.resolveFromHeaderIter peerIp b := by
  have hfor := h _ List.mem_cons_self
  have hxff := h (lit "x-forwarded-for") (by simp)
  unfold resolveFromHeaderIter forwardingChain
  rw [hfor, hxff]

theorem valuesOf_visible {name : Text} : ∀ {headers : List HttpHeader},
    (∀ h ∈ headers, h.isNamed name = true → (visibleAscii (utf8 h.value)).isSome = true) →
      valuesOf name (headers.filterMap fun h => (visibleAscii (utf8 h.value)).map fun value => (h.name, value)) =
        valuesOf name (headers.map fun h => (h.name, h.value))
  | [], _ => rfl
  | h :: headers, hvis => by
    obtain ⟨hhead, ht⟩ := List.forall_mem_cons.1 hvis
    have ih := valuesOf_visible ht
    unfold valuesOf at ih ⊢
    unfold HttpHeader.isNamed at hhead
    rcases hval : visibleAscii (utf8 h.value) with _ | value
    · have hnam : eqIgnoreCase h.name name = false := by simpa [hval] using hhead
      simp [hval, hnam, ih]
    · have hs : value = h.value := utf8_injective (utf8_visibleAscii hval)
      by_cases hnam : eqIgnoreCase h.name name = true <;> simp [hval, hnam, hs, ih]

section
variable {headers : List HttpHeader} (henabled : policy.enabled = true) (hsome : ∃ h ∈ headers, h.isForwarding = true)
include henabled hsome

theorem resolveFromHttp1Headers_forwarding : policy.resolveFromHttp1Headers peerIp headers = if policy.isTrustedProxy peerIp then do
        let (_, chain) ← forwardingChain (headers.map fun h => (h.name, h.value))
        if chain.isEmpty then .error .invalidForwardingHeader
        else .ok (resolveClientFromChain peerIp chain policy.trustedProxyCidrs)
      else .error .untrustedForwardingHeader := by
  obtain ⟨h, hh, hfor⟩ := hsome
  have hlin : ((valuesOf (lit "forwarded") (headers.map fun h => (h.name, h.value))).isEmpty &&
      (valuesOf (lit "x-forwarded-for") (headers.map fun h => (h.name, h.value))).isEmpty) = false := by
    rw [← Bool.not_eq_true]
    intro hemp
    simp only [valuesOf, Bool.and_eq_true, List.isEmpty_iff, List.map_eq_nil_iff, List.filter_eq_nil_iff] at hemp
    have hmem := List.mem_map_of_mem (f := fun h : HttpHeader => (h.name, h.value)) hh
    rcases Bool.or_eq_true_iff.1 hfor with hnam | hnam
    · exact hemp.1 _ hmem hnam
    · exact hemp.2 _ hmem hnam
  have hp : policy.isTrustedProxy (canonicalizeIp peerIp) = policy.isTrustedProxy peerIp := by
    simp only [isTrustedProxy, canonicalizeIp_canonicalizeIp]
  simp only [resolveFromHttp1Headers, resolveResolutionFromHttp1Headers, resolveFromHeaderIter, henabled, hlin, hp,
    resolveClientFromChain, canonicalizeIp_canonicalizeIp]
  generalize forwardingChain _ = p
  cases policy.isTrustedProxy peerIp with
  | false => rfl
  | true =>
    rcases p with error | ⟨src, _ | ⟨hop, chain⟩⟩ <;> rfl

/-- Where the lines are believed, the walk has left the peer behind. -/
theorem http1_client_unique {peerIp' client client' : IpAddr} (hcli : policy.resolveFromHttp1Headers peerIp headers = .ok client)
    (hcli' : policy.resolveFromHttp1Headers peerIp' headers = .ok client') : client = client' := by
  rw [resolveFromHttp1Headers_forwarding henabled hsome] at hcli hcli'
  split_ifs at hcli hcli' with hp hp'
  obtain ⟨⟨src, chain⟩, hpar, hw⟩ := Proc.except_bind_ok.1 hcli
  obtain ⟨p, hpar', hw'⟩ := Proc.except_bind_ok.1 hcli'
  cases hpar.symm.trans hpar'
  obtain ⟨-, hw⟩ := Proc.ite_error_ok.1 hw
  obtain ⟨hne, hw'⟩ := Proc.ite_error_ok.1 hw'
  rw [← Except.ok.inj hw, ← Except.ok.inj hw']
  unfold resolveClientFromChain
  rcases hh : chain.reverse with _ | ⟨hop, left⟩
  · rw [List.reverse_eq_nil_iff.1 hh] at hne
    exact absurd rfl hne
  · exact (if_pos hp).trans (if_pos hp').symm

end

/-- **The two protocols agree on every request whose forwarding lines have these values exactly when the policy is off or every
one of the values is visible ASCII.** -/
theorem clientIp_agrees_iff (policy : TrustedClientIpPolicy) (values : Set Text) :
    (∀ peerIp headers, (∀ h ∈ headers, h.isForwarding = true → h.value ∈ values) → policy.Agrees peerIp headers) ↔
      policy.enabled = false ∨ ∀ value ∈ values, (visibleAscii (utf8 value)).isSome = true := by
  cases henabled : policy.enabled with
  | false =>
    refine iff_of_true (fun peerIp headers _ => ⟨?_, fun h => ?_⟩) (.inl rfl)
    · simp [resolveFromHttp1Headers, resolveResolutionFromHttp1Headers, resolveFromHttp2Headers, resolveResolutionFromHttp2Headers,
        resolveFromHeaderIter, henabled]
    · rw [henabled] at h
      cases h
  | true =>
    refine ⟨fun hagr => .inr fun value hval => ?_, fun hvis peerIp headers hv => ?_⟩
    · by_contra hhid
      -- a single line, which HTTP/2 does not see: two peers are each the client
      have hcli : ∀ peerIp, policy.resolveFromHttp1Headers peerIp [⟨lit "x-forwarded-for", value⟩] = .ok (canonicalizeIp peerIp) := by
        intro peerIp
        refine (hagr peerIp [⟨lit "x-forwarded-for", value⟩] (by simp [hval])).1.trans ?_
        have hno : visibleAscii (utf8 value) = none := by simpa using hhid
        simp [resolveFromHttp2Headers, resolveResolutionFromHttp2Headers, resolveFromHeaderIter, hno, valuesOf, Except.map, henabled]
      cases http1_client_unique henabled ⟨_, List.mem_singleton_self _, rfl⟩ (hcli (.v4 1 1 1 1)) (hcli (.v4 2 2 2 2))
    · have hs : policy.resolveFromHttp1Headers peerIp headers =
          policy.resolveFromHttp2Headers peerIp (headers.map fun h => (h.name, utf8 h.value)) := by
        refine congrArg _ (resolveFromHeaderIter_congr (fun name hn => ?_)).symm
        rw [List.filterMap_map]
        refine valuesOf_visible (fun h hh hnam => hvis.resolve_left Bool.noConfusion _ (hv h hh ?_))
        fin_cases hn <;> simp [HttpHeader.isForwarding, hnam]
      refine ⟨hs, fun _ hp hsome => ?_⟩
      have href : policy.resolveFromHttp1Headers peerIp headers = .error .untrustedForwardingHeader := by
        simp [resolveFromHttp1Headers_forwarding henabled hsome, hp]
      exact ⟨href, hs.symm.trans href⟩

/-- An address no proxy of the network vouches for, with a letter that is no ASCII: refused over HTTP/1 only. -/
theorem hidden_forwarding_accepted : ¬ tenNetPolicy.Agrees (.v4 192 0 2 1) [⟨lit "x-forwarded-for", ['é']⟩] :=
  fun h => absurd h.1 (by decide +kernel)

end TrustedClientIpPolicy

/-! ## Naming the client to the upstream -/

/-- A field of an HTTP/2 request, whose name is in lower case. -/
structure Http2Field where
  name : Text
  value : Bytes
  lowercase : lower name = name

def shouldSkipHttp2Header (field : Http2Field) : Bool :=
  [lit "connection", lit "transfer-encoding", lit "proxy-authenticate", lit "proxy-authorization", lit "upgrade", lit "host"].contains
      field.name ||
    field.name == lit "te" && field.value != utf8 (lit "trailers") ||
    [lit "proxy-connection", lit "keep-alive", lit "x-forwarded-for"].contains field.name

/-- The header list of `prepare_upstream_request_template`. -/
def templateHeaders (fields : List Http2Field) (effectiveClientIp : IpAddr) : List (Text × Bytes) :=
  (fields.filter fun field => !shouldSkipHttp2Header field).map (fun field => (field.name, field.value)) ++
    [(lit "x-forwarded-for", utf8 effectiveClientIp.toText)]

inductive ForwardedRequest
  | http1 (transport : UpstreamTransport) (request : Http1RequestHead) (requestedUpgrade : Option UpgradeProtocolConfig)
    (revalidationEntry : Option HttpCacheEntry)
  | http2 (fields : List Http2Field)

def ForwardedRequest.sent (effectiveClientIp : IpAddr) : ForwardedRequest → List (Text × Bytes)
  | .http1 transport request requestedUpgrade revalidationEntry =>
    (upstreamRequestHeaders transport request effectiveClientIp requestedUpgrade revalidationEntry).map fun h => (h.name, utf8 h.value)
  | .http2 fields => templateHeaders fields effectiveClientIp

def sentValues (sent : List (Text × Bytes)) (name : Text) : List Bytes :=
  (sent.filter fun field => eqIgnoreCase field.1 name).map (·.2)

/-- The proxy's own word for the client is the only one; it sends no `X-Forwarded-Proto` or `Forwarded` of its own. -/
def OwnForwarding (effectiveClientIp : IpAddr) (sent : List (Text × Bytes)) : Prop :=
  sentValues sent (lit "x-forwarded-for") = [utf8 effectiveClientIp.toText] ∧
    sentValues sent (lit "x-forwarded-proto") = [] ∧ sentValues sent (lit "forwarded") = []

/-- The client says nothing of itself that is not dropped. -/
def ForwardedRequest.Silent : ForwardedRequest → Prop
  | .http1 _ request _ _ => nominates request.headers (lit "forwarded") = true ∨ linesOf request.headers (lit "forwarded") = []
  | .http2 fields        => ∀ field ∈ fields, field.name ≠ lit "x-forwarded-proto" ∧ field.name ≠ lit "forwarded"

section
variable (transport : UpstreamTransport) (request : Http1RequestHead) (ip : IpAddr) (upgrade : Option UpgradeProtocolConfig)
  (entry : Option HttpCacheEntry)

theorem linesOf_upstream {name : Text} (hn : name ∈ [lit "x-forwarded-for", lit "x-forwarded-proto", lit "forwarded"]) :
    linesOf (upstreamRequestHeaders transport request ip upgrade entry) name =
      linesOf (normalizeRequestHeaders request.headers ip request.keepAlive request.bodyKind) name := by
  have table : ∀ name ∈ [lit "x-forwarded-for", lit "x-forwarded-proto", lit "forwarded"],
      eqIgnoreCase (lit "if-none-match") name = false ∧ eqIgnoreCase (lit "if-modified-since") name = false ∧
        lower name ≠ lit "connection" ∧ lower name ≠ lit "upgrade" := by decide
  obtain ⟨hmat, hsin, hcon, hupg⟩ := table name hn
  have hc : ∀ headers, linesOf (appendConditionalRevalidationHeaders headers entry) name = linesOf headers name := by
    intro headers
    cases entry with
    | none => rfl
    | some entry => simp [appendConditionalRevalidationHeaders, linesOf_append, linesOf_validatorLine, hmat, hsin]
  cases transport with
  | http3 => rfl
  | http1 | http2 =>
    simp only [upstreamRequestHeaders, http1RequestHeaders]
    split
    · rw [linesOf_appendUpgradeHeaders _ _ hcon hupg, hc]
    · exact hc _

theorem sentValues_http1 {name : Text} (hn : name ∈ [lit "x-forwarded-for", lit "x-forwarded-proto", lit "forwarded"]) :
    sentValues ((ForwardedRequest.http1 transport request upgrade entry).sent ip) name =
      (linesOf (normalizeRequestHeaders request.headers ip request.keepAlive request.bodyKind) name).map (utf8 ·.value) := by
  rw [← linesOf_upstream transport request ip upgrade entry hn]
  unfold sentValues linesOf
  rw [ForwardedRequest.sent, List.filter_map, List.map_map]
  rfl

end

theorem sentValues_http2 {name : Text} (skips : Bool) (hn : lower name = name)
    (hski : ∀ field : Http2Field, field.name = name → shouldSkipHttp2Header field = skips) (fields : List Http2Field) (ip : IpAddr) :
    sentValues ((ForwardedRequest.http2 fields).sent ip) name =
      ((fields.filter fun field => !skips && field.name == name).map (·.value)) ++
        sentValues [(lit "x-forwarded-for", utf8 ip.toText)] name := by
  have hfie : ∀ field : Http2Field,
      (eqIgnoreCase field.name name && !shouldSkipHttp2Header field) = (!skips && field.name == name) := by
    intro field
    rw [eqIgnoreCase, field.lowercase, hn]
    by_cases h : field.name = name
    · rw [hski field h, Bool.and_comm]
    · rw [beq_false_of_ne h, Bool.false_and, Bool.and_false]
  simp [sentValues, ForwardedRequest.sent, templateHeaders, List.filter_map, Function.comp_def, List.filter_filter, hfie]

/-- **The forwarding fields sent upstream are the proxy's own exactly when the client is silent**: over HTTP/1 it sends no
`Forwarded`, or names it in `Connection`; over HTTP/2 it sends neither that nor `x-forwarded-proto`. -/
theorem forwarding_own_iff (effectiveClientIp : IpAddr) (request : ForwardedRequest) :
    OwnForwarding effectiveClientIp (request.sent effectiveClientIp) ↔ request.Silent := by
  cases request with
  | http1 transport request upgrade entry =>
    have hxff : linesOf (normalizeRequestHeaders request.headers effectiveClientIp request.keepAlive request.bodyKind)
        (lit "x-forwarded-for") = [⟨lit "x-forwarded-for", effectiveClientIp.toText⟩] := by
      rw [normalizeRequestHeaders, linesOf_append, linesOf_append, linesOf_filterHeaders]
      cases request.keepAlive <;> rfl
    have hpro : linesOf (normalizeRequestHeaders request.headers effectiveClientIp request.keepAlive request.bodyKind)
        (lit "x-forwarded-proto") = [] := by
      rw [normalizeRequestHeaders, linesOf_append, linesOf_append, linesOf_filterHeaders]
      cases request.keepAlive <;> rfl
    have hfor := @linesOf_normalizeRequestHeaders (lit "forwarded") (by decide) request.headers effectiveClientIp
      request.keepAlive request.bodyKind
    have hcar : request.bodyKind.carries (lit "forwarded") = true := rfl
    rw [OwnForwarding, sentValues_http1 _ _ _ _ _ (by simp), sentValues_http1 _ _ _ _ _ (by simp),
      sentValues_http1 _ _ _ _ _ (by simp), hxff, hpro, hfor, forwardedLines, hcar, ForwardedRequest.Silent]
    cases nominates request.headers (lit "forwarded") <;> simp
  | http2 fields =>
    have hown : sentValues [(lit "x-forwarded-for", utf8 effectiveClientIp.toText)] (lit "x-forwarded-for") =
        [utf8 effectiveClientIp.toText] := rfl
    have hpro : sentValues [(lit "x-forwarded-for", utf8 effectiveClientIp.toText)] (lit "x-forwarded-proto") = [] := rfl
    have hfor : sentValues [(lit "x-forwarded-for", utf8 effectiveClientIp.toText)] (lit "forwarded") = [] := rfl
    rw [OwnForwarding, sentValues_http2 true (by decide) (fun field h => by simp [shouldSkipHttp2Header, h]),
      sentValues_http2 false (by decide) (fun field h => by rw [shouldSkipHttp2Header, h]; rfl),
      sentValues_http2 false (by decide) (fun field h => by rw [shouldSkipHttp2Header, h]; rfl), hown, hpro, hfor]
    simp [ForwardedRequest.Silent, List.filter_eq_nil_iff, forall_and]

/-- A client that says over HTTP/2 it came in over TLS is believed by the upstream. -/
theorem client_proto_forwarded :
    ¬ OwnForwarding (.v4 192 0 2 1) ((ForwardedRequest.http2 [⟨lit "x-forwarded-proto", utf8 (lit "https"), rfl⟩]).sent (.v4 192 0 2 1)) :=
  fun h => absurd h.2.1 (by decide +kernel)

end WayBalancer
