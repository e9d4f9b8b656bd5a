import WayBalancer.HttpHeaders
import WayBalancer.IpNet
import WayBalancer.IpParse
import WayBalancer.Proc
/-!
# TrustedClientIp — who is behind the proxies

`crates/runtime/src/trusted_client_ip.rs`.  The forwarding headers name a chain of hops, nearest last, and the walk goes
from the peer to the left as long as the hop it stands on is a trusted proxy.  Where it ends is the rightmost hop that
is no trusted proxy, or the leftmost of all (`resolveClientFromChain_spec`).  A client can only prepend to the chain:
what it prepends is out of reach behind an untrusted hop, and is believed where every hop is trusted.
-/
namespace WayBalancer

open Str

structure TrustedClientIpPolicy where
  enabled : Bool := false
  trustedProxyCidrs : List IpNet := []
deriving DecidableEq

inductive TrustedClientIpHeaderSource
  | forwarded
  | xForwardedFor
deriving DecidableEq

structure TrustedClientIpResolution where
  clientIp : IpAddr
  peerIp : IpAddr
  headerSource : Option TrustedClientIpHeaderSource
deriving DecidableEq

inductive TrustedClientIpError
  | untrustedForwardingHeader
  | invalidForwardingHeader
deriving DecidableEq

/-! ## Tokens and chains -/

def trimMatches (c : Char) (s : Text) : Text := (s.dropWhile (· = c)).rdropWhile (· = c)

/-- `str::rsplit_once`: the text before and after the last `sep`. -/
def rsplitOnce (sep : Char) (s : Text) : Option (Text × Text) :=
  (splitOnce sep s.reverse).map (fun p => (p.2.reverse, p.1.reverse))

def parseForwardedHost (host : Text) : Except TrustedClientIpError IpAddr :=
  match parseIpAddr host with
  | some ip => .ok (canonicalizeIp ip)
  | none    => .error .invalidForwardingHeader

def parseForwardedIpToken (token : Text) : Except TrustedClientIpError IpAddr :=
  let token := trimMatches '"' (trim token)
  if token.isEmpty || eqIgnoreCase token (lit "unknown") || token.head? = some '_' then .error .invalidForwardingHeader
  else match token with
    | '[' :: inner =>
      match splitOnce ']' inner with
      | none => .error .invalidForwardingHeader
      | some (host, rest) =>
        if !rest.isEmpty && rest.head? ≠ some ':' then .error .invalidForwardingHeader else parseForwardedHost host
    | _ =>
      match parseIpAddr token with
      | some ip => .ok (canonicalizeIp ip)
      | none =>
        match rsplitOnce ':' token with
        | some (host, port) =>
          if port.all Char.isDigit then parseForwardedHost host else .error .invalidForwardingHeader
        | none => .error .invalidForwardingHeader

def parseXForwardedForEntry (entry : Text) : Except TrustedClientIpError IpAddr :=
  if (trim entry).isEmpty then .error .invalidForwardingHeader else parseForwardedIpToken (trim entry)

/-- The first `for` parameter of an element; parameters without `=` are skipped. -/
def parseForwardedElement (element : Text) : Except TrustedClientIpError IpAddr :=
  let parameters := (element.splitOn ';').filterMap (fun parameter => splitOnce '=' (trim parameter))
  match parameters.find? (fun parameter => eqIgnoreCase (trim parameter.1) (lit "for")) with
  | some (_, rawValue) => parseForwardedIpToken (trim rawValue)
  | none               => .error .invalidForwardingHeader

/-- The hops of the header's lines, in order; every entry has to be one. -/
def parseChain (entry : Text → Except TrustedClientIpError IpAddr) (values : List Text) :
    Except TrustedClientIpError (List IpAddr) :=
  (values.flatMap (fun value => value.splitOn ',')).mapM entry

def parseXForwardedForChain (values : List Text) : Except TrustedClientIpError (List IpAddr) :=
  parseChain parseXForwardedForEntry values

def parseForwardedChain (values : List Text) : Except TrustedClientIpError (List IpAddr) :=
  parseChain parseForwardedElement values

/-! ## The walk -/

def isTrusted (trustedProxyCidrs : List IpNet) (ip : IpAddr) : Bool := trustedProxyCidrs.any (fun cidr => cidr.contains ip)

/-- The loop of `resolve_client_from_chain` over the hops still to the left, nearest first. -/
def walkChain (trustedProxyCidrs : List IpNet) (current : IpAddr) : List IpAddr → IpAddr
  | []                => current
  | candidate :: rest =>
    if isTrusted trustedProxyCidrs current then walkChain trustedProxyCidrs (canonicalizeIp candidate) rest else current

def resolveClientFromChain (peerIp : IpAddr) (chain : List IpAddr) (trustedProxyCidrs : List IpNet) : IpAddr :=
  walkChain trustedProxyCidrs (canonicalizeIp peerIp) chain.reverse

namespace TrustedClientIpPolicy

variable (policy : TrustedClientIpPolicy)

def isTrustedProxy (ip : IpAddr) : Bool := isTrusted policy.trustedProxyCidrs (canonicalizeIp ip)

def valuesOf (name : Text) (headers : List (Text × Text)) : List Text :=
  (headers.filter (fun header => eqIgnoreCase header.1 name)).map (·.2)

/-- The chain of the forwarding headers and the one it comes from: `Forwarded` where there is one. -/
def forwardingChain (headers : List (Text × Text)) :
    Except TrustedClientIpError (TrustedClientIpHeaderSource × List IpAddr) :=
  if !(valuesOf (lit "forwarded") headers).isEmpty then
    (parseForwardedChain (valuesOf (lit "forwarded") headers)).map (fun chain => (.forwarded, chain))
  else (parseXForwardedForChain (valuesOf (lit "x-forwarded-for") headers)).map (fun chain => (.xForwardedFor, chain))

def resolveFromHeaderIter (peerIp : IpAddr) (headers : List (Text × Text)) :
    Except TrustedClientIpError TrustedClientIpResolution :=
  let peerIp := canonicalizeIp peerIp
  if !policy.enabled then .ok ⟨peerIp, peerIp, none⟩
  else if (valuesOf (lit "forwarded") headers).isEmpty && (valuesOf (lit "x-forwarded-for") headers).isEmpty then
    .ok ⟨peerIp, peerIp, none⟩
  else if !policy.isTrustedProxy peerIp then .error .untrustedForwardingHeader
  else do
    let (headerSource, chain) ← forwardingChain headers
    if chain.isEmpty then .error .invalidForwardingHeader
    else .ok ⟨resolveClientFromChain peerIp chain policy.trustedProxyCidrs, peerIp, some headerSource⟩

def resolveResolutionFromHttp1Headers (peerIp : IpAddr) (headers : List HttpHeader) :
    Except TrustedClientIpError TrustedClientIpResolution :=
  policy.resolveFromHeaderIter peerIp (headers.map (fun header => (header.name, header.value)))

/-- `HeaderValue::to_str`: visible ASCII, spaces and tabs only. -/
def visibleAscii (value : List UInt8) : Option Text :=
  if value.all (fun byte => (decide (32 ≤ byte) && decide (byte < 127)) || byte == 9) then some (value.map byteChar) else none

/-- HTTP/2 header values are bytes; one that is no visible ASCII is passed over. -/
def resolveResolutionFromHttp2Headers (peerIp : IpAddr) (headers : List (Text × List UInt8)) :
    Except TrustedClientIpError TrustedClientIpResolution :=
  policy.resolveFromHeaderIter peerIp (headers.filterMap (fun header => (visibleAscii header.2).map (fun value => (header.1, value))))

end TrustedClientIpPolicy

/-! ## Chains hold canonical addresses -/

theorem canonicalizeIp_v6 (segments : Vector UInt16 8) :
    (∃ a b c d, canonicalizeIp (.v6 segments) = .v4 a b c d) ∨ canonicalizeIp (.v6 segments) = .v6 segments := by
  simp only [canonicalizeIp]
  split
  · exact .inl ⟨_, _, _, _, rfl⟩
  · exact .inr rfl

theorem canonicalizeIp_canonicalizeIp (ip : IpAddr) : canonicalizeIp (canonicalizeIp ip) = canonicalizeIp ip := by
  cases ip with
  | v4 a b c d => rfl
  | v6 segments =>
    rcases canonicalizeIp_v6 segments with ⟨a, b, c, d, h⟩ | h
    · rw [h]
      rfl
    · rw [h, h]

variable {ip : IpAddr}

theorem parseForwardedHost_canonical {host : Text} (h : parseForwardedHost host = .ok ip) : canonicalizeIp ip = ip := by
  unfold parseForwardedHost at h
  split at h
  · cases h
    exact canonicalizeIp_canonicalizeIp _
  · cases h

theorem parseForwardedIpToken_canonical {token : Text} (h : parseForwardedIpToken token = .ok ip) : canonicalizeIp ip = ip := by
  unfold parseForwardedIpToken at h
  dsimp only at h
  split at h
  · cases h
  · split at h
    · split at h
      · cases h
      · split at h
        · cases h
        · exact parseForwardedHost_canonical h
    · split at h
      · cases h
        exact canonicalizeIp_canonicalizeIp _
      · split at h
        · split at h
          · exact parseForwardedHost_canonical h
          · cases h
        · cases h

theorem parseXForwardedForEntry_canonical {entry : Text} (h : parseXForwardedForEntry entry = .ok ip) : canonicalizeIp ip = ip :=
  parseForwardedIpToken_canonical (Proc.ite_error_ok.1 h).2

theorem parseForwardedElement_canonical {element : Text} (h : parseForwardedElement element = .ok ip) : canonicalizeIp ip = ip := by
  unfold parseForwardedElement at h
  dsimp only at h
  split at h
  · exact parseForwardedIpToken_canonical h
  · cases h

open TrustedClientIpPolicy

variable {headers : List (Text × Text)} {chain : List IpAddr} {source : TrustedClientIpHeaderSource}

theorem forwardingChain_canonical (h : forwardingChain headers = .ok (source, chain)) : ∀ ip ∈ chain, canonicalizeIp ip = ip := by
  unfold forwardingChain at h
  split at h
  · obtain ⟨p, hpar, hcha⟩ := Proc.except_map_ok.1 h
    cases hcha
    exact Proc.forall_of_mapM_ok (fun _ _ => parseForwardedElement_canonical) hpar
  · obtain ⟨p, hpar, hcha⟩ := Proc.except_map_ok.1 h
    cases hcha
    exact Proc.forall_of_mapM_ok (fun _ _ => parseXForwardedForEntry_canonical) hpar

/-! ## Where the walk ends -/

section Walk

variable {cidrs : List IpNet}

/-- **The walk ends at the rightmost hop that is not trusted, or at the leftmost of all.** -/
theorem walkChain_spec : ∀ {left : List IpAddr} {current : IpAddr}, (∀ ip ∈ left, canonicalizeIp ip = ip) →
    ∃ farther nearer, left.reverse ++ [current] = farther ++ walkChain cidrs current left :: nearer ∧
      (∀ hop ∈ nearer, isTrusted cidrs hop = true) ∧ (isTrusted cidrs (walkChain cidrs current left) = true → farther = [])
  | [], current, _ => ⟨[], [], rfl, fun _ h => absurd h List.not_mem_nil, fun _ => rfl⟩
  | candidate :: rest, current, hcan => by
    obtain ⟨hc, hr⟩ := List.forall_mem_cons.1 hcan
    by_cases htru : isTrusted cidrs current = true
    · rw [walkChain, if_pos htru, hc]
      obtain ⟨farther, nearer, hh, hnea, hfar⟩ := @walkChain_spec rest candidate hr
      refine ⟨farther, nearer ++ [current], ?_, ?_, hfar⟩
      · rw [List.reverse_cons, hh, List.append_assoc, List.cons_append]
      · intro hop hhop
        rcases List.mem_append.1 hhop with hhop | hhop
        · exact hnea hop hhop
        · rw [List.mem_singleton.1 hhop]
          exact htru
    · rw [walkChain, if_neg htru]
      exact ⟨(candidate :: rest).reverse, [], rfl, fun _ h => absurd h List.not_mem_nil, fun h => absurd h htru⟩

/-- Of two ways to split the hops at such an end, one at an untrusted hop, both are the same. -/
theorem end_unique {farther farther' nearer nearer' : List IpAddr} {hop hop' : IpAddr}
    (hs : farther ++ hop :: nearer = farther' ++ hop' :: nearer') (hnea : ∀ h ∈ nearer, isTrusted cidrs h = true)
    (hf : isTrusted cidrs hop = true → farther = []) (hnea' : ∀ h ∈ nearer', isTrusted cidrs h = true)
    (hu : isTrusted cidrs hop' = false) : hop = hop' := by
  rcases List.append_eq_append_iff.1 hs with ⟨mid, hfar, hn⟩ | ⟨mid, hfar, hn⟩
  · cases mid with
    | nil => exact (List.cons.inj hn).1
    | cons h mid =>
      have hmem : hop' ∈ nearer := by
        rw [(List.cons.inj hn).2]
        exact List.mem_append_right _ List.mem_cons_self
      rw [hnea hop' hmem] at hu
      cases hu
  · cases mid with
    | nil => exact (List.cons.inj hn).1.symm
    | cons h mid =>
      have hmem : hop ∈ nearer' := by
        rw [(List.cons.inj hn).2]
        exact List.mem_append_right _ List.mem_cons_self
      rw [hf (hnea' hop hmem)] at hfar
      exact absurd hfar.symm (by simp)

end Walk

/-! ## What a client can prepend -/

/-- The lines of a header after a client put lines of its own in front, and text of its own in front of the first. -/
inductive Prepended (values : List Text) : List Text → Prop
  | lines (extra : List Text) : Prepended values (extra ++ values)
  | text (extra : List Text) (junk value : Text) (rest : List Text) (hvalues : values = value :: rest) :
      Prepended values (extra ++ (junk ++ ',' :: value) :: rest)

variable {values values' : List Text}

theorem Prepended.entries (h : Prepended values values') :
    ∃ extra, values'.flatMap (fun value => value.splitOn ',') = extra ++ values.flatMap (fun value => value.splitOn ',') := by
  cases h with
  | lines extra => exact ⟨_, List.flatMap_append⟩
  | text extra junk value rest hvalues =>
    subst hvalues
    refine ⟨extra.flatMap (fun value => value.splitOn ',') ++ junk.splitOn ',', ?_⟩
    rw [List.flatMap_append, List.flatMap_cons, List.splitOn_append_cons_self, List.flatMap_cons, List.append_assoc, List.append_assoc]

theorem parseChain_prepended {entry : Text → Except TrustedClientIpError IpAddr} {chain' : List IpAddr}
    (h : Prepended values values') (hcha : parseChain entry values = .ok chain)
    (hcha' : parseChain entry values' = .ok chain') : ∃ extra, chain' = extra ++ chain := by
  obtain ⟨extra, hent⟩ := h.entries
  unfold parseChain at hcha hcha'
  rw [hent, List.mapM_append] at hcha'
  obtain ⟨front, -, hr⟩ := Proc.except_bind_ok.1 hcha'
  obtain ⟨back, hb, hr⟩ := Proc.except_bind_ok.1 hr
  cases hr
  rw [hcha] at hb
  cases hb
  exact ⟨front, rfl⟩

/-- The client's own text in front of the header the chain is taken from; with `X-Forwarded-For` there is no `Forwarded`. -/
def PrependedHeaders (source : TrustedClientIpHeaderSource) (headers headers' : List (Text × Text)) : Prop :=
  match source with
  | .forwarded => Prepended (valuesOf (lit "forwarded") headers) (valuesOf (lit "forwarded") headers')
  | .xForwardedFor => valuesOf (lit "forwarded") headers' = [] ∧
      Prepended (valuesOf (lit "x-forwarded-for") headers) (valuesOf (lit "x-forwarded-for") headers')

theorem forwardingChain_ok : forwardingChain headers = .ok (source, chain) ↔
      (source = .forwarded ∧ valuesOf (lit "forwarded") headers ≠ [] ∧
        parseForwardedChain (valuesOf (lit "forwarded") headers) = .ok chain) ∨
      (source = .xForwardedFor ∧ valuesOf (lit "forwarded") headers = [] ∧
        parseXForwardedForChain (valuesOf (lit "x-forwarded-for") headers) = .ok chain) := by
  unfold forwardingChain
  by_cases hn : valuesOf (lit "forwarded") headers = []
  · rw [if_neg (by simp [hn]), Proc.except_map_ok]
    constructor
    · rintro ⟨p, hpar, hp⟩
      cases hp
      exact .inr ⟨rfl, hn, hpar⟩
    · rintro (⟨-, hs, -⟩ | ⟨rfl, -, hpar⟩)
      · exact absurd hn hs
      · exact ⟨chain, hpar, rfl⟩
  · rw [if_pos (by simpa using hn), Proc.except_map_ok]
    constructor
    · rintro ⟨p, hpar, hp⟩
      cases hp
      exact .inl ⟨rfl, hn, hpar⟩
    · rintro (⟨rfl, -, hpar⟩ | ⟨-, hnil, -⟩)
      · exact ⟨chain, hpar, rfl⟩
      · exact absurd hnil hn

theorem Prepended.ne_nil (h : Prepended values values') (hvalues : values ≠ []) : values' ≠ [] := by
  cases h with
  | lines extra => exact List.append_ne_nil_of_right_ne_nil _ hvalues
  | text extra junk value rest hc => simp

/-- Headers that parse before and after a client prepended its own text give chains of which one ends in the other. -/
theorem forwardingChain_prepended {headers' : List (Text × Text)} {source' : TrustedClientIpHeaderSource}
    {chain' : List IpAddr} (hpre : PrependedHeaders source headers headers')
    (hcha : forwardingChain headers = .ok (source, chain)) (hcha' : forwardingChain headers' = .ok (source', chain')) :
    source' = source ∧ ∃ extra, chain' = extra ++ chain := by
  rcases forwardingChain_ok.1 hcha with ⟨rfl, hlin, hpar⟩ | ⟨rfl, hlin, hpar⟩
  · rcases forwardingChain_ok.1 hcha' with ⟨rfl, -, hpar'⟩ | ⟨-, hn', -⟩
    · exact ⟨rfl, parseChain_prepended hpre hpar hpar'⟩
    · exact absurd hn' (Prepended.ne_nil hpre hlin)
  · rcases forwardingChain_ok.1 hcha' with ⟨-, hs', -⟩ | ⟨rfl, -, hpar'⟩
    · exact absurd hpre.1 hs'
    · exact ⟨rfl, parseChain_prepended hpre.2 hpar hpar'⟩

/-! ## The resolution -/

section Resolution

variable {policy : TrustedClientIpPolicy} {peerIp : IpAddr} {headers : List (Text × Text)}
  {source : TrustedClientIpHeaderSource} {chain : List IpAddr}

theorem lines_of_chain (hpar : forwardingChain headers = .ok (source, chain)) (hcha : chain ≠ []) :
    ((valuesOf (lit "forwarded") headers).isEmpty && (valuesOf (lit "x-forwarded-for") headers).isEmpty) = false := by
  rcases forwardingChain_ok.1 hpar with ⟨-, hlin, -⟩ | ⟨-, -, hxff⟩
  · simp [hlin]
  · cases hlin : valuesOf (lit "x-forwarded-for") headers with
    | nil =>
      rw [hlin] at hxff
      cases hxff
      exact absurd rfl hcha
    | cons value values => simp

theorem resolveFromHeaderIter_eq (hen : policy.enabled = true) (hp : policy.isTrustedProxy peerIp = true)
    (hpar : forwardingChain headers = .ok (source, chain)) (hcha : chain ≠ []) :
    policy.resolveFromHeaderIter peerIp headers =
      .ok ⟨walkChain policy.trustedProxyCidrs (canonicalizeIp peerIp) chain.reverse, canonicalizeIp peerIp, some source⟩ := by
  have htru : policy.isTrustedProxy (canonicalizeIp peerIp) = true := by
    rw [isTrustedProxy, canonicalizeIp_canonicalizeIp]
    exact hp
  have hs : chain.isEmpty = false := by simpa using hcha
  simp only [resolveFromHeaderIter, hen, lines_of_chain hpar hcha, htru, hpar, Bool.not_true,
    Bool.false_eq_true, if_false, Proc.except_ok_bind, hs, resolveClientFromChain, canonicalizeIp_canonicalizeIp]

/-- **The client is the rightmost hop that is no trusted proxy, or the leftmost of all; and an untrusted client is the
same for every chain that agrees from it on to the right, whatever text was prepended.** -/
theorem clientIp_rightmost_untrusted (henabled : policy.enabled = true) (hpeer : policy.isTrustedProxy peerIp = true)
    (hparsed : forwardingChain headers = .ok (source, chain)) (hchain : chain ≠ []) :
    ∃ client farther nearer,
      policy.resolveFromHeaderIter peerIp headers = .ok ⟨client, canonicalizeIp peerIp, some source⟩ ∧
      chain ++ [canonicalizeIp peerIp] = farther ++ client :: nearer ∧
      (∀ hop ∈ nearer, isTrusted policy.trustedProxyCidrs hop = true) ∧
      (isTrusted policy.trustedProxyCidrs client = true → farther = []) ∧
      (isTrusted policy.trustedProxyCidrs client = false →
        (∀ headers' source' chain' farther', forwardingChain headers' = .ok (source', chain') →
          chain' ++ [canonicalizeIp peerIp] = farther' ++ client :: nearer →
            policy.resolveFromHeaderIter peerIp headers' = .ok ⟨client, canonicalizeIp peerIp, some source'⟩) ∧
        ∀ headers' source' chain', PrependedHeaders source headers headers' →
          forwardingChain headers' = .ok (source', chain') →
            policy.resolveFromHeaderIter peerIp headers' = .ok ⟨client, canonicalizeIp peerIp, some source⟩) := by
  have hw : ∀ {headers : List (Text × Text)} {source : TrustedClientIpHeaderSource} {chain : List IpAddr},
      forwardingChain headers = .ok (source, chain) → ∀ ip ∈ chain.reverse, canonicalizeIp ip = ip :=
    fun hparsed ip hip => forwardingChain_canonical hparsed ip (List.mem_reverse.1 hip)
  obtain ⟨farther, nearer, hh, hnea, hf⟩ :=
    @walkChain_spec policy.trustedProxyCidrs _ (canonicalizeIp peerIp) (hw hparsed)
  rw [List.reverse_reverse] at hh
  have hpeerTrusted : isTrusted policy.trustedProxyCidrs (canonicalizeIp peerIp) = true := hpeer
  refine ⟨_, farther, nearer, resolveFromHeaderIter_eq henabled hpeer hparsed hchain, hh, hnea, hf,
    fun hu => ?_⟩
  have hagr : ∀ headers' source' chain' farther', forwardingChain headers' = .ok (source', chain') →
      chain' ++ [canonicalizeIp peerIp] =
        farther' ++ walkChain policy.trustedProxyCidrs (canonicalizeIp peerIp) chain.reverse :: nearer →
      policy.resolveFromHeaderIter peerIp headers' =
        .ok ⟨walkChain policy.trustedProxyCidrs (canonicalizeIp peerIp) chain.reverse, canonicalizeIp peerIp, some source'⟩ := by
    intro headers' source' chain' farther' hparsed' hh'
    -- the peer is trusted and the client is not, so the client is in the chain
    have hchain' : chain' ≠ [] := by
      rintro rfl
      have hmem : walkChain policy.trustedProxyCidrs (canonicalizeIp peerIp) chain.reverse ∈ [] ++ [canonicalizeIp peerIp] := by
        rw [hh']
        exact List.mem_append_right _ List.mem_cons_self
      rw [List.mem_singleton.1 hmem, hpeerTrusted] at hu
      cases hu
    obtain ⟨far, near, he, hn, hfar⟩ :=
      @walkChain_spec policy.trustedProxyCidrs _ (canonicalizeIp peerIp) (hw hparsed')
    rw [List.reverse_reverse, hh'] at he
    rw [resolveFromHeaderIter_eq henabled hpeer hparsed' hchain', end_unique he.symm hn hfar hnea hu]
  refine ⟨hagr, fun headers' source' chain' hpre hparsed' => ?_⟩
  obtain ⟨rfl, extra, rfl⟩ := forwardingChain_prepended hpre hparsed hparsed'
  refine hagr headers' source' _ (extra ++ farther) hparsed' ?_
  rw [List.append_assoc, hh, List.append_assoc]

end Resolution

def tenNetPolicy : TrustedClientIpPolicy := ⟨true, [.v4 10 0 0 0 8]⟩

/-- Behind a proxy of the network the address it saw is the client's, whatever stands in front of it. -/
theorem forgedHop_ignored :
    tenNetPolicy.resolveFromHeaderIter (.v4 10 0 0 1) [(lit "X-Forwarded-For", lit "192.0.2.66,198.51.100.10, 10.0.0.5")] =
      .ok ⟨.v4 198 51 100 10, .v4 10 0 0 1, some .xForwardedFor⟩ := by
  have hpla : tenNetPolicy.resolveFromHeaderIter (.v4 10 0 0 1) [(lit "X-Forwarded-For", lit "198.51.100.10, 10.0.0.5")] =
      .ok ⟨.v4 198 51 100 10, .v4 10 0 0 1, some .xForwardedFor⟩ := by decide +kernel
  obtain ⟨client, farther, nearer, hres, -, -, -, hs⟩ := @clientIp_rightmost_untrusted tenNetPolicy (.v4 10 0 0 1)
    [(lit "X-Forwarded-For", lit "198.51.100.10, 10.0.0.5")] .xForwardedFor [.v4 198 51 100 10, .v4 10 0 0 5] rfl
    (by decide +kernel) (by decide +kernel) (by decide)
  cases hres
  refine (hs (by decide +kernel)).2 _ .xForwardedFor [.v4 192 0 2 66, .v4 198 51 100 10, .v4 10 0 0 5] ?_
    (by decide +kernel)
  exact ⟨by decide +kernel, .text [] (lit "192.0.2.66") (lit "198.51.100.10, 10.0.0.5") [] (by decide +kernel)⟩

/-- A client that is itself in a trusted range is not the end of the walk: what it prepends is believed. -/
theorem trustedClient_prepends :
    forwardingChain [(lit "x-forwarded-for", lit "10.0.0.5")] = .ok (.xForwardedFor, [.v4 10 0 0 5]) ∧
      forwardingChain [(lit "x-forwarded-for", lit "192.0.2.66, 10.0.0.5")] =
        .ok (.xForwardedFor, [.v4 192 0 2 66, .v4 10 0 0 5]) ∧
      tenNetPolicy.resolveFromHeaderIter (.v4 10 0 0 1) [(lit "x-forwarded-for", lit "10.0.0.5")] =
        .ok ⟨.v4 10 0 0 5, .v4 10 0 0 1, some .xForwardedFor⟩ ∧
      tenNetPolicy.resolveFromHeaderIter (.v4 10 0 0 1) [(lit "x-forwarded-for", lit "192.0.2.66, 10.0.0.5")] =
        .ok ⟨.v4 192 0 2 66, .v4 10 0 0 1, some .xForwardedFor⟩ := by
  decide +kernel

end WayBalancer
