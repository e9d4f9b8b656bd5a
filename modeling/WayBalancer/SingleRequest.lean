import WayBalancer.Dispatch
/-!
# SingleRequest — requests without a connection, and the breaker's gate

`proxy_http1_request_with_downstream_addr` of `crates/runtime/src/http1_proxy/single_request.rs`, the dispatch the HTTP/3
listener uses: a request that passed the checks before it goes out on a connection of its own, and its response is buffered.
Of the two dispatches over two transports, one asks the destination's breaker: a request is sent without its leave exactly
where it can be sent at all and is not an HTTP/1 connection's request to an HTTP/1 upstream of a destination with a breaker
(`sends_gated_iff`).
-/
namespace WayBalancer

open Str Crlf

variable {t : List DispatchEvent} {policy : RouteDestinationPolicyRuntime}

structure Http1SingleRequestResponse where
  head : Http1ResponseHead
  body : Bytes

def localHttp1Response (keepAlive : Bool) (status : UInt16) (body : Text) : Http1SingleRequestResponse where
  head := ⟨.http1, status, [], localResponseHeaders keepAlive body, .contentLength (byteLen body), keepAlive⟩
  body := utf8 body

/-- `reframe_buffered_headers`: a buffered body has its length in place of its framing. -/
def reframeBufferedHeaders (headers : List HttpHeader) (bodyLen : ℕ) : List HttpHeader :=
  headers.filter (fun header => !header.isNamed (lit "transfer-encoding") && !header.isNamed (lit "content-length") &&
    !header.isNamed (lit "trailer")) ++ [contentLengthLine bodyLen]

section
variable (d : DispatchRequest) (env : DispatchEnv) (requestBody : Bytes)

namespace Dispatch

def bufferedHead (response : Http1ResponseHead) (headers : List HttpHeader) (bodyKind : BodyKind) : Http1ResponseHead :=
  { response with headers := transformResponseHeaders d.responseTransform headers, bodyKind, keepAlive := false }

def singleHttp3 : Dispatch Http1SingleRequestResponse := do
  Proc.skipIf (!env.http3.sent) (emit (.sent false false))
  match env.http3 with
  | .gracefulDrain _ => return localHttp1Response d.request.keepAlive 503 (lit "upstream draining\n")
  | .failed _ source => Proc.fail (.relay (.responseIo source))
  | .answered response => do
    let bodyKind := BodyKind.contentLength response.body.length
    let normalized := normalizeResponseHeaders response.headers true bodyKind
    let headers := if hasHeader normalized (lit "content-length") then normalized
      else normalized ++ [contentLengthLine response.body.length]
    recordStatus d env false .delivery response.status
    return ⟨bufferedHead d ⟨.http1, response.status, response.reason, [], bodyKind, false⟩ headers bodyKind, response.body⟩

def singleRequestHead : Bytes :=
  encodeRequestHead d.request.method d.request.target d.request.version
    (normalizeRequestHeaders d.request.headers d.effectiveClientIp d.request.keepAlive d.request.bodyKind)

def singleExchange : Dispatch Http1SingleRequestResponse := do
  emit (.sent false false)
  Proc.update (fun s => { s with owed := s.owed + 1 })
  toUpstream (writeAll .request .data (singleRequestHead d))
  Proc.skipIf requestBody.isEmpty (toUpstream (writeAll .request .data requestBody))
  let response ← fromUpstream (onInput (readResponseHead d.parser d.limits d.request.method))
  let s ← Proc.get
  emit (.response response.status s.foreign s.owed)
  Proc.ensure (!hasNonChunkedTransferCoding response.headers)
    (.relay (.parseResponse (.invalid "unsupported response transfer coding")))
  let body ← fromUpstream (onInput (collectDecodedBody .response d.maxBodyBytes response.bodyKind))
  recordStatus d env false .delivery response.status
  let normalized := normalizeResponseHeaders response.headers true response.bodyKind
  return ⟨if response.bodyKind = .none then bufferedHead d response normalized .none
    else bufferedHead d response (reframeBufferedHeaders normalized body.length) (.contentLength body.length), body⟩

def singleHttp1 : Dispatch Http1SingleRequestResponse :=
  match env.connect false with
  | .timedOut      => Proc.fail (.connectTimeout d.selectedUpstream.address)
  | .failed source => Proc.fail (.connect d.selectedUpstream.address source)
  | .connected connection => do
    Proc.update (fun s => ({ s with upstreamBuffer := [] } : Session).connect d.selectedUpstream (env.instant false .connect) connection)
    emit .connected
    singleExchange d env requestBody

end Dispatch

/-- The dispatch of `proxy_http1_request_with_downstream_addr`, behind its checks. -/
def dispatchSingleRequest : Dispatch Http1SingleRequestResponse :=
  if d.selectedUpstream.transport = .http3 then Dispatch.singleHttp3 d env else Dispatch.singleHttp1 d env requestBody

/-- `proxy_http1_request_with_downstream_addr`: a request one of its checks refuses is answered locally. -/
def proxyHttp1RequestWithDownstreamAddr (keepAlive : Bool) (checked : Except (UInt16 × Text) DispatchRequest) :
    Dispatch Http1SingleRequestResponse :=
  match checked with
  | .error (status, body) => return localHttp1Response keepAlive status body
  | .ok d                 => dispatchSingleRequest d env requestBody

end

/-! ## The gate -/

inductive DispatchFunction
  | processUncachedRequest
  | proxyHttp1Request (requestBody : Bytes)

namespace DispatchFunction

variable (d : DispatchRequest) (env : DispatchEnv)

def trace (s : Session) : DispatchFunction → List DispatchEvent
  | processUncachedRequest        => dispatchTrace d env s
  | proxyHttp1Request requestBody => (dispatchSingleRequest d env requestBody { s with log := [] }).2.log

/-- The request can go out: over HTTP/3 its body was there and the peer took it, over HTTP/1 there is a connection to use or to
make. -/
def Reaches (s : Session) : DispatchFunction → Prop
  | processUncachedRequest =>
    if d.selectedUpstream.transport = .http3 then
      (∃ body i, collectDecodedBody .request d.maxBodyBytes d.request.bodyKind s.client = (.ok body, i)) ∧ env.http3.sent = true
    else (s.counted d env).reusable d.selectedUpstream (d.effectiveTimeouts env s).idleTimeout (env.instant false .reuse) = true ∨
      ∃ connection, env.connect false = .connected connection
  | proxyHttp1Request _ =>
    if d.selectedUpstream.transport = .http3 then env.http3.sent = true
    else ∃ connection, env.connect false = .connected connection

end DispatchFunction

/-- Everything sent was let through by the breaker in the same attempt. -/
def SendsGated (t : List DispatchEvent) : Prop :=
  ∀ before retried reused after, t = before ++ .sent retried reused :: after → .asked retried true ∈ before

theorem sendsGated_of_none (h : ∀ e ∈ t, e.isSent = false) : SendsGated t := by
  rintro b retried re after rfl
  cases h (.sent retried re) (List.mem_append_right _ List.mem_cons_self)

theorem not_sendsGated {before rest : List DispatchEvent} {retried reused : Bool}
    (h : ∀ e ∈ before, e = .connected ∨ e.isRecord = true) : ¬ SendsGated (before ++ .sent retried reused :: rest) := by
  intro hgat
  rcases h _ (hgat before retried reused rest rfl) with he | he
  · cases he
  · cases he

theorem SendsGated.append {t' : List DispatchEvent} (h : SendsGated t) (h' : SendsGated t') : SendsGated (t ++ t') := by
  rintro b retried re after heq
  rcases List.append_eq_append_iff.1 heq with ⟨more, rfl, hm⟩ | ⟨more, rfl, hm⟩
  · exact List.mem_append_right _ (h' more retried re after hm)
  · cases more with
    | nil =>
      cases h' [] retried re after hm.symm
    | cons e more =>
      cases hm
      exact h b retried re more rfl

namespace Dispatch

variable {d : DispatchRequest} {env : DispatchEnv}

variable {retried : Bool}

/-- A request in two attempts is let through in each, where there is a breaker to ask. -/
theorem Attempted.gated {r : Except DispatchError Exit} (h : Attempted d retried r t)
    (hhee : heeds d (·.enforceCircuitBreaker) = true) : SendsGated t := by
  obtain ⟨pre, hpre, ⟨rfl, -⟩ | ⟨re, rest, rfl, hask, hend⟩⟩ := h
  · exact sendsGated_of_none (fun e he => (hpre e he).1)
  · rintro b retried' re' after heq
    -- the sent request is the only one: nothing before it or after it is sent
    have hone := congrArg (List.filter (·.isSent)) heq
    rw [List.filter_append, List.filter_append, filter_sent_of_preparing hpre, List.filter_cons_of_pos rfl,
      filter_sent_of_ending hend, List.filter_cons_of_pos rfl] at hone
    cases hbef : b.filter (·.isSent) with
    | nil =>
      obtain ⟨rfl, hs⟩ := Fields.first_unique heq (List.filter_eq_nil_iff.1 (filter_sent_of_preparing hpre)) rfl
        (List.filter_eq_nil_iff.1 hbef) rfl
      cases hs
      exact hask hhee
    | cons e sent =>
      rw [hbef] at hone
      simp at hone

variable {timeouts : ConnectionTimeouts}

/-- **An HTTP/1 dispatch to a destination with a breaker sends nothing the breaker did not let through.** -/
theorem attempts_gated (hhee : heeds d (·.enforceCircuitBreaker) = true) :
    Proc.Traces Session.log (attempts d env timeouts) (fun _ t => SendsGated t) := by
  refine (traces_attempts d env).weaken (fun _ t h => ?_)
  obtain ⟨r, hone⟩ | ⟨first, tt, rfl, hfir, r, hsec⟩ := h
  · exact hone.gated hhee
  · exact (hfir.gated hhee).append (hsec.gated hhee)

/-! ### Without a breaker to ask -/

theorem allowRequest_unbound (hpolicy : d.destinationPolicy = some policy) (hnone : policy.failureManager = none) {s : Session} :
    allowRequest d env retried s = (.ok true, { s with managers := env.elsewhere retried .gate s.managers }) := by
  have hhee : heeds d (·.enforceCircuitBreaker) = false := by
    unfold heeds
    rw [hpolicy]
    simp [hnone]
  have hall : ∀ now managers, allowDestinationRequest d.destinationPolicy now managers = (true, managers) := by
    intro now managers
    rw [hpolicy]
    simp only [allowDestinationRequest, FailureManagers.ask, hnone]
    split <;> rfl
  have hcon : consult env retried .gate (fun now => allowDestinationRequest d.destinationPolicy now) s =
      (.ok true, { s with managers := env.elsewhere retried .gate s.managers }) := by
    unfold consult
    dsimp only
    rw [hall]
  refine (Proc.bind_of_ok _ hcon).trans ?_
  rw [hhee]
  rfl

section
variable (hpolicy : d.destinationPolicy = some policy) (hnone : policy.failureManager = none) (timeouts : ConnectionTimeouts)
  (retried : Bool) (s : Session)
include hpolicy hnone

theorem attempt_unbound : attempt d env retried timeouts s = (do
    let reused ← ensureUpstreamConnection d env retried timeouts
    send d env retried timeouts reused) { s with managers := env.elsewhere retried .gate s.managers } :=
  Proc.bind_of_ok _ (allowRequest_unbound hpolicy hnone)

theorem attempt_sends (h : s.reusable d.selectedUpstream timeouts.idleTimeout (env.instant retried .reuse) = true ∨
      ∃ connection, env.connect retried = .connected connection) :
    ∃ before reused rest, (attempt d env retried timeouts s).2.log = s.log ++ (before ++ .sent retried reused :: rest) ∧
      Connecting before := by
  obtain ⟨reused, s', hens⟩ : ∃ reused s', ensureUpstreamConnection d env retried timeouts
      { s with managers := env.elsewhere retried .gate s.managers } = (.ok reused, s') := by
    cases hreu : s.reusable d.selectedUpstream timeouts.idleTimeout (env.instant retried .reuse) with
    | true => exact ⟨true, _, ensureUpstreamConnection_reuse hreu⟩
    | false =>
      obtain ⟨connection, hcon⟩ := h.resolve_left (by rw [hreu]; exact Bool.false_ne_true)
      obtain ⟨taken, -, heq⟩ := ensureUpstreamConnection_fresh (s := { s with managers := env.elsewhere retried .gate s.managers }) hreu
      rw [heq]
      unfold connectUpstream
      rw [hcon]
      exact ⟨false, _, rfl⟩
  obtain ⟨before, hbef, hc⟩ := connecting_ensureUpstreamConnection d env retried timeouts
    { s with managers := env.elsewhere retried .gate s.managers }
  rw [hens] at hbef
  obtain ⟨t, ht, rest, rfl, -⟩ := traces_send d env retried timeouts reused s'
  refine ⟨before, reused, rest, ?_, hc⟩
  rw [attempt_unbound hpolicy hnone, Proc.bind_of_ok _ hens, ht, hbef, List.append_assoc]

theorem attempt_unconnected (hreu : s.reusable d.selectedUpstream timeouts.idleTimeout (env.instant retried .reuse) = false)
    (hcon : ∀ connection, env.connect retried ≠ .connected connection) :
    ∃ error t, attempt d env retried timeouts s = (.error error, (attempt d env retried timeouts s).2) ∧
      (attempt d env retried timeouts s).2.log = s.log ++ t ∧ Connecting t := by
  obtain ⟨taken, htak, heq⟩ := ensureUpstreamConnection_fresh (s := { s with managers := env.elsewhere retried .gate s.managers }) hreu
  obtain ⟨error, s', hf⟩ : ∃ error s', connectUpstream d env retried taken = (.error error, s') := by
    unfold connectUpstream
    cases hout : env.connect retried with
    | timedOut =>
      rcases hr : recordTimeout d env retried .connect .connect taken with ⟨e | u, s'⟩
      · exact ⟨e, s', Proc.bind_of_error _ hr⟩
      · exact ⟨_, s', Proc.bind_of_ok _ hr⟩
    | failed src =>
      rcases hr : recordFailure d env retried .connect .connect taken with ⟨e | u, s'⟩
      · exact ⟨e, s', Proc.bind_of_error _ hr⟩
      · exact ⟨_, s', Proc.bind_of_ok _ hr⟩
    | connected connection => exact absurd hout (hcon connection)
  have hb := heq.trans hf
  obtain ⟨t, ht, hc⟩ := connecting_connectUpstream d env retried taken
  rw [attempt_unbound hpolicy hnone, Proc.bind_of_error _ hb]
  rw [hf, htak] at ht
  exact ⟨error, t, rfl, ht, hc⟩

end

theorem attempts_extends {s : Session} :
    ∃ more, (attempts d env timeouts s).2.log = (attempt d env false timeouts s).2.log ++ more := by
  rcases attempts_cases with hone | ⟨s', hret, htwo⟩
  · exact ⟨[], by rw [hone, List.append_nil]⟩
  · obtain ⟨t, ht, -⟩ := traces_attempt d env true s'
    exact ⟨t, by rw [htwo, ht, hret]⟩

/-! ### Dispatches that ask no breaker -/

section
variable (d env)

theorem traces_singleHttp3 : Proc.Traces Session.log (singleHttp3 d env) (fun _ t =>
    ∃ rest, Quiet rest ∧ t = (if env.http3.sent then [.sent false false] else []) ++ rest) := by
  refine Recording.afterSent ?_
  split
  · exact silent_pure.recording
  · exact silent_fail.recording
  · exact recording_recordStatus.bind (fun _ => silent_pure.recording)

abbrev Extending {α : Type} (x : Dispatch α) : Prop := Proc.Traces Session.log x (fun _ _ => True)

theorem Recording.extending {α : Type} {x : Dispatch α} (hx : Recording x) : Extending x := hx.weaken (fun _ _ _ => trivial)

theorem Extending.bind {α β : Type} {x : Dispatch α} {f : α → Dispatch β} (hx : Extending x) (hf : ∀ a, Extending (f a)) :
    Extending (x >>= f) :=
  Proc.Traces.bind hx hf (fun _ _ _ => trivial) (fun _ _ _ _ _ _ => trivial)

theorem traces_singleExchange {requestBody : Bytes} :
    Proc.Traces Session.log (singleExchange d env requestBody) (fun _ t => ∃ rest, t = .sent false false :: rest) := by
  refine Proc.Traces.bind traces_emit (Q := fun _ _ _ => True) (fun _ => ?_)
    (fun _ t h => ⟨[], h⟩) (fun _ t _ t' h _ => ⟨t', by rw [h]; rfl⟩)
  refine Extending.bind (Silent.recording (Proc.keeps_update (R := SameLog) (fun _ => rfl))).extending (fun _ => ?_)
  refine Extending.bind silent_toUpstream.recording.extending (fun _ => ?_)
  refine Extending.bind silent_toUpstream.recording.skipIf.extending (fun _ => ?_)
  refine Extending.bind silent_fromUpstream.recording.extending (fun response => ?_)
  refine Extending.bind (fun s => ⟨[], (List.append_nil _).symm, trivial⟩) (fun s => ?_)
  refine Extending.bind (traces_emit.weaken (fun _ _ _ => trivial)) (fun _ => ?_)
  have hche : Silent (Proc.ensure (!hasNonChunkedTransferCoding response.headers)
      (.relay (.parseResponse (.invalid "unsupported response transfer coding"))) : Dispatch Unit) := by
    unfold Proc.ensure
    split
    · exact silent_pure
    · exact silent_fail
  refine Extending.bind hche.recording.extending (fun _ => ?_)
  refine Extending.bind silent_fromUpstream.recording.extending (fun body => ?_)
  exact Extending.bind recording_recordStatus.extending (fun _ => silent_pure.recording.extending)

end

end Dispatch

/-! ### When the gate holds -/

section
variable {d : DispatchRequest} {env : DispatchEnv} {s : Session}

open Dispatch

/-- Where a dispatch sends first, it has asked no breaker before. -/
def Ungated (t : List DispatchEvent) : Prop :=
  ∃ before retried reused rest, t = before ++ .sent retried reused :: rest ∧ Connecting before

theorem Ungated.not_sendsGated (h : Ungated t) : ¬ SendsGated t := by
  obtain ⟨b, retried, re, rest, rfl, hc⟩ := h
  exact WayBalancer.not_sendsGated hc

theorem gated_iff_of_unasked {reaches : Prop} (hsen : reaches → Ungated t) (hnone : ¬ reaches → ∀ e ∈ t, e.isSent = false) :
    SendsGated t ↔ ¬ reaches :=
  ⟨fun hgat hrea => (hsen hrea).not_sendsGated hgat, fun hrea => sendsGated_of_none (hnone hrea)⟩

theorem Quiet.none_sent (h : Quiet t) : ∀ e ∈ t, e.isSent = false := fun e he => (h.preparing e he).1

theorem http3_gated_iff (h : d.selectedUpstream.transport = .http3) :
    SendsGated (dispatchTrace d env s) ↔ ¬ DispatchFunction.Reaches d env s .processUncachedRequest := by
  have htra : dispatchTrace d env s = (dispatchHttp3 d env (({ s with log := [] } : Session).counted d env)).2.log := by
    unfold dispatchTrace
    rw [processUncachedRequest_eq, if_pos h]
  have hrea : DispatchFunction.Reaches d env s .processUncachedRequest ↔
      (∃ body i, collectDecodedBody .request d.maxBodyBytes d.request.bodyKind s.client = (.ok body, i)) ∧ env.http3.sent = true := by
    unfold DispatchFunction.Reaches
    rw [if_pos h]
  rw [hrea, htra]
  rcases hb : collectDecodedBody .request d.maxBodyBytes d.request.bodyKind s.client with ⟨error | body, i⟩
  · rw [dispatchHttp3_error d env (s := ({ s with log := [] } : Session).counted d env) hb]
    refine gated_iff_of_unasked (fun hr => ?_) (fun _ e he => absurd he List.not_mem_nil)
    obtain ⟨⟨body, i', hr⟩, -⟩ := hr
    cases hr
  · rw [dispatchHttp3_ok d env (s := ({ s with log := [] } : Session).counted d env) hb]
    obtain ⟨t, ht, rest, hqui, rfl⟩ := traces_sendHttp3 d env (http3Session d i (({ s with log := [] } : Session).counted d env))
    rw [ht]
    refine gated_iff_of_unasked (fun hr => ?_) (fun hr => ?_)
    · rw [if_pos hr.2]
      exact ⟨[], false, false, rest, rfl, quiet_nil.connecting⟩
    · rw [if_neg (fun hs => hr ⟨⟨body, i, rfl⟩, hs⟩)]
      exact Quiet.none_sent hqui

theorem unbound_gated_iff (h : d.selectedUpstream.transport ≠ .http3) (hpolicy : d.destinationPolicy = some policy)
    (hnone : policy.failureManager = none) :
    SendsGated (dispatchTrace d env s) ↔ ¬ DispatchFunction.Reaches d env s .processUncachedRequest := by
  have htra : dispatchTrace d env s = (attempts d env (d.effectiveTimeouts env s)
      (({ s with log := [] } : Session).counted d env)).2.log := by
    unfold dispatchTrace
    rw [processUncachedRequest_eq, if_neg h]
    rfl
  unfold DispatchFunction.Reaches
  rw [if_neg h, htra]
  refine gated_iff_of_unasked (fun hr => ?_) (fun hr => ?_)
  · obtain ⟨b, re, rest, hlog, hc⟩ := attempt_sends hpolicy hnone (d.effectiveTimeouts env s) false
      (({ s with log := [] } : Session).counted d env) hr
    obtain ⟨more, hm⟩ := attempts_extends
    refine ⟨b, false, re, rest ++ more, ?_, hc⟩
    rw [hm, hlog]
    simp [Session.counted]
  · rw [not_or, not_exists, Bool.not_eq_true] at hr
    obtain ⟨error, t, hf, hlog, hc⟩ := attempt_unconnected hpolicy hnone (d.effectiveTimeouts env s)
      false (({ s with log := [] } : Session).counted d env) hr.1 hr.2
    unfold attempts
    rw [attemptsFrom_error hf, hlog]
    exact fun e he => (hc.preparing e he).1

theorem single_gated_iff {requestBody : Bytes} : SendsGated ((dispatchSingleRequest d env requestBody { s with log := [] }).2.log) ↔
      ¬ DispatchFunction.Reaches d env s (.proxyHttp1Request requestBody) := by
  unfold dispatchSingleRequest
  show _ ↔ ¬ (if d.selectedUpstream.transport = .http3 then env.http3.sent = true
    else ∃ connection, env.connect false = .connected connection)
  split_ifs with h
  · obtain ⟨t, ht, rest, hqui, rfl⟩ := traces_singleHttp3 d env { s with log := [] }
    rw [ht]
    refine gated_iff_of_unasked (fun hr => ?_) (fun hr => ?_)
    · rw [if_pos hr]
      exact ⟨[], false, false, rest, rfl, quiet_nil.connecting⟩
    · rw [if_neg hr]
      exact Quiet.none_sent hqui
  · unfold singleHttp1
    cases hcon : env.connect false with
    | timedOut => exact gated_iff_of_unasked (fun ⟨_, hr⟩ => by cases hr) (fun _ e he => absurd he List.not_mem_nil)
    | failed src => exact gated_iff_of_unasked (fun ⟨_, hr⟩ => by cases hr) (fun _ e he => absurd he List.not_mem_nil)
    | connected connection =>
      refine gated_iff_of_unasked (fun _ => ?_) (fun hr => absurd ⟨connection, rfl⟩ hr)
      obtain ⟨t, ht, rest, rfl⟩ := traces_singleExchange d env
        (let opened := ({ s with log := [], upstreamBuffer := [] } : Session).connect d.selectedUpstream (env.instant false .connect) connection
         { opened with log := [.connected] })
      exact ⟨[.connected], false, false, rest, ht, fun e he => .inl (List.mem_singleton.1 he)⟩

end

/-- **When the breaker blocks every dispatch it is closed to.**  A run to a destination whose policy enforces the breaker sends
nothing without its leave exactly if it is a connection's request to an HTTP/1 upstream and the policy holds a manager, or
nothing can be sent in it at all. -/
theorem sends_gated_iff (function : DispatchFunction) (d : DispatchRequest) (env : DispatchEnv) (s : Session)
    (policy : RouteDestinationPolicyRuntime) (hpolicy : d.destinationPolicy = some policy)
    (henforce : policy.enforceCircuitBreaker = true) :
    SendsGated (function.trace d env s) ↔
      (function = .processUncachedRequest ∧ d.selectedUpstream.transport ≠ .http3 ∧ policy.failureManager.isSome = true) ∨
        ¬ function.Reaches d env s := by
  cases function with
  | proxyHttp1Request requestBody =>
    unfold DispatchFunction.trace
    rw [single_gated_iff]
    exact ⟨.inr, fun h => h.resolve_left (fun h => by cases h.1)⟩
  | processUncachedRequest =>
    unfold DispatchFunction.trace
    by_cases htrans : d.selectedUpstream.transport = .http3
    · rw [http3_gated_iff htrans]
      exact ⟨.inr, fun h => h.resolve_left (fun h => h.2.1 htrans)⟩
    · cases hman : policy.failureManager with
      | none =>
        rw [unbound_gated_iff htrans hpolicy hman]
        exact ⟨.inr, fun h => h.resolve_left (fun h => by cases h.2.2)⟩
      | some b =>
        refine iff_of_true ?_ (.inl ⟨rfl, htrans, rfl⟩)
        have hhee : Dispatch.heeds d (·.enforceCircuitBreaker) = true := by
          unfold Dispatch.heeds
          rw [hpolicy]
          simp [henforce, hman]
        obtain ⟨t, ht, hgat⟩ := Dispatch.attempts_gated hhee
          (({ s with log := [] } : Session).counted d env)
        unfold dispatchTrace
        rw [processUncachedRequest_eq, if_neg htrans, ht]
        exact hgat

/-- A destination's breaker is open, and its HTTP/3 upstream gets the request all the same. -/
theorem http3_sent_past_open_breaker :
    (allowDestinationRequest (some enforcingPolicy) 0 (fun _ => some (plainManager .opened))).1 = false ∧
    dispatchTrace (plainDispatch .http3 (some enforcingPolicy)) (plainEnv .timedOut)
      (plainSession [] (fun _ => some (plainManager .opened))) = [.sent false false, .success] ∧
    ¬ SendsGated (DispatchFunction.trace (plainDispatch .http3 (some enforcingPolicy)) (plainEnv .timedOut)
      (plainSession [] (fun _ => some (plainManager .opened))) .processUncachedRequest) := by
  refine ⟨by decide +kernel, by decide +kernel, ?_⟩
  unfold DispatchFunction.trace
  exact not_sendsGated (fun e he => absurd he (List.not_mem_nil (a := e)))

/-- The same request to an HTTP/1 upstream is refused. -/
theorem http1_gated_by_open_breaker :
    dispatchTrace (plainDispatch .http1 (some enforcingPolicy)) (plainEnv .timedOut)
      (plainSession [] (fun _ => some (plainManager .opened))) = [.asked false false] ∧
    SendsGated (DispatchFunction.trace (plainDispatch .http1 (some enforcingPolicy)) (plainEnv .timedOut)
      (plainSession [] (fun _ => some (plainManager .opened))) .processUncachedRequest) :=
  ⟨by decide +kernel, (sends_gated_iff .processUncachedRequest _ _ _ enforcingPolicy rfl rfl).2 (.inl ⟨rfl, by decide, rfl⟩)⟩

end WayBalancer
