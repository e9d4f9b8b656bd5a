import WayBalancer.DispatchSteps
/-!
# Dispatch — a request to its upstream, and what its run logs

`process_uncached_request`: over HTTP/3 at once, over HTTP/1 in a loop that makes a second attempt where the first lost a reused
connection.  Every step either leaves the log alone, records with the destination's manager, or is one of the few that ask the
breaker, connect, send and read a response head; a request is sent at most twice, and twice only where the second can do no
harm (`request_sent_at_most_twice`).
-/
namespace WayBalancer

open Str Crlf
open List (append_nil mem_append mem_singleton not_mem_nil)
open Proc (Turn)

variable {t : List DispatchEvent} {timeouts : ConnectionTimeouts} {s s' : Session} {error : DispatchError}

namespace Dispatch

/-! ## What an attempt logs -/

def Quiet (t : List DispatchEvent) : Prop := ∀ e ∈ t, e.isRecord = true

theorem Quiet.append {t' : List DispatchEvent} (h : Quiet t) (h' : Quiet t') : Quiet (t ++ t') :=
  fun e he => (mem_append.1 he).elim (h e) (h' e)

theorem quiet_nil : Quiet [] := fun _ he => absurd he not_mem_nil

def SameLog (s s' : Session) : Prop := s'.log = s.log

abbrev Silent {α : Type} (x : Dispatch α) : Prop := Proc.Keeps SameLog x

theorem Silent.bind {α β : Type} {x : Dispatch α} {f : α → Dispatch β} (hx : Silent x) (hf : ∀ a, Silent (f a)) : Silent (x >>= f) :=
  Proc.Keeps.bind (R := SameLog) (fun _ _ _ h h' => Eq.trans h' h) hx hf

abbrev Recording {α : Type} (x : Dispatch α) : Prop := Proc.Traces Session.log x (fun _ t => Quiet t)

theorem Silent.recording {α : Type} {x : Dispatch α} (hx : Silent x) : Recording x :=
  Proc.traces_silent hx (fun _ => quiet_nil)

theorem Recording.bind {α β : Type} {x : Dispatch α} {f : α → Dispatch β} (hx : Recording x) (hf : ∀ a, Recording (f a)) :
    Recording (x >>= f) :=
  Proc.Traces.bind hx hf (fun _ _ h => h) (fun _ _ _ _ h h' => h.append h')

theorem Recording.attempt {α : Type} {x : Dispatch α} (hx : Recording x) :
    Recording (Proc.attempt x : Dispatch (Except DispatchError α)) := fun s => hx s

theorem Recording.skipIf {c : Bool} {x : Dispatch Unit} (hx : Recording x) : Recording (Proc.skipIf c x) := by
  cases c with
  | true => exact Proc.traces_pure quiet_nil
  | false => exact hx

/-- An end of an attempt that asks for no other one. -/
abbrev Closing (x : Dispatch Exit) : Prop := Proc.Traces Session.log x (fun r t => Quiet t ∧ r ≠ .ok .retry)

theorem Closing.bind {α : Type} {x : Dispatch α} {f : α → Dispatch Exit} (hx : Recording x) (hf : ∀ a, Closing (f a)) :
    Closing (x >>= f) :=
  Proc.Traces.bind hx hf (fun _ _ h => ⟨h, fun he => by cases he⟩) (fun _ _ _ _ h h' => ⟨h.append h'.1, h'.2⟩)

theorem closing_answered {status : UInt16} : Closing (pure (.answered status)) :=
  Proc.traces_pure ⟨quiet_nil, fun h => by cases h⟩

theorem closing_fail : Closing (Proc.fail error) :=
  Proc.traces_fail ⟨quiet_nil, fun h => by cases h⟩

section
variable {α : Type}

theorem silent_pure {a : α} : Silent (pure a : Dispatch α) := Proc.keeps_pure (R := SameLog) (fun _ => rfl) a

theorem silent_fail : Silent (Proc.fail error : Dispatch α) := Proc.keeps_fail (R := SameLog) (fun _ => rfl) error

theorem silent_focus {σ : Type} (part : Session → σ) (put : σ → Session → Session) (hput : ∀ a s, (put a s).log = s.log)
    (x : Proc σ Http1ProxyError α) : Silent ((x.focus part put).mapError .relay) :=
  (Proc.keeps_focus (R := SameLog) hput x).mapError

theorem silent_toUpstream {x : Proc Writer Http1ProxyError α} : Silent (toUpstream x) :=
  silent_focus Session.requestSide Session.putRequestSide (fun _ _ => rfl) _

variable {x : RelayProc α}

theorem silent_fromClient : Silent (fromClient x) :=
  silent_focus Session.requestSide Session.putRequestSide (fun _ _ => rfl) x

theorem silent_fromUpstream : Silent (fromUpstream x) :=
  silent_focus Session.responseSide Session.putResponseSide (fun _ _ => rfl) x

theorem silent_toClient {bytes : Bytes} : Silent (toClient bytes) :=
  silent_focus Session.toClient (fun w s => { s with toClient := w }) (fun _ _ => rfl) _

theorem silent_dropUpstream : Silent dropUpstream := Proc.keeps_update (R := SameLog) (fun _ => rfl)

variable {keepAlive : Bool}

theorem silent_writeLocalResponse {status : UInt16} {body : Text} : Silent (writeLocalResponse keepAlive status body) :=
  silent_toClient.bind (fun _ => silent_toClient)

variable {entry : HttpCacheEntry}

theorem silent_writeCachedResponse {method : Text} {transform : Option ResponseTransformConfig} :
    Silent (writeCachedResponse method keepAlive entry transform) :=
  silent_toClient.bind (fun _ => Proc.Keeps.skipIf (R := SameLog) (fun _ => rfl) silent_toClient)

variable {d : DispatchRequest} {env : DispatchEnv} {retried : Bool} {point : DispatchPoint} {response : Http1ResponseHead}
  {headers : List HttpHeader} {category : TimeoutCategory} {mayRetry : Bool}

theorem silent_consult {f : ℕ → FailureManagers → α × FailureManagers} : Silent (consult env retried point f) := fun _ => rfl

theorem silent_release : Silent (release env retried keepAlive) := by
  cases keepAlive with
  | true => exact Proc.keeps_update (R := SameLog) (fun _ => rfl)
  | false => exact silent_dropUpstream

theorem silent_settle : Silent (settle response) :=
  Proc.keeps_update (R := SameLog) (fun s => by split <;> rfl)

theorem traces_emit {event : DispatchEvent} : Proc.Traces Session.log (emit event) (fun _ t => t = [event]) :=
  fun _ => ⟨[event], rfl, rfl⟩

theorem recording_notify {enforced : RouteDestinationPolicyRuntime → Bool} {f : ℕ → FailureManagers → FailureManagers}
    {event : DispatchEvent} (he : event.isRecord = true) : Recording (notify d env retried point enforced f event) := by
  have hem : Recording (emit event) :=
    traces_emit.weaken (fun _ t ht e hmem => by subst ht; rw [mem_singleton.1 hmem]; exact he)
  exact silent_consult.recording.bind (fun _ => hem.skipIf)

theorem recording_recordTimeout : Recording (recordTimeout d env retried point category) := recording_notify rfl

variable {cause : UpstreamFailureClass}

theorem recording_recordFailure : Recording (recordFailure d env retried point cause) :=
  recording_notify rfl

theorem recording_recordSuccess : Recording (recordSuccess d env retried point) := recording_notify rfl

theorem recording_recordRelayError : Recording (recordRelayError d env retried point category error) := by
  unfold recordRelayError
  split
  · exact recording_recordTimeout
  · exact recording_recordFailure

theorem recording_recordStatus {status : UInt16} : Recording (recordStatus d env retried point status) := by
  unfold recordStatus
  split
  · exact recording_recordFailure
  · exact recording_recordSuccess

theorem silent_insertEntry : Silent (insertEntry d env entry) := by
  unfold insertEntry
  split
  · exact Proc.keeps_update (R := SameLog) (fun _ => rfl)
  · exact silent_pure

variable {stage : DispatchStage}

theorem silent_deadline : Silent (deadline d env retried timeouts stage) := fun _ => rfl

theorem silent_fillCache : Silent (fillCache d env response headers) := by
  refine Silent.bind silent_fromUpstream.mapError (fun fill => Silent.bind ?_ (fun _ => silent_pure))
  cases fill.entry with
  | none => exact silent_pure
  | some entry => exact silent_insertEntry

theorem recording_relayResponse : Recording (relayResponse d env retried timeouts response) := by
  refine silent_deadline.recording.bind (fun left => ?_)
  cases left with
  | error category =>
    exact recording_recordTimeout.bind (fun _ => silent_dropUpstream.recording.bind (fun _ => silent_fail.recording))
  | ok left =>
    refine silent_fromUpstream.recording.attempt.bind (fun out => ?_)
    cases out with
    | error error => exact recording_recordRelayError.bind (fun _ => silent_fail.recording)
    | ok _ => exact silent_pure.recording

theorem closing_forward : Closing (forward d env retried timeouts response headers) := by
  refine Closing.bind silent_toClient.recording (fun _ => ?_)
  refine Closing.bind silent_fillCache.recording (fun _ => ?_)
  refine Closing.bind recording_relayResponse.skipIf (fun _ => ?_)
  refine Closing.bind silent_settle.recording.skipIf (fun _ => ?_)
  refine Closing.bind recording_recordStatus (fun _ => ?_)
  exact Closing.bind silent_release.recording (fun _ => closing_answered)

variable {staleEntry : HttpCacheEntry}

theorem closing_confirm : Closing (confirm d env retried response headers staleEntry) := by
  refine Closing.bind silent_insertEntry.recording (fun _ => ?_)
  refine Closing.bind silent_writeCachedResponse.recording (fun _ => ?_)
  refine Closing.bind recording_recordSuccess (fun _ => ?_)
  exact Closing.bind silent_release.recording (fun _ => closing_answered)

theorem closing_serveStale : Closing (serveStale d env retried response staleEntry) := by
  refine Closing.bind silent_writeCachedResponse.recording (fun _ => ?_)
  refine Closing.bind recording_recordSuccess (fun _ => ?_)
  exact Closing.bind silent_dropUpstream.recording (fun _ => closing_answered)

theorem silent_tunnel {x : Proc Duplex Http1ProxyError α} : Silent (tunnel x) :=
  silent_focus Session.duplex Session.putDuplex (fun _ _ => rfl) x

theorem closing_switchProtocols {upgrade : UpgradeProtocolConfig} :
    Closing (switchProtocols d env retried upgrade response headers) := by
  unfold switchProtocols
  split
  · refine Closing.bind silent_toClient.recording (fun _ => ?_)
    refine Closing.bind silent_tunnel.recording.attempt (fun out => ?_)
    cases out with
    | error error => exact Closing.bind recording_recordRelayError (fun _ => closing_fail)
    | ok _ =>
      refine Closing.bind recording_recordSuccess (fun _ => ?_)
      exact Closing.bind silent_dropUpstream.recording (fun _ => closing_answered)
  · exact Closing.bind silent_dropUpstream.recording (fun _ => closing_fail)

/-- **After a response head nothing is sent, and no retry is asked for.** -/
theorem closing_deliver : Closing (deliver d env retried timeouts response) := by
  unfold deliver
  split
  · exact closing_switchProtocols
  · split
    · exact closing_confirm
    · split
      · exact closing_serveStale
      · split
        · exact Closing.bind silent_dropUpstream.recording (fun _ => closing_fail)
        · exact closing_forward

theorem closing_timedOut : Closing (timedOut d env retried stage category) := by
  refine Closing.bind recording_recordTimeout (fun _ => ?_)
  exact Closing.bind silent_writeLocalResponse.recording (fun _ => closing_answered)

/-- What an attempt logs once its head is out: it sends nothing more and asks the breaker nothing more, and where it asks for a
retry it was free to and has read no response head. -/
def Ending (mayRetry : Bool) (r : Except DispatchError Exit) (t : List DispatchEvent) : Prop :=
  (∀ e ∈ t, e.isRecord = true ∨ e.isResponse = true) ∧ (r = .ok .retry → mayRetry = true ∧ Quiet t)

theorem Closing.ending {x : Dispatch Exit} (hx : Closing x) : Proc.Traces Session.log x (Ending mayRetry) :=
  hx.weaken (fun _ _ h => ⟨fun e he => .inl (h.1 e he), fun hr => absurd hr h.2⟩)

theorem ending_bind {x : Dispatch α} {f : α → Dispatch Exit} (hx : Recording x)
    (hf : ∀ a, Proc.Traces Session.log (f a) (Ending mayRetry)) : Proc.Traces Session.log (x >>= f) (Ending mayRetry) :=
  Proc.Traces.bind hx hf (fun _ _ h => ⟨fun e he => .inl (h e he), fun hr => by cases hr⟩)
    (fun _ _ _ _ h h' => ⟨fun e he => (mem_append.1 he).elim (fun hm => .inl (h e hm)) (h'.1 e), fun hr =>
      ⟨(h'.2 hr).1, h.append (h'.2 hr).2⟩⟩)

theorem ending_retryOr : Proc.Traces Session.log (retryOr d env retried mayRetry cause error) (Ending mayRetry) := by
  have hf : Proc.Traces Session.log (Proc.fail error : Dispatch Exit) (Ending mayRetry) := closing_fail.ending
  cases mayRetry with
  | false => exact hf
  | true =>
    refine ending_bind silent_consult.recording (fun allowed => ?_)
    cases allowed with
    | false => exact hf
    | true => exact Proc.traces_pure ⟨fun e he => absurd he not_mem_nil, fun _ => ⟨rfl, quiet_nil⟩⟩

theorem ending_readResponse : Proc.Traces Session.log (readResponse d env retried timeouts mayRetry category) (Ending mayRetry) := by
  refine ending_bind silent_fromUpstream.recording.attempt (fun read => ?_)
  have hl : ∀ error (retryable : Bool), Proc.Traces Session.log (do
      dropUpstream
      recordFailure d env retried .responseHead .temporary
      retryOr d env retried (mayRetry && retryable) .temporary error) (Ending mayRetry) := fun error retryable => by
    refine ending_bind silent_dropUpstream.recording (fun _ => ?_)
    refine ending_bind recording_recordFailure (fun _ => ?_)
    refine ending_retryOr.weaken (fun r t h => ⟨h.1, fun hr => ⟨?_, (h.2 hr).2⟩⟩)
    exact (Bool.and_eq_true_iff.1 (h.2 hr).1).1
  split
  · -- nothing after a response head asks for a retry
    rename_i response
    have hclo : Closing (do
        Proc.skipIf (response.bodyKind != .none) (settle response)
        deliver d env retried timeouts response) :=
      Closing.bind silent_settle.recording.skipIf (fun _ => closing_deliver)
    refine Proc.Traces.bind (P := fun _ t => t = []) (Q := fun _ r t => (∀ e ∈ t, e.isRecord = true ∨ e.isResponse = true) ∧ r ≠ .ok .retry)
      (fun s => ⟨[], (append_nil _).symm, rfl⟩) (fun s => ?_) (fun e t h => ?_) (fun a t r t' h h' => ?_)
    · refine Proc.Traces.bind traces_emit (fun _ => hclo) (fun e t h => ?_) (fun a t r t' h h' => ?_)
      · subst h
        exact ⟨fun e he => by rw [mem_singleton.1 he]; exact .inr rfl, fun hr => by cases hr⟩
      · subst h
        refine ⟨fun e he => ?_, h'.2⟩
        rcases mem_append.1 he with hm | hm
        · rw [mem_singleton.1 hm]; exact .inr rfl
        · exact .inl (h'.1 e hm)
    · subst h
      exact ⟨fun e he => absurd he not_mem_nil, fun hr => by cases hr⟩
    · subst h
      exact ⟨h'.1, fun hr => absurd hr h'.2⟩
  · refine ending_bind recording_recordTimeout (fun _ => ?_)
    exact ending_bind silent_dropUpstream.recording (fun _ => closing_fail.ending)
  · exact hl _ _

theorem ending_exchange : Proc.Traces Session.log (exchange d env retried timeouts mayRetry) (Ending mayRetry) := by
  refine ending_bind silent_deadline.recording (fun left => ?_)
  cases left with
  | error category => exact closing_timedOut.ending
  | ok left =>
    refine ending_bind silent_fromClient.recording.attempt (fun out => ?_)
    cases out with
    | error error => exact ending_bind recording_recordRelayError (fun _ => closing_fail.ending)
    | ok _ =>
      refine ending_bind silent_deadline.recording (fun left => ?_)
      cases left with
      | error category => exact closing_timedOut.ending
      | ok left => exact ending_readResponse

end

section
variable (d : DispatchRequest) (env : DispatchEnv) (retried : Bool)

/-- **A request is sent once in `send`**, before everything else it logs. -/
theorem traces_send (timeouts : ConnectionTimeouts) (reused : Bool) :
    Proc.Traces Session.log (send d env retried timeouts reused) (fun r t => ∃ t', t = .sent retried reused :: t' ∧
      Ending (reused && !retried && requestIsSafeStaleReuseRetryCandidate d.request) r t') := by
  refine Proc.Traces.bind traces_emit (Q := fun _ => Ending (reused && !retried && requestIsSafeStaleReuseRetryCandidate d.request))
    (fun _ => ?_) (fun e t h => ⟨[], h, fun e he => absurd he not_mem_nil, fun hr => by cases hr⟩)
    (fun _ t r t' h h' => ⟨t', by rw [h]; rfl, h'⟩)
  have ho : Silent (Proc.update (fun s => { s with owed := s.owed + 1 }) : Dispatch Unit) := Proc.keeps_update (R := SameLog) (fun _ => rfl)
  refine ending_bind ho.recording (fun _ => ?_)
  refine ending_bind silent_toUpstream.recording.attempt (fun written => ?_)
  cases written with
  | error error =>
    refine ending_bind silent_dropUpstream.recording (fun _ => ?_)
    exact ending_bind recording_recordFailure (fun _ => ending_retryOr)
  | ok _ => exact ending_exchange

def Preparing (t : List DispatchEvent) : Prop := ∀ e ∈ t, e.isSent = false ∧ e.isResponse = false

theorem Quiet.preparing (h : Quiet t) : Preparing t := by
  intro e he
  have hrec := h e he
  cases e <;> first | exact ⟨rfl, rfl⟩ | cases hrec

theorem Preparing.append {t' : List DispatchEvent} (h : Preparing t) (h' : Preparing t') : Preparing (t ++ t') :=
  fun e he => (mem_append.1 he).elim (h e) (h' e)

theorem traces_allowRequest : Proc.Traces Session.log (allowRequest d env retried) (fun r t =>
    ∃ allowed, r = .ok allowed ∧ t = if heeds d (·.enforceCircuitBreaker) then [.asked retried allowed] else []) := by
  refine Proc.Traces.bind (P := fun r t => t = [] ∧ ∃ allowed, r = .ok allowed) (fun s => ⟨[], (append_nil _).symm, rfl, _, rfl⟩)
    (Q := fun allowed r t => r = .ok allowed ∧ t = if heeds d (·.enforceCircuitBreaker) then [.asked retried allowed] else [])
    (fun allowed s => ?_) (fun _ _ h => by obtain ⟨-, _, h⟩ := h; cases h)
    (fun allowed t r t' h h' => ⟨allowed, h'.1, by rw [h.1, h'.2]; rfl⟩)
  cases heeds d (·.enforceCircuitBreaker) with
  | true => exact ⟨[.asked retried allowed], rfl, rfl, rfl⟩
  | false => exact ⟨[], (append_nil _).symm, rfl, rfl⟩

theorem preparing_allowRequest : Proc.Traces Session.log (allowRequest d env retried) (fun _ t => Preparing t) := by
  refine (traces_allowRequest d env retried).weaken (fun r t h => ?_)
  obtain ⟨allowed, -, rfl⟩ := h
  intro e he
  split at he
  · rw [mem_singleton.1 he]
    exact ⟨rfl, rfl⟩
  · cases he

def Connecting (t : List DispatchEvent) : Prop := ∀ e ∈ t, e = .connected ∨ e.isRecord = true

theorem Quiet.connecting (h : Quiet t) : Connecting t := fun e he => .inr (h e he)

theorem Connecting.preparing (h : Connecting t) : Preparing t := by
  intro e he
  rcases h e he with rfl | hrec
  · exact ⟨rfl, rfl⟩
  · cases e <;> first | exact ⟨rfl, rfl⟩ | cases hrec

theorem connecting_connectUpstream : Proc.Traces Session.log (connectUpstream d env retried) (fun _ t => Connecting t) := by
  unfold connectUpstream
  split
  · exact (recording_recordTimeout.bind (fun _ => silent_fail.recording)).weaken (fun _ _ h => h.connecting)
  · exact (recording_recordFailure.bind (fun _ => silent_fail.recording)).weaken (fun _ _ h => h.connecting)
  · exact fun s => ⟨[.connected], rfl, fun e he => .inl (mem_singleton.1 he)⟩

section
variable {d env retried}

theorem ensureUpstreamConnection_fresh (h : s.reusable d.selectedUpstream timeouts.idleTimeout (env.instant retried .reuse) = false) :
    ∃ taken, taken.log = s.log ∧ ensureUpstreamConnection d env retried timeouts s = connectUpstream d env retried taken := by
  refine ⟨if s.connectedTo d.selectedUpstream then s.dropUpstreamConnection else { s with upstream := none }, ?_, ?_⟩
  · split <;> rfl
  · show (if s.reusable d.selectedUpstream timeouts.idleTimeout (env.instant retried .reuse) then pure true else _ : Dispatch Bool) s = _
    rw [if_neg (by rw [h]; exact Bool.false_ne_true)]
    rfl

theorem ensureUpstreamConnection_reuse (h : s.reusable d.selectedUpstream timeouts.idleTimeout (env.instant retried .reuse) = true) :
    ensureUpstreamConnection d env retried timeouts s = (.ok true, s) := by
  show (if s.reusable d.selectedUpstream timeouts.idleTimeout (env.instant retried .reuse) then pure true else _ : Dispatch Bool) s = _
  rw [if_pos h]
  rfl

end

theorem connecting_ensureUpstreamConnection (timeouts : ConnectionTimeouts) :
    Proc.Traces Session.log (ensureUpstreamConnection d env retried timeouts) (fun _ t => Connecting t) := by
  intro s
  cases h : s.reusable d.selectedUpstream timeouts.idleTimeout (env.instant retried .reuse) with
  | true =>
    rw [ensureUpstreamConnection_reuse h]
    exact ⟨[], (append_nil _).symm, quiet_nil.connecting⟩
  | false =>
    obtain ⟨taken, htak, heq⟩ := ensureUpstreamConnection_fresh h
    rw [heq, ← htak]
    exact connecting_connectUpstream d env retried taken

/-- What an attempt logs: it prepares, and where it comes to send, it was let through, sends once and ends. -/
def Attempted (r : Except DispatchError Exit) (t : List DispatchEvent) : Prop :=
  ∃ pre, Preparing pre ∧ ((t = pre ∧ r ≠ .ok .retry) ∨ ∃ reused rest, t = pre ++ .sent retried reused :: rest ∧
    (heeds d (·.enforceCircuitBreaker) = true → .asked retried true ∈ pre) ∧
    Ending (reused && !retried && requestIsSafeStaleReuseRetryCandidate d.request) r rest)

theorem traces_passed : Proc.Traces Session.log (do
      let reused ← ensureUpstreamConnection d env retried timeouts
      send d env retried timeouts reused) (fun r t => ∃ pre, Preparing pre ∧ ((t = pre ∧ r ≠ .ok .retry) ∨
        ∃ reused rest, t = pre ++ .sent retried reused :: rest ∧
          Ending (reused && !retried && requestIsSafeStaleReuseRetryCandidate d.request) r rest)) := by
  refine Proc.Traces.bind (connecting_ensureUpstreamConnection d env retried timeouts) (traces_send d env retried timeouts)
    (fun _ t h => ⟨t, h.preparing, .inl ⟨rfl, fun hr => by cases hr⟩⟩) (fun reused t r t' h h' => ?_)
  obtain ⟨rest, rfl, hend⟩ := h'
  exact ⟨t, h.preparing, .inr ⟨reused, rest, rfl, hend⟩⟩

/-- **An attempt sends the request at most once, and not past a closed gate.** -/
theorem traces_attempt : Proc.Traces Session.log (attempt d env retried timeouts) (Attempted d retried) := by
  have hg : Proc.Traces Session.log (allowRequest d env retried) (fun r t => Preparing t ∧ ∃ allowed, r = .ok allowed ∧
      (heeds d (·.enforceCircuitBreaker) = true → .asked retried allowed ∈ t)) := fun s => by
    obtain ⟨t, hlog, allowed, hr, rfl⟩ := traces_allowRequest d env retried s
    obtain ⟨t', hlog', hp⟩ := preparing_allowRequest d env retried s
    obtain rfl : t' = _ := List.append_cancel_left (hlog'.symm.trans hlog)
    exact ⟨_, hlog, hp, allowed, hr, fun hhee => by rw [if_pos hhee]; exact List.mem_singleton_self _⟩
  refine Proc.Traces.bind hg (Q := fun allowed r t => ∃ pre, Preparing pre ∧ ((t = pre ∧ r ≠ .ok .retry) ∨
      allowed = true ∧ ∃ re rest, t = pre ++ .sent retried re :: rest ∧
        Ending (re && !retried && requestIsSafeStaleReuseRetryCandidate d.request) r rest)) (fun allowed => ?_)
    (fun _ t h => ⟨t, h.1, .inl ⟨rfl, fun hr => by cases hr⟩⟩) (fun allowed t r t' h h' => ?_)
  · cases allowed with
    | true =>
      refine (traces_passed d env retried).weaken (fun r t h => ?_)
      obtain ⟨pre, hpre, hsto | hs⟩ := h
      · exact ⟨pre, hpre, .inl hsto⟩
      · exact ⟨pre, hpre, .inr ⟨rfl, hs⟩⟩
    | false =>
      refine (Closing.bind silent_writeLocalResponse.recording (fun _ => closing_answered)).weaken (fun r t h => ?_)
      exact ⟨t, h.1.preparing, .inl ⟨rfl, h.2⟩⟩
  · obtain ⟨hp, _, hall, hask⟩ := h
    cases hall
    obtain ⟨pre, hpre, ⟨rfl, hr⟩ | ⟨rfl, re, rest, rfl, hend⟩⟩ := h'
    · exact ⟨t ++ t', hp.append hpre, .inl ⟨rfl, hr⟩⟩
    · exact ⟨t ++ pre, hp.append hpre, .inr ⟨re, rest, by rw [List.append_assoc], fun hhee => List.mem_append_left _ (hask hhee), hend⟩⟩

theorem Attempted.retry (h : Attempted d retried (.ok .retry) t) :
    retried = false ∧ requestIsSafeStaleReuseRetryCandidate d.request = true ∧
      ∃ pre rest, t = pre ++ .sent false true :: rest ∧ Preparing pre ∧ Quiet rest := by
  obtain ⟨pre, hpre, ⟨-, hr⟩ | ⟨re, rest, rfl, -, hend⟩⟩ := h
  · exact absurd rfl hr
  · obtain ⟨hmay, hqui⟩ := hend.2 rfl
    simp only [Bool.and_eq_true, Bool.not_eq_true'] at hmay
    obtain ⟨⟨rfl, rfl⟩, hs⟩ := hmay
    exact ⟨rfl, hs, pre, rest, rfl, hpre, hqui⟩

/-! ## The whole run -/

/-- The body of an answer over HTTP/3 has its length in a header line. -/
def http3ResponseHeaders (response : Http3UpstreamResponse) : List HttpHeader :=
  let normalized := normalizeResponseHeaders response.headers d.request.keepAlive (.contentLength response.body.length)
  transformResponseHeaders d.responseTransform
    (if hasHeader normalized (lit "content-length") then normalized else normalized ++ [contentLengthLine response.body.length])

/-- What becomes of a request over HTTP/3 once its body is there. -/
def answerHttp3 : Dispatch UInt16 :=
  match env.http3 with
  | .gracefulDrain _ => do
    writeLocalResponse d.request.keepAlive 503 (lit "upstream draining\n")
    return 503
  | .failed _ source => Proc.fail (.relay (.responseIo source))
  | .answered response => do
    toClient (encodeResponseHead .http1 response.status response.reason (http3ResponseHeaders d response))
    Proc.skipIf response.body.isEmpty (toClient response.body)
    recordStatus d env false .delivery response.status
    return response.status

/-- The client's whole body, without the framing HTTP/3 does not use. -/
def clientBody : Dispatch Bytes :=
  ((collectDecodedBody .request d.maxBodyBytes d.request.bodyKind).focus Session.client
    (fun i s => { s with client := i })).mapError .relay

def sendHttp3 : Dispatch UInt16 := do
  Proc.skipIf (!env.http3.sent) (emit (.sent false false))
  answerHttp3 d env

def dispatchHttp3 : Dispatch UInt16 := do
  dropUpstream
  Proc.update (fun s => { s with activeUpstream := some d.selectedUpstream })
  let _ ← clientBody d
  sendHttp3 d env

def turn (timeouts : ConnectionTimeouts) (retriedStaleReuse : Bool) : Dispatch (Turn Bool UInt16) := do
  match ← attempt d env retriedStaleReuse timeouts with
  | .answered status => return .done status
  | .retry           => return .again true

theorem turn_again {retriedStaleReuse again : Bool} (h : turn d env timeouts retriedStaleReuse s = (.ok (.again again), s')) :
    attempt d env retriedStaleReuse timeouts s = (.ok .retry, s') ∧ again = true := by
  obtain ⟨exit, s₁, hatt, h⟩ := Proc.bind_ok.1 h
  cases exit with
  | answered status => cases (Proc.pure_ok.1 h).1
  | retry =>
    obtain ⟨haga, rfl⟩ := Proc.pure_ok.1 h
    cases haga
    exact ⟨hatt, rfl⟩

theorem turn_lt (timeouts : ConnectionTimeouts) (b : Bool) (s : Session) (b' : Bool) (s' : Session)
    (h : turn d env timeouts b s = (.ok (.again b'), s')) : (if b' then 0 else 1) < if b then 0 else 1 := by
  obtain ⟨hatt, rfl⟩ := turn_again d env h
  obtain ⟨t, -, ht⟩ := traces_attempt d env b s
  rw [hatt] at ht
  obtain ⟨rfl, -⟩ := Attempted.retry d b ht
  decide

def attemptsFrom (timeouts : ConnectionTimeouts) (retriedStaleReuse : Bool) : Dispatch UInt16 :=
  Proc.loop (fun retriedStaleReuse _ => if retriedStaleReuse then 0 else 1) (turn d env timeouts) (turn_lt d env timeouts)
    retriedStaleReuse

def attempts (timeouts : ConnectionTimeouts) : Dispatch UInt16 := attemptsFrom d env timeouts false

section
variable {d env}

theorem attemptsFrom_answered {retried : Bool} {status : UInt16} (h : attempt d env retried timeouts s = (.ok (.answered status), s')) :
    attemptsFrom d env timeouts retried s = (.ok status, s') :=
  Proc.loop_done _ _ (turn_lt d env timeouts) (Proc.bind_of_ok _ h)

theorem attemptsFrom_error {retried : Bool} (h : attempt d env retried timeouts s = (.error error, s')) :
    attemptsFrom d env timeouts retried s = (.error error, s') :=
  Proc.loop_error _ _ (turn_lt d env timeouts) (Proc.bind_of_error _ h)

theorem attemptsFrom_retry {retried : Bool} (h : attempt d env retried timeouts s = (.ok .retry, s')) :
    attemptsFrom d env timeouts retried s = attemptsFrom d env timeouts true s' :=
  Proc.loop_again _ _ (turn_lt d env timeouts) (Proc.bind_of_ok _ h)

/-- **The loop makes one attempt, or two of which the first asked for the second.** -/
theorem attempts_cases : (attempts d env timeouts s).2 = (attempt d env false timeouts s).2 ∨
      ∃ s', attempt d env false timeouts s = (.ok .retry, s') ∧ (attempts d env timeouts s).2 = (attempt d env true timeouts s').2 := by
  have hone : ∀ retried s, (attempt d env retried timeouts s).1 ≠ .ok .retry →
      (attemptsFrom d env timeouts retried s).2 = (attempt d env retried timeouts s).2 := by
    intro retried s hne
    rcases h : attempt d env retried timeouts s with ⟨error | exit, s'⟩
    · rw [attemptsFrom_error h]
    · cases exit with
      | answered status => rw [attemptsFrom_answered h]
      | retry => rw [h] at hne; exact absurd rfl hne
  rcases h : attempt d env false timeouts s with ⟨error | exit, s'⟩
  · exact .inl ((hone false s (by rw [h]; exact fun hr => by cases hr)).trans (by rw [h]))
  cases exit with
  | answered status => exact .inl ((hone false s (by rw [h]; exact fun hr => by cases hr)).trans (by rw [h]))
  | retry =>
    -- a second attempt is the last: a third would be a retry of one that is itself a retry
    refine .inr ⟨s', rfl, ?_⟩
    unfold attempts
    rw [attemptsFrom_retry h]
    refine hone true s' (fun hr => ?_)
    obtain ⟨t, -, ht⟩ := traces_attempt d env true s'
    rw [hr] at ht
    cases (Attempted.retry d true ht).1

end

theorem traces_attempts : Proc.Traces Session.log (attempts d env timeouts) (fun _ t =>
    (∃ r, Attempted d false r t) ∨
      ∃ first second, t = first ++ second ∧ Attempted d false (.ok .retry) first ∧ ∃ r, Attempted d true r second) := by
  intro s
  obtain ⟨first, hfir, hatt⟩ := traces_attempt d env false s
  rcases attempts_cases with hone | ⟨s', hret, htwo⟩
  · exact ⟨first, by rw [hone, hfir], .inl ⟨_, hatt⟩⟩
  · obtain ⟨second, hsec, hatt'⟩ := traces_attempt d env true s'
    rw [hret] at hfir hatt
    exact ⟨first ++ second, by rw [htwo, hsec, hfir, List.append_assoc], .inr ⟨first, second, rfl, hatt, _, hatt'⟩⟩

theorem recording_answerHttp3 : Recording (answerHttp3 d env) := by
  unfold answerHttp3
  split
  · exact silent_writeLocalResponse.recording.bind (fun _ => silent_pure.recording)
  · exact silent_fail.recording
  · refine silent_toClient.recording.bind (fun _ => ?_)
    refine silent_toClient.recording.skipIf.bind (fun _ => ?_)
    exact recording_recordStatus.bind (fun _ => silent_pure.recording)

/-- The session over HTTP/3 once the client's body has been read as far as it went. -/
def http3Session (i : Input) (s : Session) : Session :=
  { s.dropUpstreamConnection with activeUpstream := some d.selectedUpstream, client := i }

theorem dispatchHttp3_eq : dispatchHttp3 d env s = (clientBody d >>= fun _ => sendHttp3 d env) (http3Session d s.client s) := rfl

theorem dispatchHttp3_error {error : Http1ProxyError} {i : Input}
    (h : collectDecodedBody .request d.maxBodyBytes d.request.bodyKind s.client = (.error error, i)) :
    dispatchHttp3 d env s = (.error (.relay error), http3Session d i s) := by
  have hb : clientBody d (http3Session d s.client s) = (.error (.relay error), http3Session d i s) := by
    unfold clientBody Proc.mapError Proc.focus
    rw [show (http3Session d s.client s).client = s.client from rfl, h]
    rfl
  rw [dispatchHttp3_eq]
  exact Proc.bind_of_error _ hb

theorem dispatchHttp3_ok {body : Bytes} {i : Input}
    (h : collectDecodedBody .request d.maxBodyBytes d.request.bodyKind s.client = (.ok body, i)) :
    dispatchHttp3 d env s = sendHttp3 d env (http3Session d i s) := by
  have hb : clientBody d (http3Session d s.client s) = (.ok body, http3Session d i s) :=
    Proc.mapError_ok.2 (Proc.focus_ok.2 ⟨i, h, rfl⟩)
  exact Proc.bind_of_ok _ hb

variable {env} in
theorem Recording.afterSent (hx : Recording x) :
    Proc.Traces Session.log (do Proc.skipIf (!env.http3.sent) (emit (.sent false false)); x) (fun _ t =>
      ∃ rest, Quiet rest ∧ t = (if env.http3.sent then [.sent false false] else []) ++ rest) := by
  cases hs : env.http3.sent with
  | true =>
    exact Proc.Traces.bind traces_emit (fun _ => hx)
      (fun _ t h => ⟨[], quiet_nil, by rw [h]; rfl⟩) (fun _ t _ t' h h' => ⟨t', h', by rw [h]; rfl⟩)
  | false => exact hx.weaken (fun _ t h => ⟨t, h, rfl⟩)

theorem traces_sendHttp3 : Proc.Traces Session.log (sendHttp3 d env) (fun _ t =>
    ∃ rest, Quiet rest ∧ t = (if env.http3.sent then [.sent false false] else []) ++ rest) :=
  (recording_answerHttp3 d env).afterSent

theorem traces_dispatchHttp3 : Proc.Traces Session.log (dispatchHttp3 d env) (fun _ t =>
    ∃ rest, Quiet rest ∧ (t = rest ∨ t = .sent false false :: rest)) := by
  intro s
  rcases hb : collectDecodedBody .request d.maxBodyBytes d.request.bodyKind s.client with ⟨error | body, i⟩
  · rw [dispatchHttp3_error d env hb]
    exact ⟨[], (append_nil _).symm, [], quiet_nil, .inl rfl⟩
  · rw [dispatchHttp3_ok d env hb]
    obtain ⟨t, ht, rest, hqui, rfl⟩ := traces_sendHttp3 d env (http3Session d i s)
    refine ⟨_, ht, rest, hqui, ?_⟩
    split
    · exact .inr rfl
    · exact .inl rfl

end

end Dispatch

section
variable (d : DispatchRequest) (env : DispatchEnv)

def processUncachedRequest : Dispatch UInt16 := do
  Dispatch.consult env false .baseRequest (fun now managers => ((), recordDestinationRequest d.destinationPolicy now managers))
  let s ← Proc.get
  let timeouts := effectiveDestinationUpstreamTimeouts d.timeouts d.destinationPolicy s.managers
  if d.selectedUpstream.transport = .http3 then Dispatch.dispatchHttp3 d env else Dispatch.attempts d env timeouts

def dispatchTrace (s : Session) : List DispatchEvent := (processUncachedRequest d env { s with log := [] }).2.log

def Session.counted (s : Session) : Session :=
  let managers := env.elsewhere false .baseRequest s.managers
  { s with managers := recordDestinationRequest d.destinationPolicy (env.wall false .baseRequest) managers }

def DispatchRequest.effectiveTimeouts (s : Session) : ConnectionTimeouts :=
  effectiveDestinationUpstreamTimeouts d.timeouts d.destinationPolicy (s.counted d env).managers

theorem processUncachedRequest_eq (s : Session) : processUncachedRequest d env s =
    if d.selectedUpstream.transport = .http3 then Dispatch.dispatchHttp3 d env (s.counted d env)
    else Dispatch.attempts d env (d.effectiveTimeouts env s) (s.counted d env) := by
  show (if d.selectedUpstream.transport = .http3 then Dispatch.dispatchHttp3 d env
    else Dispatch.attempts d env (d.effectiveTimeouts env s) : Dispatch UInt16) (s.counted d env) = _
  split
  · rfl
  · rfl

end

/-! ## How often a request is sent -/

namespace Dispatch

theorem filter_sent_of_preparing (h : Preparing t) : t.filter (·.isSent) = [] :=
  List.filter_eq_nil_iff.2 (fun e he => by rw [(h e he).1]; exact Bool.false_ne_true)

variable {r : Except DispatchError Exit}

theorem filter_sent_of_ending {mayRetry : Bool} (h : Ending mayRetry r t) : t.filter (·.isSent) = [] := by
  refine List.filter_eq_nil_iff.2 (fun e he => ?_)
  have hk := h.1 e he
  cases e <;> simp_all [DispatchEvent.isSent, DispatchEvent.isRecord, DispatchEvent.isResponse]

theorem Attempted.sent_le {d : DispatchRequest} {retried : Bool} (h : Attempted d retried r t) : (t.filter (·.isSent)).length ≤ 1 := by
  obtain ⟨pre, hpre, ⟨rfl, -⟩ | ⟨re, rest, rfl, -, hend⟩⟩ := h
  · rw [filter_sent_of_preparing hpre]
    exact Nat.zero_le 1
  · rw [List.filter_append, filter_sent_of_preparing hpre, List.filter_cons_of_pos rfl, filter_sent_of_ending hend]
    exact Nat.le_refl 1

end Dispatch

open Dispatch in
/-- **A request goes out at most twice**, and twice only where it has no body, may be repeated, went out first on a reused
connection, and no response head was read from it. -/
theorem request_sent_at_most_twice (d : DispatchRequest) (env : DispatchEnv) (s : Session) :
    ((dispatchTrace d env s).filter (·.isSent)).length ≤ 2 ∧
    (((dispatchTrace d env s).filter (·.isSent)).length = 2 →
      d.request.bodyKind = .none ∧
      (requestMethodIsIdempotent d.request.method = true ∨ requestHasIdempotencyKeyOverride d.request.headers = true) ∧
      ∃ before between after reused,
        dispatchTrace d env s = before ++ .sent false true :: between ++ .sent true reused :: after ∧
        ∀ e ∈ before ++ between, e.isResponse = false) := by
  have hlog : (({ s with log := [] } : Session).counted d env).log = [] := rfl
  unfold dispatchTrace
  rw [processUncachedRequest_eq]
  split_ifs with htrans
  · obtain ⟨t, ht, rest, hqui, hs⟩ := traces_dispatchHttp3 d env (({ s with log := [] } : Session).counted d env)
    have hone : (t.filter (·.isSent)).length ≤ 1 := by
      rcases hs with rfl | rfl
      · rw [filter_sent_of_preparing hqui.preparing]
        exact Nat.zero_le 1
      · rw [List.filter_cons_of_pos rfl, filter_sent_of_preparing hqui.preparing]
        exact Nat.le_refl 1
    rw [ht, hlog, List.nil_append]
    exact ⟨by omega, fun htwo => by omega⟩
  · obtain ⟨t, ht, hcas⟩ := traces_attempts d env
      (({ s with log := [] } : Session).counted d env)
    rw [ht, hlog, List.nil_append]
    obtain ⟨r, hone⟩ | ⟨first, tt, rfl, hfir, r, hsec⟩ := hcas
    · exact ⟨by have := hone.sent_le; omega, fun htwo => by have := hone.sent_le; omega⟩
    · have hle := hsec.sent_le
      have hle' := hfir.sent_le
      obtain ⟨-, hsa, before, rest, rfl, hbef, hr⟩ := Attempted.retry d false hfir
      rw [List.filter_append, List.length_append]
      refine ⟨by omega, fun htwo => ?_⟩
      -- the second attempt sent too
      obtain ⟨pre, hpre, ⟨rfl, -⟩ | ⟨reused, after, rfl, -⟩⟩ := hsec
      · rw [filter_sent_of_preparing hpre] at htwo
        simp only [List.length_nil] at htwo
        omega
      simp only [requestIsSafeStaleReuseRetryCandidate, Bool.and_eq_true, beq_iff_eq, Bool.or_eq_true] at hsa
      refine ⟨hsa.1, hsa.2, before, rest ++ pre, after, reused, by simp, fun e he => ?_⟩
      rcases mem_append.1 he with he | he
      · exact (hbef e he).2
      · exact ((hr.preparing.append hpre) e he).2

/-! ## A plain request -/

theorem token_ne_ok {α : Type} {x : α} {P : Prop} (h : (.error .token : Except HttparseError α) = .ok x) : P := by
  cases h

def refusingParser : HeadParser where
  request _ _ := .error .token
  response _ _ := .error .token
  request_consumed := token_ne_ok
  response_consumed := token_ne_ok

def plainRequest : Http1RequestHead where
  method := lit "GET"
  target := lit "/"
  version := .http1
  headers := [⟨lit "host", lit "a"⟩]
  bodyKind := .none
  keepAlive := true
  route := none
  http10 := false

def plainTarget (transport : UpstreamTransport) : UpstreamTarget := ⟨lit "a", ⟨.v4 10 0 0 1, 80⟩, transport⟩

def plainDispatch (transport : UpstreamTransport) (policy : Option RouteDestinationPolicyRuntime) : DispatchRequest where
  parser := refusingParser
  parseHttpDate _ := none
  metadataSize := 0
  limits := ⟨8192, 64, 1024⟩
  timeouts := ⟨3, 1, 30⟩
  responseCache := none
  effectiveClientIp := .v4 127 0 0 1
  selectedUpstream := plainTarget transport
  request := plainRequest
  requestedUpgrade := none
  destinationPolicy := policy
  responseTransform := none
  cacheLookupKey := none
  staleFallback := none
  revalidationEntry := none
  now := 0

def plainEnv (connect : ConnectOutcome) : DispatchEnv where
  requestStarted := 0
  instant _ _ := 0
  wall _ _ := 0
  elsewhere _ _ managers := managers
  connect _ := connect
  http3 := .answered ⟨200, [], [], []⟩
  storeElsewhere store := store
  requestFailsFirst := true
  connectionLost _ := true
  display _ := ""

def plainSession (client : List ReadEvent) (managers : FailureManagers) : Session where
  client := ⟨client, []⟩
  toClient := ⟨[], none⟩
  upstream := none
  upstreamBuffer := []
  activeUpstream := none
  lastUpstreamActivity := none
  upstreamConnectedAt := none
  managers := managers
  store := none
  foreign := 0
  owed := 0
  log := []

def enforcingPolicy : RouteDestinationPolicyRuntime where
  requestTransform := none
  responseTransform := none
  trafficMirror := none
  faultInjection := none
  rateLimiters := []
  concurrencyLimiters := []
  failureManager := some ⟨some (lit "retry"), some (lit "timeout"), some (lit "breaker")⟩
  enforceRetryBudget := true
  enforceTimeoutHierarchy := true
  enforceCircuitBreaker := true

def plainManager (state : CircuitBreakerState) : FailureManager where
  retryBudget := ⟨⟨3, 20, 10⟩, ⟨0, 0, 0⟩, 0⟩
  timeoutHierarchy := ⟨60, 40, 3, 30⟩
  circuitBreaker := ⟨⟨1, 10, 1, Nat.le_of_ble_eq_true rfl, Nat.le_of_ble_eq_true rfl⟩, ⟨state, 0, 0, 0, 0, 0⟩, 0, 0, []⟩
  timeoutCategoryCounts _ := 0

end WayBalancer
