import WayBalancer.Fields
import WayBalancer.HttpFraming
/-!
# HttpForwarding — the framing of a forwarded message

A forwarded header list keeps or drops the lines of a name together (`linesOf_filterHeaders`), so what the next reader
detects depends on three names only: `host`, `transfer-encoding` and `content-length`.  The names a `Connection` line
nominates are dropped before the framing names are looked at: `requestFraming_iff` and `responseFraming_iff` say for
which messages the framing is nevertheless the received one.
-/
namespace WayBalancer

open Str

/-! ## What detection and hardening read -/

variable {a b : List HttpHeader}

theorem hasHeader_congr {name : Text} (h : linesOf a name = linesOf b name) : hasHeader a name = hasHeader b name := by
  rw [hasHeader_eq_lines, hasHeader_eq_lines, h]

theorem detectBodyKind_congr (hte : linesOf a (lit "transfer-encoding") = linesOf b (lit "transfer-encoding"))
    (hcl : linesOf a (lit "content-length") = linesOf b (lit "content-length")) : detectBodyKind a = detectBodyKind b := by
  unfold detectBodyKind headerValueContainsToken contentLengths
  rw [membersOf_congr hte, hcl]

theorem hardening_congr (hh : linesOf a (lit "host") = linesOf b (lit "host"))
    (hte : linesOf a (lit "transfer-encoding") = linesOf b (lit "transfer-encoding"))
    (hcl : linesOf a (lit "content-length") = linesOf b (lit "content-length")) :
    validateHttp1RequestHardening a = validateHttp1RequestHardening b := by
  unfold validateHttp1RequestHardening transferCodingTokens
  rw [hh, hasHeader_congr hte, hasHeader_congr hcl, tokensOf_congr hte]

variable {hs : List HttpHeader}

/-- **What an accepted request satisfies.** -/
theorem hardening_ok (h : validateHttp1RequestHardening hs = .ok ()) : (∃ line, linesOf hs (lit "host") = [line]) ∧
    (linesOf hs (lit "content-length") = [] ∨ linesOf hs (lit "transfer-encoding") = []) := by
  unfold validateHttp1RequestHardening at h
  simp only at h
  split at h
  · cases h
  split at h
  · cases h
  split at h
  · cases h
  rename_i h2
  refine ⟨List.length_eq_one_iff.1 (by omega), ?_⟩
  rw [hasHeader_eq_lines, hasHeader_eq_lines] at h2
  by_cases hc : linesOf hs (lit "content-length") = []
  · exact .inl hc
  · refine .inr (Classical.byContradiction (fun ht => h2 ?_))
    simp [hc, ht]

theorem hardening_of_no_framing {line : HttpHeader} (hh : linesOf hs (lit "host") = [line])
    (hte : linesOf hs (lit "transfer-encoding") = []) (hcl : linesOf hs (lit "content-length") = []) :
    validateHttp1RequestHardening hs = .ok () := by
  unfold validateHttp1RequestHardening transferCodingTokens tokensOf
  rw [hh, hasHeader_eq_lines, hasHeader_eq_lines, hcl, membersOf_of_lines_nil hte]
  rfl

theorem detectBodyKind_of_no_framing (hte : linesOf hs (lit "transfer-encoding") = [])
    (hcl : linesOf hs (lit "content-length") = []) : detectBodyKind hs = .ok .none := by
  unfold detectBodyKind headerValueContainsToken contentLengths
  rw [membersOf_of_lines_nil hte, hcl]
  rfl

variable {k : BodyKind}

theorem contentLengthKind_cases {values : List Text} (h : contentLengthKind values = .ok k) :
    k = .none ∨ values ≠ [] ∧ ∃ n, k = .contentLength n := by
  cases values with
  | nil => left; unfold contentLengthKind at h; exact (Except.ok.inj h).symm
  | cons v rest =>
    unfold contentLengthKind at h
    simp only at h
    split at h
    · cases h
    split at h
    · cases h
    split at h
    · cases h
    rename_i length _
    have hk := Except.ok.inj h
    split_ifs at hk with h0
    · exact .inl hk.symm
    · exact .inr ⟨by simp, length, hk.symm⟩

/-- **What a detected kind says of the framing lines.** -/
theorem detectBodyKind_cases (h : detectBodyKind hs = .ok k) : (k = .chunked ∧ linesOf hs (lit "transfer-encoding") ≠ []) ∨ k = .none ∨
    (linesOf hs (lit "content-length") ≠ [] ∧ ∃ n, k = .contentLength n) := by
  unfold detectBodyKind at h
  split at h
  · rename_i hc
    refine .inl ⟨(Except.ok.inj h).symm, fun hte => ?_⟩
    unfold headerValueContainsToken at hc
    rw [membersOf_of_lines_nil hte] at hc
    cases hc
  · rcases contentLengthKind_cases h with hk | ⟨hne, hk⟩
    · exact .inr (.inl hk)
    · exact .inr (.inr ⟨fun hcl => hne (by unfold contentLengths; rw [hcl]; rfl), hk⟩)

/-! ## Requests -/

theorem linesOf_closeLine (keepAlive : Bool) {name : Text} (h : endToEnd name = true) : linesOf (closeLine keepAlive) name = [] := by
  cases keepAlive
  · simp [closeLine, linesOf, HttpHeader.isNamed, not_named_of_hopByHop (by decide : lit "connection" ∈ hopByHopNames) h]
  · rfl

theorem linesOf_normalizeRequest {ip : IpAddr} {keepAlive : Bool} {name : Text} (h : endToEnd name = true) :
    linesOf (normalizeRequestHeaders hs ip keepAlive k) name = forwardedLines hs k name := by
  unfold normalizeRequestHeaders
  rw [linesOf_append, linesOf_append, linesOf_closeLine _ h, linesOf_filterHeaders_endToEnd h]
  simp [linesOf, HttpHeader.isNamed, not_named_of_hopByHop (by decide : lit "x-forwarded-for" ∈ hopByHopNames) h]

/-- **The framing of a forwarded request**: it passes hardening again, carries exactly one host line with the received
value, and reads as a body of kind `k`. -/
structure RequestFramingKept (hs out : List HttpHeader) (k : BodyKind) : Prop where
  hardened : validateHttp1RequestHardening out = .ok ()
  host : ∃ v, (linesOf hs (lit "host")).map (·.value) = [v] ∧ (linesOf out (lit "host")).map (·.value) = [v]
  framed : detectRequestBodyKind out = .ok k

/-- **A request's framing survives forwarding exactly when no `Connection` line nominates `host`, nor the header that
frames its body.** -/
theorem requestFraming_iff (hs : List HttpHeader) (ip : IpAddr) (keepAlive : Bool) (k : BodyKind)
    (hv : validateHttp1RequestHardening hs = .ok ()) (hk : detectRequestBodyKind hs = .ok k) :
    RequestFramingKept hs (normalizeRequestHeaders hs ip keepAlive k) k ↔
      nominates hs (lit "host") = false ∧ (k.isChunked = true → nominates hs (lit "transfer-encoding") = false) ∧
      (k.isContentLength = true → nominates hs (lit "content-length") = false) := by
  obtain ⟨⟨line, hli⟩, hamb⟩ := hardening_ok hv
  have hlin : ∀ {name}, endToEnd name = true →
      linesOf (normalizeRequestHeaders hs ip keepAlive k) name = forwardedLines hs k name :=
    fun h => linesOf_normalizeRequest h
  generalize normalizeRequestHeaders hs ip keepAlive k = out at hlin
  have hh : linesOf out (lit "host") = _ := hlin rfl
  have hte : linesOf out (lit "transfer-encoding") = _ := hlin rfl
  have hcl : linesOf out (lit "content-length") = _ := hlin rfl
  constructor
  · rintro ⟨-, ⟨v, -, hv2⟩, hfr⟩
    refine ⟨?_, fun hc => ?_, fun hl => ?_⟩ <;> by_contra hn <;> rw [Bool.not_eq_false] at hn
    · -- a dropped host line leaves no host at all
      rw [hh, forwardedLines_nominated hn] at hv2
      cases hv2
    · -- a dropped framing line leaves no framing, hence no body
      obtain rfl := BodyKind.eq_chunked hc
      have hno := detectBodyKind_of_no_framing (hte.trans (forwardedLines_nominated hn)) (hcl.trans (forwardedLines_uncarried rfl))
      cases hno.symm.trans hfr
    · obtain ⟨n, rfl⟩ := BodyKind.eq_contentLength hl
      have hno := detectBodyKind_of_no_framing (hte.trans (forwardedLines_uncarried rfl)) (hcl.trans (forwardedLines_nominated hn))
      cases hno.symm.trans hfr
  · rintro ⟨hnh, hnt, hnc⟩
    have hh' : linesOf out (lit "host") = linesOf hs (lit "host") := hh.trans (forwardedLines_kept hnh rfl)
    have hval : ∃ v, (linesOf hs (lit "host")).map (·.value) = [v] ∧ (linesOf out (lit "host")).map (·.value) = [v] :=
      ⟨line.value, by rw [hli]; rfl, by rw [hh', hli]; rfl⟩
    have hsa : linesOf out (lit "transfer-encoding") = linesOf hs (lit "transfer-encoding") →
        linesOf out (lit "content-length") = linesOf hs (lit "content-length") → RequestFramingKept hs out k := fun hte hcl =>
      ⟨(hardening_congr hh' hte hcl).trans hv, hval, (detectBodyKind_congr hte hcl).trans hk⟩
    rcases detectBodyKind_cases hk with ⟨rfl, hne⟩ | rfl | ⟨hne, n, rfl⟩
    · refine hsa (hte.trans (forwardedLines_kept (hnt rfl) rfl)) (hcl.trans ?_)
      rw [forwardedLines_uncarried rfl, hamb.resolve_right hne]
    · have hte' := hte.trans (forwardedLines_uncarried rfl)
      have hcl' := hcl.trans (forwardedLines_uncarried rfl)
      exact ⟨hardening_of_no_framing (hh'.trans hli) hte' hcl', hval, detectBodyKind_of_no_framing hte' hcl'⟩
    · refine hsa (hte.trans ?_) (hcl.trans (forwardedLines_kept (hnc rfl) rfl))
      rw [forwardedLines_uncarried rfl, hamb.resolve_left hne]

/-- A request whose `Connection` line nominates `Content-Length` is forwarded with no body length at all. -/
theorem requestFraming_lost :
    let hs : List HttpHeader := [⟨lit "host", lit "a"⟩, ⟨lit "content-length", lit "5"⟩, ⟨lit "connection", lit "content-length"⟩]
    validateHttp1RequestHardening hs = .ok () ∧ detectRequestBodyKind hs = .ok (.contentLength 5) ∧
      ¬ RequestFramingKept hs (normalizeRequestHeaders hs (.v4 10 0 0 1) true (.contentLength 5)) (.contentLength 5) :=
  ⟨by decide, by decide, fun h => absurd h.framed (by decide)⟩

theorem requestFraming_iff_keepAlive :
    RequestFramingKept [⟨lit "host", lit "a"⟩, ⟨lit "Content-Length", lit "5"⟩, ⟨lit "connection", lit "keep-alive, x-a"⟩]
      (normalizeRequestHeaders [⟨lit "host", lit "a"⟩, ⟨lit "Content-Length", lit "5"⟩, ⟨lit "connection", lit "keep-alive, x-a"⟩]
        (.v4 10 0 0 1) false (.contentLength 5)) (.contentLength 5) :=
  (requestFraming_iff _ (.v4 10 0 0 1) false (.contentLength 5) (by decide) (by decide)).2 (by decide)

/-! ## Responses -/

/-- The kind a downstream reads off a forwarded response: a close-delimited body is re-framed as chunked. -/
def BodyKind.reframed : BodyKind → BodyKind
  | .closeDelimited => .chunked
  | k               => k

theorem intercalate_append_singleton (sep y : Text) {l : List Text} (hl : l ≠ []) :
    List.intercalate sep (l ++ [y]) = List.intercalate sep l ++ sep ++ y := by
  obtain ⟨init, x, rfl⟩ := List.eq_nil_or_concat' l |>.resolve_left hl
  rw [Fields.intercalate_concat, Fields.intercalate_concat, List.flatMap_append, List.flatMap_singleton]
  simp only [List.append_assoc]

/-- **The re-framing line ends in `chunked`**, whatever codings it carries before. -/
theorem reframingLine_last (hs : List HttpHeader) :
    (tokensOf [reframingLine hs] (lit "transfer-encoding")).getLast? = some (lit "chunked") := by
  have hnam : (reframingLine hs).isNamed (lit "transfer-encoding") = true := rfl
  simp only [tokensOf, membersOf, linesOf, List.filter_cons, hnam, if_true, List.filter_nil, List.flatMap_cons,
    List.flatMap_nil, List.append_nil]
  unfold reframingLine
  generalize (transferCodingTokens hs).filter (fun t => !eqIgnoreCase t (lit "chunked")) = codings
  by_cases hc : codings = []
  · subst hc; decide
  · have hcom : lit ", " = [',', ' '] := rfl
    rw [intercalate_append_singleton _ _ hc, hcom, List.append_assoc, List.cons_append, List.cons_append, List.splitOn_append_cons_self, List.map_append, List.filter_append, List.getLast?_append]
    rfl

section Response

variable (hs : List HttpHeader) (keepAlive : Bool) (k : BodyKind)

theorem linesOf_normalizeResponse {name : Text} (h : endToEnd name = true) :
    linesOf (normalizeResponseHeaders hs keepAlive k) name = forwardedLines hs k name ++ linesOf (reframing hs k) name := by
  unfold normalizeResponseHeaders
  rw [linesOf_append, linesOf_append, linesOf_closeLine _ h, linesOf_filterHeaders_endToEnd h, List.append_nil]

theorem response_te_lines (hk : k ≠ .closeDelimited) :
    linesOf (normalizeResponseHeaders hs keepAlive k) (lit "transfer-encoding") = forwardedLines hs k (lit "transfer-encoding") := by
  have hr : reframing hs k = [] := by
    cases k <;> first | rfl | exact absurd rfl hk
  rw [linesOf_normalizeResponse hs keepAlive k rfl, hr]
  exact List.append_nil _

theorem response_te_lines_reframed :
    linesOf (normalizeResponseHeaders hs keepAlive .closeDelimited) (lit "transfer-encoding") = [reframingLine hs] := by
  rw [linesOf_normalizeResponse hs keepAlive _ rfl, forwardedLines_uncarried rfl]
  rfl

theorem response_cl_lines :
    linesOf (normalizeResponseHeaders hs keepAlive k) (lit "content-length") = forwardedLines hs k (lit "content-length") := by
  have hr : linesOf (reframing hs k) (lit "content-length") = [] := by
    cases k <;> rfl
  rw [linesOf_normalizeResponse hs keepAlive k rfl, hr, List.append_nil]

end Response

theorem detectBodyKind_of_no_codings (h : transferCodingTokens hs = []) :
    detectBodyKind hs = contentLengthKind (contentLengths hs) := by
  unfold detectBodyKind
  rw [containsToken_eq_tokens _ _ _ (by decide), show tokensOf hs (lit "transfer-encoding") = [] from h]
  rfl

variable {m : Text}

theorem detectResponse_of_no_framing {status : Nat} (hf : bodyForbidden status m = false)
    (hte : linesOf hs (lit "transfer-encoding") = []) (hcl : linesOf hs (lit "content-length") = []) :
    detectResponseBodyKind hs status m = .ok .closeDelimited := by
  unfold detectResponseBodyKind transferCodingTokens tokensOf
  rw [hf, membersOf_of_lines_nil hte, detectBodyKind_of_no_framing hte hcl, hasHeader_eq_lines, hcl]
  rfl

theorem detectResponse_of_last {status : Nat} {last : Text} (hf : bodyForbidden status m = false)
    (hl : (transferCodingTokens hs).getLast? = some last) :
    detectResponseBodyKind hs status m = .ok (if eqIgnoreCase last (lit "chunked") then .chunked else .closeDelimited) := by
  have hne : (transferCodingTokens hs).isEmpty = false := by
    cases h : transferCodingTokens hs with
    | nil => rw [h] at hl; cases hl
    | cons t ts => rfl
  unfold detectResponseBodyKind
  simp only [hf, hne, hl, Option.any_some, Bool.false_eq_true, if_false, Bool.not_false, if_true]

theorem detectResponse_of_no_codings {status : Nat} (hf : bodyForbidden status m = false) (ht : transferCodingTokens hs = [])
    {n : Nat} (hl : contentLengthKind (contentLengths hs) = .ok (.contentLength n)) :
    detectResponseBodyKind hs status m = .ok (.contentLength n) := by
  unfold detectResponseBodyKind
  simp only [hf, ht, detectBodyKind_of_no_codings ht, hl, Bool.false_eq_true, if_false, List.isEmpty_nil, Bool.not_true]

/-- **What a response's detected kind says of its framing lines**, where a body is allowed. -/
theorem detectResponse_cases {status : Nat} (hf : bodyForbidden status m = false) (h : detectResponseBodyKind hs status m = .ok k) :
    (∃ last, (transferCodingTokens hs).getLast? = some last ∧ eqIgnoreCase last (lit "chunked") = true ∧ k = .chunked) ∨
    k = .closeDelimited ∨ k = .none ∨
    (∃ n, transferCodingTokens hs = [] ∧ contentLengthKind (contentLengths hs) = .ok (.contentLength n) ∧ k = .contentLength n) := by
  cases hl : (transferCodingTokens hs).getLast? with
  | some last =>
    rw [detectResponse_of_last hf hl] at h
    split_ifs at h with hc
    · exact .inl ⟨last, rfl, hc, (Except.ok.inj h).symm⟩
    · exact .inr (.inl (Except.ok.inj h).symm)
  | none =>
    have ht := List.getLast?_eq_none_iff.1 hl
    unfold detectResponseBodyKind at h
    simp only [hf, ht, detectBodyKind_of_no_codings ht, Bool.false_eq_true, if_false, List.isEmpty_nil, Bool.not_true] at h
    cases hk : contentLengthKind (contentLengths hs) with
    | error e => rw [hk] at h; cases h
    | ok k' =>
      rcases contentLengthKind_cases hk with rfl | ⟨-, n, rfl⟩
      · rw [hk] at h
        simp only at h
        split at h
        · exact .inr (.inr (.inl (Except.ok.inj h).symm))
        · exact .inr (.inl (Except.ok.inj h).symm)
      · rw [hk] at h
        exact .inr (.inr (.inr ⟨n, ht, rfl, (Except.ok.inj h).symm⟩))

/-- **A response's framing survives forwarding exactly when it may carry no body, or its body is not a zero
`Content-Length` one and no `Connection` line nominates the header that frames it.** -/
theorem responseFraming_iff (hs : List HttpHeader) (status : Nat) (m : Text) (keepAlive : Bool) (k : BodyKind)
    (hk : detectResponseBodyKind hs status m = .ok k) :
    detectResponseBodyKind (normalizeResponseHeaders hs keepAlive k) status m = .ok k.reframed ↔
      bodyForbidden status m = true ∨ (k ≠ .none ∧
        (k.isChunked = true → nominates hs (lit "transfer-encoding") = false) ∧
        (k.isContentLength = true → nominates hs (lit "content-length") = false)) := by
  cases hf : bodyForbidden status m with
  | true =>
    have hno : ∀ l, detectResponseBodyKind l status m = .ok .none := fun l => by
      unfold detectResponseBodyKind; rw [hf]; rfl
    cases (hno hs).symm.trans hk
    simp [hno, BodyKind.reframed]
  | false =>
    have hcl := response_cl_lines hs keepAlive k
    rcases detectResponse_cases hf hk with ⟨last, hla, hch, rfl⟩ | rfl | rfl | ⟨n, ht, hlen, rfl⟩
    · have hte := response_te_lines hs keepAlive .chunked (by simp)
      rw [forwardedLines_uncarried rfl] at hcl
      cases hn : nominates hs (lit "transfer-encoding") with
      | true =>
        rw [detectResponse_of_no_framing hf (hte.trans (forwardedLines_nominated hn)) hcl]
        simp [BodyKind.reframed, BodyKind.isChunked]
      | false =>
        rw [forwardedLines_kept hn rfl] at hte
        have hl' : (transferCodingTokens (normalizeResponseHeaders hs keepAlive .chunked)).getLast? = some last := by
          unfold transferCodingTokens at hla ⊢
          rw [tokensOf_congr hte, hla]
        rw [detectResponse_of_last hf hl', if_pos hch]
        simp [BodyKind.reframed, BodyKind.isContentLength]
    · -- re-framed: our own line is the only coding
      have hl : linesOf (normalizeResponseHeaders hs keepAlive .closeDelimited) (lit "transfer-encoding") =
          linesOf [reframingLine hs] (lit "transfer-encoding") := response_te_lines_reframed hs keepAlive
      have hla : (transferCodingTokens (normalizeResponseHeaders hs keepAlive .closeDelimited)).getLast? = some (lit "chunked") := by
        unfold transferCodingTokens
        rw [tokensOf_congr hl]
        exact reframingLine_last hs
      rw [detectResponse_of_last hf hla]
      simp [BodyKind.reframed, BodyKind.isContentLength, BodyKind.isChunked, eqIgnoreCase]
    · -- the zero `Content-Length` line is dropped, so nothing frames the forwarded message
      have hte := response_te_lines hs keepAlive .none (by simp)
      rw [detectResponse_of_no_framing hf (hte.trans (forwardedLines_uncarried rfl)) (hcl.trans (forwardedLines_uncarried rfl))]
      simp [BodyKind.reframed]
    · have hte := response_te_lines hs keepAlive (.contentLength n) (by simp)
      rw [forwardedLines_uncarried rfl] at hte
      cases hn : nominates hs (lit "content-length") with
      | true =>
        rw [detectResponse_of_no_framing hf hte (hcl.trans (forwardedLines_nominated hn))]
        simp [BodyKind.reframed, BodyKind.isContentLength]
      | false =>
        rw [forwardedLines_kept hn rfl] at hcl
        have ht' : transferCodingTokens (normalizeResponseHeaders hs keepAlive (.contentLength n)) = [] := by
          unfold transferCodingTokens tokensOf; rw [membersOf_of_lines_nil hte]; rfl
        rw [detectResponse_of_no_codings hf ht' (by unfold contentLengths at hlen ⊢; rw [hcl]; exact hlen)]
        simp [BodyKind.reframed, BodyKind.isChunked]

/-- A `Content-Length: 0` response to a `GET` is forwarded without its length, so its reader waits for the close. -/
theorem responseFraming_lost :
    let hs : List HttpHeader := [⟨lit "content-length", lit "0"⟩]
    detectResponseBodyKind hs 200 (lit "GET") = .ok .none ∧
      detectResponseBodyKind (normalizeResponseHeaders hs true .none) 200 (lit "GET") = .ok .closeDelimited ∧
      detectResponseBodyKind (normalizeResponseHeaders hs true .none) 200 (lit "GET") ≠ .ok BodyKind.none.reframed :=
  ⟨by decide, by decide, by decide⟩

theorem responseFraming_iff_gzip :
    detectResponseBodyKind (normalizeResponseHeaders [⟨lit "Transfer-Encoding", lit "gzip"⟩] false .closeDelimited) 200
      (lit "GET") = .ok BodyKind.closeDelimited.reframed :=
  (responseFraming_iff [⟨lit "Transfer-Encoding", lit "gzip"⟩] 200 (lit "GET") false .closeDelimited (by decide)).2
    (by decide)

end WayBalancer
