import WayBalancer.AdminAuth
import WayBalancer.Proc
/-!
# AdminReplay — signed admin requests over a run

Calls of `authenticate_admin_request` on one replay state, under a clock that never runs back: a call reads the wall
clock in whole seconds and the monotonic clock in nanoseconds, and the two stand a fixed distance apart.  A signed
request is good while its timestamp is within the skew, so for up to twice the skew and the rest of the last second; its
nonce is remembered for the nonce lifetime.  The state has no bound on the number of nonces.
-/
namespace WayBalancer

open Str Findings

structure AdminCall where
  request : DemoRequestHead
  requestBody : List UInt8
  action : AdminRequestAction
  sourceIp : IpAddr
  legacyAdminSecret : Text
  requestId : Text
  sources : SecretSources
  now : ℕ

/-- The wall clock's whole seconds, `epoch` nanoseconds ahead of the monotonic clock. -/
def AdminCall.nowSecs (epoch : ℕ) (call : AdminCall) : ℕ := (epoch + call.now) / nanosPerSec

structure SignedCombination where
  actor : Option Text
  timestamp : Option Text
  nonce : Option Text
  signature : Option Text
deriving DecidableEq

def DemoRequestHead.combination (request : DemoRequestHead) : SignedCombination where
  actor := request.headerValue (lit "x-lb-admin-actor")
  timestamp := request.headerValue (lit "x-lb-admin-timestamp")
  nonce := request.headerValue (lit "x-lb-admin-nonce")
  signature := request.headerValue (lit "x-lb-admin-signature")

/-- Calls in order of the clock, while the wall clock's seconds fit their 64 bits. -/
def ClockedCalls (epoch : ℕ) (calls : List AdminCall) : Prop :=
  calls.Pairwise (fun a b => a.now ≤ b.now) ∧ ∀ call ∈ calls, call.nowSecs epoch ≤ Word.u64Max

section Run

variable (sha256 : List UInt8 → Sha256Digest) (epoch : ℕ) (policy : CompiledAdminAuthPolicy)

def AdminCall.authenticate (call : AdminCall) (replayState : AdminReplayState) :
    Except AdminAuthFailure AdminRequestContext × AdminReplayState :=
  authenticateAdminRequest sha256 call.sources (call.nowSecs epoch) call.now call.request call.requestBody call.action
    call.sourceIp policy replayState call.legacyAdminSecret call.requestId

def acceptedCombinations : AdminReplayState → List AdminCall → List SignedCombination
  | _, [] => []
  | replayState, call :: calls =>
    match call.authenticate sha256 epoch policy replayState with
    | (.ok _, replayState)    => call.request.combination :: acceptedCombinations replayState calls
    | (.error _, replayState) => acceptedCombinations replayState calls

end Run

/-! ## What passes -/

theorem requiredHeader_ok {request : DemoRequestHead} {name : String} {actor value : Text} :
    requiredHeader request name actor = .ok value ↔ request.headerValue (lit name) = some value ∧ trim value ≠ [] := by
  unfold requiredHeader
  cases hfd : (request.headerValue (lit name)).filter (fun value => !(trim value).isEmpty) with
  | none =>
    rw [Option.filter_eq_none_iff] at hfd
    refine iff_of_false nofun (fun ⟨hv, hne⟩ => ?_)
    exact hfd value hv (by simpa using hne)
  | some found =>
    obtain ⟨hv, hne⟩ := Option.filter_eq_some_iff.1 hfd
    rw [Except.ok.injEq]
    constructor
    · rintro rfl
      exact ⟨hv, by simpa using hne⟩
    · rintro ⟨hv', -⟩
      exact Option.some.inj (hv.symm.trans hv')

theorem checkTimestamp_ok {nowSecs maxClockSkew timestamp : ℕ} {request : DemoRequestHead} {actor : Text} :
    checkTimestamp nowSecs maxClockSkew request actor = .ok timestamp ↔
      (∃ header, request.headerValue (lit "x-lb-admin-timestamp") = some header ∧ parseU64 header = some timestamp) ∧
        absDiff nowSecs timestamp ≤ maxClockSkew / nanosPerSec := by
  unfold checkTimestamp
  cases hhea : request.headerValue (lit "x-lb-admin-timestamp") with
  | none => simp
  | some header =>
    cases hpar : parseU64 header with
    | none => simp [hpar]
    | some p =>
      simp only [Proc.ite_error_ok, Except.ok.injEq, Option.some.injEq, exists_eq_left', hpar, not_lt]
      constructor
      · rintro ⟨hs, rfl⟩
        exact ⟨rfl, hs⟩
      · rintro ⟨rfl, hs⟩
        exact ⟨hs, rfl⟩

theorem checkOperator_ok {operators : SortedMap Text CompiledAdminOperator} {permission : AdminPermission} {actor : Text}
    {operator : CompiledAdminOperator} :
    checkOperator operators permission actor = .ok operator ↔
      operators.get? actor = some operator ∧ permission ∈ operator.permissions := by
  unfold checkOperator
  cases hfd : operators.get? actor with
  | none => simp
  | some found =>
    simp only [Proc.ite_error_ok, Except.ok.injEq, Option.some.injEq, not_not]
    constructor
    · rintro ⟨hmem, rfl⟩
      exact ⟨rfl, hmem⟩
    · rintro ⟨rfl, hmem⟩
      exact ⟨hmem, rfl⟩

section Checks

variable {sha256 : List UInt8 → Sha256Digest} {sources : SecretSources} {operators : SortedMap Text CompiledAdminOperator}
  {maxClockSkew nowSecs : ℕ} {request : DemoRequestHead} {requestBody : List UInt8} {action : AdminRequestAction}
  {legacyAdminSecret actor nonce : Text}

theorem checkSignedHeaders_ok :
    checkSignedHeaders sha256 sources operators maxClockSkew nowSecs request requestBody action legacyAdminSecret = .ok (actor, nonce) ↔
      ∃ operator timestamp signature secret, requiredHeader request "x-lb-admin-actor" (lit "anonymous") = .ok actor ∧
        checkOperator operators action.permission actor = .ok operator ∧
        checkTimestamp nowSecs maxClockSkew request actor = .ok timestamp ∧
        requiredHeader request "x-lb-admin-nonce" actor = .ok nonce ∧
        requiredHeader request "x-lb-admin-signature" actor = .ok signature ∧
        resolveAdminSecret sources operator.secretEnv legacyAdminSecret (lit "signed_headers") actor = .ok secret ∧
        signature = signAdminRequest sha256 secret actor request.method request.target timestamp nonce requestBody := by
  unfold checkSignedHeaders
  simp only [Proc.except_bind_ok, Proc.ite_error_ok, Bool.not_eq_true', Bool.not_eq_false, constantTimeEq_iff,
    Except.ok.injEq, Prod.mk.injEq]
  constructor
  · rintro ⟨_, hact, operator, hop, timestamp, hts, _, hnon, signature, hsig, secret, hsec, hs, rfl, rfl⟩
    exact ⟨operator, timestamp, signature, secret, hact, hop, hts, hnon, hsig, hsec, utf8_injective hs⟩
  · rintro ⟨operator, timestamp, signature, secret, hact, hop, hts, hnon, hsig, hsec, rfl⟩
    exact ⟨actor, hact, operator, hop, timestamp, hts, nonce, hnon, _, hsig, secret, hsec, rfl, rfl, rfl⟩

end Checks

/-! ## The run as a window of nonces -/

section Signed

variable (sha256 : List UInt8 → Sha256Digest) (epoch : ℕ) (operators : SortedMap Text CompiledAdminOperator)
  (maxClockSkew nonceTtl : ℕ)

def AdminCall.check (call : AdminCall) : Except AdminAuthFailure (Text × Text) :=
  checkSignedHeaders sha256 call.sources operators maxClockSkew (call.nowSecs epoch) call.request call.requestBody
    call.action call.legacyAdminSecret

def AdminCall.nonceKey (call : AdminCall) : Text :=
  (call.request.combination.actor).getD [] ++ ':' :: (call.request.combination.nonce).getD []

variable {sha256 epoch operators maxClockSkew nonceTtl}

theorem AdminCall.nonceKey_of_check {call : AdminCall} {actor nonce : Text}
    (h : call.check sha256 epoch operators maxClockSkew = .ok (actor, nonce)) : call.nonceKey = actor ++ ':' :: nonce := by
  obtain ⟨_, _, _, _, hact, -, -, hnon, -⟩ := checkSignedHeaders_ok.1 h
  have ha : call.request.combination.actor = some actor := (requiredHeader_ok.1 hact).1
  have hn : call.request.combination.nonce = some nonce := (requiredHeader_ok.1 hnon).1
  rw [nonceKey, ha, hn]
  rfl

theorem AdminCall.timestamp_of_check {call : AdminCall} (h : (call.check sha256 epoch operators maxClockSkew).isOk = true) :
    ∃ timestamp, call.request.combination.timestamp.bind parseU64 = some timestamp ∧
      absDiff (call.nowSecs epoch) timestamp ≤ maxClockSkew / nanosPerSec := by
  cases hche : call.check sha256 epoch operators maxClockSkew with
  | error failure => rw [hche] at h; cases h
  | ok checked =>
    obtain ⟨_, timestamp, _, _, -, -, hts, -⟩ := checkSignedHeaders_ok.1 hche
    obtain ⟨⟨header, hhea, hpar⟩, hs⟩ := checkTimestamp_ok.1 hts
    refine ⟨timestamp, ?_, hs⟩
    show (call.request.headerValue (lit "x-lb-admin-timestamp")).bind parseU64 = some timestamp
    rw [hhea, Option.bind_some, hpar]

/-- **A run is a window of nonces**: what it accepts is what the window admits of the calls that pass their checks. -/
theorem acceptedCombinations_eq_admitted : ∀ {calls : List AdminCall} {replayState : AdminReplayState},
    acceptedCombinations sha256 epoch (.signedHeaders operators maxClockSkew nonceTtl) replayState calls =
      (SeenWindow.admitted nonceTtl AdminCall.now AdminCall.nonceKey replayState.nonces
        (calls.filter (fun call => (call.check sha256 epoch operators maxClockSkew).isOk))).map (·.request.combination)
  | [], _ => rfl
  | call :: calls, replayState => by
    rw [acceptedCombinations, AdminCall.authenticate, authenticateAdminRequest, List.filter_cons]
    cases hche : call.check sha256 epoch operators maxClockSkew with
    | error failure =>
      rw [AdminCall.check] at hche
      simp only [hche, Except.isOk, Except.toBool, Bool.false_eq_true, if_false]
      exact acceptedCombinations_eq_admitted
    | ok checked =>
      obtain ⟨actor, nonce⟩ := checked
      have hkey := AdminCall.nonceKey_of_check hche
      rw [AdminCall.check] at hche
      simp only [hche, Except.isOk, Except.toBool, if_true, SeenWindow.admitted, hkey]
      cases hfre : (SeenWindow.attempt nonceTtl call.now (actor ++ ':' :: nonce) replayState.nonces).1 with
      | false =>
        exact acceptedCombinations_eq_admitted
      | true =>
        simp only [if_true, List.map_cons, List.cons.injEq, true_and]
        exact acceptedCombinations_eq_admitted

/-- Two readings of the wall clock within the skew of one timestamp are less than twice the skew and a second apart. -/
theorem nowSecs_window {epoch now now' timestamp skewSecs : ℕ} (h : absDiff ((epoch + now) / nanosPerSec) timestamp ≤ skewSecs)
    (h' : absDiff ((epoch + now') / nanosPerSec) timestamp ≤ skewSecs) : now' < now + (2 * skewSecs + 1) * nanosPerSec := by
  unfold absDiff nanosPerSec at *
  omega

/-- A nonce lifetime beyond every acceptance window keeps replays out. -/
theorem acceptedCombinations_nodup {skewSecs ttlSecs : ℕ} (hcov : 2 * skewSecs < ttlSecs) {calls : List AdminCall}
    (hclo : ClockedCalls epoch calls) (replayState : AdminReplayState) :
    (acceptedCombinations sha256 epoch (.signedHeaders operators (skewSecs * nanosPerSec) (ttlSecs * nanosPerSec)) replayState
      calls).Nodup := by
  rw [acceptedCombinations_eq_admitted]
  refine List.pairwise_map.2 ((List.pairwise_iff_forall_sublist.2 ?_))
  intro a b hsub hs
  have hord : (calls.filter (fun call => (call.check sha256 epoch operators (skewSecs * nanosPerSec)).isOk)).Pairwise
      (fun a b => a.now ≤ b.now) := hclo.1.sublist List.filter_sublist
  have hapa := List.pairwise_iff_forall_sublist.1 (SeenWindow.admitted_apart hord) hsub
  have hche : ∀ call ∈ [a, b], (call.check sha256 epoch operators (skewSecs * nanosPerSec)).isOk = true :=
    fun call hc => (List.mem_filter.1 (SeenWindow.mem_of_mem_admitted (hsub.subset hc))).2
  obtain ⟨ta, hta, hwa⟩ := AdminCall.timestamp_of_check (hche a (by simp))
  obtain ⟨tb, htb, hwb⟩ := AdminCall.timestamp_of_check (hche b (by simp))
  rw [hs, htb, Option.some.injEq] at hta
  subst hta
  have hsk : skewSecs * nanosPerSec / nanosPerSec = skewSecs := Nat.mul_div_cancel _ (by decide)
  rw [hsk] at hwa hwb
  have hn := nowSecs_window hwa hwb
  have hfar := hapa (by rw [AdminCall.nonceKey, hs, AdminCall.nonceKey])
  have : (2 * skewSecs + 1) * nanosPerSec ≤ ttlSecs * nanosPerSec := Nat.mul_le_mul_right _ hcov
  omega

end Signed

/-! ## A request that passes its checks -/

section SignedCall

variable (sha256 : List UInt8 → Sha256Digest)

/-- An operator's request: timestamp, nonce `n`, and the signature under the secret `s`. -/
def signedRequest (actor : Text) (timestamp : ℕ) : DemoRequestHead where
  method := lit "GET"
  target := lit "/status"
  headers := [⟨lit "x-lb-admin-actor", actor⟩, ⟨lit "x-lb-admin-timestamp", Nat.toDigits 10 timestamp⟩,
    ⟨lit "x-lb-admin-nonce", lit "n"⟩,
    ⟨lit "x-lb-admin-signature", signAdminRequest sha256 (lit "s") actor (lit "GET") (lit "/status") timestamp (lit "n") []⟩]
  authorizationBearer := none

/-- The request sent where the operator's variable holds the secret `s`. -/
def signedCall (actor secretEnv : Text) (action : AdminRequestAction) (timestamp now : ℕ) : AdminCall where
  request := signedRequest sha256 actor timestamp
  requestBody := []
  action := action
  sourceIp := .v4 127 0 0 1
  legacyAdminSecret := []
  requestId := lit "1"
  sources := ⟨fun name => if name = secretEnv then some (lit "s") else none, fun _ => .error (lit "no files")⟩
  now := now

variable {sha256}

variable {actor : Text} {timestamp : ℕ} {action : AdminRequestAction}

theorem resolveAdminSecret_signedCall {secretEnv : Text} {now : ℕ} :
    resolveAdminSecret (signedCall sha256 actor secretEnv action timestamp now).sources secretEnv [] (lit "signed_headers")
      actor = .ok (lit "s") := by
  have hf : secretEnv ++ lit "_FILE" ≠ secretEnv := by
    intro h
    have := congrArg List.length h
    simp [lit] at this
  simp only [resolveAdminSecret, resolveSecretMaterial, signedCall, if_neg hf, readSecretEnv, if_true, Option.getD_some]
  rfl

theorem signedRequest_headers (actor : Text) (timestamp : ℕ) : (signedRequest sha256 actor timestamp).combination =
      ⟨some actor, some (Nat.toDigits 10 timestamp), some (lit "n"), some (signAdminRequest sha256 (lit "s") actor
        (lit "GET") (lit "/status") timestamp (lit "n") [])⟩ := rfl

theorem signedCall_check {operators : SortedMap Text CompiledAdminOperator} {operator : CompiledAdminOperator}
    {epoch maxClockSkew now : ℕ} (hact : trim actor ≠ []) (hop : operators.get? actor = some operator)
    (ha : action.permission ∈ operator.permissions) (hts : timestamp ≤ Word.u64Max)
    (hs : absDiff ((epoch + now) / nanosPerSec) timestamp ≤ maxClockSkew / nanosPerSec) :
    (signedCall sha256 actor operator.secretEnv action timestamp now).check sha256 epoch operators maxClockSkew =
      .ok (actor, lit "n") := by
  have hhs := @signedRequest_headers sha256 actor timestamp
  simp only [DemoRequestHead.combination, SignedCombination.mk.injEq] at hhs
  obtain ⟨hactorHeader, htimestampHeader, hnonceHeader, hsignatureHeader⟩ := hhs
  refine checkSignedHeaders_ok.2 ⟨operator, timestamp, _, lit "s", requiredHeader_ok.2 ⟨hactorHeader, hact⟩,
    checkOperator_ok.2 ⟨hop, ha⟩, checkTimestamp_ok.2 ⟨⟨_, htimestampHeader, parseU64_toDigits hts⟩, hs⟩,
    requiredHeader_ok.2 ⟨hnonceHeader, by decide⟩, requiredHeader_ok.2 ⟨hsignatureHeader, Sha256Digest.hex_ne_nil _⟩,
    resolveAdminSecret_signedCall, rfl⟩

/-- A nonce lifetime within the acceptance window lets a request in twice: as early and as late as its timestamp allows. -/
theorem acceptedCombinations_twice {operators : SortedMap Text CompiledAdminOperator} {actor : Text}
    {operator : CompiledAdminOperator} {action : AdminRequestAction} {skewSecs ttlSecs : ℕ} (hact : trim actor ≠ [])
    (hop : operators.get? actor = some operator) (ha : action.permission ∈ operator.permissions)
    (hs : skewSecs ≤ Word.u64Max) (httl : ttlSecs ≤ Word.u64Max) (hsho : ttlSecs ≤ 2 * skewSecs) :
    ∃ calls, ClockedCalls 0 calls ∧ ¬ (acceptedCombinations sha256 0
      (.signedHeaders operators (skewSecs * nanosPerSec) (ttlSecs * nanosPerSec)) {} calls).Nodup := by
  -- the first call is at second 0, the second in the last nanosecond of a second within the skew
  let lastSecs := min (2 * skewSecs) Word.u64Max
  let timestamp := min skewSecs (2 ^ 63)
  let late := lastSecs * nanosPerSec + (nanosPerSec - 1)
  let call := fun now => signedCall sha256 actor operator.secretEnv action timestamp now
  have hmax : Word.u64Max = 2 ^ 64 - 1 := rfl
  have hz : (0 + 0) / nanosPerSec = 0 := rfl
  have hl : (0 + late) / nanosPerSec = lastSecs := by
    simp only [late, nanosPerSec]
    omega
  have hdiv : skewSecs * nanosPerSec / nanosPerSec = skewSecs := Nat.mul_div_cancel _ (by decide)
  have hfir : (call 0).check sha256 0 operators (skewSecs * nanosPerSec) = .ok (actor, lit "n") := by
    refine signedCall_check hact hop ha (by simp only [timestamp]; omega) ?_
    simp only [timestamp, absDiff]
    omega
  have hsec : (call late).check sha256 0 operators (skewSecs * nanosPerSec) = .ok (actor, lit "n") := by
    refine signedCall_check hact hop ha (by simp only [timestamp]; omega) ?_
    rw [hl]
    simp only [timestamp, lastSecs, absDiff]
    omega
  refine ⟨[call 0, call late], ⟨?_, ?_⟩, ?_⟩
  · exact List.pairwise_pair.2 (Nat.zero_le _)
  · intro c hc
    rcases List.mem_pair.1 hc with rfl | rfl
    · exact le_trans (le_of_eq hz) (Nat.zero_le _)
    · exact le_trans (le_of_eq hl) (min_le_right _ _)
  · have hp : 0 + ttlSecs * nanosPerSec < late := by
      simp only [late, lastSecs, nanosPerSec]
      omega
    have haga : SeenWindow.admitted (ttlSecs * nanosPerSec) AdminCall.now AdminCall.nonceKey
        ({} : AdminReplayState).nonces [call 0, call late] = [call 0, call late] := SeenWindow.admitted_again rfl hp
    rw [acceptedCombinations_eq_admitted, List.filter_cons_of_pos (by rw [hfir]; rfl),
      List.filter_cons_of_pos (by rw [hsec]; rfl), List.filter_nil, haga]
    simp [call, signedCall]

end SignedCall

/-! ## Policies the validator accepts -/

theorem operator_of_validateAdminAuth {operators : List AdminOperatorConfig} {maxClockSkewSecs nonceTtlSecs : UInt64}
    {path : Text} (h : validateAdminAuth (.signedHeaders operators maxClockSkewSecs nonceTtlSecs) path = []) :
    ∃ actor operator, ∃ action : AdminRequestAction, trim actor ≠ [] ∧ (SortedMap.ofList (operators.map (fun operator =>
        (operator.id, CompiledAdminOperator.mk operator.secretEnv (compileAdminPermissions operator.permissions))))).get?
          actor = some operator ∧ action.permission ∈ operator.permissions := by
  simp only [validateAdminAuth, List.append_eq_nil_iff, flag_eq_nil] at h
  obtain ⟨⟨hs, -⟩, hsc⟩ := h
  have hope : ∀ operator ∈ operators, trim operator.id ≠ [] ∧ operator.permissions ≠ [] := by
    have htur := @scanFrom_distinct AdminOperatorConfig ValidationError Text (fun operator => trim operator.id)
      (fun operator => trim operator.id ≠ [] ∧ operator.permissions ≠ []) _ (fun seen index operator ht => by
        by_cases hbla : (trim operator.id).isEmpty = true
        · rw [if_pos hbla] at ht
          cases ht
        · rw [if_neg hbla] at ht ⊢
          simp only [List.append_eq_nil_iff, flag_eq_nil] at ht
          obtain ⟨hfre, -, hper⟩ := ht
          refine ⟨⟨by simpa using hbla, fun hn => ?_⟩, hfre, rfl⟩
          rw [hn] at hper
          cases hper) _ _ _ hsc
    exact htur.1
  obtain ⟨first, hfir⟩ := List.exists_mem_of_ne_nil operators (by simpa using hs)
  -- the entry under the first operator's id is that of some operator, whichever was declared last
  have hkey : first.id ∈ (SortedMap.ofList (operators.map (fun operator => (operator.id,
      CompiledAdminOperator.mk operator.secretEnv (compileAdminPermissions operator.permissions))))).keys := by
    rw [SortedMap.mem_keys_ofList, List.map_map]
    exact List.mem_map_of_mem hfir
  obtain ⟨compiled, hcmp⟩ := Option.isSome_iff_exists.1 (SortedMap.mem_keys.1 hkey)
  obtain ⟨operator, hop, hent⟩ := List.mem_map.1 (SortedMap.mem_of_get?_ofList hcmp)
  obtain ⟨-, rfl⟩ := Prod.mk.inj hent
  obtain ⟨scope, hsco⟩ := List.exists_mem_of_ne_nil _ (hope operator hop).2
  obtain ⟨action, hact⟩ : ∃ action : AdminRequestAction, action.permission ∈ compileAdminPermissions operator.permissions := by
    cases scope with
    | read => exact ⟨.status, List.mem_map.2 ⟨.read, hsco, rfl⟩⟩
    | audit => exact ⟨.audit, List.mem_map.2 ⟨.audit, hsco, rfl⟩⟩
    | write => exact ⟨.reload, List.mem_map.2 ⟨.write, hsco, rfl⟩⟩
  exact ⟨first.id, _, action, (hope first hfir).1, hcmp, hact⟩

/-- **Signed requests are accepted at most once exactly when the nonce lifetime exceeds twice the clock skew.** -/
theorem signedRequests_acceptedOnce_iff (sha256 : List UInt8 → Sha256Digest) {operators : List AdminOperatorConfig}
    {maxClockSkewSecs nonceTtlSecs : UInt64} {path : Text}
    (h : validateAdminAuth (.signedHeaders operators maxClockSkewSecs nonceTtlSecs) path = []) :
    (∀ epoch calls, ClockedCalls epoch calls → (acceptedCombinations sha256 epoch
        (compileAdminAuth (.signedHeaders operators maxClockSkewSecs nonceTtlSecs)) {} calls).Nodup) ↔
      2 * maxClockSkewSecs.toNat < nonceTtlSecs.toNat := by
  constructor
  · intro ho
    by_contra hsho
    obtain ⟨actor, operator, action, hact, hop, ha⟩ := operator_of_validateAdminAuth h
    have hmax : ∀ n : UInt64, n.toNat ≤ Word.u64Max := fun n => Nat.le_of_lt_succ n.toNat_lt
    obtain ⟨calls, hclo, htwi⟩ := @acceptedCombinations_twice sha256 _ _ _ _ _ _ hact hop ha
      (hmax maxClockSkewSecs) (hmax nonceTtlSecs) (not_lt.1 hsho)
    exact htwi (ho 0 calls hclo)
  · intro hcov epoch calls hclo
    exact acceptedCombinations_nodup hcov hclo _

def opsOperator : AdminOperatorConfig := ⟨lit "ops", lit "OPS_SECRET", defaultAdminPermissions⟩

/-- A digest to run the model with; nothing below depends on which. -/
def blankDigest (_ : List UInt8) : Sha256Digest := ⟨List.replicate 32 0, rfl⟩

/-- The default durations, half a minute of skew and two minutes of nonces, keep replays out. -/
theorem defaultDurations_acceptedOnce :
    validateAdminAuth (.signedHeaders [opsOperator] 30 120) (lit "listeners[0].admin.auth") = [] ∧
      ∀ epoch calls, ClockedCalls epoch calls →
        (acceptedCombinations blankDigest epoch (compileAdminAuth (.signedHeaders [opsOperator] 30 120)) {} calls).Nodup := by
  have hval : validateAdminAuth (.signedHeaders [opsOperator] 30 120) (lit "listeners[0].admin.auth") = [] := by
    decide +kernel
  exact ⟨hval, (signedRequests_acceptedOnce_iff blankDigest hval).2 (by decide)⟩

/-- Five minutes of skew and one minute of nonces pass the validator; the request of one moment is accepted again 61
seconds later. -/
theorem shortNonceTtl_replayed :
    validateAdminAuth (.signedHeaders [opsOperator] 300 60) (lit "listeners[0].admin.auth") = [] ∧
      (let call := signedCall blankDigest (lit "ops") (lit "OPS_SECRET") .reload 1700000000
       acceptedCombinations blankDigest (1700000000 * nanosPerSec)
          (compileAdminAuth (.signedHeaders [opsOperator] 300 60)) {} [call 0, call (61 * nanosPerSec)] =
        [(call 0).request.combination, (call 0).request.combination]) := by
  decide +kernel

end WayBalancer
