import WayBalancer.HttpHead
import WayBalancer.ServeRoutes
import WayBalancer.TrustedClientIp
/-!
# ForwardedHead — the header list a request is dispatched with

`process_uncached_request` (`crates/runtime/src/http1_proxy/cache_fill_and_revalidation.rs`) forwards what is left of the
client's list, adds the validators of the entry it revalidates, and gives an upgrade its `Connection` and `Upgrade` lines back.
An HTTP/3 upstream gets the client's lines alone.  The client's own conditional lines are among what is left, so the two meet
in one list (`conditionals_are_the_entrys_iff`).
-/
namespace WayBalancer

open Str
open Crlf (Bytes)
open TrustedClientIpPolicy (visibleAscii)

/-- The line a validator is sent in; one that is no visible ASCII is left out. -/
def validatorLine (name : Text) (validator : Option Bytes) : List HttpHeader :=
  ((validator.bind visibleAscii).map (fun value => ⟨name, value⟩)).toList

def appendConditionalRevalidationHeaders (headers : List HttpHeader) : Option HttpCacheEntry → List HttpHeader
  | none       => headers
  | some entry => headers ++ validatorLine (lit "if-none-match") entry.metadata.etag ++
      validatorLine (lit "if-modified-since") entry.metadata.lastModified

def appendUpgradeHeaders (target source : List HttpHeader) : List HttpHeader :=
  target ++ source.filter (fun h => h.isNamed (lit "connection") || h.isNamed (lit "upgrade"))

/-- The header list of a head written to an HTTP/1 upstream. -/
def http1RequestHeaders (request : Http1RequestHead) (effectiveClientIp : IpAddr)
    (requestedUpgrade : Option UpgradeProtocolConfig) (revalidationEntry : Option HttpCacheEntry) : List HttpHeader :=
  let conditional := appendConditionalRevalidationHeaders
    (normalizeRequestHeaders request.headers effectiveClientIp request.keepAlive request.bodyKind) revalidationEntry
  if requestedUpgrade.isSome then appendUpgradeHeaders conditional request.headers else conditional

/-- The header list `process_uncached_request` sends upstream. -/
def upstreamRequestHeaders (transport : UpstreamTransport) (request : Http1RequestHead) (effectiveClientIp : IpAddr)
    (requestedUpgrade : Option UpgradeProtocolConfig) (revalidationEntry : Option HttpCacheEntry) : List HttpHeader :=
  match transport with
  | .http3 => normalizeRequestHeaders request.headers effectiveClientIp request.keepAlive request.bodyKind
  | _      => http1RequestHeaders request effectiveClientIp requestedUpgrade revalidationEntry

/-- The conditional headers with the validators of an entry they stand for. -/
def HttpCacheEntry.validators (entry : HttpCacheEntry) : List (Text × Option Bytes) :=
  [(lit "if-none-match", entry.metadata.etag), (lit "if-modified-since", entry.metadata.lastModified)]

/-! ## The lines of a conditional header -/

theorem utf8_map_byteChar {value : Bytes} (h : ∀ b ∈ value, b.toNat < 128) : utf8 (value.map byteChar) = value := by
  have table : ∀ n < 128, String.utf8EncodeChar (byteChar (UInt8.ofNat n)) = [UInt8.ofNat n] := by decide +kernel
  induction value with
  | nil => rfl
  | cons b value ih =>
    have hb := table b.toNat (h b List.mem_cons_self)
    rw [UInt8.ofNat_toNat] at hb
    rw [List.map_cons, utf8, List.flatMap_cons, hb]
    exact congrArg (b :: ·) (ih (fun c hc => h c (List.mem_cons_of_mem b hc)))

theorem utf8_visibleAscii {value : Bytes} {text : Text} (h : visibleAscii value = some text) : utf8 text = value := by
  unfold visibleAscii at h
  split_ifs at h with hall
  obtain rfl := Option.some.inj h
  apply utf8_map_byteChar
  intro b hb
  have hvis := List.all_eq_true.1 hall b hb
  revert hvis
  apply byte_of_table _ b
  decide +kernel

theorem validatorLine_value {name : Text} {validator : Option Bytes} {line : HttpHeader} (h : line ∈ validatorLine name validator) :
    validator = some (utf8 line.value) := by
  rw [validatorLine, Option.mem_toList, Option.map_eq_some_iff] at h
  obtain ⟨value, hval, rfl⟩ := h
  obtain ⟨bytes, hby, ht⟩ := Option.bind_eq_some_iff.1 hval
  rw [hby, utf8_visibleAscii ht]

theorem linesOf_validatorLine (name other : Text) (validator : Option Bytes) :
    linesOf (validatorLine name validator) other = if eqIgnoreCase name other then validatorLine name validator else [] := by
  unfold linesOf validatorLine HttpHeader.isNamed
  cases validator.bind visibleAscii with
  | none => simp
  | some value =>
    simp only [Option.map_some, Option.toList_some, List.filter_cons, List.filter_nil]

theorem linesOf_appendUpgradeHeaders (target source : List HttpHeader) {name : Text} (hc : lower name ≠ lit "connection")
    (hu : lower name ≠ lit "upgrade") : linesOf (appendUpgradeHeaders target source) name = linesOf target name := by
  have hno : linesOf (source.filter (fun h => h.isNamed (lit "connection") || h.isNamed (lit "upgrade"))) name = [] := by
    rw [linesOf, List.filter_eq_nil_iff]
    intro line hl hn
    have hlow : lower line.name = lower name := (eqIgnoreCase_iff _ _).1 hn
    rcases Bool.or_eq_true_iff.1 (List.mem_filter.1 hl).2 with hk | hk
    · exact hc (hlow.symm.trans ((eqIgnoreCase_iff _ _).1 hk))
    · exact hu (hlow.symm.trans ((eqIgnoreCase_iff _ _).1 hk))
  rw [appendUpgradeHeaders, linesOf_append, hno, List.append_nil]

theorem linesOf_normalizeRequestHeaders {name : Text} (hn : endToEnd name = true) (headers : List HttpHeader) (ip : IpAddr)
    (keepAlive : Bool) (k : BodyKind) :
    linesOf (normalizeRequestHeaders headers ip keepAlive k) name = forwardedLines headers k name := by
  have hxff : linesOf [(⟨lit "x-forwarded-for", ip.toText⟩ : HttpHeader)] name = [] := by
    simp [linesOf, HttpHeader.isNamed, not_named_of_hopByHop (n := lit "x-forwarded-for") (by decide) hn]
  have hclo : linesOf (closeLine keepAlive) name = [] := by
    unfold closeLine
    split
    · rfl
    · simp [linesOf, HttpHeader.isNamed, not_named_of_hopByHop (n := lit "connection") (by decide) hn]
  rw [normalizeRequestHeaders, linesOf_append, linesOf_append, hxff, hclo, List.append_nil, List.append_nil,
    linesOf_filterHeaders_endToEnd hn]

variable {entry : HttpCacheEntry} {v : Text × Option Bytes}

theorem validators_name (h : v ∈ entry.validators) :
    v = (lit "if-none-match", entry.metadata.etag) ∨ v = (lit "if-modified-since", entry.metadata.lastModified) :=
  List.mem_pair.1 h

theorem conditional_name (h : v ∈ entry.validators) :
    endToEnd v.1 = true ∧ lower v.1 ≠ lit "connection" ∧ lower v.1 ≠ lit "upgrade" := by
  have table : ∀ name ∈ [lit "if-none-match", lit "if-modified-since"],
      endToEnd name = true ∧ lower name ≠ lit "connection" ∧ lower name ≠ lit "upgrade" := by decide
  rcases validators_name h with rfl | rfl
  · exact table _ (List.mem_cons_self)
  · exact table _ (List.mem_cons_of_mem _ List.mem_cons_self)

theorem carries_conditional (h : v ∈ entry.validators) (k : BodyKind) : k.carries v.1 = true := by
  rcases validators_name h with rfl | rfl <;> rfl

section
variable (request : Http1RequestHead) (ip : IpAddr) (upgrade : Option UpgradeProtocolConfig) (entry : HttpCacheEntry)
variable {v : Text × Option Bytes} (hv : v ∈ entry.validators)
include hv

/-- The client's lines of a conditional header are forwarded, unless it named the header in `Connection`. -/
theorem linesOf_normalized_conditional : linesOf (normalizeRequestHeaders request.headers ip request.keepAlive request.bodyKind) v.1 =
      if nominates request.headers v.1 then [] else linesOf request.headers v.1 := by
  rw [linesOf_normalizeRequestHeaders (conditional_name hv).1, forwardedLines, carries_conditional hv, Bool.not_true, Bool.or_false]

theorem linesOf_appendConditional (headers : List HttpHeader) :
    linesOf (appendConditionalRevalidationHeaders headers (some entry)) v.1 = linesOf headers v.1 ++ validatorLine v.1 v.2 := by
  rw [appendConditionalRevalidationHeaders, linesOf_append, linesOf_append, linesOf_validatorLine, linesOf_validatorLine]
  have hs : ∀ name, eqIgnoreCase name name = true := fun name => beq_self_eq_true _
  have hne : eqIgnoreCase (lit "if-none-match") (lit "if-modified-since") = false ∧
      eqIgnoreCase (lit "if-modified-since") (lit "if-none-match") = false := by decide
  rcases validators_name hv with rfl | rfl <;> simp [hne, hs]

/-- A conditional header goes to an HTTP/1 upstream in the client's lines, then the entry's own. -/
theorem linesOf_http1RequestHeaders : linesOf (http1RequestHeaders request ip upgrade (some entry)) v.1 =
      (if nominates request.headers v.1 then [] else linesOf request.headers v.1) ++ validatorLine v.1 v.2 := by
  obtain ⟨-, hcon, hupg⟩ := conditional_name hv
  rw [http1RequestHeaders]
  split
  · rw [linesOf_appendUpgradeHeaders _ _ hcon hupg, linesOf_appendConditional entry hv,
      linesOf_normalized_conditional request ip entry hv]
  · rw [linesOf_appendConditional entry hv, linesOf_normalized_conditional request ip entry hv]

theorem mem_linesOf_sent {transport : UpstreamTransport} :
    (∀ line ∈ linesOf (upstreamRequestHeaders transport request ip upgrade (some entry)) v.1,
      (nominates request.headers v.1 = false ∧ line ∈ linesOf request.headers v.1) ∨ v.2 = some (utf8 line.value)) ∧
    (nominates request.headers v.1 = false → ∀ line ∈ linesOf request.headers v.1,
      line ∈ linesOf (upstreamRequestHeaders transport request ip upgrade (some entry)) v.1) := by
  have hcli : ∀ line, (line ∈ if nominates request.headers v.1 then [] else linesOf request.headers v.1) ↔
      nominates request.headers v.1 = false ∧ line ∈ linesOf request.headers v.1 := by
    cases nominates request.headers v.1 <;> simp
  have hh1 : ∀ line, line ∈ linesOf (http1RequestHeaders request ip upgrade (some entry)) v.1 ↔
      (nominates request.headers v.1 = false ∧ line ∈ linesOf request.headers v.1) ∨ line ∈ validatorLine v.1 v.2 := by
    intro line
    rw [linesOf_http1RequestHeaders request ip upgrade entry hv, List.mem_append, hcli]
  cases transport with
  | http3 =>
    simp only [upstreamRequestHeaders, linesOf_normalized_conditional request ip entry hv, hcli]
    exact ⟨fun line h => .inl h, fun hn line hl => ⟨hn, hl⟩⟩
  | http1 | http2 =>
    simp only [upstreamRequestHeaders, hh1]
    exact ⟨fun line h => h.imp_right validatorLine_value, fun hn line hl => .inl ⟨hn, hl⟩⟩

end

section
variable (request : Http1RequestHead) (ip : IpAddr) (upgrade : Option UpgradeProtocolConfig) (entry : HttpCacheEntry)

/-- **The conditional headers sent upstream are the entry's own exactly when the client's are**: when, for both of them, the
client sent no line with another value than the entry's validator, or named the header in `Connection`. -/
theorem conditionals_are_the_entrys_iff (transport : UpstreamTransport) :
    (∀ v ∈ entry.validators, ∀ line ∈ linesOf (upstreamRequestHeaders transport request ip upgrade (some entry)) v.1,
      v.2 = some (utf8 line.value)) ↔
    ∀ v ∈ entry.validators, nominates request.headers v.1 = true ∨
      ∀ line ∈ linesOf request.headers v.1, v.2 = some (utf8 line.value) := by
  constructor
  · intro h v hv
    cases hn : nominates request.headers v.1 with
    | true => exact .inl rfl
    | false => exact .inr fun line hl => h v hv line ((mem_linesOf_sent request ip upgrade entry hv).2 hn line hl)
  · intro h v hv line hl
    rcases (mem_linesOf_sent request ip upgrade entry hv).1 line hl with ⟨hn, hcli⟩ | hown
    · rcases h v hv with hnom | hlin
      · rw [hn] at hnom; cases hnom
      · exact hlin line hcli
    · exact hown

end

def conditionalRequest : Http1RequestHead where
  method := lit "GET"
  target := lit "/"
  version := .http1
  headers := [⟨lit "host", lit "a"⟩, ⟨lit "if-none-match", lit "\"client\""⟩]
  bodyKind := .none
  keepAlive := true
  route := none
  http10 := false

def taggedEntry : HttpCacheEntry where
  metadata := ⟨200, 0, 1, none, none, some (utf8 (lit "\"stored\"")), none⟩
  headers := []
  body := []

/-- The client's tag goes upstream beside the entry's, and a 304 for it refreshes the entry. -/
theorem conditionals_of_the_client_forwarded :
    linesOf (upstreamRequestHeaders .http1 conditionalRequest (.v4 127 0 0 1) none (some taggedEntry)) (lit "if-none-match") =
      [⟨lit "if-none-match", lit "\"client\""⟩, ⟨lit "if-none-match", lit "\"stored\""⟩] ∧
    ¬ ∀ v ∈ taggedEntry.validators,
      ∀ line ∈ linesOf (upstreamRequestHeaders .http1 conditionalRequest (.v4 127 0 0 1) none (some taggedEntry)) v.1,
        v.2 = some (utf8 line.value) := by
  constructor <;> decide +kernel

end WayBalancer
