import WayBalancer.ConfigValidator
import WayBalancer.SeenWindow
import WayBalancer.TextTrim
/-!
# AdminAuth — who may call the admin listener

`binaries/lb-dataplane/src/workspace_serve/admin_auth.rs`: a bearer token, or headers signed with an operator's secret.
The signature is HMAC-SHA-256 over the actor, the request line, the timestamp, the nonce and the body's digest; the
timestamp must lie within the clock skew of the wall clock's whole seconds, and the nonce must not be known any more.
SHA-256 is a parameter, and so are the process's environment and files.  The wall clock is read in seconds since the
Unix epoch and the monotonic one in nanoseconds.
-/
namespace WayBalancer

open Str Findings

structure DemoHeader where
  name : Text
  value : Text
deriving DecidableEq

structure DemoRequestHead where
  method : Text
  target : Text
  headers : List DemoHeader
  authorizationBearer : Option Text
deriving DecidableEq

def DemoRequestHead.headerValue (request : DemoRequestHead) (name : Text) : Option Text :=
  (request.headers.find? (fun header => eqIgnoreCase header.name name)).map (·.value)

inductive AdminPermission
  | read
  | audit
  | write
deriving DecidableEq

def adminPermissionName : AdminPermission → Text
  | .read  => lit "read"
  | .audit => lit "audit"
  | .write => lit "write"

inductive AdminRequestAction
  | healthz
  | readyz
  | status
  | validate
  | audit
  | reload
  | restart
  | cachePurge
  | cacheInvalidate
  | unknown
deriving DecidableEq

def AdminRequestAction.permission : AdminRequestAction → AdminPermission
  | .audit => .audit
  | .reload | .restart | .cachePurge | .cacheInvalidate => .write
  | .healthz | .readyz | .status | .validate | .unknown => .read

structure CompiledAdminOperator where
  secretEnv : Text
  permissions : List AdminPermission
deriving DecidableEq

/-- The compiled policy; both durations are in nanoseconds. -/
inductive CompiledAdminAuthPolicy
  | bearer (secretEnv : Text) (permissions : List AdminPermission)
  | signedHeaders (operators : SortedMap Text CompiledAdminOperator) (maxClockSkew nonceTtl : ℕ)

def nanosPerSec : ℕ := 1000000000

/-- `compile_admin_permissions`; the set is read by membership only. -/
def compileAdminPermissions (permissions : List AdminAuthorizationScopeConfig) : List AdminPermission :=
  permissions.map (fun permission => match permission with
    | .read  => .read
    | .audit => .audit
    | .write => .write)

/-- The authentication part of `compile_admin_policy`. -/
def compileAdminAuth : AdminAuthPolicyConfig → CompiledAdminAuthPolicy
  | .bearer secretEnv permissions => .bearer secretEnv (compileAdminPermissions permissions)
  | .signedHeaders operators maxClockSkewSecs nonceTtlSecs =>
    .signedHeaders
      (.ofList (operators.map (fun operator =>
        (operator.id, ⟨operator.secretEnv, compileAdminPermissions operator.permissions⟩))))
      (maxClockSkewSecs.toNat * nanosPerSec) (nonceTtlSecs.toNat * nanosPerSec)

structure AdminAuthFailure where
  status : Text
  headers : List Text
  body : Text
  actor : Text
  authMode : Text
  outcome : Text
  detail : Text
deriving DecidableEq

structure AdminRequestContext where
  requestId : Text
  actor : Text
  authMode : Text
  source : IpAddr
deriving DecidableEq

/-! ## Secrets -/

/-- What the process reads of its surroundings: environment variables, and files or the text of their error. -/
structure SecretSources where
  var : Text → Option Text
  readToString : Text → Except Text Text

structure ResolvedSecretMaterial where
  value : Text
  sourceKind : Text
  sourceReference : Text
  supportsRotationWithoutReload : Bool
deriving DecidableEq

structure SecretMaterialResolutionError where
  sourceKind : Text
  sourceReference : Text
  state : Text
  detail : Text
deriving DecidableEq

def trimSecretMaterial (value : Text) : Text := value.rdropWhile (fun c => c = '\r' ∨ c = '\n')

variable (sources : SecretSources)

def readSecretFile (secretFileEnv secretFilePath : Text) : Except SecretMaterialResolutionError ResolvedSecretMaterial :=
  match sources.readToString secretFilePath with
  | .error error => .error ⟨lit "file", secretFilePath, lit "read_failed",
      lit "admin secret file " ++ secretFilePath ++ lit " from " ++ secretFileEnv ++ lit " could not be read: " ++ error⟩
  | .ok value =>
    if (trimSecretMaterial value).isEmpty then .error ⟨lit "file", secretFilePath, lit "empty",
      lit "admin secret file configured via " ++ secretFileEnv ++ lit " was empty"⟩
    else .ok ⟨trimSecretMaterial value, lit "file", secretFilePath, true⟩

variable (secretEnv legacyAdminSecret : Text)

/-- The secret of an environment variable, or for the default variable the one given at start. -/
def readSecretEnv : Except SecretMaterialResolutionError ResolvedSecretMaterial :=
  let value := (sources.var secretEnv).getD (if secretEnv = lit "LB_CTL_ADMIN_SECRET" then legacyAdminSecret else [])
  if value.isEmpty then .error ⟨lit "env", secretEnv, lit "missing",
    lit "admin secret env " ++ secretEnv ++ lit " is not configured"⟩
  else .ok ⟨value, lit "env", secretEnv, false⟩

def resolveSecretMaterial : Except SecretMaterialResolutionError ResolvedSecretMaterial :=
  match sources.var (secretEnv ++ lit "_FILE") with
  | some secretFilePath =>
    if (trim secretFilePath).isEmpty then readSecretEnv sources secretEnv legacyAdminSecret
    else readSecretFile sources (secretEnv ++ lit "_FILE") (trim secretFilePath)
  | none => readSecretEnv sources secretEnv legacyAdminSecret

def resolveAdminSecret (authMode actor : Text) : Except AdminAuthFailure Text :=
  match resolveSecretMaterial sources secretEnv legacyAdminSecret with
  | .error error => .error ⟨lit "503 Service Unavailable", [], lit "admin authorization unavailable\n", actor, authMode,
      lit "misconfigured", error.detail⟩
  | .ok material => .ok material.value

/-! ## Signatures -/

def Sha256Digest := {bytes : List UInt8 // bytes.length = 32}

/-- `format!("{byte:02x}")` of every byte. -/
def Sha256Digest.hex (digest : Sha256Digest) : Text := digest.1.flatMap (fun byte => hexPadded 2 byte.toNat)

theorem Sha256Digest.hex_ne_nil (digest : Sha256Digest) : trim digest.hex ≠ [] := by
  obtain ⟨bytes, hlen⟩ := digest
  cases bytes with
  | nil => cases hlen
  | cons byte bytes =>
    -- a hexadecimal digit is no white space, so trimming keeps it
    have hdig : Nat.digitChar (byte.toNat % 16) ∈ hexPadded 2 byte.toNat := List.mem_append_right _ List.mem_cons_self
    have hpla : ∀ digit < 16, isWhitespace (Nat.digitChar digit) = false := by decide
    have hmem : Nat.digitChar (byte.toNat % 16) ∈ Sha256Digest.hex ⟨byte :: bytes, hlen⟩ := List.mem_append_left _ hdig
    exact List.ne_nil_of_mem (mem_trim (hpla _ (Nat.mod_lt _ (by omega))) hmem)

section Sign

variable (sha256 : List UInt8 → Sha256Digest)

def requestBodyDigest (body : List UInt8) : Text := (sha256 body).hex

def resize (bytes : List UInt8) (size : ℕ) : List UInt8 := bytes.take size ++ List.replicate (size - bytes.length) 0

def signAdminRequest (secret actor method target : Text) (timestamp : ℕ) (nonce : Text) (body : List UInt8) : Text :=
  let blockSize := 64
  let key := resize (if (utf8 secret).length > blockSize then (sha256 (utf8 secret)).1 else utf8 secret) blockSize
  let innerPad := key.map (fun keyByte => 0x36 ^^^ keyByte)
  let outerPad := key.map (fun keyByte => 0x5c ^^^ keyByte)
  let payload := actor ++ '\n' :: method ++ '\n' :: target ++ '\n' :: Nat.toDigits 10 timestamp ++ '\n' :: nonce ++
    '\n' :: requestBodyDigest sha256 body ++ lit "\n"
  let innerDigest := sha256 (innerPad ++ utf8 payload)
  (sha256 (outerPad ++ innerDigest.1)).hex

end Sign

/-- `constant_time_eq`: every position is looked at, a missing byte as zero. -/
def constantTimeEq (left right : List UInt8) : Bool :=
  (List.range (max left.length right.length)).foldl
    (fun diff index => diff ||| (left[index]?.getD 0 ^^^ right[index]?.getD 0).toNat) (left.length ^^^ right.length) = 0

theorem foldl_or_eq_zero {f : ℕ → ℕ} : ∀ {indices : List ℕ} {diff : ℕ},
    indices.foldl (fun diff index => diff ||| f index) diff = 0 ↔ diff = 0 ∧ ∀ index ∈ indices, f index = 0
  | [], diff => by simp
  | index :: indices, diff => by
    rw [List.foldl_cons, foldl_or_eq_zero, Nat.or_eq_zero_iff, List.forall_mem_cons, and_assoc]

theorem constantTimeEq_iff (left right : List UInt8) : constantTimeEq left right = true ↔ left = right := by
  unfold constantTimeEq
  rw [decide_eq_true_eq, foldl_or_eq_zero, Nat.xor_eq_zero_iff]
  constructor
  · rintro ⟨hlen, hby⟩
    refine List.ext_getElem hlen (fun index hl hr => ?_)
    have hxor := hby index (by rw [List.mem_range]; omega)
    rw [UInt8.toNat_xor, Nat.xor_eq_zero_iff, UInt8.toNat_inj] at hxor
    simpa [List.getElem?_eq_getElem hl, List.getElem?_eq_getElem hr] using hxor
  · rintro rfl
    simp

/-! ## The request -/

variable (actor : Text)

def signedUnauthenticated (detail : String) : AdminAuthFailure :=
  ⟨lit "401 Unauthorized", [], lit "signed admin authorization required\n", actor, lit "signed_headers",
    lit "unauthenticated", lit detail⟩

def bearerUnauthenticated (detail : String) : AdminAuthFailure :=
  ⟨lit "401 Unauthorized", [lit "WWW-Authenticate: Bearer"], lit "admin authorization required\n", actor, lit "bearer",
    lit "unauthenticated", lit detail⟩

def notPermitted (authMode detail : Text) : AdminAuthFailure :=
  ⟨lit "403 Forbidden", [], lit "admin action not permitted\n", actor, authMode, lit "forbidden", detail⟩

def requiredHeader (request : DemoRequestHead) (name : String) (actor : Text) : Except AdminAuthFailure Text :=
  match (request.headerValue (lit name)).filter (fun value => !(trim value).isEmpty) with
  | none       => .error (signedUnauthenticated actor ("missing " ++ name ++ " header"))
  | some value => .ok value

def absDiff (a b : ℕ) : ℕ := (a - b) + (b - a)

section Authenticate

variable (sha256 : List UInt8 → Sha256Digest) (sources : SecretSources)

def checkTimestamp (nowSecs maxClockSkew : ℕ) (request : DemoRequestHead) (actor : Text) : Except AdminAuthFailure ℕ :=
  match request.headerValue (lit "x-lb-admin-timestamp") with
  | none => .error (signedUnauthenticated actor "missing x-lb-admin-timestamp header")
  | some timestampHeader =>
    match parseU64 timestampHeader with
    | none => .error (signedUnauthenticated actor "invalid x-lb-admin-timestamp header")
    | some timestamp =>
      if absDiff nowSecs timestamp > maxClockSkew / nanosPerSec then
        .error ⟨lit "401 Unauthorized", [], lit "signed admin timestamp rejected\n", actor, lit "signed_headers",
          lit "rejected", lit "signed admin timestamp exceeded clock skew allowance"⟩
      else .ok timestamp

def checkOperator (operators : SortedMap Text CompiledAdminOperator) (requiredPermission : AdminPermission)
    (actor : Text) : Except AdminAuthFailure CompiledAdminOperator :=
  match operators.get? actor with
  | none => .error (signedUnauthenticated actor "unknown admin operator")
  | some operator =>
    if requiredPermission ∉ operator.permissions then
      .error (notPermitted actor (lit "signed_headers")
        (lit "operator lacks " ++ adminPermissionName requiredPermission ++ lit " permission"))
    else .ok operator

def checkSignedHeaders (operators : SortedMap Text CompiledAdminOperator) (maxClockSkew nowSecs : ℕ)
    (request : DemoRequestHead) (requestBody : List UInt8) (action : AdminRequestAction) (legacyAdminSecret : Text) :
    Except AdminAuthFailure (Text × Text) := do
  let actor ← requiredHeader request "x-lb-admin-actor" (lit "anonymous")
  let operator ← checkOperator operators action.permission actor
  let timestamp ← checkTimestamp nowSecs maxClockSkew request actor
  let nonce ← requiredHeader request "x-lb-admin-nonce" actor
  let signature ← requiredHeader request "x-lb-admin-signature" actor
  let expectedSecret ← resolveAdminSecret sources operator.secretEnv legacyAdminSecret (lit "signed_headers") actor
  let expected := signAdminRequest sha256 expectedSecret actor request.method request.target timestamp nonce requestBody
  if !constantTimeEq (utf8 signature) (utf8 expected) then
    .error (signedUnauthenticated actor "signed admin signature mismatch")
  else .ok (actor, nonce)

def checkBearer (secretEnv : Text) (permissions : List AdminPermission) (request : DemoRequestHead)
    (action : AdminRequestAction) (legacyAdminSecret : Text) : Except AdminAuthFailure Unit :=
  match request.authorizationBearer with
  | none => .error (bearerUnauthenticated (lit "anonymous") "missing bearer token")
  | some bearerToken => do
    let expected ← resolveAdminSecret sources secretEnv legacyAdminSecret (lit "bearer") (lit "shared-bearer")
    if !constantTimeEq (utf8 bearerToken) (utf8 expected) then
      .error (bearerUnauthenticated (lit "shared-bearer") "bearer token mismatch")
    else if action.permission ∉ permissions then
      .error (notPermitted (lit "shared-bearer") (lit "bearer")
        (lit "shared bearer lacks " ++ adminPermissionName action.permission ++ lit " permission"))
    else .ok ()

structure AdminReplayState where
  nonces : SortedMap Text ℕ := .empty

def authenticateAdminRequest (nowSecs now : ℕ) (request : DemoRequestHead) (requestBody : List UInt8)
    (action : AdminRequestAction) (sourceIp : IpAddr) (policy : CompiledAdminAuthPolicy) (replayState : AdminReplayState)
    (legacyAdminSecret requestId : Text) : Except AdminAuthFailure AdminRequestContext × AdminReplayState :=
  match policy with
  | .bearer secretEnv permissions =>
    ((checkBearer sources secretEnv permissions request action legacyAdminSecret).map
      (fun _ => ⟨requestId, lit "shared-bearer", lit "bearer", sourceIp⟩), replayState)
  | .signedHeaders operators maxClockSkew nonceTtl =>
    match checkSignedHeaders sha256 sources operators maxClockSkew nowSecs request requestBody action legacyAdminSecret with
    | .error failure      => (.error failure, replayState)
    | .ok (actor, nonce) =>
      let (fresh, nonces) := SeenWindow.attempt nonceTtl now (actor ++ ':' :: nonce) replayState.nonces
      if fresh then (.ok ⟨requestId, actor, lit "signed_headers", sourceIp⟩, ⟨nonces⟩)
      else (.error ⟨lit "409 Conflict", [], lit "admin command replay rejected\n", actor, lit "signed_headers",
        lit "replay_rejected", lit "signed admin nonce has already been used"⟩, ⟨nonces⟩)

end Authenticate

end WayBalancer
