import WayBalancer.Text
/-!
# ConfigSecurity — the security posture of a workspace and the attestation of its snapshots

`crates/config-model/src/security.rs`.  Whether an Ed25519 key is one and whether a signature verifies are the library's, so
both are parameters.
-/
namespace WayBalancer

open Str Word

structure InsecureDevModeConfig where
  enabled : Bool := false
  acknowledgement : Option Text := none
deriving DecidableEq, Repr

inductive ArtifactVerificationMode
  | enforced
  | disabled
deriving DecidableEq, Repr

structure TrustedArtifactSignerConfig where
  identity : Text
  publicKeyEd25519 : Text
deriving DecidableEq, Repr

structure ArtifactVerificationConfig where
  mode : ArtifactVerificationMode := .enforced
  trustedSigners : List TrustedArtifactSignerConfig := []
deriving DecidableEq, Repr

structure TrustedClientIpConfig where
  enabled : Bool := false
  trustedProxyCidrs : List Text := []
deriving DecidableEq, Repr

structure AnonymousSourceFilterConfig where
  enabled : Bool := false
  denyCidrs : List Text := []
  denyVpn : Bool := false
  denyProxy : Bool := false
  denySocks : Bool := false
  denyTor : Bool := false
  vpnCidrs : List Text := []
  proxyCidrs : List Text := []
  socksCidrs : List Text := []
  torExitCidrs : List Text := []
deriving DecidableEq, Repr

structure WorkspaceSecurityConfig where
  insecureDevMode : InsecureDevModeConfig := {}
  artifactVerification : ArtifactVerificationConfig := {}
  trustedClientIp : TrustedClientIpConfig := {}
  anonymousSourceFilter : AnonymousSourceFilterConfig := {}
deriving DecidableEq, Repr

structure ArtifactAttestation where
  signerIdentity : Text
  artifactDigestSha256 : Text
  signatureEd25519 : Text
deriving DecidableEq, Repr

inductive ArtifactIntegrityError
  | missingAttestation
  | emptySignerIdentity
  | signerIdentityTooLong
  | invalidArtifactDigestFormat
  | artifactDigestMismatch
  | invalidTrustedSignerPublicKey
  | invalidSignatureFormat
  | untrustedSigner
  | signatureVerificationFailed
  | insecureModeNotEnabled
  | missingInsecureDevAcknowledgement
deriving DecidableEq, Repr

def ArtifactIntegrityError.toText : ArtifactIntegrityError → Text
  | .missingAttestation => lit "artifact attestation is required by the snapshot security posture"
  | .emptySignerIdentity => lit "artifact attestation signer identity must not be empty"
  | .signerIdentityTooLong => lit "artifact attestation signer identity exceeds max length"
  | .invalidArtifactDigestFormat => lit "artifact attestation digest must be a lowercase sha256 hex string"
  | .artifactDigestMismatch => lit "artifact attestation digest does not match snapshot digest"
  | .invalidTrustedSignerPublicKey => lit "trusted signer public key must be a lowercase ed25519 hex string"
  | .invalidSignatureFormat => lit "artifact attestation signature must be a lowercase ed25519 hex string"
  | .untrustedSigner => lit "artifact attestation signer is not trusted by snapshot policy"
  | .signatureVerificationFailed => lit "artifact attestation signature verification failed"
  | .insecureModeNotEnabled => lit "artifact verification may only be disabled when insecure_dev_mode is enabled"
  | .missingInsecureDevAcknowledgement => lit "insecure_dev_mode requires a non-empty acknowledgement"

/-! ## Hexadecimal -/

def isLowerHexByte (b : UInt8) : Bool := (48 ≤ b && b ≤ 57) || (97 ≤ b && b ≤ 102)

def isLowerHexLen (value : Text) (expectedLen : ℕ) : Bool := byteLen value == expectedLen && (utf8 value).all isLowerHexByte

def sha256HexLen : ℕ := 64

def isLowerHexDigest (value : Text) : Bool := isLowerHexLen value sha256HexLen

def isLowerHexEd25519PublicKey (value : Text) : Bool := isLowerHexLen value 64

def lowerHexValue (b : UInt8) : Option UInt8 :=
  if 48 ≤ b && b ≤ 57 then some (b - 48) else if 97 ≤ b && b ≤ 102 then some (b - 97 + 10) else none

def decodeHexPairs : List UInt8 → Option (List UInt8)
  | []            => some []
  | [_]           => none
  | a :: b :: rest => do
    let high ← lowerHexValue a
    let low ← lowerHexValue b
    let bytes ← decodeHexPairs rest
    return (high * 16 + low) :: bytes

def decodeHexArray (n : ℕ) (value : Text) : Option (List UInt8) :=
  if byteLen value ≠ n * 2 then none else decodeHexPairs (utf8 value)

/-! ## Attestations -/

/-- What the signature library decides: which 32 bytes are a key, and which signatures it verifies. -/
structure Ed25519 where
  isKey : List UInt8 → Bool
  verify : List UInt8 → List UInt8 → List UInt8 → Bool

def maxSignerIdentityLen : ℕ := 128

def validateSignerIdentity (signerIdentity : Text) : Except ArtifactIntegrityError Unit :=
  if (trim signerIdentity).isEmpty then .error .emptySignerIdentity
  else if byteLen (trim signerIdentity) > maxSignerIdentityLen then .error .signerIdentityTooLong
  else .ok ()

def attestationMessage (signerIdentity artifactDigestSha256 : Text) : List UInt8 :=
  utf8 (lit "way-balancer-artifact-attestation-v1\n" ++ signerIdentity ++ lit "\n" ++ artifactDigestSha256)

def parseVerifyingKey (ed25519 : Ed25519) (publicKeyEd25519 : Text) : Except ArtifactIntegrityError (List UInt8) :=
  match (decodeHexArray 32 publicKeyEd25519).filter ed25519.isKey with
  | some key => .ok key
  | none     => .error .invalidTrustedSignerPublicKey

def parseSignature (signatureEd25519 : Text) : Except ArtifactIntegrityError (List UInt8) :=
  match decodeHexArray 64 signatureEd25519 with
  | some signature => .ok signature
  | none           => .error .invalidSignatureFormat

def InsecureDevModeConfig.acknowledged (config : InsecureDevModeConfig) : Bool :=
  config.acknowledgement.any (fun value => !(trim value).isEmpty)

/-- `verify_snapshot_artifact_integrity`, of a snapshot with this security posture and this digest. -/
def verifySnapshotArtifactIntegrity (ed25519 : Ed25519) (security : WorkspaceSecurityConfig) (digestSha256 : Text)
    (attestation : Option ArtifactAttestation) : Except ArtifactIntegrityError Unit :=
  match security.artifactVerification.mode with
  | .enforced => match attestation with
    | none             => .error .missingAttestation
    | some attestation => do
      let signerIdentity := trim attestation.signerIdentity
      validateSignerIdentity signerIdentity
      if !isLowerHexDigest attestation.artifactDigestSha256 then throw .invalidArtifactDigestFormat
      if attestation.artifactDigestSha256 ≠ digestSha256 then throw .artifactDigestMismatch
      let some trustedSigner := security.artifactVerification.trustedSigners.find?
          (fun trustedSigner => trim trustedSigner.identity = signerIdentity)
        | throw .untrustedSigner
      let verifyingKey ← parseVerifyingKey ed25519 trustedSigner.publicKeyEd25519
      let signature ← parseSignature attestation.signatureEd25519
      if !ed25519.verify verifyingKey (attestationMessage signerIdentity attestation.artifactDigestSha256) signature then
        throw .signatureVerificationFailed
  | .disabled =>
    if !security.insecureDevMode.enabled then .error .insecureModeNotEnabled
    else if !security.insecureDevMode.acknowledged then .error .missingInsecureDevAcknowledgement
    else .ok ()

end WayBalancer
