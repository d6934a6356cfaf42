import Sifir.Crates
import Sifir.Lib.Results
import Sifir.Lib.Serde

/-!
# GPU attestation tokens (`sifir-client/src/gpu_verify.rs`)

The nonce, the confidential-computing mode and the model of the GPU are read from
the payload of a JWT. Its signature is not looked at.
-/

namespace Sifir

open Lib

structure GpuClaims where
  gpuModel : String
  ccMode : String
deriving DecidableEq

inductive GpuVerifyError where
  | malformedJwt (text : String)
  | nonceMismatch (expected got : String)
  | ccModeNotOn (got : String)
  | missingClaim (claim : String)
deriving DecidableEq

def GpuVerifyError.display : GpuVerifyError → String
  | .malformedJwt e => s!"malformed JWT: {e}"
  | .nonceMismatch expected got => s!"GPU JWT nonce mismatch: expected={expected}, got={got}"
  | .ccModeNotOn got => s!"GPU CC mode is not ON (got '{got}')"
  | .missingClaim c => s!"GPU JWT missing claim '{c}'"

/-- `NvidiaClaims`, the members of the payload that are read. -/
structure NvidiaClaims where
  nonce : Option String
  ccMode : Option String
  gpuModel : Option String
deriving DecidableEq

/-- The derived `Deserialize`. -/
def NvidiaClaims.ofJson : Json → Option NvidiaClaims
  | .obj members => do
    let ms ← Serde.names members
    let nonce ← Serde.optional Serde.string ms "x-nvidia-attestation-nonce"
    let ccMode ← Serde.optional Serde.string ms "x-nvidia-cc-mode"
    let gpuModel ← Serde.optional Serde.string ms "x-nvidia-gpu-model"
    return { nonce, ccMode, gpuModel }
  -- the fields in order, which a derived deserialiser also takes
  | .arr [nonce, ccMode, gpuModel] => do
    let nonce ← Serde.nullable Serde.string nonce
    let ccMode ← Serde.nullable Serde.string ccMode
    let gpuModel ← Serde.nullable Serde.string gpuModel
    return { nonce, ccMode, gpuModel }
  | _ => none

namespace GpuVerify

variable [Crates]

/-- `serde_json::from_slice::<NvidiaClaims>` -/
def claimsFromSlice (b : Bytes) : Except String NvidiaClaims :=
  Results.okOr (Crates.jsonError b) ((Crates.jsonFromSlice b).bind NvidiaClaims.ofJson)

/-- The claims of a token with three segments, from its payload segment. -/
def payloadClaims (payload : String) : Except GpuVerifyError NvidiaClaims := do
  let payloadBytes ← (Crates.base64UrlDecode payload).mapError
    fun e => GpuVerifyError.malformedJwt s!"payload decode: {e}"
  (claimsFromSlice payloadBytes).mapError fun e => .malformedJwt s!"payload JSON: {e}"

/-- The checks on the claims of a token. -/
def checkClaims (claims : NvidiaClaims) (tlsPubkeyDer : Bytes) :
    Except GpuVerifyError GpuClaims := do
  -- 1. nonce = hex(SHA-256(SPKI DER))
  let expectedNonce := Crates.hexEncode (Crates.sha256 tlsPubkeyDer).toList
  let gotNonce ← Results.okOr (.missingClaim "x-nvidia-attestation-nonce") claims.nonce
  if gotNonce ≠ expectedNonce then
    throw (.nonceMismatch expectedNonce gotNonce)
  -- 2. CC mode is "on"
  let ccMode ← Results.okOr (.missingClaim "x-nvidia-cc-mode") claims.ccMode
  if Text.toLowercase Crates.lowercaseTable ccMode ≠ "on" then
    throw (.ccModeNotOn ccMode)
  -- 3. GPU model
  let gpuModel ← Results.okOr (.missingClaim "x-nvidia-gpu-model") claims.gpuModel
  return { gpuModel, ccMode }

def verifyGpuJwt (jwt : String) (tlsPubkeyDer : Bytes) : Except GpuVerifyError GpuClaims :=
  match Text.split '.' jwt with
  | [_, payload, _] => do
    let claims ← payloadClaims payload
    checkClaims claims tlsPubkeyDer
  | parts => .error (.malformedJwt s!"expected 3 parts, got {parts.length}")

end GpuVerify
end Sifir
