import Sifir.Crates
import Sifir.Lib.Results
import Sifir.Lib.TrustChain

/-!
# AMD certificate chain (`sifir-attest/src/amd_certs.rs`)

`vcekVerifyingKey` walks a chain [VCEK, ASK, ARK] and returns the key of the
first certificate. `VerifyError` (of `verify.rs`) is here because both use it.
-/

namespace Sifir

open Lib

inductive VerifyError where
  | wrongLength (got : ℕ)
  | badSignature
  | keyBindingMismatch (report computed : String)
  | measurementMismatch (expected actual : String)
  | certChain (text : String)
  | internal (text : String)
deriving DecidableEq

def VerifyError.display : VerifyError → String
  | .wrongLength got => s!"attestation report length is {got}, expected 1184"
  | .badSignature => "signature verification failed"
  | .keyBindingMismatch report computed =>
    s!"TLS key binding mismatch: report_data[0..32]={report}, SHA-256(pubkey)={computed}"
  | .measurementMismatch expected actual =>
    s!"measurement mismatch: expected={expected}, got={actual}"
  | .certChain text => s!"AMD certificate chain error: {text}"
  | .internal text => s!"internal error: {text}"

namespace AmdCerts

variable [Crates]

def parseCert (der : Bytes) : Except VerifyError Certificate :=
  (Crates.certificateFromDer der).mapError fun e => .certChain s!"DER parse error: {e}"

def extractP384Key (cert : Certificate) : Except VerifyError Crates.VerifyingKey := do
  let spki := cert.tbsCertificate.subjectPublicKeyInfo
  let rawKey ← Results.okOr (.certChain "empty public key bits") spki.subjectPublicKey.asBytes
  (Crates.fromSec1Bytes rawKey).mapError fun e => .certChain s!"P-384 key parse error: {e}"

def verifyCertSignature (cert : Certificate) (issuerKey : Crates.VerifyingKey) :
    Except VerifyError Unit := do
  let tbsDer ← (Crates.tbsToDer cert.tbsCertificate).mapError
    fun e => VerifyError.certChain s!"TBSCertificate encode error: {e}"
  let sigBytes ← Results.okOr (.certChain "empty signature bits") cert.signature.asBytes
  let derSig ← (Crates.derSignatureTryFrom sigBytes).mapError
    fun e => VerifyError.certChain s!"DER signature parse error: {e}"
  (Crates.verifyDer issuerKey tbsDer derSig).mapError
    fun _ => .certChain "signature verification failed"

/-- Verify the chain [VCEK, ASK, ARK] and return the VCEK's key. -/
def vcekVerifyingKey (chain : List Bytes) : Except VerifyError Crates.VerifyingKey :=
  if h : chain.length < 3 then
    .error (.certChain s!"expected [VCEK, ASK, ARK] (3 certs), got {chain.length}")
  else do
    let vcek ← parseCert chain[0]
    let ask ← parseCert chain[1]
    let ark ← parseCert chain[2]
    -- the issuer of the ARK is not compared with its subject, and its key not with AMD's
    let arkVk ← extractP384Key ark
    (verifyCertSignature ark arkVk).mapError
      fun e => VerifyError.certChain s!"ARK self-signature invalid: {e.display}"
    -- the ASK under the ARK's key, then the VCEK under the ASK's
    (verifyCertSignature ask arkVk).mapError
      fun e => VerifyError.certChain s!"ASK signature invalid (ARK): {e.display}"
    let askVk ← extractP384Key ask
    (verifyCertSignature vcek askVk).mapError
      fun e => VerifyError.certChain s!"VCEK signature invalid (ASK): {e.display}"
    extractP384Key vcek

end AmdCerts
end Sifir
