import Sifir.Attest.AttestExt
import Sifir.Attest.Verify
import Sifir.Client.GpuVerify

/-!
# The certificate verifier of the client (`sifir-client/src/verifier.rs`)

What replaces the CA check in the TLS handshake: the attestation in the server's
certificate is verified against the key of that certificate.
-/

namespace Sifir

open Lib

/-- `rustls::Error`, as far as the verifier makes one. -/
inductive TlsError where
  | general (text : String)
deriving DecidableEq

inductive VerifierMode where
  | mock
  | amdSevSnp
deriving DecidableEq

/-- `{:?}` -/
def VerifierMode.debug : VerifierMode → String
  | .mock => "Mock"
  | .amdSevSnp => "AmdSevSnp"

structure AttestationVerifier where
  expectedMeasurement : Vector UInt8 measurementSize
  mode : VerifierMode
  verifyGpuCc : Bool
deriving DecidableEq

/-- `ServerCertVerified`, the mark of a certificate that was verified. -/
inductive ServerCertVerified where
  | assertion

namespace Verifier

variable [Crates]

/-- The Sifir extension of a certificate: the first with its OID. -/
def extractAttestExtension (cert : Certificate) : Except TlsError AttestationExtension := do
  let oid ← (Crates.oidParse attestOidStr).mapError
    fun e => TlsError.general s!"OID parse error: {e}"
  let extensions := cert.tbsCertificate.extensions.getD []
  let ext ← Results.okOr (.general "no Sifir attestation extension in server cert")
    (extensions.find? fun e => e.extnId = oid)
  (AttestationExtension.fromBytes ext.extnValue).mapError
    fun e => .general s!"attestation extension parse error: {e}"

/-- The trust anchor the client's mode and the extension's mode agree on. -/
def chooseKey (mode : VerifierMode) (ext : AttestationExtension) :
    Except TlsError AttestationKey :=
  match mode, ext.mode with
  | .mock, .mock => .ok .mock
  | .amdSevSnp, .amdSevSnp => do
    let chain ← ext.vcekChainDer.mapError
      fun e => TlsError.general s!"cert chain decode: {e.message}"
    return .amd chain
  | _, _ =>
    .error (.general s!"mode mismatch: client={mode.debug}, server={ext.mode.name}")

/-- The GPU token is there and verifies. -/
def checkGpu (ext : AttestationExtension) (spkiDer : Bytes) : Except TlsError Unit :=
  match ext.gpuJwt with
  | some jwt => do
    let _ ← (GpuVerify.verifyGpuJwt jwt spkiDer).mapError
      fun e => TlsError.general s!"GPU JWT failed: {e.display}"
    return ()
  | none => .error (.general "--gpu-cc set but server cert has no GPU JWT")

/-- `verify_server_cert`. Intermediates, server name, OCSP response and time are not
looked at. -/
def verifyServerCert (self : AttestationVerifier) (endEntity : Bytes)
    (_intermediates : List Bytes) (_serverName : String) (_ocsp : Bytes) (_now : ℕ) :
    Except TlsError ServerCertVerified := do
  let cert ← (Crates.certificateFromDer endEntity).mapError
    fun e => TlsError.general s!"cert parse error: {e}"
  let spkiDer ← (Crates.spkiToDer cert.tbsCertificate.subjectPublicKeyInfo).mapError
    fun e => TlsError.general s!"SPKI encode error: {e}"
  -- the key that everything below is checked against is the one of this certificate
  let attestExt ← extractAttestExtension cert
  let reportRaw ← attestExt.reportBytes.mapError
    fun e => TlsError.general s!"report decode error: {e.message}"
  let attestKey ← chooseKey self.mode attestExt
  (Verify.verify reportRaw attestKey self.expectedMeasurement spkiDer).mapError
    fun e => TlsError.general s!"attestation failed: {e.display}"
  if self.verifyGpuCc then
    checkGpu attestExt spkiDer
  return .assertion

/-! ## The lines the verifier prints -/

def cpuLine : String := "[client] CPU attestation verified (AMD SEV-SNP / mock)"

def gpuLine (claims : GpuClaims) : String :=
  s!"[client] GPU attestation verified: model={claims.gpuModel}, cc_mode={claims.ccMode}"

def verifiedLine : String := "[client] attestation verified successfully"

/-- What `verify_server_cert` does before it prints its first line. -/
def verifyCpu (self : AttestationVerifier) (endEntity : Bytes) :
    Except TlsError (AttestationExtension × Bytes) := do
  let cert ← (Crates.certificateFromDer endEntity).mapError
    fun e => TlsError.general s!"cert parse error: {e}"
  let spkiDer ← (Crates.spkiToDer cert.tbsCertificate.subjectPublicKeyInfo).mapError
    fun e => TlsError.general s!"SPKI encode error: {e}"
  let attestExt ← extractAttestExtension cert
  let reportRaw ← attestExt.reportBytes.mapError
    fun e => TlsError.general s!"report decode error: {e.message}"
  let attestKey ← chooseKey self.mode attestExt
  (Verify.verify reportRaw attestKey self.expectedMeasurement spkiDer).mapError
    fun e => TlsError.general s!"attestation failed: {e.display}"
  return (attestExt, spkiDer)

/-- The claims of the GPU token, which is there and verifies. -/
def gpuClaims (ext : AttestationExtension) (spkiDer : Bytes) : Except TlsError GpuClaims :=
  match ext.gpuJwt with
  | some jwt =>
    (GpuVerify.verifyGpuJwt jwt spkiDer).mapError
      fun e => TlsError.general s!"GPU JWT failed: {e.display}"
  | none => .error (.general "--gpu-cc set but server cert has no GPU JWT")

/-- `verify_server_cert` with the lines it prints. The line about the CPU is printed also
where the GPU check fails after it. -/
def verifyServerCertPrinting (self : AttestationVerifier) (endEntity : Bytes)
    (_intermediates : List Bytes) (_serverName : String) (_ocsp : Bytes) (_now : ℕ) :
    List String × Except TlsError ServerCertVerified :=
  match verifyCpu self endEntity with
  | .error e => ([], .error e)
  | .ok (attestExt, spkiDer) =>
    if self.verifyGpuCc then
      match gpuClaims attestExt spkiDer with
      | .error e => ([cpuLine], .error e)
      | .ok claims => ([cpuLine, gpuLine claims, verifiedLine], .ok .assertion)
    else ([cpuLine, verifiedLine], .ok .assertion)

end Verifier
end Sifir
