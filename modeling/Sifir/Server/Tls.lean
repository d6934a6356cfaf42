import Sifir.Attest.AttestExt
import Sifir.Attest.Mock
import Sifir.Server.AmdAttestation
import Sifir.Server.GpuAttestation

/-!
# The TLS setup of the server (`sifir-server/src/tls.rs`)

A fresh key pair, evidence bound to it, and a self-signed certificate with the
evidence in an extension. Every signature and key generation draws its own
randomness.
-/

namespace Sifir

open Lib Windows

structure TlsSetup [Crates] where
  serverConfig : Crates.ServerConfig
  measurement : Vector UInt8 48

namespace Tls

variable [Crates]

/-- The randomness of a setup: for the key pair, for the temporary certificate its
key is read from, and for the certificate. -/
structure Randomness where
  keyPair : Crates.Entropy
  tempCert : Crates.Entropy
  cert : Crates.Entropy

/-! ## Helpers -/

def extractSpkiDer (keyPair : Crates.KeyPair) (e : Crates.Entropy) : Except AnyhowError Bytes := do
  -- made only to read the encoded key off it
  let tempCert ← (Crates.selfSigned {} keyPair e).mapError
    (AnyhowError.wrap "generate temp cert")
  let x509 ← (Crates.certificateFromDer tempCert).mapError
    (AnyhowError.wrap "parse temp cert DER")
  (Crates.spkiToDer x509.tbsCertificate.subjectPublicKeyInfo).mapError
    (AnyhowError.wrap "encode SPKI DER")

/-- The user data of a report request: the hash of the key, then zeros. -/
def userDataOf (pubkeyHash : Vector UInt8 32) : Vector UInt8 64 :=
  let userData : Vector UInt8 64 := Vector.replicate 64 0
  overwrite userData 0 pubkeyHash hash_fits

def generateKeypairAndHash (rng : Randomness) :
    Except AnyhowError (Crates.KeyPair × Vector UInt8 32 × Vector UInt8 64) := do
  let keyPair ← (Crates.generateP256 rng.keyPair).mapError
    (AnyhowError.wrap "generate P-256 keypair")
  let spkiDer ← extractSpkiDer keyPair rng.tempCert
  let pubkeyHash := Crates.sha256 spkiDer
  return (keyPair, pubkeyHash, userDataOf pubkeyHash)

omit [Crates] in
def extractMeasurement (reportBytes : Vector UInt8 reportSize) : Vector UInt8 48 :=
  window reportBytes 0x090 48 measurement_fits

def buildServerCert (keyPair : Crates.KeyPair) (ext : AttestationExtension)
    (e : Crates.Entropy) : Except AnyhowError Crates.ServerConfig := do
  let extBytes := ext.toBytes
  let params : CertificateParams := {}
  let params := { params with customExtensions :=
    params.customExtensions ++ [CustomExtension.fromOidContent attestOidArcs extBytes] }
  let cert ← (Crates.selfSigned params keyPair e).mapError
    (AnyhowError.wrap "generate attested cert")
  (Crates.withSingleCert [cert] (Crates.serializedDer keyPair)).mapError
    (AnyhowError.wrap "build ServerConfig")

/-! ## Setups -/

def buildMockSetup (rng : Randomness) : Except AnyhowError TlsSetup := do
  let keyPair ← (Crates.generateP256 rng.keyPair).mapError
    (AnyhowError.wrap "generate P-256 keypair")
  let spkiDer ← extractSpkiDer keyPair rng.tempCert
  let pubkeyHash := Crates.sha256 spkiDer
  let measurement : Vector UInt8 48 := Vector.replicate 48 0
  let report := Mock.signMockReport pubkeyHash measurement
  let config ← buildServerCert keyPair (AttestationExtension.newMock report.asBytes) rng.cert
  return { serverConfig := config, measurement }

section

variable (dev : AmdAttestation.SnpGuest) (http : AmdAttestation.Http)

def buildAmdSetup (rng : Randomness) (product : String) : Except AnyhowError TlsSetup := do
  let (keyPair, _, userData) ← generateKeypairAndHash rng
  let (reportBytes, vcekChain) ←
    (AmdAttestation.getReportAndChain dev http userData product).mapError
      (AnyhowError.context "get AMD SNP report + VCEK chain")
  let measurement := extractMeasurement reportBytes
  let config ← buildServerCert keyPair (AttestationExtension.newAmd reportBytes vcekChain) rng.cert
  return { serverConfig := config, measurement }

def buildAmdGpuSetup (process : GpuAttestation.Process) (rng : Randomness)
    (product scriptPath : String) : Except AnyhowError TlsSetup := do
  let (keyPair, pubkeyHash, userData) ← generateKeypairAndHash rng
  let (reportBytes, vcekChain) ←
    (AmdAttestation.getReportAndChain dev http userData product).mapError
      (AnyhowError.context "get AMD SNP report + VCEK chain")
  let measurement := extractMeasurement reportBytes
  let gpuJwt ← (GpuAttestation.getGpuJwt process pubkeyHash scriptPath).mapError
    (AnyhowError.context "get GPU attestation JWT")
  let ext := (AttestationExtension.newAmd reportBytes vcekChain).withGpuJwt gpuJwt
  let config ← buildServerCert keyPair ext rng.cert
  return { serverConfig := config, measurement }

end

end Tls
end Sifir
