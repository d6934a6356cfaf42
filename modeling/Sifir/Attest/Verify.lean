import Sifir.Attest.AmdCerts
import Sifir.Attest.Mock

/-!
# Report verification (`sifir-attest/src/verify.rs`)

Three checks in order: the report is bound to the TLS key, it is signed under the
trust anchor, and its measurement is the expected one (all zeros: any).
-/

namespace Sifir

open Lib Windows

/-- Which trust anchor to verify the signature with. -/
inductive AttestationKey where
  | mock
  | amd (vcekChain : List Bytes)
deriving DecidableEq

namespace Verify

variable [Crates]

def verifyKeyBinding (report : Report) (tlsPubkeyDer : Bytes) : Except VerifyError Unit :=
  let computed := Crates.sha256 tlsPubkeyDer
  let inReport := window report.reportData 0 32 hash_fits
  if inReport ≠ computed then
    .error (.keyBindingMismatch (Crates.hexEncode inReport.toList)
      (Crates.hexEncode computed.toList))
  else .ok ()

/-- The 96 bytes handed to the signature parser: `r` then `s`. -/
def sigBytes (report : Report) : Vector UInt8 96 :=
  let bytes : Vector UInt8 96 := Vector.replicate 96 0
  let bytes := overwrite bytes 0 report.sigR scalarR_fits
  overwrite bytes 48 report.sigS scalarS_fits

/-- The key to verify the signature with. -/
def verifyingKey : AttestationKey → Except VerifyError Crates.VerifyingKey
  | .mock => (Crates.fromSec1Bytes Mock.mockVerifyingKeySec1).mapError fun e => .internal e
  | .amd vcekChain => AmdCerts.vcekVerifyingKey vcekChain

def verifySignature (report : Report) (key : AttestationKey) : Except VerifyError Unit := do
  -- the form of the signature is checked before there is a key
  let sig ← (Crates.signatureTryFrom (sigBytes report).toList).mapError
    fun _ => VerifyError.badSignature
  let vk ← verifyingKey key
  (Crates.verify vk report.signedRegion.toList sig).mapError fun _ => .badSignature

def verifyMeasurement (report : Report) (expected : Vector UInt8 measurementSize) :
    Except VerifyError Unit :=
  let zero : Vector UInt8 measurementSize := Vector.replicate measurementSize 0
  if expected = zero then .ok ()
  else if report.measurement ≠ expected then
    .error (.measurementMismatch (Crates.hexEncode expected.toList)
      (Crates.hexEncode report.measurement.toList))
  else .ok ()

def verify (reportBytes : Vector UInt8 reportSize) (key : AttestationKey)
    (expectedMeasurement : Vector UInt8 measurementSize) (tlsPubkeyDer : Bytes) :
    Except VerifyError Unit := do
  let report := Report.new reportBytes
  verifyKeyBinding report tlsPubkeyDer
  verifySignature report key
  verifyMeasurement report expectedMeasurement

end Verify
end Sifir
