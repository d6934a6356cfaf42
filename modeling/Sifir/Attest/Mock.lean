import Sifir.Attest.Report

/-!
# Mock attestation (`sifir-attest/src/mock.rs`)

A report signed with a fixed P-384 key whose private scalar is in the source.
-/

namespace Sifir
namespace Mock

open Lib Windows

/-- `0x0102…2f30` -/
def mockPrivateKeyScalar : Bytes :=
  [0x01, 0x02, 0x03, 0x04, 0x05, 0x06, 0x07, 0x08, 0x09, 0x0a, 0x0b, 0x0c, 0x0d, 0x0e, 0x0f, 0x10,
    0x11, 0x12, 0x13, 0x14, 0x15, 0x16, 0x17, 0x18, 0x19, 0x1a, 0x1b, 0x1c, 0x1d, 0x1e, 0x1f, 0x20,
    0x21, 0x22, 0x23, 0x24, 0x25, 0x26, 0x27, 0x28, 0x29, 0x2a, 0x2b, 0x2c, 0x2d, 0x2e, 0x2f, 0x30]

/-- `SigningKey::from_slice` of the scalar: its big-endian value. The bounds are what
the `expect` of the source asserts. -/
def mockSigningKey : SigningKey where
  val := Ecdsa.beNat mockPrivateKeyScalar
  pos := by decide
  lt := by decide

section

variable [Crates]

def mockVerifyingKeySec1 : Bytes :=
  Crates.toEncodedPoint (Crates.verifyingKey mockSigningKey) false

/-- `n.to_le_bytes()` -/
def toLeBytes (n : UInt32) : Vector UInt8 4 :=
  #v[n.toUInt8, (n >>> 8).toUInt8, (n >>> 16).toUInt8, (n >>> 24).toUInt8]

/-- The report before it is signed. -/
def unsignedReport (tlsPubkeyHash : Vector UInt8 32) (measurement : Vector UInt8 measurementSize) :
    Vector UInt8 reportSize :=
  let raw := Report.default.asBytes
  -- version = 2
  let raw := overwrite raw 0 (toLeBytes 2)
  -- sig_algo = 1 (ECDSA P-384 SHA-384)
  let raw := overwrite raw 0x034 (toLeBytes 1)
  let raw := overwrite raw 0x050 tlsPubkeyHash keyHash_fits
  overwrite raw 0x090 measurement measurement_fits

/-- Build and sign a mock report bound to the hash of a TLS key. -/
def signMockReport (tlsPubkeyHash : Vector UInt8 32) (measurement : Vector UInt8 measurementSize) :
    Report :=
  let raw := unsignedReport tlsPubkeyHash measurement
  let signedRegion := window raw 0 signedRegionSize signedRegion_fits
  let sig := Crates.sign mockSigningKey signedRegion.toList
  let sigBytes := Crates.signatureToBytes sig
  let raw := overwrite raw 0x2A0 (window sigBytes 0 48 scalarR_fits) sigR_fits
  let raw := overwrite raw 0x2E8 (window sigBytes 48 48 scalarS_fits) sigS_fits
  Report.new raw

def tlsPubkeyHash (pubkeyDer : Bytes) : Vector UInt8 32 := Crates.sha256 pubkeyDer

end

/-! ## The fields of the unsigned report -/

variable {hash : Vector UInt8 32} {measurement : Vector UInt8 measurementSize}

theorem versionField_unsignedReport :
    window (unsignedReport hash measurement) 0 4 = toLeBytes 2 := by
  unfold unsignedReport
  rw [window_overwrite_of_disjoint _ _ (by decide) _ (by decide),
    window_overwrite_of_disjoint _ _ (by decide) _ (by decide),
    window_overwrite_of_disjoint _ _ (by decide) _ (by decide)]
  exact window_overwrite_self _ (toLeBytes 2) _

theorem version_unsignedReport : (unsignedReport hash measurement)[0] = 2 := by
  have hfield := congrArg (fun v => v[0]) (@versionField_unsignedReport hash measurement)
  simp only [getElem_window] at hfield
  exact hfield

/-- Nothing is written behind the measurement. -/
theorem chipId_unsignedReport :
    window (unsignedReport hash measurement) 0x1A0 64 = Vector.replicate 64 0 := by
  unfold unsignedReport
  rw [window_overwrite_of_disjoint _ _ (by decide) _ (by decide),
    window_overwrite_of_disjoint _ _ (by decide) _ (by decide),
    window_overwrite_of_disjoint _ _ (by decide) _ (by decide),
    window_overwrite_of_disjoint _ _ (by decide) _ (by decide), Report.window_default]

/-- The report data is the hash, then zeros. -/
theorem reportData_unsignedReport :
    window (unsignedReport hash measurement) 0x50 64
      = overwrite (Vector.replicate 64 0) 0 hash := by
  unfold unsignedReport
  rw [window_overwrite_of_disjoint _ _ (by decide) _ (by decide),
    window_overwrite_of_subset _ 0 hash (by decide) (by decide),
    window_overwrite_of_disjoint _ _ (by decide) _ (by decide),
    window_overwrite_of_disjoint _ _ (by decide) _ (by decide), Report.window_default]

theorem keyHash_unsignedReport : window (unsignedReport hash measurement) 0x50 32 = hash := by
  unfold unsignedReport
  rw [window_overwrite_of_disjoint _ _ (by decide) _ (by decide)]
  exact window_overwrite_self _ hash _

theorem measurement_unsignedReport :
    window (unsignedReport hash measurement) 0x90 48 = measurement :=
  window_overwrite_self _ measurement _

end Mock
end Sifir
