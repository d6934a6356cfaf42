import Sifir.Crates
import Sifir.Lib.Layout

/-!
# The attestation report (`sifir-attest/src/report.rs`)

AMD SEV-SNP attestation report: 1184 bytes with the fields at fixed offsets. The
accessors are windows whose bounds are checked here; `ReportSlices` has them with
the checks the program makes when it runs. The fields with their places are a `layout`,
so what is known of record layouts holds of the accessors.
-/

namespace Sifir

open Lib Windows

abbrev reportSize : ℕ := 1184
/-- The bytes covered by the signature. -/
abbrev signedRegionSize : ℕ := 0x2A0

abbrev reportDataSize : ℕ := 64
abbrev measurementSize : ℕ := 48
abbrev chipIdSize : ℕ := 64
abbrev sigScalarSize : ℕ := 48
/-- The bytes of a scalar with its padding. -/
abbrev sigComponentField : ℕ := 72

/-! ## Bounds of the windows that several functions read -/

theorem keyHash_fits : 0x50 + 32 ≤ reportSize := by decide

theorem measurement_fits : 0x90 + 48 ≤ reportSize := by decide

theorem sigR_fits : 0x2A0 + 48 ≤ reportSize := by decide

theorem sigS_fits : 0x2E8 + 48 ≤ reportSize := by decide

theorem signedRegion_fits : 0 + 672 ≤ reportSize := by decide

/-- A hash in the first half of the report data. -/
theorem hash_fits : 0 + 32 ≤ 64 := by decide

/-- The two scalars of a signature. -/
theorem scalarR_fits : 0 + 48 ≤ 96 := by decide

theorem scalarS_fits : 48 + 48 ≤ 96 := by decide

structure Report where
  raw : Vector UInt8 reportSize
deriving DecidableEq

namespace Report

/-! ## Field offsets -/

abbrev offVersion : ℕ := 0x000
abbrev offReportData : ℕ := 0x050
abbrev offMeasurement : ℕ := 0x090
abbrev offChipId : ℕ := 0x1A0
abbrev offSigR : ℕ := 0x2A0
abbrev offSigS : ℕ := 0x2E8

/-! ## Accessors -/

def new (raw : Vector UInt8 reportSize) : Report := { raw }

def default : Report := { raw := Vector.replicate reportSize 0 }

def asBytes (r : Report) : Vector UInt8 reportSize := r.raw

def version (r : Report) : UInt32 :=
  UInt32.ofNat (Ecdsa.leNat (window r.raw offVersion 4).toList)

def reportData (r : Report) : Vector UInt8 reportDataSize :=
  window r.raw offReportData reportDataSize

def measurement (r : Report) : Vector UInt8 measurementSize :=
  window r.raw offMeasurement measurementSize

def chipId (r : Report) : Vector UInt8 chipIdSize := window r.raw offChipId chipIdSize

def sigR (r : Report) : Vector UInt8 sigScalarSize := window r.raw offSigR sigScalarSize

def sigS (r : Report) : Vector UInt8 sigScalarSize := window r.raw offSigS sigScalarSize

def signedRegion (r : Report) : Vector UInt8 signedRegionSize :=
  window r.raw 0 signedRegionSize

def setSigR (r : Report) (s : Vector UInt8 sigScalarSize) : Report :=
  { r with raw := overwrite r.raw offSigR s }

def setSigS (r : Report) (s : Vector UInt8 sigScalarSize) : Report :=
  { r with raw := overwrite r.raw offSigS s }

/-- A fresh report is zero throughout. -/
theorem window_default {off len : ℕ} (h : off + len ≤ reportSize) :
    window default.asBytes off len h = Vector.replicate len 0 := by
  apply Vector.ext
  intro i hi
  simp only [getElem_window, default, asBytes, Vector.getElem_replicate]

/-! ## Fields -/

/-- What the accessors read. -/
inductive Field where
  | version
  | reportData
  | measurement
  | chipId
  | sigR
  | sigS
deriving DecidableEq

namespace Field

abbrev off : Field → ℕ
  | version => offVersion
  | reportData => offReportData
  | measurement => offMeasurement
  | chipId => offChipId
  | sigR => offSigR
  | sigS => offSigS

abbrev len : Field → ℕ
  | version => 4
  | reportData => reportDataSize
  | measurement => measurementSize
  | chipId => chipIdSize
  | sigR => sigScalarSize
  | sigS => sigScalarSize

end Field

def layout : Layout reportSize Field where
  off := Field.off
  len := Field.len
  fits f := by cases f <;> decide
  disjoint f g := by cases f <;> cases g <;> decide

/-! ## Reading a report by its bytes -/

/-- The first half of the report data, where the hash of the TLS key goes. -/
def keyHash (r : Report) : Vector UInt8 32 := window r.reportData 0 32 hash_fits

/-- The key hash sits at `0x50..0x70` of the report. -/
theorem keyHash_eq_window (r : Report) : r.keyHash = window r.raw 0x50 32 := by
  unfold keyHash reportData
  rw [window_window]

/-- Two reports have the same bytes from `lo` up to `hi`. -/
def AgreeOn (a b : Vector UInt8 reportSize) (lo hi : ℕ) : Prop :=
  ∀ (i : ℕ) (_ : i < reportSize), lo ≤ i → i < hi → a[i] = b[i]

theorem agreeOn_iff {a b : Vector UInt8 reportSize} {off len : ℕ} (h : off + len ≤ reportSize) :
    AgreeOn a b off (off + len) ↔ window a off len h = window b off len h := by
  rw [window_eq_iff]
  refine ⟨fun hagree i hi => hagree (off + i) (by omega) (by omega) (by omega), ?_⟩
  intro heq i hi hlo hlt
  have hindex : off + (i - off) = i := by omega
  simpa only [hindex] using heq (i - off) (by omega)

/-- A write leaves what is clear of it. -/
theorem agreeOn_overwrite (a : Vector UInt8 reportSize) {off len lo hi : ℕ} (w : Vector UInt8 len)
    (h : off + len ≤ reportSize) (hd : hi ≤ off ∨ off + len ≤ lo) :
    AgreeOn (overwrite a off w h) a lo hi := by
  intro i hi hlo hlt
  exact getElem_overwrite_of_disjoint a w h hi (by omega)

/-! ## Writing the signature fields -/

section

variable (r : Report) (a b : Vector UInt8 sigScalarSize)

theorem sigR_setSig : window ((r.setSigR a).setSigS b).raw 0x2A0 48 = a := by
  have hkept := layout.read_write_of_ne (r.setSigR a).raw (f := .sigS) (g := .sigR) b (by decide)
  exact hkept.trans (layout.read_write_self r.raw .sigR a)

theorem sigS_setSig : window ((r.setSigR a).setSigS b).raw 0x2E8 48 = b :=
  layout.read_write_self (r.setSigR a).raw .sigS b

/-- The signature fields lie behind the signed region. -/
theorem window_setSig {off len : ℕ} (h : off + len ≤ 672) :
    window ((r.setSigR a).setSigS b).raw off len (Nat.le_trans h (by decide))
      = window r.raw off len (Nat.le_trans h (by decide)) := by
  have hr : off + len ≤ offSigR := h
  have hs : off + len ≤ offSigS := Nat.le_trans h (by decide)
  unfold setSigS setSigR
  rw [window_overwrite_of_disjoint _ _ (by decide) _ (Or.inl hs),
    window_overwrite_of_disjoint _ _ (by decide) _ (Or.inl hr)]

end

end Report
end Sifir
