import Sifir.Attest.VerifyTheorems

/-!
# Mock attestation

The fields of a mock report (`window_signMockReport` and the lemmas after it), and
that it verifies: the signature covers the report it is written into, since the
signature fields lie behind the signed region. From this what `verify` makes of a
mock report (`verify_mockReport`) and of one that was tampered with
(`tamper_detected`).
-/

namespace Sifir
namespace Mock

open Lib Windows

section Reports

variable {hash : Vector UInt8 32} {measurement : Vector UInt8 measurementSize}

variable [Crates]

/-! ## The signed report -/

/-- The signature of a mock report. -/
def mockSignature (hash : Vector UInt8 32) (measurement : Vector UInt8 measurementSize) :
    Signature :=
  Crates.sign mockSigningKey
    (window (unsignedReport hash measurement) 0 672 signedRegion_fits).toList

/-- Signing writes the two halves of the signature. -/
theorem signMockReport_eq :
    signMockReport hash measurement
      = ((Report.new (unsignedReport hash measurement)).setSigR
          (window (Crates.signatureToBytes (mockSignature hash measurement)) 0 48)).setSigS
          (window (Crates.signatureToBytes (mockSignature hash measurement)) 48 48) :=
  rfl

/-- Signing changes no byte of the signed region. -/
theorem window_signMockReport {off len : ℕ} (h : off + len ≤ 672) :
    window (signMockReport hash measurement).raw off len (Nat.le_trans h (by decide))
      = window (unsignedReport hash measurement) off len (Nat.le_trans h (by decide)) := by
  rw [signMockReport_eq]
  exact Report.window_setSig _ _ _ h

/-- The signature fields hold the two halves of the signature. -/
theorem sigFields_signMockReport :
    (window (signMockReport hash measurement).raw 0x2A0 48).toList
        ++ (window (signMockReport hash measurement).raw 0x2E8 48).toList
      = (Crates.signatureToBytes (mockSignature hash measurement)).toList := by
  rw [signMockReport_eq, Report.sigR_setSig, Report.sigS_setSig]
  exact toList_window_append (Crates.signatureToBytes (mockSignature hash measurement)) rfl

theorem bound_signMockReport {p : Bytes} :
    Verify.Bound (signMockReport (tlsPubkeyHash p) measurement).raw p := by
  unfold Verify.Bound
  rw [window_signMockReport (by decide), keyHash_unsignedReport, tlsPubkeyHash]

theorem measurement_signMockReport :
    window (signMockReport hash measurement).raw 0x90 48 = measurement := by
  rw [window_signMockReport (by decide), measurement_unsignedReport]

/-- A mock report carries the signature made for it. -/
theorem hasSignature_signMockReport (hfmt : Crates.SignatureFormatDocumented) :
    Verify.HasSignature (signMockReport hash measurement).raw
      (mockSignature hash measurement) := by
  unfold Verify.HasSignature
  rw [hfmt.signatureTryFrom_iff, sigFields_signMockReport, hfmt.signatureToBytes_eq]
  exact Ecdsa.Signature.ofBytes_toBytes p384Order_le _

/-- A mock report is authentic under the mock key. -/
theorem authentic_signMockReport (hsec1 : Crates.Sec1Documented)
    (hfmt : Crates.SignatureFormatDocumented) (hsign : Crates.SignDocumented) :
    Verify.Authentic (signMockReport hash measurement).raw .mock := by
  refine ⟨mockSignature hash measurement, Crates.verifyingKey mockSigningKey,
    hasSignature_signMockReport hfmt, hsec1.fromSec1_toEncodedPoint _ _, ?_⟩
  rw [window_signMockReport (by decide)]
  exact hsign.verify_sign _ _

/-! ## Reading a mock report back -/

theorem version_signMockReport : (signMockReport hash measurement).version = 2 := by
  have hfield : window (signMockReport hash measurement).raw 0 4 = toLeBytes 2 :=
    (window_signMockReport (by decide)).trans versionField_unsignedReport
  show UInt32.ofNat (Ecdsa.leNat (window (signMockReport hash measurement).raw 0 4).toList) = 2
  rw [hfield]
  decide

theorem reportData_signMockReport :
    (signMockReport hash measurement).reportData
      = (hash ++ Vector.replicate 32 (0 : UInt8) : Vector UInt8 (32 + 32)) := by
  have hfield : window (signMockReport hash measurement).raw 0x50 64
      = overwrite (Vector.replicate 64 0) 0 hash :=
    (window_signMockReport (by decide)).trans reportData_unsignedReport
  have hzeros : overwrite (Vector.replicate 64 (0 : UInt8)) 0 hash hash_fits
      = (hash ++ Vector.replicate 32 (0 : UInt8) : Vector UInt8 (32 + 32)) :=
    overwrite_replicate (m := 32) (k := 32) (0 : UInt8) hash
  exact hfield.trans hzeros

theorem chipId_signMockReport :
    (signMockReport hash measurement).chipId = Vector.replicate 64 0 :=
  (window_signMockReport (by decide)).trans chipId_unsignedReport

/-- The signature is the one of the signed region of the finished report. -/
theorem mockSignature_eq_sign :
    mockSignature hash measurement
      = Crates.sign mockSigningKey (signMockReport hash measurement).signedRegion.toList := by
  have hregion : (signMockReport hash measurement).signedRegion
      = window (unsignedReport hash measurement) 0 672 signedRegion_fits :=
    window_signMockReport (by decide)
  rw [hregion, mockSignature]

theorem sigR_signMockReport :
    (signMockReport hash measurement).sigR
      = window (Crates.signatureToBytes (mockSignature hash measurement)) 0 48 := by
  rw [signMockReport_eq]
  exact Report.sigR_setSig _ _ _

theorem sigS_signMockReport :
    (signMockReport hash measurement).sigS
      = window (Crates.signatureToBytes (mockSignature hash measurement)) 48 48 := by
  rw [signMockReport_eq]
  exact Report.sigS_setSig _ _ _

/-! ## The outcome for a mock report -/

/-- A mock report for one key and measurement verifies for every key with the same hash
and every expectation that accepts the measurement, and reads back as it was made. -/
theorem verify_mockReport (hsec1 : Crates.Sec1Documented)
    (hfmt : Crates.SignatureFormatDocumented) (hsign : Crates.SignDocumented) (p q : Bytes)
    (measurement expected : Vector UInt8 measurementSize) :
    let report := signMockReport (tlsPubkeyHash p) measurement
    let sigBytes := Crates.signatureToBytes
      (Crates.sign mockSigningKey report.signedRegion.toList)
    Verify.verify report.asBytes .mock expected q
      = (if Crates.sha256 p ≠ Crates.sha256 q then
          .error (.keyBindingMismatch (Crates.hexEncode (Crates.sha256 p).toList)
            (Crates.hexEncode (Crates.sha256 q).toList))
        else if expected ≠ Vector.replicate 48 0 ∧ expected ≠ measurement then
          .error (.measurementMismatch (Crates.hexEncode expected.toList)
            (Crates.hexEncode measurement.toList))
        else .ok ()) ∧
    report.version = 2 ∧
    report.reportData
      = (Crates.sha256 p ++ Vector.replicate 32 (0 : UInt8) : Vector UInt8 (32 + 32)) ∧
    report.measurement = measurement ∧
    report.chipId = Vector.replicate 64 0 ∧
    report.sigR = window sigBytes 0 48 scalarR_fits ∧
    report.sigS = window sigBytes 48 48 scalarS_fits := by
  intro report sigBytes
  have hhash : window report.raw 0x50 32 = Crates.sha256 p := bound_signMockReport
  have hmeas : window report.raw 0x90 48 = measurement := measurement_signMockReport
  have hauth : Verify.Authentic report.raw .mock := authentic_signMockReport hsec1 hfmt hsign
  have hbytes : sigBytes
      = Crates.signatureToBytes (mockSignature (tlsPubkeyHash p) measurement) := by
    rw [mockSignature_eq_sign]
  refine ⟨?_, version_signMockReport, reportData_signMockReport, hmeas, chipId_signMockReport,
    hbytes ▸ sigR_signMockReport, hbytes ▸ sigS_signMockReport⟩
  show Verify.verify report.raw .mock expected q = _
  by_cases hkey : Crates.sha256 p = Crates.sha256 q
  · have hbound : Verify.Bound report.raw q := hhash.trans hkey
    rw [if_neg (not_not.mpr hkey)]
    by_cases hexp : expected ≠ Vector.replicate 48 0 ∧ expected ≠ measurement
    · have hnot : ¬ Verify.MeasurementAccepted report.raw expected := by
        rw [Verify.MeasurementAccepted, hmeas, not_or]
        exact hexp
      rw [if_pos hexp, Verify.verify_eq_error]
      refine Or.inr (Or.inr ⟨hbound, hauth, hnot, ?_⟩)
      rw [Verify.measurementError, hmeas]
    · have hacc : Verify.MeasurementAccepted report.raw expected := by
        rw [Verify.MeasurementAccepted, hmeas]
        rwa [not_and_or, not_not, not_not] at hexp
      rw [if_neg hexp, Verify.verify_eq_ok]
      exact ⟨hbound, hauth, hacc⟩
  · have hnot : ¬ Verify.Bound report.raw q := fun h => hkey (hhash.symm.trans h)
    rw [if_pos hkey, Verify.verify_eq_error]
    refine Or.inl ⟨hnot, ?_⟩
    rw [Verify.bindingError, hhash]

/-! ## Tampering -/

/-- The signature of a mock report verifies for no signed region but the report's own. -/
def SignsOnly (hash : Vector UInt8 32) (measurement : Vector UInt8 measurementSize) : Prop :=
  ∀ region : Vector UInt8 signedRegionSize,
    Crates.verify (Crates.verifyingKey mockSigningKey) region.toList
      (mockSignature hash measurement) = .ok () →
    region = (signMockReport hash measurement).signedRegion

/-- A report that keeps the scalars of a mock report, and differs from it in the signed
region, fails: at the binding when a byte of the key hash differs, at the signature
otherwise. -/
theorem verify_tampered (hsec1 : Crates.Sec1Documented)
    (hfmt : Crates.SignatureFormatDocumented) {p : Bytes}
    (expected : Vector UInt8 measurementSize)
    (honly : SignsOnly (tlsPubkeyHash p) measurement) {raw : Vector UInt8 reportSize}
    (hr : window raw 0x2A0 48
      = window (signMockReport (tlsPubkeyHash p) measurement).raw 0x2A0 48)
    (hs : window raw 0x2E8 48
      = window (signMockReport (tlsPubkeyHash p) measurement).raw 0x2E8 48)
    (hne : window raw 0 672
      ≠ window (signMockReport (tlsPubkeyHash p) measurement).raw 0 672) :
    (¬ Verify.Bound raw p ∧
      ∃ a b, Verify.verify raw .mock expected p = .error (.keyBindingMismatch a b)) ∨
    (Verify.Bound raw p ∧ Verify.verify raw .mock expected p = .error .badSignature) := by
  by_cases hbound : Verify.Bound raw p
  · right
    refine ⟨hbound, (Verify.verify_eq_badSignature hsec1 hfmt).mpr ⟨hbound, Or.inr ?_⟩⟩
    -- the signature is still read as the one of the mock report
    have hsig : Verify.HasSignature raw (mockSignature (tlsPubkeyHash p) measurement) := by
      rw [Verify.HasSignature, hr, hs]
      exact hasSignature_signMockReport hfmt
    exact ⟨_, _, hsec1.fromSec1_toEncodedPoint mockSigningKey false, hsig,
      fun hverify => hne (honly _ hverify)⟩
  · left
    exact ⟨hbound, (Verify.verify_eq_keyBindingMismatch hsec1 hfmt).mpr hbound⟩

/-- Every change to the signed region of a mock report is detected, whatever measurement
is expected, and no change outside the signed region and the scalars has an effect. -/
theorem tamper_detected (hsec1 : Crates.Sec1Documented)
    (hfmt : Crates.SignatureFormatDocumented) (p : Bytes)
    (measurement expected : Vector UInt8 measurementSize)
    (honly : SignsOnly (tlsPubkeyHash p) measurement) (raw : Vector UInt8 reportSize)
    (hscalarR : Report.AgreeOn raw (signMockReport (tlsPubkeyHash p) measurement).raw 0x2A0 0x2D0)
    (hscalarS : Report.AgreeOn raw (signMockReport (tlsPubkeyHash p) measurement).raw
      0x2E8 0x318) :
    let report := signMockReport (tlsPubkeyHash p) measurement
    (¬ Report.AgreeOn raw report.raw 0 672 →
      (∃ e, Verify.verify raw .mock expected p = .error e) ∧
      ((∃ a b, Verify.verify raw .mock expected p = .error (.keyBindingMismatch a b)) ↔
        ¬ Report.AgreeOn raw report.raw 0x50 0x70) ∧
      (Verify.verify raw .mock expected p = .error .badSignature ↔
        Report.AgreeOn raw report.raw 0x50 0x70) ∧
      ∀ a b, Verify.verify raw .mock expected p ≠ .error (.measurementMismatch a b)) ∧
    (Report.AgreeOn raw report.raw 0 672 →
      Verify.verify raw .mock expected p = Verify.verify report.raw .mock expected p) := by
  intro report
  have hr := (Report.agreeOn_iff sigR_fits).mp hscalarR
  have hs := (Report.agreeOn_iff sigS_fits).mp hscalarS
  have hkey : Report.AgreeOn raw report.raw 0x50 0x70 ↔ Verify.Bound raw p := by
    have hhash : window report.raw 0x50 32 = Crates.sha256 p := bound_signMockReport
    rw [Verify.Bound, ← hhash]
    exact Report.agreeOn_iff keyHash_fits
  rw [hkey]
  refine ⟨fun hdiff => ?_, fun hsame => ?_⟩
  · have hne : window raw 0 672 ≠ window report.raw 0 672 :=
      fun h => hdiff ((Report.agreeOn_iff signedRegion_fits).mpr h)
    rcases verify_tampered hsec1 hfmt expected honly hr hs hne with
      ⟨hnot, a, b, herr⟩ | ⟨hbound, herr⟩
    · simp [herr, hnot]
    · simp [herr, hbound]
  · exact Verify.verify_congr ((Report.agreeOn_iff signedRegion_fits).mp hsame) hr hs

end Reports

section Reference

open Reference

attribute [local instance] crates

theorem mockSignature_serverA :
    mockSignature ServerKey.a.hash zeroMeasurement = mockSignatureA :=
  (sign_mock _).trans signatureOf_mockA

/-- A mock report for server A: for its own key, and for server B's. -/
theorem verify_mockReport_serverA :
    Verify.verify (signMockReport (tlsPubkeyHash ServerKey.a.spki) zeroMeasurement).asBytes .mock
      zeroMeasurement ServerKey.a.spki = .ok () ∧
    Verify.verify (signMockReport (tlsPubkeyHash ServerKey.a.spki) zeroMeasurement).asBytes .mock
      zeroMeasurement ServerKey.b.spki
        = .error (.keyBindingMismatch (Crates.hexEncode ServerKey.a.hash.toList)
            (Crates.hexEncode ServerKey.b.hash.toList)) := by
  have hlaw := fun q => (verify_mockReport sec1Documented signatureFormatDocumented signDocumented
    ServerKey.a.spki q zeroMeasurement zeroMeasurement).1
  refine ⟨(hlaw _).trans ?_, (hlaw _).trans ?_⟩
  · rw [if_neg (not_not.mpr rfl), if_neg fun h => h.1 rfl]
  · rw [sha256_spki, sha256_spki, if_pos hash_ne]

/-- The signature of server A's mock report is in the table for one message only. -/
theorem signsOnly_serverA : SignsOnly (tlsPubkeyHash ServerKey.a.spki) zeroMeasurement := by
  intro region hverify
  rw [tlsPubkeyHash, sha256_spki, mockSignature_serverA, verifyingKey_mock] at hverify
  have hmessage : region.toList = signedMessage .a zeroMeasurement :=
    signatureOf_eq_mockA (eq_signatureOf_of_verify hverify).symm
  have hregion : (signMockReport ServerKey.a.hash zeroMeasurement).signedRegion
      = window (unsignedReport ServerKey.a.hash zeroMeasurement) 0 672 signedRegion_fits :=
    window_signMockReport (by decide)
  rw [tlsPubkeyHash, sha256_spki, hregion]
  exact Vector.toList_inj.mp hmessage

/-- Server A's mock report with another byte in the measurement, and with another byte
behind the signature. -/
theorem tamper_detected_serverA :
    let report := signMockReport (tlsPubkeyHash ServerKey.a.spki) zeroMeasurement
    Verify.verify (overwrite report.raw 0x90 #v[1]) .mock zeroMeasurement ServerKey.a.spki
      = .error .badSignature ∧
    Verify.verify (overwrite report.raw 0x400 #v[1]) .mock zeroMeasurement ServerKey.a.spki
      = Verify.verify report.raw .mock zeroMeasurement ServerKey.a.spki := by
  intro report
  have htamper := fun raw => tamper_detected sec1Documented signatureFormatDocumented
    ServerKey.a.spki zeroMeasurement zeroMeasurement signsOnly_serverA raw
  have hagree : ∀ off lo hi (h : off + 1 ≤ reportSize), hi ≤ off ∨ off + 1 ≤ lo →
      Report.AgreeOn (overwrite report.raw off #v[1] h) report.raw lo hi :=
    fun off lo hi h hd => Report.agreeOn_overwrite report.raw #v[1] h hd
  have hzero : report.raw[0x90] = 0 := by
    have hfield : window report.raw 0x90 48 = zeroMeasurement := measurement_signMockReport
    have hfirst := congrArg (fun v => v[0]) hfield
    simpa only [getElem_window, zeroMeasurement, Vector.getElem_replicate] using hfirst
  have hdiff : ¬ Report.AgreeOn (overwrite report.raw 0x90 #v[1]) report.raw 0 672 := by
    intro hsame
    have hbyte := hsame 0x90 (by decide) (by decide) (by decide)
    rw [getElem_overwrite, dif_pos (by decide), hzero] at hbyte
    exact absurd hbyte (by decide)
  refine ⟨?_, ?_⟩
  · exact ((htamper _ (hagree _ _ _ _ (by decide)) (hagree _ _ _ _ (by decide))).1 hdiff).2.2.1.mpr
      (hagree _ _ _ _ (by decide))
  · exact (htamper _ (hagree _ _ _ _ (by decide)) (hagree _ _ _ _ (by decide))).2
      (hagree _ _ _ _ (by decide))

end Reference

end Mock
end Sifir
