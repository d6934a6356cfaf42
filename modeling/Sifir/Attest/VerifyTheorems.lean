import Sifir.Attest.AmdCertsTheorems
import Sifir.Attest.Verify

/-!
# Report verification

Each of the three checks is characterised on the bytes of the report
(`verifyKeyBinding_eq`, `verifySignature_eq_ok`, `verifyMeasurement_eq`), and
`verify` from them: what it accepts (`verify_eq_ok`), which error it returns
(`verify_classified`), and what a chain it accepts in AMD mode proves
(`verify_amd_eq_ok`).
-/

namespace Sifir
namespace Verify

open Lib Windows Results

/-- The 96 bytes handed to the signature parser are the two scalar fields. -/
theorem toList_sigBytes (report : Report) :
    (sigBytes report).toList = report.sigR.toList ++ report.sigS.toList := by
  unfold sigBytes
  exact toList_overwrite_halves (Vector.replicate 96 0) report.sigR report.sigS rfl

section Checks

variable [Crates]

/-! ## The checks on the bytes of a report -/

/-- The report carries the hash of the TLS key. -/
def Bound (raw : Vector UInt8 reportSize) (tlsPubkeyDer : Bytes) : Prop :=
  window raw 0x50 32 keyHash_fits = Crates.sha256 tlsPubkeyDer

/-- The signature fields hold two scalars of P-384. -/
def ScalarPair (raw : Vector UInt8 reportSize) : Prop :=
  Ecdsa.IsScalar p384Order (window raw 0x2A0 48 sigR_fits).toList ∧
    Ecdsa.IsScalar p384Order (window raw 0x2E8 48 sigS_fits).toList

/-- The signature of a report. -/
def HasSignature (raw : Vector UInt8 reportSize) (σ : Signature) : Prop :=
  Crates.signatureTryFrom
    ((window raw 0x2A0 48 sigR_fits).toList ++ (window raw 0x2E8 48 sigS_fits).toList) = .ok σ

/-- The key a trust anchor provides: the mock key as it is read back from its
encoding, or what the chain walk returns. -/
def AnchorKey : AttestationKey → Crates.VerifyingKey → Prop
  | .mock, k => Crates.fromSec1Bytes Mock.mockVerifyingKeySec1 = .ok k
  | .amd chain, k => AmdCerts.vcekVerifyingKey chain = .ok k

/-- The signature verifies over the first 672 bytes under the anchor's key. -/
def Authentic (raw : Vector UInt8 reportSize) (key : AttestationKey) : Prop :=
  ∃ σ k, HasSignature raw σ ∧ AnchorKey key k ∧
    Crates.verify k (window raw 0 672 signedRegion_fits).toList σ = .ok ()

/-- The expected measurement is all zeros or the one of the report. -/
def MeasurementAccepted (raw : Vector UInt8 reportSize)
    (expected : Vector UInt8 measurementSize) : Prop :=
  expected = Vector.replicate 48 0 ∨ expected = window raw 0x90 48 measurement_fits

instance (raw : Vector UInt8 reportSize) (p : Bytes) : Decidable (Bound raw p) :=
  inferInstanceAs (Decidable (_ = _))

instance (raw : Vector UInt8 reportSize) (expected : Vector UInt8 measurementSize) :
    Decidable (MeasurementAccepted raw expected) :=
  inferInstanceAs (Decidable (_ ∨ _))

def bindingError (raw : Vector UInt8 reportSize) (tlsPubkeyDer : Bytes) : VerifyError :=
  .keyBindingMismatch (Crates.hexEncode (window raw 0x50 32 keyHash_fits).toList)
    (Crates.hexEncode (Crates.sha256 tlsPubkeyDer).toList)

def measurementError (raw : Vector UInt8 reportSize) (expected : Vector UInt8 measurementSize) :
    VerifyError :=
  .measurementMismatch (Crates.hexEncode expected.toList)
    (Crates.hexEncode (window raw 0x90 48 measurement_fits).toList)

variable {raw : Vector UInt8 reportSize} {key : AttestationKey}
  {expected : Vector UInt8 measurementSize} {p : Bytes}

/-! ## What each check does -/

theorem verifyKeyBinding_eq :
    verifyKeyBinding (Report.new raw) p
      = if Bound raw p then .ok () else .error (bindingError raw p) := by
  have hhash : window (Report.new raw).reportData 0 32 = window raw 0x50 32 :=
    (Report.new raw).keyHash_eq_window
  unfold verifyKeyBinding
  by_cases h : Bound raw p
  · rw [if_pos h, if_neg (not_not.mpr (hhash.trans h))]
  · rw [if_neg h, if_pos fun heq => h (hhash.symm.trans heq), hhash]
    rfl

theorem verifyingKey_eq_ok {k : Crates.VerifyingKey} :
    verifyingKey key = .ok k ↔ AnchorKey key k := by
  cases key with
  | mock => exact mapError_eq_ok
  | amd chain => exact Iff.rfl

theorem verifySignature_eq_ok :
    verifySignature (Report.new raw) key = .ok () ↔ Authentic raw key := by
  simp only [verifySignature, bind_eq_ok, mapError_eq_ok, verifyingKey_eq_ok, toList_sigBytes]
  constructor
  · rintro ⟨σ, hσ, k, hk, hverify⟩
    exact ⟨σ, k, hσ, hk, hverify⟩
  · rintro ⟨σ, k, hσ, hk, hverify⟩
    exact ⟨σ, hσ, k, hk, hverify⟩

theorem verifyMeasurement_eq :
    verifyMeasurement (Report.new raw) expected
      = if MeasurementAccepted raw expected then .ok ()
        else .error (measurementError raw expected) := by
  have hfield : (Report.new raw).measurement = window raw 0x90 48 := rfl
  simp only [verifyMeasurement, hfield, MeasurementAccepted, measurementError]
  by_cases hzero : expected = Vector.replicate 48 0
  · simp only [hzero, true_or, if_true]
  · by_cases heq : expected = window raw 0x90 48
    · simp only [heq, or_true, if_true, ne_eq, not_true, if_false, ite_self]
    · simp only [hzero, heq, or_self, if_false, ne_eq, Ne.symm heq, not_false_eq_true, if_true]

theorem verifyMeasurement_eq_ok :
    verifyMeasurement (Report.new raw) expected = .ok () ↔ MeasurementAccepted raw expected := by
  rw [verifyMeasurement_eq]
  by_cases h : MeasurementAccepted raw expected
  · rw [if_pos h]
    exact iff_of_true rfl h
  · rw [if_neg h]
    exact iff_of_false (by simp) h

/-! ## Acceptance -/

/-- A report is accepted exactly when it is bound to the TLS key, authentic, and
of the expected measurement. -/
theorem verify_eq_ok :
    verify raw key expected p = .ok ()
      ↔ Bound raw p ∧ Authentic raw key ∧ MeasurementAccepted raw expected := by
  simp only [verify, bind_eq_ok, exists_unit, verifyKeyBinding_eq, verifySignature_eq_ok,
    verifyMeasurement_eq]
  simp

/-- An error of `verify` is the error of the first check that fails. -/
theorem verify_eq_error {e : VerifyError} :
    verify raw key expected p = .error e ↔
      (¬ Bound raw p ∧ e = bindingError raw p) ∨
      (Bound raw p ∧ verifySignature (Report.new raw) key = .error e) ∨
      (Bound raw p ∧ Authentic raw key ∧ ¬ MeasurementAccepted raw expected ∧
        e = measurementError raw expected) := by
  simp only [verify, bind_eq_error, exists_unit, verifyKeyBinding_eq, verifySignature_eq_ok,
    verifyMeasurement_eq]
  by_cases hb : Bound raw p
  · by_cases hm : MeasurementAccepted raw expected
    · simp [hb, hm]
    · simp [hb, hm, eq_comm]
  · simp [hb, eq_comm]

/-- Verification reads nothing outside the signed region and the two scalars. -/
theorem verify_congr {raw' : Vector UInt8 reportSize}
    (hregion : window raw 0 672 signedRegion_fits = window raw' 0 672 signedRegion_fits)
    (hr : window raw 0x2A0 48 sigR_fits = window raw' 0x2A0 48 sigR_fits)
    (hs : window raw 0x2E8 48 sigS_fits = window raw' 0x2E8 48 sigS_fits) :
    verify raw key expected p = verify raw' key expected p := by
  have hfield : ∀ off len (h : off + len ≤ 672),
      window raw off len (Nat.le_trans h (by decide))
        = window raw' off len (Nat.le_trans h (by decide)) := by
    intro off len h
    have hsub := congrArg (fun v => window v off len h) hregion
    simpa only [window_window, Nat.zero_add] using hsub
  have hdata : (Report.new raw).reportData = (Report.new raw').reportData := hfield _ _ (by decide)
  have hmeas : (Report.new raw).measurement = (Report.new raw').measurement :=
    hfield _ _ (by decide)
  have hsigned : (Report.new raw).signedRegion = (Report.new raw').signedRegion := hregion
  have hsigR : (Report.new raw).sigR = (Report.new raw').sigR := hr
  have hsigS : (Report.new raw).sigS = (Report.new raw').sigS := hs
  simp only [verify, verifyKeyBinding, verifySignature, verifyMeasurement, sigBytes, hdata, hmeas,
    hsigned, hsigR, hsigS]

/-! ## Errors -/

/-- Two scalars are a signature, and only they are. -/
theorem exists_hasSignature_iff (hfmt : Crates.SignatureFormatDocumented) :
    (∃ σ, HasSignature raw σ) ↔ ScalarPair raw := by
  simp only [HasSignature, hfmt.signatureTryFrom_iff]
  exact Ecdsa.Signature.isSome_ofBytes_append (by simp) (by simp)

/-- The only key that can be missing is that of a chain. -/
theorem verifyingKey_eq_error (hsec1 : Crates.Sec1Documented) {e : VerifyError} :
    verifyingKey key = .error e
      ↔ ∃ chain, key = .amd chain ∧ AmdCerts.vcekVerifyingKey chain = .error e := by
  cases key with
  | mock =>
    have hmock := hsec1.fromSec1_toEncodedPoint Mock.mockSigningKey false
    simp [verifyingKey, Mock.mockVerifyingKeySec1, hmock]
  | amd chain => simp [verifyingKey]

/-- The signature check fails with `badSignature` on a malformed or wrong signature,
and with the error of the chain walk when that is what fails. -/
theorem verifySignature_eq_error (hsec1 : Crates.Sec1Documented)
    (hfmt : Crates.SignatureFormatDocumented) {e : VerifyError} :
    verifySignature (Report.new raw) key = .error e ↔
      (e = .badSignature ∧ (¬ ScalarPair raw ∨ ∃ k σ, AnchorKey key k ∧ HasSignature raw σ ∧
        Crates.verify k (window raw 0 672).toList σ ≠ .ok ())) ∨
      (ScalarPair raw ∧ ∃ chain, key = .amd chain ∧
        AmdCerts.vcekVerifyingKey chain = .error e) := by
  have hnone : (∃ e', Crates.signatureTryFrom
      ((window raw 0x2A0 48).toList ++ (window raw 0x2E8 48).toList) = .error e')
        ↔ ¬ ScalarPair raw := by
    rw [← exists_hasSignature_iff hfmt]
    exact not_ok_iff.symm
  have hwrong : ∀ k σ, (∃ e', Crates.verify k (window raw 0 672).toList σ = .error e')
      ↔ Crates.verify k (window raw 0 672).toList σ ≠ .ok () := by
    intro k σ
    rw [← not_ok_iff, exists_unit]
  simp only [verifySignature, bind_eq_error, mapError_eq_error, mapError_eq_ok,
    verifyingKey_eq_ok, verifyingKey_eq_error hsec1, toList_sigBytes]
  constructor
  -- no signature, or no key, or a signature that does not verify
  · rintro (⟨e', he', rfl⟩ | ⟨σ, hσ, ⟨chain, hkey, hchain⟩ | ⟨k, hk, e', he', rfl⟩⟩)
    · exact Or.inl ⟨rfl, Or.inl (hnone.mp ⟨e', he'⟩)⟩
    · exact Or.inr ⟨(exists_hasSignature_iff hfmt).mp ⟨σ, hσ⟩, chain, hkey, hchain⟩
    · exact Or.inl ⟨rfl, Or.inr ⟨k, σ, hk, hσ, (hwrong k σ).mp ⟨e', he'⟩⟩⟩
  · rintro (⟨rfl, hscalar | ⟨k, σ, hk, hσ, hne⟩⟩ | ⟨hscalar, chain, hkey, hchain⟩)
    · obtain ⟨e', he'⟩ := hnone.mpr hscalar
      exact Or.inl ⟨e', he', rfl⟩
    · obtain ⟨e', he'⟩ := (hwrong k σ).mpr hne
      exact Or.inr ⟨σ, hσ, Or.inr ⟨k, hk, e', he', rfl⟩⟩
    · obtain ⟨σ, hσ⟩ := (exists_hasSignature_iff hfmt).mpr hscalar
      exact Or.inr ⟨σ, hσ, Or.inl ⟨chain, hkey, hchain⟩⟩

/-- The signature check fails with `badSignature` or a chain error. -/
theorem verifySignature_error_cases (hsec1 : Crates.Sec1Documented)
    (hfmt : Crates.SignatureFormatDocumented) {e : VerifyError}
    (h : verifySignature (Report.new raw) key = .error e) :
    e = .badSignature ∨ ∃ text, e = .certChain text := by
  rcases (verifySignature_eq_error hsec1 hfmt).mp h with ⟨rfl, -⟩ | ⟨-, chain, -, hchain⟩
  · exact Or.inl rfl
  · exact Or.inr (AmdCerts.chainErrors_vcekVerifyingKey chain e hchain)

section

variable (hsec1 : Crates.Sec1Documented) (hfmt : Crates.SignatureFormatDocumented)
include hsec1 hfmt

theorem verify_eq_keyBindingMismatch :
    (∃ a b, verify raw key expected p = .error (.keyBindingMismatch a b)) ↔ ¬ Bound raw p := by
  constructor
  · rintro ⟨a, b, h⟩
    rcases verify_eq_error.mp h with ⟨hb, -⟩ | ⟨-, hsig⟩ | ⟨-, -, -, hm⟩
    · exact hb
    · rcases verifySignature_error_cases hsec1 hfmt hsig with h | ⟨_, h⟩ <;> cases h
    · cases hm
  · intro hb
    exact ⟨_, _, verify_eq_error.mpr (Or.inl ⟨hb, rfl⟩)⟩

theorem verify_eq_badSignature :
    verify raw key expected p = .error .badSignature ↔
      Bound raw p ∧ (¬ ScalarPair raw ∨ ∃ k σ, AnchorKey key k ∧ HasSignature raw σ ∧
        Crates.verify k (window raw 0 672).toList σ ≠ .ok ()) := by
  rw [verify_eq_error, verifySignature_eq_error hsec1 hfmt]
  constructor
  · rintro (⟨-, h⟩ | ⟨hb, ⟨-, h⟩ | ⟨-, chain, -, hchain⟩⟩ | ⟨-, -, -, h⟩)
    · cases h
    · exact ⟨hb, h⟩
    · obtain ⟨_, h⟩ := AmdCerts.chainErrors_vcekVerifyingKey chain _ hchain
      cases h
    · cases h
  · rintro ⟨hb, h⟩
    exact Or.inr (Or.inl ⟨hb, Or.inl ⟨rfl, h⟩⟩)

theorem verify_eq_certChain :
    (∃ text, verify raw key expected p = .error (.certChain text)) ↔
      Bound raw p ∧ ScalarPair raw ∧
        ∃ chain, key = .amd chain ∧ ∀ k, AmdCerts.vcekVerifyingKey chain ≠ .ok k := by
  constructor
  · rintro ⟨text, h⟩
    rw [verify_eq_error, verifySignature_eq_error hsec1 hfmt] at h
    rcases h with ⟨-, h⟩ | ⟨hb, ⟨h, -⟩ | ⟨hscalar, chain, hkey, hchain⟩⟩ | ⟨-, -, -, h⟩
    · cases h
    · cases h
    · exact ⟨hb, hscalar, chain, hkey, fun k hk => by rw [hk] at hchain; cases hchain⟩
    · cases h
  · rintro ⟨hb, hscalar, chain, hkey, hnone⟩
    obtain ⟨text, herr⟩ :=
      AmdCerts.not_ok_of_chainErrors (AmdCerts.chainErrors_vcekVerifyingKey chain) hnone
    refine ⟨text, verify_eq_error.mpr (Or.inr (Or.inl ⟨hb, ?_⟩))⟩
    exact (verifySignature_eq_error hsec1 hfmt).mpr (Or.inr ⟨hscalar, chain, hkey, herr⟩)

theorem verify_eq_measurementMismatch :
    (∃ a b, verify raw key expected p = .error (.measurementMismatch a b)) ↔
      Bound raw p ∧ Authentic raw key ∧ ¬ MeasurementAccepted raw expected := by
  constructor
  · rintro ⟨a, b, h⟩
    rcases verify_eq_error.mp h with ⟨-, h⟩ | ⟨-, hsig⟩ | ⟨hb, hauth, hm, -⟩
    · cases h
    · rcases verifySignature_error_cases hsec1 hfmt hsig with h | ⟨_, h⟩ <;> cases h
    · exact ⟨hb, hauth, hm⟩
  · rintro ⟨hb, hauth, hm⟩
    exact ⟨_, _, verify_eq_error.mpr (Or.inr (Or.inr ⟨hb, hauth, hm, rfl⟩))⟩

/-- No error of `verify` is one of a wrong length or an internal one. -/
theorem verify_error_kind {e : VerifyError} (h : verify raw key expected p = .error e) :
    (∀ n, e ≠ .wrongLength n) ∧ ∀ text, e ≠ .internal text := by
  rcases verify_eq_error.mp h with ⟨-, rfl⟩ | ⟨-, hsig⟩ | ⟨-, -, -, rfl⟩
  · simp [bindingError]
  · rcases verifySignature_error_cases hsec1 hfmt hsig with rfl | ⟨_, rfl⟩
    · simp
    · simp
  · simp [measurementError]

end

/-- Asking for a measurement changes the outcome of a report that was accepted
without one, to a mismatch, and no other outcome. -/
theorem verify_tighten :
    verify raw key expected p = verify raw key (Vector.replicate 48 0) p ∨
    (verify raw key (Vector.replicate 48 0) p = .ok () ∧
      verify raw key expected p = .error (measurementError raw expected)) := by
  have hzero : MeasurementAccepted raw (Vector.replicate 48 0) := Or.inl rfl
  simp only [verify, verifyKeyBinding_eq, verifyMeasurement_eq, if_pos hzero]
  by_cases hm : MeasurementAccepted raw expected
  · -- the measurement passes either way
    simp only [if_pos hm, true_or]
  · rcases exists_error_or_exists_ok (verifySignature (Report.new raw) key) with
      ⟨e, hsig⟩ | ⟨⟨⟩, hsig⟩
    · left
      simp only [hsig, error_bind]
    · by_cases hb : Bound raw p
      · right
        simp only [hsig, if_pos hb, if_neg hm, ok_bind, and_self]
      · left
        simp only [if_neg hb, error_bind]

end Checks

/-! ## The reference reports -/

section Reference

open Reference

attribute [local instance] crates

theorem bound_signedReport (k : ServerKey) (measurement : Vector UInt8 measurementSize)
    (σ : Signature) : Bound (signedReport k measurement σ) k.spki :=
  (keyHash_signedReport k measurement σ).trans (sha256_spki k).symm

theorem hasSignature_signedReport (k : ServerKey) (measurement : Vector UInt8 measurementSize)
    (σ : Signature) : HasSignature (signedReport k measurement σ) σ := by
  rw [HasSignature, signatureFormatDocumented.signatureTryFrom_iff, sigFields_signedReport]
  exact Ecdsa.Signature.ofBytes_toBytes p384Order_le _

/-- A report with the signature an anchor's key makes is authentic. -/
theorem authentic_signedReport {k : ServerKey} {measurement : Vector UInt8 measurementSize}
    {key : AttestationKey} {point : Bytes} {σ : Signature} (hkey : AnchorKey key point)
    (hσ : signatureOf point (signedMessage k measurement) = σ) :
    Authentic (signedReport k measurement σ) key := by
  refine ⟨σ, point, hasSignature_signedReport k measurement σ, hkey, ?_⟩
  rw [signedRegion_signedReport]
  exact verify_signatureOf hσ

theorem anchorKey_mock : AnchorKey .mock mockPoint := by
  have hread := sec1Documented.fromSec1_toEncodedPoint Mock.mockSigningKey false
  rwa [verifyingKey_mock] at hread

end Reference

/-! ## Classification -/

section Checks

variable [Crates]

/-- Which check fails first decides the error, whatever else is wrong: the
binding, then the form of the signature, then the chain, then the signature
itself, then the measurement. -/
theorem verify_classified (hsec1 : Crates.Sec1Documented)
    (hfmt : Crates.SignatureFormatDocumented) (raw : Vector UInt8 reportSize)
    (key : AttestationKey) (expected : Vector UInt8 measurementSize) (p : Bytes) :
    ((∃ a b, verify raw key expected p = .error (.keyBindingMismatch a b)) ↔ ¬ Bound raw p) ∧
    (verify raw key expected p = .error .badSignature ↔
      Bound raw p ∧ (¬ ScalarPair raw ∨ ∃ k σ, AnchorKey key k ∧ HasSignature raw σ ∧
        Crates.verify k (window raw 0 672).toList σ ≠ .ok ())) ∧
    ((∃ text, verify raw key expected p = .error (.certChain text)) ↔
      Bound raw p ∧ ScalarPair raw ∧
        ∃ chain, key = .amd chain ∧ ∀ k, AmdCerts.vcekVerifyingKey chain ≠ .ok k) ∧
    ((∃ a b, verify raw key expected p = .error (.measurementMismatch a b)) ↔
      Bound raw p ∧ Authentic raw key ∧
        expected ≠ Vector.replicate 48 0 ∧ expected ≠ window raw 0x90 48) ∧
    (verify raw key expected p = .ok () ↔
      Bound raw p ∧ Authentic raw key ∧
        (expected = Vector.replicate 48 0 ∨ expected = window raw 0x90 48)) ∧
    (∀ e, verify raw key expected p = .error e →
      (∀ n, e ≠ .wrongLength n) ∧ ∀ text, e ≠ .internal text) ∧
    (verify raw key expected p = verify raw key (Vector.replicate 48 0) p ∨
      verify raw key (Vector.replicate 48 0) p = .ok () ∧
        ∃ a b, verify raw key expected p = .error (.measurementMismatch a b)) := by
  refine ⟨verify_eq_keyBindingMismatch hsec1 hfmt, verify_eq_badSignature hsec1 hfmt,
    verify_eq_certChain hsec1 hfmt, ?_, verify_eq_ok,
    fun e h => verify_error_kind hsec1 hfmt h, ?_⟩
  · rw [verify_eq_measurementMismatch hsec1 hfmt, MeasurementAccepted, not_or]
  · rcases verify_tighten with h | ⟨hok, hmis⟩
    · exact Or.inl h
    · exact Or.inr ⟨hok, _, _, hmis⟩

end Checks

section Reference

open Reference

attribute [local instance] crates

/-- A mock report for server A: accepted, of another measurement, bound to another key. -/
theorem verify_classified_mockReport :
    let raw := signedReport .a zeroMeasurement mockSignatureA
    verify raw .mock zeroMeasurement ServerKey.a.spki = .ok () ∧
    (∃ a b, verify raw .mock amdMeasurement ServerKey.a.spki
      = .error (.measurementMismatch a b)) ∧
    ∃ a b, verify raw .mock amdMeasurement ServerKey.b.spki
      = .error (.keyBindingMismatch a b) := by
  intro raw
  have hbound : Bound raw ServerKey.a.spki := bound_signedReport _ _ _
  have hauth : Authentic raw .mock := authentic_signedReport anchorKey_mock signatureOf_mockA
  have hne : amdMeasurement ≠ zeroMeasurement := by decide
  have hclass := verify_classified sec1Documented signatureFormatDocumented raw .mock
  refine ⟨?_, ?_, ?_⟩
  · exact (hclass zeroMeasurement _).2.2.2.2.1.mpr ⟨hbound, hauth, Or.inl rfl⟩
  · refine (hclass amdMeasurement _).2.2.2.1.mpr ⟨hbound, hauth, hne, ?_⟩
    rwa [measurement_signedReport]
  · refine (hclass amdMeasurement _).1.mpr fun hb => hash_ne ?_
    rwa [Bound, keyHash_signedReport, sha256_spki] at hb

end Reference

/-! ## AMD mode -/

section Checks

variable [Crates]

/-- A chain provides the key of its first certificate when it is consistent. -/
theorem anchorKey_amd_iff {chain : List Bytes} {k : Crates.VerifyingKey} :
    AnchorKey (.amd chain) k ↔ ∃ vcek ask ark, AmdCerts.ParsesAs chain vcek ask ark ∧
      AmdCerts.Consistent vcek ask ark k :=
  AmdCerts.vcekVerifyingKey_eq_ok

end Checks

end Verify
end Sifir
