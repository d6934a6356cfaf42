import Sifir.Attest.VerifyTheorems

/-!
# Signatures in AMD's encoding

The report format stores each scalar of a signature as a 72-byte little-endian
integer. `verifySignature` reads the first 48 of these bytes as a big-endian one:
which reports it decodes nevertheless (`decodesAmdSignature_iff`), and a report
signed by the chip that it rejects (`not_decodesAmdSignature_chipReport`).
-/

namespace Sifir
namespace Verify

open Lib Windows Results

/-! ## The encoding -/

theorem slotR_fits : 0x2A0 + 72 ≤ reportSize := by decide

theorem slotS_fits : 0x2E8 + 72 ≤ reportSize := by decide

/-- A report whose signature field stores a signature in AMD's encoding. -/
def StoresAmdSignature (raw : Vector UInt8 reportSize) (σ : Signature) : Prop :=
  (window raw 0x2A0 72 slotR_fits).toList = Ecdsa.leBytes 72 σ.r.val ∧
    (window raw 0x2E8 72 slotS_fits).toList = Ecdsa.leBytes 72 σ.s.val

/-- The 72 bytes of a scalar. -/
def amdScalar (k : Ecdsa.Scalar p384Order) : Vector UInt8 72 :=
  ⟨(Ecdsa.leBytes 72 k.val).toArray, by simp⟩

/-- A report with a signature written into it in AMD's encoding. -/
def writeAmdSignature (raw : Vector UInt8 reportSize) (σ : Signature) : Vector UInt8 reportSize :=
  overwrite (overwrite raw 0x2A0 (amdScalar σ.r) slotR_fits) 0x2E8 (amdScalar σ.s) slotS_fits

theorem storesAmdSignature_write (raw : Vector UInt8 reportSize) (σ : Signature) :
    StoresAmdSignature (writeAmdSignature raw σ) σ := by
  refine ⟨?_, ?_⟩
  · rw [writeAmdSignature, window_overwrite_of_disjoint _ _ (by decide) _ (by decide),
      window_overwrite_self]
    rfl
  · rw [writeAmdSignature, window_overwrite_self]
    rfl

/-- The signature field lies behind the signed region. -/
theorem signedRegion_writeAmdSignature (raw : Vector UInt8 reportSize) (σ : Signature) :
    window (writeAmdSignature raw σ) 0 672 = window raw 0 672 := by
  rw [writeAmdSignature, window_overwrite_of_disjoint _ _ (by decide) _ (by decide),
    window_overwrite_of_disjoint _ _ (by decide) _ (by decide)]

/-- The first 48 bytes of a field that holds a 72-byte scalar. -/
theorem window_scalar {raw : Vector UInt8 reportSize} {off v : ℕ} (h : off + 72 ≤ reportSize)
    (hslot : (window raw off 72 h).toList = Ecdsa.leBytes 72 v) :
    (window raw off 48 (by omega)).toList = Ecdsa.leBytes 48 v := by
  have hprefix := congrArg (List.take 48) hslot
  rw [toList_window, List.take_take] at hprefix
  rw [toList_window, ← Ecdsa.take_leBytes 48 24 v, ← hprefix]
  rfl

/-- The 48 bytes that are read hold the whole scalar. -/
theorem scalar_lt (k : Ecdsa.Scalar p384Order) : k.val < 256 ^ 48 :=
  Nat.lt_of_lt_of_le k.lt p384Order_le

section Checks

variable [Crates]

/-! ## What the verifier reads -/

omit [Crates] in
/-- The integer pair handed to the P-384 verifier: its input of 96 bytes as two big-endian
integers. -/
def handedPair (raw : Vector UInt8 reportSize) : ℕ × ℕ :=
  (Ecdsa.beNat ((sigBytes (Report.new raw)).toList.take 48),
    Ecdsa.beNat ((sigBytes (Report.new raw)).toList.drop 48))

/-- The verifier is handed the signature of a report, and a report with the signature of
the key of its chain passes. -/
def DecodesAmdSignature (raw : Vector UInt8 reportSize) (σ : Signature) : Prop :=
  handedPair raw = (σ.r.val, σ.s.val) ∧
  ∀ chain k, AmdCerts.vcekVerifyingKey chain = .ok k →
    Crates.verify k (window raw 0 672 signedRegion_fits).toList σ = .ok () →
    verifySignature (Report.new raw) (.amd chain) = .ok ()

omit [Crates] in
theorem handedPair_eq (raw : Vector UInt8 reportSize) :
    handedPair raw = (Ecdsa.beNat (window raw 0x2A0 48 sigR_fits).toList,
      Ecdsa.beNat (window raw 0x2E8 48 sigS_fits).toList) := by
  have hlen : (Report.new raw).sigR.toList.length = 48 := by simp
  rw [handedPair, toList_sigBytes, List.take_left' hlen, List.drop_left' hlen]
  rfl

/-- A signature in AMD's encoding is decoded exactly when the 48 bytes of each of its
scalars read the same from both ends. -/
theorem decodesAmdSignature_iff (hfmt : Crates.SignatureFormatDocumented)
    (raw : Vector UInt8 reportSize) (σ : Signature) (hstored : StoresAmdSignature raw σ) :
    DecodesAmdSignature raw σ
      ↔ (Ecdsa.leBytes 48 σ.r.val).Palindrome ∧ (Ecdsa.leBytes 48 σ.s.val).Palindrome := by
  have hr := window_scalar slotR_fits hstored.1
  have hs := window_scalar slotS_fits hstored.2
  have hpair : handedPair raw = (σ.r.val, σ.s.val)
      ↔ (Ecdsa.leBytes 48 σ.r.val).Palindrome ∧ (Ecdsa.leBytes 48 σ.s.val).Palindrome := by
    rw [handedPair_eq, hr, hs, Prod.mk.injEq, Ecdsa.beNat_leBytes_iff (scalar_lt σ.r),
      Ecdsa.beNat_leBytes_iff (scalar_lt σ.s)]
  refine ⟨fun h => hpair.mp h.1, fun h => ⟨hpair.mpr h, fun chain k hk hverify => ?_⟩⟩
  -- the pair is the signature, so the verifier checks what the chip signed
  have hsig : HasSignature raw σ := by
    have hread := hpair.mpr h
    rw [handedPair_eq, Prod.mk.injEq] at hread
    rw [HasSignature, hfmt.signatureTryFrom_iff,
      Ecdsa.Signature.ofBytes_append_eq_some (by simp) (by simp)]
    exact ⟨hread.1.symm, hread.2.symm⟩
  exact verifySignature_eq_ok.mpr ⟨σ, k, hsig, hk, hverify⟩

end Checks

section Reference

open Reference

attribute [local instance] crates

/-- A signature whose scalars read the same from both ends. -/
def symmetricSignature : Signature where
  r := ⟨256 ^ 47 + 1, by decide, by decide⟩
  s := ⟨256 ^ 47 + 1, by decide, by decide⟩

theorem decodesAmdSignature_symmetric :
    DecodesAmdSignature (writeAmdSignature (unsignedReport .a amdMeasurement) symmetricSignature)
      symmetricSignature :=
  (decodesAmdSignature_iff signatureFormatDocumented _ _ (storesAmdSignature_write _ _)).mpr
    ⟨by decide, by decide⟩

/-- The chip's report for server A, with its signature in AMD's encoding. -/
def amdEncodedReport : Vector UInt8 reportSize :=
  writeAmdSignature (unsignedReport .a amdMeasurement) vcekSignatureA

/-- The genuine chain leads to the chip's key, under which the report is signed; it is
rejected, since another pair is handed to the verifier. -/
theorem not_decodesAmdSignature_chipReport :
    StoresAmdSignature amdEncodedReport vcekSignatureA ∧
    AmdCerts.vcekVerifyingKey [vcek.der, ask.der, ark.der] = .ok vcekPoint ∧
    Crates.verify vcekPoint (window amdEncodedReport 0 672).toList vcekSignatureA = .ok () ∧
    verifySignature (Report.new amdEncodedReport) (.amd [vcek.der, ask.der, ark.der])
      = .error .badSignature ∧
    ¬ DecodesAmdSignature amdEncodedReport vcekSignatureA := by
  have hstored : StoresAmdSignature amdEncodedReport vcekSignatureA :=
    storesAmdSignature_write _ _
  have hkey : AmdCerts.vcekVerifyingKey [vcek.der, ask.der, ark.der] = .ok vcekPoint :=
    AmdCerts.vcekVerifyingKey_ders vcek_mem ask_mem ark_mem rfl rfl rfl []
  have hregion : (window amdEncodedReport 0 672).toList = signedMessage .a amdMeasurement := by
    rw [amdEncodedReport, signedRegion_writeAmdSignature, signedMessage]
  have hsigned : Crates.verify vcekPoint (window amdEncodedReport 0 672).toList vcekSignatureA
      = .ok () := by
    rw [hregion]
    exact verify_signatureOf signatureOf_vcekA
  have hbad : verifySignature (Report.new amdEncodedReport) (.amd [vcek.der, ask.der, ark.der])
      = .error .badSignature := by
    rw [verifySignature_eq_error sec1Documented signatureFormatDocumented]
    refine Or.inl ⟨rfl, ?_⟩
    by_cases hscalars : ScalarPair amdEncodedReport
    · right
      obtain ⟨σ, hσ⟩ := (exists_hasSignature_iff signatureFormatDocumented).mpr hscalars
      refine ⟨vcekPoint, σ, hkey, hσ, fun hverify => ?_⟩
      -- only the chip's signature verifies, and that is not what is read
      have heq : σ = vcekSignatureA := by
        rw [eq_signatureOf_of_verify hverify, hregion, signatureOf_vcekA]
      have hr : Ecdsa.beNat (Ecdsa.leBytes 48 vcekSignatureA.r.val) = vcekSignatureA.r.val := by
        rw [heq, HasSignature, signatureFormatDocumented.signatureTryFrom_iff,
          Ecdsa.Signature.ofBytes_append_eq_some (by simp) (by simp)] at hσ
        rw [← window_scalar slotR_fits hstored.1]
        exact hσ.1.symm
      exact absurd ((Ecdsa.beNat_leBytes_iff (scalar_lt _)).mp hr) (by decide)
    · exact Or.inl hscalars
  refine ⟨hstored, hkey, hsigned, hbad, fun h => ?_⟩
  have hok := h.2 _ _ hkey hsigned
  rw [hbad] at hok
  cases hok

end Reference

end Verify
end Sifir
