import Sifir.Attest.AttestExtTheorems
import Sifir.Attest.VerifyTheorems
import Sifir.Client.GpuVerifyTheorems
import Sifir.Client.Verifier

/-!
# What the client accepts

A certificate matters to the verifier only through its encoded key and the value
of its first Sifir extension (`Presents`, `verifyServerCert_of_presents`). On that
evidence acceptance is a conjunction of conditions (`verifyServerCert_eq_ok_iff`),
from which follow the binding of evidence to one TLS key and what an accepted AMD
chain does and does not establish.
-/

namespace Sifir
namespace Verifier

open Lib Windows Results

section Evidence

variable [Crates]

/-! ## The evidence in a certificate -/

/-- A certificate parses, its key has the encoding `spki`, and its first extension
with the Sifir OID has the value `value`. -/
def Presents (der spki value : Bytes) : Prop :=
  ∃ cert oid ext, Crates.certificateFromDer der = .ok cert ∧
    Crates.spkiToDer cert.tbsCertificate.subjectPublicKeyInfo = .ok spki ∧
    Crates.oidParse attestOidStr = .ok oid ∧
    (cert.tbsCertificate.extensions.getD []).find? (fun e => e.extnId = oid) = some ext ∧
    ext.extnValue = value

/-- The verdict on a key and an extension value. -/
def judge (self : AttestationVerifier) (spkiDer value : Bytes) :
    Except TlsError ServerCertVerified := do
  let attestExt ← (AttestationExtension.fromBytes value).mapError
    fun e => TlsError.general s!"attestation extension parse error: {e}"
  let reportRaw ← attestExt.reportBytes.mapError
    fun e => TlsError.general s!"report decode error: {e.message}"
  let attestKey ← chooseKey self.mode attestExt
  (Verify.verify reportRaw attestKey self.expectedMeasurement spkiDer).mapError
    fun e => TlsError.general s!"attestation failed: {e.display}"
  if self.verifyGpuCc then
    checkGpu attestExt spkiDer
  return .assertion

variable {self : AttestationVerifier} {der spki value : Bytes}
  {intermediates : List Bytes} {serverName : String} {ocsp : Bytes} {now : ℕ}

/-- The verifier judges the evidence a certificate presents, and nothing else of it. -/
theorem verifyServerCert_of_presents (h : Presents der spki value) :
    verifyServerCert self der intermediates serverName ocsp now = judge self spki value := by
  obtain ⟨cert, oid, ext, hcert, hspki, hoid, hext, rfl⟩ := h
  simp only [verifyServerCert, extractAttestExtension, hcert, hspki, hoid, hext, mapError_ok,
    ok_bind, okOr_some, judge]

/-- An accepted certificate presents evidence. -/
theorem presents_of_ok {v : ServerCertVerified}
    (h : verifyServerCert self der intermediates serverName ocsp now = .ok v) :
    ∃ spki value, Presents der spki value := by
  simp only [verifyServerCert, extractAttestExtension, bind_eq_ok, mapError_eq_ok,
    okOr_eq_ok] at h
  obtain ⟨cert, hcert, spki, hspki, att, ⟨oid, hoid, ext, hext, -⟩, -⟩ := h
  exact ⟨spki, ext.extnValue, cert, oid, ext, hcert, hspki, hoid, hext, rfl⟩

theorem Presents.unique {spki' value' : Bytes} (h : Presents der spki value)
    (h' : Presents der spki' value') : spki = spki' ∧ value = value' := by
  obtain ⟨cert, oid, ext, hcert, hspki, hoid, hext, rfl⟩ := h
  obtain ⟨_, _, _, hcert', hspki', hoid', hext', rfl⟩ := h'
  -- the same certificate, so the same extension
  obtain rfl := Except.ok.inj (hcert.symm.trans hcert')
  obtain rfl := Except.ok.inj (hoid.symm.trans hoid')
  obtain rfl := Option.some.inj (hext.symm.trans hext')
  exact ⟨Except.ok.inj (hspki.symm.trans hspki'), rfl⟩

/-! ## Acceptance -/

/-- The trust anchor of an extension of the client's mode. -/
def AnchorOf (mode : VerifierMode) (att : AttestationExtension) : AttestationKey → Prop
  | .mock => mode = .mock ∧ att.mode = .mock
  | .amd chain => mode = .amdSevSnp ∧ att.mode = .amdSevSnp ∧
      List.Forall₂ (fun b der => Crates.base64Decode b = .ok der) att.vcekChainB64 chain

/-- The extension has a token that verifies for the key. -/
def GpuAttested (att : AttestationExtension) (spki : Bytes) : Prop :=
  ∃ jwt c, att.gpuJwt = some jwt ∧ GpuVerify.verifyGpuJwt jwt spki = .ok c

theorem chooseKey_eq_ok {mode : VerifierMode} {att : AttestationExtension}
    {key : AttestationKey} : chooseKey mode att = .ok key ↔ AnchorOf mode att key := by
  unfold chooseKey
  split
  · next hmode =>
    cases key with
    | mock => simp [AnchorOf, hmode]
    | amd chain => simp [AnchorOf]
  · next hmode =>
    simp only [bind_eq_ok, mapError_eq_ok, pure_eq_ok_iff,
      AttestationExtension.vcekChainDer_eq_ok]
    cases key with
    | mock => simp [AnchorOf]
    | amd chain => simp [AnchorOf, hmode]
  · next hmock hamd =>
    simp only [reduceCtorEq, false_iff]
    cases key with
    | mock => exact fun h => hmock h.1 h.2
    | amd chain => exact fun h => hamd h.1 h.2.1

theorem checkGpu_eq_ok {att : AttestationExtension} :
    checkGpu att spki = .ok () ↔ GpuAttested att spki := by
  unfold checkGpu GpuAttested
  cases att.gpuJwt with
  | none => simp
  | some jwt =>
    simp only [bind_eq_ok, mapError_eq_ok, pure_eq_ok_iff, and_true, Option.some.injEq]
    constructor
    · rintro ⟨c, hc⟩
      exact ⟨jwt, c, rfl, hc⟩
    · rintro ⟨_, c, rfl, hc⟩
      exact ⟨c, hc⟩

theorem judge_eq_ok {v : ServerCertVerified} :
    judge self spki value = .ok v ↔ ∃ att raw key,
      AttestationExtension.fromBytes value = .ok att ∧
      Crates.base64Decode att.reportB64 = .ok raw.toList ∧ AnchorOf self.mode att key ∧
      (Verify.Bound raw spki ∧ Verify.Authentic raw key ∧
        Verify.MeasurementAccepted raw self.expectedMeasurement) ∧
      (self.verifyGpuCc = true → GpuAttested att spki) := by
  cases v
  simp only [judge, bind_eq_ok, mapError_eq_ok, exists_unit, chooseKey_eq_ok,
    AttestationExtension.reportBytes_eq_ok, Verify.verify_eq_ok]
  cases self.verifyGpuCc with
  | false =>
    simp only [Bool.false_eq_true, if_false, false_implies, and_true]
    constructor
    · rintro ⟨att, hatt, raw, hraw, key, hkey, hverify, -⟩
      exact ⟨att, raw, key, hatt, hraw, hkey, hverify⟩
    · rintro ⟨att, raw, key, hatt, hraw, hkey, hverify⟩
      exact ⟨att, hatt, raw, hraw, key, hkey, hverify, rfl⟩
  | true =>
    simp only [if_true, forall_const, bind_eq_ok, exists_unit, checkGpu_eq_ok]
    constructor
    · rintro ⟨att, hatt, raw, hraw, key, hkey, hverify, hgpu, -⟩
      exact ⟨att, raw, key, hatt, hraw, hkey, hverify, hgpu⟩
    · rintro ⟨att, raw, key, hatt, hraw, hkey, hverify, hgpu⟩
      exact ⟨att, hatt, raw, hraw, key, hkey, hverify, hgpu, rfl⟩

theorem verifyServerCert_eq_ok {v : ServerCertVerified} :
    verifyServerCert self der intermediates serverName ocsp now = .ok v
      ↔ ∃ spki value, Presents der spki value ∧ judge self spki value = .ok v := by
  constructor
  · intro h
    obtain ⟨spki, value, hpres⟩ := presents_of_ok h
    exact ⟨spki, value, hpres, by rwa [verifyServerCert_of_presents hpres] at h⟩
  · rintro ⟨spki, value, hpres, h⟩
    rwa [verifyServerCert_of_presents hpres]

/-- A certificate is accepted exactly when every one of these holds; and the verdict,
error included, is the same for every certificate that presents the same key and
extension value. -/
theorem verifyServerCert_eq_ok_iff (self : AttestationVerifier) (der : Bytes)
    (intermediates : List Bytes) (serverName : String) (ocsp : Bytes) (now : ℕ) :
    (verifyServerCert self der intermediates serverName ocsp now = .ok .assertion ↔
      ∃ cert spki oid ext att raw key,
        Crates.certificateFromDer der = .ok cert ∧
        Crates.spkiToDer cert.tbsCertificate.subjectPublicKeyInfo = .ok spki ∧
        Crates.oidParse attestOidStr = .ok oid ∧
        (cert.tbsCertificate.extensions.getD []).find? (fun e => e.extnId = oid) = some ext ∧
        AttestationExtension.fromBytes ext.extnValue = .ok att ∧
        Crates.base64Decode att.reportB64 = .ok raw.toList ∧
        AnchorOf self.mode att key ∧
        window raw 0x50 32 = Crates.sha256 spki ∧
        Verify.Authentic raw key ∧
        (self.expectedMeasurement = Vector.replicate 48 0 ∨
          self.expectedMeasurement = window raw 0x90 48) ∧
        (self.verifyGpuCc = true → GpuAttested att spki)) ∧
    ∀ spki value, Presents der spki value →
      ∀ der' intermediates' serverName' ocsp' now', Presents der' spki value →
        verifyServerCert self der' intermediates' serverName' ocsp' now'
          = verifyServerCert self der intermediates serverName ocsp now := by
  refine ⟨?_, fun spki value h der' intermediates' serverName' ocsp' now' h' => by
    rw [verifyServerCert_of_presents h, verifyServerCert_of_presents h']⟩
  rw [verifyServerCert_eq_ok]
  simp only [judge_eq_ok]
  constructor
  · rintro ⟨spki, value, ⟨cert, oid, ext, hcert, hspki, hoid, hext, rfl⟩, att, raw, key, hatt,
      hraw, hkey, ⟨hbound, hauth, hmeas⟩, hgpu⟩
    exact ⟨cert, spki, oid, ext, att, raw, key, hcert, hspki, hoid, hext, hatt, hraw, hkey,
      hbound, hauth, hmeas, hgpu⟩
  · rintro ⟨cert, spki, oid, ext, att, raw, key, hcert, hspki, hoid, hext, hatt, hraw, hkey,
      hbound, hauth, hmeas, hgpu⟩
    exact ⟨spki, ext.extnValue, ⟨cert, oid, ext, hcert, hspki, hoid, hext, rfl⟩, att, raw, key,
      hatt, hraw, hkey, ⟨hbound, hauth, hmeas⟩, hgpu⟩

/-! ## The lines the verifier prints -/

theorem checkGpu_eq (ext : AttestationExtension) (spkiDer : Bytes) :
    checkGpu ext spkiDer = (gpuClaims ext spkiDer).map fun _ => () := by
  unfold checkGpu gpuClaims
  cases ext.gpuJwt with
  | none => rfl
  | some jwt =>
    rcases exists_error_or_exists_ok (GpuVerify.verifyGpuJwt jwt spkiDer) with ⟨e, he⟩ | ⟨c, hc⟩
    · simp only [he]
      rfl
    · simp only [hc]
      rfl

/-- What is printed about a certificate, and the verdict. -/
theorem verifyServerCertPrinting_cases :
    let r := verifyServerCertPrinting self der intermediates serverName ocsp now
    (∃ e, verifyCpu self der = .error e ∧ r = ([], .error e)) ∨
    ∃ att spki, verifyCpu self der = .ok (att, spki) ∧
      ((self.verifyGpuCc = false ∧ r = ([cpuLine, verifiedLine], .ok .assertion)) ∨
      (self.verifyGpuCc = true ∧ ((∃ e, gpuClaims att spki = .error e ∧ r = ([cpuLine], .error e)) ∨
        ∃ claims, gpuClaims att spki = .ok claims ∧
          r = ([cpuLine, gpuLine claims, verifiedLine], .ok .assertion)))) := by
  simp only [verifyServerCertPrinting]
  rcases exists_error_or_exists_ok (verifyCpu self der) with ⟨e, he⟩ | ⟨⟨att, spki⟩, hcpu⟩
  · rw [he]
    exact Or.inl ⟨e, rfl, rfl⟩
  · rw [hcpu]
    refine Or.inr ⟨att, spki, rfl, ?_⟩
    cases hgpu : self.verifyGpuCc with
    | false => exact Or.inl ⟨rfl, rfl⟩
    | true =>
      refine Or.inr ⟨rfl, ?_⟩
      rcases exists_error_or_exists_ok (gpuClaims att spki) with ⟨e, he⟩ | ⟨claims, hclaims⟩
      · simp only [he]
        exact Or.inl ⟨e, rfl, rfl⟩
      · simp only [hclaims]
        exact Or.inr ⟨claims, rfl, rfl⟩

theorem verifyServerCert_eq_bind : verifyServerCert self der intermediates serverName ocsp now
    = (verifyCpu self der >>= fun r => do
        if self.verifyGpuCc then
          checkGpu r.1 r.2
        return .assertion) := by
  simp only [verifyServerCert, verifyCpu, bind_assoc, pure_bind]

/-- The verdict is that of the verifier. -/
theorem snd_verifyServerCertPrinting :
    (verifyServerCertPrinting self der intermediates serverName ocsp now).2
      = verifyServerCert self der intermediates serverName ocsp now := by
  rw [verifyServerCert_eq_bind]
  rcases @verifyServerCertPrinting_cases _ self der intermediates serverName ocsp now with
    ⟨e, he, hr⟩ | ⟨att, spki, hcpu, ⟨hgpu, hr⟩ | ⟨hgpu, ⟨e, he, hr⟩ | ⟨claims, hclaims, hr⟩⟩⟩
  · rw [hr, he, error_bind]
  · rw [hr, hcpu, ok_bind, hgpu]
    rfl
  · rw [hr, hcpu, ok_bind, if_pos hgpu, checkGpu_eq, he]
    rfl
  · rw [hr, hcpu, ok_bind, if_pos hgpu, checkGpu_eq, hclaims]
    rfl

/-- The last line is printed exactly when the certificate is accepted. -/
theorem verifiedLine_mem_iff :
    verifiedLine ∈ (verifyServerCertPrinting self der intermediates serverName ocsp now).1
      ↔ verifyServerCert self der intermediates serverName ocsp now = .ok .assertion := by
  have hne : verifiedLine ≠ cpuLine := by decide
  rw [← snd_verifyServerCertPrinting]
  rcases @verifyServerCertPrinting_cases _ self der intermediates serverName ocsp now with
    ⟨e, -, hr⟩ | ⟨att, spki, -, ⟨-, hr⟩ | ⟨-, ⟨e, -, hr⟩ | ⟨claims, -, hr⟩⟩⟩
  · simp [hr]
  · simp [hr]
  · simp [hr, hne]
  · simp [hr]

/-! ## Evidence and TLS keys -/

/-- A client accepts a certificate. -/
def Accepts (self : AttestationVerifier) (der : Bytes) : Prop :=
  ∃ intermediates serverName ocsp now,
    verifyServerCert self der intermediates serverName ocsp now = .ok .assertion

/-- A certificate presents a key, and its extension holds this attestation with this
report. -/
def Attests (der spki : Bytes) (att : AttestationExtension)
    (raw : Vector UInt8 reportSize) : Prop :=
  ∃ value, Presents der spki value ∧ AttestationExtension.fromBytes value = .ok att ∧
    Crates.base64Decode att.reportB64 = .ok raw.toList

theorem Attests.unique {spki' : Bytes} {att att' : AttestationExtension}
    {raw raw' : Vector UInt8 reportSize} (h : Attests der spki att raw)
    (h' : Attests der spki' att' raw') : spki = spki' ∧ att = att' ∧ raw = raw' := by
  obtain ⟨value, hpres, hatt, hraw⟩ := h
  obtain ⟨value', hpres', hatt', hraw'⟩ := h'
  obtain ⟨rfl, rfl⟩ := hpres.unique hpres'
  obtain rfl := Except.ok.inj (hatt.symm.trans hatt')
  exact ⟨rfl, rfl, Vector.toList_inj.mp (Except.ok.inj (hraw.symm.trans hraw'))⟩

theorem accepts_iff : Accepts self der ↔ ∃ spki att raw key,
    Attests der spki att raw ∧ AnchorOf self.mode att key ∧
    (Verify.Bound raw spki ∧ Verify.Authentic raw key ∧
      Verify.MeasurementAccepted raw self.expectedMeasurement) ∧
    (self.verifyGpuCc = true → GpuAttested att spki) := by
  unfold Accepts
  simp only [verifyServerCert_eq_ok, judge_eq_ok]
  constructor
  · rintro ⟨-, -, -, -, spki, value, hpres, att, raw, key, hatt, hraw, hrest⟩
    exact ⟨spki, att, raw, key, ⟨value, hpres, hatt, hraw⟩, hrest⟩
  · rintro ⟨spki, att, raw, key, ⟨value, hpres, hatt, hraw⟩, hrest⟩
    exact ⟨[], "", [], 0, spki, value, hpres, att, raw, key, hatt, hraw, hrest⟩

variable {att : AttestationExtension} {raw : Vector UInt8 reportSize}

theorem attests_of_verifyCpu (h : verifyCpu self der = .ok (att, spki)) :
    ∃ raw, Attests der spki att raw := by
  simp only [verifyCpu, extractAttestExtension, bind_eq_ok, mapError_eq_ok, okOr_eq_ok,
    pure_eq_ok_iff, Prod.mk.injEq, AttestationExtension.reportBytes_eq_ok] at h
  obtain ⟨cert, hcert, spki', hspki, att', ⟨oid, hoid, ext, hext, hatt⟩, raw, hraw, key, -, u, -,
    rfl, rfl⟩ := h
  exact ⟨raw, ext.extnValue, ⟨cert, oid, ext, hcert, hspki, hoid, hext, rfl⟩, hatt, hraw⟩

/-- What is printed about an accepted certificate whose GPU is checked. -/
theorem Accepts.printed (h : Accepts self der) (e : Attests der spki att raw)
    (hgpu : self.verifyGpuCc = true) {claims : GpuClaims}
    (hclaims : gpuClaims att spki = .ok claims) :
    (verifyServerCertPrinting self der intermediates serverName ocsp now).1
      = [cpuLine, gpuLine claims, verifiedLine] := by
  obtain ⟨intermediates', serverName', ocsp', now', hok⟩ := h
  rw [verifyServerCert_eq_bind] at hok
  obtain ⟨⟨att', spki'⟩, hcpu, -⟩ := bind_eq_ok.mp hok
  rcases @verifyServerCertPrinting_cases _ self der intermediates serverName ocsp now with
    ⟨err, herr, -⟩ | ⟨att'', spki'', hcpu', ⟨hoff, -⟩ | ⟨-, hchecked⟩⟩
  · rw [hcpu] at herr
    cases herr
  · rw [hgpu] at hoff
    cases hoff
  · -- the evidence is that of the certificate
    obtain ⟨raw', e'⟩ := attests_of_verifyCpu hcpu'
    obtain ⟨rfl, rfl, rfl⟩ := e.unique e'
    rcases hchecked with ⟨err, herr, -⟩ | ⟨claims', hclaims', hr⟩
    · rw [hclaims] at herr
      cases herr
    · obtain rfl := Except.ok.inj (hclaims.symm.trans hclaims')
      rw [hr]

/-- The report of an accepted certificate is bound to the certificate's key. -/
theorem Accepts.bound (h : Accepts self der) (e : Attests der spki att raw) :
    window raw 0x50 32 = Crates.sha256 spki := by
  obtain ⟨spki', att', raw', key, e', -, ⟨hbound, -, -⟩, -⟩ := accepts_iff.mp h
  obtain ⟨rfl, rfl, rfl⟩ := e.unique e'
  exact hbound

/-- With a GPU check, so is every nonce its token carries. -/
theorem Accepts.nonce (h : Accepts self der) (e : Attests der spki att raw)
    (hgpu : self.verifyGpuCc = true) {jwt : String} (hjwt : att.gpuJwt = some jwt)
    {claims : NvidiaClaims} (hclaims : GpuVerify.TokenClaims jwt claims) :
    claims.nonce = some (GpuVerify.expectedNonce spki) := by
  obtain ⟨spki', att', raw', key, e', -, -, hatt⟩ := accepts_iff.mp h
  obtain ⟨rfl, rfl, rfl⟩ := e.unique e'
  obtain ⟨jwt', c, hjwt', hc⟩ := hatt hgpu
  obtain rfl := Option.some.inj (hjwt.symm.trans hjwt')
  exact GpuVerify.nonce_of_verifyGpuJwt_eq_ok hc hclaims

/-- The token of a certificate accepted with a GPU check has claims. -/
theorem Accepts.tokenClaims (h : Accepts self der) (e : Attests der spki att raw)
    (hgpu : self.verifyGpuCc = true) :
    ∃ jwt claims, att.gpuJwt = some jwt ∧ GpuVerify.TokenClaims jwt claims := by
  obtain ⟨spki', att', raw', key, e', -, -, hatt⟩ := accepts_iff.mp h
  obtain ⟨rfl, rfl, rfl⟩ := e.unique e'
  obtain ⟨jwt, c, hjwt, hc⟩ := hatt hgpu
  obtain ⟨claims, hclaims, -⟩ := GpuVerify.verifyGpuJwt_eq_ok.mp hc
  exact ⟨jwt, claims, hjwt, hclaims⟩

/-- Certificates accepted with a GPU check whose extensions hold the same token have
keys of the same hash. -/
theorem Accepts.sha256_eq_of_jwt (hhex : Crates.HexDocumented) {self' : AttestationVerifier}
    {der' spki' : Bytes} {att' : AttestationExtension} {raw' : Vector UInt8 reportSize}
    (h : Accepts self der) (h' : Accepts self' der') (e : Attests der spki att raw)
    (e' : Attests der' spki' att' raw') (hgpu : self.verifyGpuCc = true)
    (hgpu' : self'.verifyGpuCc = true) (hjwt : att.gpuJwt = att'.gpuJwt) :
    Crates.sha256 spki = Crates.sha256 spki' := by
  obtain ⟨jwt, claims, hsome, hclaims⟩ := h.tokenClaims e hgpu
  have hnonce := h.nonce e hgpu hsome hclaims
  rw [h'.nonce e' hgpu' (hjwt ▸ hsome) hclaims] at hnonce
  exact (hhex.encode_inj.mp (Option.some.inj hnonce)).symm

/-- Accepted evidence is bound to one TLS key: certificates with the same report, or
with the same token under two GPU checks, or one with a token for the other's
report, have keys of the same hash. So an accepted extension is accepted with no
other key, and a report and a token of different keys are not accepted together
where the GPU is checked; where it is not, only with the key of the report. -/
theorem evidence_binds_key (hhex : Crates.HexDocumented)
    {self₁ self₂ : AttestationVerifier} {der₁ der₂ spki₁ spki₂ : Bytes}
    {att₁ att₂ : AttestationExtension} {raw₁ raw₂ : Vector UInt8 reportSize}
    (h₁ : Accepts self₁ der₁) (h₂ : Accepts self₂ der₂)
    (e₁ : Attests der₁ spki₁ att₁ raw₁) (e₂ : Attests der₂ spki₂ att₂ raw₂) :
    (raw₁ = raw₂ → Crates.sha256 spki₁ = Crates.sha256 spki₂) ∧
    (self₁.verifyGpuCc = true → self₂.verifyGpuCc = true →
      ∀ jwt, att₁.gpuJwt = some jwt → att₂.gpuJwt = some jwt →
        Crates.sha256 spki₁ = Crates.sha256 spki₂) ∧
    (self₁.verifyGpuCc = true → ∀ jwt claims, att₁.gpuJwt = some jwt →
      GpuVerify.TokenClaims jwt claims →
      claims.nonce = some (Crates.hexEncode (window raw₂ 0x50 32).toList) →
        Crates.sha256 spki₁ = Crates.sha256 spki₂) ∧
    (∀ self der spki value, Presents der₁ spki₁ value → Presents der spki value →
      Crates.sha256 spki ≠ Crates.sha256 spki₁ → ¬ Accepts self der) ∧
    (self₂.verifyGpuCc = true → Crates.sha256 spki₁ ≠ Crates.sha256 spki₂ →
      ∀ self der spki att, Attests der spki att raw₁ → att.gpuJwt = att₂.gpuJwt →
        Accepts self der →
          self.verifyGpuCc = false ∧ Crates.sha256 spki = Crates.sha256 spki₁) := by
  refine ⟨?_, ?_, ?_, ?_, ?_⟩
  · rintro rfl
    rw [← h₁.bound e₁, h₂.bound e₂]
  · intro hgpu₁ hgpu₂ jwt hjwt₁ hjwt₂
    exact h₁.sha256_eq_of_jwt hhex h₂ e₁ e₂ hgpu₁ hgpu₂ (hjwt₁.trans hjwt₂.symm)
  · intro hgpu₁ jwt claims hjwt hclaims hnonce
    rw [h₁.nonce e₁ hgpu₁ hjwt hclaims, h₂.bound e₂] at hnonce
    exact hhex.encode_inj.mp (Option.some.inj hnonce)
  · intro self der spki value hpres₁ hpres hne hacc
    -- the copied value holds the report that is bound to the first key
    obtain ⟨value', hpres', hatt, hraw⟩ := e₁
    obtain ⟨-, rfl⟩ := hpres₁.unique hpres'
    have hbound := hacc.bound ⟨value, hpres, hatt, hraw⟩
    rw [h₁.bound ⟨value, hpres', hatt, hraw⟩] at hbound
    exact hne hbound.symm
  · intro hgpu₂ hne self der spki att e hjwt hacc
    -- the report settles the key; a GPU check would settle it as the other one
    have hkey : Crates.sha256 spki = Crates.sha256 spki₁ := by
      rw [← hacc.bound e, h₁.bound e₁]
    refine ⟨?_, hkey⟩
    rw [← Bool.not_eq_true]
    intro hgpu
    exact hne (hkey.symm.trans (hacc.sha256_eq_of_jwt hhex h₂ e e₂ hgpu hgpu₂ hjwt))

end Evidence

section Evidence

open Reference

attribute [local instance] crates

/-- What a certificate of the reference instance attests. -/
theorem attests_serverCert {c : ServerCert} (hc : c ∈ serverCerts) {att : AttestationExtension}
    {n : ℕ} (hext : c.ext = some (att, n)) {raw : Vector UInt8 reportSize}
    (hraw : att.reportB64 = base64Text raw.toList) : Attests c.der c.key.spki att raw := by
  have hextensions : c.parsed.tbsCertificate.extensions
      = some [{ extnId := attestOidArcs, critical := false, extnValue := att.toBytes }] := by
    rw [ServerCert.parsed, ServerCert.content, hext]
    rfl
  have hfind : (c.parsed.tbsCertificate.extensions.getD []).find?
      (fun e => e.extnId = attestOidArcs)
        = some { extnId := attestOidArcs, critical := false, extnValue := att.toBytes } := by
    rw [hextensions]
    exact List.find?_cons_of_pos (by simp)
  refine ⟨att.toBytes, ⟨c.parsed, _, _, certificateFromDer_server hc, rfl,
    oidParse_attestOidStr, hfind, rfl⟩,
    AttestationExtension.fromBytes_toBytes serdeJsonDocumented _, ?_⟩
  rw [hraw]
  exact (base64Documented.decode_iff _ _).mpr String.toList_ofList

/-- A mock client accepts a certificate with a mock report for its key, and with a token
for its key where it checks the GPU. -/
theorem accepts_mockCert {c : ServerCert} (hc : c ∈ serverCerts) {σ : Signature}
    {jwt : Option String} {n : ℕ} (hext : c.ext = some (mockExtension c.key σ jwt, n))
    (hσ : signatureOf mockPoint (signedMessage c.key zeroMeasurement) = σ) {gpu : Bool}
    (hgpu : gpu = true → GpuAttested (mockExtension c.key σ jwt) c.key.spki) :
    Accepts { expectedMeasurement := zeroMeasurement, mode := .mock, verifyGpuCc := gpu } c.der :=
  accepts_iff.mpr ⟨_, _, _, .mock, attests_serverCert hc hext rfl, ⟨rfl, rfl⟩,
    ⟨Verify.bound_signedReport _ _ _, Verify.authentic_signedReport Verify.anchorKey_mock hσ,
      Or.inl rfl⟩, hgpu⟩

theorem accepts_mockCertA :
    Accepts { expectedMeasurement := zeroMeasurement, mode := .mock, verifyGpuCc := false }
      mockCertA.der :=
  accepts_mockCert mockCertA_mem rfl signatureOf_mockA (by simp)

theorem accepts_mockCertB :
    Accepts { expectedMeasurement := zeroMeasurement, mode := .mock, verifyGpuCc := true }
      mockCertB.der :=
  accepts_mockCert mockCertB_mem rfl signatureOf_mockB
    fun _ => ⟨tokenB, _, rfl, GpuVerify.verifyGpuJwt_token .b (by decide)⟩

theorem attests_mockCertA : Attests mockCertA.der ServerKey.a.spki
    (mockExtension .a mockSignatureA none) (signedReport .a zeroMeasurement mockSignatureA) :=
  attests_serverCert mockCertA_mem rfl rfl

theorem attests_mockCertB : Attests mockCertB.der ServerKey.b.spki
    (mockExtension .b mockSignatureB (some tokenB))
    (signedReport .b zeroMeasurement mockSignatureB) :=
  attests_serverCert mockCertB_mem rfl rfl

theorem attests_splicedCertA : Attests splicedCertA.der ServerKey.a.spki
    (mockExtension .a mockSignatureA (some tokenB))
    (signedReport .a zeroMeasurement mockSignatureA) :=
  attests_serverCert splicedCertA_mem rfl rfl

/-- The reports of two servers differ, and that of server A with the token of server B is
not accepted by a client that checks the GPU. -/
theorem spliced_rejected :
    signedReport .a zeroMeasurement mockSignatureA
      ≠ signedReport .b zeroMeasurement mockSignatureB ∧
    ¬ Accepts { expectedMeasurement := zeroMeasurement, mode := .mock, verifyGpuCc := true }
      splicedCertA.der := by
  have hne : Crates.sha256 ServerKey.a.spki ≠ Crates.sha256 ServerKey.b.spki := by
    rw [sha256_spki, sha256_spki]
    exact hash_ne
  obtain ⟨hreport, -, -, -, hsplice⟩ := evidence_binds_key hexDocumented accepts_mockCertA
    accepts_mockCertB attests_mockCertA attests_mockCertB
  refine ⟨fun h => hne (hreport h), fun h => ?_⟩
  exact absurd (hsplice rfl hne _ _ _ _ attests_splicedCertA rfl h).1 (by decide)

/-- A client that does not check the GPU accepts it: it does not look at the token. -/
theorem spliced_accepted :
    Accepts { expectedMeasurement := zeroMeasurement, mode := .mock, verifyGpuCc := false }
      splicedCertA.der ∧
    Attests splicedCertA.der ServerKey.a.spki (mockExtension .a mockSignatureA (some tokenB))
      (signedReport .a zeroMeasurement mockSignatureA) ∧
    Accepts { expectedMeasurement := zeroMeasurement, mode := .mock, verifyGpuCc := true }
      mockCertB.der ∧
    Attests mockCertB.der ServerKey.b.spki (mockExtension .b mockSignatureB (some tokenB))
      (signedReport .b zeroMeasurement mockSignatureB) ∧
    Crates.sha256 ServerKey.a.spki ≠ Crates.sha256 ServerKey.b.spki := by
  refine ⟨accepts_mockCert splicedCertA_mem rfl signatureOf_mockA (by simp), attests_splicedCertA,
    accepts_mockCertB, attests_mockCertB, ?_⟩
  rw [sha256_spki, sha256_spki]
  exact hash_ne

end Evidence

/-! ## AMD mode -/

section Amd

variable [Crates]

/-- In AMD mode a chain is accepted exactly when it is consistent with itself and its
first key signed the report; the key of its third certificate is compared with
no designated one. An AMD client accepts what passes so, and nothing else. -/
theorem verify_amd_eq_ok (raw : Vector UInt8 reportSize) (chain : List Bytes)
    (expected : Vector UInt8 measurementSize) (p : Bytes) :
    (Verify.verify raw (.amd chain) expected p = .ok () ↔
      Verify.Bound raw p ∧ Verify.MeasurementAccepted raw expected ∧
      ∃ vcek ask ark k σ, AmdCerts.ParsesAs chain vcek ask ark ∧
        AmdCerts.Consistent vcek ask ark k ∧ Verify.HasSignature raw σ ∧
        Crates.verify k (window raw 0 672).toList σ = .ok ()) ∧
    (∀ self der, self.mode = .amdSevSnp → (Accepts self der ↔
      ∃ spki att raw chain, Attests der spki att raw ∧ att.mode = .amdSevSnp ∧
        List.Forall₂ (fun b d => Crates.base64Decode b = .ok d) att.vcekChainB64 chain ∧
        Verify.verify raw (.amd chain) self.expectedMeasurement spki = .ok () ∧
        (self.verifyGpuCc = true → GpuAttested att spki))) := by
  constructor
  · simp only [Verify.verify_eq_ok, Verify.Authentic, Verify.anchorKey_amd_iff]
    constructor
    · rintro ⟨hbound, ⟨σ, k, hσ, ⟨vcek, ask, ark, hparse, hcons⟩, hverify⟩, hmeas⟩
      exact ⟨hbound, hmeas, vcek, ask, ark, k, σ, hparse, hcons, hσ, hverify⟩
    · rintro ⟨hbound, hmeas, vcek, ask, ark, k, σ, hparse, hcons, hσ, hverify⟩
      exact ⟨hbound, ⟨σ, k, hσ, ⟨vcek, ask, ark, hparse, hcons⟩, hverify⟩, hmeas⟩
  · intro self der hmode
    rw [accepts_iff]
    simp only [← Verify.verify_eq_ok]
    constructor
    · rintro ⟨spki, att, raw, key, e, hkey, hverify, hgpu⟩
      cases key with
      | mock => exact absurd (hmode.symm.trans hkey.1) (by decide)
      | amd chain => exact ⟨spki, att, raw, chain, e, hkey.2.1, hkey.2.2, hverify, hgpu⟩
    · rintro ⟨spki, att, raw, chain, e, hatt, hchain, hverify, hgpu⟩
      exact ⟨spki, att, raw, .amd chain, e, ⟨hmode, hatt, hchain⟩, hverify, hgpu⟩

end Amd

section Amd

open Reference

attribute [local instance] crates

/-- A report and a chain made of the mock key alone pass in AMD mode: the third
certificate carries the mock key, not the root's. -/
theorem verify_amd_mockRoot :
    Verify.verify (signedReport .a zeroMeasurement mockSignatureA)
        (.amd [mockRoot.der, mockRoot.der, mockRoot.der]) zeroMeasurement ServerKey.a.spki
      = .ok () ∧
    ∃ root, AmdCerts.ParsesAs [mockRoot.der, mockRoot.der, mockRoot.der] root root root ∧
      AmdCerts.certKey root = some (Crates.verifyingKey Mock.mockSigningKey) ∧
      Crates.verifyingKey Mock.mockSigningKey ≠ ark.point := by
  have hmock : Crates.verifyingKey Mock.mockSigningKey = mockRoot.point := verifyingKey_mock
  have hparse := certificateFromDer_amd mockRoot_mem
  have hchain : Verify.AnchorKey (.amd [mockRoot.der, mockRoot.der, mockRoot.der]) mockRoot.point :=
    AmdCerts.vcekVerifyingKey_selfSigned hparse (AmdCerts.certKey_parsed mockRoot_mem)
      ((AmdCerts.signedBy_parsed_iff mockRoot_mem).mpr rfl)
  obtain ⟨-, -, hne, -⟩ := points_distinct
  rw [hmock]
  refine ⟨?_, mockRoot.parsed, ⟨_, _, _, _, rfl, hparse, hparse, hparse⟩,
    AmdCerts.certKey_parsed mockRoot_mem, hne.symm⟩
  exact Verify.verify_eq_ok.mpr ⟨Verify.bound_signedReport _ _ _,
    Verify.authentic_signedReport hchain signatureOf_mockA, Or.inl rfl⟩

end Amd

end Verifier
end Sifir
