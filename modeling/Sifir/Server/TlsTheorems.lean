import Sifir.Attest.MockTheorems
import Sifir.Client.VerifierTheorems
import Sifir.Server.AmdAttestationTheorems
import Sifir.Server.Tls

/-!
# What the server sets up

The evidence in the certificate of each setup (`buildMockSetup_eq_ok`,
`buildAmdSetup_eq_ok`, `buildAmdGpuSetup_eq_ok`), when the report in it is the one the
firmware issued, and that the client of the same mode accepts it.
-/

namespace Sifir
namespace Tls

open Lib Windows Results AmdAttestation Verifier

section Setups

variable [Crates]

/-! ## The steps of a setup -/

theorem extractSpkiDer_eq_ok {kp : Crates.KeyPair} {e : Crates.Entropy} {p : Bytes} :
    extractSpkiDer kp e = .ok p ↔ ∃ der cert, Crates.selfSigned {} kp e = .ok der ∧
      Crates.certificateFromDer der = .ok cert ∧
      Crates.spkiToDer cert.tbsCertificate.subjectPublicKeyInfo = .ok p := by
  simp only [extractSpkiDer, bind_eq_ok, mapError_eq_ok]
  constructor
  · rintro ⟨der, hder, cert, hcert, hspki⟩
    exact ⟨der, cert, hder, hcert, hspki⟩
  · rintro ⟨der, cert, hder, hcert, hspki⟩
    exact ⟨der, hder, cert, hcert, hspki⟩

/-- A setup generates a key pair and reads its public key off a temporary certificate. -/
def Generates (rng : Randomness) (kp : Crates.KeyPair) (p : Bytes) : Prop :=
  Crates.generateP256 rng.keyPair = .ok kp ∧ extractSpkiDer kp rng.tempCert = .ok p

theorem generateKeypairAndHash_eq_ok {rng : Randomness}
    {out : Crates.KeyPair × Vector UInt8 32 × Vector UInt8 64} :
    generateKeypairAndHash rng = .ok out ↔ ∃ kp p, Generates rng kp p ∧
      out = (kp, Crates.sha256 p, userDataOf (Crates.sha256 p)) := by
  simp only [generateKeypairAndHash, bind_eq_ok, mapError_eq_ok, pure_eq_ok_iff, Generates]
  constructor
  · rintro ⟨kp, hkp, p, hp, rfl⟩
    exact ⟨kp, p, ⟨hkp, hp⟩, rfl⟩
  · rintro ⟨kp, p, ⟨hkp, hp⟩, rfl⟩
    exact ⟨kp, hkp, p, hp, rfl⟩

omit [Crates] in
/-- The hash of the key is the first half of the user data. -/
theorem window_userDataOf (hash : Vector UInt8 32) : window (userDataOf hash) 0 32 = hash :=
  window_overwrite_self _ hash _

theorem buildServerCert_eq_ok {kp : Crates.KeyPair} {ext : AttestationExtension}
    {e : Crates.Entropy} {config : Crates.ServerConfig} :
    buildServerCert kp ext e = .ok config ↔ ∃ der, Crates.selfSigned
        { customExtensions := [CustomExtension.fromOidContent attestOidArcs ext.toBytes] } kp e
          = .ok der ∧
      Crates.withSingleCert [der] (Crates.serializedDer kp) = .ok config := by
  simp only [buildServerCert, bind_eq_ok, mapError_eq_ok, List.nil_append]

theorem buildMockSetup_eq_ok {rng : Randomness} {setup : TlsSetup} :
    buildMockSetup rng = .ok setup ↔ ∃ kp p, Generates rng kp p ∧
      buildServerCert kp (AttestationExtension.newMock
        (Mock.signMockReport (Crates.sha256 p) (Vector.replicate 48 0)).raw) rng.cert
          = .ok setup.serverConfig ∧
      setup.measurement = Vector.replicate 48 0 := by
  obtain ⟨config, measurement⟩ := setup
  simp only [buildMockSetup, bind_eq_ok, mapError_eq_ok, pure_eq_ok_iff, Generates,
    TlsSetup.mk.injEq]
  constructor
  · rintro ⟨kp, hkp, p, hp, config', hconfig, rfl, rfl⟩
    exact ⟨kp, p, ⟨hkp, hp⟩, hconfig, rfl⟩
  · rintro ⟨kp, p, ⟨hkp, hp⟩, hconfig, rfl⟩
    exact ⟨kp, hkp, p, hp, config, hconfig, rfl, rfl⟩

theorem buildAmdSetup_eq_ok {dev : SnpGuest} {http : Http} {rng : Randomness} {product : String}
    {setup : TlsSetup} :
    buildAmdSetup dev http rng product = .ok setup ↔ ∃ kp p raw chain, Generates rng kp p ∧
      getSnpReport dev (userDataOf (Crates.sha256 p)) = .ok raw ∧
      fetchVcekChain http raw product = .ok chain ∧
      buildServerCert kp (AttestationExtension.newAmd raw chain) rng.cert
        = .ok setup.serverConfig ∧
      setup.measurement = window raw 0x90 48 := by
  obtain ⟨config, measurement⟩ := setup
  simp only [buildAmdSetup, getReportAndChain, bind_eq_ok, mapError_eq_ok, pure_eq_ok_iff,
    generateKeypairAndHash_eq_ok, TlsSetup.mk.injEq]
  constructor
  · rintro ⟨_, ⟨kp, p, hgen, rfl⟩, _, ⟨raw, hraw, chain, hchain, rfl⟩, config', hconfig, rfl, rfl⟩
    exact ⟨kp, p, raw, chain, hgen, hraw, hchain, hconfig, rfl⟩
  · rintro ⟨kp, p, raw, chain, hgen, hraw, hchain, hconfig, rfl⟩
    exact ⟨_, ⟨kp, p, hgen, rfl⟩, _, ⟨raw, hraw, chain, hchain, rfl⟩, config, hconfig, rfl, rfl⟩

theorem buildAmdGpuSetup_eq_ok {dev : SnpGuest} {http : Http} {process : GpuAttestation.Process}
    {rng : Randomness} {product scriptPath : String} {setup : TlsSetup} :
    buildAmdGpuSetup dev http process rng product scriptPath = .ok setup ↔
      ∃ kp p raw chain jwt, Generates rng kp p ∧
        getSnpReport dev (userDataOf (Crates.sha256 p)) = .ok raw ∧
        fetchVcekChain http raw product = .ok chain ∧
        GpuAttestation.getGpuJwt process (Crates.sha256 p) scriptPath = .ok jwt ∧
        buildServerCert kp ((AttestationExtension.newAmd raw chain).withGpuJwt jwt) rng.cert
          = .ok setup.serverConfig ∧
        setup.measurement = window raw 0x90 48 := by
  obtain ⟨config, measurement⟩ := setup
  simp only [buildAmdGpuSetup, getReportAndChain, bind_eq_ok, mapError_eq_ok, pure_eq_ok_iff,
    generateKeypairAndHash_eq_ok, TlsSetup.mk.injEq]
  constructor
  · rintro ⟨_, ⟨kp, p, hgen, rfl⟩, _, ⟨raw, hraw, chain, hchain, rfl⟩, jwt, hjwt, config',
      hconfig, rfl, rfl⟩
    exact ⟨kp, p, raw, chain, jwt, hgen, hraw, hchain, hjwt, hconfig, rfl⟩
  · rintro ⟨kp, p, raw, chain, jwt, hgen, hraw, hchain, hjwt, hconfig, rfl⟩
    exact ⟨_, ⟨kp, p, hgen, rfl⟩, _, ⟨raw, hraw, chain, hchain, rfl⟩, jwt, hjwt, config, hconfig,
      rfl, rfl⟩

/-! ## The report of the firmware -/

/-- The report in a response buffer: status, size and 24 reserved bytes come first. -/
def embeddedReport (buffer : Vector UInt8 4000) : Vector UInt8 reportSize := window buffer 32 1184

/-- For a request that the device answers with a buffer, the server delivers the
embedded report: `getSnpReport` returns it, and a setup for a key with this user data
puts it in the certificate, where it passes the binding check for the key, and
reports its measurement. -/
def DeliversReport (dev : SnpGuest) (userData : Vector UInt8 64)
    (buffer : Vector UInt8 4000) : Prop :=
  getSnpReport dev userData = .ok (embeddedReport buffer) ∧
  ∀ http rng product kp p setup, Generates rng kp p →
    userDataOf (Crates.sha256 p) = userData →
    buildAmdSetup dev http rng product = .ok setup →
    (∃ chain, buildServerCert kp (AttestationExtension.newAmd (embeddedReport buffer) chain) rng.cert
      = .ok setup.serverConfig) ∧
    Verify.verifyKeyBinding (Report.new (embeddedReport buffer)) p = .ok () ∧
    setup.measurement = (Report.new (embeddedReport buffer)).measurement

theorem Generates.unique {rng : Randomness} {kp kp' : Crates.KeyPair} {p p' : Bytes}
    (h : Generates rng kp p) (h' : Generates rng kp' p') : kp = kp' ∧ p = p' := by
  obtain ⟨hkp, hp⟩ := h
  obtain ⟨hkp', hp'⟩ := h'
  obtain rfl := Except.ok.inj (hkp.symm.trans hkp')
  exact ⟨rfl, Except.ok.inj (hp.symm.trans hp')⟩

/-- The embedded report is delivered exactly when the first 1216 bytes of the buffer
repeat with period 32: the copy starts at byte 0 where the report starts at 32. -/
theorem deliversReport_iff (dev : SnpGuest) (userData : Vector UInt8 64)
    (buffer : Vector UInt8 4000) (hresp : Responds dev userData buffer)
    (hdata : (Report.new (embeddedReport buffer)).reportData = userData) :
    DeliversReport dev userData buffer
      ↔ ∀ (i : ℕ) (hi : i < 1184), buffer[i] = buffer[i + 32] := by
  have hget : getSnpReport dev userData = .ok (window buffer 0 1184) :=
    getSnpReport_eq_ok.mpr ⟨buffer, hresp, rfl⟩
  have hshift : window buffer 0 1184 = embeddedReport buffer
      ↔ ∀ (i : ℕ) (hi : i < 1184), buffer[i] = buffer[i + 32] := by
    rw [embeddedReport, window_eq_iff]
    simp only [Nat.zero_add, Nat.add_comm 32]
  constructor
  · rintro ⟨hdeliver, -⟩
    exact hshift.mp (Except.ok.inj (hget.symm.trans hdeliver))
  · intro hperiod
    rw [hshift.mpr hperiod] at hget
    refine ⟨hget, ?_⟩
    intro http rng product kp p setup hgen hkey hsetup
    obtain ⟨kp', p', raw, chain, hgen', hraw, -, hcert, hmeas⟩ := buildAmdSetup_eq_ok.mp hsetup
    obtain ⟨rfl, rfl⟩ := hgen.unique hgen'
    rw [hkey] at hraw
    obtain rfl := Except.ok.inj (hget.symm.trans hraw)
    -- the user data starts with the hash of the key
    have hbound : Verify.Bound (embeddedReport buffer) p := by
      have hhash := (Report.new (embeddedReport buffer)).keyHash_eq_window
      rw [Report.keyHash, hdata, ← hkey, window_userDataOf] at hhash
      exact hhash.symm
    refine ⟨⟨chain, hcert⟩, ?_, hmeas⟩
    rw [Verify.verifyKeyBinding_eq, if_pos hbound]

end Setups

section Reference

open Reference

attribute [local instance] crates

/-- A device that answers every request with a buffer. -/
def answering (buffer : Vector UInt8 4000) : SnpGuest where
  openDevice := .ok ()
  ioctl _ request := ⟨0, "Success", { request with respData := buffer }⟩

theorem responds_answering (buffer : Vector UInt8 4000) (userData : Vector UInt8 64) :
    Responds (answering buffer) userData buffer :=
  ⟨rfl, _, _, rfl, rfl, rfl⟩

/-- Bytes that repeat with period 32, with the status 0 in front. -/
def periodicByte (n : ℕ) : UInt8 := if n % 32 < 4 then 0 else UInt8.ofNat (n % 32)

def periodicBuffer : Vector UInt8 4000 := Vector.ofFn fun i => periodicByte i.val

/-- Such a response is its own report, wherever it is read from. -/
theorem deliversReport_periodicBuffer :
    DeliversReport (answering periodicBuffer) (Vector.ofFn fun i => periodicByte (i.val + 112))
      periodicBuffer := by
  have hdata : (Report.new (embeddedReport periodicBuffer)).reportData
      = Vector.ofFn fun i : Fin 64 => periodicByte (i.val + 112) := by
    apply Vector.ext
    intro i hi
    have hindex : 32 + (0x50 + i) = i + 112 := by omega
    simp [embeddedReport, Report.reportData, Report.new, periodicBuffer, hindex]
  refine (deliversReport_iff _ _ _ (responds_answering _ _) hdata).mpr fun i hi => ?_
  have hperiod : (i + 32) % 32 = i % 32 := by omega
  simp only [periodicBuffer, Vector.getElem_ofFn, periodicByte, hperiod]

/-- The response to a successful request: status 0, size 1184, and the chip's report for
server A. -/
def responseBuffer : Vector UInt8 4000 :=
  overwrite (overwrite (Vector.replicate 4000 0) 4 (Mock.toLeBytes 1184)) 32
    (signedReport .a amdMeasurement vcekSignatureA)

theorem embeddedReport_responseBuffer :
    embeddedReport responseBuffer = signedReport .a amdMeasurement vcekSignatureA :=
  window_overwrite_self _ _ _

/-- The report the firmware issued for server A is not what the server takes from the
response: its bytes start with the status, not with the version. -/
theorem not_deliversReport_responseBuffer :
    Responds (answering responseBuffer) (userDataOf ServerKey.a.hash) responseBuffer ∧
    (Report.new (embeddedReport responseBuffer)).reportData = userDataOf ServerKey.a.hash ∧
    ¬ DeliversReport (answering responseBuffer) (userDataOf ServerKey.a.hash)
      responseBuffer := by
  refine ⟨responds_answering _ _, ?_, ?_⟩
  · rw [embeddedReport_responseBuffer]
    exact reportData_signedReport _ _ _
  · rintro ⟨hdeliver, -⟩
    have hget : getSnpReport (answering responseBuffer) (userDataOf ServerKey.a.hash)
        = .ok (window responseBuffer 0 1184) :=
      getSnpReport_eq_ok.mpr ⟨_, responds_answering _ _, rfl⟩
    have hsame := Except.ok.inj (hget.symm.trans hdeliver)
    have hfirst : (window responseBuffer 0 1184)[0] = 0 := by
      simp [responseBuffer, getElem_overwrite]
    rw [hsame, embeddedReport_responseBuffer, version_signedReport] at hfirst
    exact absurd hfirst (by decide)

end Reference

section Setups

variable [Crates]

/-! ## Server and client -/

/-- A report issued for a key by a chip that KDS vouches for: it is bound to the key
and signed under the VCEK that KDS returns for it, along with a bundle that starts
with the VCEK's issuers. -/
def GenuineEvidence (http : Http) (raw : Vector UInt8 reportSize) (product : String)
    (p : Bytes) : Prop :=
  Verify.Bound raw p ∧ ∃ vcekDer askDer arkDer more pem vcek ask ark k σ,
    KdsAnswers http raw product vcekDer pem ∧ IsBundle pem (askDer :: arkDer :: more) ∧
    Crates.certificateFromDer vcekDer = .ok vcek ∧ Crates.certificateFromDer askDer = .ok ask ∧
    Crates.certificateFromDer arkDer = .ok ark ∧ AmdCerts.Consistent vcek ask ark k ∧
    Verify.HasSignature raw σ ∧
    Crates.verify k (window raw 0 672 signedRegion_fits).toList σ = .ok ()

/-- The chain is fetched for genuine evidence, and authenticates its report. -/
theorem GenuineEvidence.authentic {http : Http} {raw : Vector UInt8 reportSize}
    {product : String} {p : Bytes} (h : GenuineEvidence http raw product p) :
    ∃ chain, fetchVcekChain http raw product = .ok chain ∧
      Verify.Authentic raw (.amd chain) := by
  obtain ⟨-, vcekDer, askDer, arkDer, more, pem, vcek, ask, ark, k, σ, hkds, hpem, hvcek, hask,
    hark, hcons, hσ, hverify⟩ := h
  refine ⟨_, fetchVcekChain_of_answers hkds hpem, σ, k, hσ, ?_, hverify⟩
  exact Verify.anchorKey_amd_iff.mpr
    ⟨vcek, ask, ark, ⟨vcekDer, askDer, arkDer, [], rfl, hvcek, hask, hark⟩, hcons⟩

/-- The anchor of an extension with an AMD chain, in a client of AMD mode. -/
theorem anchorOf_amd_iff {ext : AttestationExtension} {chain : List Bytes}
    (hmode : ext.mode = .amdSevSnp) (hchain : ext.vcekChainDer = .ok chain)
    {key : AttestationKey} : AnchorOf .amdSevSnp ext key ↔ key = .amd chain := by
  rw [AttestationExtension.vcekChainDer_eq_ok] at hchain
  constructor
  · intro h
    cases key with
    | mock => exact absurd h.1 (by decide)
    | amd chain' =>
      rw [← AttestationExtension.vcekChainDer_eq_ok] at hchain
      have hchain' := AttestationExtension.vcekChainDer_eq_ok.mpr h.2.2
      rw [Except.ok.inj (hchain'.symm.trans hchain)]
  · rintro rfl
    exact ⟨rfl, hmode, hchain⟩

section

variable (hrcgen : Crates.RcgenDocumented) (hrustls : Crates.RustlsDocumented)
  (hoid : Crates.oidParse attestOidStr = .ok attestOidArcs)
include hrcgen hrustls hoid

/-- The certificate of a configuration presents the key of its key pair, as read off
the temporary certificate, and the extension it was built with. -/
theorem presents_of_buildServerCert {kp : Crates.KeyPair} {ext : AttestationExtension}
    {e temp : Crates.Entropy} {p : Bytes} {config : Crates.ServerConfig}
    (hp : extractSpkiDer kp temp = .ok p) (h : buildServerCert kp ext e = .ok config) :
    ∃ der, Crates.certChain config = [der] ∧ Presents der p ext.toBytes := by
  obtain ⟨spki, hspki⟩ := hrcgen.selfSigned_ok kp
  -- both certificates are of one key pair, so they carry one public key
  obtain ⟨tempDer, tempCert, htemp, hparse, hkey⟩ := extractSpkiDer_eq_ok.mp hp
  obtain ⟨tempCert', hparse', htempSpki, -⟩ := hspki _ _ _ htemp
  obtain rfl := Except.ok.inj (hparse.symm.trans hparse')
  obtain ⟨der, hder, hconfig⟩ := buildServerCert_eq_ok.mp h
  obtain ⟨cert, hcert, hcertSpki, hext⟩ := hspki _ _ _ hder
  obtain ⟨x, hfind, hvalue⟩ := hext _ rfl
  refine ⟨der, hrustls.certChain_eq _ _ _ hconfig, cert, attestOidArcs, x, hcert, ?_, hoid,
    hfind, hvalue⟩
  rw [hcertSpki, ← htempSpki]
  exact hkey

/-- What a client makes of the certificate of a configuration. -/
theorem accepts_buildServerCert_iff (hjson : Crates.SerdeJsonDocumented) {kp : Crates.KeyPair}
    {ext : AttestationExtension} {e temp : Crates.Entropy} {p : Bytes} {config : Crates.ServerConfig}
    {raw : Vector UInt8 reportSize} (hp : extractSpkiDer kp temp = .ok p)
    (h : buildServerCert kp ext e = .ok config) (hraw : ext.reportBytes = .ok raw) :
    ∃ der, Crates.certChain config = [der] ∧ ∀ self, Accepts self der ↔
      ∃ key, AnchorOf self.mode ext key ∧
        (Verify.Bound raw p ∧ Verify.Authentic raw key ∧
          Verify.MeasurementAccepted raw self.expectedMeasurement) ∧
        (self.verifyGpuCc = true → GpuAttested ext p) := by
  obtain ⟨der, hchain, hpres⟩ := presents_of_buildServerCert hrcgen hrustls hoid hp h
  have hattests : Attests der p ext raw :=
    ⟨ext.toBytes, hpres, AttestationExtension.fromBytes_toBytes hjson ext,
      AttestationExtension.reportBytes_eq_ok.mp hraw⟩
  refine ⟨der, hchain, fun self => accepts_iff.trans ?_⟩
  constructor
  · rintro ⟨p', ext', raw', key, hattests', hrest⟩
    obtain ⟨rfl, rfl, rfl⟩ := hattests.unique hattests'
    exact ⟨key, hrest⟩
  · rintro ⟨key, hrest⟩
    exact ⟨p, ext, raw, key, hattests, hrest⟩

/-- Of a certificate with a report and a chain that authenticates it, a client of AMD
mode looks at the measurement, and at the token where it checks the GPU. -/
theorem accepts_amdCert_iff (hjson : Crates.SerdeJsonDocumented) {kp : Crates.KeyPair}
    {ext : AttestationExtension} {e temp : Crates.Entropy} {p : Bytes}
    {config : Crates.ServerConfig} {raw : Vector UInt8 reportSize} {chain : List Bytes}
    (hp : extractSpkiDer kp temp = .ok p) (h : buildServerCert kp ext e = .ok config)
    (hraw : ext.reportBytes = .ok raw) (hmode : ext.mode = .amdSevSnp)
    (hchain : ext.vcekChainDer = .ok chain) (hbound : Verify.Bound raw p)
    (hauth : Verify.Authentic raw (.amd chain)) :
    ∃ der, Crates.certChain config = [der] ∧ ∀ self, self.mode = .amdSevSnp →
      (Accepts self der ↔ Verify.MeasurementAccepted raw self.expectedMeasurement ∧
        (self.verifyGpuCc = true → GpuAttested ext p)) := by
  obtain ⟨der, hder, hiff⟩ := accepts_buildServerCert_iff hrcgen hrustls hoid hjson hp h hraw
  refine ⟨der, hder, fun self hself => (hiff self).trans ?_⟩
  simp only [hself, anchorOf_amd_iff hmode hchain, exists_eq_left, hbound, hauth, true_and]

end

/-! ## The setups -/

/-- The clients of a mode, with or without a GPU check, accept the certificate of a setup
for exactly the expected measurements that are zero or the one the setup reports. -/
def AcceptedBy (mode : VerifierMode) (verifyGpuCc : Bool) (setup : TlsSetup) : Prop :=
  ∃ der, Crates.certChain setup.serverConfig = [der] ∧
    ∀ self : AttestationVerifier, self.mode = mode → self.verifyGpuCc = verifyGpuCc →
      (Accepts self der ↔ self.expectedMeasurement = Vector.replicate 48 0 ∨
        self.expectedMeasurement = setup.measurement)

section

variable {dev : SnpGuest} {http : Http} {rng : Randomness} {product : String}
  {kp : Crates.KeyPair} {p : Bytes} {raw : Vector UInt8 reportSize} {chain : List Bytes}

theorem buildMockSetup_of_generates (hgen : Generates rng kp p) (setup : TlsSetup) :
    buildMockSetup rng = .ok setup ↔
      buildServerCert kp (AttestationExtension.newMock
        (Mock.signMockReport (Crates.sha256 p) (Vector.replicate 48 0)).raw) rng.cert
          = .ok setup.serverConfig ∧
      setup.measurement = Vector.replicate 48 0 := by
  rw [buildMockSetup_eq_ok]
  constructor
  · rintro ⟨kp', p', hgen', hcert⟩
    obtain ⟨rfl, rfl⟩ := hgen.unique hgen'
    exact hcert
  · intro hcert
    exact ⟨kp, p, hgen, hcert⟩

theorem buildAmdSetup_of_generates (hgen : Generates rng kp p)
    (hraw : getSnpReport dev (userDataOf (Crates.sha256 p)) = .ok raw)
    (hchain : fetchVcekChain http raw product = .ok chain) (setup : TlsSetup) :
    buildAmdSetup dev http rng product = .ok setup ↔
      buildServerCert kp (AttestationExtension.newAmd raw chain) rng.cert
        = .ok setup.serverConfig ∧
      setup.measurement = window raw 0x90 48 := by
  rw [buildAmdSetup_eq_ok]
  constructor
  · rintro ⟨kp', p', raw', chain', hgen', hraw', hchain', hcert⟩
    obtain ⟨rfl, rfl⟩ := hgen.unique hgen'
    obtain rfl := Except.ok.inj (hraw.symm.trans hraw')
    obtain rfl := Except.ok.inj (hchain.symm.trans hchain')
    exact hcert
  · intro hcert
    exact ⟨kp, p, raw, chain, hgen, hraw, hchain, hcert⟩

theorem buildAmdGpuSetup_of_generates {process : GpuAttestation.Process}
    {scriptPath jwt : String} (hgen : Generates rng kp p)
    (hraw : getSnpReport dev (userDataOf (Crates.sha256 p)) = .ok raw)
    (hchain : fetchVcekChain http raw product = .ok chain)
    (hjwt : GpuAttestation.getGpuJwt process (Crates.sha256 p) scriptPath = .ok jwt)
    (setup : TlsSetup) :
    buildAmdGpuSetup dev http process rng product scriptPath = .ok setup ↔
      buildServerCert kp ((AttestationExtension.newAmd raw chain).withGpuJwt jwt) rng.cert
        = .ok setup.serverConfig ∧
      setup.measurement = window raw 0x90 48 := by
  rw [buildAmdGpuSetup_eq_ok]
  constructor
  · rintro ⟨kp', p', raw', chain', jwt', hgen', hraw', hchain', hjwt', hcert⟩
    obtain ⟨rfl, rfl⟩ := hgen.unique hgen'
    obtain rfl := Except.ok.inj (hraw.symm.trans hraw')
    obtain rfl := Except.ok.inj (hchain.symm.trans hchain')
    obtain rfl := Except.ok.inj (hjwt.symm.trans hjwt')
    exact hcert
  · intro hcert
    exact ⟨kp, p, raw, chain, jwt, hgen, hraw, hchain, hjwt, hcert⟩

end

/-- Every setup goes through as far as its certificate can be made, and its certificate
is accepted by the clients of its mode: in mock mode, in AMD mode with evidence of a
genuine chip, and with a GPU check and a token for the key of the certificate. -/
theorem setup_accepted (hjson : Crates.SerdeJsonDocumented) (hb64 : Crates.Base64Documented)
    (hsec1 : Crates.Sec1Documented) (hfmt : Crates.SignatureFormatDocumented)
    (hsign : Crates.SignDocumented) (hrcgen : Crates.RcgenDocumented)
    (hrustls : Crates.RustlsDocumented) (hoid : Crates.oidParse attestOidStr = .ok attestOidArcs) :
    (∀ rng kp p, Generates rng kp p → ∀ setup,
      (buildMockSetup rng = .ok setup ↔
        buildServerCert kp (AttestationExtension.newMock
          (Mock.signMockReport (Crates.sha256 p) (Vector.replicate 48 0)).raw) rng.cert
            = .ok setup.serverConfig ∧
        setup.measurement = Vector.replicate 48 0) ∧
      (buildMockSetup rng = .ok setup → AcceptedBy .mock false setup)) ∧
    (∀ dev http rng product kp p raw, Generates rng kp p →
      getSnpReport dev (userDataOf (Crates.sha256 p)) = .ok raw →
      GenuineEvidence http raw product p →
      ∃ chain, fetchVcekChain http raw product = .ok chain ∧ ∀ setup,
        (buildAmdSetup dev http rng product = .ok setup ↔
          buildServerCert kp (AttestationExtension.newAmd raw chain) rng.cert
            = .ok setup.serverConfig ∧
          setup.measurement = window raw 0x90 48) ∧
        (buildAmdSetup dev http rng product = .ok setup → AcceptedBy .amdSevSnp false setup)) ∧
    (∀ dev http process rng product scriptPath kp p raw jwt claims (c : GpuClaims),
      Generates rng kp p → getSnpReport dev (userDataOf (Crates.sha256 p)) = .ok raw →
      GenuineEvidence http raw product p →
      GpuAttestation.getGpuJwt process (Crates.sha256 p) scriptPath = .ok jwt →
      GpuVerify.TokenClaims jwt claims →
      claims = ⟨some (GpuVerify.expectedNonce p), some c.ccMode, some c.gpuModel⟩ →
      Text.toLowercase Crates.lowercaseTable c.ccMode = "on" →
      ∃ chain, fetchVcekChain http raw product = .ok chain ∧ ∀ setup,
        (buildAmdGpuSetup dev http process rng product scriptPath = .ok setup ↔
          buildServerCert kp ((AttestationExtension.newAmd raw chain).withGpuJwt jwt) rng.cert
            = .ok setup.serverConfig ∧
          setup.measurement = window raw 0x90 48) ∧
        (buildAmdGpuSetup dev http process rng product scriptPath = .ok setup →
          AcceptedBy .amdSevSnp true setup)) := by
  refine ⟨?_, ?_, ?_⟩
  · intro rng kp p hgen setup
    have hiff := buildMockSetup_of_generates hgen setup
    refine ⟨hiff, fun hsetup => ?_⟩
    obtain ⟨hcert, hmeas⟩ := hiff.mp hsetup
    obtain ⟨der, hder, hacc⟩ := accepts_buildServerCert_iff hrcgen hrustls hoid hjson hgen.2 hcert
      (AttestationExtension.reportBytes_newMock hb64 _)
    refine ⟨der, hder, fun self hmode hgpu => (hacc self).trans ?_⟩
    rw [hmeas, or_self]
    have hsame : window (Mock.signMockReport (Crates.sha256 p) (Vector.replicate 48 0)).raw 0x90 48
        = Vector.replicate 48 0 := Mock.measurement_signMockReport
    constructor
    · rintro ⟨-, -, ⟨-, -, hzero | hexp⟩, -⟩
      · exact hzero
      · exact hexp.trans hsame
    · intro hzero
      exact ⟨.mock, ⟨hmode, rfl⟩, ⟨Mock.bound_signMockReport,
        Mock.authentic_signMockReport hsec1 hfmt hsign, Or.inl hzero⟩, by simp [hgpu]⟩
  · intro dev http rng product kp p raw hgen hraw hgenuine
    obtain ⟨chain, hchain, hauth⟩ := hgenuine.authentic
    refine ⟨chain, hchain, fun setup => ?_⟩
    have hiff := buildAmdSetup_of_generates hgen hraw hchain setup
    refine ⟨hiff, fun hsetup => ?_⟩
    obtain ⟨hcert, hmeas⟩ := hiff.mp hsetup
    obtain ⟨der, hder, hacc⟩ := accepts_amdCert_iff hrcgen hrustls hoid hjson hgen.2 hcert
      (AttestationExtension.reportBytes_newAmd hb64 raw chain) rfl
      (AttestationExtension.vcekChainDer_newAmd hb64 raw chain) hgenuine.1 hauth
    refine ⟨der, hder, fun self hmode hgpu => (hacc self hmode).trans ?_⟩
    -- without a GPU check only the measurement is left
    simp only [hgpu, hmeas, Bool.false_eq_true, false_implies, and_true]
    rfl
  · intro dev http process rng product scriptPath kp p raw jwt claims c hgen hraw hgenuine hjwt
      hclaims heq hon
    obtain ⟨chain, hchain, hauth⟩ := hgenuine.authentic
    refine ⟨chain, hchain, fun setup => ?_⟩
    have hiff := buildAmdGpuSetup_of_generates hgen hraw hchain hjwt setup
    refine ⟨hiff, fun hsetup => ?_⟩
    obtain ⟨hcert, hmeas⟩ := hiff.mp hsetup
    obtain ⟨der, hder, hacc⟩ := accepts_amdCert_iff hrcgen hrustls hoid hjson hgen.2 hcert
      (AttestationExtension.reportBytes_newAmd hb64 raw chain) rfl
      (AttestationExtension.vcekChainDer_newAmd hb64 raw chain) hgenuine.1 hauth
    refine ⟨der, hder, fun self hmode hgpu => (hacc self hmode).trans ?_⟩
    -- the token carries the nonce of the key, so the GPU check passes
    have hattested : GpuAttested ((AttestationExtension.newAmd raw chain).withGpuJwt jwt) p := by
      refine ⟨jwt, c, rfl, GpuVerify.verifyGpuJwt_eq_ok.mpr ⟨claims, hclaims, ?_⟩⟩
      subst heq
      exact ⟨rfl, rfl, hon, rfl⟩
    simp only [hattested, hmeas, implies_true, and_true]
    rfl

end Setups

section Reference

open Reference

attribute [local instance] crates

/-! ## A reference server -/

/-- Server A's key in every draw. -/
def rngA : Randomness := ⟨ServerKey.a, ServerKey.a, ServerKey.a⟩

theorem generates_rngA : Generates rngA ServerKey.a ServerKey.a.spki :=
  ⟨rfl, extractSpkiDer_eq_ok.mpr ⟨_, _, selfSigned_params tempA_mem ServerKey.a,
    certificateFromDer_server tempA_mem, rfl⟩⟩

/-- The certificate of a reference server with its extension. -/
theorem buildServerCert_serverCert {c : ServerCert} (hc : c ∈ serverCerts)
    {att : AttestationExtension} {n : ℕ} (hext : c.ext = some (att, n)) (e : Crates.Entropy) :
    buildServerCert c.key att e = .ok ([c.der], c.key.pkcs8) := by
  have hparams : c.params
      = { customExtensions := [CustomExtension.fromOidContent attestOidArcs att.toBytes] } := by
    rw [ServerCert.params, ServerCert.content, hext]
    rfl
  exact buildServerCert_eq_ok.mpr ⟨c.der, hparams ▸ selfSigned_params hc e, rfl⟩

/-- The mock report of server A is the one signed with the mock key. -/
theorem signMockReport_serverA :
    (Mock.signMockReport (Crates.sha256 ServerKey.a.spki) (Vector.replicate 48 0)).raw
      = signedReport .a zeroMeasurement mockSignatureA := by
  rw [sha256_spki, Mock.signMockReport_eq, ← zeroMeasurement, Mock.mockSignature_serverA]
  rfl

/-- The chip's report comes from the device as it is. -/
def chipDevice : SnpGuest :=
  answering (overwrite (Vector.replicate 4000 0) 0
    (signedReport .a amdMeasurement vcekSignatureA) report_fits)

theorem getSnpReport_chipDevice (userData : Vector UInt8 64) :
    getSnpReport chipDevice userData = .ok (signedReport .a amdMeasurement vcekSignatureA) :=
  getSnpReport_eq_ok.mpr ⟨_, responds_answering _ _, (window_overwrite_self _ _ _).symm⟩

/-- KDS with the genuine chain. -/
def referenceKds : Http where
  build := .ok ()
  get _ := .ok { status := 200, statusError := "", bytes := .ok vcek.der,
                 text := .ok (pemText [ask.der, ark.der]) }

theorem genuineEvidence_serverA :
    GenuineEvidence referenceKds (signedReport .a amdMeasurement vcekSignatureA) "Genoa"
      ServerKey.a.spki := by
  refine ⟨Verify.bound_signedReport _ _ _, vcek.der, ask.der, ark.der, [], _, vcek.parsed,
    ask.parsed, ark.parsed, vcek.point, vcekSignatureA, ⟨rfl, ⟨_, rfl, rfl, rfl⟩, _, rfl, rfl, rfl⟩,
    isBundle_pemText base64Documented _, certificateFromDer_amd vcek_mem,
    certificateFromDer_amd ask_mem, certificateFromDer_amd ark_mem, ?_,
    Verify.hasSignature_signedReport _ _ _, ?_⟩
  · exact ⟨ask.point, ark.point, AmdCerts.certKey_parsed ark_mem,
      (AmdCerts.signedBy_parsed_iff ark_mem).mpr rfl,
      (AmdCerts.signedBy_parsed_iff ask_mem).mpr rfl, AmdCerts.certKey_parsed ask_mem,
      (AmdCerts.signedBy_parsed_iff vcek_mem).mpr rfl, AmdCerts.certKey_parsed vcek_mem⟩
  · rw [signedRegion_signedReport]
    exact verify_signatureOf signatureOf_vcekA

/-- The sidecar returns server A's token. -/
def referenceSidecar : GpuAttestation.Process where
  run _ _ := .ok { success := true, status := "exit status: 0",
                   stdout := Json.print (Serde.ofMembers [("jwt", Serde.ofString tokenA)]),
                   stderr := "" }

theorem resultOfJson_jwt (jwt : String) :
    GpuAttestation.resultOfJson (Serde.ofMembers [("jwt", Serde.ofString jwt)]) = some jwt := by
  have hnames := Serde.names_map [("jwt", Serde.ofString jwt)]
  rw [Serde.ofMembers, GpuAttestation.resultOfJson, hnames]
  simp [Serde.required, Serde.member]

theorem getGpuJwt_referenceSidecar (hash : Vector UInt8 32) (scriptPath : String) :
    GpuAttestation.getGpuJwt referenceSidecar hash scriptPath = .ok tokenA := by
  have hparse : ∀ j, Crates.jsonFromSlice (Json.print j) = some j := Json.parse_print
  refine GpuAttestation.getGpuJwt_eq_ok.mpr ⟨_, rfl, rfl, ?_⟩
  rw [hparse, Option.bind_some, resultOfJson_jwt]

/-- Server A in each mode, and the clients of the mode. -/
theorem setup_accepted_serverA :
    (∃ setup, buildMockSetup rngA = .ok setup ∧ AcceptedBy .mock false setup) ∧
    (∃ setup, buildAmdSetup chipDevice referenceKds rngA "Genoa" = .ok setup ∧
      AcceptedBy .amdSevSnp false setup) ∧
    ∃ setup, buildAmdGpuSetup chipDevice referenceKds referenceSidecar rngA "Genoa"
        "gpu_attest.py" = .ok setup ∧ AcceptedBy .amdSevSnp true setup := by
  obtain ⟨hmock, hamd, hgpu⟩ := setup_accepted serdeJsonDocumented base64Documented sec1Documented
    signatureFormatDocumented signDocumented rcgenDocumented rustlsDocumented oidParse_attestOidStr
  have hget := getSnpReport_chipDevice (userDataOf (Crates.sha256 ServerKey.a.spki))
  have hfetch : fetchVcekChain referenceKds (signedReport .a amdMeasurement vcekSignatureA) "Genoa"
      = .ok [vcek.der, ask.der, ark.der] :=
    fetchVcekChain_of_answers ⟨rfl, ⟨_, rfl, rfl, rfl⟩, _, rfl, rfl, rfl⟩
      (isBundle_pemText base64Documented _)
  have hmeas := (measurement_signedReport .a amdMeasurement vcekSignatureA).symm
  refine ⟨?_, ?_, ?_⟩
  · obtain ⟨hiff, hacc⟩ := hmock _ _ _ generates_rngA
      ⟨([mockCertA.der], ServerKey.a.pkcs8), zeroMeasurement⟩
    have hsetup := hiff.mpr ⟨by
      rw [signMockReport_serverA]
      exact buildServerCert_serverCert mockCertA_mem rfl _, rfl⟩
    exact ⟨_, hsetup, hacc hsetup⟩
  · obtain ⟨chain, hchain, hsetups⟩ := hamd _ _ _ _ _ _ _ generates_rngA hget
      genuineEvidence_serverA
    obtain rfl := Except.ok.inj (hfetch.symm.trans hchain)
    -- the certificate is the one in the table
    obtain ⟨hiff, hacc⟩ := hsetups ⟨([amdCertA.der], ServerKey.a.pkcs8), amdMeasurement⟩
    have hsetup := hiff.mpr ⟨buildServerCert_serverCert amdCertA_mem rfl _, hmeas⟩
    exact ⟨_, hsetup, hacc hsetup⟩
  · have hjwt := getGpuJwt_referenceSidecar (Crates.sha256 ServerKey.a.spki) "gpu_attest.py"
    have hclaims := GpuVerify.tokenClaims_token .a (by decide : '.' ∉ "c2lnQQ".toList)
    have hnonce : GpuVerify.claimsOf .a
        = ⟨some (GpuVerify.expectedNonce ServerKey.a.spki), some "on", some "H100"⟩ := by
      rw [GpuVerify.expectedNonce_spki]
      rfl
    obtain ⟨chain, hchain, hsetups⟩ := hgpu _ _ _ _ _ _ _ _ _ _ _
      { gpuModel := "H100", ccMode := "on" } generates_rngA hget genuineEvidence_serverA hjwt
      hclaims hnonce (by decide)
    obtain rfl := Except.ok.inj (hfetch.symm.trans hchain)
    obtain ⟨hiff, hacc⟩ := hsetups ⟨([gpuCertA.der], ServerKey.a.pkcs8), amdMeasurement⟩
    have hsetup := hiff.mpr ⟨buildServerCert_serverCert gpuCertA_mem rfl _, hmeas⟩
    exact ⟨_, hsetup, hacc hsetup⟩

end Reference

end Tls
end Sifir
