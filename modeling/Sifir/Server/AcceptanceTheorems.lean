import Sifir.Server.MainTheorems
import Sifir.Server.SidecarTheorems

/-!
# Which clients accept a started server

A server is started with its arguments and with whatever its device, AMD's service and
the sidecar answer; a client is started with its own arguments. `accepts_start_iff` says
for every such pair whether the handshake goes through.
-/

namespace Sifir
namespace Server

open Lib Results Windows AmdAttestation Verifier Tls

section

variable [Crates] (dev : SnpGuest) (http : Http) (process : GpuAttestation.Process)

/-! ## The two sides -/

/-- The report the device gave for a key is bound to it, and the chain that was fetched
for it authenticates it. -/
def ReportVerifies (product : String) (p : Bytes) : Prop :=
  ∃ raw chain, getSnpReport dev (userDataOf (Crates.sha256 p)) = .ok raw ∧
    fetchVcekChain http raw product = .ok chain ∧
    Verify.Bound raw p ∧ Verify.Authentic raw (.amd chain)

/-- A client is of the mode of the setup, and what else it checks is there. -/
def SetupKind.Suits (p : Bytes) (self : AttestationVerifier) : SetupKind → Prop
  | .mock => self.mode = .mock ∧ self.verifyGpuCc = false
  | .amd product =>
    self.mode = .amdSevSnp ∧ self.verifyGpuCc = false ∧ ReportVerifies dev http product p
  | .amdGpu product script =>
    self.mode = .amdSevSnp ∧ ReportVerifies dev http product p ∧
      (self.verifyGpuCc = true → ∃ jwt c,
        GpuAttestation.getGpuJwt process (Crates.sha256 p) script = .ok jwt ∧
        GpuVerify.verifyGpuJwt jwt p = .ok c)

/-- The clients that accept a certificate are those that suit the setup, and expect its
measurement or none. -/
def SetupKind.AcceptedExactly (kind : SetupKind) (p : Bytes) (setup : TlsSetup) : Prop :=
  ∃ der, Crates.certChain setup.serverConfig = [der] ∧
    ∀ self : AttestationVerifier, Accepts self der ↔ kind.Suits dev http process p self ∧
      (self.expectedMeasurement = Vector.replicate 48 0 ∨
        self.expectedMeasurement = setup.measurement)

variable {dev http process} {rng : Randomness} {setup : TlsSetup}

theorem anchorOf_newMock_iff {mode : VerifierMode} {raw : Vector UInt8 reportSize}
    {key : AttestationKey} :
    AnchorOf mode (AttestationExtension.newMock raw) key ↔ mode = .mock ∧ key = .mock := by
  cases key with
  | mock => simp [AnchorOf, AttestationExtension.newMock]
  | amd chain => simp [AnchorOf, AttestationExtension.newMock]

/-- Only clients of AMD mode have an anchor for an extension with an AMD chain. -/
theorem anchorOf_iff_of_amd {mode : VerifierMode} {ext : AttestationExtension}
    {chain : List Bytes} {key : AttestationKey} (hext : ext.mode = .amdSevSnp)
    (hchain : ext.vcekChainDer = .ok chain) :
    AnchorOf mode ext key ↔ mode = .amdSevSnp ∧ key = .amd chain := by
  by_cases hmode : mode = .amdSevSnp
  · rw [hmode, anchorOf_amd_iff hext hchain]
    exact (and_iff_right rfl).symm
  · refine iff_of_false ?_ fun h => hmode h.1
    cases key with
    | mock =>
      intro h
      rw [h.2] at hext
      cases hext
    | amd chain' => exact fun h => hmode h.1

/-- With the report and the chain at hand, what is left is to check them. -/
theorem reportVerifies_iff {product : String} {p : Bytes} {raw : Vector UInt8 reportSize}
    {chain : List Bytes} (hraw : getSnpReport dev (userDataOf (Crates.sha256 p)) = .ok raw)
    (hchain : fetchVcekChain http raw product = .ok chain) :
    ReportVerifies dev http product p ↔ Verify.Bound raw p ∧ Verify.Authentic raw (.amd chain) := by
  constructor
  · intro h
    rcases h with ⟨raw', chain', hraw', hchain', hverifies⟩
    obtain rfl := Except.ok.inj (hraw.symm.trans hraw')
    obtain rfl := Except.ok.inj (hchain.symm.trans hchain')
    exact hverifies
  · intro h
    exact ⟨raw, chain, hraw, hchain, h⟩

theorem not_gpuAttested_of_none {ext : AttestationExtension} {p : Bytes} (h : ext.gpuJwt = none) :
    ¬ GpuAttested ext p := by
  rintro ⟨jwt, c, hjwt, -⟩
  rw [h] at hjwt
  cases hjwt

section

variable (hjson : Crates.SerdeJsonDocumented) (hb64 : Crates.Base64Documented)
  (hrcgen : Crates.RcgenDocumented) (hrustls : Crates.RustlsDocumented)
  (hoid : Crates.oidParse attestOidStr = .ok attestOidArcs)
include hjson hb64 hrcgen hrustls hoid

theorem acceptedExactly_mock (hsec1 : Crates.Sec1Documented)
    (hfmt : Crates.SignatureFormatDocumented) (hsign : Crates.SignDocumented)
    (h : buildMockSetup rng = .ok setup) :
    ∃ kp p, Generates rng kp p ∧ SetupKind.mock.AcceptedExactly dev http process p setup := by
  obtain ⟨kp, p, hgen, hcert, hmeas⟩ := buildMockSetup_eq_ok.mp h
  obtain ⟨der, hder, hacc⟩ := accepts_buildServerCert_iff hrcgen hrustls hoid hjson hgen.2 hcert
    (AttestationExtension.reportBytes_newMock hb64 _)
  refine ⟨kp, p, hgen, der, hder, fun self => (hacc self).trans ?_⟩
  have hfield : window (Mock.signMockReport (Crates.sha256 p) (Vector.replicate 48 0)).raw 0x90 48
      = setup.measurement := Mock.measurement_signMockReport.trans hmeas.symm
  have hnone : ¬ GpuAttested (AttestationExtension.newMock
      (Mock.signMockReport (Crates.sha256 p) (Vector.replicate 48 0)).raw) p :=
    not_gpuAttested_of_none rfl
  simp only [anchorOf_newMock_iff, SetupKind.Suits, hnone, imp_false, Bool.not_eq_true]
  constructor
  · intro hparts
    rcases hparts with ⟨key, ⟨hmode, -⟩, ⟨-, -, hexp⟩, hgpu⟩
    rw [Verify.MeasurementAccepted, hfield] at hexp
    exact ⟨⟨hmode, hgpu⟩, hexp⟩
  · intro hparts
    rcases hparts with ⟨⟨hmode, hgpu⟩, hexp⟩
    rw [← hfield] at hexp
    exact ⟨.mock, ⟨hmode, rfl⟩, ⟨Mock.bound_signMockReport,
      Mock.authentic_signMockReport hsec1 hfmt hsign, hexp⟩, hgpu⟩

theorem acceptedExactly_amd {product : String}
    (h : buildAmdSetup dev http rng product = .ok setup) :
    ∃ kp p, Generates rng kp p ∧
      (SetupKind.amd product).AcceptedExactly dev http process p setup := by
  obtain ⟨kp, p, raw, chain, hgen, hraw, hchain, hcert, hmeas⟩ := buildAmdSetup_eq_ok.mp h
  obtain ⟨der, hder, hacc⟩ := accepts_buildServerCert_iff hrcgen hrustls hoid hjson hgen.2 hcert
    (AttestationExtension.reportBytes_newAmd hb64 raw chain)
  refine ⟨kp, p, hgen, der, hder, fun self => (hacc self).trans ?_⟩
  have hnone : ¬ GpuAttested (AttestationExtension.newAmd raw chain) p :=
    not_gpuAttested_of_none rfl
  have hanchor := fun mode key => @anchorOf_iff_of_amd _ mode _ chain key rfl
    (AttestationExtension.vcekChainDer_newAmd hb64 raw chain)
  simp only [hanchor, SetupKind.Suits, hnone, imp_false, Bool.not_eq_true,
    reportVerifies_iff hraw hchain, Verify.MeasurementAccepted, hmeas]
  constructor
  · intro hparts
    rcases hparts with ⟨key, ⟨hmode, rfl⟩, ⟨hbound, hauth, hexp⟩, hgpu⟩
    exact ⟨⟨hmode, hgpu, hbound, hauth⟩, hexp⟩
  · intro hparts
    rcases hparts with ⟨⟨hmode, hgpu, hbound, hauth⟩, hexp⟩
    exact ⟨_, ⟨hmode, rfl⟩, ⟨hbound, hauth, hexp⟩, hgpu⟩

theorem acceptedExactly_amdGpu {product script : String}
    (h : buildAmdGpuSetup dev http process rng product script = .ok setup) :
    ∃ kp p, Generates rng kp p ∧
      (SetupKind.amdGpu product script).AcceptedExactly dev http process p setup := by
  obtain ⟨kp, p, raw, chain, jwt, hgen, hraw, hchain, hjwt, hcert, hmeas⟩ :=
    buildAmdGpuSetup_eq_ok.mp h
  obtain ⟨der, hder, hacc⟩ := accepts_buildServerCert_iff hrcgen hrustls hoid hjson hgen.2 hcert
    (AttestationExtension.reportBytes_newAmd hb64 raw chain)
  refine ⟨kp, p, hgen, der, hder, fun self => (hacc self).trans ?_⟩
  have htoken : GpuAttested ((AttestationExtension.newAmd raw chain).withGpuJwt jwt) p ↔
      ∃ jwt' c, GpuAttestation.getGpuJwt process (Crates.sha256 p) script = .ok jwt' ∧
        GpuVerify.verifyGpuJwt jwt' p = .ok c := by
    rw [hjwt]
    constructor
    · intro hatt
      rcases hatt with ⟨jwt', c, hsome, hc⟩
      exact ⟨jwt', c, congrArg Except.ok (Option.some.inj hsome), hc⟩
    · intro hatt
      rcases hatt with ⟨jwt', c, hok, hc⟩
      exact ⟨jwt', c, congrArg some (Except.ok.inj hok), hc⟩
  have hanchor := fun mode key => @anchorOf_iff_of_amd _ mode
    ((AttestationExtension.newAmd raw chain).withGpuJwt jwt) chain key rfl
    (AttestationExtension.vcekChainDer_newAmd hb64 raw chain)
  simp only [hanchor, SetupKind.Suits, htoken, reportVerifies_iff hraw hchain,
    Verify.MeasurementAccepted, hmeas]
  constructor
  · intro hparts
    rcases hparts with ⟨key, ⟨hmode, rfl⟩, ⟨hbound, hauth, hexp⟩, hgpu⟩
    exact ⟨⟨hmode, ⟨hbound, hauth⟩, hgpu⟩, hexp⟩
  · intro hparts
    rcases hparts with ⟨⟨hmode, ⟨hbound, hauth⟩, hgpu⟩, hexp⟩
    exact ⟨_, ⟨hmode, rfl⟩, ⟨hbound, hauth, hexp⟩, hgpu⟩

/-! ## Server and client -/

/-- A started server is accepted by exactly the clients of its mode that expect its
measurement or none: without `--amd`, those without a GPU check; with it, all for which
the report and its chain verify and, where they check the GPU, the server was started
with `--gpu-cc` and its token verifies for the key. -/
theorem accepts_start_iff (hsec1 : Crates.Sec1Documented)
    (hfmt : Crates.SignatureFormatDocumented) (hsign : Crates.SignDocumented)
    {features : Features} {args : Args} {state : AppState}
    (h : (start dev http process features rng args).result = .ok (setup, state)) :
    ∃ kind kp p, chooseSetup features args = .ok kind ∧ Generates rng kp p ∧
      kind.AcceptedExactly dev http process p setup := by
  obtain ⟨kind, hkind, hsetup, -⟩ := start_eq_ok.mp h
  have haccepted : ∃ kp p, Generates rng kp p ∧
      kind.AcceptedExactly dev http process p setup := by
    cases kind with
    | mock => exact acceptedExactly_mock hjson hb64 hrcgen hrustls hoid hsec1 hfmt hsign hsetup
    | amd product => exact acceptedExactly_amd hjson hb64 hrcgen hrustls hoid hsetup
    | amdGpu product script =>
      exact acceptedExactly_amdGpu hjson hb64 hrcgen hrustls hoid hsetup
  rcases haccepted with ⟨kp, p, hgen, hacc⟩
  exact ⟨kind, kp, p, hkind, hgen, hacc⟩

end

end

end Server
end Sifir
