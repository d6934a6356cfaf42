import Sifir.Client.GpuClaimsTheorems
import Sifir.Client.SessionTheorems
import Sifir.Server.TlsTheorems

/-!
# Who can get a prompt

The evidence a client asks for is no one's secret: the mock key is in the source, in AMD
mode any chain of certificates that is consistent with itself will do, and no one has to
have signed a GPU token. With evidence it has made itself (`selfMade`) any party is accepted
(`accepts_selfMade`), in place of the server (`prompt_taken`).
-/

namespace Sifir
namespace Client

open Lib Machine Results Verifier Windows

section Takeover

variable [Crates] {key : SigningKey} {chain : List Bytes} {hash : Vector UInt8 32}
  {measurement : Vector UInt8 measurementSize} {p : Bytes}

/-! ## Reports -/

/-- The signature of a report that is made with a key. -/
def ownSignature (key : SigningKey) (hash : Vector UInt8 32)
    (measurement : Vector UInt8 measurementSize) : Signature :=
  Crates.sign key (window (Mock.unsignedReport hash measurement) 0 672 signedRegion_fits).toList

/-- A report that is signed with a key as `signMockReport` signs with its own. -/
def ownReport (key : SigningKey) (hash : Vector UInt8 32)
    (measurement : Vector UInt8 measurementSize) : Report :=
  let sigBytes := Crates.signatureToBytes (ownSignature key hash measurement)
  ((Report.new (Mock.unsignedReport hash measurement)).setSigR (window sigBytes 0 48)).setSigS
    (window sigBytes 48 48)

theorem ownReport_mock : ownReport Mock.mockSigningKey hash measurement
    = Mock.signMockReport hash measurement :=
  Mock.signMockReport_eq.symm

theorem window_ownReport {off len : ℕ} (h : off + len ≤ 672) :
    window (ownReport key hash measurement).raw off len (Nat.le_trans h (by decide))
      = window (Mock.unsignedReport hash measurement) off len (Nat.le_trans h (by decide)) :=
  Report.window_setSig _ _ _ h

theorem bound_ownReport : Verify.Bound (ownReport key (Crates.sha256 p) measurement).raw p := by
  unfold Verify.Bound
  rw [window_ownReport (by decide), Mock.keyHash_unsignedReport]

theorem measurement_ownReport :
    window (ownReport key hash measurement).raw 0x90 48 = measurement := by
  rw [window_ownReport (by decide), Mock.measurement_unsignedReport]

/-- The signature fields hold the two halves of the signature. -/
theorem sigFields_ownReport :
    (window (ownReport key hash measurement).raw 0x2A0 48).toList
        ++ (window (ownReport key hash measurement).raw 0x2E8 48).toList
      = (Crates.signatureToBytes (ownSignature key hash measurement)).toList := by
  have hr : window (ownReport key hash measurement).raw 0x2A0 48
      = window (Crates.signatureToBytes (ownSignature key hash measurement)) 0 48 :=
    Report.sigR_setSig _ _ _
  have hs : window (ownReport key hash measurement).raw 0x2E8 48
      = window (Crates.signatureToBytes (ownSignature key hash measurement)) 48 48 :=
    Report.sigS_setSig _ _ _
  rw [hr, hs]
  exact toList_window_append (Crates.signatureToBytes (ownSignature key hash measurement)) rfl

theorem hasSignature_ownReport (hfmt : Crates.SignatureFormatDocumented) :
    Verify.HasSignature (ownReport key hash measurement).raw
      (ownSignature key hash measurement) := by
  unfold Verify.HasSignature
  rw [hfmt.signatureTryFrom_iff, sigFields_ownReport, hfmt.signatureToBytes_eq]
  exact Ecdsa.Signature.ofBytes_toBytes p384Order_le _

/-- The report is authentic under every anchor that provides the key. -/
theorem authentic_ownReport (hfmt : Crates.SignatureFormatDocumented)
    (hsign : Crates.SignDocumented) {anchor : AttestationKey}
    (hanchor : Verify.AnchorKey anchor (Crates.verifyingKey key)) :
    Verify.Authentic (ownReport key hash measurement).raw anchor := by
  refine ⟨_, _, hasSignature_ownReport hfmt, hanchor, ?_⟩
  rw [window_ownReport (by decide)]
  exact hsign.verify_sign _ _

/-! ## Tokens -/

/-- The claims a client looks for. -/
def ownClaims (p : Bytes) : Json :=
  Serde.ofMembers [
    ("x-nvidia-attestation-nonce", Serde.ofString (GpuVerify.expectedNonce p)),
    ("x-nvidia-cc-mode", Serde.ofString "on"), ("x-nvidia-gpu-model", Serde.ofString "H100")]

/-- A token with these claims, and an empty header and signature. -/
def ownToken (p : Bytes) : String :=
  String.ofList ('.' :: (Base64.encode .urlSafe false (Crates.jsonToVec (ownClaims p)) ++ ['.']))

theorem ofJson_ownClaims : NvidiaClaims.ofJson (ownClaims p)
    = some ⟨some (GpuVerify.expectedNonce p), some "on", some "H100"⟩ := by
  have hnames := Serde.names_map [
    ("x-nvidia-attestation-nonce", Serde.ofString (GpuVerify.expectedNonce p)),
    ("x-nvidia-cc-mode", Serde.ofString "on"), ("x-nvidia-gpu-model", Serde.ofString "H100")]
  have hnullable : ∀ s, Serde.nullable Serde.string (Serde.ofString s) = some (some s) :=
    fun s => Serde.nullable_ofOption_ofString (some s)
  rw [ownClaims, Serde.ofMembers, NvidiaClaims.ofJson, hnames]
  simp [Serde.optional, Serde.member, hnullable]

theorem segments_ownToken : GpuVerify.Segments (ownToken p) []
    (Base64.encode .urlSafe false (Crates.jsonToVec (ownClaims p))) [] :=
  @GpuVerify.segments_ofList [] (Base64.encode .urlSafe false (Crates.jsonToVec (ownClaims p))) []
    List.not_mem_nil (Reference.dot_notMem_encode _) List.not_mem_nil

theorem verifyGpuJwt_ownToken (hjson : Crates.SerdeJsonDocumented)
    (hb64 : Crates.Base64Documented) (hlower : Crates.LowercaseDocumented) :
    GpuVerify.verifyGpuJwt (ownToken p) p = .ok { gpuModel := "H100", ccMode := "on" } := by
  have hcarries : GpuVerify.Carries (ownToken p)
      ⟨some (GpuVerify.expectedNonce p), some "on", some "H100"⟩ :=
    ⟨[], _, [], _, segments_ownToken, hjson.fromSlice_toVec _,
      GpuVerify.ofJson_eq_some.mp ofJson_ownClaims⟩
  have hon : GpuVerify.IsOn "on" := by decide
  exact GpuVerify.verifyGpuJwt_eq_ok.mpr ⟨_, (GpuVerify.carries_iff hb64).mp hcarries, rfl, rfl,
    (GpuVerify.toLowercase_eq_on hlower).mpr hon, rfl⟩

/-! ## Evidence -/

/-- A key, with a chain in AMD mode, whose reports clients of a mode take for genuine. -/
def Passes (key : SigningKey) (chain : List Bytes) : VerifierMode → Prop
  | .mock => key = Mock.mockSigningKey
  | .amdSevSnp => ∃ vcek ask ark, AmdCerts.ParsesAs chain vcek ask ark ∧
      AmdCerts.Consistent vcek ask ark (Crates.verifyingKey key)

/-- The token of evidence for a client, if it looks for one. -/
def ownGpuJwt (verifier : AttestationVerifier) (p : Bytes) : Option String :=
  if verifier.verifyGpuCc then some (ownToken p) else none

/-- Evidence for a TLS key that is made to the wishes of a client. -/
def selfMade (verifier : AttestationVerifier) (key : SigningKey) (chain : List Bytes)
    (p : Bytes) : AttestationExtension :=
  let raw := (ownReport key (Crates.sha256 p) verifier.expectedMeasurement).raw
  match verifier.mode with
  | .mock => (AttestationExtension.newMock raw).attach (ownGpuJwt verifier p)
  | .amdSevSnp => (AttestationExtension.newAmd raw chain).attach (ownGpuJwt verifier p)

variable {verifier : AttestationVerifier}

theorem built_selfMade : ∃ chain', AttestationExtension.Built (selfMade verifier key chain p)
    (ownReport key (Crates.sha256 p) verifier.expectedMeasurement).raw chain' := by
  unfold selfMade
  split
  · exact ⟨[], .mock _ _⟩
  · exact ⟨chain, .amd _ _ _⟩

/-- The evidence has an anchor for its client, and that provides the key. -/
theorem anchor_selfMade (hb64 : Crates.Base64Documented) (hsec1 : Crates.Sec1Documented)
    (hkey : Passes key chain verifier.mode) :
    ∃ anchor, AnchorOf verifier.mode (selfMade verifier key chain p) anchor ∧
      Verify.AnchorKey anchor (Crates.verifyingKey key) := by
  cases hmode : verifier.mode with
  | mock =>
    rw [hmode] at hkey
    obtain rfl : key = Mock.mockSigningKey := hkey
    refine ⟨.mock, ⟨rfl, ?_⟩, hsec1.fromSec1_toEncodedPoint _ _⟩
    simp only [selfMade, hmode, AttestationExtension.attach_eq]
    rfl
  | amdSevSnp =>
    rw [hmode] at hkey
    have hext : selfMade verifier key chain p = (AttestationExtension.newAmd
        (ownReport key (Crates.sha256 p) verifier.expectedMeasurement).raw chain).attach
          (ownGpuJwt verifier p) := by
      simp only [selfMade, hmode]
    have hchain : (selfMade verifier key chain p).vcekChainDer = .ok chain := by
      rw [hext, AttestationExtension.vcekChainDer_attach]
      exact AttestationExtension.vcekChainDer_newAmd hb64 _ _
    refine ⟨.amd chain, ⟨rfl, ?_, AttestationExtension.vcekChainDer_eq_ok.mp hchain⟩,
      Verify.anchorKey_amd_iff.mpr hkey⟩
    rw [hext, AttestationExtension.attach_eq]
    rfl

theorem gpuAttested_selfMade (hjson : Crates.SerdeJsonDocumented)
    (hb64 : Crates.Base64Documented) (hlower : Crates.LowercaseDocumented)
    (hgpu : verifier.verifyGpuCc = true) : GpuAttested (selfMade verifier key chain p) p := by
  refine ⟨ownToken p, _, ?_, verifyGpuJwt_ownToken hjson hb64 hlower⟩
  have htoken : ownGpuJwt verifier p = some (ownToken p) := if_pos hgpu
  unfold selfMade
  split
  · rw [htoken]
    rfl
  · rw [htoken]
    rfl

section

variable (hjson : Crates.SerdeJsonDocumented) (hb64 : Crates.Base64Documented)
  (hlower : Crates.LowercaseDocumented) (hsec1 : Crates.Sec1Documented)
  (hfmt : Crates.SignatureFormatDocumented) (hsign : Crates.SignDocumented)
  (hrcgen : Crates.RcgenDocumented) (hrustls : Crates.RustlsDocumented)
  (hoid : Crates.oidParse attestOidStr = .ok attestOidArcs)
include hjson hb64 hlower hsec1 hfmt hsign hrcgen hrustls hoid

/-- A certificate with self-made evidence for its key is accepted by the client it is made
for, whatever mode, measurement and GPU check this has. -/
theorem accepts_selfMade (hkey : Passes key chain verifier.mode) {kp : Crates.KeyPair}
    {temp e : Crates.Entropy} {config : Crates.ServerConfig}
    (hp : Tls.extractSpkiDer kp temp = .ok p)
    (hcert : Tls.buildServerCert kp (selfMade verifier key chain p) e = .ok config) :
    ∃ der, Crates.certChain config = [der] ∧ Accepts verifier der := by
  obtain ⟨chain', hbuilt⟩ := @built_selfMade _ key chain p verifier
  obtain ⟨der, hder, hiff⟩ := Tls.accepts_buildServerCert_iff hrcgen hrustls hoid hjson hp hcert
    (hbuilt.decodes hb64).1
  obtain ⟨anchor, hanchor, hprovides⟩ := @anchor_selfMade _ key chain p verifier hb64 hsec1 hkey
  refine ⟨der, hder, (hiff verifier).mpr ⟨anchor, hanchor, ⟨bound_ownReport,
    authentic_ownReport hfmt hsign hprovides, Or.inr measurement_ownReport.symm⟩, ?_⟩⟩
  exact gpuAttested_selfMade hjson hb64 hlower

/-- Wherever a client waits for an answer to its hello, a party that is no server can get
its prompt, whatever mode, measurement and GPU check the client was started with: with a
TLS key and a share of its own, evidence it has made itself, and its own signature of the
handshake. -/
theorem prompt_taken {π : Type} {stack : Stack} {args : ℕ → Args} {events : List (Event π)}
    {n : ℕ} {hello : ClientHello}
    (hphase : ((runClients stack args events).1 n).phase = .greeting verifier hello)
    (hkey : Passes key chain verifier.mode) {kp : Crates.KeyPair} {temp e : Crates.Entropy}
    {config : Crates.ServerConfig} (hp : Tls.extractSpkiDer kp temp = .ok p)
    (hcert : Tls.buildServerCert kp (selfMade verifier key chain p) e = .ok config)
    {f : ServerFlight} (hcerts : f.endEntity :: f.intermediates = Crates.certChain config)
    (hsig : f.checkSignature stack hello = .ok .assertion) (serverName : String) (now : ℕ) :
    entriesOf n (runClients stack args (events ++ [.client n (.flight f serverName now)])).2
      = [.hello hello, .request f.share (requestUrl (args n)) (requestBody (args n))] := by
  obtain ⟨der, hder, hacc⟩ := accepts_selfMade hjson hb64 hlower hsec1 hfmt hsign hrcgen hrustls
    hoid hkey hp hcert
  rw [hder, List.cons.injEq] at hcerts
  rw [← hcerts.1] at hacc
  have hshake : handshake stack verifier serverName now hello f = .ok () :=
    handshake_eq_ok.mpr ⟨verifyServerCert_of_accepts hacc _ _ _ _, hsig⟩
  obtain ⟨hargs, hreached⟩ := reached_runClients stack args events n
  have hsession : (runClients stack args events).1 n = ⟨args n, .greeting verifier hello⟩ := by
    rw [← hargs, ← hphase]
  rw [runClients_concat, hsession, step_flight hshake]
  rw [hphase] at hreached
  generalize entriesOf n (runClients stack args events).2 = out at hreached
  cases hreached with
  | greeting hconf hstart => rfl

end

end Takeover

section Reference

open Reference

attribute [local instance] crates

/-! ## A party without a server -/

theorem buildServerCert_selfMade_mock : Tls.buildServerCert ServerKey.a
    (selfMade ⟨zeroMeasurement, .mock, false⟩ Mock.mockSigningKey [] ServerKey.a.spki) ServerKey.a
      = .ok ([mockCertA.der], ServerKey.a.pkcs8) := by
  have hext : selfMade ⟨zeroMeasurement, .mock, false⟩ Mock.mockSigningKey [] ServerKey.a.spki
      = mockExtension .a mockSignatureA none := by
    show AttestationExtension.newMock
      (ownReport Mock.mockSigningKey (Crates.sha256 ServerKey.a.spki) zeroMeasurement).raw = _
    rw [ownReport_mock, zeroMeasurement, Tls.signMockReport_serverA]
    rfl
  rw [hext]
  exact Tls.buildServerCert_serverCert mockCertA_mem rfl _

/-- Three copies of the mock key's own certificate. -/
def mockChain : List Bytes := [mockRoot.der, mockRoot.der, mockRoot.der]

theorem passes_mockChain : Passes Mock.mockSigningKey mockChain .amdSevSnp := by
  have hmock : Crates.verifyingKey Mock.mockSigningKey = mockRoot.point := verifyingKey_mock
  have hchain : Verify.AnchorKey (.amd mockChain) mockRoot.point :=
    AmdCerts.vcekVerifyingKey_selfSigned (certificateFromDer_amd mockRoot_mem)
      (AmdCerts.certKey_parsed mockRoot_mem) ((AmdCerts.signedBy_parsed_iff mockRoot_mem).mpr rfl)
  rw [← hmock] at hchain
  exact Verify.anchorKey_amd_iff.mp hchain

theorem ownReport_serverB :
    (ownReport Mock.mockSigningKey (Crates.sha256 ServerKey.b.spki) amdMeasurement).raw
      = signedReport .b amdMeasurement selfMadeSignature := by
  have hsignature : ownSignature Mock.mockSigningKey ServerKey.b.hash amdMeasurement
      = selfMadeSignature := (sign_mock _).trans signatureOf_selfMade
  rw [sha256_spki, ownReport, hsignature]
  rfl

theorem ownToken_serverB : ownToken ServerKey.b.spki = unsignedToken .b := by
  have hclaims : ownClaims ServerKey.b.spki = tokenJson .b := by
    rw [ownClaims, GpuVerify.expectedNonce_spki]
    rfl
  rw [ownToken, hclaims]
  rfl

theorem buildServerCert_selfMade_amd : Tls.buildServerCert ServerKey.b
    (selfMade gpuClient Mock.mockSigningKey mockChain ServerKey.b.spki) ServerKey.b
      = .ok ([selfMadeCertB.der], ServerKey.b.pkcs8) := by
  have hext : selfMade gpuClient Mock.mockSigningKey mockChain ServerKey.b.spki
      = selfMadeExtension := by
    show (AttestationExtension.newAmd
      (ownReport Mock.mockSigningKey (Crates.sha256 ServerKey.b.spki) amdMeasurement).raw
        mockChain).attach (some (ownToken ServerKey.b.spki)) = _
    rw [ownReport_serverB, ownToken_serverB]
    rfl
  rw [hext]
  exact Tls.buildServerCert_serverCert selfMadeCertB_mem rfl _

theorem extractSpkiDer_serverB : Tls.extractSpkiDer ServerKey.b ServerKey.b
    = .ok ServerKey.b.spki :=
  Tls.extractSpkiDer_eq_ok.mpr ⟨_, _, selfSigned_params tempB_mem ServerKey.b,
    certificateFromDer_server tempB_mem, rfl⟩

/-- A session of a reference client that has sent its hello. -/
theorem phase_greeting {args : Args} {verifier : AttestationVerifier}
    (hconf : configure args = .ok verifier) :
    ((runClients referenceStack (fun _ => args)
      ([.client 0 (.started (.ok ()) sampleHello)] : List (Event Empty))).1 0).phase
        = .greeting verifier sampleHello := by
  have hevents : entriesOf 0 (([.client 0 (.started (.ok ()) sampleHello)] :
      List (Event Empty)).filterMap Event.ofClient) = [.started (.ok ()) sampleHello] := rfl
  rw [(runClients_session _ _ _ 0).1, hevents, run_cons, step_started hconf, run_nil]

/-- A party with key A and the mock key gets the prompt of a client in mock mode, and one
with key B and the mock key that of a client in AMD mode that expects the measurement of a
chip and checks the GPU. -/
theorem prompt_taken_sample :
    entriesOf 0 (runClients referenceStack (fun _ => sampleArgs)
        ([.client 0 (.started (.ok ()) sampleHello)] ++
          [Event.client 0 (.flight (sampleFlight mockCertA) "127.0.0.1" 0)] : List (Event Empty))).2
      = [.hello sampleHello, .request (sampleFlight mockCertA).share (requestUrl sampleArgs)
          (requestBody sampleArgs)] ∧
    entriesOf 0 (runClients referenceStack (fun _ => gpuClientArgs)
        ([.client 0 (.started (.ok ()) sampleHello)] ++
          [Event.client 0 (.flight selfMadeFlight "127.0.0.1" 0)] : List (Event Empty))).2
      = [.hello sampleHello, .request selfMadeFlight.share (requestUrl gpuClientArgs)
          (requestBody gpuClientArgs)] := by
  have hcerts : (sampleFlight mockCertA).endEntity :: (sampleFlight mockCertA).intermediates
      = Crates.certChain (([mockCertA.der], ServerKey.a.pkcs8) : List Bytes × Bytes) := by
    rw [endEntity_sampleFlight]
    rfl
  have hcerts' : selfMadeFlight.endEntity :: selfMadeFlight.intermediates
      = Crates.certChain (([selfMadeCertB.der], ServerKey.b.pkcs8) : List Bytes × Bytes) := by
    rw [endEntity_selfMadeFlight]
    rfl
  constructor
  · exact prompt_taken serdeJsonDocumented base64Documented lowercaseDocumented sec1Documented
      signatureFormatDocumented signDocumented rcgenDocumented rustlsDocumented
      oidParse_attestOidStr (phase_greeting configure_sampleArgs) rfl Tls.generates_rngA.2
      buildServerCert_selfMade_mock hcerts (checkSignature_sampleFlight (Or.inl rfl)) "127.0.0.1" 0
  · exact prompt_taken serdeJsonDocumented base64Documented lowercaseDocumented sec1Documented
      signatureFormatDocumented signDocumented rcgenDocumented rustlsDocumented
      oidParse_attestOidStr (phase_greeting configure_gpuClientArgs) passes_mockChain
      extractSpkiDer_serverB buildServerCert_selfMade_amd hcerts' checkSignature_selfMadeFlight
      "127.0.0.1" 0

end Reference

end Client
end Sifir
