import Sifir.Attest.VerifyTheorems
import Sifir.Client.Main
import Sifir.Reference
import Sifir.Server.Main

/-!
# The client

What becomes of `--expected-measurement`. The client goes on with a measurement only if
the argument, trimmed, is its hexadecimal text (`configure_eq_ok`), and stops before it
connects otherwise (`main_of_configure_error`); so the measurement check is off only for
96 zeros, and the text a server prints selects the reports with its measurement
(`measurement_disabled_on_purpose`).
-/

namespace Sifir
namespace Client

open Lib Results Windows

/-! ## Measurements -/

/-- The text is 96 hexadecimal digits, of either case, that spell a measurement. -/
def Spells (text : List Char) (measurement : Vector UInt8 measurementSize) : Prop :=
  text.length = 96 ∧ (∀ c ∈ text, Hex.isDigit c = true) ∧
    Hex.decode text = some measurement.toList

theorem spells_iff {text : List Char} {measurement : Vector UInt8 measurementSize} :
    Spells text measurement ↔ Hex.decode text = some measurement.toList := by
  refine ⟨fun h => h.2.2, fun h => ?_⟩
  obtain ⟨hlen, hdigits⟩ := Hex.of_decode h
  refine ⟨?_, hdigits, h⟩
  rw [hlen, Vector.length_toList]
  rfl

/-- The digits of a measurement stand as they are when they are trimmed. -/
theorem trim_encode (b : Bytes) : Text.trim (Hex.encode b) = Hex.encode b := by
  apply Text.trim_of_forall
  exact Hex.forall_mem_encode (by decide) b

/-- Only 96 zeros spell the measurement of zeros. -/
theorem spells_zero_iff {text : List Char} {measurement : Vector UInt8 measurementSize}
    (h : Hex.decode text = some measurement.toList) :
    measurement = Vector.replicate measurementSize 0 ↔ text = List.replicate 96 '0' := by
  have hzero : Hex.decode text = some (List.replicate 48 0) ↔ text = List.replicate (2 * 48) '0' :=
    Hex.decode_eq_replicate_zero
  rw [← hzero, h, Option.some.injEq, ← Vector.toList_inj, Vector.toList_replicate]

section Program

variable [Crates]

/-! ## Parsing -/

theorem parseMeasurement_eq_ok (hhex : Crates.HexDocumented) {s : String}
    {measurement : Vector UInt8 measurementSize} :
    parseMeasurement s = .ok measurement
      ↔ Hex.decode (Text.trim s.toList) = some measurement.toList := by
  simp only [parseMeasurement, measurementBytes, bind_eq_ok, mapError_eq_ok, hhex.decode_iff,
    String.toList_ofList]
  refine ⟨?_, fun h => ?_⟩
  · rintro ⟨bytes, hbytes, h⟩
    by_cases hlen : bytes.length = measurementSize
    · rw [dif_pos hlen, pure_eq_ok_iff, overwrite_whole] at h
      rw [← h, hbytes]
      simp
    · rw [dif_neg hlen] at h
      cases h
  · refine ⟨measurement.toList, h, ?_⟩
    rw [dif_pos (by simp), pure_eq_ok_iff, overwrite_whole, Vector.mk_eq]
    exact Array.toArray_toList

/-- The verifier the client goes on with. -/
theorem configure_eq_ok (hhex : Crates.HexDocumented) {args : Args}
    {verifier : AttestationVerifier} :
    configure args = .ok verifier ↔
      Spells (Text.trim args.expectedMeasurement.toList) verifier.expectedMeasurement ∧
        verifier.mode = (if args.amd then .amdSevSnp else .mock) ∧
        verifier.verifyGpuCc = args.gpuCc := by
  obtain ⟨expected, mode, gpuCc⟩ := verifier
  simp only [configure, bind_eq_ok, parseMeasurement_eq_ok hhex, pure_eq_ok_iff,
    AttestationVerifier.mk.injEq, spells_iff]
  refine ⟨?_, ?_⟩
  · rintro ⟨measurement, hdecode, rfl, rfl, rfl⟩
    exact ⟨hdecode, rfl, rfl⟩
  · rintro ⟨hdecode, rfl, rfl⟩
    exact ⟨expected, hdecode, rfl, rfl, rfl⟩

/-- Without a verifier the client stops, whatever it would connect to. -/
theorem main_of_configure_error {args : Args} {e : AnyhowError} (h : configure args = .error e)
    (connect : AttestationVerifier → Except String Request.HttpClient) :
    main connect args = { stderr := [], stdout := [], result := .error e } := by
  rw [main, h]

/-- With one it goes on with the HTTP client that is built for it. -/
theorem main_of_configure_ok {args : Args} {verifier : AttestationVerifier}
    (h : configure args = .ok verifier)
    (connect : AttestationVerifier → Except String Request.HttpClient) :
    main connect args = match connect verifier with
      | .error e => unbuilt verifier e
      | .ok client => report args verifier client.printed
          (Request.generate client s!"https://{args.server}" args.prompt args.maxTokens) := by
  simp only [main, h]
  rcases exists_error_or_exists_ok (connect verifier) with ⟨e, he⟩ | ⟨client, hclient⟩
  · simp only [he, unbuilt]
  · simp only [hclient, report]
    rcases exists_error_or_exists_ok (Request.generate client s!"https://{args.server}" args.prompt
      args.maxTokens) with ⟨e, he⟩ | ⟨resp, hresp⟩
    · rw [he]
      rfl
    · rw [hresp]
      rfl

/-- The client connects with its verifier only. -/
theorem main_congr {args : Args} {verifier : AttestationVerifier}
    (h : configure args = .ok verifier)
    {connect connect' : AttestationVerifier → Except String Request.HttpClient}
    (hsame : connect verifier = connect' verifier) : main connect args = main connect' args := by
  rw [main_of_configure_ok h, main_of_configure_ok h, hsame]

/-! ## The check -/

/-- The check passes every report only when nothing is expected. -/
theorem forall_verifyMeasurement_iff {expected : Vector UInt8 measurementSize} :
    (∀ raw, Verify.verifyMeasurement (Report.new raw) expected = .ok ())
      ↔ expected = Vector.replicate measurementSize 0 := by
  refine ⟨fun h => ?_, fun h raw => Verify.verifyMeasurement_eq_ok.mpr (Or.inl h)⟩
  -- the report of zeros has the measurement of zeros
  have hdefault : window Report.default.asBytes 0x90 48 measurement_fits
      = Vector.replicate measurementSize 0 := Report.window_default measurement_fits
  rcases Verify.verifyMeasurement_eq_ok.mp (h Report.default.asBytes) with hzero | hmeasurement
  · exact hzero
  · rw [hmeasurement, hdefault]

/-- The text a server prints for a report is read as the measurement of the report. -/
theorem configure_printed (hhex : Crates.HexDocumented) {args : Args}
    {raw : Vector UInt8 reportSize}
    (h : args.expectedMeasurement = Crates.hexEncode (Tls.extractMeasurement raw).toList) :
    ∃ verifier, configure args = .ok verifier ∧
      verifier.expectedMeasurement = (Report.new raw).measurement := by
  refine ⟨⟨_, if args.amd then .amdSevSnp else .mock, args.gpuCc⟩,
    (configure_eq_ok hhex).mpr ⟨?_, rfl, rfl⟩, rfl⟩
  rw [spells_iff, h, hhex.encode_eq, String.toList_ofList, trim_encode]
  exact Hex.decode_encode _

/-- For every argument: the client stops with an error before it connects, or connects
with a verifier whose measurement the argument, trimmed, spells in 96 digits, and with no
other; so the check is off exactly for 96 zeros. The text a server prints for a report
selects the reports with its measurement, or all when that is zero. -/
theorem measurement_disabled_on_purpose (hhex : Crates.HexDocumented) (args : Args) :
    ((∃ e, ∀ connect, main connect args = { stderr := [], stdout := [], result := .error e }) ∨
      ∃ verifier, configure args = .ok verifier ∧
        Spells (Text.trim args.expectedMeasurement.toList) verifier.expectedMeasurement ∧
        (∀ connect, main connect args = match connect verifier with
          | .error e => unbuilt verifier e
          | .ok client => report args verifier client.printed
              (Request.generate client s!"https://{args.server}" args.prompt args.maxTokens)) ∧
        ∀ connect connect', connect verifier = connect' verifier →
          main connect args = main connect' args) ∧
    (∀ verifier, configure args = .ok verifier →
      (verifier.expectedMeasurement = Vector.replicate measurementSize 0 ↔
        Text.trim args.expectedMeasurement.toList = List.replicate 96 '0') ∧
      ((∀ raw, Verify.verifyMeasurement (Report.new raw) verifier.expectedMeasurement = .ok ()) ↔
        Text.trim args.expectedMeasurement.toList = List.replicate 96 '0')) ∧
    (∀ raw raw',
      args.expectedMeasurement = Crates.hexEncode (Tls.extractMeasurement raw).toList →
      ∃ verifier, configure args = .ok verifier ∧
        (Verify.verifyMeasurement (Report.new raw') verifier.expectedMeasurement = .ok () ↔
          (Report.new raw').measurement = (Report.new raw).measurement ∨
          (Report.new raw).measurement = Vector.replicate measurementSize 0)) := by
  refine ⟨?_, fun verifier hverifier => ?_, fun raw raw' hprinted => ?_⟩
  · rcases exists_error_or_exists_ok (configure args) with ⟨e, he⟩ | ⟨verifier, hverifier⟩
    · exact Or.inl ⟨e, main_of_configure_error he⟩
    · exact Or.inr ⟨verifier, hverifier, ((configure_eq_ok hhex).mp hverifier).1,
        main_of_configure_ok hverifier, fun _ _ => main_congr hverifier⟩
  · have hspells := ((configure_eq_ok hhex).mp hverifier).1
    have hzero := spells_zero_iff (spells_iff.mp hspells)
    exact ⟨hzero, forall_verifyMeasurement_iff.trans hzero⟩
  · obtain ⟨verifier, hverifier, hexpected⟩ := configure_printed hhex hprinted
    refine ⟨verifier, hverifier, ?_⟩
    have hfield : (Report.new raw').measurement = window raw' 0x90 48 := rfl
    rw [Verify.verifyMeasurement_eq_ok, Verify.MeasurementAccepted, hexpected, hfield, or_comm,
      eq_comm]

end Program

section Reference

open Reference

attribute [local instance] crates

/-- The arguments with the text printed for the chip's report. -/
def chipArgs : Args where
  server := "127.0.0.1:7443"
  expectedMeasurement := hexText amdMeasurement.toList
  amd := true
  prompt := "hello"

/-- The chip's report, and a report of zeros, against the chip's measurement. -/
theorem measurement_disabled_on_purpose_chip :
    ∃ verifier, configure chipArgs = .ok verifier ∧
      Verify.verifyMeasurement (Report.new (signedReport .a amdMeasurement vcekSignatureA))
        verifier.expectedMeasurement = .ok () ∧
      ∃ e, Verify.verifyMeasurement (Report.new (signedReport .a zeroMeasurement mockSignatureA))
        verifier.expectedMeasurement = .error e := by
  have hchip : (Report.new (signedReport .a amdMeasurement vcekSignatureA)).measurement
      = amdMeasurement := measurement_signedReport _ _ _
  have hmock : (Report.new (signedReport .a zeroMeasurement mockSignatureA)).measurement
      = zeroMeasurement := measurement_signedReport _ _ _
  have hne : zeroMeasurement ≠ amdMeasurement := by decide
  have hprinted : chipArgs.expectedMeasurement = Crates.hexEncode
      (Tls.extractMeasurement (signedReport .a amdMeasurement vcekSignatureA)).toList :=
    congrArg (fun m : Vector UInt8 48 => hexText m.toList) hchip.symm
  have hclient := (measurement_disabled_on_purpose hexDocumented chipArgs).2.2
    (signedReport .a amdMeasurement vcekSignatureA)
  obtain ⟨verifier, hverifier, hchipReport⟩ := hclient _ hprinted
  obtain ⟨verifier', hverifier', hmockReport⟩ :=
    hclient (signedReport .a zeroMeasurement mockSignatureA) hprinted
  obtain rfl := Except.ok.inj (hverifier.symm.trans hverifier')
  refine ⟨verifier, hverifier, hchipReport.mpr (Or.inl rfl), ?_⟩
  rw [← not_ok_iff]
  rintro ⟨_, hok⟩
  rcases hmockReport.mp hok with hsame | hzero
  · exact hne (hmock.symm.trans (hsame.trans hchip))
  · exact hne (hzero.symm.trans hchip)

end Reference

end Client
end Sifir
