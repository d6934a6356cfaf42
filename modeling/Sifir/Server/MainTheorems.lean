import Sifir.Server.Main
import Sifir.Server.TlsTheorems

/-!
# The server

What a started server has printed: the measurement of the report in its certificate
(`start_prints_measurement`).
-/

namespace Sifir
namespace Server

open Lib Results AmdAttestation

variable [Crates] {features : Features} {dev : SnpGuest} {http : Http}
  {process : GpuAttestation.Process} {rng : Tls.Randomness} {args : Args} {setup : TlsSetup}
  {state : AppState}

/-- A server starts with the setup it has built. -/
theorem start_eq_ok :
    (start dev http process features rng args).result = .ok (setup, state) ↔
      ∃ kind, chooseSetup features args = .ok kind ∧
        kind.build dev http process rng = .ok setup ∧ state = { backendUrl := args.backend } := by
  unfold start
  cases hkind : chooseSetup features args with
  | error e => simp
  | ok kind =>
    cases hsetup : kind.build dev http process rng with
    | error e => simp [hsetup]
    | ok built =>
      simp only [Except.ok.injEq, Prod.mk.injEq, exists_eq_left', hsetup]
      rw [eq_comm (a := state)]

theorem measurementLine_mem_start
    (h : (start dev http process features rng args).result = .ok (setup, state)) :
    measurementLine setup ∈ (start dev http process features rng args).stdout := by
  obtain ⟨kind, hkind, hsetup, -⟩ := start_eq_ok.mp h
  simp [start, hkind, hsetup, readyLines]

/-- A setup has the measurement of zeros, or of a report of the device. -/
theorem measurement_of_build {kind : SetupKind} (h : kind.build dev http process rng = .ok setup) :
    kind = .mock ∧ setup.measurement = Vector.replicate 48 0 ∨
      ∃ userData raw, getSnpReport dev userData = .ok raw ∧
        setup.measurement = Tls.extractMeasurement raw := by
  cases kind with
  | mock =>
    obtain ⟨_, _, _, _, hmeasurement⟩ := Tls.buildMockSetup_eq_ok.mp h
    exact Or.inl ⟨rfl, hmeasurement⟩
  | amd product =>
    obtain ⟨_, _, raw, _, _, hraw, _, _, hmeasurement⟩ := Tls.buildAmdSetup_eq_ok.mp h
    exact Or.inr ⟨_, raw, hraw, hmeasurement⟩
  | amdGpu product script =>
    obtain ⟨_, _, raw, _, _, _, hraw, _, _, _, hmeasurement⟩ := Tls.buildAmdGpuSetup_eq_ok.mp h
    exact Or.inr ⟨_, raw, hraw, hmeasurement⟩

omit [Crates] in
/-- Only without `--amd` is the mock setup chosen. -/
theorem chooseSetup_eq_mock (h : chooseSetup features args = .ok .mock) : args.amd = false := by
  cases hamd : args.amd with
  | false => rfl
  | true =>
    cases hgpu : args.gpuCc with
    | false =>
      simp only [chooseSetup, hamd, hgpu] at h
      split at h
      · cases h
      · cases h
    | true =>
      simp only [chooseSetup, hamd, hgpu] at h
      split at h
      · obtain ⟨script, -, hscript⟩ := bind_eq_ok.mp h
        cases hscript
      · cases h

/-- The server prints the measurement of the report it serves with, or 96 zeros where it
runs without the device. -/
theorem start_prints_measurement
    (h : (start dev http process features rng args).result = .ok (setup, state)) :
    ∃ measurement, "[sifir-server] measurement: " ++ Crates.hexEncode measurement.toList
        ∈ (start dev http process features rng args).stdout ∧
      (args.amd = false ∧ measurement = Vector.replicate 48 0 ∨
        ∃ userData raw, getSnpReport dev userData = .ok raw ∧
          measurement = Tls.extractMeasurement raw) := by
  obtain ⟨kind, hkind, hsetup, -⟩ := start_eq_ok.mp h
  refine ⟨setup.measurement, measurementLine_mem_start h, ?_⟩
  rcases measurement_of_build hsetup with ⟨rfl, hzero⟩ | hreport
  · exact Or.inl ⟨chooseSetup_eq_mock hkind, hzero⟩
  · exact Or.inr hreport

end Server
end Sifir
