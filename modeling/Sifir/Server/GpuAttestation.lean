import Sifir.Crates
import Sifir.Lib.Results
import Sifir.Lib.Serde

/-!
# GPU attestation of the server (`sifir-server/src/gpu_attestation.rs`)

The token comes from a Python sidecar, which is asked for one with the hash of the
TLS key as its nonce.
-/

namespace Sifir
namespace GpuAttestation

open Lib

/-- What a finished process leaves. -/
structure Output where
  success : Bool
  /-- The exit status as displayed. -/
  status : String
  stdout : Bytes
  /-- The error output, with what is not UTF-8 replaced. -/
  stderr : String

/-- Running a program with arguments. -/
structure Process where
  run : String → List String → Except String Output

/-- The derived `Deserialize` of `GpuAttestResult { jwt }`. -/
def resultOfJson : Json → Option String
  | .obj members => do
    let ms ← Serde.names members
    Serde.required Serde.string ms "jwt"
  | .arr [jwt] => Serde.string jwt
  | _ => none

variable [Crates]

def getGpuJwt (process : Process) (tlsPubkeyHash : Vector UInt8 32) (scriptPath : String) :
    Except AnyhowError String := do
  let nonce := Crates.hexEncode tlsPubkeyHash.toList
  let output ← (process.run "python3" [scriptPath, "--nonce", nonce]).mapError
    (AnyhowError.wrap s!"spawn gpu_attest.py (script_path={scriptPath})")
  if !output.success then
    throw (.msg s!"gpu_attest.py exited with {output.status}: {output.stderr}")
  Results.okOr (.wrap "parse gpu_attest.py JSON output" (Crates.jsonError output.stdout))
    ((Crates.jsonFromSlice output.stdout).bind resultOfJson)

/-- The token is what a run of the sidecar that succeeds prints. -/
theorem getGpuJwt_eq_ok {process : Process} {hash : Vector UInt8 32}
    {scriptPath jwt : String} :
    getGpuJwt process hash scriptPath = .ok jwt ↔ ∃ output,
      process.run "python3" [scriptPath, "--nonce", Crates.hexEncode hash.toList] = .ok output ∧
      output.success = true ∧
      (Crates.jsonFromSlice output.stdout).bind resultOfJson = some jwt := by
  simp only [getGpuJwt, Results.bind_eq_ok, Results.mapError_eq_ok]
  refine exists_congr fun output => and_congr_right fun _ => ?_
  cases hsuccess : output.success with
  | false =>
    simp only [Bool.not_false, if_true, Bool.false_eq_true, false_and, iff_false]
    intro h
    cases h
  | true => simp

end GpuAttestation
end Sifir
