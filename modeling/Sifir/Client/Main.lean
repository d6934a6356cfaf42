import Sifir.Client.Request
import Sifir.Client.Verifier

/-!
# The client (`sifir-client/src/main.rs`)

The arguments become a certificate verifier, and the prompt is sent over a connection
that is set up with it.
-/

namespace Sifir
namespace Client

open Lib Windows

/-! ## Arguments -/

structure Args where
  server : String
  expectedMeasurement : String :=
    "000000000000000000000000000000000000000000000000000000000000000000000000000000000000000000000000"
  amd : Bool := false
  gpuCc : Bool := false
  maxTokens : UInt32 := 512
  prompt : String
deriving DecidableEq

variable [Crates]

/-- The bytes of `--expected-measurement`, of either length. -/
def measurementBytes (expectedMeasurement : String) : Except AnyhowError Bytes :=
  let measurementHex := String.ofList (Text.trim expectedMeasurement.toList)
  (Crates.hexDecode measurementHex).mapError
    (AnyhowError.wrap "expected_measurement must be a valid hex string")

def parseMeasurement (expectedMeasurement : String) :
    Except AnyhowError (Vector UInt8 measurementSize) := do
  let measurementBytes ← measurementBytes expectedMeasurement
  if h : measurementBytes.length = measurementSize then
    let expected : Vector UInt8 measurementSize := Vector.replicate measurementSize 0
    return overwrite expected 0 ⟨measurementBytes.toArray, by simpa using h⟩ (by simp)
  else
    .error (.msg (s!"expected_measurement must be {measurementSize} bytes " ++
      s!"({measurementSize * 2} hex chars), got {measurementBytes.length} bytes"))

/-- The verifier for the arguments. -/
def configure (args : Args) : Except AnyhowError AttestationVerifier := do
  let expectedMeasurement ← parseMeasurement args.expectedMeasurement
  let mode := if args.amd then VerifierMode.amdSevSnp else VerifierMode.mock
  return { expectedMeasurement, mode, verifyGpuCc := args.gpuCc }

def measurementNotice (expectedMeasurement : Vector UInt8 measurementSize) : String :=
  if expectedMeasurement = Vector.replicate measurementSize 0 then
    "[client] WARNING: measurement check disabled (expected = all-zeros)"
  else
    s!"[client] will verify measurement: {Crates.hexEncode expectedMeasurement.toList}"

/-! ## The program -/

/-- What a run leaves: the lines the program puts on its standard streams, those of the
certificate verifier among them, and its result, which the runtime reports if it is an
error. -/
structure Run where
  stderr : List String
  stdout : List String
  result : Except AnyhowError Unit

/-- `main`; `connect` builds the HTTP client for a certificate verifier. -/
def main (connect : AttestationVerifier → Except String Request.HttpClient) (args : Args) : Run :=
  match configure args with
  | .error e => { stderr := [], stdout := [], result := .error e }
  | .ok verifier =>
    let stderr := [measurementNotice verifier.expectedMeasurement]
    match connect verifier with
    | .error e => { stderr, stdout := [], result := .error (.wrap "build HTTP client" e) }
    | .ok client =>
      let baseUrl := s!"https://{args.server}"
      -- the verifier prints while the request is made
      let stderr := stderr ++ [s!"[client] connecting to {baseUrl}"] ++ client.printed
      match Request.generate client baseUrl args.prompt args.maxTokens with
      | .error e => { stderr, stdout := [], result := .error (e.context "inference request failed") }
      | .ok resp =>
        { stderr := stderr ++ [s!"[client] tokens used: {resp.tokensUsed}"]
          stdout := [resp.text]
          result := .ok () }

/-- The rest of the program without an HTTP client. -/
def unbuilt (verifier : AttestationVerifier) (e : String) : Run where
  stderr := [measurementNotice verifier.expectedMeasurement]
  stdout := []
  result := .error (.wrap "build HTTP client" e)

/-- The rest of the program with one: what its verifier prints, and from the answer on. -/
def report (args : Args) (verifier : AttestationVerifier) (printed : List String)
    (answer : Except AnyhowError Request.GenerateResponse) : Run :=
  let stderr := [measurementNotice verifier.expectedMeasurement,
    s!"[client] connecting to https://{args.server}"] ++ printed
  match answer with
  | .error e => { stderr, stdout := [], result := .error (e.context "inference request failed") }
  | .ok resp =>
    { stderr := stderr ++ [s!"[client] tokens used: {resp.tokensUsed}"]
      stdout := [resp.text]
      result := .ok () }

end Client
end Sifir
