import Sifir.Server.Proxy
import Sifir.Server.Tls

/-!
# The server (`sifir-server/src/main.rs`)

The arguments and the features the program is compiled with choose a TLS setup; the
server prints the measurement of its report and answers requests with the gateway.
-/

namespace Sifir
namespace Server

structure Args where
  listen : String := "0.0.0.0:7443"
  backend : Option String := none
  amd : Bool := false
  snpProduct : String := "Milan"
  gpuCc : Bool := false
  gpuAttestScript : Option String := none
deriving DecidableEq

/-- The features of the build. -/
structure Features where
  realAttestation : Bool
  gpuCc : Bool
deriving DecidableEq

structure AppState where
  backendUrl : Option String
deriving DecidableEq

variable [Crates]

/-! ## Start -/

/-- The TLS setups. -/
inductive SetupKind where
  | mock
  | amd (product : String)
  | amdGpu (product script : String)
deriving DecidableEq

omit [Crates] in
/-- The setup for the arguments, if the program is compiled with it. -/
def chooseSetup (features : Features) (args : Args) : Except AnyhowError SetupKind :=
  match args.amd, args.gpuCc with
  | false, _ => .ok .mock
  | true, false =>
    if features.realAttestation then .ok (.amd args.snpProduct)
    else .error (.msg "--amd requires compiling with `--features real-attestation`")
  | true, true =>
    if features.realAttestation && features.gpuCc then do
      let script ← Lib.Results.okOr (.msg "--gpu-cc requires --gpu-attest-script <path>")
        args.gpuAttestScript
      return .amdGpu args.snpProduct script
    else .error (.msg "--gpu-cc requires compiling with `--features real-attestation,gpu-cc`")

omit [Crates] in
def SetupKind.line : SetupKind → String
  | .mock => "[sifir-server] building TLS setup (mock attestation)..."
  | .amd product => s!"[sifir-server] building TLS setup (AMD SEV-SNP, product={product})..."
  | .amdGpu product _ =>
    s!"[sifir-server] building TLS setup (AMD SEV-SNP + GPU CC, product={product})..."

def measurementLine (setup : TlsSetup) : String :=
  "[sifir-server] measurement: " ++ Crates.hexEncode setup.measurement.toList

/-- The lines printed before the first connection. -/
def readyLines (args : Args) (setup : TlsSetup) : List String :=
  [measurementLine setup, s!"[sifir-server] listening on https://{args.listen}"] ++
    if args.backend.isNone then ["[sifir-server] no backend configured — echo mode active"] else []

/-- What the server has printed when it starts to listen, and what it serves with. -/
structure Run where
  stdout : List String
  result : Except AnyhowError (TlsSetup × AppState)

section

variable (dev : AmdAttestation.SnpGuest) (http : AmdAttestation.Http)
  (process : GpuAttestation.Process)

def SetupKind.build (rng : Tls.Randomness) : SetupKind → Except AnyhowError TlsSetup
  | .mock => Tls.buildMockSetup rng
  | .amd product => Tls.buildAmdSetup dev http rng product
  | .amdGpu product script => Tls.buildAmdGpuSetup dev http process rng product script

/-- `main`, up to the loop that accepts connections. -/
def start (features : Features) (rng : Tls.Randomness) (args : Args) : Run :=
  match chooseSetup features args with
  | .error e => { stdout := [], result := .error e }
  | .ok kind =>
    match kind.build dev http process rng with
    | .error e => { stdout := [kind.line], result := .error e }
    | .ok setup =>
      { stdout := kind.line :: readyLines args setup
        result := .ok (setup, { backendUrl := args.backend }) }

end

/-! ## Requests -/

def generateHandler (backend : Proxy.Backend) (state : AppState) (headers : Proxy.HeaderMap)
    (body : Bytes) : Proxy.Handled :=
  Proxy.handleGenerate backend headers body state.backendUrl

end Server
end Sifir
