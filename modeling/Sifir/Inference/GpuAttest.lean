import Sifir.Lib.Hex

/-!
# The GPU attestation sidecar (`inference/gpu_attest.py`)

The program checks its nonce, asks the attestation SDK for a token and prints it as
JSON. The SDK is what the program sees of it: whether it is installed, and the outcome
of an attestation.
-/

namespace Sifir
namespace GpuAttest

open Lib

/-- `sys.exit`, with what was printed to the error output before. -/
structure SystemExit where
  code : ℕ
  stderr : String
deriving DecidableEq

/-- The attestation SDK; an exception is kept as its text. It is assumed to write nothing to
the standard streams. -/
structure Sdk where
  installed : Bool
  /-- `attest` with the NRAS and OCSP addresses of the verifier, for a nonce. -/
  attest : String → String → String → Except String (List String)

/-! ## The nonce -/

/-- `bytes.fromhex` -/
def bytesFromHex (s : String) : Option (List UInt8) := Hex.decodeSpaced s.toList

def validateNonce (nonce : String) : Except SystemExit Unit :=
  if nonce.toList.length ≠ 64 then
    .error ⟨2, s!"ERROR: nonce must be 64 hex chars (got {nonce.toList.length})"⟩
  else
    match bytesFromHex nonce with
    | none => .error ⟨2, "ERROR: nonce must be valid hex"⟩
    | some _ => .ok ()

/-! ## The token -/

def nrasUrl : String := "https://nras.attestation.nvidia.com"

def ocspUrl : String := "https://ocsp.ndis.nvidia.com"

def fetchGpuJwt (sdk : Sdk) (nonce : String) : Except SystemExit String :=
  if !sdk.installed then
    .error ⟨1, "ERROR: nv-attestation-sdk not installed.\n" ++
      "Install with: pip install nv-attestation-sdk>=1.4.0"⟩
  else
    match sdk.attest nrasUrl ocspUrl nonce with
    | .error exc => .error ⟨1, s!"ERROR: NVIDIA attestation failed: {exc}"⟩
    | .ok [] => .error ⟨1, "ERROR: attestation returned no tokens"⟩
    | .ok (token :: _) => .ok token

/-! ## The output -/

/-- The four digits of a code unit. -/
def codeUnit (n : ℕ) : List Char :=
  ['\\', 'u', Hex.digit (n / 4096 % 16), Hex.digit (n / 256 % 16), Hex.digit (n / 16 % 16),
    Hex.digit (n % 16)]

/-- A character as `json.dumps` writes it, in ASCII. -/
def escapeChar (c : Char) : List Char :=
  if c = '"' then ['\\', '"']
  else if c = '\\' then ['\\', '\\']
  else if c = '\n' then ['\\', 'n']
  else if c = '\r' then ['\\', 'r']
  else if c = '\t' then ['\\', 't']
  else if c.toNat = 8 then ['\\', 'b']
  else if c.toNat = 12 then ['\\', 'f']
  else if 32 ≤ c.toNat ∧ c.toNat ≤ 126 then [c]
  else if c.toNat < 0x10000 then codeUnit c.toNat
  else
    -- a surrogate pair
    codeUnit (0xD800 + (c.toNat - 0x10000) / 0x400) ++
      codeUnit (0xDC00 + (c.toNat - 0x10000) % 0x400)

def dumpsString (s : String) : String :=
  String.ofList ('"' :: s.toList.flatMap escapeChar ++ ['"'])

/-- `json.dumps` of the result. -/
def dumps (jwt nonce : String) : String :=
  "\x7b\"jwt\": " ++ dumpsString jwt ++ ", \"nonce\": " ++ dumpsString nonce ++ "\x7d"

/-- `main` for a `--nonce`: what it prints. -/
def main (sdk : Sdk) (nonce : String) : Except SystemExit String := do
  validateNonce nonce
  let jwt ← fetchGpuJwt sdk nonce
  return dumps jwt nonce ++ "\n"

/-! ## The process -/

/-- What a process leaves when it has finished. -/
structure Exit where
  code : ℕ
  stdout : String
  stderr : String
deriving DecidableEq

/-- `parse_args`: the `--nonce`, or the exit of `argparse` for arguments it refuses and for
a request for help. -/
abbrev ParseArgs := List String → Except Exit String

/-- `argparse` takes the text behind an option for its value, unless it looks like an
option itself. -/
def ArgparseDocumented (parseArgs : ParseArgs) : Prop :=
  ∀ nonce, nonce.toList.head? ≠ some '-' → parseArgs ["--nonce", nonce] = .ok nonce

/-- The program, run with arguments. -/
def program (parseArgs : ParseArgs) (sdk : Sdk) (argv : List String) : Exit :=
  match parseArgs argv with
  | .error exit => exit
  | .ok nonce =>
    match main sdk nonce with
    | .ok stdout => { code := 0, stdout, stderr := "" }
    | .error e => { code := e.code, stdout := "", stderr := e.stderr ++ "\n" }

end GpuAttest
end Sifir
