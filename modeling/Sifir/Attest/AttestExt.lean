import Sifir.Attest.Report
import Sifir.Lib.Results
import Sifir.Lib.Serde

/-!
# The attestation extension (`sifir-attest/src/attest_ext.rs`)

The payload of the X.509 extension and its JSON form. `toJson` and `ofJson` are
the derived `Serialize` and `Deserialize`: members in declaration order; read from
an object, or from an array of the four values.
-/

namespace Sifir

open Lib

inductive AttestationMode where
  | mock
  | amdSevSnp
deriving DecidableEq

/-- The name of a mode, in JSON and in `{:?}`. -/
def AttestationMode.name : AttestationMode → String
  | .mock => "Mock"
  | .amdSevSnp => "AmdSevSnp"

def AttestationMode.ofName (s : String) : Option AttestationMode :=
  if s = "Mock" then some .mock
  else if s = "AmdSevSnp" then some .amdSevSnp
  else none

@[ext] structure AttestationExtension where
  reportB64 : String
  /-- [VCEK, ASK, ARK], empty in mock mode. -/
  vcekChainB64 : List String
  mode : AttestationMode
  gpuJwt : Option String
deriving DecidableEq

/-- `ATTEST_OID_STR` -/
def attestOidStr : String := "1.3.6.1.4.1.99999.1.1"

/-- `ATTEST_OID_ARCS` -/
def attestOidArcs : Oid := [1, 3, 6, 1, 4, 1, 99999, 1, 1]

namespace AttestationExtension

/-! ## JSON -/

def toJson (e : AttestationExtension) : Json :=
  Serde.ofMembers [
    ("report_b64", Serde.ofString e.reportB64),
    ("vcek_chain_b64", .arr (e.vcekChainB64.map Serde.ofString)),
    ("mode", Serde.ofString e.mode.name),
    ("gpu_jwt", Serde.ofOption Serde.ofString e.gpuJwt)]

def ofJson : Json → Option AttestationExtension
  | .obj members => do
    let ms ← Serde.names members
    let reportB64 ← Serde.required Serde.string ms "report_b64"
    let vcekChainB64 ← Serde.required (Serde.list Serde.string) ms "vcek_chain_b64"
    let mode ← Serde.required (Serde.variant AttestationMode.ofName) ms "mode"
    let gpuJwt ← Serde.optional Serde.string ms "gpu_jwt"
    return { reportB64, vcekChainB64, mode, gpuJwt }
  -- a derived deserialiser also reads the fields in order from an array
  | .arr [report, chain, mode, jwt] => do
    let reportB64 ← Serde.string report
    let vcekChainB64 ← Serde.list Serde.string chain
    let mode ← Serde.variant AttestationMode.ofName mode
    let gpuJwt ← Serde.nullable Serde.string jwt
    return { reportB64, vcekChainB64, mode, gpuJwt }
  | _ => none

@[simp] theorem ofName_name (m : AttestationMode) : AttestationMode.ofName m.name = some m := by
  cases m <;> decide

/-- Reading the written form of an extension gives the extension. -/
theorem ofJson_toJson (e : AttestationExtension) : ofJson e.toJson = some e := by
  have hnames := Serde.names_map [
    ("report_b64", Serde.ofString e.reportB64),
    ("vcek_chain_b64", .arr (e.vcekChainB64.map Serde.ofString)),
    ("mode", Serde.ofString e.mode.name),
    ("gpu_jwt", Serde.ofOption Serde.ofString e.gpuJwt)]
  have hchain : Serde.list Serde.string (.arr (e.vcekChainB64.map Serde.ofString))
      = some e.vcekChainB64 :=
    Serde.list_ofList Serde.string_ofString e.vcekChainB64
  rw [toJson, Serde.ofMembers, ofJson, hnames]
  simp [Serde.required, Serde.optional, Serde.member, hchain, Serde.variant_ofString]

section

variable [Crates]

/-! ## Building -/

def newMock (reportBytes : Vector UInt8 reportSize) : AttestationExtension where
  reportB64 := Crates.base64Encode reportBytes.toList
  vcekChainB64 := []
  mode := .mock
  gpuJwt := none

def newAmd (reportBytes : Vector UInt8 reportSize) (chain : List Bytes) :
    AttestationExtension where
  reportB64 := Crates.base64Encode reportBytes.toList
  vcekChainB64 := chain.map Crates.base64Encode
  mode := .amdSevSnp
  gpuJwt := none

def withGpuJwt (e : AttestationExtension) (jwt : String) : AttestationExtension :=
  { e with gpuJwt := some jwt }

/-! ## Bytes -/

def toBytes (e : AttestationExtension) : Bytes := Crates.jsonToVec e.toJson

def fromBytes (b : Bytes) : Except String AttestationExtension :=
  Results.okOr (Crates.jsonError b) ((Crates.jsonFromSlice b).bind ofJson)

def reportBytes (e : AttestationExtension) :
    Except AnyhowError (Vector UInt8 reportSize) := do
  let raw ← (Crates.base64Decode e.reportB64).mapError AnyhowError.msg
  if h : raw.length = reportSize then
    return ⟨raw.toArray, by simpa using h⟩
  else
    .error (.msg s!"report is not {reportSize} bytes")

def vcekChainDer (e : AttestationExtension) : Except AnyhowError (List Bytes) :=
  e.vcekChainB64.mapM fun b => (Crates.base64Decode b).mapError AnyhowError.msg

end

end AttestationExtension
end Sifir
