import Sifir.Attest.Report
import Sifir.Lib.Results
import Sifir.Lib.Text

/-!
# AMD attestation of the server (`sifir-server/src/amd_attestation.rs`)

The report from the guest device, and the VCEK chain for it from AMD's key
distribution service (KDS). The device and the HTTP client are what the program
sees of them: the outcome of every call it makes.
-/

namespace Sifir
namespace AmdAttestation

open Lib Windows

/-! ## The guest device -/

/-- `snp_report_req` -/
structure SnpReportReq where
  userData : Vector UInt8 64
  vmpl : UInt32
  rsvd : Vector UInt8 28
deriving DecidableEq

/-- `snp_guest_request_ioctl`, with the structures its pointers lead to. -/
structure SnpGuestRequestIoctl where
  msgVersion : UInt8
  reqData : SnpReportReq
  /-- `snp_report_resp.data` -/
  respData : Vector UInt8 4000
  exitinfo2 : UInt64
deriving DecidableEq

/-- What an ioctl returns, the text of the last OS error, and the request structure as
it left it. -/
structure IoctlOutcome where
  rc : Int
  osError : String
  request : SnpGuestRequestIoctl

/-- A guest device, by the outcomes of opening it and of its ioctls. -/
structure SnpGuest where
  openDevice : Except String Unit
  ioctl : UInt64 → SnpGuestRequestIoctl → IoctlOutcome

/-- `_IOWR('+', 0, snp_guest_request_ioctl)` -/
def snpGetReport : UInt64 :=
  ((3 : UInt64) <<< 30) ||| ((32 : UInt64) <<< 16) ||| ((0x2B : UInt64) <<< 8)

def snpDevice : String := "/dev/snp-guest"

/-- The request for a report with the given user data. -/
def reportRequest (userData : Vector UInt8 64) : SnpGuestRequestIoctl where
  msgVersion := 1
  reqData := { userData, vmpl := 0, rsvd := Vector.replicate 28 0 }
  respData := Vector.replicate 4000 0
  exitinfo2 := 0

/-- `{:016x}` -/
def hex16 (n : UInt64) : String := String.ofList (Hex.encode (Ecdsa.beBytes 8 n.toNat))

/-- The copied bytes lie in the response buffer. -/
theorem report_fits : 0 + reportSize ≤ 4000 := by decide

def getSnpReport (dev : SnpGuest) (userData : Vector UInt8 64) :
    Except AnyhowError (Vector UInt8 reportSize) := do
  dev.openDevice.mapError
    (AnyhowError.wrap s!"open {snpDevice} (must run inside AMD SEV-SNP VM)")
  let outcome := dev.ioctl snpGetReport (reportRequest userData)
  if outcome.rc ≠ 0 then
    throw (.msg s!"SNP_GET_REPORT ioctl failed (errno {outcome.rc}): {outcome.osError}")
  if outcome.request.exitinfo2 ≠ 0 then
    throw (.msg s!"SNP_GET_REPORT firmware error: exitinfo2=0x{hex16 outcome.request.exitinfo2}")
  -- the report is taken from the start of the response buffer
  return window outcome.request.respData 0 reportSize report_fits

/-! ## KDS requests -/

def kdsBase : String := "https://kdsintf.amd.com/vcek/v1"

abbrev offReportedTcb : ℕ := 0x038
abbrev offChipId : ℕ := 0x188
abbrev chipIdLen : ℕ := 64

structure TcbVersion where
  blSpl : UInt8
  teeSpl : UInt8
  snpSpl : UInt8
  ucodeSpl : UInt8
deriving DecidableEq

def TcbVersion.fromReport (report : Vector UInt8 reportSize) : TcbVersion :=
  let raw := window report offReportedTcb 8
  { blSpl := raw[0], teeSpl := raw[1], snpSpl := raw[6], ucodeSpl := raw[7] }

/-- A response, with what reading its body gives. -/
structure Response where
  status : ℕ
  /-- The error `error_for_status` makes of a client or server error status. -/
  statusError : String
  bytes : Except String Bytes
  text : Except String String

def Response.errorForStatus (r : Response) : Except String Response :=
  if 400 ≤ r.status ∧ r.status < 600 then .error r.statusError else .ok r

/-- An HTTP client, by the outcomes of building it and of its requests. -/
structure Http where
  build : Except String Unit
  get : String → Except String Response

section

variable [Crates]

def vcekUrl (report : Vector UInt8 reportSize) (product : String) : String :=
  let chipIdHex := Crates.hexEncode (window report offChipId chipIdLen).toList
  let tcb := TcbVersion.fromReport report
  kdsBase ++ "/" ++ product ++ "/" ++ chipIdHex ++ "?blSPL=" ++ toString tcb.blSpl.toNat
    ++ "&teeSPL=" ++ toString tcb.teeSpl.toNat ++ "&snpSPL=" ++ toString tcb.snpSpl.toNat
    ++ "&ucodeSPL=" ++ toString tcb.ucodeSpl.toNat

def chainUrl (product : String) : String := kdsBase ++ "/" ++ product ++ "/cert_chain"

/-! ## PEM bundles -/

structure PemState where
  certs : List Bytes
  inCert : Bool
  b64 : List Char

def beginMarker : List Char := "-----BEGIN CERTIFICATE-----".toList

def endMarker : List Char := "-----END CERTIFICATE-----".toList

/-- One pass of the loop over the lines. -/
def pemLine (st : PemState) (line : List Char) : Except AnyhowError PemState :=
  let trimmed := Text.trim line
  -- a BEGIN inside a block starts over and drops what was collected
  if trimmed = beginMarker then .ok { st with inCert := true, b64 := [] }
  else if trimmed = endMarker then
    if !st.inCert then .error (.msg "unexpected END CERTIFICATE")
    else do
      let der ← (Crates.base64Decode (String.ofList st.b64)).mapError
        (AnyhowError.wrap "base64 decode PEM cert")
      return { st with inCert := false, certs := st.certs ++ [der] }
  else if st.inCert ∧ trimmed ≠ [] then .ok { st with b64 := st.b64 ++ trimmed }
  else .ok st

def parsePemBundle (pem : String) : Except AnyhowError (List Bytes) := do
  let st ← (Text.lines pem.toList).foldlM pemLine { certs := [], inCert := false, b64 := [] }
  if st.inCert then .error (.msg "unterminated PEM cert block") else .ok st.certs

/-! ## The chain -/

def fetchVcekChain (http : Http) (report : Vector UInt8 reportSize) (product : String) :
    Except AnyhowError (List Bytes) := do
  let vcekUrl := vcekUrl report product
  let chainUrl := chainUrl product
  http.build.mapError (AnyhowError.wrap "build reqwest client")
  let response ← (http.get vcekUrl).mapError (AnyhowError.wrap s!"GET {vcekUrl}")
  let response ← response.errorForStatus.mapError
    (AnyhowError.wrap s!"KDS VCEK fetch failed: {vcekUrl}")
  let vcekDer ← response.bytes.mapError (AnyhowError.wrap "read VCEK response body")
  let response ← (http.get chainUrl).mapError (AnyhowError.wrap s!"GET {chainUrl}")
  let response ← response.errorForStatus.mapError
    (AnyhowError.wrap s!"KDS cert_chain fetch failed: {chainUrl}")
  let chainPem ← response.text.mapError (AnyhowError.wrap "read cert_chain response body")
  let pemCerts ← (parsePemBundle chainPem).mapError
    (AnyhowError.context "parse cert_chain PEM bundle")
  -- the bundle is [ASK, ARK]; what follows is ignored
  match pemCerts with
  | askDer :: arkDer :: _ => return [vcekDer, askDer, arkDer]
  | _ => .error (.msg s!"expected at least 2 certs in KDS cert_chain, got {pemCerts.length}")

def getReportAndChain (dev : SnpGuest) (http : Http) (userData : Vector UInt8 64)
    (product : String) : Except AnyhowError (Vector UInt8 reportSize × List Bytes) := do
  let report ← getSnpReport dev userData
  let chain ← fetchVcekChain http report product
  return (report, chain)

end

end AmdAttestation
end Sifir
