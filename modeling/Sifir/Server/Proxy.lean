import Sifir.Crates
import Sifir.Lib.Decimal

/-!
# The gateway (`sifir-server/src/proxy.rs`)

A `/v1/generate` request is forwarded to the inference backend, or answered with an
echo where there is none. The backend is what the program sees of it: the outcome of
the request it hands to its HTTP client.
-/

namespace Sifir
namespace Proxy

open Lib

/-! ## HTTP -/

/-- `http::StatusCode` -/
structure StatusCode where
  code : ℕ
  valid : 100 ≤ code ∧ code < 1000
deriving DecidableEq

def StatusCode.fromU16 (n : ℕ) : Option StatusCode :=
  if h : 100 ≤ n ∧ n < 1000 then some ⟨n, h⟩ else none

def StatusCode.ok : StatusCode := ⟨200, by decide⟩

def StatusCode.badRequest : StatusCode := ⟨400, by decide⟩

def StatusCode.notFound : StatusCode := ⟨404, by decide⟩

def StatusCode.methodNotAllowed : StatusCode := ⟨405, by decide⟩

def StatusCode.payloadTooLarge : StatusCode := ⟨413, by decide⟩

def StatusCode.unprocessableEntity : StatusCode := ⟨422, by decide⟩

def StatusCode.internalServerError : StatusCode := ⟨500, by decide⟩

def StatusCode.badGateway : StatusCode := ⟨502, by decide⟩

/-- `http::HeaderName`, which is kept in lower case. -/
structure HeaderName where
  text : String
  lower : text.toList.all (fun c => !c.isUpper) = true
deriving DecidableEq

def contentType : HeaderName := ⟨"content-type", by decide⟩

/-- `http::HeaderMap`, with the values of one name in the order they were added. -/
abbrev HeaderMap := List (HeaderName × Bytes)

/-- The first value of a name. -/
def HeaderMap.get (headers : HeaderMap) (name : HeaderName) : Option Bytes :=
  (headers.find? fun h => h.1 = name).map (·.2)

/-- A POST request for the backend, as the HTTP client is given it. -/
structure BackendRequest where
  url : String
  headers : HeaderMap
  body : Bytes
deriving DecidableEq

/-- The transfer of a response body: it is read completely, or breaks off after some
bytes. -/
inductive Transfer where
  | complete (body : Bytes)
  | broken (received : Bytes) (e : String)
deriving DecidableEq

/-- `Response::bytes` -/
def Transfer.bytes : Transfer → Except String Bytes
  | .complete body => .ok body
  | .broken _ e => .error e

structure BackendResponse where
  status : StatusCode
  transfer : Transfer
deriving DecidableEq

/-- What `send` gives for a request in the end: the HTTP client follows redirects, so the
response can be that of another place, and the request can have been sent more than once. -/
abbrev Backend := BackendRequest → Except String BackendResponse

/-- An answer to the client, with the media type of its body. -/
structure Response where
  status : StatusCode
  mediaType : String
  body : Bytes
deriving DecidableEq

/-- `(StatusCode, Bytes)` and `(StatusCode, String)` as responses. -/
def bytesResponse (status : StatusCode) (body : Bytes) : Response :=
  { status, mediaType := "application/octet-stream", body }

def textResponse (status : StatusCode) (text : String) : Response :=
  { status, mediaType := "text/plain; charset=utf-8", body := Text.utf8Bytes text }

/-- What handling a request leaves: the requests handed to the HTTP client to be sent, the
lines printed, and the answer. -/
structure Handled where
  sent : List BackendRequest
  stderr : List String
  response : Response
deriving DecidableEq

/-! ## Echo -/

/-- The derived `Deserialize` of `GenerateRequest { prompt }`. -/
def promptOfJson : Json → Option String
  | .obj members => do
    let ms ← Serde.names members
    Serde.required Serde.string ms "prompt"
  | .arr [prompt] => Serde.string prompt
  | _ => none

structure GenerateResponse where
  text : String
  tokensUsed : UInt32
deriving DecidableEq

/-- The derived `Serialize`. -/
def GenerateResponse.toJson (r : GenerateResponse) : Json :=
  Serde.ofMembers [
    ("text", Serde.ofString r.text),
    ("tokens_used", Serde.ofU32 r.tokensUsed)]

variable [Crates]

def echoResponse (body : Bytes) : Response :=
  let prompt := ((Crates.jsonFromSlice body).bind promptOfJson).getD "(unparseable request)"
  let resp : GenerateResponse := { text := s!"[mock inference] echo: {prompt}", tokensUsed := 0 }
  { status := .ok, mediaType := "application/json", body := Crates.jsonToVec resp.toJson }

/-! ## Forwarding -/

omit [Crates] in
/-- The request for a URL of the backend. -/
def backendRequest (headers : HeaderMap) (body : Bytes) (url : String) : BackendRequest where
  url := s!"{url}/v1/generate"
  headers := ((headers.get contentType).map fun ct => (contentType, ct)).toList
  body := body

def handleGenerate (backend : Backend) (headers : HeaderMap) (body : Bytes)
    (backendUrl : Option String) : Handled :=
  match backendUrl with
  | none => { sent := [], stderr := [], response := echoResponse body }
  | some url =>
    let req := backendRequest headers body url
    match backend req with
    | .ok resp =>
      let status := (StatusCode.fromU16 resp.status.code).getD .internalServerError
      -- a body that cannot be read is taken to be empty
      let body := resp.transfer.bytes.toOption.getD []
      { sent := [req], stderr := [], response := bytesResponse status body }
    | .error e =>
      { sent := [req]
        stderr := [s!"[proxy] backend error: {e}"]
        response := textResponse .badGateway s!"backend unavailable: {e}" }

end Proxy
end Sifir
