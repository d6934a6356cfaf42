import Sifir.Crates
import Sifir.Lib.Decimal
import Sifir.Lib.Results

/-!
# Inference requests (`sifir-client/src/request.rs`)

A prompt is posted to the server as JSON, and its answer is read as JSON. The HTTP
client is what the program sees of it: the outcome of every call it makes.
-/

namespace Sifir
namespace Request

open Lib

structure GenerateRequest where
  prompt : String
  maxTokens : UInt32
deriving DecidableEq

/-- The derived `Serialize`. -/
def GenerateRequest.toJson (r : GenerateRequest) : Json :=
  Serde.ofMembers [
    ("prompt", Serde.ofString r.prompt),
    ("max_tokens", Serde.ofU32 r.maxTokens)]

structure GenerateResponse where
  text : String
  tokensUsed : UInt32
deriving DecidableEq

/-- The derived `Deserialize`. -/
def GenerateResponse.ofJson : Json → Option GenerateResponse
  | .obj members => do
    let ms ← Serde.names members
    let text ← Serde.required Serde.string ms "text"
    let tokensUsed ← Serde.required Serde.u32 ms "tokens_used"
    return { text, tokensUsed }
  | .arr [text, tokensUsed] => do
    let text ← Serde.string text
    let tokensUsed ← Serde.u32 tokensUsed
    return { text, tokensUsed }
  | _ => none

/-- A response, with what reading its body gives. -/
structure Response where
  status : ℕ
  /-- The error `error_for_status` makes of a client or server error status. -/
  statusError : String
  bytes : Except String Bytes

def Response.errorForStatus (r : Response) : Except String Response :=
  if 400 ≤ r.status ∧ r.status < 600 then .error r.statusError else .ok r

/-- An HTTP client, by the outcomes of posting a JSON body, the lines its certificate
verifier prints meanwhile, and the error `json` makes of one of the deserialiser. -/
structure HttpClient where
  post : String → Bytes → Except String Response
  printed : List String
  decodeError : String → String

variable [Crates]

/-- `Response::json::<GenerateResponse>` -/
def Response.json (client : HttpClient) (r : Response) : Except String GenerateResponse := do
  let body ← r.bytes
  Results.okOr (client.decodeError (Crates.jsonError body))
    ((Crates.jsonFromSlice body).bind GenerateResponse.ofJson)

def generate (client : HttpClient) (baseUrl prompt : String) (maxTokens : UInt32) :
    Except AnyhowError GenerateResponse := do
  let url := s!"{baseUrl}/v1/generate"
  let request : GenerateRequest := { prompt, maxTokens }
  let response ← (client.post url (Crates.jsonToVec request.toJson)).mapError AnyhowError.msg
  let response ← response.errorForStatus.mapError AnyhowError.msg
  (response.json client).mapError AnyhowError.msg

end Request
end Sifir
