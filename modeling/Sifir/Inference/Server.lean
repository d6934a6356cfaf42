import Sifir.Lib.Results
import Sifir.Server.Proxy

/-!
# The inference server (`inference/server.py`)

The server answers a prompt with what the language model completes it to. The language
model is a parameter, and so is the framework that reads requests: what it makes of a body,
which values it takes for the types of the fields, how it refuses a request, and how it
writes an answer.
-/

namespace Sifir
namespace Inference

open Lib Proxy

/-! ## The framework -/

/-- What ends a handler early: an `HTTPException`, or any other exception. -/
inductive Exn where
  | http (statusCode : StatusCode) (detail : String)
  | other (text : String)
deriving DecidableEq

/-- The status an exception is answered with. -/
def Exn.status : Exn → StatusCode
  | .http statusCode _ => statusCode
  | .other _ => .internalServerError

/-- What FastAPI and pydantic do for the server. -/
structure Framework where
  /-- The value of a body, by the `content-type` it comes with, or the status and the body of
  the answer where it has none. -/
  read : Option Bytes → Bytes → Except (StatusCode × Bytes) Json
  /-- The text a value is taken for. -/
  str : Json → Option String
  /-- The integer a value is taken for. -/
  int : Json → Option ℤ
  /-- The status and the body of the answer to a value that is not valid. -/
  refusal : Json → StatusCode × Bytes
  /-- The body of an answer with a value. -/
  write : Json → Bytes
  /-- The status and the body of the answer where a handler ends early. -/
  exception : Exn → StatusCode × Bytes

/-! ## Requests -/

/-- A request that passed validation: `max_tokens` is between 1 and 4096. -/
structure GenerateRequest where
  prompt : String
  maxTokens : ℤ
  ge : 1 ≤ maxTokens
  le : maxTokens ≤ 4096
deriving DecidableEq

/-- The default of `max_tokens`. -/
def defaultMaxTokens : ℤ := 512

/-- The value of a name in a Python dictionary: the last member with it. -/
def lookup (members : List (Bytes × Json)) (name : String) : Option Json :=
  (members.filter (·.1 = Text.utf8Bytes name)).getLast?.map (·.2)

variable (fastapi : Framework)

/-- `Field(default=512, ge=1, le=4096)` -/
def checkMaxTokens (prompt : String) (maxTokens : ℤ) : Option GenerateRequest :=
  if h : 1 ≤ maxTokens ∧ maxTokens ≤ 4096 then
    some { prompt, maxTokens, ge := h.1, le := h.2 }
  else none

/-- The validation of a body. -/
def GenerateRequest.ofJson : Json → Option GenerateRequest
  | .obj members => do
    let prompt ← fastapi.str (← lookup members "prompt")
    match lookup members "max_tokens" with
    | none => checkMaxTokens prompt defaultMaxTokens
    | some value => checkMaxTokens prompt (← fastapi.int value)
  | _ => none

/-- The request for an endpoint that takes a model from the body, or the status and the body
of the answer where it is refused. -/
def readRequest (contentType : Option Bytes) (body : Bytes) :
    Except (StatusCode × Bytes) GenerateRequest := do
  let json ← fastapi.read contentType body
  Results.okOr (fastapi.refusal json) (GenerateRequest.ofJson fastapi json)

/-! ## The language model -/

/-- A call of the language model. -/
structure Call where
  prompt : String
  maxTokens : ℤ
  echo : Bool
  stop : List String
deriving DecidableEq

structure Choice where
  text : Option String
deriving DecidableEq

structure Usage where
  completionTokens : Option ℕ
deriving DecidableEq

/-- The dictionary the language model returns, with the entries that are looked at. -/
structure Completion where
  choices : Option (List Choice)
  usage : Option Usage
deriving DecidableEq

/-- A language model; an exception is kept as its text. -/
abbrev Llm := Call → Except String Completion

/-! ## Answers -/

structure GenerateResponse where
  text : String
  tokensUsed : ℕ
deriving DecidableEq

def GenerateResponse.toJson (r : GenerateResponse) : Json :=
  Serde.ofMembers [
    ("text", Serde.ofString r.text),
    ("tokens_used", .num (Json.Number.ofNat r.tokensUsed))]

def stopTokens : List String := ["<|endoftext|>", "<|im_end|>"]

def callOf (req : GenerateRequest) : Call :=
  { prompt := req.prompt, maxTokens := req.maxTokens, echo := false, stop := stopTokens }

def generate (llm : Llm) (req : GenerateRequest) : Except Exn GenerateResponse := do
  let result ← (llm (callOf req)).mapError Exn.other
  match result.choices.getD [] with
  | [] => throw (.http .internalServerError "model returned no output")
  | choice :: _ =>
    let text := choice.text.getD ""
    let tokensUsed := (result.usage.bind (·.completionTokens)).getD 0
    return { text, tokensUsed }

/-- The answer to what a handler returns. -/
def respond : Except Exn GenerateResponse → BackendResponse
  | .ok r => { status := .ok, transfer := .complete (fastapi.write r.toJson) }
  | .error e =>
    { status := (fastapi.exception e).1, transfer := .complete (fastapi.exception e).2 }

/-- What a request to `/v1/generate` leaves: the calls of the language model, and the
answer. -/
structure Handled where
  calls : List Call
  response : BackendResponse
deriving DecidableEq

def handle (llm : Llm) (contentType : Option Bytes) (body : Bytes) : Handled :=
  match readRequest fastapi contentType body with
  | .error (status, answer) =>
    { calls := [], response := { status, transfer := .complete answer } }
  | .ok req => { calls := [callOf req], response := respond fastapi (generate llm req) }

/-- `GET /health` -/
def health : BackendResponse where
  status := .ok
  transfer := .complete (fastapi.write (Serde.ofMembers [("status", Serde.ofString "ok")]))

/-! ## What the documentation of the framework says -/

/-- A body of type `application/json` is read as JSON, and an object of texts and numbers
as RFC 8259 has it; a text is one, and a number without fraction is an integer. What is
refused is answered with status 422, or 400 for a body that cannot be read, and an exception
with its own. An answer is JSON. -/
structure FrameworkDocumented : Prop where
  read_scalars : ∀ b ms, Json.parse b = some (Serde.ofMembers ms) →
    (∀ m ∈ ms, Crates.IsScalar m.2) →
    fastapi.read (some (Text.utf8Bytes "application/json")) b = .ok (Serde.ofMembers ms)
  read_error : ∀ contentType b status answer,
    fastapi.read contentType b = .error (status, answer) →
      status = .unprocessableEntity ∨ status = .badRequest
  refusal_status : ∀ json, (fastapi.refusal json).1 = .unprocessableEntity
  str_string : ∀ s, fastapi.str (Serde.ofString s) = some s
  int_natural : ∀ n < 2 ^ 64, fastapi.int (.num (Json.Number.ofNat n)) = some (n : ℤ)
  exception_status : ∀ e, (fastapi.exception e).1 = e.status
  write_response : ∀ r : GenerateResponse, Json.parse (fastapi.write r.toJson) = some r.toJson

end Inference
end Sifir
