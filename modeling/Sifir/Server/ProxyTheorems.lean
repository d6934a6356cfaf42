import Sifir.Client.Session
import Sifir.Reference
import Sifir.Server.Main

/-!
# The gateway

What the gateway hands to its HTTP client and answers: the client's request goes to the
backend as it is (`handleGenerate_sent`), and its answer comes back unless the transfer of
the body breaks off (`relays_iff`). Without a backend the client reads its own prompt back
(`generate_echo`).
-/

namespace Sifir
namespace Proxy

open Lib Results

/-! ## Status codes -/

@[simp] theorem StatusCode.fromU16_code (s : StatusCode) : StatusCode.fromU16 s.code = some s :=
  dif_pos s.valid

/-! ## The request -/

theorem get_backendRequest (headers : HeaderMap) (body : Bytes) (url : String) :
    HeaderMap.get (backendRequest headers body url).headers contentType
      = headers.get contentType := by
  show HeaderMap.get ((headers.get contentType).map fun ct => (contentType, ct)).toList contentType
    = headers.get contentType
  cases headers.get contentType with
  | none => rfl
  | some ct => simp [HeaderMap.get]

/-- The backend gets the body of the client and its content type, and nothing else of it. -/
structure Forwards (headers : HeaderMap) (body : Bytes) (url : String) (req : BackendRequest) :
    Prop where
  url_eq : req.url = url ++ "/v1/generate"
  body_eq : req.body = body
  contentType_eq : req.headers.get contentType = headers.get contentType
  only_contentType : ∀ h ∈ req.headers, h.1 = contentType

theorem forwards_backendRequest (headers : HeaderMap) (body : Bytes) (url : String) :
    Forwards headers body url (backendRequest headers body url) where
  url_eq := rfl
  body_eq := rfl
  contentType_eq := get_backendRequest headers body url
  only_contentType := by
    intro h hmem
    obtain ⟨ct, -, rfl⟩ := Option.map_eq_some_iff.mp (Option.mem_toList.mp hmem)
    rfl

/-! ## The answer -/

/-- The answer relays an outcome of the request: the status and body of a response that is
read completely; otherwise it is a bad gateway, and not the response with a part of its
body. -/
def Answers (outcome : Except String BackendResponse) (answer : Response) : Prop :=
  match outcome with
  | .error _ => answer.status = .badGateway
  | .ok resp =>
    match resp.transfer with
    | .complete b => answer.status = resp.status ∧ answer.body = b
    | .broken received _ => answer.status = .badGateway ∧
        ¬ (answer.status = resp.status ∧ answer.body <+: received)

section Gateway

variable [Crates]

/-- The gateway hands on the client's request and relays what comes of it. -/
def Relays (backend : Backend) (headers : HeaderMap) (body : Bytes) (url : String) : Prop :=
  ∃ req, (handleGenerate backend headers body (some url)).sent = [req] ∧
    Forwards headers body url req ∧
    Answers (backend req) (handleGenerate backend headers body (some url)).response

theorem handleGenerate_sent (backend : Backend) (headers : HeaderMap) (body : Bytes)
    (url : String) :
    (handleGenerate backend headers body (some url)).sent = [backendRequest headers body url] := by
  simp only [handleGenerate]
  split
  · rfl
  · rfl

/-- A request that fails is answered with a bad gateway. -/
theorem handleGenerate_of_error {backend : Backend} {headers : HeaderMap} {body : Bytes}
    {url e : String} (h : backend (backendRequest headers body url) = .error e) :
    (handleGenerate backend headers body (some url)).response
      = textResponse .badGateway s!"backend unavailable: {e}" := by
  simp only [handleGenerate, h]

/-- A response is answered with its status, and its body or nothing. -/
theorem handleGenerate_of_response {backend : Backend} {headers : HeaderMap} {body : Bytes}
    {url : String} {resp : BackendResponse}
    (h : backend (backendRequest headers body url) = .ok resp) :
    (handleGenerate backend headers body (some url)).response
      = bytesResponse resp.status (resp.transfer.bytes.toOption.getD []) := by
  simp only [handleGenerate, h, StatusCode.fromU16_code, Option.getD_some]

/-- The gateway relays faithfully exactly when no response body breaks off. -/
theorem relays_iff (backend : Backend) (headers : HeaderMap) (body : Bytes) (url : String) :
    Relays backend headers body url ↔
      ∀ resp, backend (backendRequest headers body url) = .ok resp →
        ∃ b, resp.transfer = .complete b := by
  have hforwards := forwards_backendRequest headers body url
  refine ⟨?_, fun h => ⟨_, handleGenerate_sent backend headers body url, hforwards, ?_⟩⟩
  · rintro ⟨req, hsent, -, hanswer⟩ resp hresp
    rw [handleGenerate_sent, List.singleton_inj] at hsent
    rw [← hsent, hresp, handleGenerate_of_response hresp] at hanswer
    cases htransfer : resp.transfer with
    | complete b => exact ⟨b, rfl⟩
    | broken received e =>
      -- the answer has the status of the response and an empty body
      simp only [Answers, htransfer, Transfer.bytes] at hanswer
      exact absurd ⟨rfl, List.nil_prefix⟩ hanswer.2
  · rcases exists_error_or_exists_ok (backend (backendRequest headers body url)) with
      ⟨e, he⟩ | ⟨resp, hresp⟩
    · rw [he, handleGenerate_of_error he]
      rfl
    · obtain ⟨b, hb⟩ := h resp hresp
      rw [hresp, handleGenerate_of_response hresp]
      simp only [Answers, hb, Transfer.bytes]
      exact ⟨rfl, rfl⟩

/-! ## Echo -/

omit [Crates] in
/-- The gateway reads the prompt the client writes. -/
theorem promptOfJson_toJson (r : Request.GenerateRequest) :
    promptOfJson r.toJson = some r.prompt := by
  have hnames := Serde.names_map [("prompt", Serde.ofString r.prompt),
    ("max_tokens", Serde.ofU32 r.maxTokens)]
  rw [Request.GenerateRequest.toJson, Serde.ofMembers, promptOfJson, hnames]
  simp [Serde.required, Serde.member]

omit [Crates] in
/-- The client reads the response the gateway writes. -/
theorem ofJson_toJson (r : GenerateResponse) :
    Request.GenerateResponse.ofJson r.toJson = some ⟨r.text, r.tokensUsed⟩ := by
  have hnames := Serde.names_map [("text", Serde.ofString r.text),
    ("tokens_used", Serde.ofU32 r.tokensUsed)]
  rw [GenerateResponse.toJson, Serde.ofMembers, Request.GenerateResponse.ofJson, hnames]
  simp [Serde.required, Serde.member]

theorem echoResponse_toJson (hjson : Crates.SerdeJsonDocumented) (prompt : String)
    (maxTokens : UInt32) :
    echoResponse (Crates.jsonToVec (Request.GenerateRequest.toJson ⟨prompt, maxTokens⟩))
      = { status := .ok, mediaType := "application/json",
          body := Crates.jsonToVec
            (GenerateResponse.toJson ⟨s!"[mock inference] echo: {prompt}", 0⟩) } := by
  rw [echoResponse, hjson.fromSlice_toVec, Option.bind_some, promptOfJson_toJson,
    Option.getD_some]

/-- A client that posts to a server without a backend gets its prompt back, whatever
tokens it asks for. -/
theorem generate_echo (hjson : Crates.SerdeJsonDocumented) {client : Request.HttpClient}
    {backend : Backend} {headers : HeaderMap} {statusError baseUrl : String}
    (hclient : ∀ body, client.post s!"{baseUrl}/v1/generate" body =
      let handled := Server.generateHandler backend { backendUrl := none } headers body
      .ok { status := handled.response.status.code, statusError,
            bytes := .ok handled.response.body }) (prompt : String) (maxTokens : UInt32) :
    Request.generate client baseUrl prompt maxTokens
      = .ok { text := s!"[mock inference] echo: {prompt}", tokensUsed := 0 } := by
  have hecho := echoResponse_toJson hjson prompt maxTokens
  have hstatus : ¬ (400 ≤ StatusCode.ok.code ∧ StatusCode.ok.code < 600) := by decide
  simp only [Request.generate, hclient, Server.generateHandler, handleGenerate, hecho,
    mapError_ok, ok_bind, Request.Response.errorForStatus, if_neg hstatus, Request.Response.json,
    hjson.fromSlice_toVec, Option.bind_some, ofJson_toJson, okOr_some]

/-! ## What a client reads -/

omit [Crates] in
/-- A response as the HTTP client has it that receives it completely. -/
def Response.received (statusError : ℕ → String) (r : Response) : Request.Response where
  status := r.status.code
  statusError := statusError r.status.code
  bytes := .ok r.body

/-- The body of a response without an error status is read. -/
theorem readAnswer_received (stack : Client.Stack) (statusError : ℕ → String) {r : Response}
    (h : ¬ (400 ≤ r.status.code ∧ r.status.code < 600)) :
    Client.readAnswer stack (.ok (r.received statusError))
      = okOr (.msg (stack.decodeError (Crates.jsonError r.body)))
        ((Crates.jsonFromSlice r.body).bind Request.GenerateResponse.ofJson) := by
  have hstatus : (r.received statusError).errorForStatus = .ok (r.received statusError) := if_neg h
  rw [Client.readAnswer, mapError_ok, ok_bind, hstatus, mapError_ok, ok_bind]
  rfl

/-- Of a response with an error status, the status is all that is left. -/
theorem readAnswer_received_of_status (stack : Client.Stack) (statusError : ℕ → String)
    {r : Response} (h : 400 ≤ r.status.code ∧ r.status.code < 600) :
    Client.readAnswer stack (.ok (r.received statusError))
      = .error (.msg (statusError r.status.code)) := by
  have hstatus : (r.received statusError).errorForStatus = .error (statusError r.status.code) :=
    if_pos h
  rw [Client.readAnswer, mapError_ok, ok_bind, hstatus]
  rfl

end Gateway

section Reference

open Reference

attribute [local instance] crates

/-- A backend whose response breaks off after two bytes. -/
def brokenBackend : Backend :=
  fun _ => .ok { status := .ok, transfer := .broken [123, 34] "connection reset" }

/-- The client gets the status of the response with an empty body. -/
theorem not_relays_brokenBackend :
    (handleGenerate brokenBackend [] [123, 125] (some "http://127.0.0.1:8080")).response
      = bytesResponse .ok [] ∧
    ¬ Relays brokenBackend [] [123, 125] "http://127.0.0.1:8080" := by
  have hresp : brokenBackend (backendRequest [] [123, 125] "http://127.0.0.1:8080")
      = .ok { status := .ok, transfer := .broken [123, 34] "connection reset" } := rfl
  have hanswer := handleGenerate_of_response hresp
  refine ⟨hanswer, ?_⟩
  rintro ⟨req, -, -, hrelayed⟩
  rw [hanswer] at hrelayed
  exact hrelayed.2 ⟨rfl, List.nil_prefix⟩

end Reference

end Proxy
end Sifir
