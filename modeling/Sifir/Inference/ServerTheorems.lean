import Sifir.Inference.Server
import Sifir.Lib.JsonTheorems
import Sifir.Server.ProxyTheorems

/-!
# From the client's prompt to the language model

What is between the client and the language model, in both directions. Whoever sends a
request, the model is called at most once, within the limits of the server, and an
answer with status 200 is what the model said (`gateway_relays_model`). The client's own
request calls the model with its prompt (`calls_clientBody`), and the client reads the first
choice of the model or the failure that `answerTo` names (`readAnswer_gateway`).
-/

namespace Sifir
namespace Inference

open Lib Proxy Results

/-! ## Reading requests -/

theorem lookup_map (ms : List (String × Json)) (name : String) :
    lookup (ms.map fun m => (Text.utf8Bytes m.1, m.2)) name
      = (ms.filter (·.1 = name)).getLast?.map (·.2) := by
  have hname : ∀ m : String × Json, (Text.utf8Bytes m.1 = Text.utf8Bytes name) = (m.1 = name) :=
    fun m => propext Text.utf8Bytes_injective.eq_iff
  rw [lookup, List.filter_map, List.getLast?_map, Option.map_map]
  simp only [Function.comp_def, hname]

/-- A number of 32 bits is one of 64 bits. -/
theorem isScalar_ofU32 (n : UInt32) : Crates.IsScalar (Serde.ofU32 n) :=
  Or.inr ⟨n.toNat, n.toNat_lt.trans (by decide), rfl⟩

/-! ## The language model -/

/-- The response for a completion: the text of its first choice, and the tokens it used. -/
def Completion.response (c : Completion) : Option GenerateResponse :=
  (c.choices.getD []).head?.map fun choice =>
    { text := choice.text.getD ""
      tokensUsed := (c.usage.bind (·.completionTokens)).getD 0 }

variable {llm : Llm} {req : GenerateRequest}

theorem generate_of_error {e : String} (h : llm (callOf req) = .error e) :
    generate llm req = .error (.other e) := by
  rw [generate, h]
  rfl

theorem generate_of_ok {c : Completion} (h : llm (callOf req) = .ok c) :
    generate llm req = okOr (.http .internalServerError "model returned no output") c.response := by
  rw [generate, h, mapError_ok, ok_bind, Completion.response]
  cases c.choices.getD [] with
  | nil => rfl
  | cons choice more => rfl

theorem generate_eq_ok {r : GenerateResponse} :
    generate llm req = .ok r ↔ ∃ c, llm (callOf req) = .ok c ∧ c.response = some r := by
  rcases exists_error_or_exists_ok (llm (callOf req)) with ⟨e, he⟩ | ⟨c, hc⟩
  · simp [generate_of_error he, he]
  · simp [generate_of_ok hc, hc]

/-- Whatever goes wrong in the model is an internal server error. -/
theorem status_of_generate_eq_error {e : Exn} (h : generate llm req = .error e) :
    e.status = .internalServerError := by
  rcases exists_error_or_exists_ok (llm (callOf req)) with ⟨e', he'⟩ | ⟨c, hc⟩
  · rw [generate_of_error he'] at h
    rw [← Except.error.inj h]
    rfl
  · rw [generate_of_ok hc] at h
    rw [← (okOr_eq_error.mp h).2]
    rfl

/-- A request that is refused is a client error. -/
theorem readRequest_error {fastapi : Framework} (hfastapi : FrameworkDocumented fastapi)
    {contentType : Option Bytes} {body : Bytes} {status : StatusCode} {answer : Bytes}
    (h : readRequest fastapi contentType body = .error (status, answer)) :
    status = .unprocessableEntity ∨ status = .badRequest := by
  rcases bind_eq_error.mp h with hread | ⟨json, -, hinvalid⟩
  · exact hfastapi.read_error _ _ _ _ hread
  · left
    rw [← hfastapi.refusal_status json, (okOr_eq_error.mp hinvalid).2]

/-! ## Any request -/

/-- The calls a request may make: at most one, within the limits of the server, without
an echo of the prompt and with the stop tokens. -/
structure WithinLimits (calls : List Call) : Prop where
  once : calls.length ≤ 1
  limits : ∀ call ∈ calls, 1 ≤ call.maxTokens ∧ call.maxTokens ≤ 4096
  settings : ∀ call ∈ calls, call.echo = false ∧ call.stop = stopTokens

theorem withinLimits_handle (fastapi : Framework) (llm : Llm) (contentType : Option Bytes)
    (body : Bytes) : WithinLimits (handle fastapi llm contentType body).calls := by
  unfold handle
  split
  · exact ⟨by simp, by simp, by simp⟩
  · next req _ =>
    refine ⟨Nat.le_refl _, ?_, ?_⟩
    · rw [List.forall_mem_singleton]
      exact ⟨req.ge, req.le⟩
    · rw [List.forall_mem_singleton]
      exact ⟨rfl, rfl⟩

/-- An answer is complete. With status 200 it is the response for the completion of the
request that was read. -/
theorem handle_response {fastapi : Framework} (hfastapi : FrameworkDocumented fastapi)
    (llm : Llm) (contentType : Option Bytes) (body : Bytes) : ∃ status answer,
      (handle fastapi llm contentType body).response = { status, transfer := .complete answer } ∧
      (status = .ok ↔ ∃ req c r, readRequest fastapi contentType body = .ok req ∧
        llm (callOf req) = .ok c ∧ c.response = some r) ∧
      ∀ req c r, readRequest fastapi contentType body = .ok req → llm (callOf req) = .ok c →
        c.response = some r → answer = fastapi.write r.toJson := by
  rcases exists_error_or_exists_ok (readRequest fastapi contentType body) with
    ⟨⟨status, answer⟩, hstatus⟩ | ⟨req, hreq⟩
  · refine ⟨status, answer, by rw [handle, hstatus], ?_, ?_⟩
    · refine iff_of_false ?_ (by simp [hstatus])
      rcases readRequest_error hfastapi hstatus with rfl | rfl
      · decide
      · decide
    · intro req c r hreq
      rw [hstatus] at hreq
      cases hreq
  · have hhandle : (handle fastapi llm contentType body).response
        = respond fastapi (generate llm req) := by
      rw [handle, hreq]
    rcases exists_error_or_exists_ok (generate llm req) with ⟨e, he⟩ | ⟨r, hr⟩
    · have hno : ∀ c r, llm (callOf req) = .ok c → c.response ≠ some r := by
        intro c r hc hr
        rw [generate_eq_ok.mpr ⟨c, hc, hr⟩] at he
        cases he
      refine ⟨_, _, by rw [hhandle, he, respond], ?_, ?_⟩
      · refine iff_of_false ?_ ?_
        · rw [hfastapi.exception_status, status_of_generate_eq_error he]
          decide
        · intro hex
          rcases hex with ⟨req', c, r, hreq', hc, hr⟩
          obtain rfl := Except.ok.inj (hreq.symm.trans hreq')
          exact hno c r hc hr
      · intro req' c r hreq' hc hr
        obtain rfl := Except.ok.inj (hreq.symm.trans hreq')
        exact absurd hr (hno c r hc)
    · obtain ⟨c, hc, hcr⟩ := generate_eq_ok.mp hr
      refine ⟨.ok, fastapi.write r.toJson, by rw [hhandle, hr, respond], ?_, ?_⟩
      · exact iff_of_true rfl ⟨req, c, r, hreq, hc, hcr⟩
      · intro req' c' r' hreq' hc' hr'
        obtain rfl := Except.ok.inj (hreq.symm.trans hreq')
        obtain rfl := Except.ok.inj (hc.symm.trans hc')
        obtain rfl := Option.some.inj (hcr.symm.trans hr')
        rfl

/-- The calls of the model that requests to the inference server at an address make. -/
def callsOf (fastapi : Framework) (llm : Llm) (url : String) (reqs : List BackendRequest) :
    List Call :=
  (reqs.filter fun req => req.url = url ++ "/v1/generate").flatMap fun req =>
    (handle fastapi llm (req.headers.get contentType) req.body).calls

/-- A request calls the model once if it is valid, and not at all otherwise. -/
theorem calls_handle (fastapi : Framework) (llm : Llm) (contentType : Option Bytes)
    (body : Bytes) : (handle fastapi llm contentType body).calls
      = ((readRequest fastapi contentType body).toOption.map callOf).toList := by
  rcases exists_error_or_exists_ok (readRequest fastapi contentType body) with
    ⟨e, he⟩ | ⟨req, hreq⟩
  · rw [handle, he]
    rfl
  · rw [handle, hreq]
    rfl

/-- A backend that is the inference server at its address. -/
def Serves (backend : Backend) (fastapi : Framework) (llm : Llm) (url : String) : Prop :=
  ∀ req, req.url = url ++ "/v1/generate" →
    backend req = .ok (handle fastapi llm (req.headers.get contentType) req.body).response

section Gateway

variable [Crates] {backend : Backend} {fastapi : Framework} {url : String}

/-- The inference server gets the body and the content type that the gateway got. -/
theorem handleGenerate_serves (h : Serves backend fastapi llm url) (headers : HeaderMap)
    (body : Bytes) {status : StatusCode} {answer : Bytes}
    (hanswer : (handle fastapi llm (headers.get contentType) body).response
      = { status, transfer := .complete answer }) :
    (handleGenerate backend headers body (some url)).response = bytesResponse status answer := by
  have hforwards := forwards_backendRequest headers body url
  have hbackend := h _ hforwards.url_eq
  rw [hforwards.contentType_eq, hforwards.body_eq, hanswer] at hbackend
  exact handleGenerate_of_response hbackend

/-- What the gateway hands on calls the model as the body and its content type do. -/
theorem callsOf_handleGenerate (fastapi : Framework) (llm : Llm) (backend : Backend)
    (url : String) (headers : HeaderMap) (body : Bytes) :
    callsOf fastapi llm url (handleGenerate backend headers body (some url)).sent
      = (handle fastapi llm (headers.get contentType) body).calls := by
  have hforwards := forwards_backendRequest headers body url
  rw [handleGenerate_sent, callsOf, List.filter_cons, if_pos (decide_eq_true hforwards.url_eq),
    List.filter_nil, List.flatMap_singleton, hforwards.contentType_eq, hforwards.body_eq]

/-- Whoever sends a request through the gateway, what this hands on makes one call of the
model, within the limits, if the request is valid, and none otherwise. The answer has status
200 exactly when the request is valid and the model returned a choice, and then it is that
choice. -/
theorem gateway_relays_model (hfastapi : FrameworkDocumented fastapi)
    (h : Serves backend fastapi llm url) (headers : HeaderMap) (body : Bytes) :
    let handled := handleGenerate backend headers body (some url)
    let calls := callsOf fastapi llm url handled.sent
    calls = ((readRequest fastapi (headers.get contentType) body).toOption.map callOf).toList ∧
    WithinLimits calls ∧
    (handled.response.status = .ok ↔
      ∃ req c r, readRequest fastapi (headers.get contentType) body = .ok req ∧
        llm (callOf req) = .ok c ∧ c.response = some r) ∧
    ∀ req c r, readRequest fastapi (headers.get contentType) body = .ok req →
      llm (callOf req) = .ok c → c.response = some r →
      handled.response = bytesResponse .ok (fastapi.write r.toJson) ∧
        Json.parse handled.response.body = some r.toJson := by
  intro handled calls
  obtain ⟨status, answer, hresponse, hstatus, hanswer⟩ :=
    handle_response hfastapi llm (headers.get contentType) body
  have hrelayed : handled.response = bytesResponse status answer :=
    handleGenerate_serves h headers body hresponse
  have hcalls : calls = (handle fastapi llm (headers.get contentType) body).calls :=
    callsOf_handleGenerate fastapi llm backend url headers body
  rw [hcalls]
  refine ⟨calls_handle fastapi llm _ body, withinLimits_handle fastapi llm _ body, ?_, ?_⟩
  · rw [hrelayed]
    exact hstatus
  · intro req c r hreq hc hr
    rw [hrelayed, hstatus.mpr ⟨req, c, r, hreq, hc, hr⟩, hanswer req c r hreq hc hr]
    exact ⟨rfl, hfastapi.write_response r⟩

end Gateway

/-! ## The client's request -/

section Client

variable [Crates] {fastapi : Framework}

/-- The body the client sends. -/
def clientBody (prompt : String) (maxTokens : UInt32) : Bytes :=
  Crates.jsonToVec (Request.GenerateRequest.toJson ⟨prompt, maxTokens⟩)

/-- The server reads the client's prompt and limit, and checks the limit. -/
theorem readRequest_clientBody (htext : Crates.JsonTextDocumented)
    (hfastapi : FrameworkDocumented fastapi) (prompt : String) (maxTokens : UInt32) :
    readRequest fastapi (some (Text.utf8Bytes "application/json")) (clientBody prompt maxTokens)
      = okOr (fastapi.refusal (Request.GenerateRequest.toJson ⟨prompt, maxTokens⟩))
        (checkMaxTokens prompt maxTokens.toNat) := by
  have hread : fastapi.read (some (Text.utf8Bytes "application/json"))
      (clientBody prompt maxTokens)
        = .ok (Request.GenerateRequest.toJson ⟨prompt, maxTokens⟩) := by
    refine hfastapi.read_scalars _ _ ?_ ?_
    · rw [clientBody, htext.toVec_eq]
      exact Json.parse_print _
    · rw [List.forall_mem_cons, List.forall_mem_singleton]
      exact ⟨Or.inl ⟨_, rfl⟩, isScalar_ofU32 maxTokens⟩
  have hint : fastapi.int (Serde.ofU32 maxTokens) = some (maxTokens.toNat : ℤ) :=
    hfastapi.int_natural _ (maxTokens.toNat_lt.trans (by decide))
  have hprompt : lookup (([("prompt", Serde.ofString prompt),
      ("max_tokens", Serde.ofU32 maxTokens)] : List (String × Json)).map
        fun m => (Text.utf8Bytes m.1, m.2)) "prompt" = some (Serde.ofString prompt) := by
    rw [lookup_map]
    rfl
  have hlimit : lookup (([("prompt", Serde.ofString prompt),
      ("max_tokens", Serde.ofU32 maxTokens)] : List (String × Json)).map
        fun m => (Text.utf8Bytes m.1, m.2)) "max_tokens" = some (Serde.ofU32 maxTokens) := by
    rw [lookup_map]
    rfl
  rw [readRequest, hread, ok_bind]
  simp only [Request.GenerateRequest.toJson, Serde.ofMembers, GenerateRequest.ofJson, hprompt,
    hlimit, Option.bind_eq_bind, Option.bind_some, hfastapi.str_string, hint]

/-- What comes of a prompt: the first choice of the model, or the status of what goes
wrong. -/
def answerTo (llm : Llm) (prompt : String) (maxTokens : UInt32) :
    Except StatusCode GenerateResponse := do
  let req ← okOr .unprocessableEntity (checkMaxTokens prompt maxTokens.toNat)
  (generate llm req).mapError Exn.status

/-- What the client makes of it: a number of tokens has to fit its 32 bits. -/
def received (fastapi : Framework) (stack : Client.Stack) (statusError : ℕ → String) :
    Except StatusCode GenerateResponse → Except AnyhowError Request.GenerateResponse
  | .error status => .error (.msg (statusError status.code))
  | .ok r =>
    if r.tokensUsed < 2 ^ 32 then
      .ok { text := r.text, tokensUsed := UInt32.ofNat r.tokensUsed }
    else .error (.msg (stack.decodeError (Crates.jsonError (fastapi.write r.toJson))))

omit [Crates] in
/-- The client reads the response the inference server writes if its number fits. -/
theorem ofJson_response (r : GenerateResponse) : Request.GenerateResponse.ofJson r.toJson
    = if r.tokensUsed < 2 ^ 32 then
        some { text := r.text, tokensUsed := UInt32.ofNat r.tokensUsed }
      else none := by
  have hnames := Serde.names_map [("text", Serde.ofString r.text),
    ("tokens_used", .num (Json.Number.ofNat r.tokensUsed))]
  have htokens : Serde.u32 (.num (Json.Number.ofNat r.tokensUsed))
      = if r.tokensUsed < 2 ^ 32 then some (UInt32.ofNat r.tokensUsed) else none := by
    rw [Serde.u32, Json.Number.nat_ofNat]
    rfl
  rw [GenerateResponse.toJson, Serde.ofMembers, Request.GenerateResponse.ofJson, hnames]
  by_cases hfits : r.tokensUsed < 2 ^ 32
  · rw [if_pos hfits] at htokens ⊢
    simp [Serde.required, Serde.member, htokens]
  · rw [if_neg hfits] at htokens ⊢
    simp [Serde.required, Serde.member, htokens]

/-- What the client reads of the body of a response. -/
theorem decode_write (htext : Crates.JsonTextDocumented)
    (hfastapi : FrameworkDocumented fastapi) (r : GenerateResponse) :
    (Crates.jsonFromSlice (fastapi.write r.toJson)).bind Request.GenerateResponse.ofJson
      = if r.tokensUsed < 2 ^ 32 then
          some { text := r.text, tokensUsed := UInt32.ofNat r.tokensUsed }
        else none := by
  by_cases hfits : r.tokensUsed < 2 ^ 32
  · have hscalars : ∀ m ∈ [("text", Serde.ofString r.text),
        ("tokens_used", Json.num (Json.Number.ofNat r.tokensUsed))], Crates.IsScalar m.2 := by
      rw [List.forall_mem_cons, List.forall_mem_singleton]
      exact ⟨Or.inl ⟨_, rfl⟩, Or.inr ⟨_, hfits.trans (by decide), rfl⟩⟩
    have hread : Crates.jsonFromSlice (fastapi.write r.toJson) = some r.toJson :=
      htext.fromSlice_scalars _ _ (hfastapi.write_response r) hscalars
    rw [hread, Option.bind_some, ofJson_response]
  · -- a larger number may not be read, or is read and does not fit
    rw [if_neg hfits]
    cases hread : Crates.jsonFromSlice (fastapi.write r.toJson) with
    | none => rfl
    | some j =>
      have hsound := htext.fromSlice_sound _ _ hread
      rw [hfastapi.write_response, Option.some.injEq] at hsound
      rw [Option.bind_some, ← hsound, ofJson_response, if_neg hfits]

/-- The answer to the client's request. -/
theorem handle_clientBody (htext : Crates.JsonTextDocumented)
    (hfastapi : FrameworkDocumented fastapi) (llm : Llm) (prompt : String) (maxTokens : UInt32) :
    ∃ status answer,
      (handle fastapi llm (some (Text.utf8Bytes "application/json"))
        (clientBody prompt maxTokens)).response = { status, transfer := .complete answer } ∧
      ((∃ r, answerTo llm prompt maxTokens = .ok r ∧ status = .ok ∧
          answer = fastapi.write r.toJson) ∨
        (answerTo llm prompt maxTokens = .error status ∧
          (status = .unprocessableEntity ∨ status = .internalServerError))) := by
  have hread := readRequest_clientBody htext hfastapi prompt maxTokens
  cases hcheck : checkMaxTokens prompt maxTokens.toNat with
  | none =>
    rw [hcheck, okOr_none] at hread
    refine ⟨_, _, by rw [handle, hread], Or.inr ⟨?_, Or.inl (hfastapi.refusal_status _)⟩⟩
    rw [hfastapi.refusal_status, answerTo, hcheck, okOr_none, error_bind]
  | some req =>
    rw [hcheck, okOr_some] at hread
    have hhandle : (handle fastapi llm (some (Text.utf8Bytes "application/json"))
        (clientBody prompt maxTokens)).response = respond fastapi (generate llm req) := by
      rw [handle, hread]
    have hto : answerTo llm prompt maxTokens = (generate llm req).mapError Exn.status := by
      rw [answerTo, hcheck, okOr_some, ok_bind]
    rcases exists_error_or_exists_ok (generate llm req) with ⟨e, he⟩ | ⟨r, hr⟩
    · refine ⟨_, _, by rw [hhandle, he, respond], Or.inr ?_⟩
      rw [hfastapi.exception_status]
      exact ⟨by rw [hto, he, mapError_error], Or.inr (status_of_generate_eq_error he)⟩
    · refine ⟨.ok, fastapi.write r.toJson, by rw [hhandle, hr, respond],
        Or.inl ⟨r, ?_, rfl, rfl⟩⟩
      rw [hto, hr, mapError_ok]

/-- The client's request calls the model once with its prompt and limit, if the limit is one
of the server's. -/
theorem calls_clientBody (htext : Crates.JsonTextDocumented)
    (hfastapi : FrameworkDocumented fastapi) (llm : Llm) (prompt : String) (maxTokens : UInt32) :
    (handle fastapi llm (some (Text.utf8Bytes "application/json"))
        (clientBody prompt maxTokens)).calls
      = if 1 ≤ maxTokens.toNat ∧ maxTokens.toNat ≤ 4096 then
          [{ prompt, maxTokens := maxTokens.toNat, echo := false, stop := stopTokens }]
        else [] := by
  rw [calls_handle, readRequest_clientBody htext hfastapi]
  by_cases hlimits : 1 ≤ maxTokens.toNat ∧ maxTokens.toNat ≤ 4096
  · have hcheck : 1 ≤ (maxTokens.toNat : ℤ) ∧ (maxTokens.toNat : ℤ) ≤ 4096 := by omega
    rw [if_pos hlimits, checkMaxTokens, dif_pos hcheck]
    rfl
  · have hcheck : ¬ (1 ≤ (maxTokens.toNat : ℤ) ∧ (maxTokens.toNat : ℤ) ≤ 4096) := by omega
    rw [if_neg hlimits, checkMaxTokens, dif_neg hcheck]
    rfl

/-- Through the gateway the client reads the first choice of the model, or the failure that
the model or the limit gives. -/
theorem readAnswer_gateway (htext : Crates.JsonTextDocumented)
    (hfastapi : FrameworkDocumented fastapi) {llm : Llm} {backend : Backend} {url : String}
    (hbackend : Serves backend fastapi llm url) {headers : HeaderMap}
    (hct : headers.get contentType = some (Text.utf8Bytes "application/json"))
    (stack : Client.Stack) (statusError : ℕ → String) (prompt : String) (maxTokens : UInt32) :
    Client.readAnswer stack (.ok ((handleGenerate backend headers (clientBody prompt maxTokens)
        (some url)).response.received statusError))
      = received fastapi stack statusError (answerTo llm prompt maxTokens) := by
  obtain ⟨status, answer, hresponse, houtcome⟩ :=
    handle_clientBody htext hfastapi llm prompt maxTokens
  rw [← hct] at hresponse
  have hrelayed : (handleGenerate backend headers (clientBody prompt maxTokens)
      (some url)).response = bytesResponse status answer :=
    handleGenerate_serves hbackend headers (clientBody prompt maxTokens) hresponse
  rw [hrelayed]
  rcases houtcome with ⟨r, hto, rfl, rfl⟩ | ⟨hto, hstatus⟩
  · have hok : ¬ (400 ≤ StatusCode.ok.code ∧ StatusCode.ok.code < 600) := by decide
    rw [hto, readAnswer_received stack statusError hok, bytesResponse,
      decode_write htext hfastapi, received]
    by_cases hfits : r.tokensUsed < 2 ^ 32
    · rw [if_pos hfits, if_pos hfits, okOr_some]
    · rw [if_neg hfits, if_neg hfits, okOr_none]
  · have herror : 400 ≤ status.code ∧ status.code < 600 := by
      rcases hstatus with rfl | rfl
      · decide
      · decide
    rw [hto, readAnswer_received_of_status stack statusError herror]
    rfl

end Client

section Reference

open Reference

attribute [local instance] crates

def referenceFastapi : Framework where
  read contentType body :=
    if contentType = some (Text.utf8Bytes "application/json") then
      okOr (.unprocessableEntity, Text.utf8Bytes "\x7b\"detail\":[]\x7d") (Json.parse body)
    else .error (.unprocessableEntity, Text.utf8Bytes "\x7b\"detail\":[]\x7d")
  str := Serde.string
  int json :=
    match json with
    | .num n => n.nat.map Int.ofNat
    | _ => none
  refusal _ := (.unprocessableEntity, Text.utf8Bytes "\x7b\"detail\":[]\x7d")
  write := Json.print
  exception
    | .http status detail =>
      (status, Json.print (Serde.ofMembers [("detail", Serde.ofString detail)]))
    | .other _ => (.internalServerError, Text.utf8Bytes "Internal Server Error")

theorem frameworkDocumented : FrameworkDocumented referenceFastapi where
  read_scalars := by
    intro b ms hparse _
    simp only [referenceFastapi, if_true, hparse, okOr_some]
  read_error := by
    intro contentType b status answer h
    left
    simp only [referenceFastapi] at h
    split at h
    · exact (Prod.mk.inj (okOr_eq_error.mp h).2).1.symm
    · exact (Prod.mk.inj (Except.error.inj h)).1.symm
  refusal_status := fun _ => rfl
  str_string := Serde.string_ofString
  int_natural := by
    intro n _
    simp only [referenceFastapi, Json.Number.nat_ofNat]
    rfl
  exception_status := by
    intro e
    cases e with
    | http status detail => rfl
    | other text => rfl
  write_response := fun r => Json.parse_print r.toJson

/-- A model that has something to say to one prompt. -/
def referenceLlm : Llm := fun call =>
  if call.prompt = "hello" then
    .ok { choices := some [⟨some " world"⟩], usage := some ⟨some 2⟩ }
  else .error "no answer"

def referenceBackend : Backend := fun req =>
  .ok (handle referenceFastapi referenceLlm (req.headers.get contentType) req.body).response

theorem serves_referenceBackend (url : String) :
    Serves referenceBackend referenceFastapi referenceLlm url :=
  fun _ _ => rfl

def jsonHeaders : HeaderMap := [(contentType, Text.utf8Bytes "application/json")]

theorem readRequest_hello : readRequest referenceFastapi (jsonHeaders.get contentType)
    (Text.utf8Bytes "\x7b\"prompt\":\"hello\",\"max_tokens\":512\x7d")
      = .ok { prompt := "hello", maxTokens := 512, ge := by decide, le := by decide } := by
  have hbody : Text.utf8Bytes "\x7b\"prompt\":\"hello\",\"max_tokens\":512\x7d"
      = clientBody "hello" 512 := by decide
  rw [hbody]
  exact readRequest_clientBody jsonTextDocumented frameworkDocumented "hello" 512

/-- The model is called once with the prompt, and what it says is answered. -/
theorem gateway_relays_model_reference :
    let handled := handleGenerate referenceBackend jsonHeaders
      (Text.utf8Bytes "\x7b\"prompt\":\"hello\",\"max_tokens\":512\x7d")
      (some "http://127.0.0.1:8080")
    callsOf referenceFastapi referenceLlm "http://127.0.0.1:8080" handled.sent
        = [{ prompt := "hello", maxTokens := 512, echo := false, stop := stopTokens }] ∧
      handled.response = bytesResponse .ok
        (Text.utf8Bytes "\x7b\"text\":\" world\",\"tokens_used\":2\x7d") := by
  obtain ⟨hcalls, -, -, hanswer⟩ := gateway_relays_model frameworkDocumented
    (serves_referenceBackend "http://127.0.0.1:8080") jsonHeaders
    (Text.utf8Bytes "\x7b\"prompt\":\"hello\",\"max_tokens\":512\x7d")
  have hprint : Text.utf8Bytes "\x7b\"text\":\" world\",\"tokens_used\":2\x7d"
      = Json.print (GenerateResponse.toJson ⟨" world", 2⟩) := by decide
  rw [readRequest_hello] at hcalls
  rw [hprint]
  exact ⟨hcalls, (hanswer _ _ _ readRequest_hello rfl rfl).1⟩

end Reference

end Inference
end Sifir
