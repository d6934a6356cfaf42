import Sifir.Client.SessionTheorems
import Sifir.Inference.ServerTheorems
import Sifir.Server.AcceptanceTheorems
import Sifir.Server.ServeTheorems

/-!
# The whole system

A run of a server that was started, with the inference server behind its router, and a run
of clients that the network connects to it. From the arguments of both sides it follows
whether the prompt is sent, what is called with it, and what the client prints, whatever
happens on other connections and to other clients (`connected_outcome`).
-/

namespace Sifir
namespace Server

open Lib Machine Results Verifier Proxy

section

variable [Crates]

/-! ## The client's request at the router -/

/-- The request of a client as it arrives, with the headers of its HTTP client. -/
def clientRequest (stack : Client.Stack) (headers : HeaderMap) (args : Client.Args) :
    HttpRequest where
  method := .post
  path := stack.path (Client.requestUrl args)
  headers := headers
  body := .complete (Client.requestBody args)

variable {axum : Axum} {stack : Client.Stack} {args : Client.Args}

theorem handle_of_route_error {req : HttpRequest} {response : Proxy.Response} (backend : Backend)
    (state : AppState) (h : route axum req = .error response) :
    handle axum backend state req = { sent := [], stderr := [], response } := by
  rw [handle, h]

/-- The client reads an error status. -/
theorem readAnswer_of_route_error {req : HttpRequest} {status : StatusCode} (backend : Backend)
    (state : AppState) (statusError : ℕ → String)
    (h : ∃ response, route axum req = .error response ∧ response.status = status)
    (herror : 400 ≤ status.code ∧ status.code < 600) :
    Client.readAnswer stack (.ok ((handle axum backend state req).response.received statusError))
        = .error (.msg (statusError status.code)) ∧
      (handle axum backend state req).sent = [] := by
  rcases h with ⟨response, hroute, rfl⟩
  rw [handle_of_route_error backend state hroute]
  exact ⟨readAnswer_received_of_status stack statusError herror, rfl⟩

section

variable (haxum : AxumDocumented axum)
  (hpath : stack.path (Client.requestUrl args) = "/v1/generate")
  (hlen : (Client.requestBody args).length ≤ axum.bodyLimit)
include haxum hpath hlen

theorem handle_clientRequest (backend : Backend) (state : AppState) (headers : HeaderMap) :
    handle axum backend state (clientRequest stack headers args)
      = generateHandler backend state headers (Client.requestBody args) := by
  have hroute : route axum (clientRequest stack headers args) = .ok (Client.requestBody args) :=
    route_generate haxum hpath rfl rfl hlen
  rw [handle, hroute]
  rfl

theorem readAnswer_echo (hjson : Crates.SerdeJsonDocumented) (backend : Backend)
    {state : AppState} (headers : HeaderMap) (statusError : ℕ → String)
    (hnone : state.backendUrl = none) :
    Client.readAnswer stack (.ok ((handle axum backend state
        (clientRequest stack headers args)).response.received statusError))
      = .ok { text := s!"[mock inference] echo: {args.prompt}", tokensUsed := 0 } := by
  have hresponse : (handle axum backend state (clientRequest stack headers args)).response
      = { status := .ok, mediaType := "application/json",
          body := Crates.jsonToVec (GenerateResponse.toJson
            ⟨s!"[mock inference] echo: {args.prompt}", 0⟩) } := by
    rw [handle_clientRequest haxum hpath hlen backend state headers, generateHandler, hnone]
    exact echoResponse_toJson hjson args.prompt args.maxTokens
  have hok : ¬ (400 ≤ StatusCode.ok.code ∧ StatusCode.ok.code < 600) := by decide
  rw [hresponse, readAnswer_received stack statusError hok, hjson.fromSlice_toVec,
    Option.bind_some, ofJson_toJson, okOr_some]

theorem readAnswer_model (htext : Crates.JsonTextDocumented) {fastapi : Inference.Framework}
    (hfastapi : Inference.FrameworkDocumented fastapi) {llm : Inference.Llm} {backend : Backend}
    {url : String} (hbackend : Inference.Serves backend fastapi llm url) {state : AppState}
    {headers : HeaderMap}
    (hct : headers.get contentType = some (Text.utf8Bytes "application/json"))
    (statusError : ℕ → String) (hsome : state.backendUrl = some url) :
    Client.readAnswer stack (.ok ((handle axum backend state
        (clientRequest stack headers args)).response.received statusError))
      = Inference.received fastapi stack statusError
        (Inference.answerTo llm args.prompt args.maxTokens) := by
  rw [handle_clientRequest haxum hpath hlen backend state headers, generateHandler, hsome]
  exact Inference.readAnswer_gateway htext hfastapi hbackend hct stack statusError args.prompt
    args.maxTokens

/-- What is handed on calls the model with the prompt and limit of the client. -/
theorem callsOf_clientRequest (htext : Crates.JsonTextDocumented)
    {fastapi : Inference.Framework} (hfastapi : Inference.FrameworkDocumented fastapi)
    (llm : Inference.Llm) (backend : Backend) {url : String} {state : AppState}
    {headers : HeaderMap}
    (hct : headers.get contentType = some (Text.utf8Bytes "application/json"))
    (hsome : state.backendUrl = some url) :
    Inference.callsOf fastapi llm url
        (handle axum backend state (clientRequest stack headers args)).sent
      = if 1 ≤ args.maxTokens.toNat ∧ args.maxTokens.toNat ≤ 4096 then
          [{ prompt := args.prompt, maxTokens := args.maxTokens.toNat, echo := false,
             stop := Inference.stopTokens }]
        else [] := by
  rw [handle_clientRequest haxum hpath hlen backend state headers, generateHandler, hsome,
    Inference.callsOf_handleGenerate, hct]
  exact Inference.calls_clientBody htext hfastapi llm args.prompt args.maxTokens

end

/-! ## A request in a run of the server -/

/-- The request that is handed to the HTTP client under a number. -/
def Output.handedFor (k : ℕ) : Output → Option BackendRequest
  | .handed k' breq => if k' = k then some breq else none
  | _ => none

omit [Crates] in
theorem filterMap_handedFor_eq_nil {k : ℕ} {out : List Output}
    (h : ∀ breq, Output.handed k breq ∉ out) : out.filterMap (Output.handedFor k) = [] := by
  rw [List.filterMap_eq_nil_iff]
  intro o ho
  cases o with
  | handed k' breq =>
    refine if_neg fun heq => ?_
    exact h breq (heq ▸ ho)
  | response k' response => rfl
  | stderr line => rfl

omit [Crates] in
/-- Where each number is handed on once, so is this request. -/
theorem filterMap_handedFor_eq_singleton {k : ℕ} {breq : BackendRequest} {out : List Output}
    (honce : (out.filterMap Output.forward).Nodup) (h : Output.handed k breq ∈ out) :
    out.filterMap (Output.handedFor k) = [breq] := by
  induction out with
  | nil => cases h
  | cons o out ih =>
    have hrest : (out.filterMap Output.forward).Nodup :=
      (List.Sublist.filterMap Output.forward (List.sublist_cons_self o out)).nodup honce
    -- a number that is handed on is not among the rest
    have hfresh : ∀ k' breq', o = .handed k' breq' → ∀ breq'', Output.handed k' breq'' ∉ out := by
      intro k' breq' ho breq'' hmem
      have hcons : (o :: out).filterMap Output.forward = k' :: out.filterMap Output.forward := by
        rw [ho]
        rfl
      rw [hcons] at honce
      exact (List.nodup_cons.mp honce).1 (mem_forward.mpr ⟨breq'', hmem⟩)
    rcases List.mem_cons.mp h with heq | hmem
    · have hself : o.handedFor k = some breq := by
        rw [← heq]
        exact if_pos rfl
      rw [List.filterMap_cons_some hself, filterMap_handedFor_eq_nil (hfresh k breq heq.symm)]
    · have hother : o.handedFor k = none := by
        cases o with
        | handed k' breq' =>
          refine if_neg fun heq => ?_
          subst heq
          exact hfresh _ breq' rfl breq hmem
        | response k' response => rfl
        | stderr line => rfl
      rw [List.filterMap_cons_none hother, ih hrest hmem]

/-- The router depends on the backend by the outcome of what is handed on. -/
theorem handle_congr {backend backend' : Backend} {state : AppState} {req : HttpRequest}
    (h : ∀ breq ∈ (handle axum backend state req).sent, backend breq = backend' breq) :
    handle axum backend state req = handle axum backend' state req := by
  cases hbegin : begin axum state req with
  | answered response => rw [handle_of_answered backend hbegin, handle_of_answered backend' hbegin]
  | handed breq =>
    rw [handle_of_handed backend hbegin] at h
    rw [handle_of_handed backend hbegin, handle_of_handed backend' hbegin,
      h breq List.mem_cons_self]

/-- A request that is number `k` on connection `i` of a run of the server gets this response,
and the outcomes of what is handed on for it are those of the backend. -/
structure Served (axum : Axum) (state : AppState) (backend : Backend) (events : List Event)
    (i k : ℕ) (req : HttpRequest) (response : Proxy.Response) : Prop where
  arrived : (((serve axum state).run .start events).1.connections i).requests[k]? = some req
  answered : Output.response k response ∈ entriesOf i ((serve axum state).run .start events).2
  backend : ∀ breq outcome,
    Output.handed k breq ∈ entriesOf i ((serve axum state).run .start events).2 →
    TaskEvent.happened (.backend k outcome) ∈ entriesOf i (schedule 0 events) →
      outcome = backend breq

/-- What is handed on for a request in a run of the server. -/
def handedFor (axum : Axum) (state : AppState) (events : List Event) (i k : ℕ) :
    List BackendRequest :=
  (entriesOf i ((serve axum state).run .start events).2).filterMap (Output.handedFor k)

section

variable {state : AppState} {backend : Backend} {events : List Event} {i k : ℕ}
  {req : HttpRequest} {response : Proxy.Response}

/-- It gets the answer the router alone has for it, and no more is handed on for it than by
the router alone. -/
theorem Served.alone (h : Served axum state backend events i k req response) :
    response = (handle axum backend state req).response ∧
    handedFor axum state events i k = (handle axum backend state req).sent := by
  obtain ⟨hconn, hout⟩ := run_serve_connection axum state events i
  have harrived := h.arrived
  have hanswered := h.answered
  have hinv := connectionInv_run axum state (entriesOf i (schedule 0 events))
  rw [hconn] at harrived
  rw [hout] at hanswered
  obtain ⟨req', hreq', backend', hresponse, hsent⟩ := hinv.answered k response hanswered
  obtain rfl : req = req' := Option.some.inj (harrived.symm.trans hreq')
  have hsame : ∀ breq ∈ (handle axum backend' state req).sent, backend' breq = backend breq := by
    intro breq hbreq
    obtain ⟨hhanded, houtcome⟩ := hsent breq hbreq
    rw [← hout] at hhanded
    exact h.backend breq _ hhanded houtcome
  rw [handle_congr hsame] at hresponse hsent
  refine ⟨hresponse, ?_⟩
  rw [handedFor, hout]
  cases hbegin : begin axum state req with
  | answered response' =>
    rw [handle_of_answered backend hbegin]
    refine filterMap_handedFor_eq_nil fun breq hmem => ?_
    rcases hinv.forwarded k breq hmem with ⟨req', hreq', hhanded⟩
    obtain rfl : req = req' := Option.some.inj (harrived.symm.trans hreq')
    rw [hbegin] at hhanded
    cases hhanded
  | handed breq =>
    rw [handle_of_handed backend hbegin] at hsent ⊢
    exact filterMap_handedFor_eq_singleton hinv.forwarded_once (hsent breq List.mem_cons_self).1

end

/-! ## Connections -/

variable {π : Type}

/-- The network connects a session to a server with this configuration: the client is shown
its certificates with a signature that verifies, before anything else happens to it. -/
structure Connected (stack : Client.Stack) (config : Crates.ServerConfig)
    (events : List (Client.Event π)) (n : ℕ) (hello : Client.ClientHello)
    (f : Client.ServerFlight) (serverName : String) (now : ℕ) (more : List Client.ClientEvent) :
    Prop where
  certificates : f.endEntity :: f.intermediates = Crates.certChain config
  signed : f.checkSignature stack hello = .ok .assertion
  happened : entriesOf n (events.filterMap Client.Event.ofClient)
    = .started (.ok ()) hello :: .flight f serverName now :: more

variable {config : Crates.ServerConfig} {events : List (Client.Event π)} {n : ℕ}
  {hello : Client.ClientHello} {f : Client.ServerFlight} {serverName : String} {now : ℕ}
  {more : List Client.ClientEvent} {verifier : AttestationVerifier} {der : Bytes}

theorem Connected.endEntity_eq (hconn : Connected stack config events n hello f serverName now more)
    (hder : Crates.certChain config = [der]) : f.endEntity = der :=
  (List.cons.inj (hconn.certificates.trans hder)).1

/-- The verifier says at last that it is content exactly if the client accepts the
certificate. -/
theorem Connected.verifiedLine_mem_iff
    (hconn : Connected stack config events n hello f serverName now more)
    (hder : Crates.certChain config = [der]) :
    verifiedLine ∈ f.printed verifier serverName now ↔ Accepts verifier der := by
  rw [← hconn.endEntity_eq hder, Client.ServerFlight.printed, Verifier.verifiedLine_mem_iff]
  exact ⟨fun h => ⟨_, _, _, _, h⟩, fun h => Client.verifyServerCert_of_accepts h _ _ _ _⟩

/-- A client that accepts the certificate sends its request, and then waits for what becomes
of it. -/
theorem Connected.accepted (hconn : Connected stack config events n hello f serverName now more)
    (hder : Crates.certChain config = [der]) (args : ℕ → Client.Args)
    (hconf : Client.configure (args n) = .ok verifier) (hacc : Accepts verifier der) :
    ((Client.runClients stack args events).1 n).phase
        = Client.settled stack (args n) verifier (f.printed verifier serverName now)
          (more.findSome? Client.ClientEvent.outcome) ∧
    entriesOf n (Client.runClients stack args events).2 = [.hello hello,
      .request f.share (Client.requestUrl (args n)) (Client.requestBody (args n))] := by
  rw [← hconn.endEntity_eq hder] at hacc
  have hshake : Client.handshake stack verifier serverName now hello f = .ok () :=
    Client.handshake_eq_ok.mpr ⟨Client.verifyServerCert_of_accepts hacc _ _ _ _, hconn.signed⟩
  obtain ⟨hstate, hout⟩ := Client.runClients_session stack args events n
  rw [hstate, hout, hconn.happened, Client.run_answered hconf hshake]
  exact ⟨rfl, rfl⟩

/-- A client that does not accept it ends and sends nothing after its hello. -/
theorem Connected.refused (hconn : Connected stack config events n hello f serverName now more)
    (hder : Crates.certChain config = [der]) (args : ℕ → Client.Args)
    (hconf : Client.configure (args n) = .ok verifier) (hacc : ¬ Accepts verifier der) :
    (∃ e, ((Client.runClients stack args events).1 n).phase = .ended (Client.report (args n)
      verifier (f.printed verifier serverName now)
      (.error (.msg (stack.handshakeError (.certificate e)))))) ∧
    entriesOf n (Client.runClients stack args events).2 = [.hello hello] := by
  rw [← hconn.endEntity_eq hder] at hacc
  have herror : ∃ e, verifyServerCert verifier f.endEntity f.intermediates serverName f.ocsp now
      = .error e := by
    rw [← not_ok_iff]
    intro hok
    rcases hok with ⟨v, hv⟩
    cases v
    exact hacc ⟨_, _, _, _, hv⟩
  rcases herror with ⟨e, he⟩
  have hshake : Client.handshake stack verifier serverName now hello f
      = .error (.certificate e) := by
    rw [Client.handshake, he]
    rfl
  obtain ⟨hstate, hout⟩ := Client.runClients_session stack args events n
  rw [hstate, hout, hconn.happened, Client.run_refused hconf hshake]
  exact ⟨⟨e, rfl⟩, rfl⟩

end

/-! ## Server and client -/

section

variable [Crates] {dev : AmdAttestation.SnpGuest} {http : AmdAttestation.Http}
  {process : GpuAttestation.Process} {features : Features} {rng : Tls.Randomness}
  {serverArgs : Args} {setup : TlsSetup} {state : AppState} {axum : Axum}

/-- What a client that expects the setup's measurement or none, and suits it, gets for its
request from a started server: the error of a status where the path is not the handler's or
the request too long, its own prompt where there is no backend, and what the model says where
the inference server is behind it. Of what is `handed` to the HTTP client for it the model is
called once if the limit is one of the server's, and nothing is handed on otherwise. -/
structure Answered (axum : Axum) (stack : Client.Stack) (backend : Backend)
    (backendUrl : Option String) (headers : HeaderMap) (statusError : ℕ → String)
    (args : Client.Args) (handed : List BackendRequest)
    (answer : Except AnyhowError Request.GenerateResponse) : Prop where
  notFound : stack.path (Client.requestUrl args) ≠ "/v1/generate" →
    stack.path (Client.requestUrl args) ≠ "/health" →
      answer = .error (.msg (statusError 404)) ∧ handed = []
  notAllowed : stack.path (Client.requestUrl args) = "/health" →
    answer = .error (.msg (statusError 405)) ∧ handed = []
  tooLong : stack.path (Client.requestUrl args) = "/v1/generate" →
    axum.bodyLimit < (Client.requestBody args).length →
      answer = .error (.msg (statusError 413)) ∧ handed = []
  echo : stack.path (Client.requestUrl args) = "/v1/generate" →
    (Client.requestBody args).length ≤ axum.bodyLimit → backendUrl = none →
      answer = .ok { text := s!"[mock inference] echo: {args.prompt}", tokensUsed := 0 } ∧
      handed = []
  model : stack.path (Client.requestUrl args) = "/v1/generate" →
    (Client.requestBody args).length ≤ axum.bodyLimit → ∀ url, backendUrl = some url →
    headers.get contentType = some (Text.utf8Bytes "application/json") → ∀ fastapi llm,
    Inference.FrameworkDocumented fastapi → Inference.Serves backend fastapi llm url →
      answer = Inference.received fastapi stack statusError
        (Inference.answerTo llm args.prompt args.maxTokens) ∧
      Inference.callsOf fastapi llm url handed
        = if 1 ≤ args.maxTokens.toNat ∧ args.maxTokens.toNat ≤ 4096 then
            [{ prompt := args.prompt, maxTokens := args.maxTokens.toNat, echo := false,
               stop := Inference.stopTokens }]
          else []

theorem answered_handle (hjson : Crates.SerdeJsonDocumented) (htext : Crates.JsonTextDocumented)
    (haxum : AxumDocumented axum) (stack : Client.Stack) (backend : Backend) (state : AppState)
    (headers : HeaderMap) (statusError : ℕ → String) (args : Client.Args) :
    let handled := handle axum backend state (clientRequest stack headers args)
    Answered axum stack backend state.backendUrl headers statusError args handled.sent
      (Client.readAnswer stack (.ok (handled.response.received statusError))) where
  notFound hgenerate hhealth :=
    readAnswer_of_route_error backend state statusError
      (route_notFound haxum hgenerate hhealth) (by decide)
  notAllowed hpath :=
    readAnswer_of_route_error backend state statusError
      (route_health haxum hpath rfl) (by decide)
  tooLong hpath hlong :=
    readAnswer_of_route_error backend state statusError
      (route_tooLong haxum hpath rfl rfl hlong) (by decide)
  echo hpath hlen hnone := by
    refine ⟨readAnswer_echo haxum hpath hlen hjson backend headers statusError hnone, ?_⟩
    rw [handle_clientRequest haxum hpath hlen backend state headers, generateHandler, hnone]
    rfl
  model hpath hlen url hsome hct fastapi llm hfastapi hbackend :=
    ⟨readAnswer_model haxum hpath hlen htext hfastapi hbackend hct statusError hsome,
      callsOf_clientRequest haxum hpath hlen htext hfastapi llm backend hct hsome⟩

/-- A server is started, and the network connects a session of a client to it, among any
others. The verifier of the client is content exactly if the client is of the server's mode
and expects its measurement or none (and the report, its chain and the GPU token verify,
where there are such). Then the client sends its request, and ends with the first thing that
becomes of it; and where this is the response to the request in a run of the server with any
connections, it ends with the answer to its prompt alone. Otherwise it ends with the error of
the verifier, whatever happens after, and has sent nothing but its hello. -/
theorem connected_outcome (hjson : Crates.SerdeJsonDocumented)
    (htext : Crates.JsonTextDocumented) (hb64 : Crates.Base64Documented)
    (hrcgen : Crates.RcgenDocumented) (hrustls : Crates.RustlsDocumented)
    (hoid : Crates.oidParse attestOidStr = .ok attestOidArcs) (hsec1 : Crates.Sec1Documented)
    (hfmt : Crates.SignatureFormatDocumented) (hsign : Crates.SignDocumented)
    (haxum : AxumDocumented axum)
    (hserver : (start dev http process features rng serverArgs).result = .ok (setup, state))
    (args : ℕ → Client.Args) {n : ℕ} {verifier : AttestationVerifier}
    (hconf : Client.configure (args n) = .ok verifier) {π : Type} {stack : Client.Stack}
    {events : List (Client.Event π)} {hello : Client.ClientHello} {f : Client.ServerFlight}
    {serverName : String} {now : ℕ} {more : List Client.ClientEvent}
    (hconn : Connected stack setup.serverConfig events n hello f serverName now more) :
    ∃ kind kp p, chooseSetup features serverArgs = .ok kind ∧ Tls.Generates rng kp p ∧
      let suits := kind.Suits dev http process p verifier ∧
        (verifier.expectedMeasurement = Vector.replicate 48 0 ∨
          verifier.expectedMeasurement = setup.measurement)
      let phase := ((Client.runClients stack args events).1 n).phase
      let out := entriesOf n (Client.runClients stack args events).2
      let printed := f.printed verifier serverName now
      (verifiedLine ∈ printed ↔ suits) ∧
      (suits →
        out = [.hello hello,
          .request f.share (Client.requestUrl (args n)) (Client.requestBody (args n))] ∧
        phase = Client.settled stack (args n) verifier printed
          (more.findSome? Client.ClientEvent.outcome) ∧
        ∀ headers statusError backend serverEvents i k response,
          Served axum state backend serverEvents i k (clientRequest stack headers (args n))
            response →
          more.findSome? Client.ClientEvent.outcome = some (.ok (response.received statusError)) →
          ∃ answer, phase = .ended (Client.report (args n) verifier printed answer) ∧
            Answered axum stack backend serverArgs.backend headers statusError (args n)
              (handedFor axum state serverEvents i k) answer) ∧
      (¬ suits →
        (∃ e, phase = .ended (Client.report (args n) verifier printed
          (.error (.msg (stack.handshakeError (.certificate e)))))) ∧
        out = [.hello hello]) := by
  obtain ⟨kind, kp, p, hkind, hgen, der, hder, hacc⟩ := accepts_start_iff hjson hb64 hrcgen hrustls
    hoid hsec1 hfmt hsign hserver
  obtain ⟨-, -, -, hstate⟩ := start_eq_ok.mp hserver
  refine ⟨kind, kp, p, hkind, hgen, ?_⟩
  intro suits phase out printed
  refine ⟨(hconn.verifiedLine_mem_iff hder).trans (hacc verifier), fun hsuits => ?_,
    fun hnot => hconn.refused hder args hconf fun haccepts => hnot ((hacc verifier).mp haccepts)⟩
  obtain ⟨hphase, hout⟩ := hconn.accepted hder args hconf ((hacc verifier).mpr hsuits)
  refine ⟨hout, hphase, ?_⟩
  intro headers statusError backend serverEvents i k response hserved hanswer
  obtain ⟨hresponse, hhanded⟩ := hserved.alone
  have hanswered := answered_handle hjson htext haxum stack backend state headers statusError
    (args n)
  have hurl : state.backendUrl = serverArgs.backend := by rw [hstate]
  simp only at hanswered
  rw [← hresponse, ← hhanded, hurl] at hanswered
  refine ⟨_, ?_, hanswered⟩
  show ((Client.runClients stack args events).1 n).phase = _
  rw [hphase, hanswer]
  rfl

end

section Reference

open Reference AmdAttestation Tls Windows
open Client (gpuClient gpuClientArgs configure_gpuClientArgs)

attribute [local instance] crates

def gpuArgs : Args where
  backend := some "http://127.0.0.1:8080"
  amd := true
  snpProduct := "Genoa"
  gpuCc := true
  gpuAttestScript := some "gpu_attest.py"

/-- Server A as it runs on its chip with the sidecar. -/
theorem start_serverA : (start chipDevice referenceKds GpuAttestation.referencePython ⟨true, true⟩
    rngA gpuArgs).result
      = .ok (⟨([gpuCertA.der], ServerKey.a.pkcs8), amdMeasurement⟩,
          ⟨some "http://127.0.0.1:8080"⟩) := by
  have hget := getSnpReport_chipDevice (userDataOf (Crates.sha256 ServerKey.a.spki))
  have hfetch : fetchVcekChain referenceKds (signedReport .a amdMeasurement vcekSignatureA) "Genoa"
      = .ok [vcek.der, ask.der, ark.der] :=
    fetchVcekChain_of_answers ⟨rfl, ⟨_, rfl, rfl, rfl⟩, _, rfl, rfl, rfl⟩
      (isBundle_pemText base64Documented _)
  have hmeas := (measurement_signedReport .a amdMeasurement vcekSignatureA).symm
  refine start_eq_ok.mpr ⟨.amdGpu "Genoa" "gpu_attest.py", rfl, ?_, rfl⟩
  exact (buildAmdGpuSetup_of_generates generates_rngA hget hfetch
    GpuAttestation.getGpuJwt_referencePython _).mpr
      ⟨buildServerCert_serverCert gpuCertA_mem rfl _, hmeas⟩

theorem verifyGpuJwt_serverA : GpuVerify.verifyGpuJwt tokenA ServerKey.a.spki
    = .ok { gpuModel := "H100", ccMode := "on" } := by
  have hclaims := GpuVerify.tokenClaims_token .a (by decide : '.' ∉ "c2lnQQ".toList)
  refine GpuVerify.verifyGpuJwt_eq_ok.mpr ⟨_, hclaims, ?_⟩
  rw [GpuVerify.expectedNonce_spki]
  exact ⟨rfl, rfl, by decide, rfl⟩

/-- What a client of AMD mode that checks the GPU asks for, server A has. -/
theorem suits_serverA : (SetupKind.amdGpu "Genoa" "gpu_attest.py").Suits chipDevice referenceKds
    GpuAttestation.referencePython ServerKey.a.spki ⟨amdMeasurement, .amdSevSnp, true⟩ := by
  have hget := getSnpReport_chipDevice (userDataOf (Crates.sha256 ServerKey.a.spki))
  obtain ⟨chain, hchain, hauth⟩ := genuineEvidence_serverA.authentic
  exact ⟨rfl, ⟨_, chain, hget, hchain, genuineEvidence_serverA.1, hauth⟩,
    fun _ => ⟨tokenA, _, GpuAttestation.getGpuJwt_referencePython, verifyGpuJwt_serverA⟩⟩

def statusText (code : ℕ) : String := s!"HTTP status client error ({code})"

theorem length_requestBody :
    (Client.requestBody gpuClientArgs).length ≤ referenceAxum.bodyLimit := by
  decide

def stateOfA : AppState := ⟨some "http://127.0.0.1:8080"⟩

def requestToA : HttpRequest :=
  clientRequest Client.referenceStack Inference.jsonHeaders gpuClientArgs

/-- What server A hands on for the reference model. -/
def handedByA : BackendRequest :=
  backendRequest Inference.jsonHeaders (Client.requestBody gpuClientArgs) "http://127.0.0.1:8080"

/-- A connection that fails before the client's, and the request on the client's. -/
def serverEventsOfA : List Event :=
  [.accept "127.0.0.1:50001", .accept "127.0.0.1:50002", .connection 0 (.handshake (.error "eof")),
    .connection 1 (.handshake (.ok ())), .connection 1 (.request requestToA),
    .connection 1 (.backend 0 (Inference.referenceBackend handedByA))]

def responseOfA : Proxy.Response :=
  (handle referenceAxum Inference.referenceBackend stateOfA requestToA).response

theorem path_gpuClientArgs :
    Client.referenceStack.path (Client.requestUrl gpuClientArgs) = "/v1/generate" := by
  decide

theorem begin_requestToA : begin referenceAxum stateOfA requestToA = .handed handedByA := by
  have hroute : route referenceAxum requestToA = .ok (Client.requestBody gpuClientArgs) :=
    route_generate axumDocumented path_gpuClientArgs rfl rfl length_requestBody
  rw [begin, hroute]
  rfl

/-- The failed handshake on the first connection does nothing to the second. -/
theorem served_serverA : Served referenceAxum stateOfA Inference.referenceBackend serverEventsOfA
    1 0 requestToA responseOfA := by
  have hevents : entriesOf 1 (schedule 0 serverEventsOfA)
      = [.accepted "127.0.0.1:50002", .happened (.handshake (.ok ()))] ++
        [.happened (.request requestToA),
          .happened (.backend 0 (Inference.referenceBackend handedByA))] := rfl
  have hopen : (task referenceAxum stateOfA).run .idle [.accepted "127.0.0.1:50002",
      .happened (.handshake (.ok ()))] = (⟨.serving "127.0.0.1:50002", [], []⟩, []) := rfl
  have hrequest : (task referenceAxum stateOfA).step ⟨.serving "127.0.0.1:50002", [], []⟩
      (.happened (.request requestToA))
        = (⟨.serving "127.0.0.1:50002", [requestToA], [0]⟩, [.handed 0 handedByA]) := by
    simp only [task, begin_requestToA]
    rfl
  have hanswer : (task referenceAxum stateOfA).step ⟨.serving "127.0.0.1:50002", [requestToA], [0]⟩
      (.happened (.backend 0 (Inference.referenceBackend handedByA)))
        = (⟨.serving "127.0.0.1:50002", [requestToA], []⟩, [.response 0 responseOfA]) := by
    rw [responseOfA, handle_of_handed _ begin_requestToA]
    rfl
  have hrun : (task referenceAxum stateOfA).run .idle (entriesOf 1 (schedule 0 serverEventsOfA))
      = (⟨.serving "127.0.0.1:50002", [requestToA], []⟩,
          [.handed 0 handedByA, .response 0 responseOfA]) := by
    rw [hevents, run_append, hopen]
    simp only [run_cons, run_nil, hrequest, hanswer, List.nil_append, List.append_nil,
      List.cons_append]
  obtain ⟨hconn, hout⟩ := run_serve_connection referenceAxum stateOfA serverEventsOfA 1
  rw [hrun] at hconn hout
  refine ⟨?_, ?_, fun breq outcome hsent hhappened => ?_⟩
  · rw [hconn]
    rfl
  · rw [hout]
    exact List.mem_cons_of_mem _ List.mem_cons_self
  · rw [hout] at hsent
    rw [hevents] at hhappened
    have hbreq : breq = handedByA := by simpa using hsent
    have houtcome : outcome = Inference.referenceBackend handedByA := by simpa using hhappened
    rw [hbreq, houtcome]

def eventsOfA : List (Client.Event Empty) :=
  [.client 0 (.started (.ok ()) Client.sampleHello),
    .client 0 (.flight (Client.sampleFlight gpuCertA) "127.0.0.1" 0),
    .client 0 (.response (responseOfA.received statusText))]

theorem connected_serverA : Connected Client.referenceStack ([gpuCertA.der], ServerKey.a.pkcs8)
    eventsOfA 0 Client.sampleHello (Client.sampleFlight gpuCertA) "127.0.0.1" 0
      [.response (responseOfA.received statusText)] where
  certificates := by
    rw [Client.endEntity_sampleFlight]
    rfl
  signed := Client.checkSignature_sampleFlight (Or.inr rfl)
  happened := rfl

theorem attests_gpuCertA : Attests gpuCertA.der ServerKey.a.spki (amdExtension (some tokenA))
    (signedReport .a amdMeasurement vcekSignatureA) :=
  attests_serverCert gpuCertA_mem rfl rfl

/-- What the verifier of the client prints about server A. -/
theorem printed_serverA (h : Accepts gpuClient gpuCertA.der) :
    (Client.sampleFlight gpuCertA).printed gpuClient "127.0.0.1" 0
      = [cpuLine, gpuLine { gpuModel := "H100", ccMode := "on" }, verifiedLine] := by
  have hclaims : gpuClaims (amdExtension (some tokenA)) ServerKey.a.spki
      = .ok { gpuModel := "H100", ccMode := "on" } := by
    simp only [gpuClaims, amdExtension, verifyGpuJwt_serverA, mapError_ok]
  rw [Client.ServerFlight.printed, Client.endEntity_sampleFlight]
  exact h.printed attests_gpuCertA rfl hclaims

/-- The client prints what its verifier says and what the model of server A, called once, says
to its prompt. -/
theorem connected_outcome_serverA :
    ((Client.runClients Client.referenceStack (fun _ => gpuClientArgs) eventsOfA).1 0).phase
      = .ended {
          stderr := ["[client] will verify measurement: " ++ hexText amdMeasurement.toList,
            "[client] connecting to https://127.0.0.1:7443",
            "[client] CPU attestation verified (AMD SEV-SNP / mock)",
            "[client] GPU attestation verified: model=H100, cc_mode=on",
            "[client] attestation verified successfully", "[client] tokens used: 2"]
          stdout := [" world"]
          result := .ok () } ∧
    Inference.callsOf Inference.referenceFastapi Inference.referenceLlm "http://127.0.0.1:8080"
        (handedFor referenceAxum stateOfA serverEventsOfA 1 0)
      = [{ prompt := "hello", maxTokens := 512, echo := false, stop := Inference.stopTokens }] := by
  obtain ⟨kind, kp, p, hkind, hgen, hline, haccepted, -⟩ := connected_outcome serdeJsonDocumented
    jsonTextDocumented base64Documented rcgenDocumented rustlsDocumented oidParse_attestOidStr
    sec1Documented signatureFormatDocumented signDocumented axumDocumented start_serverA
    (fun _ => gpuClientArgs) configure_gpuClientArgs connected_serverA
  obtain rfl : SetupKind.amdGpu "Genoa" "gpu_attest.py" = kind := Except.ok.inj hkind
  obtain ⟨rfl, rfl⟩ := hgen.unique generates_rngA
  obtain ⟨-, -, hserved⟩ := haccepted ⟨suits_serverA, Or.inr rfl⟩
  obtain ⟨answer, hphase, hanswer⟩ := hserved Inference.jsonHeaders statusText _ _ _ _ _
    served_serverA rfl
  obtain ⟨hmodel, hcalls⟩ := hanswer.model path_gpuClientArgs length_requestBody _ rfl rfl _ _
    Inference.frameworkDocumented (Inference.serves_referenceBackend _)
  have haccepts := (connected_serverA.verifiedLine_mem_iff rfl).mp
    (hline.mpr ⟨suits_serverA, Or.inr rfl⟩)
  refine ⟨?_, hcalls⟩
  rw [hphase, hmodel, printed_serverA haccepts]
  have hnotice : Client.measurementNotice gpuClient.expectedMeasurement
      = "[client] will verify measurement: " ++ hexText amdMeasurement.toList := by
    have hne : gpuClient.expectedMeasurement ≠ Vector.replicate measurementSize 0 := by decide
    rw [Client.measurementNotice, if_neg hne]
    rfl
  show Client.Phase.ended (Client.report gpuClientArgs gpuClient _ (.ok ⟨" world", 2⟩)) = _
  simp only [Client.report, hnotice]
  rfl

end Reference

end Server
end Sifir
