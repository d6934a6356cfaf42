import Sifir.Lib.Machines
import Sifir.Server.Main

/-!
# The connections of the server (`sifir-server/src/main.rs`, from the accept loop on)

Every connection is accepted into a task of its own, which makes the TLS handshake and
then answers the requests on the connection with the router. A request for the backend is
handed to the HTTP client and waits while others are answered. Handshakes, requests and what
the HTTP client has are events. Routing is that of `axum`, a parameter.
-/

namespace Sifir
namespace Server

open Lib Proxy

/-! ## The router -/

inductive Method where
  | get
  | head
  | post
  | other (name : String)
deriving DecidableEq

/-- A request as it arrives. The path is without a query. -/
structure HttpRequest where
  method : Method
  path : String
  headers : HeaderMap
  body : Transfer
deriving DecidableEq

inductive Handler where
  | generate
  | health
deriving DecidableEq

/-- A route, as it is added to the router. -/
structure Route where
  path : String
  method : Method
  handler : Handler
deriving DecidableEq

def routes : List Route :=
  [⟨"/v1/generate", .post, .generate⟩, ⟨"/health", .get, .health⟩]

/-- What `axum` does with routes and requests. -/
structure Axum where
  /-- The handler of a request, or the answer where no route has one. -/
  dispatch : List Route → HttpRequest → Except Response Handler
  /-- The body of a request as `Bytes`, or the answer where it cannot be had. -/
  extractBytes : HttpRequest → Except Response Bytes
  /-- The answer of a `get` route, from that of its handler. -/
  answerGet : HttpRequest → Response → Response
  /-- The length up to which a body is read. -/
  bodyLimit : ℕ

def healthHandler : Response := textResponse .ok "ok"

/-- The body for `generate_handler` of a request that gets there, or the answer to it. -/
def route (axum : Axum) (req : HttpRequest) : Except Response Bytes :=
  match axum.dispatch routes req with
  | .error response => .error response
  | .ok .generate => axum.extractBytes req
  | .ok .health => .error (axum.answerGet req healthHandler)

variable [Crates]

/-- The router on a request, from its arrival to its answer. -/
def handle (axum : Axum) (backend : Backend) (state : AppState) (req : HttpRequest) : Handled :=
  match route axum req with
  | .error response => { sent := [], stderr := [], response }
  | .ok body => generateHandler backend state req.headers body

/-! ## A request in two parts -/

/-- Where a request is when it first has to wait: answered, or handed to the HTTP client. -/
inductive Begun where
  | answered (response : Response)
  | handed (req : BackendRequest)
deriving DecidableEq

def begin (axum : Axum) (state : AppState) (req : HttpRequest) : Begun :=
  match route axum req with
  | .error response => .answered response
  | .ok body =>
    match state.backendUrl with
    | none => .answered (echoResponse body)
    | some url => .handed (backendRequest req.headers body url)

omit [Crates] in
/-- What is printed and answered when the HTTP client is through. -/
def finish : Except String BackendResponse → List String × Response
  | .ok resp =>
    ([], bytesResponse ((StatusCode.fromU16 resp.status.code).getD .internalServerError)
      (resp.transfer.bytes.toOption.getD []))
  | .error e =>
    ([s!"[proxy] backend error: {e}"], textResponse .badGateway s!"backend unavailable: {e}")

/-! ## A connection -/

inductive Phase where
  | idle
  | handshaking (peer : String)
  | serving (peer : String)
  | ended
deriving DecidableEq

/-- A connection, with its requests in order and those of them that wait for the HTTP
client. -/
structure Connection where
  phase : Phase
  requests : List HttpRequest
  awaiting : List ℕ
deriving DecidableEq

def Connection.idle : Connection := { phase := .idle, requests := [], awaiting := [] }

/-- What happens to a connection that was accepted. -/
inductive ConnEvent where
  | handshake (result : Except String Unit)
  | request (req : HttpRequest)
  /-- What the HTTP client has for a request that was handed to it. -/
  | backend (k : ℕ) (outcome : Except String BackendResponse)
  | ended (result : Except String Unit)
deriving DecidableEq

inductive TaskEvent where
  | accepted (peer : String)
  | happened (e : ConnEvent)
deriving DecidableEq

/-- What a task does, with the number of the request. -/
inductive Output where
  /-- A request is handed to the HTTP client, which adds headers of its own, and sends it
  wherever the backend redirects it. -/
  | handed (k : ℕ) (req : BackendRequest)
  | response (k : ℕ) (response : Response)
  | stderr (line : String)
deriving DecidableEq

/-- The task of a connection. -/
def task (axum : Axum) (state : AppState) : Machine Connection TaskEvent Output where
  step c
    | .accepted peer =>
      match c.phase with
      | .idle => ({ c with phase := .handshaking peer }, [])
      | _ => (c, [])
    | .happened e =>
      match c.phase, e with
      | .handshaking peer, .handshake (.ok _) => ({ c with phase := .serving peer }, [])
      | .handshaking peer, .handshake (.error err) =>
        ({ c with phase := .ended },
          [.stderr s!"[sifir-server] TLS accept error from {peer}: {err}"])
      | .serving _, .request req =>
        let k := c.requests.length
        match begin axum state req with
        | .answered response =>
          ({ c with requests := c.requests ++ [req] }, [.response k response])
        | .handed breq =>
          ({ c with requests := c.requests ++ [req], awaiting := c.awaiting ++ [k] },
            [.handed k breq])
      | .serving _, .backend k outcome =>
        if k ∈ c.awaiting then
          ({ c with awaiting := c.awaiting.filter (· ≠ k) },
            (finish outcome).1.map .stderr ++ [.response k (finish outcome).2])
        else (c, [])
      | .serving _, .ended (.ok _) => ({ c with phase := .ended, awaiting := [] }, [])
      | .serving peer, .ended (.error err) =>
        ({ c with phase := .ended, awaiting := [] },
          [.stderr s!"[sifir-server] connection error from {peer}: {err}"])
      | _, _ => (c, [])

/-! ## The loop -/

inductive Event where
  | accept (peer : String)
  | acceptError (e : String)
  /-- Something happens to the connection of this number, in the order of acceptance. -/
  | connection (i : ℕ) (e : ConnEvent)
deriving DecidableEq

/-- The server: the number of connections accepted, the tasks, and the error that ended
the loop. -/
structure Loop where
  accepted : ℕ
  stopped : Option String
  connections : ℕ → Connection

def Loop.start : Loop := { accepted := 0, stopped := none, connections := fun _ => .idle }

/-- The loop of `main`. Its end is the end of the program, and of every task. -/
def serve (axum : Axum) (state : AppState) : Machine Loop Event (ℕ × Output) where
  step s event :=
    match s.stopped, event with
    | some _, _ => (s, [])
    | none, .accept peer =>
      let r := (task axum state).sideBySide.step s.connections (s.accepted, .accepted peer)
      ({ s with accepted := s.accepted + 1, connections := r.1 }, r.2)
    | none, .acceptError e => ({ s with stopped := some e }, [])
    | none, .connection i e =>
      let r := (task axum state).sideBySide.step s.connections (i, .happened e)
      ({ s with connections := r.1 }, r.2)

/-! ## What the documentation of `axum` says -/

/-- A path that stands for itself only. -/
def Route.Static (r : Route) : Prop :=
  r.path.toList.head? = some '/' ∧ ':' ∉ r.path.toList ∧ '*' ∉ r.path.toList

/-- A request goes to the route of its path and method. Without one it is not found, or its
method is not allowed; HEAD requests are left to `get` routes. A body is read up to the
limit. -/
structure AxumDocumented (axum : Axum) : Prop where
  dispatch_route : ∀ rs r req, (∀ r ∈ rs, r.Static) →
    (rs.map fun r => (r.path, r.method)).Nodup → r ∈ rs → req.path = r.path →
    req.method = r.method → axum.dispatch rs req = .ok r.handler
  dispatch_method : ∀ rs req, (∀ r ∈ rs, r.Static) → (∃ r ∈ rs, req.path = r.path) →
    req.method ≠ .head → (∀ r ∈ rs, req.path = r.path → req.method ≠ r.method) →
    ∃ response, axum.dispatch rs req = .error response ∧ response.status = .methodNotAllowed
  dispatch_notFound : ∀ rs req, (∀ r ∈ rs, r.Static) → (∀ r ∈ rs, req.path ≠ r.path) →
    ∃ response, axum.dispatch rs req = .error response ∧ response.status = .notFound
  extractBytes_complete : ∀ req b, req.body = .complete b → b.length ≤ axum.bodyLimit →
    axum.extractBytes req = .ok b
  extractBytes_tooLong : ∀ req b, req.body = .complete b → axum.bodyLimit < b.length →
    ∃ response, axum.extractBytes req = .error response ∧ response.status = .payloadTooLarge

end Server
end Sifir
