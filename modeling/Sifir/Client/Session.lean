import Sifir.Client.Main
import Sifir.Lib.Machines

/-!
# Clients on a network (`sifir-client/src/verifier.rs`, `sifir-client/src/main.rs`)

A run of the client message by message. In the handshake `rustls` asks the verifier
about the certificate of the server and then about its signature, and the request goes
out after both, under keys that only the maker of the server's share of the key exchange
has. What the network delivers, to whom and when, are events.
-/

namespace Sifir

open Lib

/-! ## The signature of the server -/

/-- `rustls::DigitallySignedStruct` -/
structure DigitallySignedStruct where
  scheme : ℕ
  sig : Bytes
deriving DecidableEq

/-- `HandshakeSignatureValid`, the mark of a signature that was verified. -/
inductive HandshakeSignatureValid where
  | assertion

/-- `CryptoProvider`, by what `rustls::crypto` verifies with its algorithms: a message, a
certificate and a signature. -/
structure CryptoProvider where
  verifyTls12Signature :
    Bytes → Bytes → DigitallySignedStruct → Except String HandshakeSignatureValid
  verifyTls13Signature :
    Bytes → Bytes → DigitallySignedStruct → Except String HandshakeSignatureValid
  supportedSchemes : List ℕ

namespace Verifier

def verifyTls12Signature (cryptoProvider : CryptoProvider) (message cert : Bytes)
    (dss : DigitallySignedStruct) : Except String HandshakeSignatureValid :=
  cryptoProvider.verifyTls12Signature message cert dss

def verifyTls13Signature (cryptoProvider : CryptoProvider) (message cert : Bytes)
    (dss : DigitallySignedStruct) : Except String HandshakeSignatureValid :=
  cryptoProvider.verifyTls13Signature message cert dss

def supportedVerifySchemes (cryptoProvider : CryptoProvider) : List ℕ :=
  cryptoProvider.supportedSchemes

end Verifier

namespace Client

/-! ## The handshake -/

inductive ProtocolVersion where
  | tls12
  | tls13
deriving DecidableEq

/-- What a client greets with: its random bytes, and the signature schemes it takes. -/
structure ClientHello where
  random : Bytes
  schemes : List ℕ
deriving DecidableEq

/-- What a client is answered: the server's share of the key exchange, certificates, and a
signature of the handshake so far. -/
structure ServerFlight where
  version : ProtocolVersion
  share : Bytes
  endEntity : Bytes
  intermediates : List Bytes
  ocsp : Bytes
  signature : DigitallySignedStruct
deriving DecidableEq

inductive HandshakeError where
  | certificate (e : TlsError)
  | signature (e : String)
deriving DecidableEq

/-- The libraries the client is on, by what it sees of them. -/
structure Stack where
  cryptoProvider : CryptoProvider
  /-- What is signed in a handshake: in TLS 1.3 all of it up to the certificates, in
  TLS 1.2 the random bytes of the hello and the share. -/
  signedMessage : ClientHello → ProtocolVersion → Bytes → List Bytes → Bytes
  /-- The error of a request whose handshake fails. -/
  handshakeError : HandshakeError → String
  decodeError : String → String
  /-- The path that is requested for a URL. -/
  path : String → String

def ServerFlight.checkSignature (stack : Stack) (hello : ClientHello) (f : ServerFlight) :
    Except String HandshakeSignatureValid :=
  let message := stack.signedMessage hello f.version f.share (f.endEntity :: f.intermediates)
  match f.version with
  | .tls12 => Verifier.verifyTls12Signature stack.cryptoProvider message f.endEntity f.signature
  | .tls13 => Verifier.verifyTls13Signature stack.cryptoProvider message f.endEntity f.signature

variable [Crates]

/-- What `rustls` asks the verifier before the connection can be used. -/
def handshake (stack : Stack) (verifier : AttestationVerifier) (serverName : String) (now : ℕ)
    (hello : ClientHello) (f : ServerFlight) : Except HandshakeError Unit := do
  let _ ← (Verifier.verifyServerCert verifier f.endEntity f.intermediates serverName f.ocsp
    now).mapError HandshakeError.certificate
  let _ ← (f.checkSignature stack hello).mapError HandshakeError.signature
  return ()

/-- The lines the verifier prints about the certificate. -/
def ServerFlight.printed (f : ServerFlight) (verifier : AttestationVerifier) (serverName : String)
    (now : ℕ) : List String :=
  (Verifier.verifyServerCertPrinting verifier f.endEntity f.intermediates serverName f.ocsp now).1

/-! ## The program in parts -/

omit [Crates] in
def requestUrl (args : Args) : String := s!"https://{args.server}/v1/generate"

def requestBody (args : Args) : Bytes :=
  Crates.jsonToVec
    ({ prompt := args.prompt, maxTokens := args.maxTokens } : Request.GenerateRequest).toJson

/-- The answer of the server, from the outcome of the request: the rest of `generate`. -/
def readAnswer (stack : Stack) (outcome : Except String Request.Response) :
    Except AnyhowError Request.GenerateResponse := do
  let response ← outcome.mapError AnyhowError.msg
  let response ← response.errorForStatus.mapError AnyhowError.msg
  let body ← response.bytes.mapError AnyhowError.msg
  Results.okOr (.msg (stack.decodeError (Crates.jsonError body)))
    ((Crates.jsonFromSlice body).bind Request.GenerateResponse.ofJson)

/-- The rest of the program, from the outcome of the request on. -/
def conclude (stack : Stack) (args : Args) (verifier : AttestationVerifier)
    (printed : List String) (outcome : Except String Request.Response) : Run :=
  report args verifier printed (readAnswer stack outcome)

/-! ## A session -/

inductive Phase where
  | idle
  | greeting (verifier : AttestationVerifier) (hello : ClientHello)
  /-- Its verifier has printed these lines. -/
  | waiting (verifier : AttestationVerifier) (printed : List String)
  | ended (run : Run)

/-- A run of the client with its arguments. -/
structure Session where
  args : Args
  phase : Phase

inductive ClientEvent where
  /-- The program runs: whether its HTTP client can be built, and the hello it makes. -/
  | started (built : Except String Unit) (hello : ClientHello)
  | flight (f : ServerFlight) (serverName : String) (now : ℕ)
  /-- The answer. A redirect, which the HTTP client would follow, is not one. -/
  | response (r : Request.Response)
  | broken (e : String)

/-- What a client puts on the network; a request can be read with the keys of a share. -/
inductive Output where
  | hello (h : ClientHello)
  | request (share : Bytes) (url : String) (body : Bytes)

/-- The program is over, and puts nothing more on the network. -/
def Session.exit (s : Session) (run : Run) : Session × List Output :=
  ({ s with phase := .ended run }, [])

def session (stack : Stack) : Machine Session ClientEvent Output where
  step s e :=
    match s.phase, e with
    | .idle, .started built hello =>
      match configure s.args with
      | .error e => s.exit { stderr := [], stdout := [], result := .error e }
      | .ok verifier =>
        match built with
        | .error e => s.exit (unbuilt verifier e)
        | .ok _ => ({ s with phase := .greeting verifier hello }, [.hello hello])
    | .greeting verifier hello, .flight f serverName now =>
      match handshake stack verifier serverName now hello f with
      | .error e =>
        s.exit (conclude stack s.args verifier (f.printed verifier serverName now)
          (.error (stack.handshakeError e)))
      | .ok _ => ({ s with phase := .waiting verifier (f.printed verifier serverName now) },
          [.request f.share (requestUrl s.args) (requestBody s.args)])
    | .greeting verifier _, .broken e => s.exit (conclude stack s.args verifier [] (.error e))
    | .waiting verifier printed, .response r =>
      s.exit (conclude stack s.args verifier printed (.ok r))
    | .waiting verifier printed, .broken e =>
      s.exit (conclude stack s.args verifier printed (.error e))
    | _, _ => (s, [])

/-! ## Many sessions -/

/-- What happens where clients run and parties sign handshakes. -/
inductive Event (π : Type) where
  | client (n : ℕ) (e : ClientEvent)
  /-- A party signs, with the key of this encoding, a handshake with a hello and a share. -/
  | signs (party : π) (spki : Bytes) (hello : ClientHello) (version : ProtocolVersion)
    (share : Bytes)

variable {π : Type}

omit [Crates] in
def Event.ofClient : Event π → Option (ℕ × ClientEvent)
  | .client n e => some (n, e)
  | .signs .. => none

/-- The sessions after a list of events, each a run of the client with its arguments, and
what they have put on the network. -/
def runClients (stack : Stack) (args : ℕ → Args) (events : List (Event π)) :
    (ℕ → Session) × List (ℕ × Output) :=
  (session stack).sideBySide.run (fun n => { args := args n, phase := .idle })
    (events.filterMap Event.ofClient)

end Client

end Sifir
