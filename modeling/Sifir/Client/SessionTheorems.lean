import Sifir.Client.MainTheorems
import Sifir.Client.Session
import Sifir.Client.VerifierTheorems

/-!
# To whom clients send their prompts

The program in parts is the program (`main_eq_conclude`), and a session is in one of a few
places (`reached_run`). So whatever a network delivers to any number of clients, a prompt
goes to the holder of a key with evidence that its client accepts
(`prompts_go_to_key_holders`).
-/

namespace Sifir
namespace Client

open Lib Machine Results Verifier Windows

section Sessions

variable [Crates] {stack : Stack} {args : Args} {verifier : AttestationVerifier}

/-! ## The program in parts -/

/-- Beside the certificate nothing makes a difference to the verifier. -/
theorem verifyServerCert_of_accepts {der : Bytes} (h : Accepts verifier der)
    (intermediates : List Bytes) (serverName : String) (ocsp : Bytes) (now : ℕ) :
    verifyServerCert verifier der intermediates serverName ocsp now = .ok .assertion := by
  rcases h with ⟨intermediates', serverName', ocsp', now', hok⟩
  exact verifyServerCert_eq_ok.mpr (verifyServerCert_eq_ok.mp hok)

omit [Crates] in
theorem checkSignature_tls12 {hello : ClientHello} {f : ServerFlight} (h : f.version = .tls12) :
    f.checkSignature stack hello = stack.cryptoProvider.verifyTls12Signature
      (stack.signedMessage hello f.version f.share (f.endEntity :: f.intermediates)) f.endEntity
      f.signature := by
  simp only [ServerFlight.checkSignature, h, verifyTls12Signature]

/-- A handshake that goes through has a certificate the verifier accepts and a signature
that verifies. -/
theorem handshake_eq_ok {serverName : String} {now : ℕ} {hello : ClientHello} {f : ServerFlight} :
    handshake stack verifier serverName now hello f = .ok () ↔
      verifyServerCert verifier f.endEntity f.intermediates serverName f.ocsp now
        = .ok .assertion ∧
      f.checkSignature stack hello = .ok .assertion := by
  simp only [handshake, bind_eq_ok, mapError_eq_ok, pure_eq_ok_iff, and_true]
  constructor
  · intro h
    rcases h with ⟨v, hcert, v', hsig⟩
    cases v
    cases v'
    exact ⟨hcert, hsig⟩
  · intro h
    exact ⟨_, h.1, _, h.2⟩

/-! ## Steps of a session -/

theorem step_started (hconf : configure args = .ok verifier) (hello : ClientHello) :
    (session stack).step ⟨args, .idle⟩ (.started (.ok ()) hello)
      = (⟨args, .greeting verifier hello⟩, [.hello hello]) := by
  simp only [session, hconf]

theorem step_flight {hello : ClientHello} {f : ServerFlight} {serverName : String} {now : ℕ}
    (hshake : handshake stack verifier serverName now hello f = .ok ()) :
    (session stack).step ⟨args, .greeting verifier hello⟩ (.flight f serverName now)
      = (⟨args, .waiting verifier (f.printed verifier serverName now)⟩,
          [.request f.share (requestUrl args) (requestBody args)]) := by
  simp only [session, hshake]

/-- A program that is over stays so. -/
theorem run_ended (run : Run) (es : List ClientEvent) :
    (session stack).run ⟨args, .ended run⟩ es = (⟨args, .ended run⟩, []) := by
  induction es with
  | nil => rfl
  | cons e es ih =>
    have hstep : (session stack).step ⟨args, .ended run⟩ e = (⟨args, .ended run⟩, []) := rfl
    rw [run_cons, hstep, ih]
    rfl

/-- What becomes of the request in an event. -/
def ClientEvent.outcome : ClientEvent → Option (Except String Request.Response)
  | .response r => some (.ok r)
  | .broken e => some (.error e)
  | _ => none

/-- Where a session is that has sent its request, by what has become of it. -/
def settled (stack : Stack) (args : Args) (verifier : AttestationVerifier)
    (printed : List String) : Option (Except String Request.Response) → Phase
  | none => .waiting verifier printed
  | some outcome => .ended (conclude stack args verifier printed outcome)

/-- A session that waits ends with what becomes of its request in an event, if anything. -/
theorem step_waiting (printed : List String) (e : ClientEvent) :
    (session stack).step ⟨args, .waiting verifier printed⟩ e
      = (⟨args, settled stack args verifier printed e.outcome⟩, []) := by
  cases e with
  | started built hello => rfl
  | flight f serverName now => rfl
  | response r => rfl
  | broken e => rfl

/-- It ends with the first thing that becomes of its request. -/
theorem run_waiting (printed : List String) (es : List ClientEvent) :
    (session stack).run ⟨args, .waiting verifier printed⟩ es
      = (⟨args, settled stack args verifier printed (es.findSome? ClientEvent.outcome)⟩, []) := by
  induction es with
  | nil => rfl
  | cons e es ih =>
    have hstep := @step_waiting _ stack args verifier printed e
    cases hout : e.outcome with
    | none =>
      rw [hout, settled] at hstep
      rw [run_cons, hstep, ih, List.findSome?_cons, hout]
      rfl
    | some outcome =>
      rw [hout, settled] at hstep
      rw [run_cons, hstep, run_ended, List.findSome?_cons, hout]
      rfl

/-- A session whose hello is answered with a handshake that goes through, whatever comes
after. -/
theorem run_answered (hconf : configure args = .ok verifier) {hello : ClientHello}
    {f : ServerFlight} {serverName : String} {now : ℕ}
    (hshake : handshake stack verifier serverName now hello f = .ok ()) (more : List ClientEvent) :
    (session stack).run ⟨args, .idle⟩
        (.started (.ok ()) hello :: .flight f serverName now :: more)
      = (⟨args, settled stack args verifier (f.printed verifier serverName now)
            (more.findSome? ClientEvent.outcome)⟩,
          [.hello hello, .request f.share (requestUrl args) (requestBody args)]) := by
  rw [run_cons, step_started hconf, run_cons, step_flight hshake, run_waiting]
  rfl

/-- A session whose handshake does not go through, whatever comes after. -/
theorem run_refused (hconf : configure args = .ok verifier) {hello : ClientHello}
    {f : ServerFlight} {serverName : String} {now : ℕ} {e : HandshakeError}
    (hshake : handshake stack verifier serverName now hello f = .error e)
    (more : List ClientEvent) :
    (session stack).run ⟨args, .idle⟩
        (.started (.ok ()) hello :: .flight f serverName now :: more)
      = (⟨args, .ended (conclude stack args verifier (f.printed verifier serverName now)
            (.error (stack.handshakeError e)))⟩, [.hello hello]) := by
  have hflight : (session stack).step ⟨args, .greeting verifier hello⟩ (.flight f serverName now)
      = (⟨args, .ended (conclude stack args verifier (f.printed verifier serverName now)
          (.error (stack.handshakeError e)))⟩, []) := by
    simp only [session, hshake, Session.exit]
  rw [run_cons, step_started hconf, run_cons, hflight, run_ended]
  rfl

/-! ## Where a session is -/

/-- The HTTP client of a run, by whether it is built, what its verifier prints and what
comes of its request. -/
def connection (stack : Stack) (built : Except String Unit) (printed : List String)
    (outcome : Except String Request.Response) :
    AttestationVerifier → Except String Request.HttpClient :=
  fun _ => built.map fun _ =>
    { post := fun _ _ => outcome, printed, decodeError := stack.decodeError }

/-- Where a session is after its events, and what it has put on the network. -/
inductive Reached (stack : Stack) (args : Args) (es : List ClientEvent) :
    Phase → List Output → Prop
  | idle : Reached stack args es .idle []
  | failed {built : Except String Unit} {run : Run} (hrun : ∀ printed outcome,
      run = main (connection stack built printed outcome) args)
    (hfailed : ∃ e, run.result = .error e) : Reached stack args es (.ended run) []
  | greeting {verifier : AttestationVerifier} {hello : ClientHello}
    (hconf : configure args = .ok verifier) (hstart : .started (.ok ()) hello ∈ es) :
    Reached stack args es (.greeting verifier hello) [.hello hello]
  | refused {verifier : AttestationVerifier} {hello : ClientHello} {printed : List String}
    {e : String} (hconf : configure args = .ok verifier)
    (hstart : .started (.ok ()) hello ∈ es)
    (hprinted : printed ≠ [] → ∃ f serverName now, .flight f serverName now ∈ es ∧
      printed = f.printed verifier serverName now) :
    Reached stack args es (.ended (conclude stack args verifier printed (.error e)))
      [.hello hello]
  | waiting {verifier : AttestationVerifier} {hello : ClientHello} {f : ServerFlight}
    {serverName : String} {now : ℕ} (hconf : configure args = .ok verifier)
    (hstart : .started (.ok ()) hello ∈ es) (hflight : .flight f serverName now ∈ es)
    (hshake : handshake stack verifier serverName now hello f = .ok ()) :
    Reached stack args es (.waiting verifier (f.printed verifier serverName now))
      [.hello hello, .request f.share (requestUrl args) (requestBody args)]
  | concluded {verifier : AttestationVerifier} {hello : ClientHello} {f : ServerFlight}
    {serverName : String} {now : ℕ} {outcome : Except String Request.Response}
    (hconf : configure args = .ok verifier)
    (hstart : .started (.ok ()) hello ∈ es) (hflight : .flight f serverName now ∈ es)
    (hshake : handshake stack verifier serverName now hello f = .ok ())
    (houtcome : ∀ r, outcome = .ok r → .response r ∈ es) :
    Reached stack args es
      (.ended (conclude stack args verifier (f.printed verifier serverName now) outcome))
      [.hello hello, .request f.share (requestUrl args) (requestBody args)]

theorem Reached.mono {es : List ClientEvent} {phase : Phase} {out : List Output}
    (h : Reached stack args es phase out) (es' : List ClientEvent) :
    Reached stack args (es ++ es') phase out := by
  have hmem : ∀ {e : ClientEvent}, e ∈ es → e ∈ es ++ es' := fun he => List.mem_append_left _ he
  cases h with
  | idle => exact .idle
  | failed hrun hfailed => exact .failed hrun hfailed
  | greeting hconf hstart => exact .greeting hconf (hmem hstart)
  | refused hconf hstart hprinted =>
    refine .refused hconf (hmem hstart) fun hsome => ?_
    rcases hprinted hsome with ⟨f, serverName, now, hflight, heq⟩
    exact ⟨f, serverName, now, hmem hflight, heq⟩
  | waiting hconf hstart hflight hshake =>
    exact .waiting hconf (hmem hstart) (hmem hflight) hshake
  | concluded hconf hstart hflight hshake houtcome =>
    exact .concluded hconf (hmem hstart) (hmem hflight) hshake fun r hr => hmem (houtcome r hr)

/-- A session that starts. -/
theorem reached_started (built : Except String Unit) (hello : ClientHello)
    (es : List ClientEvent) :
    Reached stack args (es ++ [.started built hello])
      ((session stack).step ⟨args, .idle⟩ (.started built hello)).1.phase
      ((session stack).step ⟨args, .idle⟩ (.started built hello)).2 := by
  rcases exists_error_or_exists_ok (configure args) with ⟨e, he⟩ | ⟨verifier, hconf⟩
  · have hstep : (session stack).step ⟨args, .idle⟩ (.started built hello)
        = (⟨args, .ended { stderr := [], stdout := [], result := .error e }⟩, []) := by
      simp only [session, he, Session.exit]
    rw [hstep]
    exact .failed (fun printed outcome =>
      (main_of_configure_error he (connection stack built printed outcome)).symm) ⟨e, rfl⟩
  · rcases exists_error_or_exists_ok built with ⟨e, he⟩ | ⟨u, hbuilt⟩
    · have hstep : (session stack).step ⟨args, .idle⟩ (.started built hello)
          = (⟨args, .ended (unbuilt verifier e)⟩, []) := by
        simp only [session, hconf, he, Session.exit]
      rw [hstep]
      refine @Reached.failed _ stack args _ built _ (fun printed outcome => ?_) ⟨_, rfl⟩
      have hconnect : connection stack built printed outcome verifier = .error e := by
        rw [he]
        rfl
      rw [main_of_configure_ok hconf, hconnect]
    · rw [hbuilt, step_started hconf]
      exact .greeting hconf (List.mem_append_right _ List.mem_cons_self)

/-- A session that is answered its hello. -/
theorem reached_flight {es : List ClientEvent} {hello : ClientHello} {out : List Output}
    (h : Reached stack args es (.greeting verifier hello) out) (f : ServerFlight)
    (serverName : String) (now : ℕ) :
    Reached stack args (es ++ [.flight f serverName now])
      ((session stack).step ⟨args, .greeting verifier hello⟩ (.flight f serverName now)).1.phase
      (out ++ ((session stack).step ⟨args, .greeting verifier hello⟩
        (.flight f serverName now)).2) := by
  cases h with
  | greeting hconf hstart =>
    have hstart' := List.mem_append_left [ClientEvent.flight f serverName now] hstart
    rcases exists_error_or_exists_ok (handshake stack verifier serverName now hello f) with
      ⟨e, he⟩ | ⟨u, hshake⟩
    · simp only [session, he, Session.exit]
      exact .refused hconf hstart' fun _ =>
        ⟨f, serverName, now, List.mem_append_right _ List.mem_cons_self, rfl⟩
    · rw [step_flight hshake]
      exact .waiting hconf hstart' (List.mem_append_right _ List.mem_cons_self) hshake

theorem reached_step {es : List ClientEvent} {s : Session} {out : List Output} (e : ClientEvent)
    (hargs : s.args = args) (h : Reached stack args es s.phase out) :
    ((session stack).step s e).1.args = args ∧
    Reached stack args (es ++ [e]) ((session stack).step s e).1.phase
      (out ++ ((session stack).step s e).2) := by
  obtain ⟨args', phase⟩ := s
  obtain rfl : args' = args := hargs
  -- an event that is not for the phase changes nothing
  have hstays : Reached stack args' (es ++ [e]) phase (out ++ []) := by
    rw [List.append_nil]
    exact h.mono [e]
  cases phase with
  | idle =>
    cases h
    cases e with
    | started built hello =>
      refine ⟨?_, reached_started built hello es⟩
      simp only [session]
      split
      · rfl
      · split
        · rfl
        · rfl
    | flight f serverName now => exact ⟨rfl, hstays⟩
    | response r => exact ⟨rfl, hstays⟩
    | broken e => exact ⟨rfl, hstays⟩
  | greeting verifier hello =>
    cases e with
    | started built hello => exact ⟨rfl, hstays⟩
    | flight f serverName now =>
      refine ⟨?_, reached_flight h f serverName now⟩
      simp only [session]
      split
      · rfl
      · rfl
    | response r => exact ⟨rfl, hstays⟩
    | broken e =>
      cases h with
      | greeting hconf hstart =>
        exact ⟨rfl, .refused hconf (List.mem_append_left _ hstart) fun hsome => absurd rfl hsome⟩
  | waiting verifier printed =>
    cases e with
    | started built hello => exact ⟨rfl, hstays⟩
    | flight f serverName now => exact ⟨rfl, hstays⟩
    | response r =>
      cases h with
      | waiting hconf hstart hflight hshake =>
        refine ⟨rfl, .concluded hconf (List.mem_append_left _ hstart)
          (List.mem_append_left _ hflight) hshake fun r' hr' => ?_⟩
        rw [← Except.ok.inj hr']
        exact List.mem_append_right _ List.mem_cons_self
    | broken e =>
      cases h with
      | waiting hconf hstart hflight hshake =>
        exact ⟨rfl, .concluded hconf (List.mem_append_left _ hstart)
          (List.mem_append_left _ hflight) hshake fun r' hr' => by cases hr'⟩
  | ended run =>
    cases e with
    | started built hello => exact ⟨rfl, hstays⟩
    | flight f serverName now => exact ⟨rfl, hstays⟩
    | response r => exact ⟨rfl, hstays⟩
    | broken e => exact ⟨rfl, hstays⟩

/-- Every session is in one of these places, with the arguments it has. -/
theorem reached_run (stack : Stack) (args : Args) (es : List ClientEvent) :
    ((session stack).run ⟨args, .idle⟩ es).1.args = args ∧
    Reached stack args es ((session stack).run ⟨args, .idle⟩ es).1.phase
      ((session stack).run ⟨args, .idle⟩ es).2 :=
  (session stack).run_invariant
    (fun es s out => s.args = args ∧ Reached stack args es s.phase out) ⟨rfl, .idle⟩
    (fun _ _ _ e h => reached_step e h.1 h.2) es

/-! ## Many sessions -/

variable {π : Type}

/-- A session does among others what it does alone. -/
theorem runClients_session (stack : Stack) (args : ℕ → Args) (events : List (Event π)) (n : ℕ) :
    let alone := (session stack).run ⟨args n, .idle⟩ (entriesOf n (events.filterMap Event.ofClient))
    (runClients stack args events).1 n = alone.1 ∧
    entriesOf n (runClients stack args events).2 = alone.2 :=
  (session stack).run_sideBySide n (events.filterMap Event.ofClient)
    fun n => { args := args n, phase := .idle }

theorem reached_runClients (stack : Stack) (args : ℕ → Args) (events : List (Event π)) (n : ℕ) :
    ((runClients stack args events).1 n).args = args n ∧
    Reached stack (args n) (entriesOf n (events.filterMap Event.ofClient))
      ((runClients stack args events).1 n).phase
      (entriesOf n (runClients stack args events).2) := by
  obtain ⟨hstate, hout⟩ := runClients_session stack args events n
  rw [hstate, hout]
  exact reached_run stack (args n) _

/-- A run with one more event of a client. -/
theorem runClients_concat (stack : Stack) (args : ℕ → Args) (events : List (Event π)) (n : ℕ)
    (e : ClientEvent) :
    entriesOf n (runClients stack args (events ++ [.client n e])).2
      = entriesOf n (runClients stack args events).2
        ++ ((session stack).step ((runClients stack args events).1 n) e).2 := by
  have hevents : (events ++ [Event.client n e]).filterMap Event.ofClient
      = events.filterMap Event.ofClient ++ [(n, e)] := List.filterMap_append
  rw [runClients, hevents, run_concat, entriesOf_append]
  exact congrArg _ (entriesOf_map_self n _)

end Sessions

section Reference

open Reference

attribute [local instance] crates

/-! ## A reference session -/

def sampleArgs : Args where
  server := "127.0.0.1:7443"
  expectedMeasurement := hexText zeroMeasurement.toList
  prompt := "hello"

theorem configure_hexText {args : Args} {m : Vector UInt8 measurementSize}
    (h : args.expectedMeasurement = hexText m.toList) :
    configure args = .ok ⟨m, if args.amd then .amdSevSnp else .mock, args.gpuCc⟩ := by
  refine (configure_eq_ok hexDocumented).mpr ⟨?_, rfl, rfl⟩
  have htext : args.expectedMeasurement = String.ofList (Hex.encode m.toList) := h
  rw [spells_iff, htext, String.toList_ofList, trim_encode]
  exact Hex.decode_encode _

theorem configure_sampleArgs : configure sampleArgs = .ok ⟨zeroMeasurement, .mock, false⟩ :=
  configure_hexText rfl

/-- A client of AMD mode that expects the chip's measurement and checks the GPU. -/
def gpuClientArgs : Args where
  server := "127.0.0.1:7443"
  expectedMeasurement := hexText amdMeasurement.toList
  amd := true
  gpuCc := true
  prompt := "hello"

def gpuClient : AttestationVerifier := ⟨amdMeasurement, .amdSevSnp, true⟩

theorem configure_gpuClientArgs : configure gpuClientArgs = .ok gpuClient :=
  configure_hexText rfl

/-- A TLS 1.2 handshake of server A, with X25519. -/
def sampleHello : ClientHello where
  random := (List.range 32).map UInt8.ofNat
  schemes := [0x0403]

def sampleShare : Bytes :=
  (List.range 32).map (fun i => UInt8.ofNat (0x40 + i)) ++ [0x03, 0x00, 0x1d, 0x20]
    ++ Ecdsa.beBytes 32 0x07a37cbc142093c8b755dc1b10e86cb426374ad16aa853ed0bdfc0b2b86d1c7c

def sampleSignature : DigitallySignedStruct where
  scheme := 0x0403
  sig := derSignature 0x571451fd237912989da5b5bcda34cf42eabe94b4334f9e42ded68816560587c8
    0x86912a4dda9aad93c4d73bd9f76444c8b40ddc2aefd9f248e11cfd4c166a19c4

/-- Server A answers with one of its certificates. -/
def sampleFlight (c : ServerCert) : ServerFlight where
  version := .tls12
  share := sampleShare
  endEntity := c.der
  intermediates := []
  ocsp := []
  signature := sampleSignature

/-- A handshake with a party that has key B and a share of its own. -/
def selfMadeShare : Bytes :=
  (List.range 32).map (fun i => UInt8.ofNat (0x60 + i)) ++ [0x03, 0x00, 0x1d, 0x20]
    ++ Ecdsa.beBytes 32 0x5869aff450549732cbaaed5e5df9b30a6da31cb0e5742bad5ad4a1a768f1a67b

def selfMadeFlight : ServerFlight where
  version := .tls12
  share := selfMadeShare
  endEntity := selfMadeCertB.der
  intermediates := []
  ocsp := []
  signature := {
    scheme := 0x0403
    sig := derSignature 0xc555cb706b473eb6a85e14be5a16e66b6b8807153bec351e09e51fe5df402185
      0xf963a610254380be6ee2968a190e4d0c704f6a5bf22d8cb19f2431f3ea2c2f44 }

/-- The signatures of these handshakes verify under the keys they are made with. -/
def referenceProvider : CryptoProvider where
  verifyTls12Signature message cert dss :=
    if (message = sampleHello.random ++ sampleShare ∧
        (cert = mockCertA.der ∨ cert = gpuCertA.der) ∧ dss = sampleSignature) ∨
      (message = sampleHello.random ++ selfMadeShare ∧ cert = selfMadeCertB.der ∧
        dss = selfMadeFlight.signature)
    then .ok .assertion else .error "bad signature"
  verifyTls13Signature _ _ _ := .error "bad signature"
  supportedSchemes := [0x0403]

def referenceStack : Stack where
  cryptoProvider := referenceProvider
  signedMessage hello _ share _ := hello.random ++ share
  handshakeError _ := "error sending request"
  decodeError _ := "error decoding response body"
  path url :=
    String.ofList (((url.toList.drop 8).dropWhile (· ≠ '/')).takeWhile fun c => c ≠ '?' ∧ c ≠ '#')

theorem endEntity_sampleFlight (c : ServerCert) : (sampleFlight c).endEntity = c.der := by
  rw [sampleFlight]

theorem checkSignature_sampleFlight {c : ServerCert}
    (h : c.der = mockCertA.der ∨ c.der = gpuCertA.der) :
    (sampleFlight c).checkSignature referenceStack sampleHello = .ok .assertion := by
  have hverify : ∀ message cert dss, message = sampleHello.random ++ sampleShare →
      cert = mockCertA.der ∨ cert = gpuCertA.der → dss = sampleSignature →
      referenceProvider.verifyTls12Signature message cert dss = .ok .assertion :=
    fun _ _ _ hmessage hcert hdss => if_pos (Or.inl ⟨hmessage, hcert, hdss⟩)
  rw [checkSignature_tls12 rfl]
  rw [← endEntity_sampleFlight] at h
  exact hverify _ _ _ rfl h rfl

theorem endEntity_selfMadeFlight : selfMadeFlight.endEntity = selfMadeCertB.der := by
  rw [selfMadeFlight]

theorem checkSignature_selfMadeFlight :
    selfMadeFlight.checkSignature referenceStack sampleHello = .ok .assertion := by
  have hverify : ∀ message cert dss, message = sampleHello.random ++ selfMadeShare →
      cert = selfMadeCertB.der → dss = selfMadeFlight.signature →
      referenceProvider.verifyTls12Signature message cert dss = .ok .assertion :=
    fun _ _ _ hmessage hcert hdss => if_pos (Or.inr ⟨hmessage, hcert, hdss⟩)
  rw [checkSignature_tls12 rfl]
  exact hverify _ _ _ rfl endEntity_selfMadeFlight rfl

end Reference

end Client
end Sifir
