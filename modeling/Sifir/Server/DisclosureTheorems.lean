import Sifir.Server.ServeTheorems

/-!
# What can be seen of the server

Beside the peers of its connections the server has an audience: who reads what it prints,
and who sees when it hands on a request and when it answers. What these see does not depend
on what is in the requests and in the answers of the backend, and neither does anything on
another connection (`serve_confidential`). Where the HTTP client sends a request to, and what
it adds, is not part of it.
-/

namespace Sifir
namespace Server

open Lib Proxy Results Machine

section

variable [Crates] {axum : Axum} {state : AppState}

/-! ## What is seen -/

/-- An output without its contents. -/
inductive Trace where
  | handed (k : ℕ) (url : String)
  | answered (k : ℕ)
  | stderr (line : String)
deriving DecidableEq

omit [Crates] in
def Output.trace : Output → Trace
  | .handed k req => .handed k req.url
  | .response k _ => .answered k
  | .stderr line => .stderr line

/-- Two requests of which both get to the handler, or neither. -/
def SameWay (axum : Axum) (req req' : HttpRequest) : Prop :=
  (∃ body, route axum req = .ok body) ↔ ∃ body, route axum req' = .ok body

/-- Events that differ at most in what is in a request or in a response of the backend. -/
inductive TaskAlike (axum : Axum) : TaskEvent → TaskEvent → Prop
  | same (e : TaskEvent) : TaskAlike axum e e
  | request {req req' : HttpRequest} (h : SameWay axum req req') :
    TaskAlike axum (.happened (.request req)) (.happened (.request req'))
  | backend (k : ℕ) (r r' : BackendResponse) :
    TaskAlike axum (.happened (.backend k (.ok r))) (.happened (.backend k (.ok r')))

/-- Connections that differ at most in what is in their requests. -/
structure ConnectionAlike (c c' : Connection) : Prop where
  phase : c.phase = c'.phase
  awaiting : c.awaiting = c'.awaiting
  length : c.requests.length = c'.requests.length

/-! ## One connection -/

/-- Requests that go the same way are both answered, or both handed on with one URL. -/
theorem begin_of_sameWay {req req' : HttpRequest} (h : SameWay axum req req') :
    (∃ r r', begin axum state req = .answered r ∧ begin axum state req' = .answered r') ∨
    ∃ breq breq', begin axum state req = .handed breq ∧ begin axum state req' = .handed breq' ∧
      breq.url = breq'.url := by
  unfold begin
  rcases exists_error_or_exists_ok (route axum req) with ⟨r, hroute⟩ | ⟨body, hroute⟩
  · have hnot : ¬ ∃ body, route axum req' = .ok body := fun hok => by
      rcases h.mpr hok with ⟨body, hbody⟩
      rw [hroute] at hbody
      cases hbody
    rcases not_ok_iff.mp hnot with ⟨r', hroute'⟩
    rw [hroute, hroute']
    exact Or.inl ⟨r, r', rfl, rfl⟩
  · rcases h.mp ⟨body, hroute⟩ with ⟨body', hroute'⟩
    rw [hroute, hroute']
    cases state.backendUrl with
    | none => exact Or.inl ⟨_, _, rfl, rfl⟩
    | some url => exact Or.inr ⟨_, _, rfl, rfl, rfl⟩

section

variable {peer : String} {reqs reqs' : List HttpRequest} {waiting : List ℕ}
  (hlen : reqs.length = reqs'.length)
include hlen

/-- On an open connection requests that go the same way look the same. -/
theorem alike_request {req req' : HttpRequest} (h : SameWay axum req req') :
    let step := (task axum state).step ⟨.serving peer, reqs, waiting⟩ (.happened (.request req))
    let step' := (task axum state).step ⟨.serving peer, reqs', waiting⟩ (.happened (.request req'))
    ConnectionAlike step.1 step'.1 ∧ step.2.map Output.trace = step'.2.map Output.trace := by
  have hmore : (reqs ++ [req]).length = (reqs' ++ [req']).length := by
    rw [List.length_append, List.length_append, hlen]
    rfl
  rcases @begin_of_sameWay _ axum state req req' h with
    ⟨r, r', hbegin, hbegin'⟩ | ⟨breq, breq', hbegin, hbegin', hurl⟩
  · simp only [task, hbegin, hbegin', hlen]
    exact ⟨⟨rfl, rfl, hmore⟩, rfl⟩
  · simp only [task, hbegin, hbegin', hlen]
    refine ⟨⟨rfl, rfl, hmore⟩, ?_⟩
    simp only [List.map_cons, List.map_nil, Output.trace, hurl]

/-- So do outcomes of the backend that print the same. -/
theorem alike_backend (k : ℕ) {outcome outcome' : Except String BackendResponse}
    (h : (finish outcome).1 = (finish outcome').1) :
    let step := (task axum state).step ⟨.serving peer, reqs, waiting⟩
      (.happened (.backend k outcome))
    let step' := (task axum state).step ⟨.serving peer, reqs', waiting⟩
      (.happened (.backend k outcome'))
    ConnectionAlike step.1 step'.1 ∧ step.2.map Output.trace = step'.2.map Output.trace := by
  by_cases hk : k ∈ waiting
  · simp only [task, if_pos hk, h]
    exact ⟨⟨rfl, rfl, hlen⟩, by simp only [List.map_append, List.map_cons, Output.trace]⟩
  · simp only [task, if_neg hk]
    exact ⟨⟨rfl, rfl, hlen⟩, trivial⟩

end

theorem unwinds_task (axum : Axum) (state : AppState) :
    (task axum state).Unwinds ConnectionAlike (TaskAlike axum) Output.trace := by
  intro c c' e e' hc he
  rcases c with ⟨phase, reqs, waiting⟩
  rcases c' with ⟨phase', reqs', waiting'⟩
  obtain rfl : phase = phase' := hc.phase
  obtain rfl : waiting = waiting' := hc.awaiting
  have hlen : reqs.length = reqs'.length := hc.length
  cases he with
  | same e =>
    cases e with
    | accepted peer =>
      cases phase with
      | idle => exact ⟨⟨rfl, rfl, hlen⟩, rfl⟩
      | handshaking peer' => exact ⟨hc, rfl⟩
      | serving peer' => exact ⟨hc, rfl⟩
      | ended => exact ⟨hc, rfl⟩
    | happened e =>
      cases phase with
      | idle => exact ⟨hc, rfl⟩
      | handshaking peer =>
        cases e with
        | handshake result =>
          cases result with
          | error err => exact ⟨⟨rfl, rfl, hlen⟩, rfl⟩
          | ok u => exact ⟨⟨rfl, rfl, hlen⟩, rfl⟩
        | request req => exact ⟨hc, rfl⟩
        | backend k outcome => exact ⟨hc, rfl⟩
        | ended result => exact ⟨hc, rfl⟩
      | serving peer =>
        cases e with
        | handshake result => exact ⟨hc, rfl⟩
        | request req => exact alike_request hlen Iff.rfl
        | backend k outcome => exact alike_backend hlen k rfl
        | ended result =>
          cases result with
          | error err => exact ⟨⟨rfl, rfl, hlen⟩, rfl⟩
          | ok u => exact ⟨⟨rfl, rfl, hlen⟩, rfl⟩
      | ended => exact ⟨hc, rfl⟩
  | request hway =>
    cases phase with
    | idle => exact ⟨hc, rfl⟩
    | handshaking peer => exact ⟨hc, rfl⟩
    | serving peer => exact alike_request hlen hway
    | ended => exact ⟨hc, rfl⟩
  | backend k r r' =>
    cases phase with
    | idle => exact ⟨hc, rfl⟩
    | handshaking peer => exact ⟨hc, rfl⟩
    | serving peer => exact alike_backend hlen k rfl
    | ended => exact ⟨hc, rfl⟩

/-! ## All connections -/

/-- Events that differ at most in what is in a request or in a response of the backend, on a
connection other than this one. -/
inductive AlikeBut (axum : Axum) (i : ℕ) : Event → Event → Prop
  | same (e : Event) : AlikeBut axum i e e
  | request {j : ℕ} (hj : j ≠ i) {req req' : HttpRequest} (h : SameWay axum req req') :
    AlikeBut axum i (.connection j (.request req)) (.connection j (.request req'))
  | backend {j : ℕ} (hj : j ≠ i) (k : ℕ) (r r' : BackendResponse) :
    AlikeBut axum i (.connection j (.backend k (.ok r))) (.connection j (.backend k (.ok r')))

omit [Crates] in
/-- What connection `i` is told is the same. -/
theorem entriesOf_schedule_of_alikeBut {i : ℕ} {events events' : List Event}
    (h : List.Forall₂ (AlikeBut axum i) events events') (n : ℕ) :
    entriesOf i (schedule n events) = entriesOf i (schedule n events') := by
  induction h generalizing n with
  | nil => rfl
  | @cons e e' es es' he hes ih =>
    cases he with
    | same =>
      cases e with
      | accept peer =>
        by_cases hn : n = i
        · subst hn
          rw [schedule, schedule, entriesOf_cons_self, entriesOf_cons_self, ih]
        · rw [schedule, schedule, entriesOf_cons_of_ne hn, entriesOf_cons_of_ne hn, ih]
      | acceptError err => rfl
      | connection j e =>
        by_cases hj : j = i
        · subst hj
          rw [schedule, schedule, entriesOf_cons_self, entriesOf_cons_self, ih]
        · rw [schedule, schedule, entriesOf_cons_of_ne hj, entriesOf_cons_of_ne hj, ih]
    | request hj hway =>
      rw [schedule, schedule, entriesOf_cons_of_ne hj, entriesOf_cons_of_ne hj, ih]
    | backend hj k r r' =>
      rw [schedule, schedule, entriesOf_cons_of_ne hj, entriesOf_cons_of_ne hj, ih]

omit [Crates] in
/-- What the tasks are told is alike. -/
theorem alike_schedule {i : ℕ} {events events' : List Event}
    (h : List.Forall₂ (AlikeBut axum i) events events') (n : ℕ) :
    List.Forall₂ (fun e e' => e.1 = e'.1 ∧ TaskAlike axum e.2 e'.2) (schedule n events)
      (schedule n events') := by
  induction h generalizing n with
  | nil => exact .nil
  | @cons e e' es es' he hes ih =>
    cases he with
    | same =>
      cases e with
      | accept peer => exact .cons ⟨rfl, .same _⟩ (ih (n + 1))
      | acceptError err => exact .nil
      | connection j e => exact .cons ⟨rfl, .same _⟩ (ih n)
    | request hj hway => exact .cons ⟨rfl, .request hway⟩ (ih n)
    | backend hj k r r' => exact .cons ⟨rfl, .backend k r r'⟩ (ih n)

/-- Whatever is in the requests on other connections and in the answers of the backend to
them: the peer of a connection gets the same, and whoever reads what the server prints, and
sees when it hands on which request and when it answers on which connection, sees the
same. -/
theorem serve_confidential (axum : Axum) (state : AppState) (i : ℕ) {events events' : List Event}
    (h : List.Forall₂ (AlikeBut axum i) events events') :
    let run := (serve axum state).run .start events
    let run' := (serve axum state).run .start events'
    run.1.connections i = run'.1.connections i ∧
    entriesOf i run.2 = entriesOf i run'.2 ∧
    run.2.map (fun o => (o.1, o.2.trace)) = run'.2.map (fun o => (o.1, o.2.trace)) ∧
    ∀ j, (run.1.connections j).phase = (run'.1.connections j).phase ∧
      (run.1.connections j).awaiting = (run'.1.connections j).awaiting := by
  intro run run'
  obtain ⟨hconn, hout, -⟩ := @run_serve _ axum state events .start rfl
  obtain ⟨hconn', hout', -⟩ := @run_serve _ axum state events' .start rfl
  have hsame := entriesOf_schedule_of_alikeBut h 0
  obtain ⟨hi, houti⟩ := run_serve_connection axum state events i
  obtain ⟨hi', houti'⟩ := run_serve_connection axum state events' i
  obtain ⟨halike, hseen⟩ := (task axum state).sideBySide.run_unwinding
    ((task axum state).unwinds_sideBySide (unwinds_task axum state)) (alike_schedule h 0)
    fun j => (⟨rfl, rfl, rfl⟩ : ConnectionAlike .idle .idle)
  refine ⟨?_, ?_, ?_, ?_⟩
  · rw [hi, hi', hsame]
  · rw [houti, houti', hsame]
  · rw [hout, hout']
    exact hseen
  · intro j
    rw [hconn, hconn']
    exact ⟨(halike j).phase, (halike j).awaiting⟩

end

section Reference

open Reference

attribute [local instance] crates

/-- A prompt on the first of two connections, and the answer to it. -/
def eventsWith (prompt answer : String) : List Event :=
  [.accept "127.0.0.1:50001", .accept "127.0.0.1:50002", .connection 0 (.handshake (.ok ())),
    .connection 1 (.handshake (.ok ())),
    .connection 0 (.request ⟨.post, "/v1/generate", [], .complete (Text.utf8Bytes prompt)⟩),
    .connection 1 (.request ⟨.get, "/health", [], .complete []⟩),
    .connection 0 (.backend 0 (.ok ⟨.ok, .complete (Text.utf8Bytes answer)⟩))]

/-- The second peer gets the same for either prompt. -/
theorem serve_confidential_eventsWith :
    entriesOf 1 ((serve referenceAxum ⟨some "http://127.0.0.1:8080"⟩).run .start
        (eventsWith "hello" "world")).2
      = entriesOf 1 ((serve referenceAxum ⟨some "http://127.0.0.1:8080"⟩).run .start
          (eventsWith "secret" "")).2 := by
  have hway : SameWay referenceAxum
      ⟨.post, "/v1/generate", [], .complete (Text.utf8Bytes "hello")⟩
      ⟨.post, "/v1/generate", [], .complete (Text.utf8Bytes "secret")⟩ :=
    iff_of_true ⟨_, route_generate axumDocumented rfl rfl rfl (by decide)⟩
      ⟨_, route_generate axumDocumented rfl rfl rfl (by decide)⟩
  refine (serve_confidential _ _ 1 ?_).2.1
  exact .cons (.same _) (.cons (.same _) (.cons (.same _) (.cons (.same _)
    (.cons (.request (by decide) hway) (.cons (.same _)
      (.cons (.backend (by decide) 0 _ _) .nil))))))

end Reference

end Server
end Sifir
