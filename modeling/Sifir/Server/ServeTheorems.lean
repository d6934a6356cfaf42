import Sifir.Server.ProxyTheorems
import Sifir.Server.Serve

/-!
# What the server does on its connections

A request in two parts is the request in one (`handle_eq`). On one connection every
answer is the one the router gives to a request alone, with the outcome the HTTP client had
for it (`ConnectionInv`), and under every interleaving a connection is served as it would
be alone (`run_serve_connection`).
-/

namespace Sifir
namespace Server

open Lib Proxy Results Machine

/-! ## The routes -/

theorem static_routes : ∀ r ∈ routes, r.Static := by
  rw [routes, List.forall_mem_cons, List.forall_mem_singleton]
  exact ⟨⟨by decide, by decide, by decide⟩, ⟨by decide, by decide, by decide⟩⟩

section

variable {axum : Axum} (haxum : AxumDocumented axum) {req : HttpRequest}
include haxum

section

variable {b : Bytes} (hpath : req.path = "/v1/generate") (hmethod : req.method = .post)
  (hbody : req.body = .complete b)
include hpath hmethod

theorem dispatch_generate : axum.dispatch routes req = .ok .generate :=
  haxum.dispatch_route routes ⟨"/v1/generate", .post, .generate⟩ req static_routes (by decide)
    List.mem_cons_self hpath hmethod

include hbody

/-- A POST request to `/v1/generate` gets to the handler with its body. -/
theorem route_generate (hlen : b.length ≤ axum.bodyLimit) : route axum req = .ok b := by
  rw [route, dispatch_generate haxum hpath hmethod]
  exact haxum.extractBytes_complete req b hbody hlen

/-- A body above the limit does not get to the handler. -/
theorem route_tooLong (hlen : axum.bodyLimit < b.length) :
    ∃ response, route axum req = .error response ∧ response.status = .payloadTooLarge := by
  rw [route, dispatch_generate haxum hpath hmethod]
  exact haxum.extractBytes_tooLong req b hbody hlen

end

/-- A POST request to `/health` is not allowed. -/
theorem route_health (hpath : req.path = "/health") (hmethod : req.method = .post) :
    ∃ response, route axum req = .error response ∧ response.status = .methodNotAllowed := by
  obtain ⟨response, hdispatch, hstatus⟩ := haxum.dispatch_method routes req static_routes
    ⟨_, List.mem_cons_of_mem _ List.mem_cons_self, hpath⟩ (by rw [hmethod]; decide) (by
      rw [hmethod, hpath, routes, List.forall_mem_cons, List.forall_mem_singleton]
      exact ⟨by decide, by decide⟩)
  rw [route, hdispatch]
  exact ⟨response, rfl, hstatus⟩

/-- Other paths are not found. -/
theorem route_notFound (hgenerate : req.path ≠ "/v1/generate") (hhealth : req.path ≠ "/health") :
    ∃ response, route axum req = .error response ∧ response.status = .notFound := by
  obtain ⟨response, hdispatch, hstatus⟩ := haxum.dispatch_notFound routes req static_routes (by
    rw [routes, List.forall_mem_cons, List.forall_mem_singleton]
    exact ⟨hgenerate, hhealth⟩)
  rw [route, hdispatch]
  exact ⟨response, rfl, hstatus⟩

end

section

variable [Crates] {axum : Axum} {state : AppState}

/-! ## A request in two parts -/

/-- Waiting for the HTTP client in between changes nothing of what a request leaves. -/
theorem handle_eq (axum : Axum) (backend : Backend) (state : AppState) (req : HttpRequest) :
    handle axum backend state req = match begin axum state req with
      | .answered response => { sent := [], stderr := [], response }
      | .handed breq =>
        { sent := [breq], stderr := (finish (backend breq)).1
          response := (finish (backend breq)).2 } := by
  unfold handle begin
  rcases exists_error_or_exists_ok (route axum req) with ⟨response, hroute⟩ | ⟨body, hroute⟩
  · rw [hroute]
  · rw [hroute]
    simp only [generateHandler, handleGenerate]
    cases state.backendUrl with
    | none => rfl
    | some url =>
      rcases exists_error_or_exists_ok (backend (backendRequest req.headers body url)) with
        ⟨e, he⟩ | ⟨resp, hresp⟩
      · simp only [he, finish]
      · simp only [hresp, finish]

theorem handle_of_answered {req : HttpRequest} {response : Response} (backend : Backend)
    (h : begin axum state req = .answered response) :
    handle axum backend state req = { sent := [], stderr := [], response } := by
  rw [handle_eq, h]

theorem handle_of_handed {req : HttpRequest} {breq : BackendRequest} (backend : Backend)
    (h : begin axum state req = .handed breq) :
    handle axum backend state req =
      { sent := [breq], stderr := (finish (backend breq)).1
        response := (finish (backend breq)).2 } := by
  rw [handle_eq, h]

/-! ## The steps of a task -/

/-- What an event makes of a connection. -/
inductive Steps (axum : Axum) (state : AppState) (c : Connection) (e : TaskEvent) :
    Connection → List Output → Prop
  | stays : Steps axum state c e c []
  | accepted (peer : String) (hphase : c.phase = .idle) (he : e = .accepted peer) :
    Steps axum state c e { c with phase := .handshaking peer } []
  | secured (peer : String) (hphase : c.phase = .handshaking peer)
    (he : e = .happened (.handshake (.ok ()))) :
    Steps axum state c e { c with phase := .serving peer } []
  | refused (line : String) : Steps axum state c e { c with phase := .ended } [.stderr line]
  | answers (peer : String) (req : HttpRequest) (response : Response)
    (hphase : c.phase = .serving peer) (he : e = .happened (.request req))
    (hbegin : begin axum state req = .answered response) :
    Steps axum state c e { c with requests := c.requests ++ [req] }
      [.response c.requests.length response]
  | hands (peer : String) (req : HttpRequest) (breq : BackendRequest)
    (hphase : c.phase = .serving peer) (he : e = .happened (.request req))
    (hbegin : begin axum state req = .handed breq) :
    Steps axum state c e { c with
      requests := c.requests ++ [req], awaiting := c.awaiting ++ [c.requests.length] }
      [.handed c.requests.length breq]
  | finishes (k : ℕ) (outcome : Except String BackendResponse) (hk : k ∈ c.awaiting)
    (he : e = .happened (.backend k outcome)) :
    Steps axum state c e { c with awaiting := c.awaiting.filter (· ≠ k) }
      ((finish outcome).1.map .stderr ++ [.response k (finish outcome).2])
  | closes (lines : List String) :
    Steps axum state c e { c with phase := .ended, awaiting := [] } (lines.map .stderr)

theorem steps_task (c : Connection) (e : TaskEvent) :
    Steps axum state c e ((task axum state).step c e).1 ((task axum state).step c e).2 := by
  cases e with
  | accepted peer =>
    simp only [task]
    split
    · next hphase => exact .accepted peer hphase rfl
    · exact .stays
  | happened e =>
    simp only [task]
    split
    · next peer u hphase => exact .secured peer hphase rfl
    · next peer err hphase => exact .refused _
    · next peer req hphase =>
      split
      · next response hbegin => exact .answers peer req response hphase rfl hbegin
      · next breq hbegin => exact .hands peer req breq hphase rfl hbegin
    · next peer k outcome hphase =>
      split
      · next hk => exact .finishes k outcome hk rfl
      · exact .stays
    · next peer u hphase => exact .closes []
    · next peer err hphase => exact .closes [_]
    · exact .stays

/-! ## What holds of a connection -/

/-- A request that arrives. -/
def TaskEvent.arrival : TaskEvent → Option HttpRequest
  | .happened (.request req) => some req
  | _ => none

/-- The number of a request that is answered. -/
def Output.answer : Output → Option ℕ
  | .response k _ => some k
  | _ => none

/-- The number of a request that is handed to the HTTP client. -/
def Output.forward : Output → Option ℕ
  | .handed k _ => some k
  | _ => none

omit [Crates] in
theorem filterMap_answer_stderr (lines : List String) :
    (lines.map Output.stderr).filterMap Output.answer = [] :=
  List.filterMap_eq_nil_iff.mpr (List.forall_mem_map.mpr fun _ _ => rfl)

omit [Crates] in
theorem filterMap_forward_stderr (lines : List String) :
    (lines.map Output.stderr).filterMap Output.forward = [] :=
  List.filterMap_eq_nil_iff.mpr (List.forall_mem_map.mpr fun _ _ => rfl)

omit [Crates] in
theorem mem_answer {out : List Output} {k : ℕ} :
    k ∈ out.filterMap Output.answer ↔ ∃ response, Output.response k response ∈ out := by
  rw [List.mem_filterMap]
  constructor
  · intro h
    rcases h with ⟨o, ho, hk⟩
    cases o with
    | response k' response =>
      obtain rfl := Option.some.inj hk
      exact ⟨response, ho⟩
    | handed k' breq => cases hk
    | stderr line => cases hk
  · intro h
    rcases h with ⟨response, ho⟩
    exact ⟨_, ho, rfl⟩

omit [Crates] in
theorem mem_forward {out : List Output} {k : ℕ} :
    k ∈ out.filterMap Output.forward ↔ ∃ breq, Output.handed k breq ∈ out := by
  rw [List.mem_filterMap]
  constructor
  · intro h
    rcases h with ⟨o, ho, hk⟩
    cases o with
    | handed k' breq =>
      obtain rfl := Option.some.inj hk
      exact ⟨breq, ho⟩
    | response k' response => cases hk
    | stderr line => cases hk
  · intro h
    rcases h with ⟨breq, ho⟩
    exact ⟨_, ho, rfl⟩

/-- An answer is the one the router gives to the request alone, with a backend that had
for what was handed to the HTTP client the outcome that arrived. -/
def AnsweredAlone (axum : Axum) (state : AppState) (es : List TaskEvent) (out : List Output)
    (k : ℕ) (req : HttpRequest) (response : Response) : Prop :=
  ∃ backend : Backend, response = (handle axum backend state req).response ∧
    ∀ breq ∈ (handle axum backend state req).sent, Output.handed k breq ∈ out ∧
      TaskEvent.happened (.backend k (backend breq)) ∈ es

/-- What holds of a connection after its events, and of what its task wrote. -/
structure ConnectionInv (axum : Axum) (state : AppState) (es : List TaskEvent) (c : Connection)
    (out : List Output) : Prop where
  /-- Requests are served after the handshake only. -/
  secured : c.requests ≠ [] ∨ (∃ peer, c.phase = .serving peer) →
    TaskEvent.happened (.handshake (.ok ())) ∈ es
  unserved : c.phase = .idle ∨ (∃ peer, c.phase = .handshaking peer) → c.requests = []
  /-- What is served did arrive, in this order. -/
  arrived : c.requests.Sublist (es.filterMap TaskEvent.arrival)
  answered : ∀ k response, Output.response k response ∈ out →
    ∃ req, c.requests[k]? = some req ∧ AnsweredAlone axum state es out k req response
  forwarded : ∀ k breq, Output.handed k breq ∈ out →
    ∃ req, c.requests[k]? = some req ∧ begin axum state req = .handed breq
  answered_once : (out.filterMap Output.answer).Nodup
  forwarded_once : (out.filterMap Output.forward).Nodup
  awaiting : ∀ k ∈ c.awaiting,
    k ∉ out.filterMap Output.answer ∧ k ∈ out.filterMap Output.forward
  /-- On an open connection no request is lost. -/
  complete : ∀ peer, c.phase = .serving peer → ∀ k < c.requests.length,
    k ∈ out.filterMap Output.answer ∨ k ∈ c.awaiting

theorem connectionInv_start : ConnectionInv axum state [] .idle [] where
  secured := by
    intro h
    rcases h with h | ⟨peer, h⟩
    · exact absurd rfl h
    · cases h
  unserved := fun _ => rfl
  arrived := List.Sublist.refl []
  answered := fun k response h => by cases h
  forwarded := fun k breq h => by cases h
  answered_once := List.nodup_nil
  forwarded_once := List.nodup_nil
  awaiting := fun k h => by cases h
  complete := fun peer h => by cases h

section

variable {es : List TaskEvent} {c : Connection} {out : List Output} {e : TaskEvent}

theorem AnsweredAlone.mono {k : ℕ} {req : HttpRequest} {response : Response}
    (h : AnsweredAlone axum state es out k req response) (more : List Output) :
    AnsweredAlone axum state (es ++ [e]) (out ++ more) k req response := by
  rcases h with ⟨backend, hresponse, hsent⟩
  refine ⟨backend, hresponse, fun breq hbreq => ?_⟩
  exact ⟨List.mem_append_left _ (hsent breq hbreq).1, List.mem_append_left _ (hsent breq hbreq).2⟩

omit [Crates] in
theorem getElem?_concat {reqs : List HttpRequest} {k : ℕ} {req : HttpRequest}
    (h : reqs[k]? = some req) (more : HttpRequest) : (reqs ++ [more])[k]? = some req := by
  rw [List.getElem?_append_left (List.getElem?_eq_some_iff.mp h).1, h]

theorem ConnectionInv.arrived_concat (h : ConnectionInv axum state es c out) :
    c.requests.Sublist ((es ++ [e]).filterMap TaskEvent.arrival) := by
  rw [List.filterMap_append]
  exact h.arrived.trans (List.sublist_append_left _ _)

theorem ConnectionInv.arrived_request (h : ConnectionInv axum state es c out) {req : HttpRequest}
    (he : e = .happened (.request req)) :
    (c.requests ++ [req]).Sublist ((es ++ [e]).filterMap TaskEvent.arrival) := by
  rw [List.filterMap_append, he]
  exact h.arrived.append (List.Sublist.refl [req])

/-- A request that is new has not been answered or handed on. -/
theorem ConnectionInv.fresh (h : ConnectionInv axum state es c out) :
    c.requests.length ∉ out.filterMap Output.answer ∧
    c.requests.length ∉ out.filterMap Output.forward := by
  refine ⟨fun hmem => ?_, fun hmem => ?_⟩
  · rcases mem_answer.mp hmem with ⟨response, hout⟩
    rcases h.answered _ _ hout with ⟨req, hreq, -⟩
    exact absurd (List.getElem?_eq_some_iff.mp hreq).1 (Nat.lt_irrefl _)
  · rcases mem_forward.mp hmem with ⟨breq, hout⟩
    rcases h.forwarded _ _ hout with ⟨req, hreq, -⟩
    exact absurd (List.getElem?_eq_some_iff.mp hreq).1 (Nat.lt_irrefl _)

omit [Crates] in
theorem not_unserved {phase : Phase} {peer : String} (h : phase = .serving peer) :
    ¬ (phase = .idle ∨ ∃ peer, phase = .handshaking peer) := by
  rw [h]
  intro hearly
  rcases hearly with hidle | ⟨peer', hpeer'⟩
  · cases hidle
  · cases hpeer'

omit [Crates] in
theorem not_unserved_ended : ¬ (Phase.ended = .idle ∨ ∃ peer, Phase.ended = .handshaking peer) := by
  intro hearly
  rcases hearly with hidle | ⟨peer, hpeer⟩
  · cases hidle
  · cases hpeer

/-- A step that leaves the requests as they are and only prints lines. -/
theorem ConnectionInv.quiet (h : ConnectionInv axum state es c out) {c' : Connection}
    {lines : List String} (hrequests : c'.requests = c.requests)
    (hawaiting : ∀ k ∈ c'.awaiting, k ∈ c.awaiting)
    (hsecured : ∀ peer, c'.phase = .serving peer →
      TaskEvent.happened (.handshake (.ok ())) ∈ es ++ [e])
    (hunserved : c'.phase = .idle ∨ (∃ peer, c'.phase = .handshaking peer) → c.requests = [])
    (hcomplete : ∀ peer, c'.phase = .serving peer → c'.awaiting = c.awaiting ∧
      (c.requests = [] ∨ ∃ peer, c.phase = .serving peer)) :
    ConnectionInv axum state (es ++ [e]) c' (out ++ lines.map .stderr) := by
  have hanswer : (out ++ lines.map Output.stderr).filterMap Output.answer
      = out.filterMap Output.answer := by
    rw [List.filterMap_append, filterMap_answer_stderr, List.append_nil]
  have hforward : (out ++ lines.map Output.stderr).filterMap Output.forward
      = out.filterMap Output.forward := by
    rw [List.filterMap_append, filterMap_forward_stderr, List.append_nil]
  have hold : ∀ o ∈ out ++ lines.map Output.stderr, (∃ line, o = .stderr line) ∨ o ∈ out := by
    intro o ho
    rcases List.mem_append.mp ho with ho | ho
    · exact Or.inr ho
    · obtain ⟨line, -, rfl⟩ := List.mem_map.mp ho
      exact Or.inl ⟨line, rfl⟩
  refine ⟨?_, fun hphase => hrequests.trans (hunserved hphase), hrequests ▸ h.arrived_concat, ?_,
    ?_, by rw [hanswer]; exact h.answered_once, by rw [hforward]; exact h.forwarded_once, ?_, ?_⟩
  · intro hserved
    rcases hserved with hnone | ⟨peer, hpeer⟩
    · exact List.mem_append_left _ (h.secured (Or.inl (hrequests ▸ hnone)))
    · exact hsecured peer hpeer
  · intro k response ho
    rcases hold _ ho with ⟨line, hline⟩ | ho
    · cases hline
    · rcases h.answered k response ho with ⟨req, hreq, halone⟩
      exact ⟨req, by rw [hrequests, hreq], halone.mono _⟩
  · intro k breq ho
    rcases hold _ ho with ⟨line, hline⟩ | ho
    · cases hline
    · rw [hrequests]
      exact h.forwarded k breq ho
  · intro k hk
    rw [hanswer, hforward]
    exact h.awaiting k (hawaiting k hk)
  · intro peer hpeer k hk
    rw [hrequests] at hk
    obtain ⟨hsame, hbefore⟩ := hcomplete peer hpeer
    rw [hanswer, hsame]
    rcases hbefore with hnone | ⟨peer', hpeer'⟩
    · rw [hnone] at hk
      exact absurd hk (Nat.not_lt_zero k)
    · exact h.complete peer' hpeer' k hk

/-- On a connection that is served the handshake was made. -/
theorem ConnectionInv.handshake (h : ConnectionInv axum state es c out) {peer : String}
    (hphase : c.phase = .serving peer) : TaskEvent.happened (.handshake (.ok ())) ∈ es :=
  h.secured (Or.inr ⟨peer, hphase⟩)

/-- What was answered or handed on stays so when a request is added. -/
theorem ConnectionInv.answered_concat (h : ConnectionInv axum state es c out) (more : List Output)
    (req : HttpRequest) {k : ℕ} {response : Response} (ho : Output.response k response ∈ out) :
    ∃ req', (c.requests ++ [req])[k]? = some req' ∧
      AnsweredAlone axum state (es ++ [e]) (out ++ more) k req' response := by
  rcases h.answered k response ho with ⟨req', hreq', halone⟩
  exact ⟨req', getElem?_concat hreq' req, halone.mono more⟩

theorem ConnectionInv.forwarded_concat (h : ConnectionInv axum state es c out) (req : HttpRequest)
    {k : ℕ} {breq : BackendRequest} (ho : Output.handed k breq ∈ out) :
    ∃ req', (c.requests ++ [req])[k]? = some req' ∧ begin axum state req' = .handed breq := by
  rcases h.forwarded k breq ho with ⟨req', hreq', hsent⟩
  exact ⟨req', getElem?_concat hreq' req, hsent⟩

/-- A request that is answered at once. -/
theorem ConnectionInv.answers (h : ConnectionInv axum state es c out) {peer : String}
    {req : HttpRequest} {response : Response} (hphase : c.phase = .serving peer)
    (he : e = .happened (.request req)) (hbegin : begin axum state req = .answered response) :
    ConnectionInv axum state (es ++ [e]) { c with requests := c.requests ++ [req] }
      (out ++ [.response c.requests.length response]) := by
  have hanswer : (out ++ [Output.response c.requests.length response]).filterMap Output.answer
      = out.filterMap Output.answer ++ [c.requests.length] := by
    rw [List.filterMap_append]
    rfl
  have hforward : (out ++ [Output.response c.requests.length response]).filterMap Output.forward
      = out.filterMap Output.forward := by
    rw [List.filterMap_append]
    exact List.append_nil _
  refine ⟨fun _ => List.mem_append_left _ (h.handshake hphase), ?_, h.arrived_request he, ?_, ?_,
    ?_, ?_, ?_, ?_⟩
  · intro hearly
    exact absurd hearly (not_unserved hphase)
  · intro k response' ho
    rcases List.mem_append.mp ho with ho | ho
    · exact h.answered_concat _ req ho
    · -- the answer of the router needs no backend
      obtain ⟨rfl, rfl⟩ := Output.response.inj (List.mem_singleton.mp ho)
      have halone := handle_of_answered (fun _ => .error "") hbegin
      refine ⟨req, List.getElem?_concat_length, _, by rw [halone], ?_⟩
      rw [halone]
      intro breq hbreq
      cases hbreq
  · intro k breq ho
    rcases List.mem_append.mp ho with ho | ho
    · exact h.forwarded_concat req ho
    · cases List.mem_singleton.mp ho
  · rw [hanswer]
    exact List.nodup_append'.mpr ⟨h.answered_once, List.nodup_singleton _,
      List.disjoint_singleton.mpr h.fresh.1⟩
  · rw [hforward]
    exact h.forwarded_once
  · intro k hk
    obtain ⟨hopen, hsent⟩ := h.awaiting k hk
    rw [hanswer, hforward, List.mem_append, List.mem_singleton, not_or]
    exact ⟨⟨hopen, fun heq => h.fresh.2 (heq ▸ hsent)⟩, hsent⟩
  · intro peer' hpeer' k hk
    rw [hanswer, List.mem_append, List.mem_singleton]
    rw [List.length_append, List.length_singleton, Nat.lt_succ_iff_lt_or_eq] at hk
    rcases hk with hlt | heq
    · rcases h.complete peer' hpeer' k hlt with hdone | hwaits
      · exact Or.inl (Or.inl hdone)
      · exact Or.inr hwaits
    · exact Or.inl (Or.inr heq)

/-- A request that is handed to the HTTP client. -/
theorem ConnectionInv.hands (h : ConnectionInv axum state es c out) {peer : String}
    {req : HttpRequest} {breq : BackendRequest} (hphase : c.phase = .serving peer)
    (he : e = .happened (.request req)) (hbegin : begin axum state req = .handed breq) :
    ConnectionInv axum state (es ++ [e]) { c with
      requests := c.requests ++ [req], awaiting := c.awaiting ++ [c.requests.length] }
      (out ++ [.handed c.requests.length breq]) := by
  have hanswer : (out ++ [Output.handed c.requests.length breq]).filterMap Output.answer
      = out.filterMap Output.answer := by
    rw [List.filterMap_append]
    exact List.append_nil _
  have hforward : (out ++ [Output.handed c.requests.length breq]).filterMap Output.forward
      = out.filterMap Output.forward ++ [c.requests.length] := by
    rw [List.filterMap_append]
    rfl
  refine ⟨fun _ => List.mem_append_left _ (h.handshake hphase), ?_, h.arrived_request he, ?_, ?_,
    ?_, ?_, ?_, ?_⟩
  · intro hearly
    exact absurd hearly (not_unserved hphase)
  · intro k response ho
    rcases List.mem_append.mp ho with ho | ho
    · exact h.answered_concat _ req ho
    · cases List.mem_singleton.mp ho
  · intro k breq' ho
    rcases List.mem_append.mp ho with ho | ho
    · exact h.forwarded_concat req ho
    · obtain ⟨rfl, rfl⟩ := Output.handed.inj (List.mem_singleton.mp ho)
      exact ⟨req, List.getElem?_concat_length, hbegin⟩
  · rw [hanswer]
    exact h.answered_once
  · rw [hforward]
    exact List.nodup_append'.mpr ⟨h.forwarded_once, List.nodup_singleton _,
      List.disjoint_singleton.mpr h.fresh.2⟩
  · intro k hk
    rw [hanswer, hforward, List.mem_append]
    rcases List.mem_append.mp hk with hk | hk
    · obtain ⟨hopen, hsent⟩ := h.awaiting k hk
      exact ⟨hopen, Or.inl hsent⟩
    · rw [List.mem_singleton.mp hk]
      exact ⟨h.fresh.1, Or.inr List.mem_cons_self⟩
  · intro peer' hpeer' k hk
    rw [hanswer, List.mem_append, List.mem_singleton]
    rw [List.length_append, List.length_singleton, Nat.lt_succ_iff_lt_or_eq] at hk
    rcases hk with hlt | heq
    · rcases h.complete peer' hpeer' k hlt with hdone | hwaits
      · exact Or.inl hdone
      · exact Or.inr (Or.inl hwaits)
    · exact Or.inr (Or.inr heq)

/-- The HTTP client is through with a request. -/
theorem ConnectionInv.finishes (h : ConnectionInv axum state es c out) {k : ℕ}
    {outcome : Except String BackendResponse} (hk : k ∈ c.awaiting)
    (he : e = .happened (.backend k outcome)) :
    ConnectionInv axum state (es ++ [e]) { c with awaiting := c.awaiting.filter (· ≠ k) }
      (out ++ ((finish outcome).1.map .stderr ++ [.response k (finish outcome).2])) := by
  obtain ⟨hopen, hforwarded⟩ := h.awaiting k hk
  have hanswer : (out ++ ((finish outcome).1.map Output.stderr
      ++ [Output.response k (finish outcome).2])).filterMap Output.answer
      = out.filterMap Output.answer ++ [k] := by
    rw [List.filterMap_append, List.filterMap_append, filterMap_answer_stderr]
    rfl
  have hforward : (out ++ ((finish outcome).1.map Output.stderr
      ++ [Output.response k (finish outcome).2])).filterMap Output.forward
      = out.filterMap Output.forward := by
    rw [List.filterMap_append, List.filterMap_append, filterMap_forward_stderr]
    exact List.append_nil _
  have hnew : ∀ o ∈ (finish outcome).1.map Output.stderr ++ [Output.response k (finish outcome).2],
      (∃ line, o = .stderr line) ∨ o = .response k (finish outcome).2 := by
    intro o ho
    rcases List.mem_append.mp ho with ho | ho
    · obtain ⟨line, -, rfl⟩ := List.mem_map.mp ho
      exact Or.inl ⟨line, rfl⟩
    · exact Or.inr (List.mem_singleton.mp ho)
  refine ⟨fun hserved => List.mem_append_left _ (h.secured hserved), h.unserved, h.arrived_concat,
    ?_, ?_, ?_, ?_, ?_, ?_⟩
  · intro k' response ho
    rcases List.mem_append.mp ho with ho | ho
    · rcases h.answered k' response ho with ⟨req, hreq, halone⟩
      exact ⟨req, hreq, halone.mono _⟩
    · rcases hnew _ ho with ⟨line, hline⟩ | heq
      · cases hline
      · obtain ⟨rfl, rfl⟩ := Output.response.inj heq
        -- the request was handed on, and this is the outcome for what was handed on
        rcases mem_forward.mp hforwarded with ⟨breq, hsent⟩
        rcases h.forwarded _ _ hsent with ⟨req, hreq, hbegin⟩
        have halone := handle_of_handed (fun _ => outcome) hbegin
        refine ⟨req, hreq, _, by rw [halone], ?_⟩
        rw [halone]
        intro breq' hbreq'
        rw [List.mem_singleton.mp hbreq']
        exact ⟨List.mem_append_left _ hsent, List.mem_append_right _ (he ▸ List.mem_cons_self)⟩
  · intro k' breq ho
    rcases List.mem_append.mp ho with ho | ho
    · exact h.forwarded k' breq ho
    · rcases hnew _ ho with ⟨line, hline⟩ | heq
      · cases hline
      · cases heq
  · rw [hanswer]
    exact List.nodup_append'.mpr ⟨h.answered_once, List.nodup_singleton _,
      List.disjoint_singleton.mpr hopen⟩
  · rw [hforward]
    exact h.forwarded_once
  · intro k' hk'
    obtain ⟨hwaits, hne⟩ := List.mem_filter.mp hk'
    obtain ⟨hopen', hsent'⟩ := h.awaiting k' hwaits
    rw [hanswer, hforward, List.mem_append, List.mem_singleton, not_or]
    exact ⟨⟨hopen', of_decide_eq_true hne⟩, hsent'⟩
  · intro peer hpeer k' hk'
    rw [hanswer, List.mem_append, List.mem_singleton]
    by_cases heq : k' = k
    · exact Or.inl (Or.inr heq)
    · rcases h.complete peer hpeer k' hk' with hdone | hwaits
      · exact Or.inl (Or.inl hdone)
      · exact Or.inr (List.mem_filter.mpr ⟨hwaits, decide_eq_true heq⟩)

theorem ConnectionInv.step (h : ConnectionInv axum state es c out) {c' : Connection}
    {new : List Output} (hstep : Steps axum state c e c' new) :
    ConnectionInv axum state (es ++ [e]) c' (out ++ new) := by
  cases hstep with
  | stays =>
    exact @ConnectionInv.quiet _ axum state es c out e h c [] rfl (fun _ hk => hk)
      (fun peer hpeer => List.mem_append_left _ (h.handshake hpeer)) h.unserved
      (fun peer hpeer => ⟨rfl, Or.inr ⟨peer, hpeer⟩⟩)
  | accepted peer hphase he =>
    have hnone := h.unserved (Or.inl hphase)
    exact @ConnectionInv.quiet _ axum state es c out e h _ [] rfl (fun _ hk => hk)
      (fun peer' hpeer' => by cases hpeer') (fun _ => hnone) (fun peer' hpeer' => by cases hpeer')
  | secured peer hphase he =>
    have hnone := h.unserved (Or.inr ⟨peer, hphase⟩)
    exact @ConnectionInv.quiet _ axum state es c out e h _ [] rfl (fun _ hk => hk)
      (fun _ _ => List.mem_append_right _ (he ▸ List.mem_cons_self)) (fun _ => hnone)
      (fun _ _ => ⟨rfl, Or.inl hnone⟩)
  | refused line =>
    exact @ConnectionInv.quiet _ axum state es c out e h _ [line] rfl (fun _ hk => hk)
      (fun peer' hpeer' => by cases hpeer') (fun hearly => absurd hearly not_unserved_ended)
      (fun peer' hpeer' => by cases hpeer')
  | answers peer req response hphase he hbegin => exact h.answers hphase he hbegin
  | hands peer req breq hphase he hbegin => exact h.hands hphase he hbegin
  | finishes k outcome hk he => exact h.finishes hk he
  | closes lines =>
    exact @ConnectionInv.quiet _ axum state es c out e h _ lines rfl (fun _ hk => by cases hk)
      (fun peer' hpeer' => by cases hpeer') (fun hearly => absurd hearly not_unserved_ended)
      (fun peer' hpeer' => by cases hpeer')

end

/-- What holds of a connection, after any events. -/
theorem connectionInv_run (axum : Axum) (state : AppState) (es : List TaskEvent) :
    ConnectionInv axum state es ((task axum state).run .idle es).1
      ((task axum state).run .idle es).2 :=
  (task axum state).run_invariant (ConnectionInv axum state) connectionInv_start
    (fun _ c _ e h => h.step (steps_task c e)) es

/-! ## The loop -/

/-- The error a call of `accept` returns. -/
def Event.failure : Event → Option String
  | .acceptError e => some e
  | _ => none

/-- What the events are for the tasks, where the connections are numbered from `n`: nothing
after an error of `accept`. -/
def schedule : ℕ → List Event → List (ℕ × TaskEvent)
  | _, [] => []
  | n, .accept peer :: es => (n, .accepted peer) :: schedule (n + 1) es
  | _, .acceptError _ :: _ => []
  | n, .connection i e :: es => (i, .happened e) :: schedule n es

theorem run_serve_stopped {s : Loop} {err : String} (h : s.stopped = some err)
    (es : List Event) : (serve axum state).run s es = (s, []) := by
  induction es with
  | nil => rfl
  | cons e es ih =>
    have hstep : (serve axum state).step s e = (s, []) := by
      simp only [serve, h]
    rw [run_cons, hstep, ih]
    rfl

/-- The loop runs the tasks side by side, until `accept` fails. -/
theorem run_serve (es : List Event) : ∀ s : Loop, s.stopped = none →
    ((serve axum state).run s es).1.connections
      = ((task axum state).sideBySide.run s.connections (schedule s.accepted es)).1 ∧
    ((serve axum state).run s es).2
      = ((task axum state).sideBySide.run s.connections (schedule s.accepted es)).2 ∧
    ((serve axum state).run s es).1.stopped = (es.filterMap Event.failure).head? := by
  induction es with
  | nil =>
    intro s hs
    exact ⟨rfl, rfl, hs⟩
  | cons e es ih =>
    intro s hs
    cases e with
    | accept peer =>
      have hstep : (serve axum state).step s (.accept peer) = ({ s with
          accepted := s.accepted + 1
          connections := ((task axum state).sideBySide.step s.connections
            (s.accepted, .accepted peer)).1 },
          ((task axum state).sideBySide.step s.connections (s.accepted, .accepted peer)).2) := by
        simp only [serve, hs]
      obtain ⟨hconn, hout, hstop⟩ :=
        ih ((serve axum state).step s (.accept peer)).1 (by rw [hstep, hs])
      rw [run_cons, hconn, hout, hstop, hstep, schedule, run_cons]
      exact ⟨rfl, rfl, rfl⟩
    | acceptError err =>
      have hstep : (serve axum state).step s (.acceptError err)
          = ({ s with stopped := some err }, []) := by
        simp only [serve, hs]
      rw [run_cons, hstep, run_serve_stopped rfl]
      exact ⟨rfl, rfl, rfl⟩
    | connection i e =>
      have hstep : (serve axum state).step s (.connection i e) = ({ s with
          connections := ((task axum state).sideBySide.step s.connections (i, .happened e)).1 },
          ((task axum state).sideBySide.step s.connections (i, .happened e)).2) := by
        simp only [serve, hs]
      obtain ⟨hconn, hout, hstop⟩ :=
        ih ((serve axum state).step s (.connection i e)).1 (by rw [hstep, hs])
      rw [run_cons, hconn, hout, hstop, hstep, schedule, run_cons]
      exact ⟨rfl, rfl, rfl⟩

/-- What a run has for one connection is what its own events bring about. -/
theorem run_serve_connection (axum : Axum) (state : AppState) (events : List Event) (i : ℕ) :
    ((serve axum state).run .start events).1.connections i
      = ((task axum state).run .idle (entriesOf i (schedule 0 events))).1 ∧
    entriesOf i ((serve axum state).run .start events).2
      = ((task axum state).run .idle (entriesOf i (schedule 0 events))).2 := by
  obtain ⟨hconn, hout, -⟩ := @run_serve _ axum state events .start rfl
  rw [hconn, hout]
  exact (task axum state).run_sideBySide i _ _

/-- Connections do not disturb each other: whatever happens on other connections, failed
handshakes, broken connections and an unreachable backend among it, a connection is where
its own events bring it, and hands on and answers what it would alone. The server goes on
until `accept` fails, and only then ends. -/
theorem serve_isolated (axum : Axum) (state : AppState) (events events' : List Event) (i : ℕ)
    (h : entriesOf i (schedule 0 events) = entriesOf i (schedule 0 events')) :
    ((serve axum state).run .start events).1.connections i
      = ((serve axum state).run .start events').1.connections i ∧
    entriesOf i ((serve axum state).run .start events).2
      = entriesOf i ((serve axum state).run .start events').2 ∧
    ((serve axum state).run .start events).1.stopped = (events.filterMap Event.failure).head? := by
  obtain ⟨hconn, hout⟩ := run_serve_connection axum state events i
  obtain ⟨hconn', hout'⟩ := run_serve_connection axum state events' i
  rw [hconn, hconn', hout, hout', h]
  exact ⟨rfl, rfl, (run_serve events .start rfl).2.2⟩

end

section Reference

/-! ## A reference router -/

/-- An answer without a body, which has no media type. -/
def emptyResponse (status : StatusCode) : Response := { status, mediaType := "", body := [] }

def referenceAxum : Axum where
  dispatch rs req :=
    match rs.find? (fun r => req.path = r.path ∧ req.method = r.method) with
    | some r => .ok r.handler
    | none =>
      match rs.find? (fun r => req.path = r.path ∧ req.method = .head ∧ r.method = .get) with
      | some r => .ok r.handler
      | none =>
        .error (emptyResponse
          (if ∃ r ∈ rs, req.path = r.path then .methodNotAllowed else .notFound))
  extractBytes req :=
    let received := match req.body with
      | .complete b => b
      | .broken b _ => b
    if 2097152 < received.length then
      .error (textResponse .payloadTooLarge
        "Failed to buffer the request body: length limit exceeded")
    else
      req.body.bytes.mapError fun e =>
        textResponse .badRequest s!"Failed to buffer the request body: {e}"
  answerGet req response :=
    if req.method = .head then { response with body := [] } else response
  bodyLimit := 2097152

theorem axumDocumented : AxumDocumented referenceAxum where
  dispatch_route := by
    intro rs r req _ hnodup hr hpath hmethod
    obtain ⟨r', hfind⟩ : ∃ r', rs.find? (fun r => req.path = r.path ∧ req.method = r.method)
        = some r' := by
      rw [← Option.isSome_iff_exists, List.find?_isSome]
      exact ⟨r, hr, decide_eq_true ⟨hpath, hmethod⟩⟩
    -- no other route has this path and method
    have hfound := List.find?_some hfind
    have hsame : req.path = r'.path ∧ req.method = r'.method := of_decide_eq_true hfound
    have hpair : (r'.path, r'.method) = (r.path, r.method) := by
      rw [← hsame.1, ← hsame.2, hpath, hmethod]
    obtain rfl := List.inj_on_of_nodup_map hnodup (List.mem_of_find?_eq_some hfind) hr hpair
    simp only [referenceAxum, hfind]
  dispatch_method := by
    intro rs req _ hpath hhead hmethod
    have hfind : rs.find? (fun r => req.path = r.path ∧ req.method = r.method) = none := by
      rw [List.find?_eq_none]
      intro r hr hboth
      exact hmethod r hr (of_decide_eq_true hboth).1 (of_decide_eq_true hboth).2
    have hget : rs.find? (fun r => req.path = r.path ∧ req.method = .head ∧ r.method = .get)
        = none := by
      rw [List.find?_eq_none]
      intro r hr hboth
      exact hhead (of_decide_eq_true hboth).2.1
    simp only [referenceAxum, hfind, hget, if_pos hpath]
    exact ⟨_, rfl, rfl⟩
  dispatch_notFound := by
    intro rs req _ hpath
    have hfind : rs.find? (fun r => req.path = r.path ∧ req.method = r.method) = none := by
      rw [List.find?_eq_none]
      intro r hr hboth
      exact hpath r hr (of_decide_eq_true hboth).1
    have hget : rs.find? (fun r => req.path = r.path ∧ req.method = .head ∧ r.method = .get)
        = none := by
      rw [List.find?_eq_none]
      intro r hr hboth
      exact hpath r hr (of_decide_eq_true hboth).1
    have hnone : ¬ ∃ r ∈ rs, req.path = r.path := fun hex => by
      rcases hex with ⟨r, hr, heq⟩
      exact hpath r hr heq
    simp only [referenceAxum, hfind, hget, if_neg hnone]
    exact ⟨_, rfl, rfl⟩
  extractBytes_complete := by
    intro req b hbody hlen
    have hfits : ¬ 2097152 < b.length := Nat.not_lt.mpr hlen
    simp only [referenceAxum, hbody, if_neg hfits]
    rfl
  extractBytes_tooLong := by
    intro req b hbody hlen
    have hlong : 2097152 < b.length := hlen
    simp only [referenceAxum, hbody, if_pos hlong]
    exact ⟨_, rfl, rfl⟩

end Reference

end Server
end Sifir
