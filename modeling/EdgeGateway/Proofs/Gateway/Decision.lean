import EdgeGateway.Proofs.Gateway.Draft
import EdgeGateway.Proofs.Gateway.Recording

/-!
# Who answers a request

A browser's question is answered by the gateway; so is a request without a route, one for a backend
without an origin, and one whose body breaks off although the backend needs it.  Every other request
is sent once, as a whole, and what comes back is the answer.

Main results:

- Theorem `serve_decision`: the five courses of a request in their order, each with its answer and
  its calls.
- Theorem `serve_decision_brokenUpload`: an upload that breaks off, at a gateway whose backends are
  all configured.
-/

namespace EdgeGateway

open Http

namespace Gateway

/-! ## What the client receives -/

/-- A response as it leaves the gateway: with the fixed fields and, if it is known, its length. -/
def delivered (response : Response) : Response :=
  (Cors.permit response).withLength

/-- The response that an answer of a carrier comes to. -/
def replyOf (result : Except Fault Response) : Response :=
  match result with
  | .ok response => response
  | .error fault => fault.response

/-- Leaving the gateway does not change the status. -/
@[simp]
theorem status_delivered (response : Response) : (delivered response).status = response.status :=
  Response.withLength_status _

/-- What was delivered has the status code of the response that was to be delivered. -/
theorem code_of_delivered {response inner : Response} (h : response = delivered inner) :
    response.status.code = inner.status.code := by
  rw [h, status_delivered]

variable {σ : Type} {g : Gateway} {carrier : Carrier σ} {r : Request} {s : σ}

/-- The client receives the response of a handled request. -/
theorem response_serve : (g.serve carrier r s).1.response =
    delivered (g.handle carrier r s).1.response :=
  rfl

/-- A request that cannot be drafted is answered by its fault. -/
theorem serve_of_error {fault : Fault} (hm : r.method ≠ .options)
    (h : (g.draft r).1 = .error fault) :
    (g.serve carrier r s).1.response = delivered fault.response ∧ (g.serve carrier r s).2 = s := by
  have hd : g.draft r = (.error fault, (g.draft r).2) := Prod.ext h rfl
  rw [response_serve]
  constructor
  · rw [handle_of_error hm hd]
    rfl
  · simp only [serve]
    rw [handle_of_error hm hd]

/-- A request that can be drafted is answered by what the carrier returns, good or bad. -/
theorem serve_of_ok {backend : Backend} {out : Outbound} (hm : r.method ≠ .options)
    (h : (g.draft r).1 = .ok (backend, out)) :
    (g.serve carrier r s).1.response = delivered (replyOf (carrier.send out s).1.result) ∧
      (g.serve carrier r s).2 = (carrier.send out s).2 := by
  have hd : g.draft r = (.ok (backend, out), (g.draft r).2) := Prod.ext h rfl
  rw [response_serve]
  constructor
  · rw [handle_of_ok hm hd]
    rcases hresult : (carrier.send out s).1.result with fault | response
    · simp [conclude, replyOf, hresult, fail]
    · simp [conclude, replyOf, hresult, forward]
  · simp only [serve]
    rw [handle_of_ok hm hd]

/-- A browser's question is answered at once. -/
theorem serve_of_options (h : r.method = .options) :
    (g.serve carrier r s).1.response = delivered Cors.preflight ∧ (g.serve carrier r s).2 = s := by
  rw [response_serve]
  constructor
  · rw [handle_options h]
    rfl
  · simp only [serve]
    rw [handle_options h]

/-! ## The calls of the recording carrier -/

/-- A browser's question leaves the record empty. -/
theorem serve_recording_of_options (carrier : Carrier σ) (s : σ) (h : r.method = .options) :
    (g.serve carrier.recording r ([], s)).1.response = delivered Cors.preflight ∧
      (g.serve carrier.recording r ([], s)).2 = ([], s) :=
  serve_of_options h

/-- A request that cannot be drafted leaves the record empty. -/
theorem serve_recording_of_error (carrier : Carrier σ) (s : σ) {fault : Fault}
    (hm : r.method ≠ .options)
    (h : (g.draft r).1 = .error fault) :
    (g.serve carrier.recording r ([], s)).1.response = delivered fault.response ∧
      (g.serve carrier.recording r ([], s)).2 = ([], s) :=
  serve_of_error hm h

/-- A request that can be drafted is the one call on the record. -/
theorem serve_recording_of_ok (carrier : Carrier σ) (s : σ) {backend : Backend} {out : Outbound}
    (hm : r.method ≠ .options)
    (h : (g.draft r).1 = .ok (backend, out)) :
    (g.serve carrier.recording r ([], s)).1.response =
        delivered (replyOf (carrier.send out s).1.result) ∧
      (g.serve carrier.recording r ([], s)).2 = ([out], (carrier.send out s).2) :=
  serve_of_ok hm h

/-! ## The decision -/

/-- Every request takes the first of five courses that is open to it.  A browser's question, a path
without a route, a backend without an origin and an upload that breaks off are answered by the
gateway, and nothing is sent.  Otherwise exactly one request is sent, with the whole body, and the
answer is what comes back, whether that is a response or a fault. -/
theorem serve_decision {σ : Type} (g : Gateway) (carrier : Carrier σ) (r : Request) (s : σ) :
    let served := g.serve carrier.recording r ([], s)
    let response := served.1.response
    let record := served.2
    (r.method = .options →
      response = delivered Cors.preflight ∧ response.status.code = 200 ∧ record = ([], s)) ∧
    (r.method ≠ .options → g.routes.destination? r.target.path = none →
      response = delivered Fault.noRoute.response ∧ response.status.code = 404 ∧
        record = ([], s)) ∧
    (∀ d, r.method ≠ .options → g.routes.destination? r.target.path = some d →
      g.origins.get? d.backend = none →
      response = delivered (Fault.notConfigured d.backend).response ∧
        response.status.code = 500 ∧ record = ([], s)) ∧
    (∀ d origin cause, r.method ≠ .options → g.routes.destination? r.target.path = some d →
      g.origins.get? d.backend = some origin → r.method ≠ .get → r.method ≠ .head →
      r.body.read = .error cause →
      response = delivered (Fault.brokenUpload cause).response ∧
        response.status.code = 502 ∧ record = ([], s)) ∧
    (∀ d origin, r.method ≠ .options → g.routes.destination? r.target.path = some d →
      g.origins.get? d.backend = some origin →
      (r.method = .get ∨ r.method = .head ∨ ∃ bytes, r.body.read = .ok bytes) →
      ∃ out : Outbound,
        out.method = r.method ∧ out.url = origin ++ d.path ++ queryText r.target.query ∧
        out.headers = Outbound.headersFor r.headers ∧
        (out.body = none ∧ (r.method = .get ∨ r.method = .head) ∨
          ∃ bytes, out.body = some bytes ∧ r.body.read = .ok bytes ∧
            r.method ≠ .get ∧ r.method ≠ .head) ∧
        record = ([out], (carrier.send out s).2) ∧
        response = delivered (match (carrier.send out s).1.result with
          | .ok response => response
          | .error fault => fault.response)) := by
  intro served response record
  refine ⟨?_, ?_, ?_, ?_, ?_⟩
  · intro hm
    rcases serve_recording_of_options carrier s hm with ⟨hresponse, hstate⟩
    exact ⟨hresponse, code_of_delivered hresponse, hstate⟩
  · intro hm hd
    obtain ⟨hresponse, hstate⟩ :=
      serve_recording_of_error carrier s hm (draft_of_unrouted hd)
    exact ⟨hresponse, code_of_delivered hresponse, hstate⟩
  · intro d hm hd ho
    obtain ⟨hresponse, hstate⟩ :=
      serve_recording_of_error carrier s hm (draft_of_unset hd ho)
    exact ⟨hresponse, code_of_delivered hresponse, hstate⟩
  · intro d origin cause hm hd ho hget hhead hb
    have hc : carriesBody r.method = true := by simp [carriesBody, hget, hhead]
    obtain ⟨hresponse, hstate⟩ :=
      serve_recording_of_error carrier s hm (draft_of_brokenUpload hd ho hc hb)
    exact ⟨hresponse, code_of_delivered hresponse, hstate⟩
  · intro d origin hm hd ho hbody
    by_cases hc : carriesBody r.method = true
    · have hneither : r.method ≠ .get ∧ r.method ≠ .head := by simpa [carriesBody] using hc
      obtain ⟨bytes, hbytes⟩ : ∃ bytes, r.body.read = .ok bytes := by
        rcases hbody with hget | hhead | hread
        · exact absurd hget hneither.1
        · exact absurd hhead hneither.2
        · exact hread
      obtain ⟨hresponse, hstate⟩ := serve_recording_of_ok carrier s hm
        (draft_of_upload hd ho (.everything hc hbytes))
      exact ⟨outboundFor r origin d (some bytes), rfl, rfl, rfl,
        .inr ⟨bytes, rfl, hbytes, hneither⟩, hstate, hresponse⟩
    · have heither : r.method = .get ∨ r.method = .head := by
        by_cases hget : r.method = .get
        · exact .inl hget
        · exact .inr (by simpa [carriesBody, hget] using hc)
      obtain ⟨hresponse, hstate⟩ := serve_recording_of_ok carrier s hm
        (draft_of_upload hd ho (.nothing (by simpa using hc)))
      exact ⟨outboundFor r origin d none, rfl, rfl, rfl, .inl ⟨rfl, heither⟩, hstate, hresponse⟩

/-- A gateway with an origin for each backend. -/
def configured : Gateway where
  origins := ⟨some "https://billing.example.com".toList, some "http://temporal-ui:8080".toList⟩
  routes := {}

/-- A carrier that would answer every request, and counts them. -/
def counting : Carrier Nat where
  name := "counting".toList
  send _ n := (⟨.ok ⟨.ok, [], .empty⟩, []⟩, n + 1)

/-- An upload below the versioned interface whose body breaks off after its first bytes. -/
def brokenUpload : Request where
  method := .post
  target := ⟨"/api/namespaces".toList, none⟩
  headers := []
  body := .stream [[123]] (some "reset".toList)

/-- The upload that breaks off is answered with status 502, and the carrier never hears of it. -/
theorem serve_decision_brokenUpload :
    brokenUpload.method ≠ .options ∧ brokenUpload.body.read = .error "reset".toList ∧
      (configured.serve counting.recording brokenUpload ([], 0)).1.response.status.code = 502 ∧
      (configured.serve counting.recording brokenUpload ([], 0)).2 = ([], 0) := by
  have hm : brokenUpload.method ≠ .options := by decide
  have hb : brokenUpload.body.read = .error "reset".toList := rfl
  have h := (serve_decision configured counting brokenUpload 0).2.2.2.1
    ⟨.billing, "/api/v1/namespaces".toList⟩ "https://billing.example.com".toList "reset".toList
    hm (by decide) (by decide) (by decide) (by decide) hb
  exact ⟨hm, hb, h.2.1, h.2.2⟩

end Gateway

end EdgeGateway
