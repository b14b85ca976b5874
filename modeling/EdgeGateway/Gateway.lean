import EdgeGateway.Backend
import EdgeGateway.Cors
import EdgeGateway.Fault
import EdgeGateway.Outbound
import EdgeGateway.Route

/-!
# The gateway

A gateway answers every request: questions of browsers by itself, requests that belong to a
backend with what the backend answers, and all others with a fault.  Nothing is sent before it is
certain that the request can be sent as a whole, and nothing is sent twice.

Main results:

- Theorem `handle_options`: a browser's question is answered without looking at anything else.
- Theorem `handle_of_error`: a request that cannot be drafted is answered by the gateway.
- Theorem `handle_of_ok`: a request that can be drafted is sent once.
- Theorem `length_run`: every request of a run is answered.
-/

namespace EdgeGateway

open Http

/-- What sending a request comes to: a response or a fault, and the events on the way. -/
structure Answer where
  result : Except Fault Response
  events : List Event

/-- What sends requests to backends; its own state lies in `σ`. -/
structure Carrier (σ : Type) where
  name : Text
  send : Outbound → σ → Answer × σ

/-- A gateway is set up by the origins of its backends and by its routes. -/
structure Gateway where
  origins : Origins
  routes : Route.Table
  deriving DecidableEq, Repr

/-- What a request leaves behind besides changes at the carrier: what it comes to, what the metrics
are told of that, and what is logged. -/
structure Handled where
  response : Response
  sample : Telemetry.Sample
  updates : List Telemetry.Update
  events : List Event
  deriving DecidableEq, Repr

namespace Gateway

/-! ## Drafting -/

/-- A query as it stands behind a path; an empty one is left out. -/
def queryText (query : Option Text) : Text :=
  match query with
  | none => []
  | some query => if query = [] then [] else '?' :: query

/-- The backend of a target and the URL there. -/
def plan (g : Gateway) (target : Target) : Except Fault (Backend × Text) :=
  match g.routes.destination? target.path with
  | none => .error .noRoute
  | some destination =>
    match g.origins.get? destination.backend with
    | none => .error (.notConfigured destination.backend)
    | some origin =>
      .ok (destination.backend, origin ++ destination.path ++ queryText target.query)

/-- Requests that only ask for something carry no body. -/
def carriesBody (method : Method) : Bool :=
  method ≠ .get && method ≠ .head

/-- The body for a backend, which has to arrive as a whole. -/
def bodyFor (r : Request) : Except Fault (Option Bytes) :=
  if carriesBody r.method then
    match r.body.read with
    | .ok bytes => .ok (some bytes)
    | .error cause => .error (.brokenUpload cause)
  else .ok none

/-- The event about a new URL. -/
def urlEvent (backend : Backend) (path url : Text) : Event :=
  ⟨.debug, .forwarding, "Rewrote request path".toList,
    [("backend".toList, backend.name), ("from".toList, path), ("url".toList, url)]⟩

/-- The request for the backend, and the events on the way. -/
def draft (g : Gateway) (r : Request) : Except Fault (Backend × Outbound) × List Event :=
  match g.plan r.target with
  | .error fault => (.error fault, [])
  | .ok (backend, url) =>
    let result := (bodyFor r).map fun body =>
      (backend, ⟨r.method, url, Outbound.headersFor r.headers, body⟩)
    (result, urlEvent backend r.target.path url :: Outbound.headerEvents r.headers)

/-! ## Answering -/

/-- The event about a fault. -/
def faultEvent (carrier : Text) (r : Request) (fault : Fault) : Event :=
  match fault with
  | .noRoute =>
    ⟨.info, .requests, "No route for request".toList,
      [("method".toList, r.method.token), ("path".toList, r.target.path)]⟩
  | .notConfigured backend =>
    ⟨.warn, .requests, "Backend origin not configured".toList,
      [("backend".toList, backend.name), ("path".toList, r.target.path)]⟩
  | _ =>
    ⟨.error, .requests, "Proxy error: ".toList ++ fault.message,
      [("method".toList, r.method.token), ("path".toList, r.target.path),
        ("upstream".toList, carrier)]⟩

/-- The end of a request that is answered by a fault. -/
def fail (carrier : Text) (r : Request) (backend : Option Backend) (fault : Fault)
    (before : List Event) : Handled where
  response := fault.response
  sample := ⟨⟨backend, fault.outcome⟩, fault.status.code⟩
  updates := Telemetry.record ⟨⟨backend, fault.outcome⟩, fault.status.code⟩
  events := before ++ [faultEvent carrier r fault]

/-- The end of a request that is answered by a backend. -/
def forward (backend : Backend) (response : Response) (events : List Event) : Handled where
  response := response
  sample := ⟨⟨some backend, .forwarded⟩, response.status.code⟩
  updates := Telemetry.record ⟨⟨some backend, .forwarded⟩, response.status.code⟩
  events := events

/-- The end of a browser's question. -/
def answerPreflight : Handled where
  response := Cors.preflight
  sample := ⟨⟨none, .preflight⟩, Status.ok.code⟩
  updates := Telemetry.record ⟨⟨none, .preflight⟩, Status.ok.code⟩
  events := []

/-- The end of a request that was sent. -/
def conclude (carrier : Text) (r : Request) (backend : Backend) (before : List Event)
    (answer : Answer) : Handled :=
  match answer.result with
  | .ok response => forward backend response (before ++ answer.events)
  | .error fault => fail carrier r (some backend) fault (before ++ answer.events)

/-- Answers a request. -/
def handle {σ : Type} (g : Gateway) (carrier : Carrier σ) (r : Request) (s : σ) :
    Handled × σ :=
  if r.method = .options then (answerPreflight, s)
  else
    match g.draft r with
    | (.error fault, events) => (fail carrier.name r none fault events, s)
    | (.ok (backend, outbound), events) =>
      let (answer, s) := carrier.send outbound s
      (conclude carrier.name r backend events answer, s)

variable {σ : Type} {g : Gateway} {carrier : Carrier σ} {r : Request} {s : σ}

theorem handle_options (h : r.method = .options) :
    g.handle carrier r s = (answerPreflight, s) := by
  simp [handle, h]

theorem handle_of_error {fault : Fault} {events : List Event} (hm : r.method ≠ .options)
    (h : g.draft r = (.error fault, events)) :
    g.handle carrier r s = (fail carrier.name r none fault events, s) := by
  simp [handle, hm, h]

theorem handle_of_ok {backend : Backend} {outbound : Outbound} {events : List Event}
    (hm : r.method ≠ .options) (h : g.draft r = (.ok (backend, outbound), events)) :
    g.handle carrier r s =
      (conclude carrier.name r backend events (carrier.send outbound s).1,
        (carrier.send outbound s).2) := by
  simp [handle, hm, h]

/-- What leaves the gateway: the answer with the fixed fields and, if it is known, its length.  What
the server around the gateway does beyond that is left out: the events of its own tracing of
requests, which tell method and target as they were written and the status, but no field value and
no body; and that no body is put on the wire in answer to `HEAD`, or to a `CONNECT` that
succeeds. -/
def finish (handled : Handled) : Handled :=
  { handled with response := (Cors.permit handled.response).withLength }

/-- Answers a request as the client sees it. -/
def serve (g : Gateway) (carrier : Carrier σ) (r : Request) (s : σ) : Handled × σ :=
  let (handled, s) := g.handle carrier r s
  (finish handled, s)

/-- Answers requests one after another. -/
def run (g : Gateway) (carrier : Carrier σ) : List Request → σ → List Handled × σ
  | [], s => ([], s)
  | r :: rest, s =>
    let (handled, s) := g.serve carrier r s
    let (others, s) := run g carrier rest s
    (handled :: others, s)

theorem length_run (g : Gateway) (carrier : Carrier σ) (rs : List Request) (s : σ) :
    (g.run carrier rs s).1.length = rs.length := by
  induction rs generalizing s with
  | nil => rfl
  | cons r rest ih => simp [run, ih]

end Gateway

end EdgeGateway
