import EdgeGateway.Gateway

/-!
# Drafting a request

Which requests can be drafted, what the draft is, and which fault stands in the way of the others.
The faults are tried in a fixed order: the route, the origin of its backend, the body.

Main results:

- Theorem `draft_of_unrouted`, `draft_of_unset`, `draft_of_brokenUpload`: the three faults.
- Theorem `draft_of_upload`: a request with a route, an origin and a complete body is drafted.
- Theorem `draft_eq_ok`: nothing else is drafted.
-/

namespace EdgeGateway

open Http

namespace Gateway

variable {g : Gateway} {r : Request}

/-! ## Bodies -/

/-- What a request carries to a backend when its body does not stand in the way: nothing if it only
asks for something, and otherwise all the bytes of its body. -/
inductive Uploads (r : Request) : Option Bytes → Prop where
  | nothing (h : carriesBody r.method = false) : Uploads r none
  | everything {bytes : Bytes} (h : carriesBody r.method = true) (hbody : r.body.read = .ok bytes) :
    Uploads r (some bytes)

/-- A body stands in the way exactly when it is needed and breaks off. -/
theorem bodyFor_eq_ok_iff {body : Option Bytes} : bodyFor r = .ok body ↔ Uploads r body := by
  constructor
  · intro h
    unfold bodyFor at h
    split at h
    · rename_i hc
      split at h
      · rename_i bytes hb
        cases h
        exact .everything hc hb
      · cases h
    · rename_i hc
      cases h
      exact .nothing (by simpa using hc)
  · intro h
    cases h with
    | nothing hc => simp [bodyFor, hc]
    | everything hc hb => simp [bodyFor, hc, hb]

/-- A body that is needed and breaks off is reported with its cause. -/
theorem bodyFor_of_broken {cause : Text} (hc : carriesBody r.method = true)
    (hb : r.body.read = .error cause) : bodyFor r = .error (.brokenUpload cause) := by
  simp [bodyFor, hc, hb]

/-! ## Faults -/

/-- A path without a route is refused before anything else is looked at. -/
theorem draft_of_unrouted (hd : g.routes.destination? r.target.path = none) :
    (g.draft r).1 = .error .noRoute := by
  simp [draft, plan, hd]

/-- A route to a backend without an origin is refused before the body is read. -/
theorem draft_of_unset {d : Route.Destination}
    (hd : g.routes.destination? r.target.path = some d)
    (ho : g.origins.get? d.backend = none) :
    (g.draft r).1 = .error (.notConfigured d.backend) := by
  simp [draft, plan, hd, ho]

/-- A body that breaks off is refused last. -/
theorem draft_of_brokenUpload {d : Route.Destination} {origin cause : Text}
    (hd : g.routes.destination? r.target.path = some d)
    (ho : g.origins.get? d.backend = some origin) (hc : carriesBody r.method = true)
    (hb : r.body.read = .error cause) :
    (g.draft r).1 = .error (.brokenUpload cause) := by
  simp [draft, plan, hd, ho, bodyFor_of_broken hc hb, Except.map]

/-! ## Drafts -/

/-- No query is sent as an empty one is. -/
theorem queryText_eq (query : Option Text) :
    queryText query = if query.getD [] = [] then [] else '?' :: query.getD [] := by
  cases query with
  | none => simp [queryText]
  | some query => rfl

/-- The URL of a target at a backend. -/
def urlAt (origin : Text) (d : Route.Destination) (query : Option Text) : Text :=
  origin ++ d.path ++ queryText query

/-- The request for a backend that stands for a request of a client. -/
def outboundFor (r : Request) (origin : Text) (d : Route.Destination) (body : Option Bytes) :
    Outbound where
  method := r.method
  url := urlAt origin d r.target.query
  headers := Outbound.headersFor r.headers
  body := body

/-- A request with a route, an origin and nothing wrong with its body is drafted. -/
theorem draft_of_upload {d : Route.Destination} {origin : Text} {body : Option Bytes}
    (hd : g.routes.destination? r.target.path = some d)
    (ho : g.origins.get? d.backend = some origin) (hb : Uploads r body) :
    (g.draft r).1 = .ok (d.backend, outboundFor r origin d body) := by
  simp [draft, plan, hd, ho, bodyFor_eq_ok_iff.2 hb, outboundFor, urlAt, Except.map]

/-- Every draft comes from a route, an origin and what the request uploads. -/
theorem draft_eq_ok {backend : Backend} {out : Outbound} (h : (g.draft r).1 = .ok (backend, out)) :
    ∃ d origin body, g.routes.destination? r.target.path = some d ∧ d.backend = backend ∧
      g.origins.get? backend = some origin ∧ Uploads r body ∧ out = outboundFor r origin d body := by
  rcases hd : g.routes.destination? r.target.path with _ | d
  · rw [draft_of_unrouted hd] at h
    cases h
  rcases ho : g.origins.get? d.backend with _ | origin
  · rw [draft_of_unset hd ho] at h
    cases h
  rcases hb : bodyFor r with fault | body
  · simp [draft, plan, hd, ho, hb, Except.map] at h
  · have hup := bodyFor_eq_ok_iff.1 hb
    rw [draft_of_upload hd ho hup] at h
    cases h
    exact ⟨d, origin, body, rfl, rfl, ho, hup, rfl⟩

end Gateway

end EdgeGateway
