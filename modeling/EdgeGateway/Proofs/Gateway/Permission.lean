import EdgeGateway.Proofs.Gateway.Decision

/-!
# What every response says, and what it keeps

Whichever way a request goes, its response leaves the gateway with exactly one value for each of the
three fields that let every origin in.  Apart from these fields and from the length of the body,
which is added where it is missing, the response is the one that was given: by the gateway itself,
by a fault, or by a backend.

Main results:

- Theorem `permits_delivered`: whatever a response says before, it lets every origin in afterwards.
- Theorem `keeps_delivered`: leaving the gateway changes nothing else.
- Theorem `permits_run`: every response of every run lets every origin in.
- Theorem `serve_permits_keeps`: every request has a response, which lets every origin in and keeps
  what was given.
-/

namespace EdgeGateway

open Http

/-! ## Fields that let every origin in -/

namespace Cors

/-- A header section lets every origin in, and says so once. -/
structure Permits (hs : Headers) : Prop where
  origin : hs.values .allowOrigin = [valueOf ['*']]
  methods : hs.values .allowMethods = [valueOf "GET, POST, PUT, DELETE, OPTIONS".toList]
  headers : hs.values .allowHeaders = [valueOf "Content-Type, Authorization, X-API-Key".toList]

/-- The names of the fields that let every origin in. -/
def names : List FieldName :=
  [.allowOrigin, .allowMethods, .allowHeaders]

/-- The fixed fields have these names. -/
theorem name_mem_names {f : HeaderField} (h : f ∈ fields) : f.name ∈ names := by
  have hnames : fields.map HeaderField.name = names := rfl
  rw [← hnames]
  exact List.mem_map_of_mem h

/-- With the fixed fields in it a header section lets every origin in, whatever it said before. -/
theorem permits_permitFields (hs : Headers) : Permits (permitFields hs) := by
  have hfixed : ∀ f ∈ fields, (permitFields hs).values f.name = [f.value] := by
    intro f hf
    exact values_permitFields_of_mem hs hf
  simp only [fields, List.forall_mem_cons] at hfixed
  obtain ⟨horigin, hmethods, hheaders, -⟩ := hfixed
  exact ⟨horigin, hmethods, hheaders⟩

end Cors

/-! ## Responses that keep what was given -/

namespace Http

/-- A response has the status, the body and, except under some names, the values of another one. -/
structure Response.Keeps (but : List FieldName) (given response : Response) : Prop where
  status : response.status = given.status
  body : response.body = given.body
  values : ∀ name, name ∉ but → response.headers.values name = given.headers.values name

/-- What two changes keep one after the other. -/
theorem Response.Keeps.trans {but also : List FieldName} {given between response : Response}
    (h : Keeps but given between) (h' : Keeps also between response) :
    Keeps (but ++ also) given response where
  status := h'.status.trans h.status
  body := h'.body.trans h.body
  values name hname := by
    rw [List.mem_append, not_or] at hname
    exact (h'.values name hname.2).trans (h.values name hname.1)

/-- Adding the length of the body keeps everything else. -/
theorem Response.keeps_withLength (given : Response) :
    Keeps [.contentLength] given given.withLength where
  status := withLength_status given
  body := withLength_body given
  values name hname := by
    apply values_withLength
    intro heq
    exact hname (by simp [heq])

end Http

/-- Letting every origin in keeps everything else. -/
theorem Cors.keeps_permit (given : Response) : Response.Keeps Cors.names given (permit given) where
  status := rfl
  body := rfl
  values name hname := by
    apply values_permitFields_of_not_mem
    intro f hf heq
    exact hname (heq ▸ name_mem_names hf)

namespace Gateway

/-! ## Leaving the gateway -/

/-- A response that leaves the gateway lets every origin in, whatever it said before. -/
theorem permits_delivered (given : Response) : Cors.Permits (delivered given).headers := by
  have h := Cors.permits_permitFields given.headers
  have hkept (name : FieldName) (hname : name ≠ .contentLength) :
      (delivered given).headers.values name = (Cors.permitFields given.headers).values name :=
    Response.values_withLength (Cors.permit given) hname
  constructor
  case origin => rw [hkept _ (by decide), h.origin]
  case methods => rw [hkept _ (by decide), h.methods]
  case headers => rw [hkept _ (by decide), h.headers]

/-- A response that leaves the gateway keeps its status, its body, and all other fields. -/
theorem keeps_delivered (given : Response) :
    Response.Keeps (Cors.names ++ [.contentLength]) given (delivered given) :=
  (Cors.keeps_permit given).trans (Response.keeps_withLength _)

variable {σ : Type} {g : Gateway} {carrier : Carrier σ} {r : Request} {s : σ}

/-- The response that a request is given, in the four ways that it can go. -/
inductive Given (g : Gateway) (carrier : Carrier σ) (r : Request) (s : σ) : Response → Prop where
  /-- A browser's question is answered by the gateway. -/
  | preflight (hm : r.method = .options) : Given g carrier r s Cors.preflight
  /-- A request that cannot be drafted is answered by its fault. -/
  | refused {fault : Fault} (hm : r.method ≠ .options) (hdraft : (g.draft r).1 = .error fault) :
    Given g carrier r s fault.response
  /-- A request that was sent in vain is answered by the fault of the carrier. -/
  | failed {backend : Backend} {out : Outbound} {fault : Fault} (hm : r.method ≠ .options)
    (hdraft : (g.draft r).1 = .ok (backend, out))
    (hanswer : (carrier.send out s).1.result = .error fault) : Given g carrier r s fault.response
  /-- A request that was sent is answered by the response of the backend. -/
  | forwarded {backend : Backend} {out : Outbound} {response : Response} (hm : r.method ≠ .options)
    (hdraft : (g.draft r).1 = .ok (backend, out))
    (hanswer : (carrier.send out s).1.result = .ok response) : Given g carrier r s response

/-- Every request goes one of the four ways. -/
theorem exists_given (g : Gateway) (carrier : Carrier σ) (r : Request) (s : σ) :
    ∃ given, Given g carrier r s given := by
  cases g.course r with
  | preflight hm _ => exact ⟨_, .preflight hm⟩
  | refused fault events hm hdraft _ => exact ⟨_, .refused hm (congrArg Prod.fst hdraft)⟩
  | sent backend out events hm hdraft _ =>
    have hdrafted : (g.draft r).1 = .ok (backend, out) := congrArg Prod.fst hdraft
    rcases hanswer : (carrier.send out s).1.result with fault | response
    · exact ⟨_, .failed hm hdrafted hanswer⟩
    · exact ⟨_, .forwarded hm hdrafted hanswer⟩

/-- The client receives what the request is given, as it leaves the gateway. -/
theorem response_of_given {given : Response} (h : Given g carrier r s given) :
    (g.serve carrier r s).1.response = delivered given := by
  cases h with
  | preflight hm => exact (serve_of_options hm).1
  | refused hm hdraft => exact (serve_of_error hm hdraft).1
  | failed hm hdraft hanswer =>
    rw [(serve_of_ok hm hdraft).1, hanswer]
    rfl
  | forwarded hm hdraft hanswer =>
    rw [(serve_of_ok hm hdraft).1, hanswer]
    rfl

/-- A served request has a response that lets every origin in. -/
theorem permits_serve (g : Gateway) (carrier : Carrier σ) (r : Request) (s : σ) :
    Cors.Permits (g.serve carrier r s).1.response.headers := by
  rw [response_serve]
  exact permits_delivered _

/-- Every response of a run lets every origin in. -/
theorem permits_run (g : Gateway) (carrier : Carrier σ) (rs : List Request) (s : σ) :
    ∀ handled ∈ (g.run carrier rs s).1, Cors.Permits handled.response.headers := by
  induction rs generalizing s with
  | nil =>
    intro handled hmem
    cases hmem
  | cons r rest ih =>
    intro handled hmem
    rcases List.mem_cons.1 hmem with rfl | hmem
    · exact permits_serve g carrier r s
    · exact ih _ handled hmem

/-- Every request is given a response in one of the four ways.  What the client receives lets every
origin in, with one value for each of the three fields, and has the status and the body of what was
given, broken off at the same place if it breaks off, and all values of every other field in their
order. -/
theorem serve_permits_keeps {σ : Type} (g : Gateway) (carrier : Carrier σ) (r : Request) (s : σ) :
    Cors.Permits (g.serve carrier r s).1.response.headers ∧
      (∃ given, Given g carrier r s given) ∧
      ∀ given, Given g carrier r s given →
        (g.serve carrier r s).1.response.status = given.status ∧
        (g.serve carrier r s).1.response.body = given.body ∧
        ∀ name, name ≠ .allowOrigin → name ≠ .allowMethods → name ≠ .allowHeaders →
          name ≠ .contentLength →
          (g.serve carrier r s).1.response.headers.values name = given.headers.values name := by
  refine ⟨permits_serve g carrier r s, exists_given g carrier r s, ?_⟩
  intro given hgiven
  have hkeeps := keeps_delivered given
  rw [← response_of_given hgiven] at hkeeps
  refine ⟨hkeeps.status, hkeeps.body, ?_⟩
  intro name horigin hmethods hheaders hlength
  apply hkeeps.values
  simp [Cors.names, horigin, hmethods, hheaders, hlength]

/-- A response that contradicts itself about origins, sets two cookies and breaks off. -/
def contradictory : Response where
  status := ⟨599, by decide⟩
  headers := [⟨.allowOrigin, [110]⟩, ⟨.cookie, [97]⟩, ⟨.allowOrigin, [111]⟩, ⟨.cookie, [98]⟩]
  body := .stream [[1], [2, 3]] (some "reset".toList)

/-- A carrier that returns this response. -/
def contradicting : Carrier Nat where
  name := "contradicting".toList
  send _ n := (⟨.ok contradictory, []⟩, n + 1)

/-- A request to look something up. -/
def lookup : Request where
  method := .get
  target := ⟨"/api/keys".toList, none⟩
  headers := []
  body := .empty

/-- The client is told once that its origin is let in, receives both cookies, and sees the body break
off where it did. -/
theorem serve_permits_keeps_contradictory :
    Given configured contradicting lookup 0 contradictory ∧
      (configured.serve contradicting lookup 0).1.response.headers.values .allowOrigin =
        [valueOf ['*']] ∧
      (configured.serve contradicting lookup 0).1.response.headers.values .cookie =
        [[97], [98]] ∧
      (configured.serve contradicting lookup 0).1.response.status.code = 599 ∧
      (configured.serve contradicting lookup 0).1.response.body =
        .stream [[1], [2, 3]] (some "reset".toList) := by
  have hdraft : (configured.draft lookup).1 = .ok (.billing, ⟨.get,
      "https://billing.example.com/api/v1/keys".toList, Outbound.headersFor [], none⟩) := rfl
  have hgiven : Given configured contradicting lookup 0 contradictory :=
    .forwarded (by decide) hdraft rfl
  obtain ⟨hpermits, -, hkeeps⟩ := serve_permits_keeps configured contradicting lookup 0
  obtain ⟨hstatus, hbody, hvalues⟩ := hkeeps contradictory hgiven
  refine ⟨hgiven, hpermits.origin, ?_, ?_, ?_⟩
  · exact hvalues .cookie (by decide) (by decide) (by decide) (by decide)
  · rw [hstatus]
    rfl
  · rw [hbody]
    rfl

end Gateway

end EdgeGateway
