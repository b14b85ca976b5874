import EdgeGateway.Proofs.Client.Passing
import EdgeGateway.Proofs.Gateway.Influence

/-!
# What is told of credentials and bodies

Credentials, media types, cookies and bodies are passed to a backend or dropped, and the gateway
tells nobody else about them: of a header field it reports at most the name, and of a body at most
why it broke off.  Two requests that differ only in what their fields and bodies hold are therefore
logged, counted and answered alike, as long as the backend answers alike, and what is sent for them
differs only in the same respect.

Main results:

- Theorem `headerEvents_congr_names`: what is reported of header fields depends on their names.
- Theorem `coursesAlike_of_veiled`: two such requests take the same course, and what is sent for them
  differs only under their veil.
- Theorem `reticent_client`: the client reports nothing that its answer does not show.
- Theorem `run_eq_of_veiled`: runs of such requests are the same to everyone but the backends.
- Theorem `serve_alike_of_veiled`: what the log, the metrics and the client learn of two such
  requests.
-/

namespace EdgeGateway

open Http

/-! ## Names of header fields -/

/-- The names of the fields of a header section, in order. -/
def Http.Headers.names (hs : Headers) : List FieldName :=
  hs.map HeaderField.name

/-- A name has a first value exactly if it occurs. -/
theorem Http.Headers.isSome_get?_iff {hs : Headers} {name : FieldName} :
    (hs.get? name).isSome = true ↔ name ∈ hs.names := by
  unfold get? names
  rw [Option.isSome_map, List.find?_isSome, List.mem_map]
  constructor
  · rintro ⟨f, hf, hname⟩
    exact ⟨f, hf, of_decide_eq_true hname⟩
  · rintro ⟨f, hf, hname⟩
    exact ⟨f, hf, decide_eq_true hname⟩

/-- The same names occur in two header sections, whatever the fields hold. -/
def Http.Headers.SameNames (a b : Headers) : Prop :=
  ∀ name, name ∈ a.names ↔ name ∈ b.names

namespace Outbound

/-- Picking first values picks the names that occur. -/
theorem names_pick (names : List FieldName) (inbound : Headers) :
    (pick names inbound).names = names.filter fun name => (inbound.get? name).isSome := by
  unfold pick Headers.names
  induction names with
  | nil => rfl
  | cons name rest ih =>
    cases hvalue : inbound.get? name with
    | none => simp [hvalue, ih]
    | some value => simp [hvalue, ih]

/-- Which credentials are passed on depends on the names that occur. -/
theorem names_credentialFields_congr {a b : Headers} (h : Headers.SameNames a b) :
    (credentialFields a).names = (credentialFields b).names := by
  unfold credentialFields
  rw [names_pick, names_pick]
  apply List.filter_congr
  intro name _
  rw [Bool.eq_iff_iff, Headers.isSome_get?_iff, Headers.isSome_get?_iff]
  exact h name

/-- What is reported of header fields depends on their names. -/
theorem headerEvents_congr_names {a b : Headers} (h : Headers.SameNames a b) :
    headerEvents a = headerEvents b := by
  have hevents (inbound : Headers) : headerEvents inbound =
      (credentialFields inbound).names.map fun name =>
        ⟨.debug, .forwardedHeaders, "Forwarding header".toList, [("header".toList, name.text)]⟩ := by
    unfold headerEvents Headers.names
    rw [List.map_map]
    rfl
  rw [hevents, hevents, names_credentialFields_congr h]

/-- The names of the fields for a backend depend on the names that occur. -/
theorem names_headersFor_congr {a b : Headers} (h : Headers.SameNames a b) :
    (headersFor a).names = (headersFor b).names := by
  have hcredentials := names_credentialFields_congr h
  unfold Headers.names at hcredentials
  unfold headersFor Headers.names
  rw [List.map_cons, List.map_cons, hcredentials]

/-- Two requests for a backend differ at most in what their fields and bodies hold. -/
structure Veiled (a b : Outbound) : Prop where
  method : a.method = b.method
  url : a.url = b.url
  names : a.headers.names = b.headers.names
  body : a.body.isSome = b.body.isSome

end Outbound

namespace Gateway

/-! ## Requests under a veil -/

/-- Two requests differ at most in what their fields and bodies hold: the same names occur among
their fields, and their bodies both read to the end or break off for the same reason. -/
structure Veiled (r₁ r₂ : Request) : Prop where
  method : r₁.method = r₂.method
  path : r₁.target.path = r₂.target.path
  query : r₁.target.query.getD [] = r₂.target.query.getD []
  names : Headers.SameNames r₁.headers r₂.headers
  fault : r₁.body.fault? = r₂.body.fault?

/-- Two requests take the same course, their drafts are reported alike, and what is sent for them
differs only under their veil. -/
inductive CoursesAlike (g : Gateway) (r₁ r₂ : Request) : Prop where
  | preflight (hm₁ : r₁.method = .options) (hm₂ : r₂.method = .options) (hcalls₁ : g.calls r₁ = [])
    (hcalls₂ : g.calls r₂ = []) : CoursesAlike g r₁ r₂
  | refused (fault : Fault) (events : List Event) (hm₁ : r₁.method ≠ .options)
    (hm₂ : r₂.method ≠ .options) (hdraft₁ : g.draft r₁ = (.error fault, events))
    (hdraft₂ : g.draft r₂ = (.error fault, events)) (hcalls₁ : g.calls r₁ = [])
    (hcalls₂ : g.calls r₂ = []) : CoursesAlike g r₁ r₂
  | sent (backend : Backend) (out₁ out₂ : Outbound) (events : List Event)
    (hm₁ : r₁.method ≠ .options) (hm₂ : r₂.method ≠ .options)
    (hdraft₁ : g.draft r₁ = (.ok (backend, out₁), events))
    (hdraft₂ : g.draft r₂ = (.ok (backend, out₂), events)) (hcalls₁ : g.calls r₁ = [out₁])
    (hcalls₂ : g.calls r₂ = [out₂]) (hveiled : out₁.Veiled out₂) : CoursesAlike g r₁ r₂

variable {g : Gateway} {r₁ r₂ : Request}

/-- Bodies that end alike stand in the way alike. -/
theorem bodyFor_of_veiled (h : Veiled r₁ r₂) :
    (∃ fault, bodyFor r₁ = .error fault ∧ bodyFor r₂ = .error fault) ∨
      ∃ body₁ body₂, bodyFor r₁ = .ok body₁ ∧ bodyFor r₂ = .ok body₂ ∧
        body₁.isSome = body₂.isSome := by
  unfold bodyFor Body.read
  rw [← h.method, ← h.fault]
  by_cases hcarries : carriesBody r₁.method = true
  · rw [if_pos hcarries, if_pos hcarries]
    cases r₁.body.fault? with
    | none => exact .inr ⟨_, _, rfl, rfl, rfl⟩
    | some cause => exact .inl ⟨_, rfl, rfl⟩
  · rw [if_neg hcarries, if_neg hcarries]
    exact .inr ⟨_, _, rfl, rfl, rfl⟩

/-- The drafts of requests under a veil fail alike, or differ only under the veil. -/
theorem draft_of_veiled (h : Veiled r₁ r₂) :
    (g.draft r₁).2 = (g.draft r₂).2 ∧
      ((∃ fault, (g.draft r₁).1 = .error fault ∧ (g.draft r₂).1 = .error fault) ∨
        ∃ backend out₁ out₂, (g.draft r₁).1 = .ok (backend, out₁) ∧
          (g.draft r₂).1 = .ok (backend, out₂) ∧ out₁.Veiled out₂) := by
  unfold draft
  rw [← plan_congr h.path h.query]
  cases g.plan r₁.target with
  | error fault => exact ⟨rfl, .inl ⟨fault, rfl, rfl⟩⟩
  | ok planned =>
    obtain ⟨backend, url⟩ := planned
    refine ⟨by simp only [h.path, Outbound.headerEvents_congr_names h.names], ?_⟩
    rcases bodyFor_of_veiled h with ⟨fault, hbody₁, hbody₂⟩ | ⟨body₁, body₂, hbody₁, hbody₂, hsome⟩
    · left
      exact ⟨fault, by rw [hbody₁]; rfl, by rw [hbody₂]; rfl⟩
    · right
      refine ⟨backend, ⟨r₁.method, url, Outbound.headersFor r₁.headers, body₁⟩,
        ⟨r₂.method, url, Outbound.headersFor r₂.headers, body₂⟩, by rw [hbody₁]; rfl,
        by rw [hbody₂]; rfl, ?_⟩
      exact ⟨h.method, rfl, Outbound.names_headersFor_congr h.names, hsome⟩

/-- Requests under a veil take the same course. -/
theorem coursesAlike_of_veiled (h : Veiled r₁ r₂) : CoursesAlike g r₁ r₂ := by
  by_cases hm₁ : r₁.method = .options
  · have hm₂ : r₂.method = .options := h.method ▸ hm₁
    exact .preflight hm₁ hm₂ (calls_of_options hm₁) (calls_of_options hm₂)
  · have hm₂ : r₂.method ≠ .options := h.method ▸ hm₁
    obtain ⟨hevents, hdrafts⟩ := draft_of_veiled (g := g) h
    rcases hdrafts with ⟨fault, hfault₁, hfault₂⟩ | ⟨backend, out₁, out₂, hout₁, hout₂, hveiled⟩
    · exact .refused fault (g.draft r₁).2 hm₁ hm₂ (Prod.ext hfault₁ rfl)
        (Prod.ext hfault₂ hevents.symm) (calls_of_error hfault₁) (calls_of_error hfault₂)
    · exact .sent backend out₁ out₂ (g.draft r₁).2 hm₁ hm₂ (Prod.ext hout₁ rfl)
        (Prod.ext hout₂ hevents.symm) (calls_of_ok hm₁ hout₁) (calls_of_ok hm₂ hout₂) hveiled

/-- What is sent for requests under a veil is under a veil. -/
theorem calls_of_veiled (h : Veiled r₁ r₂) :
    List.Forall₂ Outbound.Veiled (g.calls r₁) (g.calls r₂) := by
  cases coursesAlike_of_veiled (g := g) h with
  | preflight _ _ hcalls₁ hcalls₂ =>
    rw [hcalls₁, hcalls₂]
    exact .nil
  | refused _ _ _ _ _ _ hcalls₁ hcalls₂ =>
    rw [hcalls₁, hcalls₂]
    exact .nil
  | sent _ _ _ _ _ _ _ _ hcalls₁ hcalls₂ hveiled =>
    rw [hcalls₁, hcalls₂]
    exact .cons hveiled .nil

end Gateway

/-! ## What a carrier reports -/

/-- A carrier reports nothing that its result does not show. -/
def Carrier.Reticent {σ : Type} (carrier : Carrier σ) : Prop :=
  ∀ out₁ out₂ s₁ s₂, (carrier.send out₁ s₁).1.result = (carrier.send out₂ s₂).1.result →
    (carrier.send out₁ s₁).1.events = (carrier.send out₂ s₂).1.events

/-- A carrier is unmoved by what is under a veil: in states that are the same in some respect it
gives the same answers, and stays in such states. -/
def Carrier.Unmoved {σ : Type} (carrier : Carrier σ) (same : σ → σ → Prop) : Prop :=
  ∀ out₁ out₂ s₁ s₂, out₁.Veiled out₂ → same s₁ s₂ →
    (carrier.send out₁ s₁).1 = (carrier.send out₂ s₂).1 ∧
      same (carrier.send out₁ s₁).2 (carrier.send out₂ s₂).2

namespace Client

/-- The events about an answer depend on what is passed on of it. -/
theorem events_answerOf_congr {a b : Except Failure Response}
    (h : (answerOf a).result = (answerOf b).result) : (answerOf a).events = (answerOf b).events := by
  cases a with
  | error failure =>
    cases b with
    | error other => rfl
    | ok response => cases h
  | ok response =>
    cases b with
    | error failure => cases h
    | ok other =>
      have hpassed : passOn response = passOn other := Except.ok.inj h
      simp only [passOn, Response.mk.injEq] at hpassed
      obtain ⟨hstatus, -, hbody⟩ := hpassed
      have hbreaks : response.body.fault?.isSome = other.body.fault?.isSome := by
        rw [← isSome_fault_passBody, hbody, isSome_fault_passBody]
      simp only [answerOf, hstatus, hbreaks]

/-- The client reports nothing that its answer does not show. -/
theorem reticent_client {σ : Type} (net : Network σ) : (carrier net).Reticent := by
  intro out₁ out₂ s₁ s₂ h
  exact events_answerOf_congr h

end Client

namespace Gateway

variable {σ : Type} {g : Gateway} {carrier : Carrier σ} {r₁ r₂ : Request} {s₁ s₂ : σ}

/-- What a carrier itself reports of the calls of a request. -/
def reports (g : Gateway) (carrier : Carrier σ) (r : Request) (s : σ) : List Event :=
  (g.calls r).flatMap fun out => (carrier.send out s).1.events

/-- The calls of two requests are answered by the same results. -/
def SameResults (g : Gateway) (carrier : Carrier σ) (r₁ r₂ : Request) (s₁ s₂ : σ) : Prop :=
  ∀ out₁ ∈ g.calls r₁, ∀ out₂ ∈ g.calls r₂,
    (carrier.send out₁ s₁).1.result = (carrier.send out₂ s₂).1.result

/-- A reticent carrier reports the same of calls with the same results. -/
theorem reports_eq_of_reticent {related : Outbound → Outbound → Prop} (hcarrier : carrier.Reticent)
    (hcalls : List.Forall₂ related (g.calls r₁) (g.calls r₂))
    (hresults : SameResults g carrier r₁ r₂ s₁ s₂) :
    g.reports carrier r₁ s₁ = g.reports carrier r₂ s₂ := by
  unfold SameResults at hresults
  unfold reports
  generalize g.calls r₁ = calls₁ at hcalls hresults ⊢
  generalize g.calls r₂ = calls₂ at hcalls hresults ⊢
  induction hcalls with
  | nil => rfl
  | cons _ _ ih =>
    have hfirst := hcarrier _ _ _ _ (hresults _ List.mem_cons_self _ List.mem_cons_self)
    have hrest := ih fun out₁ hout₁ out₂ hout₂ =>
      hresults out₁ (List.mem_cons_of_mem _ hout₁) out₂ (List.mem_cons_of_mem _ hout₂)
    rw [List.flatMap_cons, List.flatMap_cons, hfirst, hrest]

/-! ## What the others learn -/

/-- Two handled requests look alike to the client, in the metrics and in the log, apart from what
was reported of them by the carrier. -/
structure LooksAlike (reported₁ reported₂ : List Event) (handled₁ handled₂ : Handled) : Prop where
  response : handled₁.response = handled₂.response
  sample : handled₁.sample = handled₂.sample
  updates : handled₁.updates = handled₂.updates
  events : ∃ before after, handled₁.events = before ++ reported₁ ++ after ∧
    handled₂.events = before ++ reported₂ ++ after

/-- With the same reports of the carrier they are the same. -/
theorem LooksAlike.eq {reported : List Event} {handled₁ handled₂ : Handled}
    (h : LooksAlike reported reported handled₁ handled₂) : handled₁ = handled₂ := by
  obtain ⟨hresponse, hsample, hupdates, before, after, hevents₁, hevents₂⟩ := h
  have hevents : handled₁.events = handled₂.events := hevents₁.trans hevents₂.symm
  cases handled₁
  cases handled₂
  cases hresponse
  cases hsample
  cases hupdates
  cases hevents
  rfl

/-- Requests that are handled in the same way without a report of the carrier look alike. -/
theorem LooksAlike.of_eq {handled₁ handled₂ : Handled} (h : handled₁ = handled₂) :
    LooksAlike [] [] handled₁ handled₂ where
  response := congrArg Handled.response h
  sample := congrArg Handled.sample h
  updates := congrArg Handled.updates h
  events := ⟨handled₁.events, [], by simp, by simp [h]⟩

/-- Requests look alike to the client as well when they have left the gateway. -/
theorem LooksAlike.finish {reported₁ reported₂ : List Event} {handled₁ handled₂ : Handled}
    (h : LooksAlike reported₁ reported₂ handled₁ handled₂) :
    LooksAlike reported₁ reported₂ (finish handled₁) (finish handled₂) where
  response := congrArg delivered h.response
  sample := h.sample
  updates := h.updates
  events := h.events

/-- Requests that were sent and had the same result look alike. -/
theorem looksAlike_conclude {answer₁ answer₂ : Answer} (h : Veiled r₁ r₂) (name : Text)
    (backend : Backend) (before : List Event) (hresult : answer₁.result = answer₂.result) :
    LooksAlike answer₁.events answer₂.events (conclude name r₁ backend before answer₁)
      (conclude name r₂ backend before answer₂) := by
  rw [conclude_congr h.method h.path]
  unfold conclude
  rw [hresult]
  cases answer₂.result with
  | ok response => exact ⟨rfl, rfl, rfl, before, [], by simp [forward], by simp [forward]⟩
  | error fault => exact ⟨rfl, rfl, rfl, before, [faultEvent name r₂ fault], rfl, rfl⟩

/-- Requests under a veil look alike if they have the same results. -/
theorem looksAlike_handle (h : Veiled r₁ r₂) (hresults : SameResults g carrier r₁ r₂ s₁ s₂) :
    LooksAlike (g.reports carrier r₁ s₁) (g.reports carrier r₂ s₂) (g.handle carrier r₁ s₁).1
      (g.handle carrier r₂ s₂).1 := by
  unfold SameResults at hresults
  unfold reports
  cases coursesAlike_of_veiled (g := g) h with
  | preflight hm₁ hm₂ hcalls₁ hcalls₂ =>
    rw [hcalls₁, hcalls₂, handle_options hm₁, handle_options hm₂]
    exact LooksAlike.of_eq rfl
  | refused fault events hm₁ hm₂ hdraft₁ hdraft₂ hcalls₁ hcalls₂ =>
    rw [hcalls₁, hcalls₂, handle_of_error hm₁ hdraft₁, handle_of_error hm₂ hdraft₂]
    exact LooksAlike.of_eq (fail_congr h.method h.path _ _ _ _)
  | sent backend out₁ out₂ events hm₁ hm₂ hdraft₁ hdraft₂ hcalls₁ hcalls₂ _ =>
    rw [hcalls₁, hcalls₂] at hresults
    rw [hcalls₁, hcalls₂, handle_of_ok hm₁ hdraft₁, handle_of_ok hm₂ hdraft₂,
      List.flatMap_singleton, List.flatMap_singleton]
    apply looksAlike_conclude h
    exact hresults _ (List.mem_singleton_self _) _ (List.mem_singleton_self _)

/-! ## Runs -/

/-- A carrier that is unmoved by what is under a veil hides it from everyone. -/
theorem handle_of_veiled {same : σ → σ → Prop} (hcarrier : carrier.Unmoved same)
    (h : Veiled r₁ r₂) (hs : same s₁ s₂) :
    (g.handle carrier r₁ s₁).1 = (g.handle carrier r₂ s₂).1 ∧
      same (g.handle carrier r₁ s₁).2 (g.handle carrier r₂ s₂).2 := by
  cases coursesAlike_of_veiled (g := g) h with
  | preflight hm₁ hm₂ _ _ =>
    rw [handle_options hm₁, handle_options hm₂]
    exact ⟨rfl, hs⟩
  | refused fault events hm₁ hm₂ hdraft₁ hdraft₂ _ _ =>
    rw [handle_of_error hm₁ hdraft₁, handle_of_error hm₂ hdraft₂]
    exact ⟨fail_congr h.method h.path _ _ _ _, hs⟩
  | sent backend out₁ out₂ events hm₁ hm₂ hdraft₁ hdraft₂ _ _ hveiled =>
    obtain ⟨hanswer, hstates⟩ := hcarrier out₁ out₂ s₁ s₂ hveiled hs
    rw [handle_of_ok hm₁ hdraft₁, handle_of_ok hm₂ hdraft₂, hanswer]
    exact ⟨conclude_congr h.method h.path _ _ _ _, hstates⟩

/-- Runs of requests under a veil are the same runs, if the carrier is unmoved by what is under it. -/
theorem run_eq_of_veiled {same : σ → σ → Prop} {rs₁ rs₂ : List Request}
    (hcarrier : carrier.Unmoved same) (h : List.Forall₂ Veiled rs₁ rs₂) (hs : same s₁ s₂) :
    (g.run carrier rs₁ s₁).1 = (g.run carrier rs₂ s₂).1 ∧
      same (g.run carrier rs₁ s₁).2 (g.run carrier rs₂ s₂).2 := by
  apply run_congr _ h hs
  intro r₁ r₂ s₁ s₂ hr hstates
  exact handle_of_veiled hcarrier hr hstates

/-- Of two requests that differ at most in what their fields and bodies hold, the backends receive
what differs in the same respect, and everyone else learns the same if the carrier has the same
results: the client receives the same response, the same is counted, and the same is logged apart
from what the carrier reports of its own accord.  A carrier that reports nothing but what its result
shows makes no exception, and the client of the gateway is one. -/
theorem serve_alike_of_veiled (g : Gateway) {r₁ r₂ : Request} (h : Veiled r₁ r₂) :
    (∀ (σ : Type) (carrier : Carrier σ) (s₁ s₂ : σ),
      List.Forall₂ Outbound.Veiled (g.serve carrier.recording r₁ ([], s₁)).2.1
          (g.serve carrier.recording r₂ ([], s₂)).2.1 ∧
        (SameResults g carrier r₁ r₂ s₁ s₂ →
          LooksAlike (g.reports carrier r₁ s₁) (g.reports carrier r₂ s₂)
              (g.serve carrier r₁ s₁).1 (g.serve carrier r₂ s₂).1 ∧
            (carrier.Reticent → (g.serve carrier r₁ s₁).1 = (g.serve carrier r₂ s₂).1))) ∧
    ∀ (σ : Type) (net : Client.Network σ), (Client.carrier net).Reticent := by
  refine ⟨?_, fun σ net => Client.reticent_client net⟩
  intro σ carrier s₁ s₂
  have hcalls : List.Forall₂ Outbound.Veiled (g.calls r₁) (g.calls r₂) := calls_of_veiled h
  constructor
  · rw [sent_serve_recording, sent_serve_recording]
    exact hcalls
  · intro hresults
    have hlooks : LooksAlike (g.reports carrier r₁ s₁) (g.reports carrier r₂ s₂)
        (g.serve carrier r₁ s₁).1 (g.serve carrier r₂ s₂).1 :=
      (looksAlike_handle h hresults).finish
    refine ⟨hlooks, ?_⟩
    intro hcarrier
    rw [reports_eq_of_reticent hcarrier hcalls hresults] at hlooks
    exact hlooks.eq

/-- The upload of another caller, with another key and other bytes. -/
def otherUpload : Request :=
  { upload with headers := [⟨.apiKey, [120, 121]⟩], body := .stream [[9], [9, 9]] none }

/-- Two uploads with different keys and bytes reach the backend as they are, and look the same to
everyone else. -/
theorem serve_alike_of_veiled_upload :
    Veiled upload otherUpload ∧
      configured.calls upload ≠ configured.calls otherUpload ∧
      (configured.serve counting upload 0).1 = (configured.serve counting otherUpload 0).1 := by
  have hnames : upload.headers.names = otherUpload.headers.names := rfl
  have hveiled : Veiled upload otherUpload :=
    ⟨rfl, rfl, rfl, fun name => by rw [hnames], rfl⟩
  have hreticent : counting.Reticent := by
    intro out₁ out₂ s₁ s₂ _
    rfl
  have hresults : SameResults configured counting upload otherUpload 0 0 := by
    intro out₁ _ out₂ _
    rfl
  have hserved := (serve_alike_of_veiled configured hveiled).1 Nat counting 0 0
  refine ⟨hveiled, by decide +kernel, (hserved.2 hresults).2 hreticent⟩

end Gateway

end EdgeGateway
