import EdgeGateway.Proofs.Gateway.Decision
import EdgeGateway.Proofs.Http.Spelling
import Mathlib.Data.List.Basic
import Mathlib.Data.List.Forall2

/-!
# What has an influence

Of a request the gateway heeds its method, its path and query, the first values of three header
fields, and its body if a backend is to receive it.  Requests that are alike in these are served
alike: the same is sent, answered, logged and counted, whatever else is in them.

Main results:

- Theorem `draft_eq_of_alike`: alike requests have the same draft.
- Theorem `handle_eq_of_alike`: they are handled in the same way by every carrier.
- Theorem `run_congr`: what one step keeps the same for two requests, a run keeps for two lists.
- Theorem `run_eq_of_alike`: runs of alike requests are the same runs.
- Theorem `serve_eq_of_alike`: nothing outside of what is heeded has an influence, and neither do
  the parts of a written target that are not read.
-/

namespace EdgeGateway

open Http

namespace Outbound

/-! ## Header fields -/

/-- The names of the fields that are heeded. -/
def heeded : List FieldName :=
  [.contentType, .authorization, .apiKey]

/-- Two header sections have the same first values under some names. -/
def SameFirst (names : List FieldName) (a b : Headers) : Prop :=
  ∀ name ∈ names, a.get? name = b.get? name

/-- The first values of some names depend on nothing else. -/
theorem pick_congr {names : List FieldName} {a b : Headers} (h : SameFirst names a b) :
    pick names a = pick names b := by
  unfold pick
  refine List.filterMap_congr fun name hname => ?_
  rw [h name hname]

/-- The credentials depend on the fields that are heeded. -/
theorem credentialFields_congr {a b : Headers} (h : SameFirst heeded a b) :
    credentialFields a = credentialFields b :=
  pick_congr fun name hname => h name (List.mem_cons_of_mem _ hname)

/-- The fields for a backend depend on the fields that are heeded. -/
theorem headersFor_congr {a b : Headers} (h : SameFirst heeded a b) :
    headersFor a = headersFor b := by
  rw [headersFor, headersFor, credentialFields_congr h, h .contentType (by simp [heeded])]

/-- The events about credentials depend on the fields that are heeded. -/
theorem headerEvents_congr {a b : Headers} (h : SameFirst heeded a b) :
    headerEvents a = headerEvents b := by
  rw [headerEvents, headerEvents, credentialFields_congr h]

end Outbound

namespace Gateway

/-! ## Requests that are alike -/

/-- Two requests are alike in everything that is heeded.  No query is as good as an empty one, and
the bodies matter only where a backend is to receive them.  Scheme, authority and fragment of a
written target are not part of a request here, because no function of the gateway reads them; that
they are read to the same path and query with and without them is `Target.parse_of_respelled`. -/
structure Alike (r₁ r₂ : Request) : Prop where
  method : r₁.method = r₂.method
  path : r₁.target.path = r₂.target.path
  query : r₁.target.query.getD [] = r₂.target.query.getD []
  headers : Outbound.SameFirst Outbound.heeded r₁.headers r₂.headers
  body : r₁.method ≠ .get → r₁.method ≠ .head → r₁.method ≠ .options →
    r₁.body.read = r₂.body.read

variable {g : Gateway} {r₁ r₂ : Request}

/-- The backend and the URL depend on path and query; no query is as good as an empty one. -/
theorem plan_congr {t₁ t₂ : Target} (hpath : t₁.path = t₂.path)
    (hquery : t₁.query.getD [] = t₂.query.getD []) : g.plan t₁ = g.plan t₂ := by
  rw [plan, plan, hpath, queryText_eq, queryText_eq, hquery]

/-- The body for a backend depends on the body only where there is one. -/
theorem bodyFor_eq_of_alike (h : Alike r₁ r₂) (hm : r₁.method ≠ .options) :
    bodyFor r₁ = bodyFor r₂ := by
  rw [bodyFor, bodyFor, ← h.method]
  by_cases hc : carriesBody r₁.method = true
  · have hneither : r₁.method ≠ .get ∧ r₁.method ≠ .head := by simpa [carriesBody] using hc
    rw [h.body hneither.1 hneither.2 hm]
  · rw [if_neg hc, if_neg hc]

/-- Alike requests have the same draft, with the same events. -/
theorem draft_eq_of_alike (h : Alike r₁ r₂) (hm : r₁.method ≠ .options) :
    g.draft r₁ = g.draft r₂ := by
  rw [draft, draft, plan_congr h.path h.query, bodyFor_eq_of_alike h hm, h.method, h.path,
    Outbound.headersFor_congr h.headers, Outbound.headerEvents_congr h.headers]

/-- The report of a fault depends on method and path. -/
theorem faultEvent_congr (hmethod : r₁.method = r₂.method)
    (hpath : r₁.target.path = r₂.target.path) (carrier : Text) (fault : Fault) :
    faultEvent carrier r₁ fault = faultEvent carrier r₂ fault := by
  cases fault <;> simp only [faultEvent, hmethod, hpath]

/-- So does the end of a request that is answered by a fault. -/
theorem fail_congr (hmethod : r₁.method = r₂.method) (hpath : r₁.target.path = r₂.target.path)
    (carrier : Text) (backend : Option Backend) (fault : Fault) (before : List Event) :
    fail carrier r₁ backend fault before = fail carrier r₂ backend fault before := by
  rw [fail, fail, faultEvent_congr hmethod hpath]

/-- And the end of a request that was sent. -/
theorem conclude_congr (hmethod : r₁.method = r₂.method) (hpath : r₁.target.path = r₂.target.path)
    (carrier : Text) (backend : Backend) (before : List Event) (answer : Answer) :
    conclude carrier r₁ backend before answer = conclude carrier r₂ backend before answer := by
  rw [conclude, conclude]
  cases answer.result with
  | ok response => rfl
  | error fault => exact fail_congr hmethod hpath carrier (some backend) fault _

/-! ## Serving them -/

variable {σ : Type}

/-- Alike requests are handled in the same way, and leave the carrier in the same state. -/
theorem handle_eq_of_alike (h : Alike r₁ r₂) (carrier : Carrier σ) (s : σ) :
    g.handle carrier r₁ s = g.handle carrier r₂ s := by
  cases g.course r₁ with
  | preflight hm _ => rw [handle_options hm, handle_options (h.method ▸ hm)]
  | refused fault events hm hdraft _ =>
    have hdraft' := (draft_eq_of_alike (g := g) h hm).symm.trans hdraft
    rw [handle_of_error hm hdraft, handle_of_error (h.method ▸ hm) hdraft',
      fail_congr h.method h.path]
  | sent backend out events hm hdraft _ =>
    have hdraft' := (draft_eq_of_alike (g := g) h hm).symm.trans hdraft
    rw [handle_of_ok hm hdraft, handle_of_ok (h.method ▸ hm) hdraft',
      conclude_congr h.method h.path]

/-- If related requests are handled in the same way, in states of the carrier that are the same in
some respect and stay so, then runs of related requests are the same runs. -/
theorem run_congr {related : Request → Request → Prop} {same : σ → σ → Prop} {carrier : Carrier σ}
    (hstep : ∀ r₁ r₂ s₁ s₂, related r₁ r₂ → same s₁ s₂ →
      (g.handle carrier r₁ s₁).1 = (g.handle carrier r₂ s₂).1 ∧
        same (g.handle carrier r₁ s₁).2 (g.handle carrier r₂ s₂).2)
    {rs₁ rs₂ : List Request} (h : List.Forall₂ related rs₁ rs₂) {s₁ s₂ : σ} (hs : same s₁ s₂) :
    (g.run carrier rs₁ s₁).1 = (g.run carrier rs₂ s₂).1 ∧
      same (g.run carrier rs₁ s₁).2 (g.run carrier rs₂ s₂).2 := by
  induction h generalizing s₁ s₂ with
  | nil => exact ⟨rfl, hs⟩
  | cons hr _ ih =>
    obtain ⟨hfirst, hstates⟩ := hstep _ _ _ _ hr hs
    obtain ⟨hrest, hlast⟩ := ih hstates
    simp only [run, serve, hfirst, hrest]
    exact ⟨trivial, hlast⟩

/-- Runs of alike requests are the same runs. -/
theorem run_eq_of_alike {rs₁ rs₂ : List Request} (h : List.Forall₂ Alike rs₁ rs₂)
    (carrier : Carrier σ) (s : σ) : g.run carrier rs₁ s = g.run carrier rs₂ s := by
  have hstep (r₁ r₂ : Request) (s₁ s₂ : σ) (hr : Alike r₁ r₂) (hs : s₁ = s₂) :
      (g.handle carrier r₁ s₁).1 = (g.handle carrier r₂ s₂).1 ∧
        (g.handle carrier r₁ s₁).2 = (g.handle carrier r₂ s₂).2 := by
    rw [hs, handle_eq_of_alike hr]
    exact ⟨rfl, rfl⟩
  obtain ⟨hhandled, hstate⟩ := run_congr hstep h (rfl : s = s)
  exact Prod.ext hhandled hstate

/-- Requests that are alike are served alike: the same requests are sent, in the same order and
with the same effect on the carrier, and response, log events and sample are the same.  What stands
in front of the path of a written target, and a fragment behind it, is not even read. -/
theorem serve_eq_of_alike {σ : Type} (g : Gateway) (carrier : Carrier σ) (sent : List Outbound)
    (s : σ) :
    (∀ r₁ r₂, Alike r₁ r₂ →
      g.serve carrier.recording r₁ (sent, s) = g.serve carrier.recording r₂ (sent, s)) ∧
    ∀ written bare t, Target.Respelled written bare → Target.parse written = .ok t →
      Target.parse bare = .ok t := by
  refine ⟨fun r₁ r₂ h => ?_, fun written bare t => Target.parse_of_respelled⟩
  rw [serve, serve, handle_eq_of_alike h]

/-- An upload of two bytes with the key of a caller. -/
def upload : Request where
  method := .post
  target := ⟨"/api/keys".toList, none⟩
  headers := [⟨.apiKey, [107]⟩]
  body := .full [1, 2]

/-- The same upload with an empty query, a cookie, another key behind the first one, and its bytes
in two chunks. -/
def adornedUpload : Request where
  method := .post
  target := ⟨"/api/keys".toList, some []⟩
  headers := [⟨.cookie, [99]⟩, ⟨.apiKey, [107]⟩, ⟨.host, [104]⟩, ⟨.apiKey, [120]⟩]
  body := .stream [[1], [2]] none

/-- The two uploads are served alike, and a target in absolute form is read as its path. -/
theorem serve_eq_of_alike_upload :
    Alike adornedUpload upload ∧
      configured.serve counting.recording adornedUpload ([], 0) =
        configured.serve counting.recording upload ([], 0) ∧
      Target.parse (Utf8.encode "http://temporal-ui:8080/api/keys".toList) = .ok upload.target ∧
      Target.parse (Utf8.encode "/api/keys".toList) = .ok upload.target := by
  have halike : Alike adornedUpload upload :=
    ⟨rfl, rfl, rfl, by unfold Outbound.SameFirst; decide, fun _ _ _ => rfl⟩
  have hall : ((Utf8.encode "temporal-ui:8080".toList).all fun b =>
      Target.isDelimiter b = false) = true := by
    decide
  have hspelled : Target.Respelled (Utf8.encode "http://temporal-ui:8080/api/keys".toList)
      (Utf8.encode "/api/keys".toList) :=
    @Target.Respelled.absolute (Utf8.encode "http".toList) (Utf8.encode "temporal-ui:8080".toList)
      (Utf8.encode "api/keys".toList) (List.all_eq_true.1 (by decide))
      fun b hb => of_decide_eq_true (List.all_eq_true.1 hall b hb)
  have hread : Target.parse (Utf8.encode "http://temporal-ui:8080/api/keys".toList) =
      .ok upload.target := rfl
  have h := serve_eq_of_alike configured counting [] 0
  exact ⟨halike, h.1 _ _ halike, hread, h.2 _ _ _ hspelled hread⟩

end Gateway

end EdgeGateway
