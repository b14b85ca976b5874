import EdgeGateway.Proofs.Gateway.Draft
import EdgeGateway.Proofs.Http.Target
import EdgeGateway.Proofs.Route.Rules
import EdgeGateway.Proofs.Text.Cutting

/-!
# What was asked for, from what is sent

The URL that is drafted for a request shows which path and which query were asked for: the origin in
front of it is known, the first question mark behind the origin begins the query, and the rule that
was applied can be undone.  Requests for the same backend with different paths or queries therefore
never have the same URL.

Main results:

- Theorem `askedFor_of_draft`: path and query of a request are found again in its draft.
- Theorem `draft_separates_targets`: drafts for one backend with the same URL come from the same path
  and query.
-/

namespace EdgeGateway

open Http

namespace Gateway

/-! ## The query in a text -/

/-- Behind a path without question marks a query stands apart. -/
theorem cut_append_queryText {path : Text} (hpath : '?' ∉ path) (query : Option Text) :
    Text.takeUntil (· == '?') (path ++ queryText query) = path ∧
      (Text.dropUntil (· == '?') (path ++ queryText query)).drop 1 = query.getD [] := by
  have hnone : ∀ c ∈ path, (c == '?') = false := by
    intro c hc
    rw [beq_eq_false_iff_ne]
    rintro rfl
    exact hpath hc
  have hhead : ∀ c ∈ (queryText query).head?, (c == '?') = true := by
    rw [queryText_eq]
    split <;> simp
  obtain ⟨htake, hdrop⟩ := Text.cut_append_of_none hnone hhead
  refine ⟨htake, ?_⟩
  rw [hdrop, queryText_eq]
  split
  · rename_i hempty
    rw [hempty]
    rfl
  · rfl

/-! ## Undoing a draft -/

/-- The path and the query that were asked for, from a backend and a URL there. -/
def askedFor (g : Gateway) (backend : Backend) (url : Text) : Text × Text :=
  let behind := url.drop ((g.origins.get? backend).getD []).length
  (g.routes.source backend (Text.takeUntil (· == '?') behind),
    (Text.dropUntil (· == '?') behind).drop 1)

variable {g : Gateway} {r : Request} {backend : Backend} {out : Outbound}

/-- The path and the query of a request are found again in its draft. -/
theorem askedFor_of_draft (htidy : r.target.Tidy) (hdraft : (g.draft r).1 = .ok (backend, out)) :
    g.askedFor backend out.url = (r.target.path, r.target.query.getD []) := by
  obtain ⟨d, origin, body, hd, rfl, horigin, -, rfl⟩ := draft_eq_ok hdraft
  have hroutes := Route.Table.routes_of_destination? hd
  have hpath : '?' ∉ d.path := by
    intro hmem
    rcases Route.Table.mem_of_mem_destination hd hmem with hmem | hmem | hmem
    · exact (htidy.path _ hmem).2.1 rfl
    · exact absurd hmem (by decide)
    · exact absurd hmem (by decide)
  have hbehind : (urlAt origin d r.target.query).drop origin.length =
      d.path ++ queryText r.target.query := by
    rw [urlAt, List.append_assoc, List.drop_left]
  obtain ⟨hfront, hquery⟩ := cut_append_queryText hpath r.target.query
  unfold askedFor
  rw [horigin]
  simp only [outboundFor, Option.getD_some, hbehind, hfront, hquery]
  rw [Route.Table.source_of_routes hroutes]

/-- Path and query of a request are found again in the backend and the URL of its draft, so that no
two requests with different paths or queries are drafted to the same URL at the same backend; a
missing query is as good as an empty one.  In particular nothing but the health check is sent to the
path of the billing backend for it. -/
theorem draft_separates_targets (g : Gateway) :
    (∀ r bytes backend out, Target.parse bytes = .ok r.target →
      (g.draft r).1 = .ok (backend, out) →
      g.askedFor backend out.url = (r.target.path, r.target.query.getD [])) ∧
    (∀ r₁ r₂ bytes₁ bytes₂ backend out₁ out₂, Target.parse bytes₁ = .ok r₁.target →
      Target.parse bytes₂ = .ok r₂.target → (g.draft r₁).1 = .ok (backend, out₁) →
      (g.draft r₂).1 = .ok (backend, out₂) → out₁.url = out₂.url →
      r₁.target.path = r₂.target.path ∧ r₁.target.query.getD [] = r₂.target.query.getD []) ∧
    ∀ path, g.routes.destination? path = some ⟨.billing, Route.billingHealthPath⟩ ↔
      path = Route.healthCheckPath := by
  refine ⟨?_, ?_, ?_⟩
  · intro r bytes backend out htarget hdraft
    exact askedFor_of_draft (Target.tidy_of_parse htarget) hdraft
  · intro r₁ r₂ bytes₁ bytes₂ backend out₁ out₂ htarget₁ htarget₂ hdraft₁ hdraft₂ hurl
    have h₁ := askedFor_of_draft (Target.tidy_of_parse htarget₁) hdraft₁
    have h₂ := askedFor_of_draft (Target.tidy_of_parse htarget₂) hdraft₂
    have hboth : (r₁.target.path, r₁.target.query.getD []) =
        (r₂.target.path, r₂.target.query.getD []) := by
      rw [← h₁, ← h₂, hurl]
    exact ⟨congrArg Prod.fst hboth, congrArg Prod.snd hboth⟩
  · intro path
    constructor
    · intro hd
      rw [← Route.Table.source_of_routes (Route.Table.routes_of_destination? hd)]
      simp [Route.Table.source]
    · rintro rfl
      exact Route.Table.destination?_health _

/-- A gateway with both backends on the machine itself, and with a prefix for the user interface that
overlaps the versioned interface of the billing backend. -/
def overlapping : Gateway where
  origins := ⟨some "http://[::1]".toList, some "http://[::1]".toList⟩
  routes := ⟨"/api/v1".toList⟩

/-- A request for the health check, with some query. -/
def checking (query : Option Text) : Request where
  method := .get
  target := ⟨"/api/health".toList, query⟩
  headers := []
  body := .empty

/-- What is drafted for it, with the query as it is sent. -/
def checked (sent : Text) : Outbound :=
  ⟨.get, "http://[::1]/health".toList ++ sent, Outbound.headersFor [], none⟩

/-- A query with a question mark in it is found again, and the health check with an empty query has
the URL of the one without a query. -/
theorem draft_separates_targets_checking :
    overlapping.askedFor .billing "http://[::1]/health?a?b".toList =
        ("/api/health".toList, "a?b".toList) ∧
      (overlapping.draft (checking (some []))).1 = .ok (.billing, checked []) ∧
      (overlapping.draft (checking none)).1 = .ok (.billing, checked []) ∧
      (checking (some [])).target.path = (checking none).target.path ∧
      (checking (some [])).target.query.getD [] = (checking none).target.query.getD [] := by
  have hmarked : Target.parse (Utf8.encode "/api/health?a?b".toList) =
      .ok (checking (some "a?b".toList)).target := rfl
  have hempty : Target.parse (Utf8.encode "/api/health?".toList) =
      .ok (checking (some [])).target := rfl
  have habsent : Target.parse (Utf8.encode "/api/health".toList) = .ok (checking none).target := rfl
  have hmarkedDraft : (overlapping.draft (checking (some "a?b".toList))).1 =
      .ok (.billing, checked "?a?b".toList) := rfl
  have hemptyDraft : (overlapping.draft (checking (some []))).1 = .ok (.billing, checked []) := rfl
  have habsentDraft : (overlapping.draft (checking none)).1 = .ok (.billing, checked []) := rfl
  obtain ⟨hfound, hsame, -⟩ := draft_separates_targets overlapping
  refine ⟨hfound _ _ _ _ hmarked hmarkedDraft, hemptyDraft, habsentDraft, ?_⟩
  exact hsame _ _ _ _ _ _ _ hempty habsent hemptyDraft habsentDraft rfl

end Gateway

end EdgeGateway
