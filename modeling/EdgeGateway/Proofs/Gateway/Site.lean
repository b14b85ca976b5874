import EdgeGateway.Proofs.Gateway.Draft
import EdgeGateway.Proofs.Route.Rules
import EdgeGateway.Proofs.Url.Appended

/-!
# The site of a request

Whatever a client asks for, the request that is drafted for it goes to the scheme, the user, the
host and the port of the accepted value behind the origin of its backend.

Main results:

- Theorem `url_of_draft`: the origin of a draft is followed by a slash.
- Theorem `draft_keeps_site`: a request has no influence on the site that it is sent to.
-/

namespace EdgeGateway

open Http

namespace Gateway

variable {g : Gateway} {r : Request} {backend : Backend} {out : Outbound}

/-- The URL of a draft is the origin of its backend and a text that begins with a slash. -/
theorem url_of_draft {origin : Text} (horigin : g.origins.get? backend = some origin)
    (hdraft : (g.draft r).1 = .ok (backend, out)) :
    ∃ d, g.routes.destination? r.target.path = some d ∧ d.backend = backend ∧
      d.path.head? = some '/' ∧ out.url = origin ++ (d.path ++ queryText r.target.query) := by
  rcases draft_eq_ok hdraft with ⟨d, origin', body, hd, hbackend, horigin', -, rfl⟩
  obtain rfl : origin = origin' := by
    rw [horigin] at horigin'
    exact Option.some.inj horigin'
  refine ⟨d, hd, hbackend, Route.Table.head?_destination hd, ?_⟩
  rw [outboundFor, urlAt, List.append_assoc]

/-- A path with its query begins as the path does. -/
theorem head?_append_queryText {path : Text} (h : path.head? = some '/') (query : Option Text) :
    (path ++ queryText query).head? = some '/' := by
  rw [List.head?_append, h, Option.some_or]

/-- The URL of a draft has the scheme, the user information, the host and the port of the value
that was accepted as the origin of its backend. -/
theorem draft_keeps_site {value origin : Text} (hvalue : Origin.ofText? value = some origin)
    (horigin : g.origins.get? backend = some origin)
    (hdraft : (g.draft r).1 = .ok (backend, out)) :
    ∃ w, Url.parse? value = some w ∧ ∀ u, Url.parse? out.url = some u →
      u.scheme = w.scheme ∧ u.username = w.username ∧ u.password = w.password ∧
        u.host = w.host ∧ u.port = w.port := by
  rcases Origin.parse?_append hvalue with ⟨w, authority, own, front, hw, hown, -, -, hreads⟩
  rcases url_of_draft horigin hdraft with ⟨d, -, -, hpath, hurl⟩
  have hslash : (d.path ++ queryText r.target.query).head? = some '/' := by
    rcases List.head?_eq_some_iff.1 hpath with ⟨rest, hrest⟩
    rw [hrest]
    rfl
  refine ⟨w, hw, fun u hu => ?_⟩
  rw [hurl] at hu
  rcases hreads with hreads | hreads
  · rw [hreads _ hslash] at hu
    obtain rfl := Option.some.inj hu
    rw [hown]
    exact ⟨rfl, rfl, rfl, rfl, rfl⟩
  · rw [hreads _ hslash] at hu
    cases hu

/-- A gateway whose only backend is on the machine itself. -/
def loopback : Gateway where
  origins := ⟨some "http://[::1]:8080".toList, none⟩
  routes := {}

/-- A request whose path is written like an authority. -/
def luring : Request where
  method := .get
  target := ⟨"/api/@evil:80".toList, none⟩
  headers := []
  body := .empty

/-- What is drafted for it. -/
def lured : Outbound :=
  ⟨.get, "http://[::1]:8080/api/v1/@evil:80".toList, Outbound.headersFor [], none⟩

/-- The path that is written like an authority stays a path. -/
theorem draft_keeps_site_luring :
    Origin.ofText? "http://[::1]:8080/".toList = some "http://[::1]:8080".toList ∧
      (loopback.draft luring).1 = .ok (.billing, lured) ∧
      ∃ w u, Url.parse? "http://[::1]:8080/".toList = some w ∧ Url.parse? lured.url = some u ∧
        u.scheme = w.scheme ∧ u.username = w.username ∧ u.password = w.password ∧
          u.host = w.host ∧ u.port = w.port := by
  have hvalue : Origin.ofText? "http://[::1]:8080/".toList = some "http://[::1]:8080".toList := by
    decide +kernel
  have hdraft : (loopback.draft luring).1 = .ok (.billing, lured) := rfl
  have hread : (Url.parse? lured.url).isSome = true := by decide +kernel
  rcases Option.isSome_iff_exists.1 hread with ⟨u, hu⟩
  rcases draft_keeps_site hvalue rfl hdraft with ⟨w, hw, hsite⟩
  exact ⟨hvalue, hdraft, w, u, hw, hu, hsite u hu⟩

end Gateway

end EdgeGateway
