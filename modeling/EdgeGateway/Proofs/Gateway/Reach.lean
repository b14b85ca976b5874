import EdgeGateway.Proofs.Gateway.Draft
import EdgeGateway.Proofs.Http.Target
import EdgeGateway.Proofs.Route.NormalForm

/-!
# Prefixes that can be reached

The prefix of the user interface is checked when the gateway is set up, the path of a request when
it arrives, and the two checks know nothing of each other.  An accepted prefix may therefore be one
that no path begins with.  This module says which prefixes are in use at all: those that could be
written in a path.

Main results:

- Theorem `Route.destination?_below`: a path below an accepted prefix goes to the user interface.
- Theorem `Route.writable_of_routed`: a path for the user interface shows that its prefix can be
  written.
- Theorem `reaches_ui_iff`: which accepted prefixes can be reached, and what happens to the others.
-/

namespace EdgeGateway

open Http

namespace Route

/-- A prefix can be written in front of a slash in the path of a request. -/
def Writable (pre : Text) : Prop :=
  (∀ c ∈ pre, Target.isPathChar c = true) ∧ (Utf8.encode pre).length < Target.maxLength

/-- A prefix with a slash behind can be asked for exactly if it can be written. -/
theorem parse_below_iff (bare : Text) :
    Target.parse (Utf8.encode ('/' :: bare ++ ['/'])) = .ok ⟨'/' :: bare ++ ['/'], none⟩ ↔
      Writable ('/' :: bare) := by
  have hslash : Target.isPathChar '/' = true := by decide
  have hlength : (Utf8.encode ('/' :: bare ++ ['/'])).length =
      (Utf8.encode ('/' :: bare)).length + 1 := by
    rw [Utf8.encode_append, List.length_append]
    rfl
  rw [List.cons_append, Target.parse_path_iff, ← List.cons_append, hlength, Writable]
  constructor
  · rintro ⟨hchars, hshort⟩
    refine ⟨?_, by omega⟩
    rw [List.forall_mem_cons]
    exact ⟨hslash, fun c hc => hchars c (List.mem_append_left _ hc)⟩
  · rintro ⟨hchars, hshort⟩
    refine ⟨?_, by omega⟩
    intro c hc
    rcases List.mem_append.1 hc with hbare | hlast
    · exact hchars c (List.mem_cons_of_mem _ hbare)
    · rw [List.mem_singleton.1 hlast]
      exact hslash

/-- A path below an accepted prefix goes to the user interface, and loses the prefix. -/
theorem destination?_below {bare : Text} (h : Accepted bare) (rest : Text) :
    Table.destination? ⟨'/' :: bare⟩ ('/' :: bare ++ '/' :: rest) =
      some ⟨.orchestrationUi, '/' :: rest⟩ := by
  apply Table.destination?_eq_some_iff.2
  apply Table.Routes.ui
  intro hapi
  have hcollides := overlaps_iff_collides.1 ⟨_, hapi, below_append ('/' :: bare) rest⟩
  rw [h.clear] at hcollides
  cases hcollides

/-- A path that goes to the user interface has the prefix written in it. -/
theorem writable_of_routed {table : Table} {bytes : Bytes} {t : Target} {d : Destination}
    (hpre : table.uiPrefix ≠ []) (hread : Target.parse bytes = .ok t)
    (hd : table.destination? t.path = some d) (hui : d.backend = .orchestrationUi) :
    Writable table.uiPrefix := by
  have hroutes := Table.routes_of_destination? hd
  generalize hpath : t.path = path at hroutes
  cases hroutes with
  | health => cases hui
  | api _ => cases hui
  | @ui rest _ =>
    have hlong : 1 < t.path.length := by
      have hpos := List.length_pos_iff.2 hpre
      rw [hpath, List.length_append, List.length_cons]
      omega
    obtain ⟨hchars, hlength⟩ := Target.path_of_parse hread hlong
    rw [hpath] at hchars hlength
    refine ⟨fun c hc => hchars c (List.mem_append_left _ hc), ?_⟩
    have hslash : 0 < (Utf8.encode ('/' :: rest)).length := Nat.succ_pos _
    rw [Utf8.encode_append, List.length_append] at hlength
    omega

end Route

namespace Gateway

/-- An accepted prefix with a slash behind is a request target whose path is that text exactly if the
prefix can be written: if its characters are those of paths and it is not too long.  A request that
only asks for that path is then drafted for the user interface, with a slash as its path there.  If
the prefix cannot be written, no request whatever is for the user interface: what is read of any
target goes to the billing backend or nowhere. -/
theorem reaches_ui_iff {raw pre : Text} (h : Route.normalizePrefix? raw = some pre) (g : Gateway)
    (hg : g.routes = ⟨pre⟩) :
    (Target.parse (Utf8.encode (pre ++ ['/'])) = .ok ⟨pre ++ ['/'], none⟩ ↔ Route.Writable pre) ∧
    (Route.Writable pre → ∀ (r : Request) (origin : Text),
      Target.parse (Utf8.encode (pre ++ ['/'])) = .ok r.target → r.method = .get →
      g.origins.get? .orchestrationUi = some origin →
      (g.draft r).1 = .ok (.orchestrationUi, outboundFor r origin ⟨.orchestrationUi, ['/']⟩ none)) ∧
    ((∃ bytes t d, Target.parse bytes = .ok t ∧ g.routes.destination? t.path = some d ∧
      d.backend = .orchestrationUi) ↔ Route.Writable pre) ∧
    (¬ Route.Writable pre → ∀ (r : Request) (bytes : Bytes), Target.parse bytes = .ok r.target →
      ∀ out, (g.draft r).1 ≠ .ok (.orchestrationUi, out)) := by
  obtain ⟨bare, rfl, haccepted⟩ := Route.exists_accepted h
  have hparse := Route.parse_below_iff bare
  have hroute : g.routes.destination? ('/' :: bare ++ ['/']) = some ⟨.orchestrationUi, ['/']⟩ := by
    rw [hg]
    exact Route.destination?_below haccepted []
  have hneeded (bytes : Bytes) (t : Target) (d : Route.Destination)
      (hread : Target.parse bytes = .ok t) (hd : g.routes.destination? t.path = some d)
      (hui : d.backend = .orchestrationUi) : Route.Writable ('/' :: bare) := by
    rw [hg] at hd
    exact Route.writable_of_routed (List.cons_ne_nil _ _) hread hd hui
  refine ⟨hparse, ?_, ?_, ?_⟩
  · intro hwritable r origin hread hget horigin
    have htarget : r.target = ⟨'/' :: bare ++ ['/'], none⟩ := by
      rw [hparse.2 hwritable] at hread
      exact (Except.ok.inj hread).symm
    have hpath : g.routes.destination? r.target.path = some ⟨.orchestrationUi, ['/']⟩ := by
      rw [htarget]
      exact hroute
    apply draft_of_upload hpath horigin
    apply Uploads.nothing
    rw [hget]
    decide
  · constructor
    · rintro ⟨bytes, t, d, hread, hd, hui⟩
      exact hneeded bytes t d hread hd hui
    · intro hwritable
      exact ⟨_, _, _, hparse.2 hwritable, hroute, rfl⟩
  · intro hunwritable r bytes hread out hdraft
    obtain ⟨d, origin, body, hd, hui, -, -, -⟩ := draft_eq_ok hdraft
    exact hunwritable (hneeded bytes r.target d hread hd hui)

/-- A gateway whose prefix for the user interface has a percent escape, a quote and a letter beyond
ASCII in it. -/
def ornate : Gateway where
  origins := ⟨none, some "http://[::1]".toList⟩
  routes := ⟨"/ops%20\"é".toList⟩

/-- A gateway whose prefix for the user interface has a space in it. -/
def spaced : Gateway where
  origins := ⟨none, some "http://[::1]".toList⟩
  routes := ⟨"/my ui".toList⟩

/-- A request that asks for the path below the first prefix. -/
def looking : Request where
  method := .get
  target := ⟨"/ops%20\"é/".toList, none⟩
  headers := []
  body := .full []

/-- The first prefix can be reached without being decoded, and the second one by no request. -/
theorem reaches_ui_iff_ornate :
    Route.normalizePrefix? " /ops%20\"é//".toList = some "/ops%20\"é".toList ∧
      Target.parse (Utf8.encode "/ops%20\"é/".toList) = .ok looking.target ∧
      (ornate.draft looking).1 = .ok (.orchestrationUi,
        outboundFor looking "http://[::1]".toList ⟨.orchestrationUi, ['/']⟩ none) ∧
      Route.normalizePrefix? "my ui".toList = some "/my ui".toList ∧
      ¬ ∃ bytes t d, Target.parse bytes = .ok t ∧ spaced.routes.destination? t.path = some d ∧
        d.backend = .orchestrationUi := by
  have hornate : Route.normalizePrefix? " /ops%20\"é//".toList = some "/ops%20\"é".toList := by
    decide
  have hspaced : Route.normalizePrefix? "my ui".toList = some "/my ui".toList := by decide
  have hchars : "/ops%20\"é".toList.all Target.isPathChar = true := by decide
  have hwritable : Route.Writable "/ops%20\"é".toList := ⟨List.all_eq_true.1 hchars, by decide⟩
  have hunwritable : ¬ Route.Writable "/my ui".toList := by
    rintro ⟨hall, -⟩
    exact absurd (hall ' ' (by decide)) (by decide)
  obtain ⟨hparse, hdraft, -, -⟩ := reaches_ui_iff hornate ornate rfl
  obtain ⟨-, -, hreach, -⟩ := reaches_ui_iff hspaced spaced rfl
  have hlooking := hparse.2 hwritable
  refine ⟨hornate, hlooking, hdraft hwritable looking _ hlooking rfl rfl, hspaced, ?_⟩
  intro hreached
  exact hunwritable (hreach.1 hreached)

/-- A question mark in an accepted prefix makes what stands behind it a query. -/
theorem not_reaches_ui_marked :
    ¬ ∀ raw pre, Route.normalizePrefix? raw = some pre →
      Target.parse (Utf8.encode (pre ++ ['/'])) = .ok ⟨pre ++ ['/'], none⟩ := by
  intro h
  have haccepted : Route.normalizePrefix? "a?b".toList = some "/a?b".toList := by decide
  have hread : Target.parse (Utf8.encode "/a?b/".toList) = .ok ⟨"/a".toList, some "b/".toList⟩ :=
    rfl
  have hwhole : Target.parse (Utf8.encode "/a?b/".toList) = .ok ⟨"/a?b/".toList, none⟩ :=
    h _ _ haccepted
  rw [hread] at hwhole
  cases hwhole

end Gateway

end EdgeGateway
