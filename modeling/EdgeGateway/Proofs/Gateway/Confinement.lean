import EdgeGateway.Proofs.Gateway.Site
import EdgeGateway.Proofs.Http.Target
import EdgeGateway.Proofs.Url.Marks
import EdgeGateway.Proofs.Url.Names

/-!
# The path that is really sent

The gateway chooses a route by the path as it is written, and the client carries out the dot
segments of the URL afterwards.  The path that a backend receives is therefore not always below the
path that the route promises.  This module says exactly when it is.

Main results:

- Theorem `path_sent`: the path that a backend receives, from the segments of the origin, of the
  rule and of the request.
- Theorem `leadsBack_iff`, `leadsBack_of_no_escape`: which requests stay below an ordinary origin.
- Theorem `confined_iff`: the path that is sent lies below the promised one exactly if the request
  leads back there.
-/

namespace EdgeGateway

open Http Url

namespace Gateway

/-! ## What a route promises -/

/-- The path of an origin without the slashes at its end. -/
def ownPath (site : Url) : Text :=
  Text.trimEnd (· == '/') site.path.text

/-- What a rule puts between the path of the origin and the rest of the path of a request. -/
def promised : Backend → Text
  | .billing => Route.billingApi
  | .orchestrationUi => []

/-- The prefix of the paths that a rule applies to, the health check apart. -/
def claimed (routes : Route.Table) : Backend → Text
  | .billing => Route.publicApi
  | .orchestrationUi => routes.uiPrefix

/-- The path of a URL lies below what a rule promises at a site. -/
def Confined (backend : Backend) (site u : Url) : Prop :=
  ownPath site ++ promised backend ++ ['/'] <+: u.path.text

/-! ## When the promise is kept -/

/-- The segments of the path of an origin without empty ones at its end. -/
def ownNames (site : Url) : List Text :=
  site.path.names.rdropWhile (· == [])

/-- The segments that an origin leads through when a path stands behind it. -/
def through (origin : Text) : List Text :=
  match Url.parse? (origin ++ ['/']) with
  | some site => site.path.names.dropLast
  | none => []

/-- The segments of what a rule puts in front of the rest of a path. -/
def ruleNames : Backend → List Text
  | .billing => ["api".toList, "v1".toList]
  | .orchestrationUi => []

/-- The segments that a backend receives for the rest of a path: what is left of the origin and of
the rule when the rest has climbed out of them, and then what the rest is by itself. -/
def received (backend : Backend) (lead : List Text) (rest : Text) : List Text :=
  climb (escapes [] (rawSegments true rest)) (lead ++ ruleNames backend) ++
    carryOut false [] (rawSegments true rest)

/-- The rest of a path leads back to where the rule has put it, if it ever climbs out. -/
def LeadsBack (backend : Backend) (own lead : List Text) (rest : Text) : Prop :=
  own ++ ruleNames backend <+: received backend lead rest ∧
    own ++ ruleNames backend ≠ received backend lead rest

/-- Below an origin that is the same with a path behind it, the rest of a path leads back exactly if
it names again, and goes on from there, the levels that its climbing has lost. -/
theorem leadsBack_iff {backend : Backend} {own : List Text} {rest : Text} :
    LeadsBack backend own own rest ↔
      lost (escapes [] (rawSegments true rest)) (own ++ ruleNames backend) <+:
          carryOut false [] (rawSegments true rest) ∧
        lost (escapes [] (rawSegments true rest)) (own ++ ruleNames backend) ≠
          carryOut false [] (rawSegments true rest) := by
  unfold LeadsBack received
  generalize own ++ ruleNames backend = names
  generalize escapes [] (rawSegments true rest) = levels
  have hsplit := climb_append_lost levels names
  generalize climb levels names = left at hsplit ⊢
  generalize lost levels names = gone at hsplit ⊢
  subst hsplit
  rw [List.prefix_append_right_inj, ne_eq, List.append_cancel_left_eq]

/-- A request that does not climb stays below such an origin. -/
theorem leadsBack_of_no_escape {backend : Backend} {own : List Text} {rest : Text}
    (h : escapes [] (rawSegments true rest) = 0) : LeadsBack backend own own rest := by
  have hsegments : rawSegments true rest ≠ [] := by
    simp [rawSegments, Text.segments]
  rw [leadsBack_iff, h, lost_zero]
  exact ⟨List.nil_prefix, (carryOut_ne_nil [] hsegments).symm⟩

/-! ## Reading the URL of a draft -/

variable {g : Gateway} {r : Request} {backend : Backend} {out : Outbound}

/-- A route is one of two rules, apart from the health check. -/
theorem exists_rest_of_destination {table : Route.Table} {path : Text} {d : Route.Destination}
    (hhealth : path ≠ Route.healthCheckPath) (hd : table.destination? path = some d) :
    ∃ rest, path = claimed table d.backend ++ '/' :: rest ∧
      d.path = promised d.backend ++ '/' :: rest := by
  cases Route.Table.routes_of_destination? hd with
  | health => exact absurd rfl hhealth
  | @api rest _ => exact ⟨rest, rfl, rfl⟩
  | @ui rest _ => exact ⟨rest, rfl, rfl⟩

/-- What a rule puts in front of the rest of a path is the text of its segments. -/
theorem text_ruleNames (backend : Backend) :
    (Path.segments (ruleNames backend)).text = promised backend := by
  cases backend <;> rfl

/-- The segments of a rule hold neither dots nor slashes. -/
theorem ruleNames_plain (backend : Backend) :
    (∀ s ∈ ruleNames backend, isDoubleDot s = false ∧ isSingleDot s = false) ∧
      SlashFree (ruleNames backend) := by
  cases backend with
  | billing =>
    constructor
    · show ∀ s ∈ ["api".toList, "v1".toList], isDoubleDot s = false ∧ isSingleDot s = false
      decide
    · show ∀ name ∈ ["api".toList, "v1".toList], '/' ∉ name
      decide
  | orchestrationUi => exact ⟨by simp [ruleNames], by simp [ruleNames, SlashFree]⟩

/-- What a rule promises is plain text. -/
theorem promised_plain (backend : Backend) :
    ∀ c ∈ promised backend, 0x20 < c.toNat ∧ c ≠ '?' ∧ c ≠ '#' := by
  cases backend with
  | billing =>
    have hall : (Route.billingApi.all fun c => 0x20 < c.toNat ∧ c ≠ '?' ∧ c ≠ '#') = true := by
      decide
    exact fun c hc => of_decide_eq_true (List.all_eq_true.1 hall c hc)
  | orchestrationUi => simp [promised]

/-- A query that is sent has a question mark in front. -/
theorem queryText_marked (query : Option Text) :
    queryText query = [] ∨ ∃ written, queryText query = '?' :: written := by
  unfold queryText
  split
  · exact .inl rfl
  · split
    · exact .inl rfl
    · exact .inr ⟨_, rfl⟩

/-- The query of a target holds no number sign, also behind its mark. -/
theorem queryText_plain {target : Target} (h : target.Tidy) :
    ∀ c ∈ queryText target.query, 0x20 < c.toNat ∧ c ≠ '#' := by
  intro c hc
  unfold queryText at hc
  split at hc
  · cases hc
  · rename_i query hquery
    split at hc
    · cases hc
    · rcases List.mem_cons.1 hc with rfl | hc
      · decide
      · exact h.query query hquery c hc

/-- The segments of what a rule promises come before those of the rest. -/
theorem exists_rawSegments_rule (backend : Backend) (rest : Text) :
    ∃ t, promised backend ++ '/' :: rest = '/' :: t ∧
      rawSegments true t = ruleNames backend ++ rawSegments true rest := by
  cases backend with
  | billing =>
    have hslash : isSlash true '/' = true := rfl
    refine ⟨"api/v1".toList ++ '/' :: rest, rfl, ?_⟩
    rw [rawSegments, Text.segments, List.splitOnP_append_cons _ _ hslash, List.map_append]
    rfl
  | orchestrationUi => exact ⟨rest, rfl, rfl⟩

/-- A path with its query behind a text is read with the segments of the text in front. -/
theorem path_behind_front {front t marked : Text} {lead : List Text}
    (hfront : ∀ c ∈ front, c ≠ '?' ∧ c ≠ '#')
    (hlead : ∀ t, specialPath (front ++ '/' :: t) =
      .segments (carryOut false [] (lead ++ rawSegments true t)))
    (ht : ∀ c ∈ t, 0x20 < c.toNat ∧ c ≠ '?' ∧ c ≠ '#')
    (hmarked : marked = [] ∨ ∃ query, marked = '?' :: query)
    (hquery : ∀ c ∈ marked, 0x20 < c.toNat ∧ c ≠ '#') :
    (readTail true specialPath (front ++ clean ('/' :: t ++ marked))).path =
      .segments (carryOut false [] (lead ++ rawSegments true t)) := by
  have hslashed : ∀ c ∈ '/' :: t, 0x20 < c.toNat ∧ c ≠ '?' ∧ c ≠ '#' :=
    List.forall_mem_cons.2 ⟨by decide, ht⟩
  have hclean : clean ('/' :: t ++ marked) = '/' :: t ++ marked := by
    refine clean_of_no_edges fun c hc => ?_
    rcases List.mem_append.1 hc with hc | hc
    · exact (hslashed c hc).1
    · exact (hquery c hc).1
  have hplain : ∀ c ∈ front ++ '/' :: t, c ≠ '?' ∧ c ≠ '#' := by
    intro c hc
    rcases List.mem_append.1 hc with hc | hc
    · exact hfront c hc
    · exact (hslashed c hc).2
  rw [hclean, ← List.append_assoc, path_readTail hplain hmarked, hlead]

/-- The path of a text behind an origin: the segments that the origin leads through are followed by
those of the text. -/
theorem path_behind_origin {value origin t marked : Text} {u : Url}
    (hvalue : Origin.ofText? value = some origin) (hplain : ∀ c ∈ origin, c ≠ '?' ∧ c ≠ '#')
    (ht : ∀ c ∈ t, 0x20 < c.toNat ∧ c ≠ '?' ∧ c ≠ '#')
    (hmarked : marked = [] ∨ ∃ query, marked = '?' :: query)
    (hquery : ∀ c ∈ marked, 0x20 < c.toNat ∧ c ≠ '#')
    (hu : Url.parse? (origin ++ ('/' :: t ++ marked)) = some u) :
    ∃ lead, through origin = (walk [] lead).reverse ∧
      u.path = .segments (carryOut false [] (lead ++ rawSegments true t)) ∧
      SlashFree (carryOut false [] (lead ++ rawSegments true t)) := by
  rcases Origin.parse?_append hvalue with ⟨w, authority, own, front, -, -, hmem, hends, hreads⟩
  have hfront : ∀ c ∈ front, c ≠ '?' ∧ c ≠ '#' := fun c hc => hplain c (hmem c hc)
  have hslash : ∀ c ∈ front.head?, isSlash true c = true := by
    intro c hc
    have hc' := hfront c (List.mem_of_mem_head? hc)
    simpa [endsAuthority, hc'] using hends c hc
  rcases exists_specialPath_append hslash with ⟨lead, hlead⟩
  rcases hreads with hreads | hreads
  · have hpath := path_behind_front hfront hlead ht hmarked hquery
    have hsite : (readTail true specialPath (front ++ clean ['/'])).path =
        .segments ((walk [] lead).reverse ++ [[]]) := by
      have hread := path_behind_front (t := []) hfront hlead (by simp) (.inl rfl) (by simp)
      rw [carryOut_append_segments [] lead (by simp [rawSegments, Text.segments])] at hread
      refine Eq.trans hread (congrArg Path.segments ?_)
      exact List.reverse_cons
    rw [hreads _ rfl] at hu
    cases hu
    refine ⟨lead, ?_, hpath, ?_⟩
    · have hthrough : through origin =
          (readTail true specialPath (front ++ clean ['/'])).path.names.dropLast := by
        rw [through, hreads ['/'] rfl]
        rfl
      rw [hthrough, hsite, Path.names, List.dropLast_concat]
    · obtain ⟨names, hnames, hfree⟩ :=
        exists_names_of_readTail (front ++ clean ('/' :: t ++ marked))
      rw [hpath] at hnames
      cases hnames
      exact hfree
  · rw [hreads _ rfl] at hu
    cases hu

/-- The path that is sent for a request: what the rest of its path comes to behind the segments of
the origin and of the rule. -/
theorem path_sent {value origin rest : Text} {target : Bytes} {d : Route.Destination} {u : Url}
    (hvalue : Origin.ofText? value = some origin) (hplain : ∀ c ∈ origin, c ≠ '?' ∧ c ≠ '#')
    (htarget : Target.parse target = .ok r.target)
    (hrest : r.target.path = claimed g.routes d.backend ++ '/' :: rest)
    (hpath : d.path = promised d.backend ++ '/' :: rest)
    (hu : Url.parse? (origin ++ (d.path ++ queryText r.target.query)) = some u) :
    u.path = .segments (received d.backend (through origin) rest) ∧
      SlashFree (received d.backend (through origin) rest) := by
  have htidy := Target.tidy_of_parse htarget
  rcases exists_rawSegments_rule d.backend rest with ⟨t, ht, hsegments⟩
  rw [hpath, ht] at hu
  have hplainText : ∀ c ∈ t, 0x20 < c.toNat ∧ c ≠ '?' ∧ c ≠ '#' := by
    intro c hc
    have hmem : c ∈ promised d.backend ++ '/' :: rest := by
      rw [ht]
      exact List.mem_cons_of_mem _ hc
    rcases List.mem_append.1 hmem with hmem | hmem
    · exact promised_plain d.backend c hmem
    · exact htidy.path c (by rw [hrest]; exact List.mem_append_right _ hmem)
  obtain ⟨lead, hthrough, hread, hfree⟩ := path_behind_origin hvalue hplain hplainText
    (queryText_marked _) (queryText_plain htidy) hu
  have hwhole : carryOut false [] (lead ++ rawSegments true t) =
      received d.backend (through origin) rest := by
    have hne : rawSegments true rest ≠ [] := by simp [rawSegments, Text.segments]
    rw [hsegments, ← List.append_assoc, carryOut_append _ hne, walk_append,
      walk_of_no_dots (ruleNames_plain d.backend).1, List.reverse_append, List.reverse_reverse,
      received, hthrough]
  rw [hwhole] at hread hfree
  exact ⟨hread, hfree⟩

/-- What is sent for a request is the rest of its path behind the segments of the origin and of the
rule, as far as the rest does not climb out of them.  It lies below the path of the origin and the
prefix of the rule exactly if the dot segments of the request lead back there. -/
theorem confined_iff {value origin : Text} {target : Bytes}
    (hvalue : Origin.ofText? value = some origin) (hplain : ∀ c ∈ origin, c ≠ '?' ∧ c ≠ '#')
    (htarget : Target.parse target = .ok r.target)
    (hhealth : r.target.path ≠ Route.healthCheckPath)
    (horigin : g.origins.get? backend = some origin)
    (hdraft : (g.draft r).1 = .ok (backend, out)) :
    ∃ site rest, Url.parse? value = some site ∧
      r.target.path = claimed g.routes backend ++ '/' :: rest ∧
      ∀ u, Url.parse? out.url = some u →
        u.path = .segments (received backend (through origin) rest) ∧
          (Confined backend site u ↔
            LeadsBack backend (ownNames site) (through origin) rest) := by
  rcases Origin.parse?_append hvalue with ⟨site, authority, own, -, hsite, hown, -⟩
  rcases url_of_draft horigin hdraft with ⟨d, hd, rfl, -, hurl⟩
  rcases exists_rest_of_destination hhealth hd with ⟨rest, hrest, hpath⟩
  refine ⟨site, rest, hsite, hrest, fun u hu => ?_⟩
  rw [hurl] at hu
  rcases path_sent hvalue hplain htarget hrest hpath hu with ⟨hsent, hfree⟩
  rcases exists_names_of_readTail own with ⟨names, hnames, hfreeNames⟩
  have hsitePath : site.path = .segments names := by
    rw [hown]
    exact hnames
  have hownPath : ownPath site = (Path.segments (ownNames site)).text := by
    rw [ownPath, ownNames, hsitePath, trimEnd_text hfreeNames]
    rfl
  have hfreeOwn : SlashFree (ownNames site ++ ruleNames d.backend) := by
    refine SlashFree.append ?_ (ruleNames_plain d.backend).2
    rw [ownNames, hsitePath]
    exact hfreeNames.rdropWhile _
  refine ⟨hsent, ?_⟩
  rw [Confined, hownPath, ← text_ruleNames, ← text_segments_append, hsent,
    prefix_text_iff hfreeOwn hfree, LeadsBack]

/-! ## Two requests -/

/-- A gateway whose only backend has a path of its own. -/
def based : Gateway where
  origins := ⟨some "http://[::1]/base".toList, none⟩
  routes := {}

/-- A request for a path. -/
def asking (path : Text) : Request where
  method := .get
  target := ⟨path, none⟩
  headers := []
  body := .empty

/-- What is drafted for a path that is written behind the origin and the prefix of the rule. -/
def askingAt (url : Text) : Outbound :=
  ⟨.get, url, Outbound.headersFor [], none⟩

/-- A URL on the machine of that backend. -/
def onBase (names : List Text) : Url where
  scheme := "http".toList
  username := []
  password := []
  host := some (.ipv6 [0, 0, 0, 0, 0, 0, 0, 1])
  port := none
  path := .segments names
  query := none
  fragment := none

/-- A request that goes down one level and up again stays below the versioned interface. -/
theorem confined_iff_inner :
    Url.parse? "http://[::1]/base/".toList = some (onBase ["base".toList, []]) ∧
      Url.parse? "http://[::1]/base/api/v1/a/../b".toList =
        some (onBase ["base".toList, "api".toList, "v1".toList, "b".toList]) ∧
      Confined .billing (onBase ["base".toList, []])
        (onBase ["base".toList, "api".toList, "v1".toList, "b".toList]) := by
  have hsite : Url.parse? "http://[::1]/base/".toList = some (onBase ["base".toList, []]) := by
    decide +kernel
  have hread : Url.parse? "http://[::1]/base/api/v1/a/../b".toList =
      some (onBase ["base".toList, "api".toList, "v1".toList, "b".toList]) := by
    decide +kernel
  have hvalue : Origin.ofText? "http://[::1]/base/".toList = some "http://[::1]/base".toList := by
    decide +kernel
  have htarget : Target.parse (Utf8.encode "/api/a/../b".toList) =
      .ok (asking "/api/a/../b".toList).target := rfl
  have hdraft : (based.draft (asking "/api/a/../b".toList)).1 =
      .ok (.billing, askingAt "http://[::1]/base/api/v1/a/../b".toList) := rfl
  have hall : ("http://[::1]/base".toList.all fun c => c ≠ '?' ∧ c ≠ '#') = true := by decide
  have hplain : ∀ c ∈ "http://[::1]/base".toList, c ≠ '?' ∧ c ≠ '#' := fun c hc =>
    of_decide_eq_true (List.all_eq_true.1 hall c hc)
  obtain ⟨site, rest, hparse, hrest, hconfined⟩ :=
    confined_iff hvalue hplain htarget (by decide +kernel) rfl hdraft
  rw [hsite] at hparse
  cases hparse
  obtain rfl : rest = "a/../b".toList := by
    have htext : "/api/".toList ++ "a/../b".toList = "/api/".toList ++ rest := hrest
    exact (List.append_cancel_left htext).symm
  refine ⟨hsite, hread, (hconfined _ hread).2.2 ?_⟩
  have hown : ownNames (onBase ["base".toList, []]) = through "http://[::1]/base".toList := by
    decide +kernel
  rw [hown]
  exact leadsBack_of_no_escape (by decide +kernel)

/-- A request that goes up from the versioned interface leaves it: the backend receives
`/base/api/admin`. -/
theorem not_confined_admin :
    Origin.ofText? "http://[::1]/base/".toList = some "http://[::1]/base".toList ∧
      Target.parse (Utf8.encode "/api/../admin".toList) =
        .ok (asking "/api/../admin".toList).target ∧
      (based.draft (asking "/api/../admin".toList)).1 =
        .ok (.billing, askingAt "http://[::1]/base/api/v1/../admin".toList) ∧
      Url.parse? "http://[::1]/base/".toList = some (onBase ["base".toList, []]) ∧
      Url.parse? "http://[::1]/base/api/v1/../admin".toList =
        some (onBase ["base".toList, "api".toList, "admin".toList]) ∧
      ¬ Confined .billing (onBase ["base".toList, []])
        (onBase ["base".toList, "api".toList, "admin".toList]) := by
  refine ⟨by decide +kernel, rfl, rfl, by decide +kernel, by decide +kernel, ?_⟩
  show ¬ _ <+: _
  decide +kernel

end Gateway

end EdgeGateway
