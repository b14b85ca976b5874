import EdgeGateway.Proofs.Gateway.Confinement

/-!
# Path and query in the URL of a draft

The URL of a draft is an origin, a path and a query, put one behind the other.  Path and query can
be told apart in it exactly if the origin has neither a question mark nor a number sign.  Otherwise
the path that was asked for becomes part of the query or of the fragment of the origin.

Main results:

- Theorem `showsApart_iff`: when a path and a query behind an origin can be told apart.
- Theorem `url_apart_iff`: what the URL of a draft shows, and what is read of it.
- Theorem `not_url_apart_marked`: behind an origin with a query the path of a request is lost.
-/

namespace EdgeGateway

open Http Url

namespace Gateway

/-- The text of a URL shows a path and a query apart from each other: the path stands before the
first mark, the query behind the first question mark, which an empty query does not have, and there
is no number sign. -/
structure ShowsApart (url path query : Text) : Prop where
  front : Text.takeUntil isMark url = path
  behind : ∀ before after, url.splitFirst? '?' = some (before, after) → after = query
  questionMark : '?' ∈ url ↔ query ≠ []
  noFragment : '#' ∉ url

/-- A text without marks, and a query behind it, are shown apart. -/
theorem showsApart_append {path : Text} {query : Option Text} (hpath : ∀ c ∈ path, isMark c = false)
    (hquery : '#' ∉ query.getD []) :
    ShowsApart (path ++ queryText query) path (query.getD []) := by
  have hnone (m : Char) (hm : isMark m = true) : m ∉ path := not_mem_of_isMark hpath hm
  rw [queryText_eq]
  split
  · rename_i hempty
    rw [List.append_nil]
    refine ⟨?_, fun before after h => ?_, ?_, hnone '#' rfl⟩
    · simpa using (Text.cut_append_of_none (t := []) hpath (by simp)).1
    · rw [Text.splitFirst?_eq_none (hnone '?' rfl)] at h
      cases h
    · simp [hempty, hnone '?' rfl]
  · rename_i hsome
    refine ⟨(Text.cut_append_of_none hpath (by simp [isMark])).1, fun before after h => ?_, ?_, ?_⟩
    · rw [Text.splitFirst?_eq_some_iff.2 ⟨rfl, hnone '?' rfl⟩] at h
      cases h
      rfl
    · simp [hsome]
    · simp [hnone '#' rfl, hquery]

/-- A path without marks and a query can be told apart behind an origin exactly if the origin has no
mark, either. -/
theorem showsApart_iff {origin path : Text} {query : Option Text}
    (hpath : ∀ c ∈ path, isMark c = false) (hquery : '#' ∉ query.getD []) :
    ShowsApart (origin ++ (path ++ queryText query)) (origin ++ path) (query.getD []) ↔
      ∀ c ∈ origin, isMark c = false := by
  rw [← List.append_assoc]
  constructor
  · intro h c hc
    have hmem : c ∈ Text.takeUntil isMark (origin ++ path ++ queryText query) := by
      rw [h.front]
      exact List.mem_append_left _ hc
    simpa using List.all_eq_true.1 List.all_takeWhile c hmem
  · intro h
    exact showsApart_append (List.forall_mem_append.2 ⟨h, hpath⟩) hquery

/-! ## What is read of the URL -/

variable {g : Gateway} {r : Request} {backend : Backend} {out : Outbound}

/-- The query of a request as it is sent: encoded, and left out if it is empty. -/
def sentQuery (query : Option Text) : Option Text :=
  if query.getD [] = [] then none
  else some (Percent.encode Percent.specialQuerySet (query.getD []))

/-- A query is sent as it was received exactly if no character of it has to be encoded. -/
theorem sentQuery_eq_iff (query : Option Text) :
    (sentQuery query).getD [] = query.getD [] ↔
      ∀ c ∈ query.getD [], Percent.specialQuerySet c = false := by
  unfold sentQuery
  split
  · rename_i hempty
    simp [hempty]
  · exact Percent.encode_eq_self_iff

/-- The path for a backend of a target that was read has no controls, spaces and marks. -/
theorem path_plain {table : Route.Table} {target : Target} {d : Route.Destination}
    (htidy : target.Tidy) (hd : table.destination? target.path = some d) :
    ∀ c ∈ d.path, 0x20 < c.toNat ∧ isMark c = false := by
  have hall : ((Route.billingHealthPath ++ Route.billingApi).all fun c =>
      0x20 < c.toNat ∧ isMark c = false) = true := by
    decide
  intro c hc
  rcases Route.Table.mem_of_mem_destination hd hc with hc | hc
  · exact ⟨(htidy.path c hc).1, isMark_eq_false_iff.2 (htidy.path c hc).2⟩
  · exact of_decide_eq_true (List.all_eq_true.1 hall c (List.mem_append.2 hc))

/-- A number sign is no part of a query. -/
theorem not_mem_query {target : Target} (htidy : target.Tidy) : '#' ∉ target.query.getD [] := by
  intro hmem
  have hmarked : '#' ∈ queryText target.query := by
    rw [queryText_eq, if_neg (List.ne_nil_of_mem hmem)]
    exact List.mem_cons_of_mem _ hmem
  exact (queryText_plain htidy _ hmarked).2 rfl

/-- Behind a front without marks, path and query are read as what they are. -/
theorem readTail_components {front path : Text} {target : Target} (htidy : target.Tidy)
    (hfront : ∀ c ∈ front, isMark c = false)
    (hpath : ∀ c ∈ path, 0x20 < c.toNat ∧ isMark c = false) :
    (readTail true specialPath (front ++ clean (path ++ queryText target.query))).query =
        sentQuery target.query ∧
      (readTail true specialPath (front ++ clean (path ++ queryText target.query))).fragment =
        none := by
  have hplain : ∀ c ∈ front ++ path, isMark c = false :=
    List.forall_mem_append.2 ⟨hfront, fun c hc => (hpath c hc).2⟩
  have hclean : clean (path ++ queryText target.query) = path ++ queryText target.query :=
    clean_of_no_edges (List.forall_mem_append.2
      ⟨fun c hc => (hpath c hc).1, fun c hc => (queryText_plain htidy c hc).1⟩)
  rw [hclean, ← List.append_assoc, queryText_eq, sentQuery]
  split
  · rw [List.append_nil]
    exact readTail_of_path hplain
  · exact readTail_of_query hplain (not_mem_query htidy)

/-- Path and query can be told apart in the URL of a draft exactly if the origin of its backend has
neither a question mark nor a number sign.  Then the query that is read of the URL is the encoded
query of the request, which is the query itself exactly if nothing in it has to be encoded, and
nothing is read as a fragment.  Otherwise the path that is read of the URL is that of the accepted
value, whatever was asked for. -/
theorem url_apart_iff {value origin : Text} {target : Bytes}
    (hvalue : Origin.ofText? value = some origin) (htarget : Target.parse target = .ok r.target)
    (horigin : g.origins.get? backend = some origin)
    (hdraft : (g.draft r).1 = .ok (backend, out)) :
    ∃ d site, g.routes.destination? r.target.path = some d ∧ d.backend = backend ∧
      Url.parse? value = some site ∧
      (ShowsApart out.url (origin ++ d.path) (r.target.query.getD []) ↔
        ∀ c ∈ origin, isMark c = false) ∧
      ∀ u, Url.parse? out.url = some u →
        ((∀ c ∈ origin, isMark c = false) →
          u.fragment = none ∧ u.query = sentQuery r.target.query ∧
            (u.query.getD [] = r.target.query.getD [] ↔
              ∀ c ∈ r.target.query.getD [], Percent.specialQuerySet c = false)) ∧
        ((∃ c ∈ origin, isMark c = true) → u.path = site.path) := by
  have htidy := Target.tidy_of_parse htarget
  obtain ⟨w, authority, own, slashes, blanks, hw, hscheme, hown, htail, hblanks, hreads⟩ :=
    Origin.parse?_origin_append hvalue
  rcases url_of_draft horigin hdraft with ⟨d, hd, hbackend, hslash, hurl⟩
  have hpath := path_plain htidy hd
  have hhead := head?_append_queryText hslash r.target.query
  refine ⟨d, w, hd, hbackend, hw, ?_, fun u hu => ?_⟩
  · rw [hurl]
    exact showsApart_iff (fun c hc => (hpath c hc).2) (not_mem_query htidy)
  rw [hurl, hreads _ hhead] at hu
  split at hu
  · cases hu
  cases hu
  constructor
  · intro hplain
    have hfront : ∀ c ∈ Origin.tail origin, isMark c = false := fun c hc =>
      hplain c (Origin.mem_of_mem_tail hc)
    obtain ⟨hsent, hfragment⟩ := readTail_components htidy hfront hpath
    refine ⟨hfragment, hsent, ?_⟩
    rw [← sentQuery_eq_iff, ← hsent]
    rfl
  · rintro ⟨c, hc, hmark⟩
    have hmem : c ∈ own := by
      have htailMem := Origin.mem_tail_of_isMark hscheme hmark hc
      rw [htail] at htailMem
      refine (List.mem_append.1 htailMem).resolve_right fun hlow => ?_
      have hnone := Unicode.IsLow.forall (P := fun c => isMark c = false) (by decide)
        (hblanks c hlow)
      rw [hnone] at hmark
      cases hmark
    have hsame (behind : Text) : (readTail true specialPath (own ++ behind)).path =
        (readTail true specialPath own).path := path_readTail_append behind ⟨c, hmem, hmark⟩
    rw [hown]
    show (readTail true specialPath _).path = (readTail true specialPath _).path
    rw [htail, List.append_assoc, hsame, hsame]

/-- A request for some of the keys. -/
def filtering : Request where
  method := .get
  target := ⟨"/api/keys".toList, some "owner=me".toList⟩
  headers := []
  body := .empty

/-- Path and query of a request are read of the URL at an ordinary origin. -/
theorem url_apart_filtering :
    Origin.ofText? "http://[::1]:8080/".toList = some "http://[::1]:8080".toList ∧
      (loopback.draft filtering).1 =
        .ok (.billing, askingAt "http://[::1]:8080/api/v1/keys?owner=me".toList) ∧
      ShowsApart "http://[::1]:8080/api/v1/keys?owner=me".toList
        "http://[::1]:8080/api/v1/keys".toList "owner=me".toList ∧
      ∃ u, Url.parse? "http://[::1]:8080/api/v1/keys?owner=me".toList = some u ∧
        u.fragment = none ∧ u.query = some "owner=me".toList := by
  have hvalue : Origin.ofText? "http://[::1]:8080/".toList = some "http://[::1]:8080".toList := by
    decide +kernel
  have htarget : Target.parse (Utf8.encode "/api/keys?owner=me".toList) = .ok filtering.target :=
    rfl
  have hdraft : (loopback.draft filtering).1 =
      .ok (.billing, askingAt "http://[::1]:8080/api/v1/keys?owner=me".toList) := rfl
  have hall : ("http://[::1]:8080".toList.all fun c => isMark c = false) = true := by decide
  have hplain : ∀ c ∈ "http://[::1]:8080".toList, isMark c = false := fun c hc =>
    of_decide_eq_true (List.all_eq_true.1 hall c hc)
  have hread : (Url.parse? "http://[::1]:8080/api/v1/keys?owner=me".toList).isSome = true := by
    decide +kernel
  obtain ⟨d, site, hd, -, -, hshows, hreads⟩ := url_apart_iff hvalue htarget rfl hdraft
  cases hd
  rcases Option.isSome_iff_exists.1 hread with ⟨u, hu⟩
  obtain ⟨hfragment, hquery, -⟩ := (hreads u hu).1 hplain
  exact ⟨hvalue, hdraft, hshows.2 hplain, u, hu, hfragment, hquery⟩

/-- A gateway whose only origin has a query. -/
def queried : Gateway where
  origins := ⟨some "http://[::1]?x".toList, none⟩
  routes := {}

/-- Behind an origin with a query, which is accepted, the path of a request becomes part of that
query, and the backend is asked for its root. -/
theorem not_url_apart_marked :
    Origin.ofText? "http://[::1]?x".toList = some "http://[::1]?x".toList ∧
      Target.parse (Utf8.encode "/api/keys?owner=me".toList) = .ok filtering.target ∧
      (queried.draft filtering).1 =
        .ok (.billing, askingAt "http://[::1]?x/api/v1/keys?owner=me".toList) ∧
      ¬ ShowsApart "http://[::1]?x/api/v1/keys?owner=me".toList "http://[::1]?x/api/v1/keys".toList
        "owner=me".toList ∧
      (Url.parse? "http://[::1]?x/api/v1/keys?owner=me".toList).map
          (fun u => (u.path.text, u.query)) =
        some ("/".toList, some "x/api/v1/keys?owner=me".toList) := by
  refine ⟨by decide +kernel, rfl, rfl, fun h => ?_, by decide +kernel⟩
  have hfront : Text.takeUntil isMark "http://[::1]?x/api/v1/keys?owner=me".toList ≠
      "http://[::1]?x/api/v1/keys".toList := by
    decide +kernel
  exact hfront h.front

end Gateway

end EdgeGateway
