import EdgeGateway.Client
import EdgeGateway.Cors

/-!
# What is passed on of a response

The client passes a response on without the fields of its connection.  Which values a name has, and
in which order, is all that matters of a header section: the fields of different names may stand in
any order, and may be gone through one name after the other.

Main results:

- Theorem `Headers.passEach_eq_endToEnd`: going through the fields one by one keeps all that are
  passed on.
- Theorem `Headers.sameValues_swap`: two fields of different names may change places.
- Theorem `Headers.sameValues_endToEnd`: the order of different names does not matter.
- Theorem `Cors.endToEnd_permitFields`: letting every origin in may be done before or afterwards.
- Theorem `passOn_keeps`: what is passed on of a response, and what is not.
-/

namespace EdgeGateway

open Http

/-! ## Header sections -/

namespace Http

/-- Two header sections give the same values to every name. -/
def Headers.SameValues (hs hs' : Headers) : Prop :=
  ∀ name, hs.values name = hs'.values name

/-- Neighbours of different names may change places. -/
theorem Headers.sameValues_swap (before rest : Headers) {f g : HeaderField}
    (h : f.name ≠ g.name) :
    SameValues (before ++ f :: g :: rest) (before ++ g :: f :: rest) := by
  intro name
  induction before with
  | nil =>
    simp only [List.nil_append, values_cons]
    by_cases hf : f.name = name
    · have hg : g.name ≠ name := fun hg => h (hf.trans hg.symm)
      simp [hf, hg]
    · simp [hf]
  | cons e before ih =>
    simp only [List.cons_append, values_cons, ih]

/-- Header sections with the same values have the same values after the fields of the connection are
left out. -/
theorem Headers.sameValues_endToEnd {hs hs' : Headers} (h : hs.SameValues hs') :
    hs.endToEnd.SameValues hs'.endToEnd := by
  intro name
  rw [values_endToEnd, values_endToEnd, h name]

/-- Goes through fields one by one and puts each one that is passed on behind the others. -/
def Headers.passEach (hs : Headers) : Headers :=
  hs.foldl (fun passed f => if f.name ∈ hopByHop then passed else passed.append f.name f.value) []

/-- Going through the fields one by one loses none of those that are passed on, and keeps their
order. -/
theorem Headers.passEach_eq_endToEnd (hs : Headers) : hs.passEach = hs.endToEnd := by
  have hstep : ∀ passed : Headers,
      hs.foldl (fun passed f =>
        if f.name ∈ hopByHop then passed else passed.append f.name f.value) passed =
        passed ++ hs.endToEnd := by
    induction hs with
    | nil => simp [endToEnd]
    | cons f rest ih =>
      intro passed
      rw [List.foldl_cons, ih]
      by_cases hf : f.name ∈ hopByHop
      · simp [endToEnd, hf]
      · simp [endToEnd, append, hf]
  exact hstep []

/-- Replacing the values of a name that is passed on may be done before or afterwards. -/
theorem Headers.endToEnd_insert (hs : Headers) {name : FieldName} (value : Bytes)
    (h : name ∉ hopByHop) : (hs.insert name value).endToEnd = hs.endToEnd.insert name value := by
  have hfield : endToEnd [⟨name, value⟩] = [⟨name, value⟩] := by
    simp [endToEnd, h]
  have herase : (hs.erase name).endToEnd = hs.endToEnd.erase name := by
    simp only [endToEnd, erase, List.filter_filter, Bool.and_comm]
  calc (hs.insert name value).endToEnd
      = (hs.erase name).endToEnd ++ endToEnd [⟨name, value⟩] := List.filter_append _ _
    _ = hs.endToEnd.insert name value := by
      rw [herase, hfield]
      rfl

end Http

namespace Cors

/-- The same for many names. -/
theorem endToEnd_insertAll {new : List HeaderField} (hs : Headers)
    (h : ∀ f ∈ new, f.name ∉ hopByHop) :
    (insertAll hs new).endToEnd = insertAll hs.endToEnd new := by
  induction new generalizing hs with
  | nil => rfl
  | cons f rest ih =>
    have hf : f.name ∉ hopByHop := h f List.mem_cons_self
    have hrest : ∀ g ∈ rest, g.name ∉ hopByHop := by
      intro g hg
      exact h g (List.mem_cons_of_mem f hg)
    have hnext := ih (hs.insert f.name f.value) hrest
    rw [Headers.endToEnd_insert hs f.value hf] at hnext
    exact hnext

/-- Letting every origin in may be done before or after the fields of the connection are left
out. -/
theorem endToEnd_permitFields (hs : Headers) :
    (permitFields hs).endToEnd = permitFields hs.endToEnd := by
  apply endToEnd_insertAll
  decide

end Cors

namespace Client

/-! ## Bodies -/

/-- A body is passed on with the bytes that arrive. -/
theorem bytes_passBody (body : Body) : (passBody body).bytes = body.bytes := by
  cases body with
  | full bytes => simp [passBody, Body.bytes]
  | stream chunks fault => rfl

/-- A body that is passed on breaks off if it did before. -/
theorem isSome_fault_passBody (body : Body) :
    (passBody body).fault?.isSome = body.fault?.isSome := by
  cases body with
  | full bytes => rfl
  | stream chunks fault => simp [passBody, Body.fault?]

/-- A body that does not break off is read as before, and one that does is not read. -/
theorem read_passBody_eq_ok_iff {body : Body} {bytes : Bytes} :
    (passBody body).read = .ok bytes ↔ body.read = .ok bytes := by
  cases body with
  | full all => simp [passBody]
  | stream chunks fault =>
    cases fault with
    | none => rfl
    | some cause => simp [passBody]

/-! ## Responses -/

/-- A response is passed on with its status, with all values of every name that is not about the
connection in their order, and with a body of the same bytes that breaks off exactly if the body
does.  The names that are about the connection have no value any more.

It does not matter how the fields of different names are mixed, or whether they are gone through one
by one.  Leaving fields out twice is leaving them out once, and letting every origin in may be done
before or afterwards. -/
theorem passOn_keeps (r : Response) :
    (passOn r).status = r.status ∧
    (∀ name, (passOn r).headers.values name =
      if name ∈ [FieldName.connection, .transferEncoding, .te, .trailer, .upgrade,
          .proxyAuthorization, .proxyAuthenticate, .keepAlive] then []
      else r.headers.values name) ∧
    (∀ listed : Headers, listed.SameValues r.headers →
      listed.passEach.SameValues (passOn r).headers) ∧
    (passOn r).body.bytes = r.body.bytes ∧
    (passOn r).body.fault?.isSome = r.body.fault?.isSome ∧
    (∀ bytes, (passOn r).body.read = .ok bytes ↔ r.body.read = .ok bytes) ∧
    ∀ hs : Headers, hs.endToEnd.endToEnd = hs.endToEnd ∧
      (Cors.permitFields hs).endToEnd = Cors.permitFields hs.endToEnd := by
  refine ⟨rfl, ?_, ?_, bytes_passBody r.body, isSome_fault_passBody r.body, ?_, ?_⟩
  · intro name
    exact Headers.values_endToEnd r.headers name
  · intro listed hlisted
    rw [Headers.passEach_eq_endToEnd]
    exact Headers.sameValues_endToEnd hlisted
  · intro bytes
    exact read_passBody_eq_ok_iff
  · intro hs
    exact ⟨Headers.endToEnd_endToEnd hs, Cors.endToEnd_permitFields hs⟩

/-- The name of the field that sets a cookie. -/
def setCookie : FieldName :=
  ⟨"set-cookie".toList, by decide⟩

/-- A response that sets two cookies, with a field of its connection between them, and breaks
off. -/
def interleaved : Response where
  status := ⟨299, by decide⟩
  headers := [⟨setCookie, [97]⟩, ⟨.keepAlive, [53]⟩, ⟨setCookie, [98]⟩, ⟨.location, [47]⟩]
  body := .stream [[1], [2, 3]] (some "reset".toList)

/-- The fields of that response, one name after the other. -/
def grouped : Headers :=
  [⟨setCookie, [97]⟩, ⟨setCookie, [98]⟩, ⟨.keepAlive, [53]⟩, ⟨.location, [47]⟩]

/-- Both cookies are passed on in their order, however the fields are gone through. -/
theorem passOn_keeps_interleaved :
    (passOn interleaved).headers.values setCookie = [[97], [98]] ∧
      (passOn interleaved).headers.values .keepAlive = [] ∧
      grouped.passEach.values setCookie = [[97], [98]] ∧
      (passOn interleaved).body.bytes = [1, 2, 3] ∧
      (passOn interleaved).body.fault?.isSome = true := by
  obtain ⟨-, hvalues, hlisted, hbytes, hbreaks, -, -⟩ := passOn_keeps interleaved
  have hsame : grouped.SameValues interleaved.headers :=
    Headers.sameValues_swap [⟨setCookie, [97]⟩] [⟨.location, [47]⟩] (by decide)
  have hcookies : (passOn interleaved).headers.values setCookie = [[97], [98]] := by
    rw [hvalues, if_neg (by decide)]
    decide
  refine ⟨hcookies, ?_, ?_, hbytes, hbreaks⟩
  · rw [hvalues, if_pos (by decide)]
  · rw [hlisted grouped hsame setCookie, hcookies]

end Client

end EdgeGateway
