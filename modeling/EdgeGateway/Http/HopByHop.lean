import EdgeGateway.Http.Headers

/-!
# Fields of a single connection

Some header fields are about the connection between two neighbours and are not passed on.

Main results:

- Theorem `values_filter`: a name keeps all of its values or none when fields are left out by name.
- Theorem `values_endToEnd`: the other fields are passed on as they are.
-/

namespace EdgeGateway

namespace Http

/-- The names of the fields about a single connection. -/
def hopByHop : List FieldName :=
  [.connection, .transferEncoding, .te, .trailer, .upgrade, .proxyAuthorization,
    .proxyAuthenticate, .keepAlive]

/-- The fields that are passed on. -/
def Headers.endToEnd (hs : Headers) : Headers :=
  hs.filter fun f => f.name ∉ hopByHop

theorem Headers.values_filter (hs : Headers) (names : List FieldName) (name : FieldName) :
    Headers.values (hs.filter fun f => f.name ∉ names) name =
      if name ∈ names then [] else hs.values name := by
  induction hs with
  | nil => simp
  | cons f rest ih =>
    by_cases hf : f.name = name
    · subst hf
      by_cases hout : f.name ∈ names
      · rw [List.filter_cons_of_neg (by simp [hout]), ih, if_pos hout, if_pos hout]
      · rw [List.filter_cons_of_pos (by simp [hout]), values_cons, values_cons, ih,
          if_neg hout, if_neg hout]
    · by_cases hout : f.name ∈ names
      · rw [List.filter_cons_of_neg (by simp [hout]), values_cons, ih, if_neg hf]
      · rw [List.filter_cons_of_pos (by simp [hout]), values_cons, values_cons, ih, if_neg hf,
          if_neg hf]

theorem Headers.values_endToEnd (hs : Headers) (name : FieldName) :
    hs.endToEnd.values name = if name ∈ hopByHop then [] else hs.values name :=
  values_filter hs hopByHop name

theorem Headers.endToEnd_endToEnd (hs : Headers) : hs.endToEnd.endToEnd = hs.endToEnd := by
  simp [endToEnd]

end Http

end EdgeGateway
