import EdgeGateway.Http.HopByHop

/-!
# Nominated fields

A message can name further fields of its connection: they are listed, with commas between them and
in any letter case, in the values of the connection field.  The fields that are left out when a
message is passed on are those of a fixed list, so that a nomination has no effect.  This module says
what a message nominates, and for which messages that makes a difference.

Main results:

- Theorem `Headers.endToEnd_congr`: the values of the connection field do not matter.
- Theorem `Headers.endToEnd_eq_withoutNominated_iff`: the messages for which the list is enough.
- Theorem `Headers.values_endToEnd_nominated`: what becomes of the fields that are nominated.
-/

namespace EdgeGateway

namespace Http

/-! ## Lists in values -/

/-- The byte between the tokens of a list. -/
def comma : UInt8 := 44

/-- The bytes that may stand around a token: the space and the tab. -/
def isPad (b : UInt8) : Bool :=
  b == 32 || b == 9

/-- A piece of a value without the spaces and tabs around it. -/
def unpad (piece : Bytes) : Bytes :=
  ((piece.dropWhile isPad).reverse.dropWhile isPad).reverse

/-- The tokens of a value: its pieces between commas, without the spaces and tabs around them. -/
def tokens (value : Bytes) : List Bytes :=
  (value.splitOnP (· == comma)).map unpad

namespace Headers

/-! ## Nominated names -/

/-- The names that are listed in the values of the connection field, in any letter case. -/
def nominated (hs : Headers) : List FieldName :=
  (hs.values .connection).flatMap fun value => (tokens value).filterMap FieldName.ofBytes?

/-- Leaves out the fields of the fixed list and those that the message nominates. -/
def withoutNominated (hs : Headers) : Headers :=
  hs.filter fun f => f.name ∉ hopByHop ++ hs.nominated

/-- A name without values is the name of no field. -/
theorem not_mem_of_values_eq_nil {hs : Headers} {f : HeaderField} (h : hs.values f.name = []) :
    f ∉ hs := by
  intro hmem
  have hvalue : f.value ∈ hs.values f.name :=
    List.mem_map_of_mem (List.mem_filter.2 ⟨hmem, by simp⟩)
  rw [h] at hvalue
  exact List.not_mem_nil hvalue

/-- The connection field is not passed on, whether it is there or not. -/
theorem endToEnd_erase_connection (hs : Headers) :
    (hs.erase .connection).endToEnd = hs.endToEnd := by
  unfold endToEnd erase
  rw [List.filter_filter]
  apply List.filter_congr
  intro f _
  by_cases hf : f.name = .connection
  · have hlisted : FieldName.connection ∈ hopByHop := by decide
    simp [hf, hlisted]
  · simp [hf]

/-- Messages that differ in their connection fields alone are passed on with the same fields. -/
theorem endToEnd_congr {hs hs' : Headers} (h : hs.erase .connection = hs'.erase .connection) :
    hs.endToEnd = hs'.endToEnd := by
  rw [← endToEnd_erase_connection hs, h, endToEnd_erase_connection]

/-- The fixed list leaves out what is nominated exactly if every nominated name is on the list or has
no value. -/
theorem endToEnd_eq_withoutNominated_iff (hs : Headers) :
    hs.endToEnd = hs.withoutNominated ↔
      ∀ name ∈ hs.nominated, name ∈ hopByHop ∨ hs.values name = [] := by
  constructor
  · intro h name hname
    by_cases hlisted : name ∈ hopByHop
    · exact .inl hlisted
    · right
      calc hs.values name
          = hs.endToEnd.values name := by rw [values_endToEnd, if_neg hlisted]
        _ = hs.withoutNominated.values name := by rw [h]
        _ = [] := by
          rw [withoutNominated, values_filter, if_pos (List.mem_append_right _ hname)]
  · intro h
    apply List.filter_congr
    intro f hf
    by_cases hlisted : f.name ∈ hopByHop
    · simp [hlisted]
    · have hkept : f.name ∉ hs.nominated := by
        intro hname
        exact not_mem_of_values_eq_nil ((h f.name hname).resolve_left hlisted) hf
      simp [hlisted, hkept]

/-- A nominated name has no value left if it is on the fixed list, and keeps all of its values in
their order if it is not.  Nominations have no effect at all: messages that differ in their connection
fields alone are passed on with the same fields.  All that is nominated is left out exactly for the
messages in which every nominated name is on the list or has no value. -/
theorem values_endToEnd_nominated (hs : Headers) :
    (∀ name ∈ hs.nominated, hs.endToEnd.values name =
      if name ∈ [FieldName.connection, .transferEncoding, .te, .trailer, .upgrade,
          .proxyAuthorization, .proxyAuthenticate, .keepAlive] then []
      else hs.values name) ∧
    (∀ hs' : Headers, hs'.erase .connection = hs.erase .connection → hs'.endToEnd = hs.endToEnd) ∧
    (hs.endToEnd = hs.withoutNominated ↔
      ∀ name ∈ hs.nominated, name ∈ hopByHop ∨ hs.values name = []) := by
  refine ⟨?_, ?_, endToEnd_eq_withoutNominated_iff hs⟩
  · intro name _
    exact values_endToEnd hs name
  · intro hs' h
    exact endToEnd_congr h

/-- The name of a field about the way of a message. -/
def trace : FieldName :=
  ⟨"x-trace".toList, by decide⟩

/-- Two connection fields that nominate four names, one of them in mixed letter case and one of them
without a value. -/
def nominating : Headers :=
  [⟨.connection, valueOf "close,\t X-Trace ,".toList⟩, ⟨trace, [49]⟩, ⟨.te, [50]⟩,
    ⟨.connection, valueOf "TE,keep-alive".toList⟩, ⟨trace, [51]⟩]

/-- Of the names that are nominated the one on the list is left out, and the other keeps its values. -/
theorem values_endToEnd_nominated_trace :
    trace ∈ nominating.nominated ∧ nominating.endToEnd.values trace = [[49], [51]] ∧
      .te ∈ nominating.nominated ∧ nominating.endToEnd.values .te = [] ∧
      nominating.endToEnd ≠ nominating.withoutNominated := by
  obtain ⟨hvalues, -, hiff⟩ := values_endToEnd_nominated nominating
  have htrace : trace ∈ nominating.nominated := by decide +kernel
  have hte : .te ∈ nominating.nominated := by decide +kernel
  refine ⟨htrace, ?_, hte, ?_, ?_⟩
  · rw [hvalues trace htrace]
    decide
  · rw [hvalues .te hte]
    decide
  · intro hsame
    exact absurd (hiff.1 hsame trace htrace) (by decide)

/-- A field that is nominated is passed on. -/
theorem not_values_endToEnd_nominated :
    ¬ ∀ (hs : Headers) (name : FieldName), name ∈ hs.nominated → hs.endToEnd.values name = [] := by
  intro h
  have htrace : trace ∈ nominating.nominated := by decide +kernel
  have hnone := h nominating trace htrace
  exact absurd hnone (by decide)

end Headers

end Http

end EdgeGateway
