import EdgeGateway.Fault
import EdgeGateway.Proofs.Text.Json

/-!
# What a fault tells the client

The body of a fault is JSON that stands for one object.  Its members are strings: a fixed text for the
kind of the fault and, when a backend could not be used, the wording of what happened.  That wording
may contain anything that a client or a backend has sent, and arrives as it is.

Main results:

- Theorem `denotes_bodyText_iff`: the body stands for the members that are told, and for nothing else.
- Theorem `told_of_bodyText`: the members are found again in the body.
- Theorem `response_tells`: what a client reads in the answer, and what it can tell from it.
-/

namespace EdgeGateway

namespace Fault

/-! ## Members -/

/-- The members that are told about a fault. -/
def told : Fault → List (Text × Text)
  | .noRoute => [("error".toList, "Not found".toList)]
  | .notConfigured _ => [("error".toList, "Backend not configured".toList)]
  | .exchange failure =>
    [("error".toList, "Backend unavailable".toList), ("details".toList, failure.message)]
  | .brokenUpload cause =>
    [("error".toList, "Backend unavailable".toList),
      ("details".toList, "failed to read request body: ".toList ++ cause)]
  | .unavailable reason =>
    [("error".toList, "Backend unavailable".toList), ("details".toList, reason)]

/-- The body is the written form of the members. -/
theorem bodyText_eq (fault : Fault) : fault.bodyText = Json.object (Json.written fault.told) := by
  cases fault <;> rfl

/-- The body stands for the members that are told, and for nothing else. -/
theorem denotes_bodyText_iff (fault : Fault) {v : Json.Value} :
    Json.Denotes fault.bodyText v ↔ v = .object (Json.strings fault.told) := by
  rw [bodyText_eq, Json.denotes_object_iff]

/-- The members are found again in the body. -/
theorem told_of_bodyText {fault other : Fault} (h : fault.bodyText = other.bodyText) :
    fault.told = other.told := by
  have hread := (denotes_bodyText_iff fault).2 rfl
  rw [h, denotes_bodyText_iff] at hread
  exact Json.strings_injective (Json.Value.object.inj hread)

/-! ## Kinds -/

/-- The first member tells how the request ended. -/
theorem outcome_eq (fault : Fault) :
    fault.outcome =
      if fault.told.head? = some ("error".toList, "Not found".toList) then .notFound
      else if fault.told.head? = some ("error".toList, "Backend not configured".toList) then
        .notConfigured
      else .unavailable := by
  cases fault <;> rfl

/-- How the request ended tells the status of the answer. -/
theorem status_eq (fault : Fault) :
    fault.status =
      if fault.outcome = .notFound then .notFound
      else if fault.outcome = .notConfigured then .internalServerError
      else .badGateway := by
  cases fault <;> rfl

/-- Details are told about a backend that could not be used, and are the wording of the fault. -/
theorem details_mem_told_iff (fault : Fault) (details : Text) :
    ("details".toList, details) ∈ fault.told ↔
      fault.status = .badGateway ∧ details = fault.message := by
  have hname : "details".toList ≠ "error".toList := by decide
  have hstatus : Http.Status.internalServerError ≠ Http.Status.badGateway := by decide
  have hnone {title : Text} :
      ("details".toList, details) ∉ [("error".toList, title)] := by
    rw [List.mem_singleton]
    exact fun h => hname (Prod.mk.inj h).1
  have hsome {title wording : Text} :
      ("details".toList, details) ∈ [("error".toList, title), ("details".toList, wording)] ↔
        details = wording := by
    rw [List.mem_cons, List.mem_singleton]
    constructor
    · rintro (h | h)
      · exact absurd (Prod.mk.inj h).1 hname
      · exact (Prod.mk.inj h).2
    · rintro rfl
      exact .inr rfl
  cases fault with
  | noRoute => exact ⟨fun h => absurd h hnone, fun h => absurd h.1 (by decide)⟩
  | notConfigured backend => exact ⟨fun h => absurd h hnone, fun h => absurd h.1 hstatus⟩
  | exchange failure => exact hsome.trans ⟨fun h => ⟨rfl, h⟩, And.right⟩
  | brokenUpload cause => exact hsome.trans ⟨fun h => ⟨rfl, h⟩, And.right⟩
  | unavailable reason => exact hsome.trans ⟨fun h => ⟨rfl, h⟩, And.right⟩

/-- The body of the answer to a fault is the UTF-8 form of a JSON text that stands for one object and
nothing else: its members are those that are told about the fault, in their order and once each.  The
details are there exactly if the status says that a backend could not be used, and are then the
wording of the fault, whatever characters it has.  Faults that are answered with the same body are
answered with the same status, and their requests end in the same way. -/
theorem response_tells (fault : Fault) :
    (∃ bytes text, fault.response.body = .full bytes ∧ Utf8.decode? bytes = some text ∧
      ∀ v, Json.Denotes text v ↔ v = .object (Json.strings fault.told)) ∧
    (∀ details, ("details".toList, details) ∈ fault.told ↔
      fault.response.status = .badGateway ∧ details = fault.message) ∧
    ∀ other : Fault, other.response.body = fault.response.body →
      other.response.status = fault.response.status ∧ other.outcome = fault.outcome := by
  refine ⟨?_, ?_, ?_⟩
  · refine ⟨Utf8.encode fault.bodyText, fault.bodyText, rfl, Utf8.decode?_encode _, ?_⟩
    intro v
    exact denotes_bodyText_iff fault
  · intro details
    rw [status_response]
    exact details_mem_told_iff fault details
  · intro other hbody
    have hbytes : Utf8.encode other.bodyText = Utf8.encode fault.bodyText :=
      Http.Body.full.inj hbody
    have htold := told_of_bodyText (Utf8.encode_injective hbytes)
    have houtcome : other.outcome = fault.outcome := by
      rw [outcome_eq, outcome_eq, htold]
    refine ⟨?_, houtcome⟩
    rw [status_response, status_response, status_eq, status_eq, houtcome]

/-- A cause that would end the string and add a member, with a control character in it. -/
def hostile : Text :=
  "\",\"details\":\"\x1f\\u0022".toList

/-- The hostile cause arrives as it is, and the same wording in another fault of the same kind gives
the same body. -/
theorem response_tells_hostile :
    Json.Denotes (brokenUpload hostile).bodyText
        (.object [("error".toList, .string "Backend unavailable".toList),
          ("details".toList, .string ("failed to read request body: ".toList ++ hostile))]) ∧
      (unavailable ("failed to read request body: ".toList ++ hostile)).response.body =
        (brokenUpload hostile).response.body ∧
      (unavailable ("failed to read request body: ".toList ++ hostile)).response.status =
        (brokenUpload hostile).response.status := by
  obtain ⟨⟨bytes, text, hbody, hdecode, hdenotes⟩, -, hsame⟩ := response_tells (brokenUpload hostile)
  have hfull : (brokenUpload hostile).response.body =
      .full (Utf8.encode (brokenUpload hostile).bodyText) := rfl
  obtain rfl : Utf8.encode (brokenUpload hostile).bodyText = bytes :=
    Http.Body.full.inj (hfull.symm.trans hbody)
  obtain rfl : (brokenUpload hostile).bodyText = text :=
    Option.some.inj ((Utf8.decode?_encode _).symm.trans hdecode)
  have halike : (unavailable ("failed to read request body: ".toList ++ hostile)).response.body =
      (brokenUpload hostile).response.body := rfl
  exact ⟨(hdenotes _).2 rfl, halike, (hsame _ halike).1⟩

end Fault

end EdgeGateway
