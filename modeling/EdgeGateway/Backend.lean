import EdgeGateway.Url.Parse

/-!
# Backends

The gateway stands in front of two services, each of which is found at an origin: the text in front
of every path that is sent to it.  A configured value has to be a URL of the web with a host; it is
then used as it is written, apart from slashes at its end, so that putting a path behind it never
doubles one.

Main results:

- Theorem `Origin.ofText?_eq_some_iff`: which values are accepted, and as which origin.
-/

namespace EdgeGateway

/-- The services behind the gateway. -/
inductive Backend where
  | billing
  | orchestrationUi
  deriving DecidableEq, Repr

namespace Backend

/-- The name of a service in messages and metrics. -/
def name : Backend → Text
  | .billing => "billing".toList
  | .orchestrationUi => "orchestration-ui".toList

end Backend

/-! ## Origins -/

namespace Origin

/-- A URL of the web that names a host. -/
def isWeb (u : Url) : Bool :=
  (u.scheme == "http".toList || u.scheme == "https".toList) && u.host.isSome

/-- The origin that a value stands for. -/
def ofText? (value : Text) : Option Text :=
  match Url.parse? value with
  | some u => if isWeb u then some (Text.trimEnd (· == '/') value) else none
  | none => none

theorem ofText?_eq_some_iff {value origin : Text} :
    ofText? value = some origin ↔
      (∃ u, Url.parse? value = some u ∧ isWeb u = true) ∧
        origin = Text.trimEnd (· == '/') value := by
  unfold ofText?
  constructor
  · intro h
    split at h
    · rename_i u hu
      split at h
      · rename_i hw
        exact ⟨⟨u, hu, hw⟩, (Option.some.inj h).symm⟩
      · simp at h
    · simp at h
  · rintro ⟨⟨u, hu, hw⟩, rfl⟩
    simp [hu, hw]

end Origin

/-- The origins of the two backends; either may be missing. -/
structure Origins where
  billing : Option Text
  orchestrationUi : Option Text
  deriving DecidableEq, Repr

namespace Origins

/-- No backend is configured. -/
def none : Origins := ⟨.none, .none⟩

/-- The origin of a backend. -/
def get? (origins : Origins) : Backend → Option Text
  | .billing => origins.billing
  | .orchestrationUi => origins.orchestrationUi

end Origins

end EdgeGateway
