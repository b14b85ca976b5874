import EdgeGateway.Backend
import EdgeGateway.Text

/-!
# Routes

The path of a request decides which backend receives it and under which path.  The health check
has a path of its own, paths below `/api` gain a version, and paths below the prefix of the user
interface lose that prefix.  Only the leading prefix of a path is ever replaced.

The prefix may be configured with or without slashes at its ends.  Its normal form has one slash in
front and none behind, and it may not claim paths of the billing backend.

Main results:

- Theorem `below?_eq_some_iff`: what it is to lie below a prefix.
- Theorem `destination?_health`: the health check comes first, whatever the prefix.
- Theorem `normalizePrefix?_eq_some_iff`: which prefixes are accepted, and in which form.
-/

namespace EdgeGateway

namespace Route

/-- The path of the health check. -/
def healthCheckPath : Text := "/api/health".toList

/-- The path of the health check at the billing backend. -/
def billingHealthPath : Text := "/health".toList

/-- The prefix of paths for the billing backend. -/
def publicApi : Text := "/api".toList

/-- The prefix of paths at the billing backend. -/
def billingApi : Text := "/api/v1".toList

/-- The prefix of paths for the user interface when none is configured. -/
def usualUiPrefix : Text := "/temporal".toList

/-- The part of a path behind a prefix; it begins with a slash. -/
def below? (pre path : Text) : Option Text :=
  if (pre ++ ['/']).isPrefixOf path then some (path.drop pre.length) else none

theorem below?_eq_some_iff {pre path rest : Text} :
    below? pre path = some rest ↔ path = pre ++ rest ∧ rest.head? = some '/' := by
  simp only [below?, List.isPrefixOf_iff_prefix]
  constructor
  · intro h
    split at h
    · rename_i hp
      obtain ⟨more, rfl⟩ := hp
      obtain rfl := Option.some.inj h
      simp
    · simp at h
  · rintro ⟨rfl, h⟩
    obtain ⟨more, rfl⟩ := List.head?_eq_some_iff.1 h
    simp

/-- Where a request goes. -/
structure Destination where
  backend : Backend
  path : Text
  deriving DecidableEq, Repr

/-- The routes of a gateway differ in the prefix of the user interface, which has a leading slash
and no trailing one. -/
structure Table where
  uiPrefix : Text := usualUiPrefix
  deriving DecidableEq, Repr

namespace Table

/-- The destination of a path. -/
def destination? (table : Table) (path : Text) : Option Destination :=
  if path = healthCheckPath then some ⟨.billing, billingHealthPath⟩
  else
    match below? publicApi path with
    | some rest => some ⟨.billing, billingApi ++ rest⟩
    | none => (below? table.uiPrefix path).map (Destination.mk .orchestrationUi)

theorem destination?_health (table : Table) :
    table.destination? healthCheckPath = some ⟨.billing, billingHealthPath⟩ := by
  simp [destination?]

end Table

/-! ## The prefix of the user interface -/

/-- A character is a slash. -/
def isSlash (c : Char) : Bool :=
  c == '/'

/-- The written prefix without white space and slashes around it. -/
def barePrefix (raw : Text) : Text :=
  Text.trim isSlash (Text.trimBlank raw)

/-- A prefix would take paths from the billing backend. -/
def collides (pre : Text) : Bool :=
  pre == publicApi || (publicApi ++ ['/']).isPrefixOf pre

/-- The normal form of a written prefix. -/
def normalizePrefix? (raw : Text) : Option Text :=
  let bare := barePrefix raw
  if bare = [] ∨ collides ('/' :: bare) then none else some ('/' :: bare)

theorem normalizePrefix?_eq_some_iff {raw pre : Text} :
    normalizePrefix? raw = some pre ↔
      pre = '/' :: barePrefix raw ∧ barePrefix raw ≠ [] ∧ collides pre = false := by
  simp only [normalizePrefix?]
  constructor
  · intro h
    split at h
    · simp at h
    · rename_i hn
      obtain rfl := Option.some.inj h
      simpa [not_or] using hn
  · rintro ⟨rfl, h1, h2⟩
    simp [h1, h2]

end Route

end EdgeGateway
