import EdgeGateway.Log.Directive

/-!
# Log filters

A filter says which events are shown.  It is written as directives between commas.  The most
specific directive that speaks of an event decides, and what no directive speaks of is not shown.
Directives that cannot be read are left out with a complaint.
-/

namespace EdgeGateway

namespace Log

/-- A filter is a list of directives. -/
abbrev Filter := List Directive

namespace Filter

/-! ## Reading -/

/-- What is shown when no directive can be read. -/
def fallback : Filter := [⟨[], .events none, rank .error⟩]

/-- What is shown when nothing is said. -/
def standard : Filter := [⟨[], .events none, rank .info⟩]

/-- The written directives of a filter. -/
def written (t : Text) : List Text :=
  (Text.segments (· == ',') t).filter (· ≠ [])

/-- The directive that a text stands for. -/
def directive? (t : Text) : Option Directive :=
  match Directive.read t with
  | .ok d => some d
  | .error _ => none

/-- Reads a filter. -/
def ofText (t : Text) : Filter :=
  match (written t).filterMap directive? with
  | [] => fallback
  | directives => directives

/-- The complaint about a text that is no directive. -/
def complaint? (t : Text) : Option Text :=
  match Directive.read t with
  | .ok _ => none
  | .error fault => some ("ignoring \x60".toList ++ t ++ "\x60: ".toList ++ fault.message)

/-- The complaints about a filter. -/
def complaints (t : Text) : List Text :=
  (written t).filterMap complaint?

/-! ## Deciding -/

/-- The name of the field that a directive asks for. -/
def fieldOf (d : Directive) : Option Text :=
  match d.scope with
  | .events field => field
  | .spans => none

/-- Of two fields that directives ask for, the second one is at least as specific: to ask for a
field is more specific than to ask for none, and the names of fields are taken in their order. -/
def fieldGives : Option Text → Option Text → Bool
  | none, _ => true
  | some _, none => false
  | some a, some b => !List.lex b a fun x y => x.toNat < y.toNat

/-- The first directive gives way to the second one, which is at least as specific: its target is
longer or, where both are of one length, so is its field. -/
def givesWay (a b : Directive) : Bool :=
  a.target.length < b.target.length
    || (a.target.length == b.target.length && fieldGives (fieldOf a) (fieldOf b))

/-- The more specific of two directives, and of equally specific ones the later. -/
def prefer (best : Option Directive) (d : Directive) : Option Directive :=
  match best with
  | none => some d
  | some b => if givesWay b d then some d else some b

/-- How much is shown of the events of the kind of a given one. -/
def rankOf (filter : Filter) (e : Event) : Nat :=
  (((filter.filter (Directive.covers · e)).foldl prefer none).map Directive.rank).getD 0

/-- The event is shown. -/
def allows (filter : Filter) (e : Event) : Bool :=
  rank e.level ≤ filter.rankOf e

end Filter

end Log

end EdgeGateway
