import EdgeGateway.Event
import EdgeGateway.Text
import EdgeGateway.Text.Numeral
import EdgeGateway.Unicode.Category

/-!
# Directives of log filters

A directive says how much is shown of some of what a log may hold.  It is a rank for everything, or
a target with an optional part in brackets and an optional rank behind an equals sign.  The
brackets hold the name of a span, the name of a field in braces, or both.

The marks of a directive are found in it without the blanks around it, but the parts between them
are cut from the directive as it is written, at the same places.  Blanks in front therefore shift
every part.
-/

namespace EdgeGateway

namespace Log

/-! ## Ranks -/

/-- How much is shown of the events of a level and all more severe ones. -/
def rank : Level → Nat
  | .error => 1
  | .warn => 2
  | .info => 3
  | .debug => 4
  | .trace => 5

/-- The rank at which everything is shown. -/
def rankAll : Nat := 5

/-- The names of the ranks, from nothing to everything. -/
def rankNames : List Text :=
  ["off".toList, "error".toList, "warn".toList, "info".toList, "debug".toList, "trace".toList]

/-- Reads a rank: a number, or a name in any letter case. -/
def rank? (t : Text) : Option Nat :=
  (Numeral.read? rankAll t).or (rankNames.findIdx? (Text.sameLetters t))

/-! ## Directives -/

/-- What a directive speaks of. -/
inductive Scope where
  /-- All events, or those that have a field of the given name. -/
  | events (field : Option Text)
  /-- Spans of time alone, to which no event of the gateway belongs. -/
  | spans
  deriving DecidableEq, Repr

/-- The name of the field that holds the message of an event. -/
def messageField : Text :=
  "message".toList

/-- The event has a field of the given name. -/
def hasField (name : Text) (e : Event) : Bool :=
  name == messageField || e.fields.any fun field => field.1 == name

/-- The scope covers an event. -/
def Scope.covers (e : Event) : Scope → Bool
  | .events none => true
  | .events (some name) => hasField name e
  | .spans => false

/-- How much is shown of the targets that begin with a text, within a scope. -/
structure Directive where
  target : Text
  scope : Scope
  rank : Nat
  deriving DecidableEq, Repr

/-- The directive speaks of an event. -/
def Directive.covers (d : Directive) (e : Event) : Bool :=
  d.target.isPrefixOf e.component.target && d.scope.covers e

/-- Why a directive cannot be read. -/
inductive DirectiveFault where
  | malformed
  | rank
  deriving DecidableEq, Repr

/-- The explanation of a fault. -/
def DirectiveFault.message : DirectiveFault → Text
  | .malformed => "invalid filter directive".toList
  | .rank =>
    ("error parsing level filter: expected one of \"off\", \"error\", \"warn\", \"info\", "
      ++ "\"debug\", \"trace\", or a number 0-5").toList

/-! ## Reading -/

/-- The characters that a directive may begin with, other than the opening bracket. -/
def beginsWord (c : Char) : Bool :=
  c == '-' || c == ':' || c == '_' || Unicode.alphanumeric.contains c

/-- The text between two places. -/
def between (t : Text) (start stop : Nat) : Text :=
  (t.take stop).drop start

/-- The first place from a given one on that holds a character in `p`. -/
def placeOf? (p : Char → Bool) (t : Text) (start : Nat) : Option Nat :=
  ((t.drop start).findIdx? p).map (start + ·)

/-- A directive without marks: a rank for everything, or a target. -/
def readWord (t : Text) : Directive :=
  match rank? t with
  | some rank => ⟨[], .events none, rank⟩
  | none => ⟨t, .events none, rankAll⟩

/-- A directive with the rank that is written behind an equals sign. -/
def withRank (target : Text) (scope : Scope) (written : Text) : Except DirectiveFault Directive :=
  if written = [] then .ok ⟨target, scope, rankAll⟩
  else
    match rank? written with
    | some rank => .ok ⟨target, scope, rank⟩
    | none => .error .rank

/-- Reads what stands behind the brackets. -/
def readEnd (t marks : Text) (target : Text) (scope : Scope) (place : Nat) :
    Except DirectiveFault Directive :=
  match marks.drop place with
  | [] => .ok ⟨target, scope, rankAll⟩
  | c :: _ =>
    if c = '=' then withRank target scope (t.drop (place + 1)) else .error .malformed

/-- The scope of a span and a field; only a field by itself, without a value, is one of events. -/
def scopeOf (span field : Text) : Scope :=
  if span = [] ∧ '=' ∉ field then .events (some field) else .spans

/-- Reads from behind the opening bracket on. -/
def readBrackets (t marks : Text) (target : Text) (place : Nat) : Except DirectiveFault Directive :=
  match placeOf? (fun c => c == ']' || c == '\x7b') marks place with
  | none => .error .malformed
  | some stop =>
    if marks[stop]? = some ']' then readEnd t marks target .spans (stop + 1)
    else
      match placeOf? (· == '\x7d') marks (stop + 1) with
      | none => .error .malformed
      | some close =>
        let field := between t (stop + 1) close
        if field = [] ∨ marks[close + 1]? ≠ some ']' then .error .malformed
        else readEnd t marks target (scopeOf (between t place stop) field) (close + 2)

/-- Reads a directive `t` whose text without the blanks around it is `marks`. -/
def readMarked (t marks : Text) : Except DirectiveFault Directive :=
  match marks with
  | [] => .error .malformed
  | first :: _ =>
    if first = '[' then readBrackets t marks [] 1
    else if !beginsWord first then .error .malformed
    else
      match placeOf? (fun c => c == '=' || c == '[') marks 0 with
      | none => .ok (readWord t)
      | some stop =>
        if marks[stop]? = some '[' then readBrackets t marks (t.take stop) (stop + 1)
        else withRank (t.take stop) (.events none) (t.drop (stop + 1))

/-- Reads a directive. -/
def Directive.read (t : Text) : Except DirectiveFault Directive :=
  readMarked t (Text.trimBlank t)

end Log

end EdgeGateway
