import EdgeGateway.Log.Line
import EdgeGateway.Proofs.Text.Json
import EdgeGateway.Proofs.Text.Quoted

/-!
# Lines of a log

An event is written as one line in every style, whatever its texts say, as long as each of them is
one line.  Coloured lines have the codes of a terminal in them and nothing else that could leave the
line.

Main results:

- Theorem `oneLine_string`: a JSON string is one line if it stands for one.
- Theorem `oneLine_plainLine`, `oneLine_jsonLine`: lines of text and of JSON.
- Theorem `oneLine_line`: lines in every style.
-/

namespace EdgeGateway

open Text (IsInline OneLine oneLine_append oneLine_cons oneLine_flatMap)

/-! ## JSON -/

namespace Json

/-- A string is one line if it stands for one. -/
theorem oneLine_string {t : Text} (h : OneLine t) : OneLine (string t) := by
  have hquote : OneLine ['"'] := by decide
  have hinside : OneLine (t.flatMap escape) := by
    apply oneLine_flatMap
    intro c hc
    rcases escape_cases c with ⟨e, he, hwritten⟩ | ⟨hcontrol, -⟩ | ⟨-, hwritten⟩
    · have hall : ∀ x ∈ shortEscapes, OneLine ['\\', x.1] := by decide
      rw [hwritten]
      exact hall _ he
    · exact absurd (h c hc).1 (by omega)
    · rw [hwritten]
      exact fun d hd => List.mem_singleton.1 hd ▸ h c hc
  have hstring : string t = ['"'] ++ (t.flatMap escape ++ ['"']) := rfl
  rw [hstring, oneLine_append, oneLine_append]
  exact ⟨hquote, hinside, hquote⟩

/-- Texts with a comma between them are one line if each of them is. -/
theorem oneLine_intercalate {parts : List Text} (h : ∀ t ∈ parts, OneLine t) :
    OneLine ([','].intercalate parts) := by
  have hcomma : OneLine [','] := by decide
  induction parts with
  | nil => decide
  | cons first others ih =>
    have hfirst := h first List.mem_cons_self
    have hothers := ih fun t ht => h t (List.mem_cons_of_mem first ht)
    cases others with
    | nil => simpa using hfirst
    | cons second others =>
      rw [List.intercalate_cons_cons, oneLine_append, oneLine_append]
      exact ⟨⟨hfirst, hcomma⟩, hothers⟩

/-- An object is one line if the names and the written values of its members are. -/
theorem oneLine_object {members : List (Text × Text)}
    (h : ∀ x ∈ members, OneLine x.1 ∧ OneLine x.2) : OneLine (object members) := by
  have hopening : OneLine ['\x7b'] := by decide
  have hclosing : OneLine ['\x7d'] := by decide
  have hcolon : OneLine [':'] := by decide
  have hmembers : OneLine ([','].intercalate (members.map fun x => member x.1 x.2)) := by
    apply oneLine_intercalate
    intro t ht
    obtain ⟨x, hx, rfl⟩ := List.mem_map.1 ht
    obtain ⟨hname, hvalue⟩ := h x hx
    have hmember : member x.1 x.2 = string x.1 ++ ([':'] ++ x.2) := rfl
    rw [hmember, oneLine_append, oneLine_append]
    exact ⟨oneLine_string hname, hcolon, hvalue⟩
  have hobject : object members = ['\x7b'] ++
      ([','].intercalate (members.map fun x => member x.1 x.2) ++ ['\x7d']) := rfl
  rw [hobject, oneLine_append, oneLine_append]
  exact ⟨hopening, hmembers, hclosing⟩

end Json

/-! ## Events -/

namespace Log

/-- The texts of an event are one line each. -/
structure Tame (e : Event) : Prop where
  message : OneLine e.message
  fields : ∀ x ∈ e.fields, OneLine x.1 ∧ OneLine x.2

/-- The column of a level is one line. -/
theorem oneLine_levelColumn (level : Level) : OneLine (levelColumn level) := by
  cases level <;> decide

/-- The name of a part of the gateway is one line. -/
theorem oneLine_target (component : Component) : OneLine component.target := by
  cases component <;> decide

/-- A text that is one line apart from the codes of a terminal. -/
def OneCodedLine (t : Text) : Prop :=
  ∀ c ∈ t, IsInline c ∨ c = '\x1b'

instance (t : Text) : Decidable (OneCodedLine t) :=
  List.decidableBAll (fun c => IsInline c ∨ c = '\x1b') t

/-- A line may do without codes. -/
theorem oneCodedLine_of_oneLine {t : Text} (h : OneLine t) : OneCodedLine t :=
  fun c hc => .inl (h c hc)

theorem oneCodedLine_cons {c : Char} {t : Text} :
    OneCodedLine (c :: t) ↔ (IsInline c ∨ c = '\x1b') ∧ OneCodedLine t :=
  List.forall_mem_cons

theorem oneCodedLine_append {s t : Text} :
    OneCodedLine (s ++ t) ↔ OneCodedLine s ∧ OneCodedLine t :=
  List.forall_mem_append

/-- A text that is written in some way. -/
theorem oneCodedLine_painted {code : String} {t : Text} (hcode : OneLine code.toList)
    (ht : OneLine t) : OneCodedLine (painted code t) := by
  have hopening : OneCodedLine ['\x1b', '['] := by decide
  have hclosing : OneCodedLine ['m'] := by decide
  have hend : OneCodedLine (escapeCode "0") := by decide
  have hcodes : escapeCode code = ['\x1b', '['] ++ (code.toList ++ ['m']) := rfl
  rw [painted, hcodes]
  simp only [oneCodedLine_append]
  exact ⟨⟨⟨hopening, oneCodedLine_of_oneLine hcode, hclosing⟩, oneCodedLine_of_oneLine ht⟩, hend⟩

variable {e : Event} {time : Text}

/-- A line of text. -/
theorem oneLine_plainLine (htime : OneLine time) (he : Tame e) : OneLine (plainLine time e) := by
  have hblank : IsInline ' ' := by decide
  have hcolon : IsInline ':' := by decide
  have hequals : IsInline '=' := by decide
  have hfields : OneLine (e.fields.flatMap fun x => plainField x.1 x.2) := by
    intro c hc
    obtain ⟨x, hx, hmem⟩ := List.mem_flatMap.1 hc
    have hfield : OneLine (plainField x.1 x.2) := by
      simp only [plainField, List.cons_append, oneLine_append, oneLine_cons]
      exact ⟨hblank, (he.fields x hx).1, hequals, Quoted.oneLine_encode x.2⟩
    exact hfield c hmem
  simp only [plainLine, List.append_assoc, List.cons_append, oneLine_append, oneLine_cons]
  exact ⟨htime, hblank, oneLine_levelColumn _, hblank, oneLine_target _, hcolon, hblank,
    he.message, hfields⟩

/-- A coloured line. -/
theorem oneCodedLine_colouredLine (htime : OneLine time) (he : Tame e) :
    OneCodedLine (colouredLine time e) := by
  have hblank : IsInline ' ' := by decide
  have hfaint : OneLine faint.toList := by decide
  have hslanted : OneLine slanted.toList := by decide
  have hcolour : OneLine (colour e.level).toList := by cases e.level <;> decide
  have hcolon : OneLine [':'] := by decide
  have hequals : OneLine ['='] := by decide
  have hfields : OneCodedLine (e.fields.flatMap fun x => colouredField x.1 x.2) := by
    intro c hc
    obtain ⟨x, hx, hmem⟩ := List.mem_flatMap.1 hc
    have hname : OneLine x.1 := (he.fields x hx).1
    have hfield : OneCodedLine (colouredField x.1 x.2) := by
      simp only [colouredField, List.cons_append, oneCodedLine_append, oneCodedLine_cons]
      exact ⟨.inl hblank, ⟨oneCodedLine_painted hslanted hname,
        oneCodedLine_painted hfaint hequals⟩, oneCodedLine_of_oneLine (Quoted.oneLine_encode x.2)⟩
    exact hfield c hmem
  simp only [colouredLine, List.append_assoc, List.cons_append, oneCodedLine_append,
    oneCodedLine_cons]
  exact ⟨oneCodedLine_painted hfaint htime, .inl hblank,
    oneCodedLine_painted hcolour (oneLine_levelColumn _), .inl hblank,
    oneCodedLine_painted hfaint (oneLine_target _), oneCodedLine_painted hfaint hcolon,
    .inl hblank, oneCodedLine_of_oneLine he.message, hfields⟩

/-- A line of JSON. -/
theorem oneLine_jsonLine (htime : OneLine time) (he : Tame e) : OneLine (jsonLine time e) := by
  have hname : OneLine "timestamp".toList ∧ OneLine "level".toList ∧ OneLine "fields".toList ∧
      OneLine "target".toList ∧ OneLine "message".toList := by decide
  obtain ⟨htimestamp, hlevel, hfields, htarget, hmessage⟩ := hname
  have hlevelName : OneLine e.level.name := by cases e.level <;> decide
  have hobject : OneLine (jsonFields e) := by
    apply Json.oneLine_object
    intro x hx
    rcases List.mem_cons.1 hx with rfl | hx
    · exact ⟨hmessage, Json.oneLine_string he.message⟩
    · obtain ⟨⟨name, value⟩, hmem, rfl⟩ := List.mem_map.1 hx
      exact ⟨(he.fields _ hmem).1, Json.oneLine_string (he.fields _ hmem).2⟩
  apply Json.oneLine_object
  simp only [List.forall_mem_cons]
  exact ⟨⟨htimestamp, Json.oneLine_string htime⟩, ⟨hlevel, Json.oneLine_string hlevelName⟩,
    ⟨hfields, hobject⟩, ⟨htarget, Json.oneLine_string (oneLine_target _)⟩, by simp⟩

/-- A line in any style; only coloured ones have codes in them. -/
theorem oneLine_line (style : Style) (htime : OneLine time) (he : Tame e) :
    OneCodedLine (line style time e) ∧ (style ≠ .coloured → OneLine (line style time e)) := by
  cases style with
  | plain =>
    have hline := oneLine_plainLine htime he
    exact ⟨oneCodedLine_of_oneLine hline, fun _ => hline⟩
  | coloured => exact ⟨oneCodedLine_colouredLine htime he, fun h => absurd rfl h⟩
  | json =>
    have hline := oneLine_jsonLine htime he
    exact ⟨oneCodedLine_of_oneLine hline, fun _ => hline⟩

end Log

end EdgeGateway
