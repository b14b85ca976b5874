import EdgeGateway.Command
import EdgeGateway.Proofs.Log.Line
import EdgeGateway.Proofs.Settings.Acceptance

/-!
# What a fault in a setting says

The message of a fault quotes the value that was found.  It is one line whatever that value is, and
the fault can be told from it: the quoted value is the last quoted text behind a blank, and what
stands around it says which setting is at fault.

Main results:

- Theorem `message_injective`: different faults have different messages.
- Theorem `oneLine_message`: the message of a fault about a variable that is read is one line.
- Theorem `isNamed_of_load`: a fault that is found names a variable that was read.
- Theorem `message_quotes`: what the log shows of a fault.
-/

namespace EdgeGateway

namespace Settings

open Text (OneLine oneLine_append)

namespace Fault

/-! ## The parts of a message -/

/-- The value that was found. -/
def value : Fault → Text
  | .port value => value
  | .url _ value => value
  | .uiPrefix value => value
  | .timeout value => value

/-- What stands in front of the value in a message. -/
def front : Fault → Text
  | .port _ => "PORT must be a number, got ".toList
  | .url name _ => name ++ " is not a valid http(s) URL: ".toList
  | .uiPrefix _ => "UI_PROXY_PREFIX ".toList
  | .timeout _ => "UPSTREAM_TIMEOUT_SECS must be a positive number of seconds, got ".toList

/-- What stands behind the value in a message. -/
def back : Fault → Text
  | .uiPrefix _ => " must be a non-empty path that does not collide with /api".toList
  | _ => []

/-- A message is the quoted value between two texts. -/
theorem message_eq (fault : Fault) :
    fault.message = fault.front ++ (Quoted.encode fault.value ++ fault.back) := by
  have hbare (text quoted : Text) : text ++ quoted = text ++ (quoted ++ []) := by
    rw [List.append_nil]
  cases fault with
  | port value => exact hbare _ _
  | url name value => exact hbare _ _
  | uiPrefix value => exact List.append_assoc _ _ _
  | timeout value => exact hbare _ _

/-- The name of a variable stands in front of the rest. -/
theorem front_url (name value : Text) : (url name value).front = name ++ (url [] []).front :=
  rfl

/-- A blank stands in front of the value. -/
theorem getLast?_front (fault : Fault) : fault.front.getLast? = some ' ' := by
  have hport : (port []).front.getLast? = some ' ' := Text.of_literal (·.getLast? = some ' ') rfl
  have hurl : (url [] []).front.getLast? = some ' ' := Text.of_literal (·.getLast? = some ' ') rfl
  have huiPrefix : (uiPrefix []).front.getLast? = some ' ' :=
    Text.of_literal (·.getLast? = some ' ') rfl
  have htimeout : (timeout []).front.getLast? = some ' ' :=
    Text.of_literal (·.getLast? = some ' ') rfl
  cases fault with
  | port value => exact hport
  | url name value =>
    rw [front_url, List.getLast?_append, hurl]
    rfl
  | uiPrefix value => exact huiPrefix
  | timeout value => exact htimeout

/-- No quote stands behind the value. -/
theorem quote_not_mem_back (fault : Fault) : '"' ∉ fault.back := by
  have huiPrefix : '"' ∉ (uiPrefix []).back := Text.of_literal ('"' ∉ ·) (by decide +kernel)
  cases fault with
  | uiPrefix value => exact huiPrefix
  | _ => exact List.not_mem_nil

/-- Only in front of a URL a colon stands before the blank. -/
theorem getLast?_dropLast_front (fault : Fault) :
    fault.front.dropLast.getLast? = some ':' ↔ ∃ name value, fault = .url name value := by
  have hport : (port []).front.dropLast.getLast? ≠ some ':' :=
    Text.of_literal (·.dropLast.getLast? ≠ some ':') (by decide)
  have hurl : (url [] []).front ≠ [] ∧ (url [] []).front.dropLast.getLast? = some ':' :=
    Text.of_literal (fun t => t ≠ [] ∧ t.dropLast.getLast? = some ':') (by decide)
  have huiPrefix : (uiPrefix []).front.dropLast.getLast? ≠ some ':' :=
    Text.of_literal (·.dropLast.getLast? ≠ some ':') (by decide)
  have htimeout : (timeout []).front.dropLast.getLast? ≠ some ':' :=
    Text.of_literal (·.dropLast.getLast? ≠ some ':') (by decide)
  cases fault with
  | port value => exact iff_of_false hport (by simp)
  | url name value =>
    apply iff_of_true _ ⟨name, value, rfl⟩
    rw [front_url, List.dropLast_append_of_ne_nil hurl.1, List.getLast?_append, hurl.2]
    rfl
  | uiPrefix value => exact iff_of_false huiPrefix (by simp)
  | timeout value => exact iff_of_false htimeout (by simp)

/-- The parts of a message tell the fault. -/
theorem eq_of_parts {fault other : Fault} (hfront : fault.front = other.front)
    (hvalue : fault.value = other.value) (hback : fault.back = other.back) : fault = other := by
  have hurl : (∃ name value, fault = .url name value) ↔ ∃ name value, other = .url name value := by
    rw [← getLast?_dropLast_front, ← getLast?_dropLast_front, hfront]
  have huiPrefix : (uiPrefix []).back ≠ [] := Text.of_literal (· ≠ []) (List.cons_ne_nil _ _)
  have hport : (port []).front ≠ (timeout []).front :=
    Text.of_literal (· ≠ (timeout []).front) (Text.of_literal (_ ≠ ·) (by decide))
  cases fault with
  | port value =>
    cases other with
    | port value' => exact congrArg port hvalue
    | url name' value' => simp at hurl
    | uiPrefix value' => exact absurd hback.symm huiPrefix
    | timeout value' => exact absurd hfront hport
  | url name value =>
    cases other with
    | url name' value' =>
      have hname : name = name' := List.append_cancel_right hfront
      have hsame : value = value' := hvalue
      rw [hname, hsame]
    | _ => simp at hurl
  | uiPrefix value =>
    cases other with
    | uiPrefix value' => exact congrArg uiPrefix hvalue
    | _ => exact absurd hback huiPrefix
  | timeout value =>
    cases other with
    | port value' => exact absurd hfront.symm hport
    | url name' value' => simp at hurl
    | uiPrefix value' => exact absurd hback.symm huiPrefix
    | timeout value' => exact congrArg timeout hvalue

/-- Different faults have different messages. -/
theorem message_injective : Function.Injective message := by
  intro fault other h
  rw [message_eq, message_eq] at h
  obtain ⟨hfront, hvalue, hback⟩ := Quoted.append_encode_append_inj fault.getLast?_front
    other.getLast?_front fault.quote_not_mem_back other.quote_not_mem_back h
  exact eq_of_parts hfront hvalue hback

/-! ## Lines -/

/-- The fault is about a variable that the gateway reads. -/
def IsNamed : Fault → Prop
  | .url name _ => ∃ source : UrlVariable, name = source.name
  | _ => True

/-- A message is one line. -/
theorem oneLine_message {fault : Fault} (h : fault.IsNamed) : OneLine fault.message := by
  have hport : OneLine (port []).front := Text.of_literal OneLine (by decide +kernel)
  have hurl : OneLine (url [] []).front := Text.of_literal OneLine (by decide +kernel)
  have huiPrefix : OneLine (uiPrefix []).front := Text.of_literal OneLine (by decide +kernel)
  have hbehind : OneLine (uiPrefix []).back := Text.of_literal OneLine (by decide +kernel)
  have htimeout : OneLine (timeout []).front := Text.of_literal OneLine (by decide +kernel)
  have hname (source : UrlVariable) : OneLine source.name := by
    cases source <;> exact Text.of_literal OneLine (by decide)
  have hfront : OneLine fault.front := by
    cases fault with
    | port value => exact hport
    | url name value =>
      obtain ⟨source, rfl⟩ := h
      rw [front_url, oneLine_append]
      exact ⟨hname source, hurl⟩
    | uiPrefix value => exact huiPrefix
    | timeout value => exact htimeout
  have hback : OneLine fault.back := by
    cases fault with
    | uiPrefix value => exact hbehind
    | _ => exact fun c hc => absurd hc List.not_mem_nil
  rw [message_eq, oneLine_append, oneLine_append]
  exact ⟨hfront, Quoted.oneLine_encode _, hback⟩

end Fault

/-! ## Faults that are found -/

/-- The first fault is that of a setting. -/
theorem FirstFault.exists_eq {env : Environment} {fault : Fault} {cs : List Checked}
    (h : FirstFault env fault cs) : ∃ c t, fault = Checked.fault env c t := by
  induction h with
  | here h =>
    obtain ⟨t, -, -, hfault⟩ := h
    exact ⟨_, t, hfault⟩
  | later _ _ ih => exact ih

/-- A fault that is found is about a variable that was read. -/
theorem isNamed_of_load {env : Environment} {files : List (Option Bytes)} {fault : Fault}
    (h : (load env files).1 = .error fault) : fault.IsNamed := by
  have hfirst := (verdict_ofEnvironment (loadFiles env files)).eq_error_iff.1 h
  obtain ⟨c, t, rfl⟩ := hfirst.exists_eq
  cases c with
  | billing => exact ⟨_, rfl⟩
  | orchestrationUi => exact ⟨_, rfl⟩
  | _ => trivial

/-- The event of settings that cannot be used is made of one-line texts. -/
theorem tame_refused {fault : Fault} (h : fault.IsNamed) : Log.Tame (Command.refused fault) := by
  have htitle : OneLine "Invalid configuration: ".toList := Text.of_literal OneLine (by decide)
  constructor
  case message => exact oneLine_append.2 ⟨htitle, Fault.oneLine_message h⟩
  case fields => exact fun x hx => absurd hx List.not_mem_nil

/-- The message of a fault about a variable that the gateway reads is one line, whatever text the
fault quotes, and no two faults have the same message: the message tells the setting, the name of the
variable and the value.  Every fault that is found, whatever the environment and the files of
settings, is about such a variable; the command ends with an event that carries the whole message,
and the line of the log for it is one line in every style, apart from the codes of a terminal in a
coloured one. -/
theorem message_quotes :
    (∀ fault : Fault, fault.IsNamed → OneLine fault.message) ∧
    (∀ fault other : Fault, fault.message = other.message → fault = other) ∧
    (∀ env files fault, (load env files).1 = .error fault →
      fault.IsNamed ∧
        (Command.start env files).1 = .error fault ∧
        (Command.start env files).2.getLast? = some (Command.refused fault) ∧
        fault.message <:+ (Command.refused fault).message ∧
        ∀ style time, OneLine time →
          Log.OneCodedLine (Log.line style time (Command.refused fault)) ∧
          (style ≠ .coloured → OneLine (Log.line style time (Command.refused fault)))) := by
  refine ⟨?_, ?_, ?_⟩
  · intro fault hnamed
    exact Fault.oneLine_message hnamed
  · intro fault other h
    exact Fault.message_injective h
  · intro env files fault h
    have hnamed := isNamed_of_load h
    have hstart := Command.start_of_fault (Prod.ext h rfl)
    refine ⟨hnamed, ?_, ?_, List.suffix_append _ _, ?_⟩
    · rw [hstart]
    · rw [hstart, List.getLast?_concat]
    intro style time htime
    exact Log.oneLine_line style htime (tame_refused hnamed)

/-- A port that would begin another line of the log. -/
def forged : Text :=
  "80\"\n\u0085\u2028 INFO oke_edge_router: Edge router listening on \\u\x7b0\x7d".toList

/-- The forged port is refused with a message of one line, which no other port shares, and the line of
the log that says so is one line, too. -/
theorem message_quotes_forged :
    (load [(portVariable, Utf8.encode forged)] [none]).1 = .error (.port forged) ∧
      (Command.start [(portVariable, Utf8.encode forged)] [none]).1 = .error (.port forged) ∧
      OneLine (Fault.port forged).message ∧
      OneLine (Log.line .json "12:00".toList (Command.refused (.port forged))) ∧
      ∀ value, (Fault.port value).message = (Fault.port forged).message → value = forged := by
  have htext : Checked.port.text? [(portVariable, Utf8.encode forged)] = some forged :=
    Text.of_literal (fun t => Checked.port.text? [(portVariable, Utf8.encode t)] = some t)
      (by decide +kernel)
  have hrefused : ¬ Checked.port.Accepts forged := by
    have hread : Numeral.read? 65535 forged = none :=
      Text.of_literal (Numeral.read? 65535 · = none) (by decide)
    rintro ⟨n, hspells, hbound⟩
    rw [Numeral.read?_eq_some_iff_spells.2 ⟨hspells, hbound⟩] at hread
    cases hread
  have hload : (load [(portVariable, Utf8.encode forged)] [none]).1 = .error (.port forged) := by
    rw [load_of_no_files (by simp)]
    exact (verdict_ofEnvironment _).eq_error_iff.2 (.here ⟨forged, htext, hrefused, rfl⟩)
  obtain ⟨hline, htold, hreported⟩ := message_quotes
  obtain ⟨hnamed, hended, -, -, hlog⟩ := hreported _ _ _ hload
  refine ⟨hload, hended, hline _ hnamed, ?_, ?_⟩
  · exact (hlog .json "12:00".toList (by decide)).2 (by decide)
  · intro value h
    exact Fault.port.inj (htold _ _ h)

end Settings

end EdgeGateway
