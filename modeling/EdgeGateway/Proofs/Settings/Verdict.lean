import EdgeGateway.Proofs.Text.Numeral
import EdgeGateway.Settings.Read

/-!
# Verdicts about settings

Five settings are checked one after the other.  What can be wrong with each of them depends on its
own text only, and the first one that is wrong is the one that is reported, by the name of the
variable that was read and with the text that was found there.

Readers of settings are put together from readers of single ones.  A verdict says what a reader
makes of a list of settings, and verdicts are put together in the same way.

Main results:

- Theorem `FirstFault.unique`: only one fault is the first one.
- Theorem `Verdict.bind`: what two readers make of their settings, one after the other.
- Theorem `Verdict.exists_ok_iff`, `Verdict.eq_error_iff`: when a reader accepts, and what it
  reports.
-/

namespace EdgeGateway

namespace Settings

/-! ## Settings and their faults -/

/-- The variable that the origin of the billing backend is read from: the older name counts where
the newer one is missing or blank. -/
def billingVariable (env : Environment) : UrlVariable :=
  match nonBlank? env UrlVariable.billing.name with
  | some _ => .billing
  | none => .formerBilling

/-- The origin of the billing backend is read from one variable. -/
theorem readBilling_eq (env : Environment) :
    readBilling env = readUrl env (billingVariable env) := by
  unfold readBilling billingVariable
  cases nonBlank? env UrlVariable.billing.name <;> rfl

/-- The settings that are checked. -/
inductive Checked where
  | port
  | billing
  | orchestrationUi
  | uiPrefix
  | timeout
  deriving DecidableEq, Repr

namespace Checked

/-- The settings that are checked before the warnings, in their order. -/
def early : List Checked :=
  [.port, .billing, .orchestrationUi]

/-- The settings that are checked after the warnings, in their order. -/
def late : List Checked :=
  [.uiPrefix, .timeout]

/-- All settings that are checked, in their order. -/
def all : List Checked :=
  early ++ late

/-- The text that is checked, if the setting is not left out: the ports and the prefix as they are
written, the others without the white space around them. -/
def text? (env : Environment) : Checked → Option Text
  | .port => env.get? portVariable
  | .billing => nonBlank? env (billingVariable env).name
  | .orchestrationUi => nonBlank? env UrlVariable.orchestrationUi.name
  | .uiPrefix => env.get? uiPrefixVariable
  | .timeout => nonBlank? env timeoutVariable

/-- The texts that a setting can have. -/
def Accepts : Checked → Text → Prop
  | .port, t => ∃ n, Numeral.Spells t n ∧ n ≤ 65535
  | .billing, t => ∃ u, Url.parse? t = some u ∧ Origin.isWeb u = true
  | .orchestrationUi, t => ∃ u, Url.parse? t = some u ∧ Origin.isWeb u = true
  | .uiPrefix, t =>
    Route.barePrefix t ≠ [] ∧ Route.collides ('/' :: Route.barePrefix t) = false
  | .timeout, t => ∃ n, Numeral.Spells t n ∧ 1 ≤ n ∧ n ≤ 18446744073709551615

/-- The fault of a setting with a text that it cannot have. -/
def fault (env : Environment) : Checked → Text → Fault
  | .port, t => .port t
  | .billing, t => .url (billingVariable env).name t
  | .orchestrationUi, t => .url UrlVariable.orchestrationUi.name t
  | .uiPrefix, t => .uiPrefix t
  | .timeout, t => .timeout t

/-- A setting is left out or has a text that it can have. -/
def Passes (env : Environment) (c : Checked) : Prop :=
  ∀ t, c.text? env = some t → c.Accepts t

/-- A setting has a text that it cannot have, and this is the fault. -/
def Fails (env : Environment) (c : Checked) (fault : Fault) : Prop :=
  ∃ t, c.text? env = some t ∧ ¬ c.Accepts t ∧ fault = c.fault env t

/-- A setting that passes has no fault. -/
theorem Passes.not_fails {env : Environment} {c : Checked} {fault : Fault} (h : c.Passes env) :
    ¬ c.Fails env fault := by
  rintro ⟨t, ht, hrefused, -⟩
  exact hrefused (h t ht)

/-- A setting has one fault at most. -/
theorem Fails.unique {env : Environment} {c : Checked} {fault other : Fault}
    (h : c.Fails env fault) (h' : c.Fails env other) : fault = other := by
  obtain ⟨t, ht, -, rfl⟩ := h
  obtain ⟨t', ht', -, rfl⟩ := h'
  obtain rfl : t = t' := by
    rw [ht] at ht'
    exact Option.some.inj ht'
  rfl

end Checked

/-- The fault of the first setting in a list that does not pass. -/
inductive FirstFault (env : Environment) (fault : Fault) : List Checked → Prop where
  | here {c : Checked} {rest : List Checked} (h : c.Fails env fault) :
    FirstFault env fault (c :: rest)
  | later {c : Checked} {rest : List Checked} (hc : c.Passes env)
    (h : FirstFault env fault rest) : FirstFault env fault (c :: rest)

namespace FirstFault

variable {env : Environment} {fault other : Fault} {cs ds : List Checked}

/-- Settings behind the first fault do not matter. -/
theorem append_right (ds : List Checked) (h : FirstFault env fault cs) :
    FirstFault env fault (cs ++ ds) := by
  induction h with
  | here h => exact .here h
  | later hc _ ih => exact .later hc ih

/-- Settings that pass do not matter, either. -/
theorem append_left (hcs : ∀ c ∈ cs, c.Passes env) (h : FirstFault env fault ds) :
    FirstFault env fault (cs ++ ds) := by
  induction cs with
  | nil => exact h
  | cons c rest ih =>
    apply FirstFault.later
    · exact hcs c List.mem_cons_self
    · apply ih
      intro d hd
      exact hcs d (List.mem_cons_of_mem c hd)

/-- Only one fault is the first one. -/
theorem unique (h : FirstFault env fault cs) (h' : FirstFault env other cs) : fault = other := by
  induction h with
  | here h =>
    cases h' with
    | here h' => exact h.unique h'
    | later hc _ => exact absurd h hc.not_fails
  | later hc _ ih =>
    cases h' with
    | here h' => exact absurd h' hc.not_fails
    | later _ h' => exact ih h'

/-- Where every setting passes there is no first fault. -/
theorem not_of_passes (hcs : ∀ c ∈ cs, c.Passes env) : ¬ FirstFault env fault cs := by
  intro h
  induction h with
  | here h => exact (hcs _ List.mem_cons_self).not_fails h
  | later _ _ ih =>
    apply ih
    intro d hd
    exact hcs d (List.mem_cons_of_mem _ hd)

end FirstFault

/-! ## Verdicts -/

/-- A value is the usual one where a setting is left out, and otherwise what its text is read as. -/
def ReadAs {α : Type} (text : Option Text) (usual : α) (reads : Text → α → Prop) (a : α) : Prop :=
  match text with
  | none => a = usual
  | some t => reads t a

/-- What a reader makes of a list of settings: a good value where all of them pass, and otherwise
the first fault. -/
inductive Verdict {α : Type} (env : Environment) (cs : List Checked) (good : α → Prop) :
    Except Fault α → Prop where
  | accepted {a : α} (h : ∀ c ∈ cs, c.Passes env) (hgood : good a) : Verdict env cs good (.ok a)
  | refused {fault : Fault} (h : FirstFault env fault cs) : Verdict env cs good (.error fault)

namespace Verdict

variable {α β : Type} {env : Environment} {cs ds : List Checked} {c : Checked}
  {good : α → Prop} {good' : β → Prop} {x : Except Fault α}

/-- A reader of a single setting, which has a usual value where it is left out, and accepts exactly
the texts that the setting can have. -/
theorem single {usual : α} {reads : Text → α → Prop} (hnone : c.text? env = none → x = .ok usual)
    (hsome : ∀ t, c.text? env = some t →
      (∃ a, x = .ok a ∧ c.Accepts t ∧ reads t a) ∨ (x = .error (c.fault env t) ∧ ¬ c.Accepts t)) :
    Verdict env [c] (ReadAs (c.text? env) usual reads) x := by
  cases htext : c.text? env with
  | none =>
    rw [hnone htext]
    refine .accepted ?_ rfl
    intro d hd t ht
    rw [List.mem_singleton.1 hd, htext] at ht
    cases ht
  | some t =>
    rcases hsome t htext with ⟨a, rfl, haccepts, hreads⟩ | ⟨rfl, hrefused⟩
    · apply Verdict.accepted _ hreads
      intro d hd t' ht'
      rw [List.mem_singleton.1 hd] at ht' ⊢
      rw [htext] at ht'
      exact Option.some.inj ht' ▸ haccepts
    · exact .refused (.here ⟨t, htext, hrefused, rfl⟩)

/-- A value that needs no settings. -/
theorem pure {a : α} (hgood : good a) : Verdict env [] good (Pure.pure a) :=
  .accepted (fun _ hc => absurd hc List.not_mem_nil) hgood

/-- Two readers, one after the other. -/
theorem bind {read : α → Except Fault β} (h : Verdict env cs good x)
    (hread : ∀ a, good a → Verdict env ds good' (read a)) :
    Verdict env (cs ++ ds) good' (x >>= read) := by
  cases h with
  | refused h => exact .refused (h.append_right ds)
  | @accepted a hcs hgood =>
    show Verdict env (cs ++ ds) good' (read a)
    have hnext := hread a hgood
    generalize read a = y at hnext
    cases hnext with
    | refused h => exact .refused (FirstFault.append_left hcs h)
    | accepted hds hgood' =>
      apply Verdict.accepted _ hgood'
      intro c hc
      rcases List.mem_append.1 hc with hc | hc
      · exact hcs c hc
      · exact hds c hc

/-- What is made of a value that was read. -/
theorem map {f : α → β} (h : Verdict env cs good x) (hf : ∀ a, good a → good' (f a)) :
    Verdict env cs good' (x.map f) := by
  cases h with
  | refused h => exact .refused h
  | accepted hcs hgood => exact .accepted hcs (hf _ hgood)

/-- A reader accepts exactly the environments in which all of its settings pass. -/
theorem exists_ok_iff (h : Verdict env cs good x) :
    (∃ a, x = .ok a) ↔ ∀ c ∈ cs, c.Passes env := by
  cases h with
  | accepted hcs hgood => exact iff_of_true ⟨_, rfl⟩ hcs
  | refused h =>
    apply iff_of_false
    · rintro ⟨a, ha⟩
      cases ha
    · intro hcs
      exact FirstFault.not_of_passes hcs h

/-- A reader reports exactly the first fault. -/
theorem eq_error_iff {fault : Fault} (h : Verdict env cs good x) :
    x = .error fault ↔ FirstFault env fault cs := by
  cases h with
  | accepted hcs hgood =>
    apply iff_of_false
    · intro heq
      cases heq
    · exact FirstFault.not_of_passes hcs
  | refused h =>
    constructor
    · intro heq
      cases heq
      exact h
    · intro h'
      rw [h.unique h']

/-- A value that was read is good. -/
theorem good_of_ok {a : α} (h : Verdict env cs good x) (hx : x = .ok a) : good a := by
  subst hx
  cases h with
  | accepted _ hgood => exact hgood

end Verdict

end Settings

end EdgeGateway
