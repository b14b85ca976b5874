import EdgeGateway.Proofs.Settings.Verdict

/-!
# Which environments are accepted

A process is configured by its environment alone when it finds no file of settings.  Its settings
are read exactly if each of them is left out or has a text that is accepted by itself; otherwise the
first fault is reported.  The warnings about missing backends are given between two groups of
checks.

Main results:

- Theorem `verdict_ofEnvironment`: what is made of an environment.
- Theorem `ofEnvironment_congr`: what does not matter to the settings.
- Theorem `load_reports_first_fault`: which environments are accepted, what is reported otherwise,
  and which variables count as unset.
-/

namespace EdgeGateway

/-! ## Environments without a variable -/

namespace Environment

/-- An environment from which a variable is taken. -/
def unset (env : Environment) (name : Text) : Environment :=
  env.filter fun entry => entry.1 ≠ name

/-- The variable that is taken has no value any more, and all others keep theirs. -/
theorem get?_unset (env : Environment) (name : Text) {other : Text} (h : '=' ∉ other) :
    (env.unset name).get? other = if other = name then none else env.get? other := by
  rw [get?_eq_lookup _ h, get?_eq_lookup _ h]
  induction env with
  | nil => split <;> rfl
  | cons entry rest ih =>
    rcases entry with ⟨first, bytes⟩
    by_cases hfirst : first = name
    · have hrest : unset ((first, bytes) :: rest) name = unset rest name := by
        simp [unset, hfirst]
      rw [hrest, ih]
      by_cases hother : other = name
      · rw [if_pos hother, if_pos hother]
      · have hne : (other == first) = false := by simp [hfirst, hother]
        rw [if_neg hother, if_neg hother, List.lookup_cons, hne]
    · have hrest : unset ((first, bytes) :: rest) name = (first, bytes) :: unset rest name := by
        simp [unset, hfirst]
      rw [hrest, List.lookup_cons, List.lookup_cons]
      by_cases hhere : other = first
      · simp [hhere, hfirst]
      · have hne : (other == first) = false := by simp [hhere]
        rw [hne]
        exact ih

end Environment

namespace Settings

/-! ## Readers of single settings -/

variable {env : Environment}

/-- The texts that are accepted as origins. -/
theorem exists_web_iff {value : Text} :
    (∃ u, Url.parse? value = some u ∧ Origin.isWeb u = true) ↔
      Origin.ofText? value = some (Text.trimEnd (· == '/') value) := by
  rw [Origin.ofText?_eq_some_iff]
  simp

/-- The reader of the port. -/
theorem verdict_readPort (env : Environment) :
    Verdict env [.port] (ReadAs (Checked.port.text? env) defaultPort Numeral.Spells)
      (readPort env) := by
  apply Verdict.single
  · exact readPort_of_unset
  · intro t ht
    have htext : env.get? portVariable = some t := ht
    simp only [readPort, htext]
    cases hread : Numeral.read? maxPort t with
    | none =>
      right
      refine ⟨rfl, ?_⟩
      rintro ⟨n, hspells, hbound⟩
      have haccepted : Numeral.read? maxPort t = some n :=
        Numeral.read?_eq_some_iff_spells.2 ⟨hspells, hbound⟩
      rw [haccepted] at hread
      cases hread
    | some n =>
      left
      obtain ⟨hspells, hbound⟩ := Numeral.read?_eq_some_iff_spells.1 hread
      exact ⟨n, rfl, ⟨n, hspells, hbound⟩, hspells⟩

/-- The origin that a text is read as. -/
def ReadsOrigin (t : Text) (origin : Option Text) : Prop :=
  origin = some (Text.trimEnd (· == '/') t)

/-- The reader of an origin, for a setting that is kept in a variable. -/
theorem verdict_readUrl {c : Checked} {source : UrlVariable}
    (htext : c.text? env = nonBlank? env source.name)
    (haccepts : ∀ t, c.Accepts t ↔ ∃ u, Url.parse? t = some u ∧ Origin.isWeb u = true)
    (hfault : ∀ t, c.fault env t = .url source.name t) :
    Verdict env [c] (ReadAs (c.text? env) none ReadsOrigin) (readUrl env source) := by
  apply Verdict.single
  · intro hnone
    rw [htext] at hnone
    simp only [readUrl, hnone]
  · intro t ht
    rw [htext] at ht
    simp only [readUrl, ht, readOrigin]
    rw [haccepts, hfault, exists_web_iff]
    cases hread : Origin.ofText? t with
    | none =>
      right
      refine ⟨rfl, ?_⟩
      intro h
      cases h
    | some origin =>
      left
      obtain ⟨-, rfl⟩ := Origin.ofText?_eq_some_iff.1 hread
      exact ⟨_, rfl, rfl, rfl⟩

/-- The reader of the origin of the billing backend. -/
theorem verdict_readBilling (env : Environment) :
    Verdict env [.billing] (ReadAs (Checked.billing.text? env) none ReadsOrigin)
      (readBilling env) := by
  rw [readBilling_eq]
  apply verdict_readUrl
  · rfl
  · exact fun t => Iff.rfl
  · exact fun t => rfl

/-- The reader of the origin of the user interface. -/
theorem verdict_readOrchestrationUi (env : Environment) :
    Verdict env [.orchestrationUi] (ReadAs (Checked.orchestrationUi.text? env) none ReadsOrigin)
      (readUrl env .orchestrationUi) := by
  apply verdict_readUrl
  · rfl
  · exact fun t => Iff.rfl
  · exact fun t => rfl

/-- The prefix that a text is read as. -/
def ReadsPrefix (t pre : Text) : Prop :=
  pre = '/' :: Route.barePrefix t

/-- The usual prefix is in normal form. -/
theorem normalizePrefix?_usual :
    Route.normalizePrefix? Route.usualUiPrefix = some Route.usualUiPrefix := by
  decide

/-- The reader of the prefix of the user interface. -/
theorem verdict_readUiPrefix (env : Environment) :
    Verdict env [.uiPrefix]
      (ReadAs (Checked.uiPrefix.text? env) Route.usualUiPrefix ReadsPrefix)
      (readUiPrefix env) := by
  apply Verdict.single
  · intro hnone
    have htext : env.get? uiPrefixVariable = none := hnone
    simp only [readUiPrefix, htext, Option.getD_none, normalizePrefix?_usual]
  · intro t ht
    have htext : env.get? uiPrefixVariable = some t := ht
    simp only [readUiPrefix, htext, Option.getD_some]
    cases hread : Route.normalizePrefix? t with
    | none =>
      right
      refine ⟨rfl, ?_⟩
      rintro ⟨hne, hclear⟩
      rw [Route.normalizePrefix?_eq_some_iff.2 ⟨rfl, hne, hclear⟩] at hread
      cases hread
    | some pre =>
      left
      obtain ⟨hpre, hne, hclear⟩ := Route.normalizePrefix?_eq_some_iff.1 hread
      rw [hpre] at hclear
      exact ⟨pre, rfl, ⟨hne, hclear⟩, hpre⟩

/-- The timeout that a text is read as. -/
def ReadsTimeout (t : Text) (timeout : Option Nat) : Prop :=
  ∃ n, timeout = some n ∧ Numeral.Spells t n

/-- The reader of the timeout. -/
theorem verdict_readTimeout (env : Environment) :
    Verdict env [.timeout] (ReadAs (Checked.timeout.text? env) none ReadsTimeout)
      (readTimeout env) := by
  apply Verdict.single
  · exact readTimeout_of_blank
  · intro t ht
    have htext : nonBlank? env timeoutVariable = some t := ht
    have hmax : maxTimeout = 18446744073709551615 := rfl
    simp only [readTimeout, htext]
    cases hread : Numeral.read? maxTimeout t with
    | none =>
      right
      refine ⟨rfl, ?_⟩
      rintro ⟨n, hspells, -, hbound⟩
      rw [Numeral.read?_eq_some_iff_spells.2 ⟨hspells, by omega⟩] at hread
      cases hread
    | some n =>
      obtain ⟨hspells, hbound⟩ := Numeral.read?_eq_some_iff_spells.1 hread
      cases n with
      | zero =>
        right
        refine ⟨rfl, ?_⟩
        rintro ⟨n, hspells', hpos, hbound'⟩
        rw [Numeral.read?_eq_some_iff_spells.2 ⟨hspells', by omega⟩] at hread
        cases hread
        omega
      | succ n =>
        left
        exact ⟨some (n + 1), rfl, ⟨n + 1, hspells, by omega, by omega⟩, n + 1, rfl, hspells⟩

/-! ## All settings -/

/-- The settings say what an environment says. -/
structure Fits (env : Environment) (s : Settings) : Prop where
  port : ReadAs (Checked.port.text? env) defaultPort Numeral.Spells s.port
  host : s.host = (env.get? hostVariable).getD defaultHost
  billing : ReadAs (Checked.billing.text? env) none ReadsOrigin s.origins.billing
  orchestrationUi :
    ReadAs (Checked.orchestrationUi.text? env) none ReadsOrigin s.origins.orchestrationUi
  uiPrefix : ReadAs (Checked.uiPrefix.text? env) Route.usualUiPrefix ReadsPrefix s.uiPrefix
  timeout : ReadAs (Checked.timeout.text? env) none ReadsTimeout s.timeout

/-- Port and origins say what an environment says. -/
structure FitsEarly (env : Environment) (port : Nat) (origins : Origins) : Prop where
  port : ReadAs (Checked.port.text? env) defaultPort Numeral.Spells port
  billing : ReadAs (Checked.billing.text? env) none ReadsOrigin origins.billing
  orchestrationUi :
    ReadAs (Checked.orchestrationUi.text? env) none ReadsOrigin origins.orchestrationUi

/-- The reader of the settings before the warnings. -/
theorem verdict_readAddresses (env : Environment) :
    Verdict env Checked.early (fun read => FitsEarly env read.1 read.2) (readAddresses env) := by
  apply Verdict.bind (verdict_readPort env)
  intro port hport
  apply Verdict.bind (verdict_readBilling env)
  intro billing hbilling
  apply Verdict.bind (verdict_readOrchestrationUi env)
  intro orchestrationUi horchestrationUi
  exact Verdict.pure ⟨hport, hbilling, horchestrationUi⟩

/-- The reader of the settings after the warnings. -/
theorem verdict_readLimits (env : Environment) :
    Verdict env Checked.late
      (fun read => ReadAs (Checked.uiPrefix.text? env) Route.usualUiPrefix ReadsPrefix read.1 ∧
        ReadAs (Checked.timeout.text? env) none ReadsTimeout read.2)
      (readLimits env) := by
  apply Verdict.bind (verdict_readUiPrefix env)
  intro pre hpre
  apply Verdict.bind (verdict_readTimeout env)
  intro timeout htimeout
  exact Verdict.pure ⟨hpre, htimeout⟩

/-- Settings are read in two groups. -/
theorem fst_ofEnvironment (env : Environment) :
    (ofEnvironment env).1 = readAddresses env >>= fun read =>
      (readLimits env).map fun limits =>
        { port := read.1, host := (env.get? hostVariable).getD defaultHost, origins := read.2,
          uiPrefix := limits.1, timeout := limits.2 } := by
  unfold ofEnvironment
  cases readAddresses env <;> rfl

/-- What is made of an environment. -/
theorem verdict_ofEnvironment (env : Environment) :
    Verdict env Checked.all (Fits env) (ofEnvironment env).1 := by
  rw [fst_ofEnvironment]
  apply Verdict.bind (verdict_readAddresses env)
  rintro ⟨port, origins⟩ hearly
  apply Verdict.map (verdict_readLimits env)
  rintro ⟨pre, timeout⟩ ⟨hpre, htimeout⟩
  exact ⟨hearly.port, rfl, hearly.billing, hearly.orchestrationUi, hpre, htimeout⟩

/-! ## Warnings -/

/-- An origin is missing exactly where its setting is left out. -/
theorem isNone_of_readAs {text origin : Option Text} (h : ReadAs text none ReadsOrigin origin) :
    origin.isNone = text.isNone := by
  cases text with
  | none =>
    rw [show origin = none from h]
  | some t =>
    rw [show origin = some (Text.trimEnd (· == '/') t) from h]
    rfl

/-- The warning that nothing is configured for the interface of programs. -/
def missingBilling : Event :=
  ⟨.warn, .settings, "No billing backend configured; /api routes will answer 500".toList, []⟩

/-- The warning that nothing is configured for the user interface. -/
def missingOrchestrationUi : Event :=
  ⟨.warn, .settings, "No orchestration UI backend configured; UI routes will answer 500".toList, []⟩

/-- The warnings that an environment deserves, in their order: one for each backend whose URL is
left out. -/
def warningsFor (env : Environment) : List Event :=
  match Checked.billing.text? env, Checked.orchestrationUi.text? env with
  | none, none => [missingBilling, missingOrchestrationUi]
  | none, some _ => [missingBilling]
  | some _, none => [missingOrchestrationUi]
  | some _, some _ => []

/-- Warnings are given when the settings in front of them pass. -/
theorem snd_ofEnvironment_of_passes (h : ∀ c ∈ Checked.early, c.Passes env) :
    (ofEnvironment env).2 = warningsFor env := by
  have hread := verdict_readAddresses env
  obtain ⟨⟨port, origins⟩, hok⟩ := hread.exists_ok_iff.2 h
  have hearly : FitsEarly env port origins := hread.good_of_ok hok
  have hwarnings : (ofEnvironment env).2 = warnings origins := by
    rw [ofEnvironment, hok]
  rw [hwarnings, warnings, isNone_of_readAs hearly.billing,
    isNone_of_readAs hearly.orchestrationUi, warningsFor]
  cases Checked.billing.text? env <;> cases Checked.orchestrationUi.text? env <;> rfl

/-- Nothing is logged when one of these settings does not pass. -/
theorem snd_ofEnvironment_of_fault {fault : Fault} (h : FirstFault env fault Checked.early) :
    (ofEnvironment env).2 = [] := by
  have herror := (verdict_readAddresses env).eq_error_iff.2 h
  simp only [ofEnvironment, herror]

/-! ## What does not matter -/

/-- What is used of a variable depends on its value only. -/
theorem nonBlank?_congr {env env' : Environment} {name : Text}
    (h : env.get? name = env'.get? name) : nonBlank? env name = nonBlank? env' name := by
  rw [nonBlank?, h, nonBlank?]

/-- A variable that is taken is not used any more, and all others are used as before. -/
theorem nonBlank?_unset (env : Environment) (name : Text) {other : Text} (h : '=' ∉ other) :
    nonBlank? (env.unset name) other = if other = name then none else nonBlank? env other := by
  rw [nonBlank?, Environment.get?_unset env name h]
  split <;> rfl

/-- Nothing is left of a blank text without the white space around it. -/
theorem trimBlank_of_blank {t : Text} (h : t.isAllBlank = true) : Text.trimBlank t = [] := by
  have hall : ∀ c ∈ t, Text.isBlank c = true := List.all_eq_true.1 h
  have hstart : Text.trimStart Text.isBlank t = [] := by
    simpa using Text.trimStart_append_of_all [] hall
  rw [Text.trimBlank, Text.trim, hstart]
  rfl

/-- A blank text is not used. -/
theorem nonBlank?_of_blank {env : Environment} {name t : Text} (h : env.get? name = some t)
    (ht : t.isAllBlank = true) : nonBlank? env name = none := by
  simp [nonBlank?, h, trimBlank_of_blank ht]

/-- Two environments that agree on what is used of each variable: on the older name of the billing
URL only where the newer one is not used. -/
structure UsedAlike (env env' : Environment) : Prop where
  port : env.get? portVariable = env'.get? portVariable
  host : env.get? hostVariable = env'.get? hostVariable
  billing : nonBlank? env UrlVariable.billing.name = nonBlank? env' UrlVariable.billing.name
  formerBilling (h : nonBlank? env UrlVariable.billing.name = none) :
    nonBlank? env UrlVariable.formerBilling.name = nonBlank? env' UrlVariable.formerBilling.name
  orchestrationUi :
    nonBlank? env UrlVariable.orchestrationUi.name = nonBlank? env' UrlVariable.orchestrationUi.name
  uiPrefix : env.get? uiPrefixVariable = env'.get? uiPrefixVariable
  timeout : nonBlank? env timeoutVariable = nonBlank? env' timeoutVariable

/-- Nothing else matters to the settings and their events. -/
theorem ofEnvironment_congr {env env' : Environment} (h : UsedAlike env env') :
    ofEnvironment env = ofEnvironment env' := by
  have hport : readPort env = readPort env' := by
    simp only [readPort, h.port]
  have hbilling : readBilling env = readBilling env' := by
    simp only [readBilling, readUrl, ← h.billing]
    cases hused : nonBlank? env UrlVariable.billing.name with
    | none => simp only [h.formerBilling hused]
    | some t => rfl
  have hui : readUrl env .orchestrationUi = readUrl env' .orchestrationUi := by
    simp only [readUrl, h.orchestrationUi]
  have hprefix : readUiPrefix env = readUiPrefix env' := by
    simp only [readUiPrefix, h.uiPrefix]
  have htimeout : readTimeout env = readTimeout env' := by
    simp only [readTimeout, h.timeout]
  simp only [ofEnvironment, readAddresses, readLimits, hport, hbilling, hui, hprefix, htimeout,
    h.host]

/-- The variables that settings are read from. -/
def variableNames : List Text :=
  [portVariable, hostVariable, UrlVariable.billing.name, UrlVariable.formerBilling.name,
    UrlVariable.orchestrationUi.name, uiPrefixVariable, timeoutVariable]

/-- The variables that count as unset where they are blank. -/
def blankable : List Text :=
  [UrlVariable.billing.name, UrlVariable.formerBilling.name, UrlVariable.orchestrationUi.name,
    timeoutVariable]

/-- No name of a variable has an equals sign in it. -/
theorem equals_not_mem {name : Text} (h : name ∈ variableNames) : '=' ∉ name := by
  have hall : ∀ name ∈ variableNames, '=' ∉ name := by decide
  exact hall name h

/-- Two environments are used alike if the same is used of all variables, and those that do not
count as unset where they are blank have the same values. -/
theorem usedAlike_of_forall {env env' : Environment}
    (hused : ∀ name ∈ variableNames, nonBlank? env name = nonBlank? env' name)
    (hwritten : ∀ name ∈ variableNames, name ∉ blankable → env.get? name = env'.get? name) :
    UsedAlike env env' := by
  simp only [variableNames, List.forall_mem_cons] at hused hwritten
  obtain ⟨-, -, hbilling, hformer, hui, -, htimeout, -⟩ := hused
  obtain ⟨hport, hhost, -, -, -, hprefix, -, -⟩ := hwritten
  constructor
  case port => exact hport (by decide)
  case host => exact hhost (by decide)
  case billing => exact hbilling
  case formerBilling => exact fun _ => hformer
  case orchestrationUi => exact hui
  case uiPrefix => exact hprefix (by decide)
  case timeout => exact htimeout

/-- Two environments in which all variables have the same values are used alike. -/
theorem usedAlike_of_get? {env env' : Environment}
    (h : ∀ name ∈ variableNames, env.get? name = env'.get? name) : UsedAlike env env' := by
  apply usedAlike_of_forall
  · intro name hname
    exact nonBlank?_congr (h name hname)
  · intro name hname _
    exact h name hname

/-- A variable without a text counts as unset. -/
theorem usedAlike_unset_of_get? {name : Text} (h : env.get? name = none) :
    UsedAlike (env.unset name) env := by
  apply usedAlike_of_get?
  intro other hother
  rw [Environment.get?_unset env name (equals_not_mem hother)]
  split
  · rename_i heq
    rw [heq, h]
  · rfl

/-- A blank variable for a URL or for the timeout counts as unset. -/
theorem usedAlike_unset_of_blank {name : Text} (hname : name ∈ blankable)
    (h : nonBlank? env name = none) : UsedAlike (env.unset name) env := by
  apply usedAlike_of_forall
  · intro other hother
    rw [nonBlank?_unset env name (equals_not_mem hother)]
    split
    · rename_i heq
      rw [heq, h]
    · rfl
  · intro other hother hwritten
    rw [Environment.get?_unset env name (equals_not_mem hother), if_neg]
    rintro rfl
    exact hwritten hname

/-- The older name of the billing URL does not matter where the newer one is used. -/
theorem usedAlike_of_primary {env' : Environment} {t : Text}
    (hused : nonBlank? env UrlVariable.billing.name = some t)
    (h : ∀ name ∈ variableNames, name ≠ UrlVariable.formerBilling.name →
      env'.get? name = env.get? name) :
    UsedAlike env' env := by
  have hvalue (name : Text) (hname : name ∈ variableNames)
      (hother : name ≠ UrlVariable.formerBilling.name) :
      nonBlank? env' name = nonBlank? env name :=
    nonBlank?_congr (h name hname hother)
  have hbilling := hvalue UrlVariable.billing.name (by decide) (by decide)
  constructor
  case port => exact h _ (by decide) (by decide)
  case host => exact h _ (by decide) (by decide)
  case billing => exact hbilling
  case formerBilling =>
    intro hnone
    rw [hbilling, hused] at hnone
    cases hnone
  case orchestrationUi => exact hvalue _ (by decide) (by decide)
  case uiPrefix => exact h _ (by decide) (by decide)
  case timeout => exact hvalue _ (by decide) (by decide)

/-! ## Processes without a file of settings -/

/-- Without a file of settings the environment is used as it is. -/
theorem load_of_no_files {env : Environment} {files : List (Option Bytes)}
    (h : ∀ file ∈ files, file = none) : load env files = ofEnvironment env := by
  have hnearest : nearest files = none := by
    apply List.findSome?_eq_none_iff.2
    exact h
  rw [load, loadFiles, hnearest]

/-- A blank text is neither a port nor a prefix. -/
theorem not_accepts_of_blank {t : Text} (h : t.isAllBlank = true) :
    ¬ Checked.port.Accepts t ∧ ¬ Checked.uiPrefix.Accepts t := by
  constructor
  · rintro ⟨n, hspells, -⟩
    exact Numeral.not_spells_of_blank h hspells
  · rintro ⟨hne, -⟩
    apply hne
    rw [Route.barePrefix, trimBlank_of_blank h]
    rfl

/-- A process without a file of settings has settings exactly if each of them is left out or has a
text that it can have, and otherwise reports the first one that has not; what is reported in front
of that are the warnings, and they are left out if a setting in front of them is at fault.

A variable whose value is no text counts as unset, and so does a blank one for a URL or for the
timeout, while a blank port or prefix is at fault.  Where the billing URL is used, the variable with
its older name does not matter, whatever it says. -/
theorem load_reports_first_fault (env : Environment) (files : List (Option Bytes))
    (hfiles : ∀ file ∈ files, file = none) :
    ((∃ s, (load env files).1 = .ok s) ↔ ∀ c ∈ Checked.all, c.Passes env) ∧
    (∀ s, (load env files).1 = .ok s → Fits env s) ∧
    (∀ fault, (load env files).1 = .error fault ↔ FirstFault env fault Checked.all) ∧
    ((∀ c ∈ Checked.early, c.Passes env) → (load env files).2 = warningsFor env) ∧
    (∀ fault, FirstFault env fault Checked.early → (load env files).2 = []) ∧
    (∀ t : Text, t.isAllBlank = true → ¬ Checked.port.Accepts t ∧ ¬ Checked.uiPrefix.Accepts t) ∧
    (∀ name ∈ variableNames, ∀ bytes, env.lookup name = some bytes → Utf8.decode? bytes = none →
      load (env.unset name) files = load env files) ∧
    (∀ name ∈ blankable, ∀ t, env.get? name = some t → t.isAllBlank = true →
      load (env.unset name) files = load env files) ∧
    (∀ t, nonBlank? env UrlVariable.billing.name = some t → ∀ env' : Environment,
      (∀ name ∈ variableNames, name ≠ UrlVariable.formerBilling.name →
        env'.get? name = env.get? name) →
      load env' files = load env files) := by
  have hload (env : Environment) : load env files = ofEnvironment env := load_of_no_files hfiles
  have hverdict := verdict_ofEnvironment env
  rw [hload env]
  refine ⟨hverdict.exists_ok_iff, ?_, ?_, ?_, ?_, ?_, ?_, ?_, ?_⟩
  · intro s hs
    exact hverdict.good_of_ok hs
  · intro fault
    exact hverdict.eq_error_iff
  · exact snd_ofEnvironment_of_passes
  · intro fault hfault
    exact snd_ofEnvironment_of_fault hfault
  · intro t ht
    exact not_accepts_of_blank ht
  · intro name hname bytes hbytes hno
    have hvalue : env.get? name = none := by
      rw [Environment.get?_eq_lookup env (equals_not_mem hname), hbytes, Option.bind_some, hno]
    rw [hload]
    exact ofEnvironment_congr (usedAlike_unset_of_get? hvalue)
  · intro name hname t ht hblank
    rw [hload]
    exact ofEnvironment_congr (usedAlike_unset_of_blank hname (nonBlank?_of_blank ht hblank))
  · intro t ht env' henv'
    rw [hload]
    exact ofEnvironment_congr (usedAlike_of_primary ht henv')

/-- An environment with several faults, a blank billing URL, and a host that is no text. -/
def faulty : Environment :=
  [(portVariable, Utf8.encode "+080".toList), (hostVariable, [255]),
    (UrlVariable.billing.name, Utf8.encode "\t ".toList),
    (UrlVariable.formerBilling.name, Utf8.encode " ftp://[::1] ".toList),
    (uiPrefixVariable, Utf8.encode "/api".toList), (timeoutVariable, Utf8.encode "0".toList)]

/-- The origin in the older variable is reported, with its name and without the white space around
it: the port in front of it passes, and the blank billing URL counts as unset, as does the host. -/
theorem load_reports_first_fault_faulty :
    (load faulty [none, none]).1 =
        .error (.url "OKE_BACKEND_URL".toList "ftp://[::1]".toList) ∧
      (load faulty [none, none]).2 = [] ∧
      load (faulty.unset hostVariable) [none, none] = load faulty [none, none] ∧
      load (faulty.unset UrlVariable.billing.name) [none, none] = load faulty [none, none] := by
  have hport : Checked.port.Passes faulty := by
    intro t ht
    have hvalue : Checked.port.text? faulty = some "+080".toList := by decide +kernel
    rw [hvalue] at ht
    rw [← Option.some.inj ht]
    have hdigits : ∀ c ∈ "080".toList, Numeral.isDigit c = true := List.all_eq_true.1 rfl
    exact ⟨80, ⟨"080".toList, .inr rfl, by decide, hdigits, rfl⟩, by decide⟩
  have hbilling : Checked.billing.Fails faulty
      (.url "OKE_BACKEND_URL".toList "ftp://[::1]".toList) := by
    refine ⟨"ftp://[::1]".toList, by decide +kernel, ?_, by decide +kernel⟩
    have hrefused : Origin.ofText? "ftp://[::1]".toList = none := by decide +kernel
    intro haccepts
    rw [exists_web_iff.1 haccepts] at hrefused
    cases hrefused
  have hfirst : FirstFault faulty (.url "OKE_BACKEND_URL".toList "ftp://[::1]".toList)
      Checked.early := .later hport (.here hbilling)
  obtain ⟨-, -, hreported, -, hsilent, -, hunread, hblank, -⟩ :=
    load_reports_first_fault faulty [none, none] (by simp)
  refine ⟨(hreported _).2 (hfirst.append_right _), hsilent _ hfirst, ?_, ?_⟩
  · exact hunread _ (by decide) [255] (by decide) (by decide +kernel)
  · exact hblank _ (by decide) "\t ".toList (by decide +kernel) (by decide)

end Settings

end EdgeGateway
