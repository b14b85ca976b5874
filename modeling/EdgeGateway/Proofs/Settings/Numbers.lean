import EdgeGateway.Proofs.Settings.Acceptance
import EdgeGateway.Proofs.Text.Cutting

/-!
# Settings that are numbers

The port and the timeout are numbers within bounds.  Where the other settings pass, the text of such
a setting alone decides whether the settings are accepted, and the setting has the value that the
text writes in base ten, with any number of leading zeros.  Nothing wraps around: the same numbers
are read into words of 16 and of 64 bits, whose digits are taken one after the other.

Main results:

- Theorem `Text.trimBlank_eq_nil_iff`: nothing is left of the blank texts.
- Theorem `exists_ok_iff_of_others`, `eq_error_iff_of_others`: one setting among others that pass.
- Theorem `exists_reading_iff_of_others`: the value of such a setting.
- Theorem `load_reads_numbers`: which ports and timeouts are accepted, and as which numbers.
-/

namespace EdgeGateway

/-- Nothing is left of a text without the white space around it exactly if it is blank. -/
theorem Text.trimBlank_eq_nil_iff {t : Text} : trimBlank t = [] ↔ t.isAllBlank = true := by
  constructor
  · intro h
    have hend : trimEnd isBlank (trimStart isBlank t) = [] := h
    obtain ⟨block, hblock, hall⟩ := eq_trimEnd_append isBlank (trimStart isBlank t)
    rw [hend, List.nil_append] at hblock
    have hstart : trimStart isBlank t = [] := by
      cases block with
      | nil => exact hblock
      | cons c rest =>
        have hkept : isBlank c = false := head?_trimStart c (by rw [hblock]; rfl)
        rw [hall c List.mem_cons_self] at hkept
        cases hkept
    exact List.all_eq_true.2 (all_of_trimStart_eq_nil hstart)
  · exact Settings.trimBlank_of_blank

namespace Settings

variable {env : Environment} {c : Checked} {t : Text}

/-! ## One setting among others that pass -/

/-- Every setting is checked. -/
theorem Checked.mem_all (c : Checked) : c ∈ all := by
  cases c <;> decide

/-- The fault of a setting is the first one if all others pass. -/
theorem FirstFault.of_others {fault : Fault} {cs : List Checked} (hc : c ∈ cs)
    (hothers : ∀ d ∈ cs, d ≠ c → d.Passes env) (h : c.Fails env fault) :
    FirstFault env fault cs := by
  induction cs with
  | nil => exact absurd hc List.not_mem_nil
  | cons d rest ih =>
    by_cases hd : d = c
    · subst hd
      exact .here h
    · have hrest : c ∈ rest := (List.mem_cons.1 hc).resolve_left fun heq => hd heq.symm
      apply FirstFault.later (hothers d List.mem_cons_self hd)
      exact ih hrest fun x hx => hothers x (List.mem_cons_of_mem d hx)

/-- A setting that has a text passes exactly if it can have it. -/
theorem Checked.passes_iff (ht : c.text? env = some t) : c.Passes env ↔ c.Accepts t := by
  constructor
  · intro h
    exact h t ht
  · intro h t' ht'
    rw [ht] at ht'
    exact Option.some.inj ht' ▸ h

/-- The settings are accepted exactly if the one can have its text. -/
theorem exists_ok_iff_of_others (ht : c.text? env = some t)
    (hothers : ∀ d ∈ Checked.all, d ≠ c → d.Passes env) :
    (∃ s, (ofEnvironment env).1 = .ok s) ↔ c.Accepts t := by
  rw [(verdict_ofEnvironment env).exists_ok_iff, ← Checked.passes_iff ht]
  constructor
  · intro h
    exact h c c.mem_all
  · intro h d hd
    by_cases hdc : d = c
    · exact hdc ▸ h
    · exact hothers d hd hdc

/-- Its fault is reported exactly if it cannot have its text. -/
theorem eq_error_iff_of_others (ht : c.text? env = some t)
    (hothers : ∀ d ∈ Checked.all, d ≠ c → d.Passes env) :
    (ofEnvironment env).1 = .error (c.fault env t) ↔ ¬ c.Accepts t := by
  constructor
  · intro h haccepts
    obtain ⟨s, hs⟩ := (exists_ok_iff_of_others ht hothers).2 haccepts
    rw [hs] at h
    cases h
  · intro h
    exact (verdict_ofEnvironment env).eq_error_iff.2
      (.of_others c.mem_all hothers ⟨t, ht, h, rfl⟩)

/-- The value of the one is what its text is read as, if that is one value only. -/
theorem exists_reading_iff_of_others {α : Type} {get : Settings → α} {reads : α → Prop}
    (ht : c.text? env = some t) (hothers : ∀ d ∈ Checked.all, d ≠ c → d.Passes env)
    (hget : ∀ s, Fits env s → reads (get s)) (hunique : ∀ a b, reads a → reads b → a = b) (a : α) :
    (∃ s, (ofEnvironment env).1 = .ok s ∧ get s = a) ↔ c.Accepts t ∧ reads a := by
  have hfits {s : Settings} (hs : (ofEnvironment env).1 = .ok s) : reads (get s) :=
    hget s ((verdict_ofEnvironment env).good_of_ok hs)
  constructor
  · rintro ⟨s, hs, rfl⟩
    exact ⟨(exists_ok_iff_of_others ht hothers).1 ⟨s, hs⟩, hfits hs⟩
  · rintro ⟨haccepts, ha⟩
    obtain ⟨s, hs⟩ := (exists_ok_iff_of_others ht hothers).2 haccepts
    exact ⟨s, hs, hunique _ _ (hfits hs) ha⟩

/-! ## Numbers -/

/-- A number within bounds is spelled exactly if it is written. -/
theorem exists_spells_iff {p : Nat → Prop} {n : Nat} :
    (∃ m, Numeral.Spells t m ∧ p m) ∧ Numeral.Spells t n ↔ Numeral.Writes t n ∧ p n := by
  rw [← Numeral.spells_iff_writes]
  constructor
  · rintro ⟨⟨m, hm, hp⟩, hn⟩
    exact ⟨hn, hm.unique hn ▸ hp⟩
  · rintro ⟨hn, hp⟩
    exact ⟨⟨n, hn, hp⟩, hn⟩

/-- The port among settings that pass. -/
theorem port_of_others (ht : env.get? portVariable = some t)
    (hothers : ∀ c ∈ Checked.all, c ≠ .port → c.Passes env) :
    (∀ n, (∃ s, (ofEnvironment env).1 = .ok s ∧ s.port = n) ↔
      Numeral.Writes t n ∧ n ≤ 65535) ∧
    ((ofEnvironment env).1 = .error (.port t) ↔ ¬ ∃ n, Numeral.Writes t n ∧ n ≤ 65535) := by
  have htext : Checked.port.text? env = some t := ht
  constructor
  · intro n
    have hget (s : Settings) (hs : Fits env s) : Numeral.Spells t s.port := by
      have hport := hs.port
      rwa [htext] at hport
    have hvalue := exists_reading_iff_of_others htext hothers hget
      (fun _ _ h h' => Numeral.Spells.unique h h') n
    exact hvalue.trans exists_spells_iff
  · have herror := eq_error_iff_of_others htext hothers
    simp only [← Numeral.spells_iff_writes]
    exact herror

/-- A timeout that is not blank is used without the white space around it. -/
theorem nonBlank?_of_not_blank {name : Text} (h : env.get? name = some t)
    (ht : t.isAllBlank = false) : nonBlank? env name = some (Text.trimBlank t) := by
  have hne : Text.trimBlank t ≠ [] := by
    intro hnil
    rw [Text.trimBlank_eq_nil_iff.1 hnil] at ht
    cases ht
  simp [nonBlank?, h, hne]

/-- The timeouts that are accepted are those that fit into a word of 64 bits, and not zero. -/
theorem accepts_timeout_iff :
    Checked.timeout.Accepts t ↔ ∃ n, Numeral.Spells t n ∧ 1 ≤ n ∧ n < 2 ^ 64 := by
  have hlimit (n : Nat) : n ≤ 18446744073709551615 ↔ n < 2 ^ 64 := by omega
  simp only [Checked.Accepts, hlimit]

/-- What is made of a timeout. -/
structure TimeoutRead (env : Environment) (t : Text) : Prop where
  value (n : Nat) : (∃ s, (ofEnvironment env).1 = .ok s ∧ s.timeout = some n) ↔
    Numeral.Writes (Text.trimBlank t) n ∧ 1 ≤ n ∧ n < 2 ^ 64
  unset : (∃ s, (ofEnvironment env).1 = .ok s ∧ s.timeout = none) ↔ t.isAllBlank = true
  fault : (ofEnvironment env).1 = .error (.timeout (Text.trimBlank t)) ↔ t.isAllBlank = false ∧
    ¬ ∃ n, Numeral.Writes (Text.trimBlank t) n ∧ 1 ≤ n ∧ n < 2 ^ 64

/-- A timeout that is not blank, among settings that pass. -/
theorem timeoutRead_of_not_blank (ht : env.get? timeoutVariable = some t)
    (hblank : t.isAllBlank = false)
    (hothers : ∀ c ∈ Checked.all, c ≠ .timeout → c.Passes env) : TimeoutRead env t := by
  have htext : Checked.timeout.text? env = some (Text.trimBlank t) :=
    nonBlank?_of_not_blank ht hblank
  have hget (s : Settings) (hs : Fits env s) : ReadsTimeout (Text.trimBlank t) s.timeout := by
    have htimeout := hs.timeout
    rwa [htext] at htimeout
  have hunique (a b : Option Nat) (ha : ReadsTimeout (Text.trimBlank t) a)
      (hb : ReadsTimeout (Text.trimBlank t) b) : a = b := by
    obtain ⟨m, rfl, hm⟩ := ha
    obtain ⟨n, rfl, hn⟩ := hb
    rw [hm.unique hn]
  have hvalue := exists_reading_iff_of_others htext hothers hget hunique
  constructor
  case value =>
    intro n
    have hreads : ReadsTimeout (Text.trimBlank t) (some n) ↔ Numeral.Spells (Text.trimBlank t) n := by
      simp [ReadsTimeout]
    rw [hvalue, accepts_timeout_iff, hreads]
    exact exists_spells_iff
  case unset =>
    rw [hvalue, hblank]
    apply iff_of_false _ Bool.false_ne_true
    rintro ⟨-, n, hnone, -⟩
    cases hnone
  case fault =>
    have herror := eq_error_iff_of_others htext hothers
    rw [accepts_timeout_iff] at herror
    simp only [Numeral.spells_iff_writes] at herror
    exact herror.trans (by simp [hblank])

/-- A blank timeout, among settings that pass. -/
theorem timeoutRead_of_blank (ht : env.get? timeoutVariable = some t) (hblank : t.isAllBlank = true)
    (hothers : ∀ c ∈ Checked.all, c ≠ .timeout → c.Passes env) : TimeoutRead env t := by
  have htext : Checked.timeout.text? env = none := nonBlank?_of_blank ht hblank
  have hpasses : ∀ c ∈ Checked.all, c.Passes env := by
    intro c hc
    by_cases htimeout : c = .timeout
    · intro u hu
      rw [htimeout, htext] at hu
      cases hu
    · exact hothers c hc htimeout
  obtain ⟨s, hs⟩ := (verdict_ofEnvironment env).exists_ok_iff.2 hpasses
  have hnone : s.timeout = none := by
    have hread := ((verdict_ofEnvironment env).good_of_ok hs).timeout
    rwa [htext] at hread
  have hwrites (n : Nat) : ¬ Numeral.Writes (Text.trimBlank t) n := by
    rw [trimBlank_of_blank hblank, ← Numeral.spells_iff_writes]
    exact Numeral.not_spells_of_blank rfl
  constructor
  case value =>
    intro n
    apply iff_of_false
    · rintro ⟨s', hs', hsome⟩
      obtain rfl : s = s' := Except.ok.inj (hs.symm.trans hs')
      rw [hnone] at hsome
      cases hsome
    · rintro ⟨h, -⟩
      exact hwrites n h
  case unset => exact iff_of_true ⟨s, hs, hnone⟩ hblank
  case fault =>
    apply iff_of_false
    · intro herror
      rw [hs] at herror
      cases herror
    · rintro ⟨hfalse, -⟩
      rw [hblank] at hfalse
      cases hfalse

/-- Where the other settings pass and there is no file of settings, a port is accepted exactly if its
text writes a number of at most 65535 in base ten, and is that number; otherwise its text is
reported.  A timeout is accepted in the same way without the white space around it, from 1 up to the
largest number below `2 ^ 64`; a blank one counts as unset, and any other text is reported.

All these numbers are found digit by digit in words of 16 and of 64 bits, which refuse a digit that
they have no room for. -/
theorem load_reads_numbers (env : Environment) (files : List (Option Bytes))
    (hfiles : ∀ file ∈ files, file = none) (t : Text) :
    (env.get? portVariable = some t → (∀ c ∈ Checked.all, c ≠ .port → c.Passes env) →
      (∀ n, (∃ s, (load env files).1 = .ok s ∧ s.port = n) ↔ Numeral.Writes t n ∧ n ≤ 65535) ∧
      ((load env files).1 = .error (.port t) ↔ ¬ ∃ n, Numeral.Writes t n ∧ n ≤ 65535)) ∧
    (env.get? timeoutVariable = some t → (∀ c ∈ Checked.all, c ≠ .timeout → c.Passes env) →
      (∀ n, (∃ s, (load env files).1 = .ok s ∧ s.timeout = some n) ↔
        Numeral.Writes (Text.trimBlank t) n ∧ 1 ≤ n ∧ n < 2 ^ 64) ∧
      ((∃ s, (load env files).1 = .ok s ∧ s.timeout = none) ↔ t.isAllBlank = true) ∧
      (t.isAllBlank = true → load env files = load (env.unset timeoutVariable) files) ∧
      ((load env files).1 = .error (.timeout (Text.trimBlank t)) ↔ t.isAllBlank = false ∧
        ¬ ∃ n, Numeral.Writes (Text.trimBlank t) n ∧ 1 ≤ n ∧ n < 2 ^ 64)) ∧
    Numeral.read? maxPort t = (Numeral.readWord? 16 t).map BitVec.toNat ∧
    Numeral.read? maxTimeout t = (Numeral.readWord? 64 t).map BitVec.toNat := by
  have hload (env : Environment) : load env files = ofEnvironment env := load_of_no_files hfiles
  rw [hload env]
  have hword : 4 ≤ 16 := by decide
  have hlongWord : 4 ≤ 64 := by decide
  refine ⟨port_of_others, ?_, Numeral.read?_eq_readWord? hword t,
    Numeral.read?_eq_readWord? hlongWord t⟩
  intro ht hothers
  have hunset (hblank : t.isAllBlank = true) :
      ofEnvironment env = load (env.unset timeoutVariable) files := by
    rw [hload]
    exact (ofEnvironment_congr
      (usedAlike_unset_of_blank (by decide) (nonBlank?_of_blank ht hblank))).symm
  have hread : TimeoutRead env t := by
    cases hblank : t.isAllBlank with
    | false => exact timeoutRead_of_not_blank ht hblank hothers
    | true => exact timeoutRead_of_blank ht hblank hothers
  exact ⟨hread.value, hread.unset, hunset, hread.fault⟩

/-- An environment with the largest port and the largest timeout, spelled with leading zeros. -/
def brimful : Environment :=
  [(portVariable, Utf8.encode "+00065535".toList),
    (timeoutVariable, Utf8.encode "\u3000018446744073709551615\t".toList)]

/-- Both numbers are accepted as they are, the timeout without the white space around it. -/
theorem load_reads_numbers_brimful :
    (∃ s, (load brimful [none]).1 = .ok s ∧ s.port = 65535) ∧
      (∃ s, (load brimful [none]).1 = .ok s ∧ s.timeout = some (2 ^ 64 - 1)) ∧
      ¬ (∃ s, (load brimful [none]).1 = .ok s ∧ s.timeout = none) := by
  have hport : Checked.port.text? brimful = some "+00065535".toList := by decide +kernel
  have htimeout : Checked.timeout.text? brimful = some "018446744073709551615".toList := by
    decide +kernel
  have hwritten : brimful.get? timeoutVariable =
      some "\u3000018446744073709551615\t".toList := by decide +kernel
  have htrimmed : Text.trimBlank "\u3000018446744073709551615\t".toList =
      "018446744073709551615".toList := by decide +kernel
  have hportWrites : Numeral.Writes "+00065535".toList 65535 :=
    ⟨[5, 3, 5, 5, 6, 0, 0, 0], by decide, by decide, .inr (by decide +kernel), by decide +kernel⟩
  have htimeoutWrites : Numeral.Writes "018446744073709551615".toList (2 ^ 64 - 1) :=
    ⟨[5, 1, 6, 1, 5, 5, 9, 0, 7, 3, 7, 0, 4, 4, 7, 6, 4, 4, 8, 1, 0], by decide, by decide,
      .inl (by decide +kernel), by decide +kernel⟩
  have hunset : ∀ c ∈ [Checked.billing, .orchestrationUi, .uiPrefix], c.text? brimful = none := by
    decide +kernel
  have hothers : ∀ c ∈ Checked.all, c.Passes brimful := by
    intro c _
    cases c with
    | port =>
      exact (Checked.passes_iff hport).2
        ⟨_, Numeral.spells_iff_writes.2 hportWrites, by decide⟩
    | timeout =>
      exact (Checked.passes_iff htimeout).2
        ⟨_, Numeral.spells_iff_writes.2 htimeoutWrites, by decide, by decide⟩
    | _ =>
      intro u hu
      rw [hunset _ (by decide)] at hu
      cases hu
  obtain ⟨hreadPort, -, -⟩ := load_reads_numbers brimful [none] (by simp) "+00065535".toList
  obtain ⟨-, hreadTimeout, -⟩ :=
    load_reads_numbers brimful [none] (by simp) "\u3000018446744073709551615\t".toList
  obtain ⟨hportValue, -⟩ := hreadPort hport fun c hc _ => hothers c hc
  obtain ⟨htimeoutValue, hnone, -⟩ := hreadTimeout hwritten fun c hc _ => hothers c hc
  rw [htrimmed] at htimeoutValue
  refine ⟨(hportValue _).2 ⟨hportWrites, by decide⟩,
    (htimeoutValue _).2 ⟨htimeoutWrites, by decide, by decide⟩, ?_⟩
  rw [hnone]
  decide +kernel

end Settings

end EdgeGateway
