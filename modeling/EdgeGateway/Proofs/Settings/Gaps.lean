import EdgeGateway.Proofs.Settings.Acceptance

/-!
# Files of settings fill gaps

A file of settings is carried out line by line, and each line may refer to what the lines in front
of it have set.  Once a variable has a value it keeps it to the end, so that a line for such a
variable does nothing: neither to the variable nor to the lines behind it.

Main results:

- Theorem `get?_carryOut`: a value that a variable has is kept to the end of the file.
- Theorem `carryOut_insert`: a line for a variable that has a value may as well be left out.
- Theorem `carryOut_of_malformed`: nothing behind a line that cannot be read is carried out.
- Theorem `load_fills_gaps`: what this means for the settings of a process and their events.
-/

namespace EdgeGateway

namespace Settings

/-! ## Lines of a file -/

/-- The lines of a file; a line break at the end of the file begins no further line. -/
def lines (file : Bytes) : List Bytes :=
  if (file.splitOn lineBreak).getLast? = some [] then (file.splitOn lineBreak).dropLast
  else file.splitOn lineBreak

/-- The environment after some lines. -/
def carryOut (env : Environment) (ls : List Bytes) : Environment :=
  (assignmentsOf (ls.map Line.ofBytes)).foldl assign env

/-- An empty line is blank. -/
theorem ofBytes_nil : Line.ofBytes [] = .blank := by
  have hdecode : Utf8.decode? [] = some [] := Utf8.decode?_encode []
  rw [Line.ofBytes, hdecode]
  rfl

/-- A line at the end assigns nothing unless it is an assignment. -/
theorem assignmentsOf_concat (ls : List Line) {last : Line} (h : ∀ a, last ≠ .assignment a) :
    assignmentsOf (ls ++ [last]) = assignmentsOf ls := by
  induction ls with
  | nil =>
    cases last with
    | blank => rfl
    | malformed => rfl
    | assignment a => exact absurd rfl (h a)
  | cons l rest ih => cases l <;> simp [assignmentsOf, ih]

/-- A file is carried out line by line. -/
theorem applyFile_eq_carryOut (env : Environment) (file : Bytes) :
    applyFile env file = carryOut env (lines file) := by
  unfold applyFile carryOut lines
  split
  · rename_i hlast
    obtain ⟨front, hfront⟩ := List.getLast?_eq_some_iff.1 hlast
    rw [assignments, hfront, List.map_append, List.map_singleton, ofBytes_nil,
      assignmentsOf_concat _ (by simp), List.dropLast_concat]
  · rfl

/-! ## One line -/

variable {env : Environment}

/-- A line for a variable that has a value does nothing. -/
theorem assign_of_isSome {a : Assignment} (h : (env.get? a.name).isSome = true) :
    assign env a = env := by
  rw [assign, if_pos h]

/-- A value that a variable has is kept by a line. -/
theorem get?_assign {name value : Text} (a : Assignment) (hname : '=' ∉ name)
    (h : env.get? name = some value) : (assign env a).get? name = some value := by
  rw [get?_assign_of_isSome a hname, h]
  rw [h]
  rfl

/-! ## Many lines -/

/-- A value that a variable has is kept by all lines. -/
theorem get?_foldl_assign {name value : Text} (hname : '=' ∉ name) (as : List Assignment)
    (h : env.get? name = some value) : (as.foldl assign env).get? name = some value := by
  induction as generalizing env with
  | nil => exact h
  | cons a rest ih => exact ih (get?_assign a hname h)

/-- Lines in front are assigned first, whatever follows. -/
theorem assignmentsOf_prefix (before rest : List Line) :
    assignmentsOf before <+: assignmentsOf (before ++ rest) := by
  induction before with
  | nil => exact List.nil_prefix
  | cons l before ih =>
    cases l with
    | blank => exact ih
    | malformed => exact List.prefix_rfl
    | assignment a => exact (List.prefix_cons_inj a).2 ih

/-- Lines that can all be read are followed by what follows. -/
theorem assignmentsOf_append {before : List Line} (rest : List Line)
    (h : ∀ l ∈ before, l ≠ .malformed) :
    assignmentsOf (before ++ rest) = assignmentsOf before ++ assignmentsOf rest := by
  induction before with
  | nil => rfl
  | cons l before ih =>
    have hrest := ih fun l hl => h l (List.mem_cons_of_mem _ hl)
    cases l with
    | blank => exact hrest
    | malformed => exact absurd rfl (h .malformed List.mem_cons_self)
    | assignment a => exact congrArg (a :: ·) hrest

/-- A value that a variable has after some lines of a file is kept to the end. -/
theorem get?_carryOut {name value : Text} (before rest : List Bytes) (hname : '=' ∉ name)
    (h : (carryOut env before).get? name = some value) :
    (carryOut env (before ++ rest)).get? name = some value := by
  obtain ⟨more, hmore⟩ :=
    assignmentsOf_prefix (before.map Line.ofBytes) (rest.map Line.ofBytes)
  rw [carryOut, List.map_append, ← hmore, List.foldl_append]
  exact get?_foldl_assign hname more h

/-- Lines behind lines that can all be read are carried out behind them. -/
theorem carryOut_append {before : List Bytes} (rest : List Bytes)
    (h : ∀ l ∈ before, Line.ofBytes l ≠ .malformed) :
    carryOut env (before ++ rest) = carryOut (carryOut env before) rest := by
  have hread : ∀ l ∈ before.map Line.ofBytes, l ≠ .malformed := by
    intro l hl
    obtain ⟨bytes, hbytes, rfl⟩ := List.mem_map.1 hl
    exact h bytes hbytes
  rw [carryOut, List.map_append, assignmentsOf_append _ hread, List.foldl_append]
  rfl

/-- A line for a variable that has a value by then may as well be left out. -/
theorem carryOut_insert {before rest : List Bytes} {l : Bytes} {a : Assignment}
    (hbefore : ∀ l ∈ before, Line.ofBytes l ≠ .malformed) (hl : Line.ofBytes l = .assignment a)
    (h : ((carryOut env before).get? a.name).isSome = true) :
    carryOut env (before ++ l :: rest) = carryOut env (before ++ rest) := by
  rw [carryOut_append _ hbefore, carryOut_append _ hbefore]
  have hstep : carryOut (carryOut env before) (l :: rest) =
      carryOut (assign (carryOut env before) a) rest := by
    rw [carryOut, List.map_cons, hl]
    rfl
  rw [hstep, assign_of_isSome h]

/-- Nothing behind a line that cannot be read is carried out, and neither is the line. -/
theorem carryOut_of_malformed {before rest : List Bytes} {bad : Bytes}
    (h : Line.ofBytes bad = .malformed) :
    carryOut env (before ++ bad :: rest) = carryOut env before := by
  rw [carryOut, List.map_append, List.map_cons, h, assignments_append_malformed,
    assignmentsOf_concat _ (by simp), carryOut]

/-! ## Processes -/

/-- A process that finds a file carries out its lines. -/
theorem load_of_nearest {files : List (Option Bytes)} {file : Bytes}
    (h : nearest files = some file) :
    load env files = ofEnvironment (carryOut env (lines file)) := by
  rw [load, loadFiles, h, ← applyFile_eq_carryOut]

/-- A variable that has a value when the process begins keeps it. -/
theorem get?_loadFiles {name value : Text} (files : List (Option Bytes)) (hname : '=' ∉ name)
    (h : env.get? name = some value) : (loadFiles env files).get? name = some value := by
  unfold loadFiles
  cases nearest files with
  | none => exact h
  | some file => exact get?_foldl_assign hname _ h

/-- A process whose variables all have values reads no others. -/
theorem load_of_all_set (files : List (Option Bytes))
    (h : ∀ name ∈ variableNames, (env.get? name).isSome = true) : load env files = load env [] := by
  have halike : UsedAlike (loadFiles env files) env := by
    apply usedAlike_of_get?
    intro name hname
    obtain ⟨value, hvalue⟩ := Option.isSome_iff_exists.1 (h name hname)
    rw [get?_loadFiles files (equals_not_mem hname) hvalue, hvalue]
  exact ofEnvironment_congr halike

/-- A file of settings fills the gaps that it finds, and its faults do not matter.

What a variable has been given, by the process or by a line, it keeps to the end, be it blank.  So a
line for a variable that has a value, put in where every line can still be read, changes neither the
settings nor the events, whatever the lines behind it refer to.  The lines behind one that cannot be
read do not matter, and neither does a file further away.  Where the process has given a value to
every variable that settings are read from, no file matters. -/
theorem load_fills_gaps (env : Environment) (files : List (Option Bytes)) :
    (∀ name value, '=' ∉ name → env.get? name = some value →
      (loadFiles env files).get? name = some value) ∧
    (∀ file before rest name value, nearest files = some file → lines file = before ++ rest →
      '=' ∉ name → (carryOut env before).get? name = some value →
      (loadFiles env files).get? name = some value) ∧
    (∀ files' file file' before l rest a, nearest files = some file → nearest files' = some file' →
      lines file = before ++ rest → lines file' = before ++ l :: rest →
      (∀ l ∈ before, Line.ofBytes l ≠ .malformed) → Line.ofBytes l = .assignment a →
      ((carryOut env before).get? a.name).isSome = true →
      load env files' = load env files) ∧
    (∀ files' file file' before bad bad' rest rest',
      nearest files = some file → nearest files' = some file' →
      lines file = before ++ bad :: rest → lines file' = before ++ bad' :: rest' →
      Line.ofBytes bad = .malformed → Line.ofBytes bad' = .malformed →
      load env files' = load env files) ∧
    (∀ own farther, load env (some own :: files) = load env (some own :: farther)) ∧
    ((∀ name ∈ variableNames, (env.get? name).isSome = true) → load env files = load env []) := by
  refine ⟨?_, ?_, ?_, ?_, ?_, ?_⟩
  · intro name value hname hvalue
    exact get?_loadFiles files hname hvalue
  · intro file before rest name value hfile hlines hname hvalue
    rw [loadFiles, hfile]
    show (applyFile env file).get? name = some value
    rw [applyFile_eq_carryOut, hlines]
    exact get?_carryOut before rest hname hvalue
  · intro files' file file' before l rest a hfile hfile' hlines hlines' hbefore hl hset
    rw [load_of_nearest hfile, load_of_nearest hfile', hlines, hlines',
      carryOut_insert hbefore hl hset]
  · intro files' file file' before bad bad' rest rest' hfile hfile' hlines hlines' hbad hbad'
    rw [load_of_nearest hfile, load_of_nearest hfile', hlines, hlines',
      carryOut_of_malformed hbad, carryOut_of_malformed hbad']
  · intro own farther
    have hnearest (outer : List (Option Bytes)) : nearest (some own :: outer) = some own := rfl
    rw [load_of_nearest (hnearest files), load_of_nearest (hnearest farther)]
  · exact load_of_all_set files

/-- A file that sets the prefix by way of another variable. -/
def indirect : Bytes :=
  Utf8.encode "A=x\nUI_PROXY_PREFIX=$A\n".toList

/-- The same file with another value for that variable in between. -/
def repeated : Bytes :=
  Utf8.encode "A=x\nexport A='y'\nUI_PROXY_PREFIX=$A\n".toList

/-- The same file with a line that cannot be read in between. -/
def interrupted : Bytes :=
  Utf8.encode "A=x\n?\nUI_PROXY_PREFIX=$A\n".toList

/-- A file that ends with a line that is no text. -/
def cutOff : Bytes :=
  Utf8.encode "A=x\n".toList ++ [255]

/-- An environment that gives an empty value to every variable. -/
def emptied : Environment :=
  variableNames.map fun name => (name, [])

/-- The second value of a variable changes nothing, and neither does what stands behind a line that
cannot be read; an empty value that the process has given is kept. -/
theorem load_fills_gaps_indirect :
    load [] [none, some repeated] = load [] [some indirect, some interrupted] ∧
      load [] [some cutOff] = load [] [none, some interrupted] ∧
      (loadFiles emptied [some indirect]).get? uiPrefixVariable = some [] ∧
      load emptied [some indirect] = load emptied [] := by
  have hindirect := load_fills_gaps [] [some indirect, some interrupted]
  have hinterrupted := load_fills_gaps [] [none, some interrupted]
  have hemptied := load_fills_gaps emptied [some indirect]
  obtain ⟨-, -, hinsert, -, -, -⟩ := hindirect
  obtain ⟨-, -, -, hignored, -, -⟩ := hinterrupted
  obtain ⟨hkept, -, -, -, -, hcomplete⟩ := hemptied
  refine ⟨?_, ?_, ?_, ?_⟩
  · exact hinsert [none, some repeated] indirect repeated [Utf8.encode "A=x".toList]
      (Utf8.encode "export A='y'".toList) [Utf8.encode "UI_PROXY_PREFIX=$A".toList]
      ⟨"A".toList, [.char 'y']⟩ rfl rfl (by decide +kernel) (by decide +kernel)
      (by decide +kernel) (by decide +kernel) (by decide +kernel)
  · exact hignored [some cutOff] interrupted cutOff [Utf8.encode "A=x".toList]
      (Utf8.encode "?".toList) [255] [Utf8.encode "UI_PROXY_PREFIX=$A".toList] [] rfl rfl
      (by decide +kernel) (by decide +kernel) (by decide +kernel) (by decide +kernel)
  · exact hkept uiPrefixVariable [] (by decide) (by decide +kernel)
  · exact hcomplete (by decide +kernel)

end Settings

end EdgeGateway
