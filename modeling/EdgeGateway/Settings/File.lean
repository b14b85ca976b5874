import EdgeGateway.Settings.Environment
import EdgeGateway.Settings.Template
import EdgeGateway.Text

/-!
# Files of settings

A file of settings gives values to variables, one on each line.  It only fills gaps: a variable
that has a value keeps it.  The first line that cannot be read ends the file without a complaint.

Main results:

- Theorem `assignments_append_malformed`: what stands behind a line that cannot be read is ignored.
- Theorem `get?_assign_of_isSome`: a variable that has a value keeps it.
-/

namespace EdgeGateway

namespace Settings

/-! ## Lines -/

/-- A value for a variable. -/
structure Assignment where
  name : Text
  value : List Template.Piece
  deriving DecidableEq, Repr

/-- What a line says. -/
inductive Line where
  | blank
  | assignment (a : Assignment)
  | malformed
  deriving DecidableEq, Repr

namespace Line

/-- The characters that names begin with. -/
def isNameStart (c : Char) : Bool :=
  c.isAlpha || c == '_'

/-- The characters of names. -/
def isNameChar (c : Char) : Bool :=
  c.isAlphanum || c == '_' || c == '.'

/-- The name in front of a text, and the text behind it and behind the blanks that follow. -/
def takeName? (t : Text) : Option (Text × Text) :=
  if t.head?.any isNameStart then
    some (t.takeWhile isNameChar, Text.trimBlankStart (t.dropWhile isNameChar))
  else none

/-- Nothing stands here, or only a comment. -/
def isVoid (t : Text) : Bool :=
  t.isEmpty || t.head? == some '#'

/-- Reads what stands behind the name of a variable. -/
def ofRest (name rest : Text) : Line :=
  match rest with
  | '=' :: written =>
    let value := Text.trimBlankStart written
    if isVoid value then .assignment ⟨name, []⟩
    else
      match Template.read? value with
      | some pieces => .assignment ⟨name, pieces⟩
      | none => .malformed
  | _ => .malformed

/-- A word that may stand in front of the name of a variable. -/
def exportWord : Text := "export".toList

/-- Reads a line. -/
def ofText (t : Text) : Line :=
  let t := Text.trimBlank t
  if isVoid t then .blank
  else
    match takeName? t with
    | none => .malformed
    | some (name, rest) =>
      if name = exportWord ∧ rest.head? ≠ some '=' then
        match takeName? rest with
        | none => .malformed
        | some (name, rest) => ofRest name rest
      else ofRest name rest

/-- Reads the bytes of a line. -/
def ofBytes (bytes : Bytes) : Line :=
  match Utf8.decode? bytes with
  | some t => ofText t
  | none => .malformed

end Line

/-! ## Files -/

/-- The byte between two lines. -/
def lineBreak : UInt8 := 10

/-- The assignments of the lines up to the first one that cannot be read. -/
def assignmentsOf : List Line → List Assignment
  | [] => []
  | .blank :: rest => assignmentsOf rest
  | .assignment a :: rest => a :: assignmentsOf rest
  | .malformed :: _ => []

/-- The assignments of a file. -/
def assignments (file : Bytes) : List Assignment :=
  assignmentsOf ((file.splitOn lineBreak).map Line.ofBytes)

theorem assignments_append_malformed (before behind : List Line) :
    assignmentsOf (before ++ .malformed :: behind) = assignmentsOf (before ++ [.malformed]) := by
  induction before with
  | nil => rfl
  | cons l rest ih => cases l <;> simp [assignmentsOf, ih]

/-- Carries out an assignment; a variable without a value counts as empty where it is referred
to. -/
def assign (env : Environment) (a : Assignment) : Environment :=
  if (env.get? a.name).isSome then env
  else env.set a.name (Template.expand (fun name => (env.get? name).getD []) a.value)

/-- Carries out the assignments of a file in their order. -/
def applyFile (env : Environment) (file : Bytes) : Environment :=
  (assignments file).foldl assign env

theorem get?_assign_of_isSome {env : Environment} {name : Text} (a : Assignment)
    (hname : '=' ∉ name) (h : (env.get? name).isSome = true) :
    (assign env a).get? name = env.get? name := by
  unfold assign
  split
  · rfl
  · rename_i hn
    rw [Environment.get?_set _ _ _ hname, if_neg]
    rintro rfl
    exact hn h

/-- Of the files in a directory and in the directories around it, the nearest one is used. -/
def nearest (files : List (Option Bytes)) : Option Bytes :=
  files.findSome? id

/-- The environment of a process that has read its file of settings. -/
def loadFiles (env : Environment) (files : List (Option Bytes)) : Environment :=
  match nearest files with
  | some file => applyFile env file
  | none => env

end Settings

end EdgeGateway
