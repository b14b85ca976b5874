import EdgeGateway.Text
import EdgeGateway.Unicode.Category

/-!
# Values with references

In a file of settings a value is written as shells write words: single quotes keep everything,
double quotes keep blanks, a backslash keeps the character behind it, and a dollar sign refers to
another variable, whose name may stand in braces.  A comment may follow behind a blank.

What is read is a list of pieces; the references among them are looked up later.
-/

namespace EdgeGateway

namespace Template

/-- A part of a value. -/
inductive Piece where
  | char (c : Char)
  | reference (name : Text)
  deriving DecidableEq, Repr

/-! ## Reading -/

/-- What the reader is in the middle of. -/
inductive Mode where
  /-- Between the other modes, inside double quotes or not. -/
  | plain
  /-- Inside single quotes. -/
  | literal
  /-- Behind a backslash. -/
  | escape
  /-- In a name behind a dollar sign. -/
  | name (sofar : Text)
  /-- In a name in braces. -/
  | braced (sofar : Text)
  /-- Behind a blank that ended the value. -/
  | ending
  deriving DecidableEq, Repr

/-- The blanks that end a value. -/
def isGap (c : Char) : Bool :=
  c == ' ' || c == '\t'

/-- The character that stands behind a backslash, if it may stand there. -/
def escaped? (c : Char) : Option Char :=
  if c = 'n' then some '\n'
  else if "\\'\"$ ".toList.contains c then some c
  else none

/-- What is left when the text ends in a mode; open quotes and braces may not be left. -/
def finish? (quoted : Bool) (mode : Mode) : Option (List Piece) :=
  match mode with
  | .literal => none
  | .braced _ => none
  | .name sofar => if quoted then none else some [.reference sofar]
  | .plain => if quoted then none else some []
  | .escape => if quoted then none else some []
  | .ending => if quoted then none else some []

/-- What a character means in a mode: the pieces that are complete now and how to go on. -/
def step? (quoted : Bool) (mode : Mode) (c : Char) : Option (List Piece × Bool × Mode) :=
  match mode with
  | .literal =>
    if c = '\x27' then some ([], quoted, .plain) else some ([.char c], quoted, .literal)
  | .escape => (escaped? c).map fun d => ([.char d], quoted, .plain)
  | .name sofar =>
    if Unicode.alphanumeric.contains c then some ([], quoted, .name (sofar ++ [c]))
    else if c = '\x7b' ∧ sofar = [] then some ([], quoted, .braced [])
    else if c = '$' then some ([.reference sofar], quoted, .name [])
    else some ([.reference sofar, .char c], quoted, .plain)
  | .braced sofar =>
    if c = '\x7d' then some ([.reference sofar], quoted, .plain)
    else some ([], quoted, .braced (sofar ++ [c]))
  | .ending => if isGap c then some ([], quoted, .ending) else none
  | .plain =>
    if c = '$' then some ([], quoted, .name [])
    else if c = '\\' then some ([], quoted, .escape)
    else if c = '"' then some ([], !quoted, .plain)
    else if quoted then some ([.char c], quoted, .plain)
    else if c = '\x27' then some ([], quoted, .literal)
    else if isGap c then some ([], quoted, .ending)
    else some ([.char c], quoted, .plain)

/-- Reads the rest of a value from inside a mode. -/
def readFrom? (quoted : Bool) (mode : Mode) : Text → Option (List Piece)
  | [] => finish? quoted mode
  | c :: rest =>
    if mode = .ending ∧ c = '#' then some []
    else
      match step? quoted mode c with
      | none => none
      | some (pieces, quoted, mode) => (readFrom? quoted mode rest).map (pieces ++ ·)

/-- Reads a value. -/
def read? (t : Text) : Option (List Piece) :=
  readFrom? false .plain t

/-- The characters that stand for themselves outside of quotes. -/
def isPlain (c : Char) : Bool :=
  c != '$' && c != '\\' && c != '"' && c != '\x27' && !isGap c

/-! ## Expansion -/

/-- The text of a piece, from the values of names. -/
def Piece.text (value : Text → Text) : Piece → Text
  | .char c => [c]
  | .reference name => value name

/-- The text of a template, from the values of names. -/
def expand (value : Text → Text) (pieces : List Piece) : Text :=
  pieces.flatMap (Piece.text value)

end Template

end EdgeGateway
