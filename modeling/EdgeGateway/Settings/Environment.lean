import EdgeGateway.Text.Utf8

/-!
# Environment variables

The environment of a process gives values to names.  A value is any sequence of bytes, but only
values that are text are ever used: any other counts as unset.

An environment is kept as entries `name=value`, and what is looked up is the text in front of an
equals sign.  The text that is looked up may therefore reach into a value: where `A` is `b=c`, the
value of `A=b` is `c`.

Main results:

- Theorem `get?_set`: a variable that is set has its new value, and all others keep theirs.
-/

namespace EdgeGateway

/-- The variables of a process; of several values for a name the first one counts. -/
abbrev Environment := List (Text × Bytes)

namespace Environment

/-- The bytes behind a name and an equals sign. -/
def bytes? (env : Environment) (name : Text) : Option Bytes :=
  match name.splitFirst? '=' with
  | none => env.lookup name
  | some (front, inside) =>
    (env.lookup front).bind fun value => (Utf8.encode (inside ++ ['='])).isPrefixOf? value

/-- The value of a variable, when it is text. -/
def get? (env : Environment) (name : Text) : Option Text :=
  (env.bytes? name).bind Utf8.decode?

theorem get?_eq_lookup {name : Text} (env : Environment) (h : '=' ∉ name) :
    env.get? name = (env.lookup name).bind Utf8.decode? := by
  simp [get?, bytes?, Text.splitFirst?_eq_none h]

/-- Gives a value to a variable. -/
def set (env : Environment) (name value : Text) : Environment :=
  (name, Utf8.encode value) :: env

/-- The entry of a variable in an environment block: a name, an equals sign and the value. -/
def entry? (bytes : Bytes) : Option (Text × Bytes) :=
  match bytes.dropWhile (· != 61) with
  | [] => none
  | _ :: value => (Utf8.decode? (bytes.takeWhile (· != 61))).map fun name => (name, value)

/-- The environment in a block of entries that each end in a zero byte. -/
def ofBlock (bytes : Bytes) : Environment :=
  (bytes.splitOn 0).filterMap entry?

theorem get?_set (env : Environment) (name value : Text) {other : Text} (h : '=' ∉ other) :
    (env.set name value).get? other = if other = name then some value else env.get? other := by
  rw [get?_eq_lookup _ h, get?_eq_lookup _ h]
  by_cases heq : other = name
  · simp [set, heq, Utf8.decode?_encode]
  · have hb : (other == name) = false := by simp [heq]
    simp [set, List.lookup_cons, heq, hb]

end Environment

end EdgeGateway
