import EdgeGateway.Text.Numeral
import EdgeGateway.Url.Basic

/-!
# Reading authorities

The authority of a URL is cut at its last `@` into user information and host, and the host behind
its brackets or before its first colon into name and port.

Main results:

- Theorem `splitHost_append`: the cut between host and port loses nothing.
-/

namespace EdgeGateway

namespace Url

/-- User information, host and port. -/
structure Authority where
  username : Text
  password : Text
  host : Host
  port : Option Nat
  deriving DecidableEq, Repr

/-- The text of a host and the text behind it: a host in brackets ends with its bracket, and any
other one before the first colon. -/
def splitHost (t : Text) : Text × Text :=
  if t.head? = some '[' then
    match Text.dropUntil (· == ']') t with
    | [] => (t, [])
    | close :: rest => (Text.takeUntil (· == ']') t ++ [close], rest)
  else (Text.takeUntil (· == ':') t, Text.dropUntil (· == ':') t)

theorem splitHost_append (t : Text) : (splitHost t).1 ++ (splitHost t).2 = t := by
  unfold splitHost
  split
  · have h := Text.takeUntil_append_dropUntil (· == ']') t
    split
    · simp
    · rename_i close rest hd
      rw [hd] at h
      simpa using h
  · exact Text.takeUntil_append_dropUntil _ t

/-- Reads the digits of a port; no digits, or the port that the scheme implies, count as none. -/
def port? (scheme digits : Text) : Option (Option Nat) :=
  if digits = [] then some none
  else
    (Numeral.read? 65535 digits).map fun n => if defaultPort? scheme = some n then none else some n

/-- The digits at the front of a text and the text behind them. -/
def splitDigits (t : Text) : Text × Text :=
  (t.takeWhile Numeral.isDigit, t.dropWhile Numeral.isDigit)

/-- The user information before the last `@`, if there is one, and the rest. -/
def splitUserinfo (t : Text) : Option Text × Text :=
  match t.splitLast? '@' with
  | none => (none, t)
  | some (before, after) => (some before, after)

/-- User name and password of a text; the first colon is between them. -/
def readUserinfo (t : Text) : Text × Text :=
  match t.splitFirst? ':' with
  | none => (Percent.encode Percent.userinfoSet t, [])
  | some (username, password) =>
    (Percent.encode Percent.userinfoSet username, Percent.encode Percent.userinfoSet password)

/-- The host, the port and what is left of the text behind them; the port of a URL without special
rules may be cut off by a backslash. -/
def hostAndPort? (scheme : Text) (t : Text) : Option (Host × Option Nat × Text) := do
  let (name, rest) := splitHost t
  let host ← if isSpecialScheme scheme then Host.parseSpecial? name else Host.parseOther? name
  match rest with
  | [] => return (host, none, [])
  | ':' :: written =>
    let (digits, left) := splitDigits written
    guard (host ≠ Host.empty)
    guard (left = [] ∨ (isSpecialScheme scheme = false ∧ left.head? = some '\\'))
    let port ← port? scheme digits
    return (host, port, left)
  | _ => none

/-- Reads an authority; `more` says that something of the URL stands behind it.  User information
needs a host, and an `@` in front needs one when more follows. -/
def authority? (scheme : Text) (more : Bool) (t : Text) : Option (Authority × Text) := do
  let (userinfo, rest) := splitUserinfo t
  let (host, port, left) ← hostAndPort? scheme rest
  let (username, password) := readUserinfo (userinfo.getD [])
  guard (host ≠ Host.empty ∨ (username = [] ∧ password = [] ∧ ¬ (userinfo = some [] ∧ more = true)))
  return (⟨username, password, host, port⟩, left)

end Url

end EdgeGateway
