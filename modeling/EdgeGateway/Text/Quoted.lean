import EdgeGateway.Text
import EdgeGateway.Unicode.Category

/-!
# Quoted text

A quoted text stands between double quotes and is safe to show: quotes and backslashes are escaped,
four control characters have escapes of their own, and every other character without a glyph of its
own is written by its number.

JSON quotes less.  The gateway writes it without blanks and keeps the order of members; in its
strings only quotes, backslashes and control characters below U+0020 are escaped.
-/

namespace EdgeGateway

/-! ## Texts that are shown -/

namespace Quoted

/-- The control characters. -/
def isControl (c : Char) : Bool :=
  c.toNat < 0x20 || (0x7F ≤ c.toNat && c.toNat ≤ 0x9F)

/-- The separators other than the space. -/
def isSeparator (c : Char) : Bool :=
  let n := c.toNat
  n == 0xA0 || n == 0x1680 || (0x2000 ≤ n && n ≤ 0x200A) || n == 0x2028 || n == 0x2029
    || n == 0x202F || n == 0x205F || n == 0x3000

/-- The characters that are written by their number. -/
def isNumbered (c : Char) : Bool :=
  isControl c || isSeparator c || Unicode.graphemeExtend.contains c
    || Unicode.unprintable.contains c

/-- The escape by number. -/
def numbered (c : Char) : Text :=
  ['\\', 'u', '\x7b'] ++ Text.hexadecimal c.toNat ++ ['\x7d']

/-- A character as it stands inside the quotes. -/
def escape (c : Char) : Text :=
  match c with
  | '"' => ['\\', '"']
  | '\\' => ['\\', '\\']
  | '\t' => ['\\', 't']
  | '\r' => ['\\', 'r']
  | '\n' => ['\\', 'n']
  | '\x00' => ['\\', '0']
  | c => if isNumbered c then numbered c else [c]

/-- The text between the quotes. -/
def inside (t : Text) : Text :=
  t.flatMap escape

/-- The quoted form of a text. -/
def encode (t : Text) : Text :=
  '"' :: inside t ++ ['"']

end Quoted

/-! ## JSON -/

namespace Json

/-- A hexadecimal digit, in lower case. -/
def hexDigit (n : Nat) : Char :=
  Nat.digitChar (n % 16)

/-- The escape of a control character by its number. -/
def numbered (c : Char) : Text :=
  ['\\', 'u', '0', '0', hexDigit (c.toNat / 16), hexDigit c.toNat]

/-- A character as it stands inside a string. -/
def escape (c : Char) : Text :=
  match c with
  | '"' => ['\\', '"']
  | '\\' => ['\\', '\\']
  | '\x08' => ['\\', 'b']
  | '\x0c' => ['\\', 'f']
  | '\n' => ['\\', 'n']
  | '\r' => ['\\', 'r']
  | '\t' => ['\\', 't']
  | c => if c.toNat < 0x20 then numbered c else [c]

/-- A string. -/
def string (t : Text) : Text :=
  '"' :: t.flatMap escape ++ ['"']

/-- A member of an object, from its name and the written form of its value. -/
def member (name value : Text) : Text :=
  string name ++ ':' :: value

/-- An object of members whose values are written already. -/
def object (members : List (Text × Text)) : Text :=
  '\x7b' :: [','].intercalate (members.map fun (name, value) => member name value) ++ ['\x7d']

end Json

end EdgeGateway
