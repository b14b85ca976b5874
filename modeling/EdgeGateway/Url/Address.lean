import EdgeGateway.Text

/-!
# Numeric addresses

A host may be written as a number.  An IPv4 address has one to four parts in decimal, octal or
hexadecimal notation, of which the last fills up the remaining bytes; an IPv6 address has eight
pieces of sixteen bits, of which one run of zeros may be left out.
-/

namespace EdgeGateway

namespace Url

/-! ## IPv4 -/

namespace Ipv4

/-- The digits of a part and the base they are in. -/
def notation? (part : Text) : Option (Nat × Text) :=
  match part with
  | [] => none
  | '0' :: 'x' :: digits => some (16, digits)
  | '0' :: 'X' :: digits => some (16, digits)
  | '0' :: d :: digits => some (8, d :: digits)
  | digits => some (10, digits)

/-- A digit of a base. -/
def isDigit (base : Nat) (c : Char) : Bool :=
  (Text.digitValue? c).any (· < base)

/-- The number that a part spells; no digits at all after a base mark spell zero. -/
def number? (part : Text) : Option Nat :=
  (notation? part).bind fun (base, digits) =>
    if digits.all (isDigit base) then some (Text.ofDigits base digits) else none

/-- The parts of a host between dots; one dot at the end does not count. -/
def parts (host : Text) : List Text :=
  let all := Text.segments (· == '.') host
  if 1 < all.length ∧ all.getLast? = some [] then all.dropLast else all

/-- A host whose last part is a number can only be an address. -/
def looksNumeric (host : Text) : Bool :=
  match (parts host).getLast? with
  | none => false
  | some last => (last ≠ [] && last.all (isDigit 10)) || (number? last).isSome

/-- How many numbers some bytes can hold. -/
def capacity (bytes : Nat) : Nat :=
  Nat.pow 256 bytes

/-- The address that numbers stand for: the last one fills the bytes that the others leave. -/
def combine? (numbers : List Nat) : Option Nat :=
  match numbers.getLast? with
  | none => none
  | some last =>
    let leading := numbers.dropLast
    let room := capacity (4 - leading.length)
    if leading.length ≤ 3 ∧ leading.all (· ≤ 255) ∧ last < room then
      some (leading.foldl (fun sum n => sum * 256 + n) 0 * room + last)
    else none

/-- Reads an address. -/
def parse? (host : Text) : Option Nat :=
  ((parts host).mapM number?).bind combine?

/-- The four bytes of an address in decimal. -/
def text (address : Nat) : Text :=
  ['.'].intercalate <| [3, 2, 1, 0].map fun place =>
    Text.decimal (address / capacity place % 256)

end Ipv4

/-! ## IPv6 -/

namespace Ipv6

/-- A piece of one to four hexadecimal digits. -/
def piece? (t : Text) : Option Nat :=
  if 1 ≤ t.length ∧ t.length ≤ 4 ∧ t.all (Ipv4.isDigit 16) then some (Text.ofDigits 16 t) else none

/-- A byte in decimal without leading zeros. -/
def byte? (t : Text) : Option Nat :=
  if t ≠ [] ∧ t.all (Ipv4.isDigit 10) ∧ (t.length = 1 ∨ t.head? ≠ some '0')
    ∧ Text.ofDigits 10 t ≤ 255 then some (Text.ofDigits 10 t) else none

/-- The two pieces of four bytes in dotted notation. -/
def dotted? (t : Text) : Option (List Nat) :=
  match (Text.segments (· == '.') t).mapM byte? with
  | some [a, b, c, d] => some [a * 256 + b, c * 256 + d]
  | _ => none

/-- The pieces of a text with colons between them; the last one may be in dotted notation. -/
def group? (t : Text) : Option (List Nat) :=
  if t = [] then some []
  else
    let all := Text.segments (· == ':') t
    let last := all.getLast?.getD []
    if last.contains '.' then
      (all.dropLast.mapM piece?).bind fun pieces => (dotted? last).map (pieces ++ ·)
    else all.mapM piece?

/-- The texts before and after the first two colons in a row. -/
def splitAtGap? : Text → Option (Text × Text)
  | [] => none
  | ':' :: ':' :: after => some ([], after)
  | c :: rest => (splitAtGap? rest).map fun (before, after) => (c :: before, after)

/-- The eight pieces of an address. -/
def pieces? (t : Text) : Option (List Nat) :=
  match splitAtGap? t with
  | none =>
    match group? t with
    | some pieces => if pieces.length = 8 then some pieces else none
    | none => none
  | some (before, after) =>
    if before.contains '.' then none
    else
      match group? before, group? after with
      | some left, some right =>
        if left.length + right.length ≤ 7 then
          some (left ++ List.replicate (8 - (left.length + right.length)) 0 ++ right)
        else none
      | _, _ => none

/-- The start and the length of the first longest run of zeros, reading on from an index with the
run that is open there and the best one before it. -/
def longestZeros (index start : Nat) (best : Nat × Nat) : List Nat → Nat × Nat
  | [] => if best.2 < index - start then (start, index - start) else best
  | n :: rest =>
    if n = 0 then longestZeros (index + 1) start best rest
    else
      let best := if best.2 < index - start then (start, index - start) else best
      longestZeros (index + 1) (index + 1) best rest

/-- Pieces in hexadecimal with colons between them. -/
def join (pieces : List Nat) : Text :=
  [':'].intercalate (pieces.map Text.hexadecimal)

/-- The written form of an address, with its first longest run of zeros left out if that is longer
than one piece. -/
def text (pieces : List Nat) : Text :=
  let (start, length) := longestZeros 0 0 (0, 0) pieces
  if 1 < length then join (pieces.take start) ++ [':', ':'] ++ join (pieces.drop (start + length))
  else join pieces

end Ipv6

end Url

end EdgeGateway
