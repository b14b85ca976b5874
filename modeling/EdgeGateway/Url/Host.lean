import EdgeGateway.Idna.ToAscii
import EdgeGateway.Url.Address
import EdgeGateway.Url.Percent

/-!
# Hosts

The host of a special URL is a domain name, which is brought into its ASCII form, or an address; the
host of another URL is kept as it is written, up to percent-encoding.
-/

namespace EdgeGateway

namespace Url

/-- What names the machine that a URL points to. -/
inductive Host where
  | domain (name : Text)
  | ipv4 (address : Nat)
  | ipv6 (pieces : List Nat)
  /-- The host of a scheme without special treatment; it may be empty. -/
  | other (name : Text)
  deriving DecidableEq, Repr

namespace Host

/-- The host that is written as nothing. -/
def empty : Host := .other []

/-- The written form of a host. -/
def text : Host → Text
  | .domain name => name
  | .ipv4 address => Ipv4.text address
  | .ipv6 pieces => '[' :: Ipv6.text pieces ++ [']']
  | .other name => name

/-- Characters that no domain name contains. -/
def isForbidden (c : Char) : Bool :=
  c.toNat ≤ 0x20 || c.toNat == 0x7F || "#/:<>?@[\\]^|%".toList.contains c

/-- Characters that no other host contains. -/
def isForbiddenInOther (c : Char) : Bool :=
  "\x00\t\n\r #/:<>?@[\\]^|".toList.contains c

/-- The inside of a text in square brackets. -/
def bracketed? (t : Text) : Option Text :=
  if t.length ≥ 2 ∧ t.getLast? = some ']' then some (t.tail.dropLast) else none

/-- Reads an IPv6 address in square brackets. -/
def parseBracketed? (t : Text) : Option Host :=
  ((bracketed? t).bind Ipv6.pieces?).map .ipv6

/-- The ASCII form of a domain name with percent-encoded characters; it is not empty. -/
def parseDomain? (t : Text) : Option Text :=
  match (Percent.decode? t).bind (Idna.toAscii? isForbidden) with
  | some [] | none => none
  | some name => some name

/-- Reads the host of a special URL. -/
def parseSpecial? (t : Text) : Option Host :=
  if t.head? = some '[' then parseBracketed? t
  else
    match parseDomain? t with
    | none => none
    | some name =>
      if Ipv4.looksNumeric name then (Ipv4.parse? name).map .ipv4 else some (.domain name)

/-- Reads the host of another URL. -/
def parseOther? (t : Text) : Option Host :=
  if t.head? = some '[' then parseBracketed? t
  else if t.any isForbiddenInOther then none
  else some (.other (Percent.encode Percent.controlSet t))

end Host

end Url

end EdgeGateway
