import EdgeGateway.Text.Utf8

/-!
# Request targets

A request names what it wants by a path and a query.  The target may be written with a scheme and
an authority in front, as an authority alone, or as an asterisk; a fragment is dropped.  Nothing is
decoded or normalised.

Main results:

- Theorem `cut_append`: cutting a target at a byte loses nothing.
-/

namespace EdgeGateway

namespace Http

/-- What a request asks for.  A scheme, an authority and a fragment are checked where a target is
written with them, but not kept: the gateway reads none of them, and neither the route nor the URL
for a backend is made from them. -/
structure Target where
  path : Text
  query : Option Text
  deriving DecidableEq, Repr

namespace Target

/-- Why a target is refused. -/
inductive Error where
  | tooLong
  | empty
  | badCharacter
  | badAuthority
  | badFormat
  | schemeTooLong
  deriving DecidableEq, Repr

/-- The wording of a refusal. -/
def Error.message : Error → Text
  | .tooLong => "uri too long".toList
  | .empty => "empty string".toList
  | .badCharacter => "invalid uri character".toList
  | .badAuthority => "invalid authority".toList
  | .badFormat => "invalid format".toList
  | .schemeTooLong => "scheme too long".toList

/-! ## Bytes -/

/-- The byte of an ASCII character. -/
def byte (c : Char) : UInt8 :=
  UInt8.ofNat c.toNat

/-- A byte lies between two ASCII characters. -/
def inRange (first last : Char) (b : UInt8) : Bool :=
  byte first ≤ b && b ≤ byte last

/-- A byte is one of some ASCII characters. -/
def oneOf (chars : String) (b : UInt8) : Bool :=
  chars.toList.any fun c => byte c == b

/-- A byte that is part of a character beyond ASCII. -/
def isExtended (b : UInt8) : Bool :=
  128 ≤ b

/-- The bytes of paths.  The delete character is none of them, nor of queries. -/
def isPathByte (b : UInt8) : Bool :=
  oneOf "!\"=" b || inRange '$' ';' b || inRange '@' '_' b || inRange 'a' '~' b || isExtended b

/-- The bytes of queries. -/
def isQueryByte (b : UInt8) : Bool :=
  oneOf "!=" b || inRange '$' ';' b || inRange '?' '~' b || isExtended b

example : isPathByte 127 = false ∧ isQueryByte 127 = false := by decide

/-- The bytes of authorities that have no rule of their own. -/
def isAuthorityByte (b : UInt8) : Bool :=
  inRange 'a' 'z' b || inRange 'A' 'Z' b || inRange '0' '9' b || oneOf "!$&'()*+,-.;=_~" b

/-- The bytes of schemes. -/
def isSchemeByte (b : UInt8) : Bool :=
  inRange 'a' 'z' b || inRange 'A' 'Z' b || inRange '0' '9' b || oneOf "+-.~" b

/-- The bytes that end an authority. -/
def isDelimiter (b : UInt8) : Bool :=
  oneOf "/?#" b

/-- The bytes before the first `c`, and the bytes behind it. -/
def cut (c : Char) (bytes : Bytes) : Bytes × Option Bytes :=
  match bytes.dropWhile (· != byte c) with
  | [] => (bytes, none)
  | _ :: rest => (bytes.takeWhile (· != byte c), some rest)

theorem cut_append (c : Char) (bytes : Bytes) :
    (cut c bytes).1 ++ ((cut c bytes).2.elim [] (byte c :: ·)) = bytes := by
  have h := List.takeWhile_append_dropWhile (p := (· != byte c)) (l := bytes)
  unfold cut
  split
  · simp
  · rename_i b rest hd
    have hb : b = byte c := by
      have := List.head?_dropWhile_not (· != byte c) bytes
      rw [hd] at this
      simpa using this
    rw [hd] at h
    simpa [hb] using h

/-! ## Path and query -/

/-- Decodes a component whose bytes have to be of a class. -/
def component (allowed : UInt8 → Bool) (bytes : Bytes) : Except Error Text :=
  if bytes.all allowed then
    match Utf8.decode? bytes with
    | some t => .ok t
    | none => .error .badCharacter
  else .error .badCharacter

/-- Reads a path and what follows it; an empty path is a slash. -/
def parsePath (bytes : Bytes) : Except Error Target := do
  let (path, query) := cut '?' (cut '#' bytes).1
  let path ← component isPathByte path
  let query ← query.mapM (component isQueryByte)
  return ⟨if path = [] then ['/'] else path, query⟩

/-! ## Authority -/

/-- What an authority has shown so far: the colons and the percent sign that still count, its
brackets, and whether an `@` came last. -/
structure Scan where
  colons : Nat
  percent : Bool
  opened : Bool
  closed : Bool
  atLast : Bool

/-- Nothing has been read. -/
def Scan.start : Scan := ⟨0, false, false, false, false⟩

/-- Reads one byte of an authority. -/
def Scan.step (s : Scan) (b : UInt8) : Except Error Scan :=
  let s := { s with atLast := false }
  if b = byte ':' then
    if 8 ≤ s.colons then .error .badAuthority else .ok { s with colons := s.colons + 1 }
  else if b = byte '[' then
    if s.percent || s.opened then .error .badAuthority else .ok { s with opened := true }
  else if b = byte ']' then
    if !s.opened || s.closed then .error .badAuthority
    else .ok { s with closed := true, colons := 0, percent := false }
  else if b = byte '@' then .ok { s with colons := 0, percent := false, atLast := true }
  else if b = byte '%' then .ok { s with percent := true }
  else if isAuthorityByte b then .ok s
  else .error .badCharacter

/-- An authority may end here. -/
def Scan.complete (s : Scan) : Bool :=
  s.opened == s.closed && s.colons ≤ 1 && !s.atLast && !s.percent

/-- Checks an authority. -/
def checkAuthority (bytes : Bytes) : Except Error Unit := do
  let s ← bytes.foldlM Scan.step Scan.start
  if s.complete then return () else throw .badAuthority

/-! ## Scheme -/

/-- Two texts agree up to the case of ASCII letters. -/
def sameBytes (a b : Bytes) : Bool :=
  let fold := fun n : UInt8 => if inRange 'A' 'Z' n then n + 32 else n
  a.map fold == b.map fold

/-- The two schemes of the web. -/
def webSchemes : List Bytes :=
  [Utf8.encode "http://".toList, Utf8.encode "https://".toList]

/-- The longest scheme. -/
def maxScheme : Nat := 64

/-- What stands behind a scheme and its two slashes, if there is a scheme. -/
def afterScheme (bytes : Bytes) : Except Error (Option Bytes) :=
  match webSchemes.find? fun s => sameBytes (bytes.take s.length) s with
  | some s => .ok (some (bytes.drop s.length))
  | none =>
    let scheme := bytes.takeWhile isSchemeByte
    match bytes.dropWhile isSchemeByte with
    | colon :: a :: b :: rest =>
      if colon = byte ':' ∧ a = byte '/' ∧ b = byte '/' then
        if maxScheme < scheme.length then .error .schemeTooLong
        else if 3 < bytes.length then .ok (some rest)
        else .ok none
      else .ok none
    | _ => .ok none

/-! ## Targets -/

/-- The longest target. -/
def maxLength : Nat := 65534

/-- Reads an authority, and with a scheme what follows it. -/
def parseFull (bytes : Bytes) : Except Error Target := do
  let behind ← afterScheme bytes
  let text := behind.getD bytes
  let authority := text.takeWhile fun b => !isDelimiter b
  let rest := text.dropWhile fun b => !isDelimiter b
  checkAuthority authority
  if behind.isNone then
    if rest = [] then return ⟨[], none⟩ else throw .badFormat
  if authority = [] then throw (if rest = [] then .empty else .badFormat)
  parsePath rest

/-- Reads a target. -/
def parse (bytes : Bytes) : Except Error Target :=
  if maxLength < bytes.length then .error .tooLong
  else
    match bytes with
    | [] => .error .empty
    | [b] =>
      if b = byte '/' then .ok ⟨['/'], none⟩
      else if b = byte '*' then .ok ⟨['*'], none⟩
      else if isDelimiter b then .error .badCharacter
      else (checkAuthority [b]).map fun _ => ⟨[], none⟩
    | first :: rest =>
      if first = byte '/' then parsePath (first :: rest) else parseFull (first :: rest)

end Target

end Http

end EdgeGateway
