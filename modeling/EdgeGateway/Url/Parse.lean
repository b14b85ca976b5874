import EdgeGateway.Url.Authority
import EdgeGateway.Url.Path

/-!
# Reading URLs

A URL is read as forgivingly as browsers do: controls and blanks around it and tabs and line breaks
anywhere are dropped, a special scheme needs no particular number of slashes behind its colon, and
backslashes count as slashes.  The text is cut into its components first, and each component is
read by itself.

A reference is read in the context of a hierarchical base URL, from which it takes what it leaves
out.  A reference that repeats the scheme of a special base may still be relative.

Main results:

- Theorem `takeScheme?_append`: the scheme ends at the first colon.
-/

namespace EdgeGateway

namespace Url

/-! ## Cutting -/

/-- The characters that are dropped from both ends: controls and the space. -/
def isEdge (c : Char) : Bool :=
  c.toNat ≤ 0x20

/-- The characters that are dropped everywhere. -/
def isBreak (c : Char) : Bool :=
  c == '\t' || c == '\n' || c == '\r'

/-- The text that is really read. -/
def clean (t : Text) : Text :=
  (Text.trim isEdge t).filter fun c => !isBreak c

/-- The characters of a scheme. -/
def isSchemeChar (c : Char) : Bool :=
  c.isAlphanum || c == '+' || c == '-' || c == '.'

/-- The scheme before the first colon, in lower case, and the text behind the colon. -/
def takeScheme? (t : Text) : Option (Text × Text) :=
  match t.takeWhile isSchemeChar, t.dropWhile isSchemeChar with
  | first :: scheme, ':' :: rest =>
    if first.isAlpha then some (Text.lower (first :: scheme), rest) else none
  | _, _ => none

theorem takeScheme?_append {scheme rest : Text} {first : Char} (hfirst : first.isAlpha = true)
    (h : ∀ c ∈ first :: scheme, isSchemeChar c = true) :
    takeScheme? (first :: scheme ++ ':' :: rest) = some (Text.lower (first :: scheme), rest) := by
  have htake : (first :: scheme ++ ':' :: rest).takeWhile isSchemeChar = first :: scheme := by
    rw [List.takeWhile_append_of_pos h]
    simp [isSchemeChar]
  have hdrop : (first :: scheme ++ ':' :: rest).dropWhile isSchemeChar = ':' :: rest := by
    rw [List.dropWhile_append_of_pos h]
    simp [isSchemeChar]
  simp only [takeScheme?, htake, hdrop, hfirst, if_true]

/-- The characters that end an authority. -/
def endsAuthority (special : Bool) (c : Char) : Bool :=
  isSlash special c || c == '?' || c == '#'

/-- The text before the first `#`, and the text behind it. -/
def splitFragment (t : Text) : Text × Option Text :=
  match t.splitFirst? '#' with
  | none => (t, none)
  | some (before, after) => (before, some after)

/-- The text before the first `?`, and the text behind it. -/
def splitQuery (t : Text) : Text × Option Text :=
  match t.splitFirst? '?' with
  | none => (t, none)
  | some (before, after) => (before, some after)

/-! ## Assembling -/

/-- Path, query and fragment of the part behind an authority, from a reader of paths. -/
structure Tail where
  path : Path
  query : Option Text
  fragment : Option Text

/-- The set of characters to encode in a query. -/
def querySetFor (special : Bool) : Char → Bool :=
  if special then Percent.specialQuerySet else Percent.querySet

/-- Reads the part behind an authority. -/
def readTail (special : Bool) (path : Text → Path) (t : Text) : Tail :=
  let (rest, fragment) := splitFragment t
  let (path', query) := splitQuery rest
  { path := path path'
    query := query.map (Percent.encode (querySetFor special))
    fragment := fragment.map (Percent.encode Percent.fragmentSet) }

/-- A URL from its parts. -/
def assemble (scheme : Text) (authority : Option Authority) (tail : Tail) : Url where
  scheme := scheme
  username := (authority.map Authority.username).getD []
  password := (authority.map Authority.password).getD []
  host := authority.map Authority.host
  port := authority.bind Authority.port
  path := tail.path
  query := tail.query
  fragment := tail.fragment

/-! ## The kinds of schemes -/

/-- The path behind the authority of a special URL; it is never empty. -/
def specialPath (t : Text) : Path :=
  readPath true (dropSlash true t)

/-- The path behind the authority of another URL; it may be empty. -/
def otherPath (t : Text) : Path :=
  if t = [] then .segments [] else readPath false (dropSlash false t)

/-- Reads what stands behind the slashes of a URL with an authority. -/
def parseAuthority? (scheme : Text) (t : Text) : Option Url := do
  let special := isSpecialScheme scheme
  let written := Text.takeUntil (endsAuthority special) t
  let rest := Text.dropUntil (endsAuthority special) t
  let (authority, left) ← authority? scheme (rest ≠ []) written
  return assemble scheme (some authority)
    (readTail special (if special then specialPath else otherPath) (left ++ rest))

/-- Reads a special URL, files apart, from behind its colon: any number of slashes may follow. -/
def parseSpecial? (scheme : Text) (t : Text) : Option Url :=
  parseAuthority? scheme (t.dropWhile (isSlash true))

/-- Reads a URL without special rules from behind its colon. -/
def parseOther? (scheme : Text) (t : Text) : Option Url :=
  match t with
  | '/' :: '/' :: rest => parseAuthority? scheme rest
  | '/' :: rest => some (assemble scheme none (readTail false (readPath false) rest))
  | _ =>
    some (assemble scheme none
      (readTail false (fun path => .opaqueText (Percent.encode Percent.controlSet path)) t))

/-- A local file is on no machine in particular. -/
def localhost : Text :=
  "localhost".toList

/-- The host of a file URL; the name of the local machine counts as none. -/
def fileHost? (t : Text) : Option Host :=
  if t = [] then some Host.empty
  else
    (Host.parseSpecial? t).map fun host =>
      if host = .domain localhost then Host.empty else host

/-- A file URL from its host and the text behind the slash that begins its path.  A drive at the top
of the path needs no host, and slashes in front of the path are not kept. -/
def assembleFile (host : Host) (t : Text) : Url :=
  let tail := readTail true readFilePath t
  let host := if tail.path.onDrive then Host.empty else host
  assemble fileScheme (some ⟨[], [], host, none⟩) { tail with path := tail.path.withoutEmptyTop }

/-- A file URL from its host and the text behind it.  Behind a host the path begins with the slash
that ends the host; without a host a slash of its own stands in front of the text, so that the text
begins with an empty segment where it begins with a slash. -/
def assembleHostedFile (host : Host) (t : Text) : Url :=
  assembleFile host (if host = Host.empty then t else dropSlash true t)

/-- Reads a file URL from behind its colon. -/
def parseFile? (t : Text) : Option Url :=
  match t with
  | a :: b :: rest =>
    if isSlash true a && isSlash true b then
      let written := Text.takeUntil (endsAuthority true) rest
      if isWrittenDrive written then some (assembleFile Host.empty rest)
      else
        (fileHost? written).map fun host =>
          assembleHostedFile host (Text.dropUntil (endsAuthority true) rest)
    else some (assembleFile Host.empty (dropSlash true t))
  | _ => some (assembleFile Host.empty (dropSlash true t))

/-- Reads what stands behind the colon of a scheme. -/
def parseAfterScheme? (scheme : Text) (t : Text) : Option Url :=
  if scheme = fileScheme then parseFile? t
  else if isSpecialScheme scheme then parseSpecial? scheme t
  else parseOther? scheme t

/-- Reads a URL that stands by itself. -/
def parse? (t : Text) : Option Url :=
  (takeScheme? (clean t)).bind fun (scheme, rest) => parseAfterScheme? scheme rest

/-! ## Resolving references -/

/-- The segments that a relative path stands beside, reversed: the last one is left. -/
def Path.parentReversed : Path → List Text
  | .opaqueText _ => []
  | .segments names => names.reverse.drop 1

/-- The base with path, query and fragment of a reference. -/
def withTail (base : Url) (tail : Tail) : Url :=
  { base with path := tail.path, query := tail.query, fragment := tail.fragment }

/-- The path of a reference that begins without a slash. -/
def siblingPath (base : Url) (t : Text) : Path :=
  .segments (carryOut false base.path.parentReversed (rawSegments (isSpecialScheme base.scheme) t))

/-- Reads a reference without a scheme of its own. -/
def resolveRelative? (base : Url) (t : Text) : Option Url :=
  let special := isSpecialScheme base.scheme
  match t with
  | [] => some { base with fragment := none }
  | '#' :: fragment =>
    some { base with fragment := some (Percent.encode Percent.fragmentSet fragment) }
  | '?' :: _ => some (base.withTail (readTail special (fun _ => base.path) t))
  | c :: rest =>
    if isSlash special c then
      match rest with
      | d :: more =>
        if isSlash special d then
          parseAuthority? base.scheme (if special then more.dropWhile (isSlash true) else more)
        else some (base.withTail (readTail special (readPath special) rest))
      | [] => some (base.withTail (readTail special (readPath special) rest))
    else some (base.withTail (readTail special (siblingPath base) t))

/-- A reference with the scheme of its special base is relative unless two slashes follow. -/
def staysRelative (base : Url) (scheme rest : Text) : Bool :=
  scheme == base.scheme && isSpecialScheme scheme && (rest.takeWhile (isSlash true)).length < 2

/-- The URL that a reference stands for. -/
def resolve? (base : Url) (t : Text) : Option Url :=
  match takeScheme? (clean t) with
  | some (scheme, rest) =>
    if staysRelative base scheme rest then resolveRelative? base rest
    else parseAfterScheme? scheme rest
  | none => resolveRelative? base (clean t)

end Url

end EdgeGateway
