import EdgeGateway.Url.Host

/-!
# URLs

A URL in its normal form: a scheme, an optional authority of user information, host and port, a
path, and an optional query and fragment.  Every component is kept as it is written out, so that
the text of a URL is a plain concatenation.

Main results:

- Theorem `pathText_segments_cons`: every segment is written behind a slash.
-/

namespace EdgeGateway

/-! ## Schemes -/

namespace Url

/-- The schemes whose URLs are read with special rules, and their ports. -/
def specialPorts : List (Text × Option Nat) :=
  [("http".toList, some 80), ("https".toList, some 443), ("ws".toList, some 80),
    ("wss".toList, some 443), ("ftp".toList, some 21), ("file".toList, none)]

/-- The scheme is read with special rules. -/
def isSpecialScheme (scheme : Text) : Bool :=
  (specialPorts.lookup scheme).isSome

/-- The port that a scheme implies. -/
def defaultPort? (scheme : Text) : Option Nat :=
  (specialPorts.lookup scheme).join

/-- The scheme of local files. -/
def fileScheme : Text :=
  "file".toList

/-- A path of segments, or the rest of a URL that has no hierarchy. -/
inductive Path where
  | opaqueText (text : Text)
  | segments (names : List Text)
  deriving DecidableEq, Repr

/-- The written form of a path. -/
def Path.text : Path → Text
  | .opaqueText t => t
  | .segments names => names.flatMap ('/' :: ·)

@[simp]
theorem pathText_segments_cons (s : Text) (rest : List Text) :
    (Path.segments (s :: rest)).text = '/' :: s ++ (Path.segments rest).text := by
  simp [Path.text]

end Url

/-! ## The record -/

/-- A URL in normal form; a port that the scheme implies is left out. -/
structure Url where
  scheme : Text
  username : Text
  password : Text
  host : Option Url.Host
  port : Option Nat
  path : Url.Path
  query : Option Text
  fragment : Option Text
  deriving DecidableEq, Repr

namespace Url

/-- The user information as it stands before the host. -/
def userinfoText (u : Url) : Text :=
  if u.username = [] ∧ u.password = [] then []
  else u.username ++ (if u.password = [] then [] else ':' :: u.password) ++ ['@']

/-- The port as it stands behind the host. -/
def portText (u : Url) : Text :=
  match u.port with
  | none => []
  | some port => ':' :: Text.decimal port

/-- A path that begins with two slashes needs a mark when no authority stands before it. -/
def pathMark (u : Url) : Text :=
  match u.path with
  | .segments ([] :: _ :: _) => ['/', '.']
  | _ => []

/-- The part between the scheme and the path. -/
def authorityText (u : Url) : Text :=
  match u.host with
  | none => u.pathMark
  | some host => ['/', '/'] ++ u.userinfoText ++ host.text ++ u.portText

/-- The query behind its mark. -/
def queryText (u : Url) : Text :=
  match u.query with
  | none => []
  | some query => '?' :: query

/-- The fragment behind its mark. -/
def fragmentText (u : Url) : Text :=
  match u.fragment with
  | none => []
  | some fragment => '#' :: fragment

/-- The written form of a URL. -/
def text (u : Url) : Text :=
  u.scheme ++ [':'] ++ u.authorityText ++ u.path.text ++ u.queryText ++ u.fragmentText

/-- The URL names a machine. -/
def hasHost (u : Url) : Bool :=
  u.host.any (· != Host.empty)

/-- The URL without user name and password. -/
def withoutUserinfo (u : Url) : Url :=
  { u with username := [], password := [] }

/-- The port to connect to. -/
def effectivePort (u : Url) : Option Nat :=
  u.port.or (defaultPort? u.scheme)

end Url

end EdgeGateway
