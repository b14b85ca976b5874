import EdgeGateway.Url.Basic

/-!
# Reading paths

A hierarchical path is cut at its slashes, each segment is percent-encoded, and then the dot
segments are carried out: one dot stays in place and two dots go up one level, in any mixture of
plain and percent-encoded dots.  A segment that reads as the name of a drive is never left, in
whatever scheme and at whatever depth.

Main results:

- Theorem `settle_false`: in URLs other than those of files every segment is kept as it is.
-/

namespace EdgeGateway

namespace Url

/-! ## Dot segments -/

/-- A segment that stays in place. -/
def isSingleDot (segment : Text) : Bool :=
  segment.lower ∈ [".".toList, "%2e".toList]

/-- A segment that goes up one level. -/
def isDoubleDot (segment : Text) : Bool :=
  segment.lower ∈ ["..".toList, ".%2e".toList, "%2e.".toList, "%2e%2e".toList]

/-- A letter and a colon, which name a drive. -/
def isDrive : Text → Bool
  | [letter, ':'] => letter.isAlpha
  | _ => false

/-- A letter and a colon or a bar, which read as the name of a drive. -/
def isWrittenDrive : Text → Bool
  | [letter, mark] => letter.isAlpha && (mark == ':' || mark == '|')
  | _ => false

/-- Goes up one level in a reversed list of segments; a drive is not left. -/
def goUp : List Text → List Text
  | [] => []
  | top :: rest => if isWrittenDrive top then top :: rest else rest

/-- A segment as it is kept: a drive at the top of a file path is written with a colon. -/
def settle (file : Bool) (above : List Text) (segment : Text) : Text :=
  match segment with
  | [letter, _] =>
    if file && above.isEmpty && isWrittenDrive segment then [letter, ':'] else segment
  | _ => segment

@[simp]
theorem settle_false (above : List Text) (segment : Text) :
    settle false above segment = segment := by
  unfold settle
  split <;> simp

/-- Carries out the dot segments behind a reversed list of segments.  A dot segment at the end
leaves an empty segment, so that the path keeps its final slash. -/
def carryOut (file : Bool) (above : List Text) : List Text → List Text
  | [] => above.reverse
  | [last] =>
    if isDoubleDot last then ([] :: goUp above).reverse
    else if isSingleDot last then ([] :: above).reverse
    else (settle file above last :: above).reverse
  | segment :: rest =>
    if isDoubleDot segment then carryOut file (goUp above) rest
    else if isSingleDot segment then carryOut file above rest
    else carryOut file (settle file above segment :: above) rest

/-! ## From text to segments -/

/-- The characters that cut a path into segments. -/
def isSlash (special : Bool) (c : Char) : Bool :=
  c == '/' || (special && c == '\\')

/-- The text without the slash it begins with. -/
def dropSlash (special : Bool) : Text → Text
  | [] => []
  | c :: rest => if isSlash special c then rest else c :: rest

/-- The percent-encoded segments of a text that stands behind a slash. -/
def rawSegments (special : Bool) (t : Text) : List Text :=
  (Text.segments (isSlash special) t).map (Percent.encode Percent.pathSet)

/-- The path of a text that stands behind a slash. -/
def readPath (special : Bool) (t : Text) : Path :=
  .segments (carryOut false [] (rawSegments special t))

/-- The path of a file URL as it is written, of a text that stands behind a slash. -/
def readFilePath (t : Text) : Path :=
  .segments (carryOut true [] (rawSegments true t))

/-- The path names a drive at its top. -/
def Path.onDrive : Path → Bool
  | .segments (first :: _) => isDrive first
  | _ => false

/-- Drops the empty segments in front of another one. -/
def dropEmpty : List Text → List Text
  | [] :: next :: rest => dropEmpty (next :: rest)
  | segments => segments

/-- The path without the empty segments in front. -/
def Path.withoutEmptyTop : Path → Path
  | .segments names => .segments (dropEmpty names)
  | path => path

end Url

end EdgeGateway
