import EdgeGateway.Idna.Mapping
import EdgeGateway.Idna.Punycode
import EdgeGateway.Unicode.BidiClass
import EdgeGateway.Unicode.Category
import EdgeGateway.Unicode.CombiningClass
import EdgeGateway.Unicode.JoiningType
import EdgeGateway.Unicode.Normalize

/-!
# Domain names in ASCII

A domain name is mapped character by character, normalised and cut into labels.  Each label has to
be valid; a label with other than ASCII characters is then written in its ASCII-compatible form,
which begins with `xn--`.  There are no rules on hyphens or on lengths for the resolver's sake.

Two rules are about the characters around one.  The zero-width joiner may only follow a virama; the
zero-width non-joiner may follow a virama, or stand between two letters that would otherwise join,
where marks in between do not matter.  And as soon as one label of a domain name holds a
right-to-left character, every label has to keep to one direction, so that the name reads the same
way whatever surrounds it.
-/

namespace EdgeGateway

namespace Idna

open Unicode

/-! ## Joiners -/

/-- The zero-width non-joiner. -/
def nonJoiner : Char := '\u200c'

/-- The zero-width joiner. -/
def joiner : Char := '\u200d'

/-- The first character that joining does not look through is of one of the given types. -/
def meets (types : List JoiningType) (t : Text) : Bool :=
  match (t.map joiningType).dropWhile (· == .transparent) with
  | [] => false
  | type :: _ => types.contains type

/-- The text before, reversed, ends in a virama. -/
def afterVirama : Text → Bool
  | [] => false
  | c :: _ => isVirama c

/-- Every joiner of a text is where it may stand, after a given text, which is reversed. -/
def joinersAllowedAfter (before : Text) : Text → Bool
  | [] => true
  | c :: rest =>
    (if c = nonJoiner then
      afterVirama before || (meets [.left, .dual] before && meets [.right, .dual] rest)
    else if c = joiner then afterVirama before
    else true) && joinersAllowedAfter (c :: before) rest

/-- Every joiner of a label is where it may stand. -/
def joinersAllowed (label : Text) : Bool :=
  if label.contains nonJoiner || label.contains joiner then joinersAllowedAfter [] label else true

/-! ## Writing direction -/

/-- A character that makes its domain name bidirectional. -/
def isRightToLeft (c : Char) : Bool :=
  [BidiClass.rightToLeft, .arabicLetter, .arabicNumber].contains (bidiClass c)

/-- The classes that labels of both directions may hold. -/
def neutralClasses : List BidiClass :=
  [.europeanNumber, .europeanSeparator, .commonSeparator, .europeanTerminator, .otherNeutral,
    .boundaryNeutral, .nonspacingMark]

/-- The last class of a label, marks left aside, is one of the given ones. -/
def endsIn (classes : List BidiClass) (label : List BidiClass) : Bool :=
  match label.reverse.dropWhile (· == .nonspacingMark) with
  | [] => false
  | c :: _ => classes.contains c

/-- A label that begins left-to-right stays so and ends in a letter or a number. -/
def isLeftToRightLabel (label : List BidiClass) : Bool :=
  label.all (BidiClass.leftToRight :: neutralClasses).contains
    && endsIn [.leftToRight, .europeanNumber] label

/-- A label that begins right-to-left stays so, ends in a letter or a number, and does not mix two
kinds of numbers. -/
def isRightToLeftLabel (label : List BidiClass) : Bool :=
  label.all (BidiClass.rightToLeft :: .arabicLetter :: .arabicNumber :: neutralClasses).contains
    && endsIn [.rightToLeft, .arabicLetter, .europeanNumber, .arabicNumber] label
    && !(label.contains .europeanNumber && label.contains .arabicNumber)

/-- The classes of a label keep to the direction of the first one. -/
def keepsDirection : List BidiClass → Bool
  | [] => true
  | .leftToRight :: rest => isLeftToRightLabel (.leftToRight :: rest)
  | .rightToLeft :: rest => isRightToLeftLabel (.rightToLeft :: rest)
  | .arabicLetter :: rest => isRightToLeftLabel (.arabicLetter :: rest)
  | _ => false

/-- The labels of a domain name satisfy the rule for bidirectional names, if it applies. -/
def directionsAllowed (labels : List Text) : Bool :=
  if labels.any (·.any isRightToLeft) then
    labels.all fun label => keepsDirection (label.map bidiClass)
  else true

/-! ## Labels -/

/-- The characters up to U+007F. -/
def isAscii (c : Char) : Bool :=
  c.toNat < 128

/-- The mark of a label in its ASCII-compatible form. -/
def acePrefix : Text :=
  "xn--".toList

/-- No label with other than ASCII characters is longer. -/
def maxLabel : Nat := 1000

/-- No ASCII-compatible form of more characters, after its mark, is decoded. -/
def maxDecoded : Nat := 2000

/-- A mapped and normalised label may stand in a domain name: no mark comes first, the joiners are
where they belong, and the label is in ASCII or not too long. -/
def isValidLabel (label : Text) : Bool :=
  (match label with
  | [] => true
  | c :: _ => !Unicode.mark.contains c) && joinersAllowed label
    && (label.all isAscii || label.length ≤ maxLabel)

/-- A decoded label has to look as if it had been mapped and normalised. -/
def isSettled (label : Text) : Bool :=
  label.all (fun c => mapChar? c == some [c]) && Unicode.normalize label == label
    && !acePrefix.isPrefixOf label

/-- The label that an ASCII-compatible form, without its mark, stands for. -/
def decodeLabel? (written : Text) : Option Text :=
  if written.length ≤ maxDecoded ∧ written.getLast? ≠ some '-' then
    match Punycode.decode? written with
    | some label => if label.all isAscii || !isSettled label then none else some label
    | none => none
  else none

/-- A label as it is read: in place of an ASCII-compatible form stands what it stands for. -/
def unicodeLabel? (label : Text) : Option Text :=
  match acePrefix.isPrefixOf? label with
  | some written => if written.all isAscii then decodeLabel? written else none
  | none => some label

/-- The ASCII-compatible form of a label. -/
def encodeLabel (label : Text) : Text :=
  if label.all isAscii then label else acePrefix ++ Punycode.encode label

/-! ## Domain names -/

/-- The labels of a domain name after mapping and normalisation. -/
def labels? (domain : Text) : Option (List Text) :=
  (map? domain).map fun mapped => Text.segments (· == '.') (Unicode.normalize mapped)

/-- The ASCII form of a domain name, in which the characters in `forbidden` may not occur. -/
def toAscii? (forbidden : Char → Bool) (domain : Text) : Option Text := do
  let labels ← labels? domain
  let read ← labels.mapM unicodeLabel?
  guard (read.all fun label => isValidLabel label && !label.any forbidden)
  guard (directionsAllowed read)
  return ['.'].intercalate (labels.map encodeLabel)

end Idna

end EdgeGateway
