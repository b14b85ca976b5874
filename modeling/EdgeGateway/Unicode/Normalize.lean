import EdgeGateway.Unicode.CombiningClass
import EdgeGateway.Unicode.Composition
import EdgeGateway.Unicode.Decomposition

/-!
# Normalisation form C

A text is decomposed, the marks after each starter are put into the order of their combining
classes, and starters are composed again with what follows them.

Main results:

- Theorem `insertMark_perm`: ordering marks neither loses nor adds a character.
- Theorem `reorder_perm`: the canonical order is a rearrangement of the text.
-/

namespace EdgeGateway

namespace Unicode

/-! ## Hangul syllables -/

/-- The parts of a precomposed Hangul syllable, which follow from its number. -/
def hangulParts? (n : Nat) : Option (List Nat) :=
  if 0xAC00 ≤ n ∧ n ≤ 0xD7A3 then
    let index := n - 0xAC00
    let lead := 0x1100 + index / 588
    let vowel := 0x1161 + index % 588 / 28
    let tail := index % 28
    some (if tail = 0 then [lead, vowel] else [lead, vowel, 0x11A7 + tail])
  else none

/-- The Hangul syllable that two parts form. -/
def hangulComposite? (a b : Nat) : Option Nat :=
  if 0x1100 ≤ a ∧ a ≤ 0x1112 ∧ 0x1161 ≤ b ∧ b ≤ 0x1175 then
    some (0xAC00 + ((a - 0x1100) * 21 + (b - 0x1161)) * 28)
  else if 0xAC00 ≤ a ∧ a ≤ 0xD7A3 ∧ (a - 0xAC00) % 28 = 0 ∧ 0x11A8 ≤ b ∧ b ≤ 0x11C2 then
    some (a + (b - 0x11A7))
  else none

/-! ## Decomposition -/

/-- No character below this one has a decomposition. -/
def firstDecomposed : Nat := 0xC0

/-- The full canonical decomposition of a character. -/
def decomposeChar (c : Char) : Text :=
  if c.toNat < firstDecomposed then [c]
  else
    match hangulParts? c.toNat with
    | some parts => parts.map Char.ofNat
    | none =>
      match decompositions.find? c with
      | some parts => parts.map Char.ofNat
      | none => [c]

/-- The full canonical decomposition of a text, marks still in their places. -/
def decompose (t : Text) : Text :=
  t.flatMap decomposeChar

/-! ## Canonical order -/

/-- Puts a character behind a reversed text, in front of the marks of higher classes there. -/
def insertMark (c : Char) : Text → Text
  | [] => [c]
  | d :: rest =>
    if 0 < combiningClass c ∧ combiningClass c < combiningClass d then d :: insertMark c rest
    else c :: d :: rest

/-- Sorts each run of marks by combining class; equal classes keep their order. -/
def reorder (t : Text) : Text :=
  (t.foldl (fun reversed c => insertMark c reversed) []).reverse

theorem insertMark_perm (c : Char) (t : Text) : (insertMark c t).Perm (c :: t) := by
  induction t with
  | nil => exact .refl _
  | cons d rest ih =>
    unfold insertMark
    split
    · exact (ih.cons d).trans (.swap c d rest)
    · exact .refl _

theorem foldl_insertMark_perm (t acc : Text) :
    (t.foldl (fun reversed c => insertMark c reversed) acc).Perm (t ++ acc) := by
  induction t generalizing acc with
  | nil => exact .refl _
  | cons c rest ih =>
    refine (ih (insertMark c acc)).trans ?_
    exact ((insertMark_perm c acc).append_left rest).trans List.perm_middle

theorem reorder_perm (t : Text) : (reorder t).Perm t := by
  simpa [reorder] using (List.reverse_perm _).trans (foldl_insertMark_perm t [])

/-! ## Composition -/

/-- The character that a starter and a later character form together. -/
def composeChars? (a b : Char) : Option Char :=
  match hangulComposite? a.toNat b.toNat with
  | some n => some (Char.ofNat n)
  | none => (composite? a.toNat b.toNat).map Char.ofNat

/-- What composition has read so far: the finished text, the starter that may still grow, and the
marks after it that did not combine with it; all but the starter are reversed. -/
structure Composing where
  finished : Text
  starter : Option Char
  marks : Text

/-- The text read so far, reversed. -/
def Composing.reversed (s : Composing) : Text :=
  match s.starter with
  | none => s.marks ++ s.finished
  | some c => s.marks ++ c :: s.finished

/-- A character is kept from the starter by a mark of its own or a higher class in between. -/
def Composing.blocks (s : Composing) (c : Char) : Bool :=
  match s.marks with
  | [] => false
  | mark :: _ => combiningClass c ≤ combiningClass mark

/-- Reads one more character. -/
def Composing.push (s : Composing) (c : Char) : Composing :=
  match s.starter with
  | none =>
    if combiningClass c = 0 then { s with starter := some c }
    else { s with finished := c :: s.finished }
  | some a =>
    match if s.blocks c then none else composeChars? a c with
    | some composed => { s with starter := some composed }
    | none =>
      if combiningClass c = 0 then ⟨s.reversed, some c, []⟩
      else { s with marks := c :: s.marks }

/-- Combines starters with the characters that follow them. -/
def compose (t : Text) : Text :=
  (t.foldl Composing.push ⟨[], none, []⟩).reversed.reverse

/-! ## Normalisation form C -/

/-- Normalisation form C of a text. -/
def normalize (t : Text) : Text :=
  compose (reorder (decompose t))

end Unicode

end EdgeGateway
