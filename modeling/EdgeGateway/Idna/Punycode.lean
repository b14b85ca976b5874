import EdgeGateway.Text

/-!
# Punycode

A label with other than ASCII characters is written as its ASCII characters, a hyphen, and a
sequence of gaps.  Each gap says how far to move, through the positions of the text and then
through the code points, until the next character is inserted.  Gaps are written with digits of
varying weight, whose thresholds follow a bias that adapts to the gaps seen so far.

Reading and writing therefore both pass through a list of numbers: `gaps` finds it in a text and
`insertAll?` carries it out.

Main results:

- Theorem `readGap?_length`: reading a gap uses up some of the text.
-/

namespace EdgeGateway

namespace Idna

namespace Punycode

/-! ## Digits and bias -/

/-- The digit of a value below thirty-six: letters first, then `0` to `9`. -/
def digit (n : Nat) : Char :=
  if n < 26 then Char.ofNat (97 + n) else Char.ofNat (22 + n)

/-- The value of a digit, in either case. -/
def digitValue? (c : Char) : Option Nat :=
  if 'a' ≤ c ∧ c ≤ 'z' then some (c.toNat - 97)
  else if 'A' ≤ c ∧ c ≤ 'Z' then some (c.toNat - 65)
  else if '0' ≤ c ∧ c ≤ '9' then some (c.toNat - 22)
  else none

/-- The value below which a digit ends its number, for the digit at a position of weight step
`k` (36, 72, …). -/
def threshold (bias k : Nat) : Nat :=
  min 26 (max 1 (k - bias))

theorem threshold_pos (bias k : Nat) : 1 ≤ threshold bias k := by
  simp only [threshold]; omega

/-- The bias of a scaled gap. -/
def settle (scaled k : Nat) : Nat :=
  if 455 < scaled then settle (scaled / 35) (k + 36) else k + 36 * scaled / (scaled + 38)
termination_by scaled
decreasing_by omega

/-- The bias after a gap, when the text has grown to `size` characters. -/
def adapt (gap size : Nat) (first : Bool) : Nat :=
  let damped := if first then gap / 700 else gap / 2
  settle (damped + damped / size) 0

/-! ## One gap -/

/-- Writes a number, least significant digit first. -/
def writeGap (bias k n : Nat) : Text :=
  let t := threshold bias k
  if n < t then [digit n]
  else digit (t + (n - t) % (36 - t)) :: writeGap bias (k + 36) ((n - t) / (36 - t))
termination_by n
decreasing_by
  have := threshold_pos bias k
  exact Nat.lt_of_le_of_lt (Nat.div_le_self _ _) (by omega)

/-- Reads a number from the front of a text. -/
def readGap? (bias : Nat) : Text → (k weight sum : Nat) → Option (Nat × Text)
  | [], _, _, _ => none
  | c :: rest, k, weight, sum =>
    match digitValue? c with
    | none => none
    | some d =>
      if d < threshold bias k then some (sum + d * weight, rest)
      else readGap? bias rest (k + 36) (weight * (36 - threshold bias k)) (sum + d * weight)

theorem readGap?_length {bias : Nat} {t : Text} {k weight sum n : Nat} {rest : Text}
    (h : readGap? bias t k weight sum = some (n, rest)) : rest.length < t.length := by
  fun_induction readGap? bias t k weight sum with
  | case1 | case2 => simp at h
  | case3 => simp_all
  | case4 _ _ _ _ _ _ _ _ ih => have := ih h; simp; omega

/-! ## The sequence of gaps -/

/-- Writes gaps, where the text has `size` characters before the first of them. -/
def writeGaps (size : Nat) : (bias : Nat) → (first : Bool) → List Nat → Text
  | _, _, [] => []
  | bias, first, gap :: rest =>
    writeGap bias 36 gap ++ writeGaps (size + 1) (adapt gap (size + 1) first) false rest

/-- Reads the gaps of a whole text. -/
def readGaps? (size bias : Nat) (first : Bool) (t : Text) : Option (List Nat) :=
  match t with
  | [] => some []
  | c :: tail =>
    match _h : readGap? bias (c :: tail) 36 1 0 with
    | none => none
    | some (gap, rest) =>
      (readGaps? (size + 1) (adapt gap (size + 1) first) false rest).map (gap :: ·)
termination_by t.length
decreasing_by exact readGap?_length _h

/-! ## Gaps and characters -/

/-- The ASCII characters of a text. -/
def basic (t : Text) : Text :=
  t.filter fun c => c.toNat < 128

/-- The state of a search for gaps: how far the search has moved since the last insertion, how many
characters are in place, and the gaps found, latest first. -/
structure Search where
  moved : Nat
  placed : Nat
  found : List Nat

/-- Passes one character of the text while looking for the code point `n`. -/
def Search.pass (n : Nat) (s : Search) (c : Char) : Search :=
  if c.toNat < n then { s with moved := s.moved + 1 }
  else if c.toNat = n then ⟨0, s.placed + 1, s.moved :: s.found⟩
  else s

/-- Looks for the code points of an increasing list, when all those below `n` are in place. -/
def Search.run (t : Text) : (n : Nat) → List Nat → Search → Search
  | _, [], s => s
  | n, m :: rest, s =>
    let ready := { s with moved := s.moved + (m - n) * (s.placed + 1) }
    let passed := t.foldl (Search.pass m) ready
    Search.run t (m + 1) rest { passed with moved := passed.moved + 1 }

/-- The code points beyond ASCII of a text, in increasing order and without repetition. -/
def extended (t : Text) : List Nat :=
  (((t.map Char.toNat).filter (128 ≤ ·)).mergeSort (· ≤ ·)).eraseReps

/-- The gaps that lead from the ASCII characters of a text to the text. -/
def gaps (t : Text) : List Nat :=
  (Search.run t 128 (extended t) ⟨0, (basic t).length, []⟩).found.reverse

/-- Inserts a character for every gap, starting from a code point and a position. -/
def insertAll? : (n position : Nat) → Text → List Nat → Option Text
  | _, _, t, [] => some t
  | n, position, t, gap :: rest =>
    let size := t.length + 1
    let m := n + (position + gap) / size
    let i := (position + gap) % size
    if m.isValidChar then insertAll? m (i + 1) (t.insertIdx i (Char.ofNat m)) rest else none

/-! ## Labels -/

/-- Writes a label. -/
def encode (t : Text) : Text :=
  let ascii := basic t
  (if ascii.isEmpty then [] else ascii ++ ['-']) ++ writeGaps ascii.length 72 true (gaps t)

/-- Reads a label; the ASCII characters stand before the last hyphen. -/
def decode? (t : Text) : Option Text :=
  let (ascii, written) :=
    match t.splitLast? '-' with
    | none | some ([], _) => ([], t)
    | some (before, after) => (before, after)
  if ascii.all (fun c => c.toNat < 128) then
    (readGaps? ascii.length 72 true written).bind (insertAll? 128 0 ascii)
  else none

end Punycode

end Idna

end EdgeGateway
