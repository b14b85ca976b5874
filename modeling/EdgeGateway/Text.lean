/-!
# Text and bytes

The gateway handles two kinds of strings: text, which is a list of Unicode scalar values, and
bytes, which is what travels on a connection.  This module holds the cutting operations on text
that several formats share, and the characters that count as white space.

Main results:

- Theorem `of_literal`: a literal is known by its characters.
- Theorem `trimStart_append_of_all`: a block of trimmed characters in front goes away.
- Theorem `trimEnd_append_of_all`: a block of trimmed characters at the end goes away.
- Theorem `trimEnd_idem`: trimming an end twice is trimming it once.
- Theorem `takeUntil_append_dropUntil`: a cut loses nothing.
- Theorem `splitFirst?_eq_some_iff`, `splitLast?_eq_some_iff`: where a text is cut.
-/

namespace EdgeGateway

/-- Text is a list of Unicode scalar values. -/
abbrev Text := List Char

/-- Bytes as they travel on a connection. -/
abbrev Bytes := List UInt8

namespace Text

/-- A property of the characters of a literal is one of the text. -/
theorem of_literal (p : Text → Prop) {t : Text} (h : p t) : p (String.ofList t).toList := by
  rw [String.toList_ofList]
  exact h

/-! ## Trimming -/

/-- Drops the longest block of characters in `p` from the front. -/
def trimStart (p : Char → Bool) (t : Text) : Text :=
  t.dropWhile p

/-- Drops the longest block of characters in `p` from the end. -/
def trimEnd (p : Char → Bool) (t : Text) : Text :=
  (t.reverse.dropWhile p).reverse

/-- Drops the longest blocks of characters in `p` from both ends. -/
def trim (p : Char → Bool) (t : Text) : Text :=
  trimEnd p (trimStart p t)

@[simp]
theorem trimStart_nil (p : Char → Bool) : trimStart p [] = [] :=
  rfl

theorem trimStart_append_of_all {p : Char → Bool} {s : Text} (t : Text)
    (h : ∀ c ∈ s, p c = true) : trimStart p (s ++ t) = trimStart p t := by
  simp [trimStart, List.dropWhile_append_of_pos h]

theorem all_of_trimStart_eq_nil {p : Char → Bool} {t : Text} (h : trimStart p t = []) :
    ∀ c ∈ t, p c = true := by
  induction t with
  | nil => simp
  | cons a r ih =>
    by_cases hp : p a = true
    · have := ih (by simpa [trimStart, hp] using h)
      simpa [hp] using this
    · simp [trimStart, hp] at h

theorem trimEnd_append_of_all {p : Char → Bool} {s : Text} (t : Text)
    (h : ∀ c ∈ s, p c = true) : trimEnd p (t ++ s) = trimEnd p t := by
  have h' : ∀ c ∈ s.reverse, p c = true := fun c hc => h c (List.mem_reverse.1 hc)
  simp [trimEnd, List.dropWhile_append_of_pos h']

theorem trimEnd_concat_of_neg {p : Char → Bool} {c : Char} (t : Text) (h : p c = false) :
    trimEnd p (t ++ [c]) = t ++ [c] := by
  simp [trimEnd, h]

theorem trimEnd_idem (p : Char → Bool) (t : Text) : trimEnd p (trimEnd p t) = trimEnd p t := by
  simp only [trimEnd, List.reverse_reverse]
  congr 1
  induction t.reverse with
  | nil => rfl
  | cons c r ih =>
    by_cases h : p c = true
    · simpa [List.dropWhile_cons, h] using ih
    · simp [h]

/-! ## Cutting at the first character of a class -/

/-- The part before the first character in `p`. -/
def takeUntil (p : Char → Bool) (t : Text) : Text :=
  t.takeWhile fun c => !p c

/-- The part from the first character in `p` on. -/
def dropUntil (p : Char → Bool) (t : Text) : Text :=
  t.dropWhile fun c => !p c

@[simp]
theorem takeUntil_append_dropUntil (p : Char → Bool) (t : Text) :
    takeUntil p t ++ dropUntil p t = t :=
  List.takeWhile_append_dropWhile

/-- The text before and the text after the first `c`, or `none` when there is no `c`. -/
def splitFirst? (c : Char) (t : Text) : Option (Text × Text) :=
  match dropUntil (· == c) t with
  | [] => none
  | _ :: rest => some (takeUntil (· == c) t, rest)

theorem dropUntil_eq_nil {c : Char} {t : Text} (h : c ∉ t) : dropUntil (· == c) t = [] := by
  induction t with
  | nil => rfl
  | cons d rest ih =>
    have hne : d ≠ c := fun hd => h (by simp [hd])
    have hrest : c ∉ rest := fun hr => h (by simp [hr])
    simpa [dropUntil, hne] using ih hrest

theorem splitFirst?_eq_none {c : Char} {t : Text} (h : c ∉ t) : splitFirst? c t = none := by
  simp [splitFirst?, dropUntil_eq_nil h]

/-- A cut at the first `c` leaves a text in front without `c`. -/
theorem splitFirst?_eq_some_iff {c : Char} {t before after : Text} :
    splitFirst? c t = some (before, after) ↔ t = before ++ c :: after ∧ c ∉ before := by
  constructor
  · intro h
    have hcut := takeUntil_append_dropUntil (· == c) t
    unfold splitFirst? at h
    split at h
    · cases h
    · rename_i d rest hd
      cases h
      have hdc : d = c := by
        have := List.head?_dropWhile_not (fun x => !(x == c)) t
        rw [show t.dropWhile (fun x => !(x == c)) = d :: after from hd] at this
        simpa using this
      rw [hd, hdc] at hcut
      refine ⟨hcut.symm, fun hmem => ?_⟩
      have hall := List.all_eq_true.1 (List.all_takeWhile (p := fun x => !(x == c)) (l := t)) c hmem
      simp at hall
  · rintro ⟨rfl, h⟩
    have hpass : ∀ d ∈ before, (!(d == c)) = true := fun d hd => by
      simpa using fun hdc : d = c => h (hdc ▸ hd)
    rw [splitFirst?, dropUntil, List.dropWhile_append_of_pos hpass, takeUntil,
      List.takeWhile_append_of_pos hpass]
    simp

/-- The text before and the text after the last `c`, or `none` when there is no `c`. -/
def splitLast? (c : Char) (t : Text) : Option (Text × Text) :=
  (splitFirst? c t.reverse).map fun (after, before) => (before.reverse, after.reverse)

/-- A cut at the last `c` leaves a text behind without `c`. -/
theorem splitLast?_eq_some_iff {c : Char} {t before after : Text} :
    splitLast? c t = some (before, after) ↔ t = before ++ c :: after ∧ c ∉ after := by
  have hreverse : t = before ++ c :: after ↔ t.reverse = after.reverse ++ c :: before.reverse := by
    rw [← List.reverse_inj]
    simp
  rw [hreverse, ← List.mem_reverse, ← splitFirst?_eq_some_iff, splitLast?]
  constructor
  · intro h
    obtain ⟨⟨a, b⟩, hab, heq⟩ := Option.map_eq_some_iff.1 h
    cases heq
    simpa using hab
  · intro h
    simp [h]

/-- The pieces of a text between the characters in `p`; a text without one is one piece. -/
def segments (p : Char → Bool) (t : Text) : List Text :=
  t.splitOnP p

/-- A character that does not cut stands in one of the pieces. -/
theorem exists_segment_mem {p : Char → Bool} {c : Char} {t : Text} (hp : p c = false)
    (h : c ∈ t) : ∃ s ∈ segments p t, c ∈ s := by
  induction t with
  | nil => cases h
  | cons d rest ih =>
    rw [segments, List.splitOnP_cons_eq_if_modifyHead]
    rcases List.mem_cons.1 h with rfl | hrest
    · rw [if_neg (by simp [hp])]
      cases hs : rest.splitOnP p with
      | nil => exact absurd hs (List.splitOnP_ne_nil p rest)
      | cons s more => exact ⟨c :: s, by simp, by simp⟩
    · obtain ⟨s, hs, hcs⟩ := ih hrest
      split
      · exact ⟨s, List.mem_cons_of_mem _ hs, hcs⟩
      · rw [segments] at hs
        cases hsplit : rest.splitOnP p with
        | nil => exact absurd hsplit (List.splitOnP_ne_nil p rest)
        | cons first more =>
          rw [hsplit] at hs
          rcases List.mem_cons.1 hs with rfl | hmore
          · exact ⟨d :: s, by simp, List.mem_cons_of_mem _ hcs⟩
          · exact ⟨s, by simp [hmore], hcs⟩

/-! ## Letter case -/

/-- Replaces `A` to `Z` by `a` to `z` and keeps every other character. -/
def lower (t : Text) : Text :=
  t.map Char.toLower

/-- Equality up to the case of `A` to `Z`. -/
def sameLetters (s t : Text) : Bool :=
  s.lower == t.lower

/-! ## Digits -/

/-- The value of a digit in bases up to sixteen; letters count in both cases. -/
def digitValue? (c : Char) : Option Nat :=
  if '0' ≤ c ∧ c ≤ '9' then some (c.toNat - 48)
  else if 'a' ≤ c ∧ c ≤ 'f' then some (c.toNat - 87)
  else if 'A' ≤ c ∧ c ≤ 'F' then some (c.toNat - 55)
  else none

/-- The number that digits spell in a base; a character that is no digit counts as zero. -/
def ofDigits (base : Nat) (t : Text) : Nat :=
  t.foldl (fun n c => base * n + (digitValue? c).getD 0) 0

/-- A number in decimal digits. -/
def decimal (n : Nat) : Text :=
  Nat.toDigits 10 n

/-- A number in lower-case hexadecimal digits. -/
def hexadecimal (n : Nat) : Text :=
  Nat.toDigits 16 n

/-! ## White space -/

/-- The characters with the property White_Space. -/
def isBlank (c : Char) : Bool :=
  let n := c.toNat
  (9 ≤ n && n ≤ 13) || n == 0x20 || n == 0x85 || n == 0xA0 || n == 0x1680
    || (0x2000 ≤ n && n ≤ 0x200A) || n == 0x2028 || n == 0x2029 || n == 0x202F || n == 0x205F
    || n == 0x3000

/-- Drops white space from the front. -/
def trimBlankStart (t : Text) : Text :=
  trimStart isBlank t

/-- Drops white space from both ends. -/
def trimBlank (t : Text) : Text :=
  trim isBlank t

/-- A text of white space only. -/
def isAllBlank (t : Text) : Bool :=
  t.all isBlank

end Text

end EdgeGateway
