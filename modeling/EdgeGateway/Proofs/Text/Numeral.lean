import EdgeGateway.Text
import EdgeGateway.Text.Numeral
import Mathlib.Data.List.Induction
import Mathlib.Data.Nat.Digits.Defs

/-!
# Numerals and words

A numeral stands for the number that its digits write in base ten, however many of them there are.
The number can be found in a word of fixed width, digit by digit: as soon as the word has no room for
the next digit the numeral is refused, so that no number ever wraps around.

Main results:

- Theorem `read?_eq_some_iff_spells`: which texts are numbers.
- Theorem `spells_iff_writes`: the number that a text spells is written by its digits in base ten.
- Theorem `nextWord?_eq_some_iff`: a word takes a digit exactly if there is room for it.
- Theorem `readWord?_eq_some_iff`: what is read into a word.
- Theorem `read?_eq_readWord?`: reading up to the largest word is reading into a word.
-/

namespace EdgeGateway

namespace Numeral

/-! ## Numerals -/

/-- A text writes a number with at most one plus sign and one or more decimal digits. -/
def Spells (t : Text) (n : Nat) : Prop :=
  ∃ digits, (t = digits ∨ t = '+' :: digits) ∧ digits ≠ [] ∧
    (∀ c ∈ digits, isDigit c = true) ∧ value digits = n

/-- A text is a number up to a bound exactly if it spells one. -/
theorem read?_eq_some_iff_spells {bound n : Nat} {t : Text} :
    read? bound t = some n ↔ Spells t n ∧ n ≤ bound := by
  rw [read?_eq_some_iff]
  constructor
  · rintro ⟨hne, hdigits, hvalue, hbound⟩
    refine ⟨⟨unsigned t, ?_, hne, hdigits, hvalue⟩, hbound⟩
    unfold unsigned
    split
    · right
      rfl
    · left
      rfl
  · rintro ⟨⟨digits, hsign, hne, hdigits, hvalue⟩, hbound⟩
    have hunsigned : unsigned t = digits := by
      rcases hsign with rfl | rfl
      · unfold unsigned
        split
        · rename_i rest
          have hplus := hdigits '+' (by simp)
          exact absurd hplus (by decide)
        · rfl
      · rfl
    rw [hunsigned]
    exact ⟨hne, hdigits, hvalue, hbound⟩

/-- A text spells one number at most. -/
theorem Spells.unique {t : Text} {m n : Nat} (h : Spells t m) (h' : Spells t n) : m = n := by
  have hread := read?_eq_some_iff_spells.2 ⟨h, Nat.le_max_left m n⟩
  have hread' := read?_eq_some_iff_spells.2 ⟨h', Nat.le_max_right m n⟩
  exact Option.some.inj (hread.symm.trans hread')

/-- A blank text spells no number. -/
theorem not_spells_of_blank {t : Text} {n : Nat} (h : t.isAllBlank = true) :
    ¬ Spells t n := by
  rintro ⟨digits, hsign, hne, hdigits, -⟩
  obtain ⟨c, rest, rfl⟩ := List.exists_cons_of_ne_nil hne
  have hdigit := hdigits c (by simp)
  have hmem : c ∈ t := by
    rcases hsign with rfl | rfl <;> simp
  have hblank : Text.isBlank c = true := List.all_eq_true.1 h c hmem
  simp only [isDigit, decide_eq_true_eq, Char.le_def, UInt32.le_iff_toNat_le] at hdigit
  simp only [Text.isBlank, Bool.or_eq_true, Bool.and_eq_true, decide_eq_true_eq, beq_iff_eq,
    Char.toNat] at hblank
  have hlow : 48 ≤ c.val.toNat := hdigit.1
  have hhigh : c.val.toNat ≤ 57 := hdigit.2
  omega

/-! ## Digits -/

/-- The text of some digits, of which the last one comes first. -/
def digitsText (ds : List Nat) : Text :=
  (ds.map Nat.digitChar).reverse

/-- A text writes a number in base ten: one or more digits, and perhaps a plus sign before them. -/
def Writes (t : Text) (n : Nat) : Prop :=
  ∃ ds : List Nat, ds ≠ [] ∧ (∀ d ∈ ds, d < 10) ∧
    (t = digitsText ds ∨ t = '+' :: digitsText ds) ∧ n = Nat.ofDigits 10 ds

theorem digitsText_cons (d : Nat) (ds : List Nat) :
    digitsText (d :: ds) = digitsText ds ++ [Nat.digitChar d] := by
  simp [digitsText]

/-- One more digit behind a number. -/
theorem value_concat (t : Text) (c : Char) : value (t ++ [c]) = 10 * value t + (c.toNat - 48) := by
  simp [value]

/-- Digits spell the number that they write. -/
theorem value_digitsText {ds : List Nat} (h : ∀ d ∈ ds, d < 10) :
    value (digitsText ds) = Nat.ofDigits 10 ds := by
  induction ds with
  | nil => rfl
  | cons d ds ih =>
    have hd : d < 10 := h d List.mem_cons_self
    have hds := ih fun x hx => h x (List.mem_cons_of_mem d hx)
    rw [digitsText_cons, value_concat, hds, Nat.toNat_digitChar_of_lt_ten hd, Nat.ofDigits_cons]
    omega

/-- There are ten digits. -/
theorem isDigit_iff {c : Char} : isDigit c = true ↔ ∃ d < 10, c = Nat.digitChar d := by
  constructor
  · intro h
    simp only [isDigit, decide_eq_true_eq, Char.le_def, UInt32.le_iff_toNat_le] at h
    have hlow : 48 ≤ c.toNat := h.1
    have hhigh : c.toNat ≤ 57 := h.2
    refine ⟨c.toNat - 48, by omega, ?_⟩
    apply Char.toNat_inj.1
    rw [Nat.toNat_digitChar_of_lt_ten (by omega)]
    omega
  · rintro ⟨d, hd, rfl⟩
    have hall : ∀ d < 10, isDigit (Nat.digitChar d) = true := by decide
    exact hall d hd

/-- The text of some digits is made of digits. -/
theorem isDigit_of_mem_digitsText {ds : List Nat} (h : ∀ d ∈ ds, d < 10) :
    ∀ c ∈ digitsText ds, isDigit c = true := by
  intro c hc
  obtain ⟨d, hd, rfl⟩ := List.mem_map.1 (List.mem_reverse.1 hc)
  exact isDigit_iff.2 ⟨d, h d hd, rfl⟩

/-- What is made of digits is the text of some. -/
theorem exists_digitsText {t : Text} (h : ∀ c ∈ t, isDigit c = true) :
    ∃ ds : List Nat, (∀ d ∈ ds, d < 10) ∧ t = digitsText ds := by
  induction t using List.reverseRecOn with
  | nil => exact ⟨[], by simp, rfl⟩
  | append_singleton t c ih =>
    obtain ⟨ds, hds, rfl⟩ := ih fun x hx => h x (List.mem_append_left _ hx)
    obtain ⟨d, hd, rfl⟩ := isDigit_iff.1 (h c (by simp))
    exact ⟨d :: ds, List.forall_mem_cons.2 ⟨hd, hds⟩, (digitsText_cons d ds).symm⟩

/-- The number that a text spells is written by its digits in base ten. -/
theorem spells_iff_writes {t : Text} {n : Nat} : Spells t n ↔ Writes t n := by
  constructor
  · rintro ⟨digits, hsign, hne, hdigits, rfl⟩
    obtain ⟨ds, hds, rfl⟩ := exists_digitsText hdigits
    refine ⟨ds, ?_, hds, hsign, value_digitsText hds⟩
    rintro rfl
    exact hne rfl
  · rintro ⟨ds, hne, hds, hsign, rfl⟩
    refine ⟨digitsText ds, hsign, ?_, isDigit_of_mem_digitsText hds, value_digitsText hds⟩
    simpa [digitsText] using hne

/-! ## Words -/

section Words

variable {w : Nat}

/-- A word with one more digit behind it, if neither of the two steps overflows. -/
def nextWord? (n : BitVec w) (c : Char) : Option (BitVec w) :=
  let digit := BitVec.ofNat w (c.toNat - 48)
  if isDigit c = true ∧ ¬ n.umulOverflow 10 = true ∧ ¬ (n * 10).uaddOverflow digit = true then
    some (n * 10 + digit)
  else none

/-- Reads a numeral into a word. -/
def readWord? (w : Nat) (t : Text) : Option (BitVec w) :=
  if unsigned t = [] then none else (unsigned t).foldlM nextWord? 0

/-- A word takes a digit exactly if there is room for it. -/
theorem nextWord?_eq_some_iff (hw : 4 ≤ w) {n m : BitVec w} {c : Char} :
    nextWord? n c = some m ↔ isDigit c = true ∧ m.toNat = 10 * n.toNat + (c.toNat - 48) := by
  have hroom : 16 ≤ 2 ^ w := Nat.pow_le_pow_right (by decide : 0 < 2) hw
  have hten : (10 : BitVec w).toNat = 10 := by
    have hsmall : 10 < 2 ^ w := by omega
    exact Nat.mod_eq_of_lt hsmall
  by_cases hc : isDigit c = true
  · have hdigit : (BitVec.ofNat w (c.toNat - 48)).toNat = c.toNat - 48 := by
      obtain ⟨d, hd, rfl⟩ := isDigit_iff.1 hc
      rw [Nat.toNat_digitChar_of_lt_ten hd]
      exact Nat.mod_eq_of_lt (by omega)
    simp only [nextWord?, hc, true_and]
    constructor
    · intro h
      split at h
      · rename_i hfits
        rw [← Option.some.inj h, BitVec.toNat_add_of_not_uaddOverflow hfits.2,
          BitVec.toNat_mul_of_not_umulOverflow hfits.1, hten, hdigit, Nat.mul_comm]
      · cases h
    · intro h
      have hm : m.toNat < 2 ^ w := m.isLt
      have hmul : ¬ n.umulOverflow 10 = true := by
        simp only [BitVec.umulOverflow, hten, decide_eq_true_eq]
        omega
      have hproduct : (n * 10).toNat = n.toNat * 10 := by
        rw [BitVec.toNat_mul_of_not_umulOverflow hmul, hten]
      have hadd : ¬ (n * 10).uaddOverflow (BitVec.ofNat w (c.toNat - 48)) = true := by
        simp only [BitVec.uaddOverflow, hproduct, hdigit, decide_eq_true_eq]
        omega
      rw [if_pos ⟨hmul, hadd⟩]
      congr 1
      apply BitVec.eq_of_toNat_eq
      rw [BitVec.toNat_add_of_not_uaddOverflow hadd, hproduct, hdigit]
      omega
  · simp [nextWord?, hc]

/-- The number behind some digits and one more does not get smaller. -/
theorem le_foldl_digits (digits : Text) (n : Nat) :
    n ≤ digits.foldl (fun n c => 10 * n + (c.toNat - 48)) n := by
  induction digits generalizing n with
  | nil => exact le_refl n
  | cons c rest ih =>
    have hstep : n ≤ 10 * n + (c.toNat - 48) := by omega
    exact hstep.trans (ih _)

/-- A word takes digits, one after the other, exactly if there is room for all of them. -/
theorem foldlM_nextWord?_eq_some_iff (hw : 4 ≤ w) {digits : Text} {n m : BitVec w} :
    digits.foldlM nextWord? n = some m ↔ (∀ c ∈ digits, isDigit c = true) ∧
      m.toNat = digits.foldl (fun n c => 10 * n + (c.toNat - 48)) n.toNat := by
  induction digits generalizing n with
  | nil =>
    constructor
    · intro h
      obtain rfl : n = m := Option.some.inj h
      exact ⟨by simp, rfl⟩
    · rintro ⟨-, h⟩
      exact congrArg some (BitVec.eq_of_toNat_eq h.symm)
  | cons c rest ih =>
    rw [List.foldlM_cons, List.foldl_cons, List.forall_mem_cons]
    constructor
    · intro h
      obtain ⟨k, hk, hrest⟩ := Option.bind_eq_some_iff.1 h
      obtain ⟨hc, hvalue⟩ := (nextWord?_eq_some_iff hw).1 hk
      obtain ⟨hdigits, hm⟩ := ih.1 hrest
      rw [hvalue] at hm
      exact ⟨⟨hc, hdigits⟩, hm⟩
    · rintro ⟨⟨hc, hdigits⟩, hm⟩
      -- the number in between fits into a word, since the last one does
      have hle := le_foldl_digits rest (10 * n.toNat + (c.toNat - 48))
      have hlt : 10 * n.toNat + (c.toNat - 48) < 2 ^ w := by
        have hlast := m.isLt
        omega
      have hk : (BitVec.ofNat w (10 * n.toNat + (c.toNat - 48))).toNat =
          10 * n.toNat + (c.toNat - 48) := Nat.mod_eq_of_lt hlt
      apply Option.bind_eq_some_iff.2
      refine ⟨_, (nextWord?_eq_some_iff hw).2 ⟨hc, hk⟩, ih.2 ⟨hdigits, ?_⟩⟩
      rw [hk]
      exact hm

/-- What is read into a word is the number that is spelled, if it fits into the word. -/
theorem readWord?_eq_some_iff (hw : 4 ≤ w) {t : Text} {m : BitVec w} :
    readWord? w t = some m ↔ read? (2 ^ w - 1) t = some m.toNat := by
  have hbound : m.toNat ≤ 2 ^ w - 1 := Nat.le_sub_one_of_lt m.isLt
  have hzero : (0 : BitVec w).toNat = 0 := BitVec.toNat_zero
  rw [read?_eq_some_iff, readWord?]
  by_cases ht : unsigned t = []
  · simp [ht]
  · rw [if_neg ht, foldlM_nextWord?_eq_some_iff hw, hzero]
    constructor
    · rintro ⟨hdigits, hm⟩
      exact ⟨ht, hdigits, hm.symm, hbound⟩
    · rintro ⟨-, hdigits, hm, -⟩
      exact ⟨hdigits, hm.symm⟩

/-- Reading up to the largest word is reading into a word. -/
theorem read?_eq_readWord? (hw : 4 ≤ w) (t : Text) :
    read? (2 ^ w - 1) t = (readWord? w t).map BitVec.toNat := by
  ext n
  rw [Option.map_eq_some_iff]
  constructor
  · intro h
    have hle : n ≤ 2 ^ w - 1 := (read?_eq_some_iff.1 h).2.2.2
    have hlt : n < 2 ^ w := by
      have hpos : 0 < 2 ^ w := Nat.two_pow_pos w
      omega
    have hn : (BitVec.ofNat w n).toNat = n := Nat.mod_eq_of_lt hlt
    refine ⟨BitVec.ofNat w n, (readWord?_eq_some_iff hw).2 ?_, hn⟩
    rw [hn]
    exact h
  · rintro ⟨m, hm, rfl⟩
    exact (readWord?_eq_some_iff hw).1 hm

end Words

end Numeral

end EdgeGateway
