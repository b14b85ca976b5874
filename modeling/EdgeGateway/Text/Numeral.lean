import EdgeGateway.Text

/-!
# Whole numbers in settings

A number is written as at most one plus sign and one or more decimal digits, and has to stay within
a bound.  Leading zeros are allowed; white space, minus signs and other digits are not.

Main results:

- Theorem `read?_eq_some_iff`: what is accepted, and as which number.
-/

namespace EdgeGateway

namespace Numeral

/-- The digits `0` to `9`. -/
def isDigit (c : Char) : Bool :=
  '0' ≤ c ∧ c ≤ '9'

/-- The part of a numeral after its sign. -/
def unsigned : Text → Text
  | '+' :: digits => digits
  | digits => digits

/-- The number that decimal digits spell. -/
def value (digits : Text) : Nat :=
  digits.foldl (fun n c => 10 * n + (c.toNat - 48)) 0

/-- Reads a numeral of at most `bound`. -/
def read? (bound : Nat) (t : Text) : Option Nat :=
  let digits := unsigned t
  if digits ≠ [] ∧ digits.all isDigit ∧ value digits ≤ bound then some (value digits) else none

theorem read?_eq_some_iff {bound n : Nat} {t : Text} :
    read? bound t = some n ↔
      unsigned t ≠ [] ∧ (∀ c ∈ unsigned t, isDigit c = true) ∧ value (unsigned t) = n ∧
        n ≤ bound := by
  simp only [read?, List.all_eq_true]
  constructor
  · intro h
    split at h
    · rename_i hd
      obtain rfl := Option.some.inj h
      exact ⟨hd.1, hd.2.1, rfl, hd.2.2⟩
    · simp at h
  · rintro ⟨h1, h2, rfl, h4⟩
    simp [h1, h4]
    exact h2

end Numeral

end EdgeGateway
