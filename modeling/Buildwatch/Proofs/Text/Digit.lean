import Buildwatch.Proofs.Text.Blank
import Buildwatch.Text.Digit

/-!
# Numerals

A number written in decimal digits is read as that number.
-/

namespace Buildwatch.Text

/-- White space is apart from digits. -/
theorem isDigit_eq_false_of_isBlank {c : Char} (h : isBlank c = true) : isDigit c = false :=
  inRanges_eq_false (by decide +kernel) h

theorem isBlank_eq_false_of_isDigit {c : Char} (h : isDigit c = true) : isBlank c = false := by
  cases hblank : isBlank c with
  | false => rfl
  | true => exact absurd h (by simp [isDigit_eq_false_of_isBlank hblank])

/-- The ASCII digits are digits. -/
theorem isDigit_of_ascii {c : Char} (h : c.isDigit = true) : isDigit c = true := by
  have hlow : 48 ≤ c.toNat := by
    simp only [Char.isDigit, Bool.and_eq_true, decide_eq_true_eq] at h
    exact h.1
  have hhigh : c.toNat ≤ 57 := by
    simp only [Char.isDigit, Bool.and_eq_true, decide_eq_true_eq] at h
    exact h.2
  simp [isDigit, inRanges, digitRanges, hlow, hhigh]

theorem ascii_of_mem_toDigits {n : Nat} {c : Char} (h : c ∈ Nat.toDigits 10 n) :
    c.isDigit = true := Nat.isDigit_of_mem_toDigits (by decide) (by decide) h

theorem numeral_toDigits (n : Nat) : numeral (Nat.toDigits 10 n) = n :=
  Nat.ofDigitChars_ten_toDigits

theorem numeralUpTo?_eq_some_iff {limit n : Nat} {digits : Text} (hne : digits ≠ []) :
    numeralUpTo? limit digits = some n ↔
      (∀ d ∈ digits, d.isDigit = true) ∧ n ≤ limit ∧ Nat.ofDigitChars 10 digits 0 = n := by
  have hnumeral : numeral digits = Nat.ofDigitChars 10 digits 0 := rfl
  rw [numeralUpTo?, hnumeral, Option.ite_none_right_eq_some, Option.some_inj, List.all_eq_true]
  constructor
  · rintro ⟨⟨-, hascii, hle⟩, rfl⟩
    exact ⟨hascii, hle, rfl⟩
  · rintro ⟨hascii, hle, rfl⟩
    exact ⟨⟨hne, hascii, hle⟩, rfl⟩

/-- A number up to the limit is read as itself. -/
theorem numeralUpTo?_toDigits {limit n : Nat} (h : n ≤ limit) :
    numeralUpTo? limit (Nat.toDigits 10 n) = some n := by
  have hdigits : (Nat.toDigits 10 n).all Char.isDigit = true :=
    List.all_eq_true.2 fun _ => ascii_of_mem_toDigits
  rw [numeralUpTo?, numeral_toDigits, if_pos ⟨Nat.toDigits_ne_nil, hdigits, h⟩]

end Buildwatch.Text
