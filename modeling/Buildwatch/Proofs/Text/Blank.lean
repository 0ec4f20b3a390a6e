import Mathlib.Data.List.DropRight
import Buildwatch.Text.Blank
import Buildwatch.Text.Word

/-!
# Blanks and words

White space is apart from words. Trimming drops the longest run of it.
-/

namespace Buildwatch.Text

/-! ## Classes of characters -/

theorem exists_range_of_inRanges {table : List (Nat × Nat)} {n : Nat}
    (h : inRanges table n = true) : ∃ range ∈ table, range.1 ≤ n ∧ n ≤ range.2 := by
  unfold inRanges at h
  split at h
  · next range heq =>
    have hle := List.find?_some heq
    simp only [decide_eq_true_eq] at h hle
    exact ⟨range, List.mem_of_find?_eq_some heq, h, hle⟩
  · simp at h

/-- Two classes are apart if the second has no member in the ranges of the first. -/
theorem inRanges_eq_false {table table' : List (Nat × Nat)} {n : Nat}
    (hapart : ∀ range ∈ table, ∀ i < range.2 + 1 - range.1, inRanges table' (range.1 + i) = false)
    (h : inRanges table n = true) : inRanges table' n = false := by
  obtain ⟨range, hrange, hlow, hhigh⟩ := exists_range_of_inRanges h
  have hi := hapart range hrange (n - range.1) (by omega)
  rwa [Nat.add_sub_cancel' hlow] at hi

variable {c : Char}

theorem not_isWord_of_isBlank (h : isBlank c = true) : isWord c = false :=
  inRanges_eq_false (by decide +kernel) h

/-- The letters of ASCII may stand in words. -/
theorem isWord_of_isAlpha (h : c.isAlpha = true) : isWord c = true := by
  have hletters : ∀ n < 123, 65 ≤ n ∧ n ≤ 90 ∨ 97 ≤ n → inRanges wordRanges n = true := by
    decide +kernel
  have hcases : (decide (c.val ≥ 'A'.val ∧ c.val ≤ 'Z'.val) ||
      c.val ≥ 'a'.val && c.val ≤ 'z'.val) = true := h
  simp only [Bool.or_eq_true, Bool.and_eq_true, decide_eq_true_eq] at hcases
  have hupper : ∀ d : Char, c.val ≤ d.val → c.toNat ≤ d.toNat := fun _ h => h
  have hlower : ∀ d : Char, d.val ≤ c.val → d.toNat ≤ c.toNat := fun _ h => h
  refine hletters c.toNat ?_ ?_
  · rcases hcases with ⟨-, h⟩ | ⟨-, h⟩
    · exact Nat.lt_of_le_of_lt (hupper 'Z' h) (by decide)
    · exact Nat.lt_of_le_of_lt (hupper 'z' h) (by decide)
  · rcases hcases with ⟨hl, hu⟩ | ⟨hl, -⟩
    · exact .inl ⟨hlower 'A' hl, hupper 'Z' hu⟩
    · exact .inr (hlower 'a' hl)

/-- Letters are letters in capitals or not. -/
theorem isAlpha_of_toLower (h : c.toLower.isAlpha = true) : c.isAlpha = true := by
  by_cases hupper : c.val ≥ 'A'.val ∧ c.val ≤ 'Z'.val
  · have hc : c.isUpper = true := decide_eq_true hupper
    exact Bool.or_eq_true_iff.2 (.inl hc)
  · have hc : c.toLower = c := dif_neg hupper
    rwa [hc] at h

/-! ## Trimming -/

variable {s t : Text}

/-- Trimming drops blanks only. -/
theorem exists_blanks (t : Text) :
    ∃ blanks, (∀ c ∈ blanks, isBlank c = true) ∧ t = trimEnd t ++ blanks := by
  refine ⟨t.rtakeWhile isBlank, fun c => List.mem_rtakeWhile_imp, ?_⟩
  exact List.rdropWhile_append_rtakeWhile.symm

theorem trimEnd_append_of_all (h : ∀ c ∈ s, isBlank c = true) : trimEnd (t ++ s) = trimEnd t := by
  have hs : ∀ c ∈ s.reverse, isBlank c = true := fun c hc => h c (List.mem_reverse.1 hc)
  rw [trimEnd, List.reverse_append, List.dropWhile_append_of_pos hs, trimEnd]

theorem trimEnd_append_of_exists (h : ∃ c ∈ s, isBlank c = false) :
    trimEnd (t ++ s) = t ++ trimEnd s := by
  obtain ⟨c, hc, hblank⟩ := h
  have hs : s.reverse.dropWhile isBlank ≠ [] := by
    intro hnil
    have hall := List.dropWhile_eq_nil_iff.1 hnil c (List.mem_reverse.2 hc)
    simp [hblank] at hall
  rw [trimEnd, List.reverse_append, List.dropWhile_append, if_neg (by simpa using hs)]
  simp [trimEnd]

/-- A text that ends with something else than a blank stays as it is. -/
theorem trimEnd_concat (h : isBlank c = false) : trimEnd (t ++ [c]) = t ++ [c] := by
  simp [trimEnd, h]

theorem trimEnd_prefix (t : Text) : trimEnd t <+: t := List.rdropWhile_prefix isBlank t

end Buildwatch.Text
