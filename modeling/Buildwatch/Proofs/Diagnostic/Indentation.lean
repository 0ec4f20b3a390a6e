import Mathlib.Order.Bounds.Basic
import Buildwatch.Proofs.Diagnostic.MessageLines

/-!
# The indentation that lines share

Unindenting takes the same number of bytes from every line: the least indentation of them all. A
line in which a character lies across that point loses the whole of its own indentation. What is
left has nothing more to lose.
-/

namespace Buildwatch

open Text (byteLength cutLines dropBytes? indentWidth isBlank joinLines trimStart)

variable {n : Nat} {line rest blanks front : Text} {lines : List Text}

/-! ## Boundaries -/

/-- Whether a character of the line ends after `n` bytes. -/
def IsBoundary (n : Nat) (line : Text) : Prop := ∃ front, front <+: line ∧ byteLength front = n

theorem isBoundary_iff : IsBoundary n line ↔ ∃ rest, dropBytes? n line = some rest := by
  constructor
  · rintro ⟨front, ⟨rest, rfl⟩, rfl⟩
    exact ⟨rest, Text.dropBytes?_byteLength⟩
  · rintro ⟨rest, hdrop⟩
    obtain ⟨front, rfl, hfront⟩ := Text.dropBytes?_eq_some hdrop
    exact ⟨front, List.prefix_append front rest, hfront⟩

theorem byteLength_eq_length (single : ∀ c ∈ front, c.utf8Size = 1) :
    byteLength front = front.length := by
  induction front with
  | nil => rfl
  | cons c front ih =>
    have hrest := ih fun d hd => single d (List.mem_cons_of_mem _ hd)
    rw [byteLength, single c List.mem_cons_self, hrest, List.length_cons, Nat.add_comm]

/-- In indentation of one byte for each blank there is a boundary everywhere. -/
theorem isBoundary_of_single (single : ∀ c ∈ line.takeWhile isBlank, c.utf8Size = 1)
    (h : n ≤ indentWidth line) : IsBoundary n line := by
  refine ⟨(line.takeWhile isBlank).take n,
    (List.take_prefix n _).trans (List.takeWhile_prefix _), ?_⟩
  have hle : n ≤ (line.takeWhile isBlank).length := by
    rwa [indentWidth, byteLength_eq_length single] at h
  rw [byteLength_eq_length fun c hc => single c (List.mem_of_mem_take hc), List.length_take,
    Nat.min_eq_left hle]

/-! ## A line -/

theorem indentWidth_append (h : ∀ c ∈ blanks, isBlank c = true) :
    indentWidth (blanks ++ line) = byteLength blanks + indentWidth line := by
  rw [indentWidth, List.takeWhile_append_of_pos h, Text.byteLength_append, indentWidth]

/-- What is left of a line that is to lose `n` bytes of indentation. Characters are lost as a
whole, and none but blanks. -/
structure LosesIndent (n : Nat) (line rest : Text) : Prop where
  losesBlanks : LosesBlanks line rest
  exactly : IsBoundary n line → byteLength line = n + byteLength rest
  relative : IsBoundary n line → indentWidth line = n + indentWidth rest
  isBoundary : (∀ c ∈ line.takeWhile isBlank, c.utf8Size = 1) → IsBoundary n line
  /-- A character across the boundary goes, with everything before the text. -/
  isAtMargin : ¬ IsBoundary n line → IsAtMargin rest

theorem losesIndent_loseIndent (h : n ≤ indentWidth line) :
    LosesIndent n line (loseIndent n line) := by
  -- Whatever is lost are blanks; at a boundary they are those that `dropBytes?` drops.
  obtain ⟨blanks, hblanks, hsplit⟩ := exists_blanks_loseIndent h
  have hlength (boundary : IsBoundary n line) : byteLength blanks = n := by
    obtain ⟨rest, hdrop⟩ := isBoundary_iff.1 boundary
    obtain ⟨front, hfront, hn⟩ := Text.dropBytes?_eq_some hdrop
    rw [loseIndent, hdrop, Option.getD_some] at hsplit
    rw [List.append_cancel_right (hsplit.symm.trans hfront), hn]
  refine ⟨⟨blanks, hblanks, hsplit⟩, fun boundary => ?_, fun boundary => ?_,
    fun single => isBoundary_of_single single h, fun astride => ?_⟩
  · calc
      byteLength line = byteLength (blanks ++ loseIndent n line) := congrArg byteLength hsplit
      _ = n + byteLength (loseIndent n line) := by
        rw [Text.byteLength_append, hlength boundary]
  · calc
      indentWidth line = indentWidth (blanks ++ loseIndent n line) := congrArg indentWidth hsplit
      _ = n + indentWidth (loseIndent n line) := by
        rw [indentWidth_append hblanks, hlength boundary]
  · have hdrop : dropBytes? n line = none := by
      rw [← Option.not_isSome_iff_eq_none, Option.isSome_iff_exists, ← isBoundary_iff]
      exact astride
    rw [loseIndent, hdrop, Option.getD_none]
    exact isAtMargin_trimStart line

/-! ## The lines -/

theorem isLeast_sharedIndent (h : lines ≠ []) :
    IsLeast {width | ∃ line ∈ lines, indentWidth line = width} (sharedIndent lines) := by
  refine ⟨exists_indentWidth_eq h, ?_⟩
  rintro _ ⟨line, hline, rfl⟩
  exact sharedIndent_le hline

theorem forall₂_losesIndent (lines : List Text) :
    List.Forall₂ (LosesIndent (sharedIndent lines)) lines (unindent lines) := by
  rw [unindent_eq, List.forall₂_map_right_iff, List.forall₂_same]
  exact fun line hline => losesIndent_loseIndent (sharedIndent_le hline)

theorem unindent_unindent (lines : List Text) : unindent (unindent lines) = unindent lines := by
  by_cases h : lines = []
  · rw [h]
    rfl
  · exact unindent_of_isAtMargin (exists_isAtMargin_unindent h)

/-- **What unindenting removes.** The text of unindented lines has as many lines as before, in
their order, and each of them has lost the least indentation in bytes of all, or the whole of its
own if that ends inside a character. If there is a line, one begins at the margin, and to unindent
the text once more changes nothing. -/
theorem unindent_removes_shared (lines : List Text) (h : ∀ line ∈ lines, '\n' ∉ line) :
    (lines ≠ [] → cutLines (joinLines (unindent lines)) = unindent lines) ∧
    (∃ n, (lines ≠ [] → IsLeast {width | ∃ line ∈ lines, indentWidth line = width} n) ∧
      List.Forall₂ (LosesIndent n) lines (unindent lines)) ∧
    (lines ≠ [] → ∃ line ∈ unindent lines, line = [] ∨ ∃ c rest, line = c :: rest ∧
      isBlank c = false) ∧
    unindent (unindent lines) = unindent lines ∧
    joinLines (unindent (cutLines (joinLines (unindent lines)))) = joinLines (unindent lines) := by
  refine ⟨fun hne => cutLines_joinLines_unindent hne h,
    ⟨_, isLeast_sharedIndent, forall₂_losesIndent lines⟩, fun hne => ?_,
    unindent_unindent lines, ?_⟩
  · obtain ⟨line, hline, hmargin⟩ := exists_isAtMargin_unindent hne
    refine ⟨line, hline, ?_⟩
    cases line with
    | nil => exact .inl rfl
    | cons c rest => exact .inr ⟨c, rest, rfl, hmargin c rfl⟩
  · by_cases hne : lines = []
    · rw [hne]
      rfl
    · rw [cutLines_joinLines_unindent hne h, unindent_unindent]

/-- Two spaces end inside of the wide space of the second line, which is lost as a whole; the
third line keeps what goes beyond them. -/
theorem unindent_removes_shared_wide :
    let lines : List Text := ["  f x".toList, "\u3000g y".toList, "    h z".toList]
    (∀ line ∈ lines, '\n' ∉ line) ∧
      unindent lines = ["f x".toList, "g y".toList, "  h z".toList] ∧
      cutLines (joinLines (unindent lines)) = unindent lines := by
  intro lines
  have h : ∀ line ∈ lines, '\n' ∉ line := by decide
  exact ⟨h, by decide, (unindent_removes_shared lines h).1 (by decide)⟩

end Buildwatch
