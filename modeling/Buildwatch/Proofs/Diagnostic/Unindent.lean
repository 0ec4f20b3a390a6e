import Buildwatch.Diagnostic.Parse
import Buildwatch.Proofs.Text.Blank
import Buildwatch.Proofs.Text.Lines

/-!
# Unindenting

What a line loses when it is unindented is blank. Of the lines of a message one is left that
begins at the margin, and lines of which one does so stay as they are.
-/

namespace Buildwatch

open Text (isBlank byteLength cutLines dropBytes? indentWidth joinLines trimStart)

/-! ## Bytes -/

namespace Text

variable {s t u : Text} {n : Nat}

@[simp] theorem byteLength_append : byteLength (s ++ t) = byteLength s + byteLength t := by
  induction s with
  | nil => simp [byteLength]
  | cons c s ih => rw [List.cons_append, byteLength, byteLength, ih, Nat.add_assoc]

@[simp] theorem byteLength_eq_zero_iff : byteLength t = 0 ↔ t = [] := by
  cases t with
  | nil => simp [byteLength]
  | cons c t => simp [byteLength, Nat.ne_of_gt c.utf8Size_pos]

theorem dropBytes?_byteLength : dropBytes? (byteLength s) (s ++ t) = some t := by
  induction s with
  | nil => simp [byteLength, dropBytes?]
  | cons c s ih =>
    have hpos := c.utf8Size_pos
    have hsize : c.utf8Size + byteLength s = c.utf8Size - 1 + byteLength s + 1 := by omega
    have hrest : c.utf8Size - 1 + byteLength s + 1 - c.utf8Size = byteLength s := by omega
    rw [List.cons_append, byteLength, hsize, dropBytes?, if_pos (by omega), hrest, ih]

theorem dropBytes?_eq_some (h : dropBytes? n t = some u) :
    ∃ front, t = front ++ u ∧ byteLength front = n := by
  induction n, t using dropBytes?.induct with
  | case1 t =>
    rw [dropBytes?] at h
    cases h
    exact ⟨[], rfl, rfl⟩
  | case2 n => simp [dropBytes?] at h
  | case3 n c t hle ih =>
    rw [dropBytes?, if_pos hle] at h
    obtain ⟨front, rfl, hfront⟩ := ih h
    refine ⟨c :: front, rfl, ?_⟩
    rw [byteLength, hfront]
    omega
  | case4 n c t hlt => simp [dropBytes?, hlt] at h

end Text

/-! ## A line -/

/-- Whether a line has no blank at its start. -/
def IsAtMargin (line : Text) : Prop := ∀ c, line.head? = some c → isBlank c = false

/-- The line without `n` bytes of its indentation; without all of it if they end inside a
character. -/
def loseIndent (n : Nat) (line : Text) : Text := (dropBytes? n line).getD (trimStart line)

variable {n : Nat} {line blanks : Text} {lines : List Text}

theorem isAtMargin_trimStart (line : Text) : IsAtMargin (trimStart line) := by
  intro c hc
  exact Text.eq_false_of_head?_dropWhile hc

theorem indentWidth_of_isAtMargin (h : IsAtMargin line) : indentWidth line = 0 := by
  cases line with
  | nil => rfl
  | cons c line => simp [indentWidth, h c rfl, Text.byteLength]

theorem loseIndent_zero (line : Text) : loseIndent 0 line = line := by
  simp [loseIndent, dropBytes?]

theorem loseIndent_indentWidth (line : Text) :
    loseIndent (indentWidth line) line = trimStart line := by
  have hsplit : line = line.takeWhile isBlank ++ trimStart line :=
    List.takeWhile_append_dropWhile.symm
  have hdrop : dropBytes? (byteLength (line.takeWhile isBlank))
      (line.takeWhile isBlank ++ trimStart line) = some (trimStart line) :=
    Text.dropBytes?_byteLength
  rw [← hsplit] at hdrop
  rw [loseIndent, indentWidth, hdrop, Option.getD_some]

/-- A line loses blanks only. -/
theorem exists_blanks_loseIndent (h : n ≤ indentWidth line) :
    ∃ blanks, (∀ c ∈ blanks, isBlank c = true) ∧ line = blanks ++ loseIndent n line := by
  have hsplit : line = line.takeWhile isBlank ++ trimStart line :=
    List.takeWhile_append_dropWhile.symm
  unfold loseIndent
  cases hdrop : dropBytes? n line with
  | none => exact ⟨line.takeWhile isBlank, fun c => List.mem_takeWhile_imp, hsplit⟩
  | some rest =>
    obtain ⟨front, hfront, hlength⟩ := Text.dropBytes?_eq_some hdrop
    refine ⟨front, fun c hc => ?_, hfront⟩
    -- The indentation is a front of the line which is as long or longer.
    rcases List.prefix_or_prefix_of_prefix ⟨_, hfront.symm⟩ ⟨_, hsplit.symm⟩ with
      hle | ⟨more, hmore⟩
    · exact List.mem_takeWhile_imp (hle.subset hc)
    · rw [indentWidth, ← hlength, ← hmore, Text.byteLength_append] at h
      obtain rfl : more = [] := Text.byteLength_eq_zero_iff.1 (by omega)
      rw [← hmore, List.append_nil] at hc
      exact List.mem_takeWhile_imp hc

/-- Blanks at the start of a line do not tell whether it belongs to an excerpt. -/
theorem isExcerpt_append (h : ∀ c ∈ blanks, isBlank c = true) :
    isExcerpt (blanks ++ line) = isExcerpt line := by
  have hskip : ∀ c ∈ blanks, (isBlank c || Text.isDigit c) = true := by
    intro c hc
    rw [h c hc, Bool.true_or]
  rw [isExcerpt, List.dropWhile_append_of_pos hskip, isExcerpt]

/-! ## The lines of a message -/

/-- The bytes of indentation that the lines share. -/
def sharedIndent (lines : List Text) : Nat := (lines.map indentWidth).min?.getD 0

theorem unindent_eq (lines : List Text) :
    unindent lines = lines.map (loseIndent (sharedIndent lines)) := rfl

theorem sharedIndent_le (h : line ∈ lines) : sharedIndent lines ≤ indentWidth line := by
  have hmem : indentWidth line ∈ lines.map indentWidth := List.mem_map_of_mem h
  cases hmin : (lines.map indentWidth).min? with
  | none => simp [List.min?_eq_none_iff.1 hmin] at hmem
  | some width =>
    rw [sharedIndent, hmin]
    exact (List.min?_eq_some_iff.1 hmin).2 _ hmem

theorem exists_indentWidth_eq (h : lines ≠ []) :
    ∃ line ∈ lines, indentWidth line = sharedIndent lines := by
  cases hmin : (lines.map indentWidth).min? with
  | none => exact absurd (List.map_eq_nil_iff.1 (List.min?_eq_none_iff.1 hmin)) h
  | some width =>
    rw [sharedIndent, hmin]
    exact List.mem_map.1 (List.min?_eq_some_iff.1 hmin).1

/-- Some line is left without indentation. -/
theorem exists_isAtMargin_unindent (h : lines ≠ []) : ∃ line ∈ unindent lines, IsAtMargin line := by
  obtain ⟨line, hline, hwidth⟩ := exists_indentWidth_eq h
  refine ⟨trimStart line, ?_, isAtMargin_trimStart line⟩
  rw [unindent_eq, ← loseIndent_indentWidth, hwidth]
  exact List.mem_map_of_mem hline

/-- Lines of which one begins at the margin stay as they are. -/
theorem unindent_of_isAtMargin (h : ∃ line ∈ lines, IsAtMargin line) : unindent lines = lines := by
  obtain ⟨margin, hmem, hmargin⟩ := h
  have hshared : sharedIndent lines = 0 :=
    Nat.le_zero.1 (indentWidth_of_isAtMargin hmargin ▸ sharedIndent_le hmem)
  rw [unindent_eq, hshared]
  exact List.map_id'' loseIndent_zero lines

/-- What an unindented line was before. -/
theorem exists_blanks_of_mem_unindent (h : line ∈ unindent lines) :
    ∃ blanks, (∀ c ∈ blanks, isBlank c = true) ∧ blanks ++ line ∈ lines := by
  obtain ⟨original, horiginal, rfl⟩ := List.mem_map.1 (unindent_eq lines ▸ h)
  obtain ⟨blanks, hblanks, hsplit⟩ := exists_blanks_loseIndent (sharedIndent_le horiginal)
  exact ⟨blanks, hblanks, hsplit ▸ horiginal⟩

/-- Unindented lines are the lines of the text that they are joined to. -/
theorem cutLines_joinLines_unindent (hne : lines ≠ []) (h : ∀ line ∈ lines, '\n' ∉ line) :
    cutLines (joinLines (unindent lines)) = unindent lines := by
  refine Text.cutLines_joinLines (by simpa [unindent_eq] using hne) fun line hline hn => ?_
  obtain ⟨blanks, -, hmem⟩ := exists_blanks_of_mem_unindent hline
  exact h _ hmem (List.mem_append_right _ hn)

/-- A last line that is no excerpt line is none without its indentation. -/
theorem isExcerpt_getLast?_unindent
    (h : ∀ line, lines.getLast? = some line → isExcerpt line = false) :
    ∀ line, (unindent lines).getLast? = some line → isExcerpt line = false := by
  intro line hline
  rw [unindent_eq, List.getLast?_map, Option.map_eq_some_iff] at hline
  obtain ⟨original, horiginal, rfl⟩ := hline
  obtain ⟨blanks, hblanks, hsplit⟩ :=
    exists_blanks_loseIndent (sharedIndent_le (List.mem_of_getLast? horiginal))
  rw [← isExcerpt_append hblanks, ← hsplit]
  exact h original horiginal

end Buildwatch
