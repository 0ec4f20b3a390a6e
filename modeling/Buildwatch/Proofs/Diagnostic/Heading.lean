import Buildwatch.Diagnostic.Parse
import Buildwatch.Proofs.Diagnostic.Header

/-!
# The heading of a diagnostic

The file, the line, the column and the severity of a diagnostic are told by the first line
of its block; the other lines have no part in them.
-/

namespace Buildwatch

open Text (isBlank trimEnd)

namespace Diagnostic

/-- What the first line of a message tells. -/
def heading (d : Diagnostic) : Path × UInt32 × UInt32 × Severity :=
  (d.file, d.line, d.column, d.severity)

/-- The heading of a place and of the text after it. -/
def headingOf? (baseDir : Path) (place : Place) (rest : Text) :
    Option (Path × UInt32 × UInt32 × Severity) := do
  let line ← coordinate? place.line
  let column ← coordinate? place.column
  some (Path.join baseDir (String.ofList place.file), line, column,
    Severity.ofWord ((severityWord? rest).map (·.1)))

theorem word_ofText (t : Text) : (HeaderTail.ofText t).word = (severityWord? t).map (·.1) := by
  unfold HeaderTail.ofText
  cases severityWord? t <;> rfl

theorem map_heading_ofBlock? (baseDir : Path) (block : Text) :
    (ofBlock? baseDir block).map heading =
      (Place.ofLine? ((trimEnd block).takeWhile (· ≠ '\n'))).bind fun place =>
        headingOf? baseDir place (place.rest ++ (trimEnd block).dropWhile (· ≠ '\n')) := by
  unfold ofBlock? headingOf?
  dsimp only
  cases Place.ofLine? ((trimEnd block).takeWhile (· ≠ '\n')) with
  | none => rfl
  | some place =>
    cases hl : coordinate? place.line with
    | none => simp [hl]
    | some line =>
      cases hc : coordinate? place.column with
      | none => simp [hl, hc]
      | some column => simp [hl, hc, heading, word_ofText]

/-- A block of one line has the heading of that line. -/
theorem map_heading_line (baseDir : Path) {line : Text} (h : '\n' ∉ line) :
    (ofBlock? baseDir line).map heading =
      (Place.ofLine? (trimEnd line)).bind fun place => headingOf? baseDir place place.rest := by
  have ht : '\n' ∉ trimEnd line := fun hn => h ((Text.trimEnd_prefix line).sublist.mem hn)
  rw [map_heading_ofBlock?, Text.takeWhile_of_not_mem ht, Text.dropWhile_of_not_mem ht]
  simp

theorem ofBlock?_congr {baseDir : Path} {block block' : Text}
    (h : trimEnd block = trimEnd block') : ofBlock? baseDir block = ofBlock? baseDir block' := by
  simp only [ofBlock?, h]

/-- Lines below the first one, if they are not all blank, do not change the heading. -/
theorem map_heading_append (baseDir : Path) {line more : Text} (hline : '\n' ∉ line)
    (hmore : ∃ c ∈ more, isBlank c = false) :
    (ofBlock? baseDir (line ++ '\n' :: more)).map heading =
      (ofBlock? baseDir line).map heading := by
  -- Blanks at the end of the line are not trimmed when more follows.
  have htrim : trimEnd (line ++ '\n' :: more) = line ++ '\n' :: trimEnd more := by
    obtain ⟨c, hc, hblank⟩ := hmore
    rw [Text.trimEnd_append_of_exists ⟨c, List.mem_cons_of_mem _ hc, hblank⟩,
      ← List.singleton_append, Text.trimEnd_append_of_exists ⟨c, hc, hblank⟩]
    rfl
  obtain ⟨blanks, hblanks, hsplit⟩ := Text.exists_blanks line
  have hcolon : ':' ∉ blanks := fun h => absurd (hblanks _ h) (by decide)
  rw [map_heading_ofBlock?, htrim, Text.takeWhile_append_newline hline,
    Text.dropWhile_append_newline hline, map_heading_line baseDir hline]
  conv => lhs; rw [hsplit]
  rw [Place.ofLine?_append hcolon]
  cases Place.ofLine? (trimEnd line) with
  | none => rfl
  | some place =>
    simp only [Option.map_some, Option.bind_some, headingOf?, List.append_assoc,
      severityWord?_append hblanks]

/-- **The heading is told by the first line.** -/
theorem map_heading_eq_firstLine (baseDir : Path) (block : Text) :
    (ofBlock? baseDir block).map heading =
      (ofBlock? baseDir (block.takeWhile (· ≠ '\n'))).map heading := by
  have hline := Text.newline_not_mem_takeWhile block
  have hsplit : block = block.takeWhile (· ≠ '\n') ++ block.dropWhile (· ≠ '\n') :=
    List.takeWhile_append_dropWhile.symm
  rcases htail : block.dropWhile (· ≠ '\n') with _ | ⟨c, more⟩
  · rw [htail, List.append_nil] at hsplit
    rw [← hsplit]
  · obtain rfl : c = '\n' := by
      have hnewline := Text.eq_false_of_head?_dropWhile (congrArg List.head? htail)
      simpa using hnewline
    rw [htail] at hsplit
    by_cases hmore : ∃ c ∈ more, isBlank c = false
    · -- The text goes on below the first line.
      conv => lhs; rw [hsplit]
      exact map_heading_append baseDir hline hmore
    · -- All below the first line is trimmed away.
      have hblank : ∀ c ∈ '\n' :: more, isBlank c = true := by
        intro c hc
        rcases List.mem_cons.1 hc with rfl | hc
        · decide
        · exact Bool.not_eq_false _ ▸ fun h => hmore ⟨c, hc, h⟩
      conv => lhs; rw [hsplit]
      rw [ofBlock?_congr (Text.trimEnd_append_of_all hblank)]

end Diagnostic

end Buildwatch
