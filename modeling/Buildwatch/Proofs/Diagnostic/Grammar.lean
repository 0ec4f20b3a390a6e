import Buildwatch.Proofs.Diagnostic.Heading
import Buildwatch.Proofs.Path

/-!
# The grammar of a header

A block is a diagnostic exactly if its first line is written as a place whose coordinates are
numbers within the limit. Of the ways to write the line, the one with the longest file name
counts, and it tells the file, the line, the column and the severity.
-/

namespace Buildwatch

open Text (isBlank isWord trimEnd)

/-! ## Places -/

namespace Place

variable {t : Text} {place other : Place}

/-- Whether the line is written as this place: a file, two numerals, and the rest. -/
structure Writes (place : Place) (line : Text) : Prop where
  line_eq : line = place.file ++ writtenCoordinates place.line place.column place.rest
  file_ne : place.file ≠ []
  isNumeral_line : IsNumeral place.line
  isNumeral_column : IsNumeral place.column

/-- Whether the line is written as this place, and as no place with a longer file name. -/
def IsLongest (place : Place) (line : Text) : Prop :=
  place.Writes line ∧ ∀ other : Place, other.Writes line → other.file.length ≤ place.file.length

theorem writes_of_ofLine? (h : ofLine? t = some place) : place.Writes t := by
  obtain ⟨heq, hfile, hline, hcolumn⟩ := ofLine?_eq_some h
  exact ⟨heq, hfile, hline, hcolumn⟩

/-- The place that is read has the longest file name. -/
theorem Writes.exists_ofLine? (h : other.Writes t) :
    ∃ place, ofLine? t = some place ∧ other.file.length ≤ place.file.length := by
  induction t generalizing other with
  | nil =>
    have hnil := h.line_eq
    simp [writtenCoordinates] at hnil
  | cons c t ih =>
    obtain ⟨file, line, column, rest⟩ := other
    obtain ⟨heq, hfile, hline, hcolumn⟩ := h
    obtain ⟨d, file, rfl⟩ := List.exists_cons_of_ne_nil hfile
    obtain ⟨rfl, ht⟩ := List.cons.inj heq
    rw [ofLine?]
    by_cases hnil : file = []
    · -- The file name has one character, which is the least that there can be.
      subst hnil
      have hcoordinates := coordinates?_eq_some_iff.2 ⟨ht, hline, hcolumn⟩
      cases ofLine? t with
      | some inner => exact ⟨_, rfl, by simp⟩
      | none => exact ⟨_, congrArg (Option.map _) hcoordinates, by simp⟩
    · have hinner : Writes ⟨file, line, column, rest⟩ t := ⟨ht, hnil, hline, hcolumn⟩
      obtain ⟨inner, hread, hle⟩ := ih hinner
      rw [hread]
      exact ⟨_, rfl, Nat.succ_le_succ hle⟩

/-- The length of the file name tells the way in which a line is written. -/
theorem Writes.eq_of_length_eq (h : place.Writes t) (h' : other.Writes t)
    (hlength : place.file.length = other.file.length) : place = other := by
  obtain ⟨file, line, column, rest⟩ := place
  obtain ⟨file', line', column', rest'⟩ := other
  obtain ⟨hfile, hcoordinates⟩ := List.append_inj (h.line_eq.symm.trans h'.line_eq) hlength
  have hread : coordinates? (writtenCoordinates line column rest) = some (line, column, rest) :=
    coordinates?_eq_some_iff.2 ⟨rfl, h.isNumeral_line, h.isNumeral_column⟩
  have hread' := coordinates?_eq_some_iff.2 ⟨hcoordinates, h'.isNumeral_line, h'.isNumeral_column⟩
  rw [hread] at hread'
  cases hfile
  cases hread'
  rfl

theorem ofLine?_eq_some_iff : ofLine? t = some place ↔ place.IsLongest t := by
  constructor
  · intro h
    refine ⟨writes_of_ofLine? h, fun other hother => ?_⟩
    obtain ⟨longest, hlongest, hle⟩ := hother.exists_ofLine?
    rw [h] at hlongest
    cases hlongest
    exact hle
  · rintro ⟨hwrites, hmax⟩
    obtain ⟨longest, hlongest, hle⟩ := hwrites.exists_ofLine?
    have hwrites' := writes_of_ofLine? hlongest
    rw [hlongest, hwrites'.eq_of_length_eq hwrites (Nat.le_antisymm (hmax _ hwrites') hle)]

end Place

/-! ## Coordinates -/

/-- Whether the numeral is a number within the limit, in the digits of ASCII. -/
def IsNumber (digits : Text) : Prop :=
  (∀ c ∈ digits, c.isDigit = true) ∧ Nat.ofDigitChars 10 digits 0 ≤ maxCoordinate

theorem coordinate?_eq_some_iff {digits : Text} {n : UInt32} (hne : digits ≠ []) :
    coordinate? digits = some n ↔
      IsNumber digits ∧ n.toNat = Nat.ofDigitChars 10 digits 0 - 1 := by
  have hnumeral : Text.numeral digits = Nat.ofDigitChars 10 digits 0 := rfl
  have hvalue (hle : Nat.ofDigitChars 10 digits 0 ≤ maxCoordinate) :
      (UInt32.ofNat (Nat.ofDigitChars 10 digits 0 - 1)).toNat =
        Nat.ofDigitChars 10 digits 0 - 1 :=
    UInt32.toNat_ofNat_of_lt' (Nat.lt_of_le_of_lt (Nat.sub_le _ _) (Nat.lt_succ_of_le hle))
  unfold coordinate? Text.numeralUpTo?
  rw [hnumeral]
  constructor
  · intro h
    split at h
    · next hcond =>
      obtain ⟨-, hascii, hle⟩ := hcond
      cases h
      exact ⟨⟨List.all_eq_true.1 hascii, hle⟩, hvalue hle⟩
    · cases h
  · rintro ⟨⟨hascii, hle⟩, htoNat⟩
    rw [if_pos ⟨hne, List.all_eq_true.2 hascii, hle⟩]
    exact congrArg some (UInt32.toNat_inj.1 ((hvalue hle).trans htoNat.symm))

theorem isSome_coordinate?_iff {digits : Text} (hne : digits ≠ []) :
    (coordinate? digits).isSome = true ↔ IsNumber digits := by
  rw [Option.isSome_iff_exists]
  constructor
  · rintro ⟨n, hn⟩
    exact ((coordinate?_eq_some_iff hne).1 hn).1
  · intro h
    have hlt : Nat.ofDigitChars 10 digits 0 - 1 < UInt32.size :=
      Nat.lt_of_le_of_lt (Nat.sub_le _ _) (Nat.lt_succ_of_le h.2)
    exact ⟨_, (coordinate?_eq_some_iff hne).2 ⟨h, UInt32.toNat_ofNat_of_lt' hlt⟩⟩

/-! ## The severity -/

/-- Whether the text begins with blanks, the word `warning` in capitals or not, and a colon. -/
def SaysWarning (t : Text) : Prop :=
  ∃ gap word rest, t = gap ++ (word ++ ':' :: rest) ∧ gap ≠ [] ∧
    (∀ c ∈ gap, c = ' ' ∨ c = '\t') ∧ word.map Char.toLower = "warning".toList

theorem ofWord_some_eq_warning_iff {word : Text} :
    Severity.ofWord (some word) = .warning ↔ word.map Char.toLower = "warning".toList := by
  have hlower : "warning".toList.map Char.toLower = "warning".toList := by decide
  have hsame : Text.sameIgnoringCase "warning".toList word = true ↔
      word.map Char.toLower = "warning".toList := by
    rw [Text.sameIgnoringCase, hlower, beq_iff_eq, eq_comm]
  rw [← hsame, Severity.ofWord, Option.any_some]
  split
  · next h => exact iff_of_true rfl h
  · next h => exact iff_of_false Severity.noConfusion h

/-- The letters of `warning`, in capitals or not, may stand in words. -/
theorem isWord_of_mem_warning {word : Text} (h : word.map Char.toLower = "warning".toList) :
    ∀ c ∈ word, isWord c = true := by
  have hletters : "warning".toList.all Char.isAlpha = true := by decide
  intro c hc
  have hlower : c.toLower ∈ word.map Char.toLower := List.mem_map_of_mem hc
  rw [h] at hlower
  exact Text.isWord_of_isAlpha (Text.isAlpha_of_toLower (List.all_eq_true.1 hletters _ hlower))

theorem ofWord_eq_warning_iff {t : Text} :
    Severity.ofWord ((severityWord? t).map (·.1)) = .warning ↔ SaysWarning t := by
  constructor
  · intro h
    cases hread : severityWord? t with
    | none =>
      rw [hread] at h
      exact Severity.noConfusion h
    | some read =>
      obtain ⟨gap, heq, hgap, hgaps, -, -⟩ := severityWord?_eq_some_iff.1 hread
      rw [hread] at h
      exact ⟨gap, read.1, read.2, heq, hgap, fun c hc => isGap_iff.1 (hgaps c hc),
        ofWord_some_eq_warning_iff.1 h⟩
  · rintro ⟨gap, word, rest, heq, hgap, hgaps, hwarning⟩
    have hword : word ≠ [] := by
      rintro rfl
      exact List.cons_ne_nil _ _ hwarning.symm
    rw [severityWord?_eq_some_iff.2 ⟨gap, heq, hgap, fun c hc => isGap_iff.2 (hgaps c hc), hword,
      isWord_of_mem_warning hwarning⟩]
    exact ofWord_some_eq_warning_iff.2 hwarning

/-! ## The first line -/

/-- Blanks at the end of a line do not change its severity word. -/
theorem severityWord?_append_blanks {t blanks : Text} (h : ∀ c ∈ blanks, isBlank c = true) :
    (severityWord? (t ++ blanks)).map (·.1) = (severityWord? t).map (·.1) := by
  have hline := @severityWord?_append (t ++ blanks) [] [] (by simp)
  have hfront := @severityWord?_append t blanks [] h
  rw [← hline, ← hfront, List.nil_append, List.append_assoc]

namespace Diagnostic

variable {baseDir : Path} {block first blanks : Text}

/-- The heading is that of the first line, with or without the blanks at its end. -/
theorem map_heading_first (hfirst : block.takeWhile (· ≠ '\n') = first ++ blanks)
    (hblanks : ∀ c ∈ blanks, isBlank c = true) :
    (ofBlock? baseDir block).map heading =
      (Place.ofLine? first).bind fun place => headingOf? baseDir place place.rest := by
  have hnewline := Text.newline_not_mem_takeWhile block
  obtain ⟨more, hmore, hsplit⟩ := Text.exists_blanks first
  have hcolon : ':' ∉ more := fun h => absurd (hmore _ h) (by decide)
  have htrim : trimEnd (block.takeWhile (· ≠ '\n')) = trimEnd first := by
    rw [hfirst, Text.trimEnd_append_of_all hblanks]
  rw [map_heading_eq_firstLine, map_heading_line baseDir hnewline, htrim]
  conv => rhs; rw [hsplit, Place.ofLine?_append hcolon]
  cases Place.ofLine? (trimEnd first) with
  | none => rfl
  | some place =>
    simp only [Option.map_some, Option.bind_some, headingOf?, severityWord?_append_blanks hmore]

/-- To trim a block takes at most the blanks at the end of its first line. -/
theorem exists_firstLine_trimEnd (block : Text) :
    ∃ blanks, block.takeWhile (· ≠ '\n') = (trimEnd block).takeWhile (· ≠ '\n') ++ blanks ∧
      ∀ c ∈ blanks, isBlank c = true := by
  obtain ⟨blanks, hblanks, hsplit⟩ := Text.exists_blanks block
  have hfirst : block.takeWhile (· ≠ '\n') = (trimEnd block ++ blanks).takeWhile (· ≠ '\n') := by
    rw [← hsplit]
  rw [List.takeWhile_append] at hfirst
  split at hfirst
  · next hlength =>
    have hall := (List.takeWhile_prefix (· ≠ '\n')).eq_of_length hlength
    refine ⟨blanks.takeWhile (· ≠ '\n'), by rw [hall]; exact hfirst, fun c hc => ?_⟩
    exact hblanks c ((List.takeWhile_prefix _).subset hc)
  · exact ⟨[], by rw [hfirst, List.append_nil], by simp⟩

end Diagnostic

/-! ## Accepting -/

/-- Whether a diagnostic says what a place tells: its file, seen from `baseDir` if it is
relative, its coordinates counted from zero, and the severity in the text after it. -/
structure Place.Tells (baseDir : Path) (place : Place) (d : Diagnostic) : Prop where
  file_eq : d.file =
    if Path.isAbsolute (String.ofList place.file) then Path.ofString (String.ofList place.file)
    else Path.join baseDir (String.ofList place.file)
  line_eq : d.line.toNat = Nat.ofDigitChars 10 place.line 0 - 1
  column_eq : d.column.toNat = Nat.ofDigitChars 10 place.column 0 - 1
  severity_iff : d.severity = .warning ↔ SaysWarning place.rest

namespace Diagnostic

variable {baseDir : Path} {place : Place} {rest : Text}

theorem headingOf?_eq_some_iff {file : Path} {line column : UInt32} {severity : Severity} :
    headingOf? baseDir place rest = some (file, line, column, severity) ↔
      Path.join baseDir (String.ofList place.file) = file ∧
        coordinate? place.line = some line ∧ coordinate? place.column = some column ∧
        Severity.ofWord ((severityWord? rest).map (·.1)) = severity := by
  unfold headingOf?
  cases coordinate? place.line <;> cases coordinate? place.column <;> simp

theorem isSome_headingOf? :
    (headingOf? baseDir place rest).isSome =
      ((coordinate? place.line).isSome && (coordinate? place.column).isSome) := by
  unfold headingOf?
  cases coordinate? place.line <;> cases coordinate? place.column <;> rfl

/-- The heading of a place is accepted if its coordinates are numbers, and tells them. -/
theorem tells_of_heading {d : Diagnostic} {line : Text} (hplace : place.Writes line)
    (h : headingOf? baseDir place place.rest = some d.heading) : place.Tells baseDir d := by
  obtain ⟨hfile, hline, hcolumn, hseverity⟩ := headingOf?_eq_some_iff.1 h
  refine ⟨?_, ((coordinate?_eq_some_iff hplace.isNumeral_line.1).1 hline).2,
    ((coordinate?_eq_some_iff hplace.isNumeral_column.1).1 hcolumn).2, ?_⟩
  · rw [← hfile]
    split
    · next habsolute => exact Path.join_of_isAbsolute habsolute
    · rfl
  · rw [← hseverity]
    exact ofWord_eq_warning_iff

/-- **A block is a diagnostic exactly if its first line is in the grammar**, whether the blanks
at its end are dropped or only those at the end of the block. The diagnostic says what is
written there. -/
theorem ofBlock?_grammar (baseDir : Path) (block first : Text)
    (hfirst : first ∈
      [trimEnd (block.takeWhile (· ≠ '\n')), (trimEnd block).takeWhile (· ≠ '\n')]) :
    ((ofBlock? baseDir block).isSome = true ↔
        ∃ place : Place, place.IsLongest first ∧ IsNumber place.line ∧ IsNumber place.column) ∧
      ∀ d, ofBlock? baseDir block = some d →
        ∀ place : Place, place.IsLongest first → place.Tells baseDir d := by
  obtain ⟨blanks, hsplit, hblanks⟩ : ∃ blanks, block.takeWhile (· ≠ '\n') = first ++ blanks ∧
      ∀ c ∈ blanks, isBlank c = true := by
    rcases List.mem_pair.1 hfirst with rfl | rfl
    · obtain ⟨blanks, hblanks, hsplit⟩ := Text.exists_blanks (block.takeWhile (· ≠ '\n'))
      exact ⟨blanks, hsplit, hblanks⟩
    · exact exists_firstLine_trimEnd block
  have hheading := @map_heading_first baseDir _ _ _ hsplit hblanks
  have hof (place : Place) (hplace : place.IsLongest first) :
      (ofBlock? baseDir block).map heading = headingOf? baseDir place place.rest := by
    rw [hheading, Place.ofLine?_eq_some_iff.2 hplace, Option.bind_some]
  have hnumber (place : Place) (hplace : place.IsLongest first) :
      (ofBlock? baseDir block).isSome = true ↔ IsNumber place.line ∧ IsNumber place.column := by
    have hsome : (ofBlock? baseDir block).isSome = (headingOf? baseDir place place.rest).isSome :=
      hof place hplace ▸ Option.isSome_map.symm
    rw [hsome, isSome_headingOf?, Bool.and_eq_true,
      isSome_coordinate?_iff hplace.1.isNumeral_line.1,
      isSome_coordinate?_iff hplace.1.isNumeral_column.1]
  refine ⟨⟨fun h => ?_, ?_⟩, fun d hd place hplace => ?_⟩
  · -- Where no place is read there is no heading.
    cases hread : Place.ofLine? first with
    | none =>
      rw [hread, Option.bind_none, Option.map_eq_none_iff] at hheading
      simp [hheading] at h
    | some place =>
      have hplace := Place.ofLine?_eq_some_iff.1 hread
      exact ⟨place, hplace, (hnumber place hplace).1 h⟩
  · rintro ⟨place, hplace, hnumbers⟩
    exact (hnumber place hplace).2 hnumbers
  · refine tells_of_heading hplace.1 ?_
    rw [← hof place hplace, hd, Option.map_some]

/-- A file name with a place in it, and a word in capitals. -/
theorem ofBlock?_grammar_two_places :
    let block := "a:1:2:3: WARNING: x  \n  y".toList
    let place : Place := ⟨"a:1".toList, ['2'], ['3'], " WARNING: x".toList⟩
    trimEnd (block.takeWhile (· ≠ '\n')) = "a:1:2:3: WARNING: x".toList ∧
      place.IsLongest "a:1:2:3: WARNING: x".toList ∧
      ∃ d, ofBlock? "/base" block = some d ∧ place.Tells "/base" d := by
  intro block place
  have htrim : trimEnd (block.takeWhile (· ≠ '\n')) = "a:1:2:3: WARNING: x".toList := by decide
  have hplace : place.IsLongest "a:1:2:3: WARNING: x".toList :=
    Place.ofLine?_eq_some_iff.1 (by decide)
  obtain ⟨hiff, htells⟩ := ofBlock?_grammar "/base" block "a:1:2:3: WARNING: x".toList
    (htrim ▸ List.mem_cons_self)
  have hline : IsNumber place.line := ⟨List.all_eq_true.1 rfl, by decide⟩
  have hcolumn : IsNumber place.column := ⟨List.all_eq_true.1 rfl, by decide⟩
  have hsome := hiff.2 ⟨place, hplace, hline, hcolumn⟩
  obtain ⟨d, hd⟩ := Option.isSome_iff_exists.1 hsome
  exact ⟨htrim, hplace, d, hd, htells d hd place hplace⟩

end Diagnostic

end Buildwatch
