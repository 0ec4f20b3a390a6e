import Buildwatch.Proofs.Diagnostic.Grammar
import Buildwatch.Proofs.Diagnostic.Printing

/-!
# Printing what was read

Whatever is read from a block can be printed with its message as it is, and is read from there
as the same diagnostic. For this it is told what a diagnostic that was read can be.
-/

namespace Buildwatch

open Text (isWord cutLines joinLines trimEnd)

/-! ## Coordinates within a text -/

section Coordinates

variable {s t : Text}

theorem HoldsCoordinates.of_infix (h : HoldsCoordinates s) (hst : s <:+: t) :
    HoldsCoordinates t := by
  obtain ⟨front, line, column, rest, rfl, hline, hcolumn⟩ := h
  obtain ⟨before, after, rfl⟩ := hst
  exact ⟨before ++ front, line, column, rest ++ after, by simp [writtenCoordinates], hline, hcolumn⟩

/-- After the place with the longest file name come no more coordinates. -/
theorem Place.IsLongest.not_holdsCoordinates {place : Place} (h : place.IsLongest t) :
    ¬ HoldsCoordinates place.rest := by
  rintro ⟨front, line, column, rest, hrest, hline, hcolumn⟩
  obtain ⟨hwrites, hmax⟩ := h
  let file := place.file ++ ':' :: (place.line ++ ':' :: (place.column ++ ':' :: front))
  have hother : Place.Writes ⟨file, line, column, rest⟩ t := by
    refine ⟨?_, by simp [file], hline, hcolumn⟩
    rw [hwrites.line_eq, hrest]
    simp [file, writtenCoordinates]
  have hle : file.length ≤ place.file.length := hmax _ hother
  simp only [file, List.length_append, List.length_cons] at hle
  omega

end Coordinates

/-! ## The context -/

section Context

variable {t rest context : Text}

theorem bracketed?_eq_some (h : bracketed? t = some (context, rest)) :
    ∃ inner, t = '[' :: (inner ++ ']' :: rest) ∧ context = '[' :: (inner ++ [']']) ∧ inner ≠ [] ∧
      ']' ∉ inner := by
  unfold bracketed? at h
  split at h
  · next t =>
    dsimp only at h
    split at h
    · next c rest' hrest =>
      split at h
      · next hinner =>
        obtain rfl : c = ']' := by
          have hbracket := Text.eq_false_of_head?_dropWhile (congrArg List.head? hrest)
          simpa using hbracket
        cases h
        refine ⟨t.takeWhile (· ≠ ']'), ?_, rfl, hinner, fun hmem => ?_⟩
        · rw [← Text.eq_takeWhile_append hrest]
        · simpa using List.mem_takeWhile_imp hmem
      · cases h
    · cases h
  · cases h

/-- Only a severity word and blanks can stand before the context and the body. -/
theorem exists_word_ofText (t : Text) :
    ∃ word front u, t = front ++ u ∧ '\n' ∉ front ∧ HeaderTail.ofText t =
      { word
        context := (bracketed? (u.dropWhile isGap)).map (·.1)
        body := dropNewline ((((bracketed? (u.dropWhile isGap)).map (·.2)).getD
          (u.dropWhile isGap)).dropWhile isGap) } := by
  unfold HeaderTail.ofText
  cases hword : severityWord? t with
  | none =>
    refine ⟨none, [], t, rfl, by simp, ?_⟩
    dsimp only
    cases bracketed? (t.dropWhile isGap) <;> rfl
  | some read =>
    obtain ⟨word, rest⟩ := read
    obtain ⟨gap, heq, -, hgaps, -, hwords⟩ := severityWord?_eq_some_iff.1 hword
    have hnewline : '\n' ∉ gap ++ (word ++ [':']) := by
      have hblank : isWord '\n' = false := Text.not_isWord_of_isBlank (by decide)
      simp only [List.mem_append, List.mem_singleton, not_or]
      refine ⟨fun hn => ?_, fun hn => ?_, by decide⟩
      · exact absurd (hgaps _ hn) (by decide)
      · exact Bool.false_ne_true (hblank.symm.trans (hwords _ hn))
    refine ⟨some word, gap ++ (word ++ [':']), rest, by simp [heq], hnewline, ?_⟩
    dsimp only
    cases bracketed? (rest.dropWhile isGap) <;> rfl

theorem newline_not_mem_gaps (t : Text) : '\n' ∉ t.takeWhile isGap := fun hn =>
  absurd (List.mem_takeWhile_imp hn) (by decide)

/-- The context stands on the line of the place: no line ends before it. -/
theorem exists_bracketed?_of_ofText (h : (HeaderTail.ofText t).context = some context) :
    ∃ front u rest, t = front ++ u ∧ '\n' ∉ front ∧ bracketed? u = some (context, rest) := by
  obtain ⟨word, front, u, hsplit, hfront, htail⟩ := exists_word_ofText t
  rw [htail] at h
  obtain ⟨⟨_, rest⟩, hread, rfl⟩ := Option.map_eq_some_iff.1 h
  refine ⟨front ++ u.takeWhile isGap, u.dropWhile isGap, rest, ?_,
    by simp [hfront, newline_not_mem_gaps], hread⟩
  rw [List.append_assoc, List.takeWhile_append_dropWhile, ← hsplit]

/-- A context on a line of which the place has the longest file name can be printed. -/
theorem isReadableContext_of_ofText {line below : Text} (hline : '\n' ∉ line)
    (hbelow : below.takeWhile (· ≠ '\n') = []) (hlast : ¬ HoldsCoordinates line)
    (h : (HeaderTail.ofText (line ++ below)).context = some context) :
    IsReadableContext context := by
  obtain ⟨front, u, rest, hsplit, hfront, hread⟩ := exists_bracketed?_of_ofText h
  obtain ⟨inner, rfl, hcontext, hne, hbracket⟩ := bracketed?_eq_some hread
  refine ⟨inner, hcontext, hne, hbracket, fun hinner => hlast (hinner.of_infix ?_)⟩
  -- What the brackets hold of the first line is a part of the line.
  have hopening : '\n' ∉ front ++ ['['] := by simp [hfront]
  have htake : line = front ++ '[' :: (inner ++ ']' :: rest).takeWhile (· ≠ '\n') := by
    have hfirst := congrArg (List.takeWhile (· ≠ '\n')) hsplit
    rw [List.takeWhile_append_of_pos (Text.all_ne_newline hline), hbelow, List.append_nil,
      ← List.singleton_append, ← List.append_assoc,
      List.takeWhile_append_of_pos (Text.all_ne_newline hopening), List.append_assoc] at hfirst
    exact hfirst
  have hprefix : inner.takeWhile (· ≠ '\n') <+: (inner ++ ']' :: rest).takeWhile (· ≠ '\n') := by
    rw [List.takeWhile_append]
    split
    · exact (List.takeWhile_prefix _).trans (List.prefix_append _ _)
    · exact List.prefix_rfl
  rw [htake]
  exact hprefix.isInfix.trans ⟨front ++ ['['], [], by simp⟩

end Context

/-! ## What can be read -/

/-- Whether a diagnostic can be printed with its message as it is: a line of the message begins
at the margin, and the last line is not taken for an excerpt. -/
structure Diagnostic.Readable (d : Diagnostic) : Prop extends d.HeaderReadable where
  margin : ∃ line ∈ cutLines d.message.toList, IsAtMargin line
  last : ∀ line, (cutLines d.message.toList).getLast? = some line → isExcerpt line = false

theorem lt_of_coordinate? {digits : Text} {n : UInt32} (hne : digits ≠ [])
    (h : coordinate? digits = some n) : n.toNat < maxCoordinate := by
  obtain ⟨⟨-, hle⟩, hn⟩ := (coordinate?_eq_some_iff hne).1 h
  have hmax : 0 < maxCoordinate := by decide
  omega

theorem splitExcerpt_last {lines : List Text} :
    ∀ line, (splitExcerpt lines).1.getLast? = some line → isExcerpt line = false := by
  intro line hline
  rw [splitExcerpt, List.getLast?_reverse] at hline
  exact Text.eq_false_of_head?_dropWhile hline

theorem mem_of_mem_splitExcerpt {lines : List Text} {line : Text}
    (h : line ∈ (splitExcerpt lines).1) : line ∈ lines :=
  List.mem_reverse.1 ((List.dropWhile_sublist _).subset (List.mem_reverse.1 h))

/-- The lines of a message are those that are left of the body without their indentation. -/
theorem cutLines_unindent {body : Text} (h : (splitExcerpt (cutLines body)).1 ≠ []) :
    cutLines (joinLines (unindent (splitExcerpt (cutLines body)).1)) =
      unindent (splitExcerpt (cutLines body)).1 :=
  cutLines_joinLines_unindent h fun _ hline =>
    Text.not_mem_of_mem_cutLines (mem_of_mem_splitExcerpt hline)

/-- The message of a block has a line at the margin, and does not end with an excerpt line. -/
theorem message_of_splitExcerpt (body : Text) :
    (∃ line ∈ cutLines (joinLines (unindent (splitExcerpt (cutLines body)).1)), IsAtMargin line) ∧
      ∀ line, (cutLines (joinLines (unindent (splitExcerpt (cutLines body)).1))).getLast? =
        some line → isExcerpt line = false := by
  by_cases hnil : (splitExcerpt (cutLines body)).1 = []
  · -- All lines belong to the excerpt, and the message is empty.
    rw [hnil]
    refine ⟨⟨[], List.mem_singleton.2 rfl, by rintro c ⟨⟩⟩, ?_⟩
    rintro line ⟨⟩
    rfl
  · rw [cutLines_unindent hnil]
    exact ⟨exists_isAtMargin_unindent hnil, isExcerpt_getLast?_unindent splitExcerpt_last⟩

namespace Diagnostic

variable {d : Diagnostic} {baseDir : Path} {block : Text}

/-- Whether a diagnostic is what a place and the text after it give. -/
structure ReadsAs (baseDir : Path) (place : Place) (tail : HeaderTail) (d : Diagnostic) :
    Prop where
  file_eq : d.file = Path.join baseDir (String.ofList place.file)
  line_eq : coordinate? place.line = some d.line
  column_eq : coordinate? place.column = some d.column
  endColumn_eq : d.endColumn = UInt32.ofNat (min maxCoordinate
    (d.column.toNat + underlineWidth (splitExcerpt (cutLines tail.body)).2))
  severity_eq : d.severity = Severity.ofWord tail.word
  message_eq : d.message.toList = joinLines (unindent (splitExcerpt (cutLines tail.body)).1)
  context_eq : d.context = tail.context.map String.ofList

theorem exists_readsAs (h : ofBlock? baseDir block = some d) :
    ∃ place : Place, place.IsLongest ((trimEnd block).takeWhile (· ≠ '\n')) ∧
      ReadsAs baseDir place
        (HeaderTail.ofText (place.rest ++ (trimEnd block).dropWhile (· ≠ '\n'))) d := by
  unfold ofBlock? at h
  dsimp only at h
  obtain ⟨place, hplace, h⟩ := Option.bind_eq_some_iff.1 h
  obtain ⟨line, hline, h⟩ := Option.bind_eq_some_iff.1 h
  obtain ⟨column, hcolumn, h⟩ := Option.bind_eq_some_iff.1 h
  cases h
  exact ⟨place, Place.ofLine?_eq_some_iff.1 hplace, rfl, hline, hcolumn, rfl, rfl,
    String.toList_ofList, rfl⟩

theorem ReadsAs.toNat_endColumn {place : Place} {tail : HeaderTail}
    (h : ReadsAs baseDir place tail d) : d.endColumn.toNat = min maxCoordinate
      (d.column.toNat + underlineWidth (splitExcerpt (cutLines tail.body)).2) := by
  have hlt : min maxCoordinate (d.column.toNat +
      underlineWidth (splitExcerpt (cutLines tail.body)).2) < UInt32.size :=
    Nat.lt_of_le_of_lt (Nat.min_le_left _ _) (Nat.lt_succ_self maxCoordinate)
  rw [h.endColumn_eq, UInt32.toNat_ofNat_of_lt' hlt]

/-- At least one column is underlined. -/
theorem ReadsAs.lt_endColumn {place : Place} {tail : HeaderTail}
    (h : ReadsAs baseDir place tail d) (hcolumn : d.column.toNat < maxCoordinate) :
    d.column < d.endColumn := by
  have hwidth : 1 ≤ underlineWidth (splitExcerpt (cutLines tail.body)).2 := Nat.le_max_left _ _
  rw [UInt32.lt_iff_toNat_lt, h.toNat_endColumn]
  exact Nat.lt_min.2 ⟨hcolumn, by omega⟩

/-- A diagnostic that was read is about a text if it was read from within one. -/
theorem ReadsAs.isText_file {place : Place} {tail : HeaderTail} (h : ReadsAs baseDir place tail d)
    (htext : baseDir.IsText) : d.file.IsText :=
  h.file_eq ▸ Path.isText_join htext ⟨String.ofList place.file, rfl⟩

/-- **What is read from a block can be printed as it is**, with its file as it is shown. -/
theorem readable_of_ofBlock? (habsolute : Path.isAbsolute baseDir = true)
    (hnewline : '\n' ∉ baseDir.display.toList) (h : ofBlock? baseDir block = some d) :
    d.shown.Readable := by
  obtain ⟨place, hlongest, hread⟩ := exists_readsAs h
  obtain ⟨heq, -, hlines, hcolumns⟩ := hlongest.1
  -- File and rest of the heading stand on the first line, which has no newline.
  have hfirst := Text.newline_not_mem_takeWhile (trimEnd block)
  rw [heq] at hfirst
  have hfile : '\n' ∉ (Path.ofString (String.ofList place.file)).display.toList := by
    rw [Path.display_ofString, String.toList_ofList]
    exact fun hn => hfirst (List.mem_append_left _ hn)
  have hrest : '\n' ∉ place.rest := fun hn =>
    hfirst (List.mem_append_right _ (by simp [writtenCoordinates, hn]))
  have hcolumn := lt_of_coordinate? hcolumns.1 hread.column_eq
  obtain ⟨hmargin, hlast⟩ := message_of_splitExcerpt
    (HeaderTail.ofText (place.rest ++ (trimEnd block).dropWhile (· ≠ '\n'))).body
  rw [← hread.message_eq] at hmargin hlast
  refine {
    file_text := ⟨d.file.display, rfl⟩
    absolute := Path.isAbsolute_display (hread.file_eq ▸ Path.isAbsolute_join habsolute)
    file_line := ?_
    line_lt := lt_of_coordinate? hlines.1 hread.line_eq
    column_lt := hcolumn
    underlined := hread.lt_endColumn hcolumn
    context := fun context hcontext => ?_
    margin := hmargin
    last := hlast }
  · rw [display_file_shown, hread.file_eq]
    exact Path.not_mem_join (b := 0x0A) (by decide) (by decide) hnewline hfile
  · replace hcontext : d.context = some context := hcontext
    rw [hread.context_eq] at hcontext
    obtain ⟨text, htext, rfl⟩ := Option.map_eq_some_iff.1 hcontext
    rw [String.toList_ofList]
    exact isReadableContext_of_ofText hrest Text.takeWhile_dropWhile
      hlongest.not_holdsCoordinates htext

/-! ## Printing it -/

/-- The text of a diagnostic with its message as it is, below the header and above the excerpt. -/
def printVerbatim (d : Diagnostic) : Text :=
  d.printedHeader ++ '\n' :: (d.message.toList ++ '\n' :: d.printedExcerpt)

theorem printVerbatim_shown (d : Diagnostic) : d.shown.printVerbatim = d.printVerbatim := by
  simp only [printVerbatim, printedHeader, display_file_shown]
  rfl

theorem ofBlock?_printVerbatim (baseDir : Path) (h : d.Readable) :
    ofBlock? baseDir d.printVerbatim = some d := by
  have hne : cutLines d.message.toList ≠ [] := Text.cutAt_ne_nil
  have hprint : d.printVerbatim =
      d.printedHeader ++ '\n' :: joinLines (cutLines d.message.toList ++ [d.printedExcerpt]) := by
    rw [Text.joinLines_concat hne, Text.joinLines_cutLines]
    rfl
  rw [hprint]
  exact ofBlock?_printedHeader baseDir h.toHeaderReadable hne
    (fun line hline => Text.not_mem_of_mem_cutLines hline) h.last (unindent_of_isAtMargin h.margin)

end Diagnostic

end Buildwatch
