import Buildwatch.Diagnostic.Parse
import Buildwatch.Proofs.Diagnostic.Header
import Buildwatch.Proofs.Diagnostic.Unindent
import Buildwatch.Proofs.Path
import Buildwatch.Proofs.Text.Digit

/-!
# Printed diagnostics

A diagnostic is printed as compilers do it: a header with its place, its severity and its
context, the lines of its message with an indentation, and an excerpt with carets under the
place. What is printed can be read again, and gives the same diagnostic.
-/

namespace Buildwatch

open Text (isBlank isDigit isWord cutLines joinLines indentWidth dropBytes? trimEnd
  takeWhile_append_cons dropWhile_append_cons)

/-! ## Printing -/

/-- The word that stands for a severity. -/
def Severity.word : Severity → Text
  | .warning => "warning".toList
  | .error => "error".toList

/-- A line with an indentation of four columns. -/
def indented (line : Text) : Text := "    ".toList ++ line

/-- The end of a header: the context, if there is one. -/
def printedContext : Option String → Text
  | none => []
  | some context => ' ' :: context.toList

namespace Diagnostic

/-- What a header has after its place. -/
def printedTail (d : Diagnostic) : Text :=
  ' ' :: (d.severity.word ++ ':' :: printedContext d.context)

/-- The header of a diagnostic. Lines and columns are printed as counted from one. -/
def printedHeader (d : Diagnostic) : Text :=
  d.file.display.toList ++ writtenCoordinates (Nat.toDigits 10 (d.line.toNat + 1))
    (Nat.toDigits 10 (d.column.toNat + 1)) d.printedTail

/-- The line with the carets that underline the place. -/
def printedExcerpt (d : Diagnostic) : Text :=
  "  | ".toList ++ List.replicate (d.endColumn.toNat - d.column.toNat) '^'

/-- The lines of a diagnostic. -/
def printedLines (d : Diagnostic) : List Text :=
  d.printedHeader :: ((cutLines d.message.toList).map indented ++ [d.printedExcerpt])

/-- The diagnostic with its file as it is shown, which is what can be told from its text. -/
def shown (d : Diagnostic) : Diagnostic := { d with file := d.file.display }

@[simp] theorem display_file_shown (d : Diagnostic) : d.shown.file.display = d.file.display :=
  Path.display_ofString _

theorem shown_eq_self {d : Diagnostic} (h : d.file.IsText) : d.shown = d := by
  rw [shown, Path.isText_iff.1 h]

/-- The text of a diagnostic. -/
def print (d : Diagnostic) : Text := joinLines d.printedLines

end Diagnostic

/-! ## What can be read again -/

/-- Whether a context is a text in brackets that cannot be taken for a place. -/
def IsPrintableContext (context : Text) : Prop :=
  ∃ inner, context = '[' :: (inner ++ [']']) ∧ inner ≠ [] ∧ ']' ∉ inner ∧ '\n' ∉ inner ∧
    ¬ HoldsCoordinates inner

/-- Whether a context is a text in brackets of which the first line cannot be taken for a place. -/
def IsReadableContext (context : Text) : Prop :=
  ∃ inner, context = '[' :: (inner ++ [']']) ∧ inner ≠ [] ∧ ']' ∉ inner ∧
    ¬ HoldsCoordinates (inner.takeWhile (· ≠ '\n'))

/-- Whether what a header tells of a diagnostic is read as it is printed. -/
structure Diagnostic.HeaderReadable (d : Diagnostic) : Prop where
  file_text : d.file.IsText
  absolute : Path.isAbsolute d.file = true
  file_line : '\n' ∉ d.file.display.toList
  line_lt : d.line.toNat < maxCoordinate
  column_lt : d.column.toNat < maxCoordinate
  underlined : d.column < d.endColumn
  context : ∀ context, d.context = some context → IsReadableContext context.toList

/-- Whether a diagnostic can be printed and read again. -/
structure Diagnostic.Printable (d : Diagnostic) : Prop where
  /-- A file name that is no text is shown, but what is shown of it is another name. -/
  file_text : d.file.IsText
  absolute : Path.isAbsolute d.file = true
  file_line : '\n' ∉ d.file.display.toList
  line_lt : d.line.toNat < maxCoordinate
  column_lt : d.column.toNat < maxCoordinate
  underlined : d.column < d.endColumn
  context : ∀ context, d.context = some context → IsPrintableContext context.toList
  /-- The message has a line that is empty or begins at the margin. -/
  margin : ∃ line ∈ cutLines d.message.toList, IsAtMargin line
  last : ∀ line, (cutLines d.message.toList).getLast? = some line → isExcerpt line = false

theorem IsPrintableContext.isReadable {context : Text} (h : IsPrintableContext context) :
    IsReadableContext context := by
  obtain ⟨inner, hcontext, hne, hbracket, hnewline, hinner⟩ := h
  exact ⟨inner, hcontext, hne, hbracket, by rwa [Text.takeWhile_of_not_mem hnewline]⟩

theorem Diagnostic.Printable.headerReadable {d : Diagnostic} (h : d.Printable) :
    d.HeaderReadable :=
  ⟨h.file_text, h.absolute, h.file_line, h.line_lt, h.column_lt, h.underlined,
    fun context hcontext => (h.context context hcontext).isReadable⟩

theorem Diagnostic.HeaderReadable.isAbsolute_display {d : Diagnostic} (h : d.HeaderReadable) :
    Path.isAbsolute d.file.display = true :=
  (Path.isText_iff.1 h.file_text).symm ▸ h.absolute

/-! ## Reading the parts -/

theorem Severity.ofWord_word (severity : Severity) : ofWord (some severity.word) = severity := by
  cases severity <;> rfl

theorem Severity.word_ne_nil (severity : Severity) : severity.word ≠ [] := by
  cases severity <;> decide

theorem Severity.isWord_of_mem_word {severity : Severity} :
    ∀ c ∈ severity.word, isWord c = true := by
  have hall : severity.word.all isWord = true := by cases severity <;> decide +kernel
  exact List.all_eq_true.1 hall

theorem Severity.colon_not_mem_word (severity : Severity) : ':' ∉ severity.word := by
  cases severity <;> decide

theorem Severity.newline_not_mem_word (severity : Severity) : '\n' ∉ severity.word := by
  cases severity <;> decide

theorem isNumeral_toDigits (n : Nat) : IsNumeral (Nat.toDigits 10 n) :=
  ⟨Nat.toDigits_ne_nil, fun _ h => Text.isDigit_of_ascii (Text.ascii_of_mem_toDigits h)⟩

theorem not_mem_of_isNumeral {t : Text} {c : Char} (h : IsNumeral t) (hc : isDigit c = false) :
    c ∉ t := fun hmem => by simp [h.2 c hmem] at hc

theorem newline_not_mem_writtenPlace {file line column : Text} (hfile : '\n' ∉ file)
    (hline : IsNumeral line) (hcolumn : IsNumeral column) :
    '\n' ∉ writtenPlace file line column := by
  have hdigit : isDigit '\n' = false := by decide
  simp [writtenPlace, hfile, not_mem_of_isNumeral hline hdigit, not_mem_of_isNumeral hcolumn hdigit]

/-- A coordinate below the greatest number is read as itself. -/
theorem coordinate?_toDigits {n : UInt32} (h : n.toNat < maxCoordinate) :
    coordinate? (Nat.toDigits 10 (n.toNat + 1)) = some n := by
  simp [coordinate?, Text.numeralUpTo?_toDigits (Nat.succ_le_of_lt h)]

section Context

variable {inner rest : Text} {context : Option String}

theorem bracketed?_append (hne : inner ≠ []) (h : ']' ∉ inner) :
    bracketed? ('[' :: (inner ++ ']' :: rest)) = some ('[' :: (inner ++ [']']), rest) := by
  have hinner : ∀ c ∈ inner, decide (c ≠ ']') = true := by
    intro c hc
    simpa using ne_of_mem_of_not_mem hc h
  have hbracket : decide (']' ≠ ']') = false := rfl
  simp only [bracketed?, takeWhile_append_cons hinner hbracket,
    dropWhile_append_cons hinner hbracket, if_pos hne]
  rfl

/-- The bracket after a text holds no colon, on whatever line it is. -/
theorem exists_takeWhile_bracket (inner : Text) :
    ∃ bracket, (inner ++ [']']).takeWhile (· ≠ '\n') = inner.takeWhile (· ≠ '\n') ++ bracket ∧
      ':' ∉ bracket := by
  rw [List.takeWhile_append]
  split
  · next hlength =>
    have hall := (List.takeWhile_prefix (· ≠ '\n')).eq_of_length hlength
    exact ⟨[']'], by rw [hall]; rfl, by decide⟩
  · exact ⟨[], by simp, by simp⟩

/-- On the first line no place begins at the last colon of a header. -/
theorem ofLine?_printedContext
    (h : ∀ text, context = some text → IsReadableContext text.toList) :
    Place.ofLine? (':' :: (printedContext context).takeWhile (· ≠ '\n')) = none := by
  cases context with
  | none => rfl
  | some text =>
    obtain ⟨inner, htext, -, -, hinner⟩ := h text rfl
    obtain ⟨bracket, hbracket, hcolon⟩ := exists_takeWhile_bracket inner
    have hline : (printedContext (some text)).takeWhile (· ≠ '\n') =
        ' ' :: '[' :: (inner.takeWhile (· ≠ '\n') ++ bracket) := by
      rw [printedContext, htext, ← hbracket]
      rfl
    have hfront : Place.ofLine? ('[' :: inner.takeWhile (· ≠ '\n')) = none :=
      Place.ofLine?_cons_eq_none hinner
    have hopening : Place.ofLine? (':' :: ([' '] ++ '[' :: inner.takeWhile (· ≠ '\n'))) = none :=
      Place.ofLine?_cons_append_eq_none (by decide) rfl hfront
    -- The closing bracket cannot be a part of coordinates.
    have happend := Place.ofLine?_append (t := ':' :: ([' '] ++ '[' :: inner.takeWhile (· ≠ '\n')))
      hcolon
    rw [hopening] at happend
    rw [hline]
    exact happend

end Context

namespace Diagnostic

variable {d : Diagnostic}

theorem ofText_printedTail {body : Text}
    (h : ∀ context, d.context = some context → IsReadableContext context.toList) :
    HeaderTail.ofText (d.printedTail ++ '\n' :: body) =
      ⟨some d.severity.word, d.context.map String.toList, body⟩ := by
  have hword : severityWord? (d.printedTail ++ '\n' :: body) =
      some (d.severity.word, printedContext d.context ++ '\n' :: body) :=
    severityWord?_eq_some_iff.2 ⟨[' '], by simp [printedTail], by simp, by simp [isGap],
      d.severity.word_ne_nil, d.severity.isWord_of_mem_word⟩
  unfold HeaderTail.ofText
  rw [hword]
  cases hcontext : d.context with
  | none => simp [printedContext, bracketed?, dropNewline, isGap]
  | some context =>
    obtain ⟨inner, htext, hne, hinner, -⟩ := h context hcontext
    simp [printedContext, htext, bracketed?_append hne hinner, dropNewline, isGap]

/-- Coordinates with a space after them are the last ones if none follow. -/
theorem ofLine?_append_space {file line column tail : Text} (hfile : file ≠ [])
    (hline : IsNumeral line) (hcolumn : IsNumeral column)
    (htail : Place.ofLine? (':' :: ' ' :: tail) = none) :
    Place.ofLine? (file ++ writtenCoordinates line column (' ' :: tail)) =
      some ⟨file, line, column, ' ' :: tail⟩ := by
  -- The space stops the coordinates that could begin at the second or the third colon.
  have hcolon : isDigit ':' = false := by decide
  have hspace : isDigit ' ' = false := by decide
  have hcolumns : Place.ofLine? (':' :: (column ++ ':' :: ' ' :: tail)) = none := by
    refine Place.ofLine?_cons_append_eq_none (not_mem_of_isNumeral hcolumn hcolon) ?_ htail
    simp [coordinates?, hspace]
  have hlines : Place.ofLine? (writtenCoordinates line column (' ' :: tail)) = none := by
    refine Place.ofLine?_cons_append_eq_none (not_mem_of_isNumeral hline hcolon) ?_ hcolumns
    simp [coordinates?, hspace, dropWhile_append_cons hcolumn.2 hcolon]
  exact Place.ofLine?_file_append hfile
    (coordinates?_eq_some_iff.2 ⟨rfl, hline, hcolumn⟩) hlines

theorem takeWhile_printedTail (d : Diagnostic) :
    d.printedTail.takeWhile (· ≠ '\n') =
      ' ' :: (d.severity.word ++ ':' :: (printedContext d.context).takeWhile (· ≠ '\n')) := by
  have hword := Text.all_ne_newline d.severity.newline_not_mem_word
  have hsplit : d.printedTail =
      [' '] ++ (d.severity.word ++ ([':'] ++ printedContext d.context)) := rfl
  rw [hsplit, List.takeWhile_append_of_pos (by simp), List.takeWhile_append_of_pos hword,
    List.takeWhile_append_of_pos (by simp)]
  rfl

/-- The place on the first line of a header is that of the diagnostic. -/
theorem ofLine?_printedHeader (h : d.HeaderReadable) :
    Place.ofLine? (d.file.display.toList ++ writtenCoordinates (Nat.toDigits 10 (d.line.toNat + 1))
        (Nat.toDigits 10 (d.column.toNat + 1)) (d.printedTail.takeWhile (· ≠ '\n'))) =
      some ⟨d.file.display.toList, Nat.toDigits 10 (d.line.toNat + 1),
        Nat.toDigits 10 (d.column.toNat + 1), d.printedTail.takeWhile (· ≠ '\n')⟩ := by
  obtain ⟨_, hroot⟩ := Path.exists_of_isAbsolute h.isAbsolute_display
  have hfile : d.file.display.toList ≠ [] := hroot ▸ List.cons_ne_nil _ _
  have hword : ':' ∉ ' ' :: d.severity.word := by simp [d.severity.colon_not_mem_word]
  have hcontext : coordinates? (':' :: (printedContext d.context).takeWhile (· ≠ '\n')) = none := by
    have hspace : isDigit ' ' = false := by decide
    cases d.context <;> simp [printedContext, coordinates?, hspace]
  have htail : Place.ofLine? (':' :: (' ' :: d.severity.word ++
      ':' :: (printedContext d.context).takeWhile (· ≠ '\n'))) = none :=
    Place.ofLine?_cons_append_eq_none hword hcontext (ofLine?_printedContext h.context)
  rw [takeWhile_printedTail]
  exact ofLine?_append_space hfile (isNumeral_toDigits _) (isNumeral_toDigits _) htail

/-- The first line of a header, and what follows it. -/
theorem printedHeader_lines (h : '\n' ∉ d.file.display.toList) (body : Text) :
    (d.printedHeader ++ '\n' :: body).takeWhile (· ≠ '\n') =
        d.file.display.toList ++ writtenCoordinates (Nat.toDigits 10 (d.line.toNat + 1))
          (Nat.toDigits 10 (d.column.toNat + 1)) (d.printedTail.takeWhile (· ≠ '\n')) ∧
      (d.printedHeader ++ '\n' :: body).dropWhile (· ≠ '\n') =
        d.printedTail.dropWhile (· ≠ '\n') ++ '\n' :: body := by
  have hplace := newline_not_mem_writtenPlace h (isNumeral_toDigits (d.line.toNat + 1))
    (isNumeral_toDigits (d.column.toNat + 1))
  rw [printedHeader, append_writtenCoordinates, append_writtenCoordinates, List.append_assoc,
    List.takeWhile_append_of_pos (Text.all_ne_newline hplace),
    List.dropWhile_append_of_pos (Text.all_ne_newline hplace), Text.takeWhile_append_newline_cons,
    Text.dropWhile_append_newline_cons]
  exact ⟨rfl, rfl⟩

end Diagnostic

/-! ## Reading the message -/

section Message

variable {line : Text} {lines : List Text}

theorem indentWidth_indented (line : Text) :
    indentWidth (indented line) = 4 + indentWidth line := by
  have hspace : isBlank ' ' = true := by decide
  have hsize : ' '.utf8Size = 1 := rfl
  simp [indentWidth, indented, hspace, Text.byteLength, hsize]
  omega

theorem dropBytes?_indented (line : Text) : dropBytes? 4 (indented line) = some line := by
  have hsize : ' '.utf8Size = 1 := rfl
  simp [indented, dropBytes?, hsize]

/-- The indentation is dropped again if some line has no further one. -/
theorem unindent_indented (h : ∃ line ∈ lines, IsAtMargin line) :
    unindent (lines.map indented) = lines := by
  obtain ⟨margin, hmem, hmargin⟩ := h
  -- The indentation is that of the line at the margin; no line has less.
  have hle : sharedIndent (lines.map indented) ≤ indentWidth (indented margin) :=
    sharedIndent_le (List.mem_map_of_mem hmem)
  have hne : lines.map indented ≠ [] := List.ne_nil_of_mem (List.mem_map_of_mem hmem)
  obtain ⟨least, hleast, hwidth⟩ := exists_indentWidth_eq hne
  obtain ⟨line, -, rfl⟩ := List.mem_map.1 hleast
  have hshared : sharedIndent (lines.map indented) = 4 := by
    rw [indentWidth_indented, indentWidth_of_isAtMargin hmargin] at hle
    rw [indentWidth_indented] at hwidth
    omega
  rw [unindent_eq, hshared, List.map_map]
  refine List.map_id'' (fun line => ?_) lines
  rw [Function.comp_apply, loseIndent, dropBytes?_indented, Option.getD_some]

theorem isExcerpt_indented (line : Text) : isExcerpt (indented line) = isExcerpt line := rfl

/-- One line of an excerpt is split off. -/
theorem splitExcerpt_concat {excerpt : Text} (hexcerpt : isExcerpt excerpt = true)
    (hlast : ∀ line, lines.getLast? = some line → isExcerpt line = false) :
    splitExcerpt (lines ++ [excerpt]) = (lines, [excerpt]) := by
  -- Seen from the end, the excerpt stops at the first of the other lines.
  have hstop : ∀ reversed, reversed = lines.reverse →
      reversed.dropWhile isExcerpt = reversed ∧ reversed.takeWhile isExcerpt = [] := by
    intro reversed hreversed
    cases reversed with
    | nil => exact ⟨rfl, rfl⟩
    | cons line reversed =>
      have hline : isExcerpt line = false :=
        hlast line (by simp [← List.head?_reverse, ← hreversed])
      simp [hline]
  obtain ⟨hdrop, htake⟩ := hstop lines.reverse rfl
  simp [splitExcerpt, hexcerpt, hdrop, htake]

theorem longestCarets_replicate (run n : Nat) :
    longestCarets run (List.replicate n '^') = run + n := by
  induction n generalizing run with
  | zero => rfl
  | succ n ih =>
    rw [List.replicate_succ, longestCarets, ih]
    omega

end Message

namespace Diagnostic

variable {d : Diagnostic}

theorem underlineWidth_printedExcerpt (h : d.column < d.endColumn) :
    underlineWidth [d.printedExcerpt] = d.endColumn.toNat - d.column.toNat := by
  have hlt : d.column.toNat < d.endColumn.toNat := h
  have hcarets : longestCarets 0 d.printedExcerpt = d.endColumn.toNat - d.column.toNat := by
    simp [printedExcerpt, longestCarets, longestCarets_replicate]
  simp [underlineWidth, hcarets]
  omega

theorem newline_not_mem_printedExcerpt (d : Diagnostic) : '\n' ∉ d.printedExcerpt := by
  simp [printedExcerpt]

theorem newline_not_mem_printedHeader (h : d.Printable) : '\n' ∉ d.printedHeader := by
  have hplace := newline_not_mem_writtenPlace h.file_line (isNumeral_toDigits (d.line.toNat + 1))
    (isNumeral_toDigits (d.column.toNat + 1))
  have hcontext : '\n' ∉ printedContext d.context := by
    cases hcontext : d.context with
    | none => simp [printedContext]
    | some context =>
      obtain ⟨inner, htext, -, -, hinner, -⟩ := h.context context hcontext
      simp [printedContext, htext, hinner]
  simp [printedHeader, append_writtenCoordinates, printedTail, hplace, hcontext,
    d.severity.newline_not_mem_word]

theorem newline_not_mem_printedLines (h : d.Printable) : ∀ line ∈ d.printedLines, '\n' ∉ line := by
  intro line hline
  simp only [printedLines, List.mem_cons, List.mem_append, List.mem_map, List.not_mem_nil,
    or_false] at hline
  rcases hline with rfl | ⟨inner, hinner, rfl⟩ | rfl
  · exact newline_not_mem_printedHeader h
  · simp [indented, Text.not_mem_of_mem_cutLines hinner]
  · exact d.newline_not_mem_printedExcerpt

/-- The carets at the end of an excerpt are not trimmed. -/
theorem trimEnd_append_printedExcerpt (h : d.column < d.endColumn) (front : Text) :
    trimEnd (front ++ d.printedExcerpt) = front ++ d.printedExcerpt := by
  have hlt : d.column.toNat < d.endColumn.toNat := h
  obtain ⟨n, hn⟩ : ∃ n, d.endColumn.toNat - d.column.toNat = n + 1 :=
    ⟨d.endColumn.toNat - d.column.toNat - 1, by omega⟩
  rw [printedExcerpt, hn, List.replicate_succ', ← List.append_assoc, ← List.append_assoc,
    Text.trimEnd_concat (by decide)]

/-- **What is printed is read as the same diagnostic**, if the lines below the header are those
of the message when they lose their indentation. -/
theorem ofBlock?_printedHeader (baseDir : Path) {lines : List Text} (h : d.HeaderReadable)
    (hne : lines ≠ []) (hlines : ∀ line ∈ lines, '\n' ∉ line)
    (hlast : ∀ line, lines.getLast? = some line → isExcerpt line = false)
    (hmessage : unindent lines = cutLines d.message.toList) :
    ofBlock? baseDir (d.printedHeader ++ '\n' :: joinLines (lines ++ [d.printedExcerpt])) =
      some d := by
  have hbody : lines ++ [d.printedExcerpt] ≠ [] := by simp
  have htrim : trimEnd (d.printedHeader ++ '\n' :: joinLines (lines ++ [d.printedExcerpt])) =
      d.printedHeader ++ '\n' :: joinLines (lines ++ [d.printedExcerpt]) := by
    have hsplit : d.printedHeader ++ '\n' :: joinLines (lines ++ [d.printedExcerpt]) =
        (d.printedHeader ++ '\n' :: (joinLines lines ++ ['\n'])) ++ d.printedExcerpt := by
      rw [Text.joinLines_concat hne]
      simp
    rw [hsplit, trimEnd_append_printedExcerpt h.underlined]
  have hcut : cutLines (joinLines (lines ++ [d.printedExcerpt])) = lines ++ [d.printedExcerpt] := by
    refine Text.cutLines_joinLines hbody fun line hline => ?_
    rcases List.mem_append.1 hline with hline | hline
    · exact hlines line hline
    · exact List.mem_singleton.1 hline ▸ d.newline_not_mem_printedExcerpt
  -- Only the line with the carets is taken for the excerpt.
  have hexcerpt : splitExcerpt (lines ++ [d.printedExcerpt]) = (lines, [d.printedExcerpt]) :=
    splitExcerpt_concat rfl hlast
  have hfile : Path.join baseDir d.file.display = d.file := by
    rw [Path.isText_iff.1 h.file_text, Path.join_of_isAbsolute h.absolute]
  have hend : UInt32.ofNat (min maxCoordinate
      (d.column.toNat + (d.endColumn.toNat - d.column.toNat))) = d.endColumn := by
    have hlt : d.column.toNat < d.endColumn.toNat := h.underlined
    have hmax : d.endColumn.toNat ≤ maxCoordinate := Nat.le_of_lt_succ d.endColumn.toNat_lt
    rw [Nat.add_sub_cancel' (Nat.le_of_lt hlt), Nat.min_eq_right hmax, UInt32.ofNat_toNat]
  have hcontext : (d.context.map String.toList).map String.ofList = d.context := by
    cases d.context <;> simp
  obtain ⟨hfirst, hrest⟩ :=
    printedHeader_lines h.file_line (joinLines (lines ++ [d.printedExcerpt]))
  have htail : d.printedTail.takeWhile (· ≠ '\n') ++ (d.printedTail.dropWhile (· ≠ '\n') ++
      '\n' :: joinLines (lines ++ [d.printedExcerpt])) =
        d.printedTail ++ '\n' :: joinLines (lines ++ [d.printedExcerpt]) := by
    rw [← List.append_assoc, List.takeWhile_append_dropWhile]
  rw [ofBlock?]
  simp only [htrim]
  rw [hfirst, hrest, ofLine?_printedHeader h]
  simp only [Option.bind_eq_bind, Option.bind_some]
  rw [coordinate?_toDigits h.line_lt, coordinate?_toDigits h.column_lt]
  simp only [Option.bind_some]
  rw [htail, ofText_printedTail h.context]
  simp only [hcut, hexcerpt, underlineWidth_printedExcerpt h.underlined, hend, String.ofList_toList,
    hfile, hmessage, Text.joinLines_cutLines, hcontext, Severity.ofWord_word]

/-- A diagnostic that is printed with its message indented is read as it was. -/
theorem ofBlock?_print (baseDir : Path) (h : d.Printable) :
    ofBlock? baseDir d.print = some d := by
  have hprint : d.print = d.printedHeader ++
      '\n' :: joinLines ((cutLines d.message.toList).map indented ++ [d.printedExcerpt]) :=
    Text.joinLines_cons (by simp)
  have hne : (cutLines d.message.toList).map indented ≠ [] := by simp [cutLines, Text.cutAt_ne_nil]
  have hlast : ∀ line, ((cutLines d.message.toList).map indented).getLast? = some line →
      isExcerpt line = false := by
    intro line hline
    rw [List.getLast?_map, Option.map_eq_some_iff] at hline
    obtain ⟨inner, hinner, rfl⟩ := hline
    exact (isExcerpt_indented inner).trans (h.last inner hinner)
  rw [hprint]
  refine ofBlock?_printedHeader baseDir h.headerReadable hne (fun line hline => ?_) hlast
    (unindent_indented h.margin)
  refine newline_not_mem_printedLines h line (List.mem_cons_of_mem _ (List.mem_append_left _ hline))

end Diagnostic

end Buildwatch
