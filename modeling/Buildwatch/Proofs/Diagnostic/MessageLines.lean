import Mathlib.Data.List.Forall2
import Buildwatch.Proofs.Diagnostic.Reprinting

/-!
# The lines of a message

The header of a message ends on the first line of its block, or on the line on which the
context ends. Of the lines below, those of the final excerpt are left out, and all others are
lines of the message, which lose nothing but blanks at their start.
-/

namespace Buildwatch

open Text (isBlank cutLines joinLines trimEnd)

/-! ## Lines with less indentation -/

/-- Whether the second line is what is left of the first one without some leading blanks. -/
def LosesBlanks (line rest : Text) : Prop :=
  ∃ blanks, (∀ c ∈ blanks, isBlank c = true) ∧ line = blanks ++ rest

theorem losesBlanks_loseIndent {line : Text} {lines : List Text} (h : line ∈ lines) :
    LosesBlanks line (loseIndent (sharedIndent lines) line) :=
  exists_blanks_loseIndent (sharedIndent_le h)

theorem LosesBlanks.suffix {line rest : Text} (h : LosesBlanks line rest) : rest <:+ line := by
  obtain ⟨blanks, -, rfl⟩ := h
  exact List.suffix_append blanks rest

/-! ## The excerpt -/

/-- Lines above those that are split change only what is above the excerpt. -/
theorem splitExcerpt_append (front below : List Text) :
    ∃ front', front' <+: front ∧
      (splitExcerpt (front ++ below)).1 = front' ++ (splitExcerpt below).1 := by
  by_cases hbelow : below.reverse.dropWhile isExcerpt = []
  · -- The excerpt can go on above.
    refine ⟨front.rdropWhile isExcerpt, List.rdropWhile_prefix _ _, ?_⟩
    simp [splitExcerpt, List.dropWhile_append, hbelow, List.rdropWhile]
  · refine ⟨front, List.prefix_rfl, ?_⟩
    simp [splitExcerpt, List.dropWhile_append, hbelow]

theorem splitExcerpt_append_eq (lines : List Text) :
    (splitExcerpt lines).1 ++ (splitExcerpt lines).2 = lines :=
  List.rdropWhile_append_rtakeWhile

theorem isExcerpt_of_mem_splitExcerpt {lines : List Text} :
    ∀ line ∈ (splitExcerpt lines).2, isExcerpt line = true := fun _ => List.mem_rtakeWhile_imp

/-! ## The header -/

/-- The parts of what follows a place: only the context can go over the end of a line. -/
theorem exists_parts_ofText (t : Text) :
    ∃ before gap rest, t = before ++ ((HeaderTail.ofText t).context.getD [] ++ (gap ++ rest)) ∧
      '\n' ∉ before ∧ '\n' ∉ gap ∧ (HeaderTail.ofText t).body = dropNewline rest := by
  obtain ⟨word, front, u, hsplit, hfront, htail⟩ := exists_word_ofText t
  have hu : u = u.takeWhile isGap ++ u.dropWhile isGap := List.takeWhile_append_dropWhile.symm
  have hbefore : '\n' ∉ front ++ u.takeWhile isGap := by
    simp [hfront, newline_not_mem_gaps]
  rw [htail]
  cases hread : bracketed? (u.dropWhile isGap) with
  | none =>
    -- Blanks are dropped twice, with nothing between.
    refine ⟨front ++ u.takeWhile isGap, (u.dropWhile isGap).takeWhile isGap,
      (u.dropWhile isGap).dropWhile isGap, ?_, hbefore, newline_not_mem_gaps _, rfl⟩
    rw [List.takeWhile_append_dropWhile, hsplit]
    conv => lhs; rw [hu]
    simp
  | some read =>
    obtain ⟨context, rest⟩ := read
    obtain ⟨inner, hv, rfl, -⟩ := bracketed?_eq_some hread
    refine ⟨front ++ u.takeWhile isGap, rest.takeWhile isGap, rest.dropWhile isGap, ?_, hbefore,
      newline_not_mem_gaps rest, rfl⟩
    rw [List.takeWhile_append_dropWhile, hsplit]
    conv => lhs; rw [hu, hv]
    simp

/-- A newline right after the header opens no line of the body. -/
theorem cutLines_dropNewline {t line : Text} {below : List Text} (h : cutLines t = line :: below) :
    ∃ front, (front = [] ∨ front = [line]) ∧ cutLines (dropNewline t) = front ++ below := by
  unfold dropNewline
  split
  · next t =>
    rw [cutLines, Text.cutAt, if_pos rfl] at h
    exact ⟨[], .inl rfl, (List.cons.inj h).2⟩
  · exact ⟨[line], .inr rfl, h⟩

/-- A header is followed by no text, or by text on the line on which it ends. -/
theorem exists_cutLines_message {body line : Text} {front below : List Text}
    (hfront : front = [] ∨ front = [line]) (hbody : cutLines body = front ++ below) :
    ∃ behind message,
      cutLines (joinLines (unindent (splitExcerpt (cutLines body)).1)) = behind ++ message ∧
        List.Forall₂ LosesBlanks (splitExcerpt below).1 message ∧ behind.length ≤ 1 ∧
        ∀ text ∈ behind, text <:+ line := by
  obtain ⟨front', hprefix, hsplit⟩ := splitExcerpt_append front below
  have hlength : front.length ≤ 1 := by rcases hfront with rfl | rfl <;> simp
  have hline : ∀ text ∈ front', text = line := by
    intro text htext
    have hmem := hprefix.subset htext
    rcases hfront with rfl | rfl
    · simp at hmem
    · exact List.mem_singleton.1 hmem
  rw [← hbody] at hsplit
  by_cases hnil : (splitExcerpt (cutLines body)).1 = []
  · -- The message is empty and has one empty line.
    obtain ⟨-, hkept⟩ := List.append_eq_nil_iff.1 (hsplit.symm.trans hnil)
    rw [hnil, hkept]
    exact ⟨[[]], [], rfl, .nil, Nat.le_refl 1, by simp⟩
  · rw [cutLines_unindent hnil, hsplit, unindent_eq, List.map_append]
    refine ⟨_, _, rfl, ?_, ?_, ?_⟩
    · rw [List.forall₂_map_right_iff, List.forall₂_same]
      intro text htext
      exact losesBlanks_loseIndent (List.mem_append_right _ htext)
    · rw [List.length_map]
      exact hprefix.length_le.trans hlength
    · intro text htext
      obtain ⟨original, horiginal, rfl⟩ := List.mem_map.1 htext
      rw [← hline original horiginal]
      exact (losesBlanks_loseIndent (List.mem_append_left _ horiginal)).suffix

/-! ## The lines of a block -/

namespace Diagnostic

variable {baseDir : Path} {block : Text} {d : Diagnostic}

/-- The number of lines that end within the context. -/
def contextBreaks (d : Diagnostic) : Nat := (d.context.getD "").toList.count '\n'

/-- How the lines of a block are shared out: the header goes over the lines `above` and ends on
the line `header`; below stand the lines that are kept in the message, then the excerpt. -/
structure Layout (lines : List Text) (d : Diagnostic) (above : List Text) (header : Text)
    (kept excerpt : List Text) : Prop where
  lines_eq : lines = above ++ header :: (kept ++ excerpt)
  length_above : above.length = d.contextBreaks
  context_infix : ∀ context, d.context = some context →
    context.toList <:+: joinLines (above ++ [header])
  isExcerpt_of_mem : ∀ line ∈ excerpt, isExcerpt line = true
  kept_last : ∀ line, kept.getLast? = some line → isExcerpt line = false
  /-- Before the kept lines the message has only what is behind the header on its line. -/
  message_lines : ∃ behind message, cutLines d.message.toList = behind ++ message ∧
    List.Forall₂ LosesBlanks kept message ∧ behind.length ≤ 1 ∧ ∀ text ∈ behind, text <:+ header

/-- A block is a header, of which only the context can go over the end of a line, and a rest
from which the message is taken. -/
theorem exists_header (h : ofBlock? baseDir block = some d) :
    ∃ header rest body, trimEnd block = header ++ rest ∧ header.count '\n' = d.contextBreaks ∧
      (∀ context, d.context = some context → context.toList <:+: header) ∧
      body = dropNewline rest ∧
      d.message.toList = joinLines (unindent (splitExcerpt (cutLines body)).1) := by
  obtain ⟨place, hlongest, hread⟩ := exists_readsAs h
  generalize htail : HeaderTail.ofText
    (place.rest ++ (trimEnd block).dropWhile (· ≠ '\n')) = tail at hread
  obtain ⟨before, gap, rest, hparts, hbefore, hgap, hbody⟩ :=
    exists_parts_ofText (place.rest ++ (trimEnd block).dropWhile (· ≠ '\n'))
  rw [htail] at hparts hbody
  -- The place stands on the first line.
  let front := writtenPlace place.file place.line place.column
  have hline : (trimEnd block).takeWhile (· ≠ '\n') = front ++ place.rest :=
    hlongest.1.line_eq.trans (append_writtenCoordinates place.file)
  have hfront : '\n' ∉ front := fun hn =>
    Text.newline_not_mem_takeWhile (trimEnd block) (hline ▸ List.mem_append_left _ hn)
  have htext : trimEnd block =
      front ++ (place.rest ++ (trimEnd block).dropWhile (· ≠ '\n')) := by
    rw [← List.append_assoc, ← hline, List.takeWhile_append_dropWhile]
  have hcontext : (d.context.getD "").toList = tail.context.getD [] := by
    rw [hread.context_eq]
    cases tail.context <;> simp
  refine ⟨front ++ (before ++ (tail.context.getD [] ++ gap)), rest, tail.body, ?_, ?_, ?_, hbody,
    hread.message_eq⟩
  · rw [htext, hparts]
    simp
  · simp [contextBreaks, hcontext, List.count_eq_zero_of_not_mem, hfront, hbefore, hgap]
  · intro context hsome
    rw [hsome, Option.getD_some] at hcontext
    rw [hcontext]
    exact ⟨front ++ before, gap, by simp⟩

/-- **A diagnostic keeps the lines of its block** below the line on which the header ends, apart
from the final excerpt. The header goes over as many lines as end within the context, so with
no newline in the context it is the first line only; that line tells the severity. -/
theorem ofBlock?_keeps_lines (baseDir : Path) (block : Text) (d : Diagnostic)
    (h : ofBlock? baseDir block = some d) :
    (ofBlock? baseDir (block.takeWhile (· ≠ '\n'))).map (·.severity) = some d.severity ∧
      ∃ above header kept excerpt,
        Layout (cutLines (trimEnd block)) d above header kept excerpt := by
  constructor
  -- The severity is read off the first line, whatever follows that.
  · have hheading := map_heading_eq_firstLine baseDir block
    rw [h, Option.map_some] at hheading
    obtain ⟨first, hfirst, heq⟩ := Option.map_eq_some_iff.1 hheading.symm
    rw [hfirst, Option.map_some]
    exact congrArg (fun heading => some heading.2.2.2) heq
  -- The header may end within a line, whose rest is then the first line of the message.
  · obtain ⟨header, rest, body, htext, hcount, hcontext, hbody, hmessage⟩ := exists_header h
    obtain ⟨above, last, line, below, hheader, hlength, hrest, hlines⟩ :=
      Text.exists_cutLines_append header rest
    obtain ⟨front, hfront, hcut⟩ := cutLines_dropNewline hrest
    obtain ⟨behind, message, hsplit, hforall, hbehind, hsuffix⟩ :=
      exists_cutLines_message hfront (hbody ▸ hcut)
    refine ⟨above, last ++ line, (splitExcerpt below).1, (splitExcerpt below).2, {
      lines_eq := by rw [htext, hlines, splitExcerpt_append_eq]
      length_above := hlength.trans hcount
      context_infix := fun context hsome => ?_
      isExcerpt_of_mem := isExcerpt_of_mem_splitExcerpt
      kept_last := splitExcerpt_last
      message_lines := ?_ }⟩
    · have hjoin : joinLines (above ++ [last ++ line]) = header ++ line := by
        rw [Text.joinLines_concat_append, ← hheader, Text.joinLines_cutLines]
      rw [hjoin]
      exact (hcontext context hsome).trans (List.prefix_append header line).isInfix
    · rw [hmessage]
      exact ⟨behind, message, hsplit, hforall, hbehind, fun text htext =>
        (hsuffix text htext).trans (List.suffix_append last line)⟩

/-- A context that ends on the second line, behind it a text, and an excerpt line that is none
of the final excerpt. -/
theorem ofBlock?_keeps_lines_two_lines :
    let block := "A.hs:3:5: Warning: [x\n y] at\n 1 | z\n\n    f\n 3 | f\n   | ^^\n".toList
    let d : Diagnostic := ⟨"/p/A.hs", 2, 4, 6, .warning, "at\n 1 | z\n\n    f", some "[x\n y]"⟩
    ofBlock? "/p" block = some d ∧ d.contextBreaks = 1 ∧
      ∃ above header kept excerpt,
        Layout (cutLines (trimEnd block)) d above header kept excerpt := by
  intro block d
  have hread : ofBlock? "/p" block = some d := by decide +kernel
  exact ⟨hread, by decide, (ofBlock?_keeps_lines "/p" block d hread).2⟩

/-- It is not so that all lines below the first one are kept or belong to the final excerpt: a
context can go over the end of the first line. -/
theorem context_swallows_lines :
    ¬ ∀ (baseDir : Path) (block : Text) (d : Diagnostic), ofBlock? baseDir block = some d →
      ∃ kept excerpt message, (cutLines (trimEnd block)).tail = kept ++ excerpt ∧
        (∀ line ∈ excerpt, isExcerpt line = true) ∧
        List.Sublist message (cutLines d.message.toList) ∧
        List.Forall₂ LosesBlanks kept message := by
  intro h
  let block := "A.hs:1:1: error: [f x,\n    g y] z".toList
  let d : Diagnostic := ⟨"/p/A.hs", 0, 0, 1, .error, "z", some "[f x,\n    g y]"⟩
  obtain ⟨kept, excerpt, message, hlines, hexcerpt, hmessage, hforall⟩ :=
    h "/p" block d (by decide +kernel)
  have htail : (cutLines (trimEnd block)).tail = ["    g y] z".toList] := by decide
  have hcut : cutLines d.message.toList = [['z']] := by decide
  rw [htail] at hlines
  rw [hcut] at hmessage
  cases hforall with
  | nil =>
    -- The second line would belong to the excerpt.
    have hmem : "    g y] z".toList ∈ [] ++ excerpt := hlines ▸ List.mem_singleton.2 rfl
    exact absurd (hexcerpt _ hmem) (by decide)
  | @cons line text _ _ hloses _ =>
    -- It would be a line of the message, and lose more than blanks.
    obtain ⟨rfl, -⟩ := List.cons.inj hlines
    obtain rfl := List.mem_singleton.1 (hmessage.subset List.mem_cons_self)
    obtain ⟨blanks, hblanks, hsplit⟩ := hloses
    have hmem : 'g' ∈ blanks ++ ['z'] := hsplit ▸ (by decide)
    rcases List.mem_append.1 hmem with hblank | hz
    · exact absurd (hblanks _ hblank) (by decide)
    · exact absurd hz (by decide)

end Diagnostic

end Buildwatch
