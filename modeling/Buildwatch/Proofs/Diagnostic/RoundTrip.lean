import Buildwatch.Proofs.Diagnostic.Printing
import Buildwatch.Proofs.Run.Pipe

/-!
# Diagnostics through a pipe

Diagnostics that are printed one below the other come out of a pipe as they were, one in
each block, whatever the pieces are in which the pipe delivers them.
-/

namespace Buildwatch

open Text (cutLines)

namespace Diagnostic

variable {ε : Type} [Interruptible ε] {d : Diagnostic} {ds : List Diagnostic}

/-! ## The blocks of printed diagnostics -/

/-- The text of diagnostics that are printed one below the other. -/
def printAll (ds : List Diagnostic) : Text := ds.flatMap fun d => d.print ++ ['\n']

theorem startsBlock_printedHeader (h : d.Printable) : startsBlock d.printedHeader = true := by
  obtain ⟨rest, hfile⟩ := Path.exists_of_isAbsolute h.headerReadable.isAbsolute_display
  rw [printedHeader, hfile]
  rfl

/-- The lines below the header have a blank at their start. -/
theorem startsBlock_eq_false {line : Text}
    (h : line ∈ (cutLines d.message.toList).map indented ++ [d.printedExcerpt]) :
    startsBlock line = false := by
  rcases List.mem_append.1 h with h | h
  · obtain ⟨inner, -, rfl⟩ := List.mem_map.1 h
    rfl
  · rw [List.mem_singleton.1 h]
    rfl

theorem printAll_eq (ds : List Diagnostic) :
    printAll ds = (ds.flatMap printedLines).flatMap (· ++ ['\n']) := by
  have hne : ∀ d : Diagnostic, d.printedLines ≠ [] := fun d => by simp [printedLines]
  rw [List.flatMap_assoc]
  exact List.flatMap_congr fun d _ => (Text.flatMap_newline (hne d)).symm

/-- The blocks are the printed diagnostics. -/
theorem blocksOf_printedLines (h : ∀ d ∈ ds, d.Printable) (hne : ds ≠ []) :
    blocksOf (ds.flatMap printedLines) = ds.map print := by
  have hgroups : groupLines (ds.flatMap printedLines) = ds.map printedLines := by
    rw [List.flatMap_def]
    refine groupLines_flatten fun group hgroup => ?_
    obtain ⟨d, hd, rfl⟩ := List.mem_map.1 hgroup
    exact ⟨_, _, rfl, startsBlock_printedHeader (h d hd), fun _ => startsBlock_eq_false⟩
  have hlines : ds.flatMap printedLines ≠ [] := by
    obtain ⟨d, rest, rfl⟩ := List.exists_cons_of_ne_nil hne
    simp [printedLines]
  rw [blocksOf_eq hlines, hgroups, List.map_map]
  rfl

/-- The lines that a pipe gives for printed diagnostics. -/
theorem streamLines_printAll (h : ∀ d ∈ ds, d.Printable) :
    streamLines (Utf8.encode (printAll ds)) = ds.flatMap printedLines := by
  rw [printAll_eq]
  refine streamLines_encode fun line hline => ?_
  obtain ⟨d, hd, hmem⟩ := List.mem_flatMap.1 hline
  exact newline_not_mem_printedLines (h d hd) line hmem

/-! ## Reading them again -/

/-- What the blocks of a pipe are read as. -/
def readAll (baseDir : Path) (p : PipeReader ε) : List (Option Diagnostic) :=
  p.blocks.map fun block => ofBlock? baseDir block.text

/-- **Printed diagnostics come through a pipe as they were**, in order and one in each block.
A pipe that delivers nothing still gives one block, which is no diagnostic. -/
theorem readAll_printAll (baseDir : Path) (origin : Origin) (ds : List Diagnostic)
    (source : List (Read ε)) (hprintable : ∀ d ∈ ds, d.Printable)
    (hsource : delivered source = Utf8.encode (printAll ds)) :
    (readAll baseDir (.ofReads origin source)).filterMap id = ds ∧
      readAll baseDir (.ofReads origin source) = if ds = [] then [none] else ds.map some := by
  -- The bytes decide the blocks, however they were cut.
  have hread : readAll baseDir (.ofReads origin source) =
      (blocksOf (ds.flatMap printedLines)).map (ofBlock? baseDir) := by
    rw [readAll, PipeReader.blocks_ofReads, pipeBlocks, hsource, streamLines_printAll hprintable,
      List.map_map]
    rfl
  by_cases hne : ds = []
  · subst hne
    rw [hread]
    exact ⟨rfl, rfl⟩
  · have hprinted : (ds.map print).map (ofBlock? baseDir) = ds.map some := by
      rw [List.map_map]
      exact List.map_congr_left fun d hd => ofBlock?_print baseDir (hprintable d hd)
    rw [hread, blocksOf_printedLines hprintable hne, hprinted, if_neg hne]
    exact ⟨by simp, rfl⟩

/-- Two diagnostics, whose file name has a place in it and whose message has a blank line,
cut within a line and within a character. -/
theorem readAll_printAll_cut :
    let first : Diagnostic :=
      ⟨"/a:1:2:b.hs", 0, 4294967294, 4294967295, .warning, "x\n\n  ∀ y", some "[-W:1]"⟩
    let second : Diagnostic := ⟨"/c", 6, 2, 5, .error, "", none⟩
    let bytes := Utf8.encode (printAll [first, second])
    let interrupted : IoError := ⟨.interrupted, "Interrupted system call"⟩
    let source := [.data (bytes.take 7), .pending, .data ((bytes.drop 7).take 53),
      .failed interrupted, .data ((bytes.drop 7).drop 53)]
    (∀ d ∈ [first, second], d.Printable) ∧ delivered source = bytes ∧
      (readAll "/base" (.ofReads .stderr source)).filterMap id = [first, second] := by
  intro first second bytes interrupted source
  have hcontext : ∀ context, first.context = some context → IsPrintableContext context.toList := by
    rintro _ ⟨⟩
    refine ⟨"-W:1".toList, rfl, by decide, by decide, by decide, ?_⟩
    -- Coordinates have three colons, the context has one.
    rintro ⟨front, line, column, rest, heq, -⟩
    have hcolons : 3 ≤ "-W:1".toList.count ':' := by
      rw [heq]
      simp [writtenCoordinates, List.count_append]
      omega
    exact absurd hcolons (by decide)
  have hlast : ∀ line, (cutLines first.message.toList).getLast? = some line →
      isExcerpt line = false := by
    intro line hline
    have hlines : (cutLines first.message.toList).getLast? = some "  ∀ y".toList := by decide
    rw [← Option.some.inj (hlines.symm.trans hline)]
    decide
  have hfirst : first.Printable :=
    ⟨⟨_, rfl⟩, by decide, by decide, by decide, by decide, by decide, hcontext,
      ⟨['x'], by decide, by rintro _ ⟨⟩; decide⟩, hlast⟩
  have hsecond : second.Printable :=
    ⟨⟨_, rfl⟩, by decide, by decide, by decide, by decide, by decide, by rintro _ ⟨⟩,
      ⟨[], by decide, by rintro _ ⟨⟩⟩, by rintro _ ⟨⟩; decide⟩
  have hprintable : ∀ d ∈ [first, second], d.Printable := by
    simp only [List.mem_cons, List.not_mem_nil, or_false]
    rintro d (rfl | rfl)
    · exact hfirst
    · exact hsecond
  have hsource : delivered source = bytes := by decide
  exact ⟨hprintable, hsource,
    (readAll_printAll "/base" .stderr [first, second] source hprintable hsource).1⟩

end Diagnostic

end Buildwatch
