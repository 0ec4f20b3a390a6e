import Buildwatch.Proofs.Diagnostic.Heading
import Buildwatch.Proofs.Run.Schedule

/-!
# The error flag of a run

A run reports an error exactly if one of its pipes has a line at which a block begins and
which is an error by itself. The counters are the numbers of such lines.
-/

namespace Buildwatch

/-! ## The severity of a block -/

/-- The severity of a block is that of its first line. -/
theorem severityOf?_firstLine (baseDir : Path) (block : Text) :
    severityOf? baseDir (block.takeWhile (· ≠ '\n')) = severityOf? baseDir block := by
  have hheading := Diagnostic.map_heading_eq_firstLine baseDir block
  have hseverity := congrArg (Option.map (·.2.2.2)) hheading
  simp only [Option.map_map] at hseverity
  exact hseverity.symm

/-- The lines of a pipe. -/
def Process.lines (p : Process) (origin : Origin) : List Text :=
  streamLines (delivered (p.pipe origin))

/-- The severities of the lines at which the blocks of a pipe begin. -/
def Process.headSeverities (baseDir : Path) (p : Process) (origin : Origin) :
    List (Option Severity) :=
  (headLines (p.lines origin)).map (severityOf? baseDir)

/-- The block of a stream without lines has no severity. -/
theorem severityOf?_nil (baseDir : Path) : severityOf? baseDir [] = none := rfl

theorem severities_pipeBlocks (baseDir : Path) (p : Process) (origin : Origin) :
    severities baseDir (pipeBlocks origin (p.pipe origin)) =
      if p.lines origin = [] then [none] else p.headSeverities baseDir origin := by
  have hnewline : ∀ line ∈ p.lines origin, '\n' ∉ line := fun _ => newline_not_mem_streamLines
  have hfirst : severities baseDir (pipeBlocks origin (p.pipe origin)) =
      ((blocksOf (p.lines origin)).map (·.takeWhile (· ≠ '\n'))).map (severityOf? baseDir) := by
    simp only [severities, pipeBlocks, List.map_map, Process.lines]
    exact List.map_congr_left fun block _ => (severityOf?_firstLine baseDir block).symm
  rw [hfirst, map_firstLine_blocksOf hnewline, Process.headSeverities]
  split
  · rw [List.map_singleton, severityOf?_nil]
  · rfl

/-- The blocks of a pipe have as many errors, or warnings, as the lines at which they begin. -/
theorem count_severities_pipeBlocks (baseDir : Path) (p : Process) (origin : Origin)
    (severity : Severity) :
    (severities baseDir (pipeBlocks origin (p.pipe origin))).count (some severity) =
      (p.headSeverities baseDir origin).count (some severity) := by
  rw [severities_pipeBlocks]
  split
  · next hnil => simp [Process.headSeverities, hnil, headLines]
  · rfl

/-! ## The lines of a run -/

theorem mem_headLines_iff {line : Text} {lines : List Text} :
    line ∈ headLines lines ↔
      line ∈ lines ∧ (lines.head? = some line ∨ startsBlock line = true) := by
  cases lines with
  | nil => simp [headLines]
  | cons first lines =>
    simp only [headLines, List.mem_cons, List.mem_filter, List.head?_cons, Option.some.injEq]
    constructor
    · rintro (rfl | ⟨hmem, hstarts⟩)
      · exact ⟨.inl rfl, .inl rfl⟩
      · exact ⟨.inr hmem, .inr hstarts⟩
    · rintro ⟨rfl | hmem, hhead⟩
      · exact .inl rfl
      · exact hhead.imp Eq.symm fun hstarts => ⟨hmem, hstarts⟩

/-- Whether some line of a pipe begins a block and is an error by itself. -/
def Process.HasErrorLine (baseDir : Path) (p : Process) : Prop :=
  ∃ origin, ∃ line ∈ p.lines origin,
    ((p.lines origin).head? = some line ∨ startsBlock line = true) ∧
      ∃ d, Diagnostic.ofBlock? baseDir line = some d ∧ d.severity = .error

theorem Process.hasErrorLine_iff (baseDir : Path) (p : Process) :
    p.HasErrorLine baseDir ↔ ∃ origin, some .error ∈ p.headSeverities baseDir origin := by
  simp only [HasErrorLine, headSeverities, List.mem_map, mem_headLines_iff, and_assoc, severityOf?,
    Option.map_eq_some_iff]

namespace Run

/-- The errors and the warnings of a finished run are those of the lines at which the blocks
of its pipes begin. -/
theorem tally_headSeverities (baseDir : Path) (token : Token) (p : Process)
    (requests : List Request) :
    let tally := ((ofProcess baseDir token p).finishAfter requests).2.monitor.tally
    let found := p.headSeverities baseDir .stdout ++ p.headSeverities baseDir .stderr
    tally.errors = min maxTally (found.count (some .error)) ∧
      tally.warnings = min maxTally (found.count (some .warning)) := by
  intro tally found
  have hcount : ∀ severity, (severities baseDir
      (pipeBlocks .stdout p.stdout ++ pipeBlocks .stderr p.stderr)).count (some severity) =
      found.count (some severity) := by
    intro severity
    have hout := count_severities_pipeBlocks baseDir p .stdout severity
    have herr := count_severities_pipeBlocks baseDir p .stderr severity
    rw [severities, List.map_append, List.count_append, List.count_append, ← hout, ← herr]
    rfl
  have htally : tally = .ofSeverities _ := tally_finishAfter baseDir token p requests
  rw [htally]
  exact ⟨congrArg (min maxTally) (hcount .error), congrArg (min maxTally) (hcount .warning)⟩

/-- A finished run has an error exactly if one of its lines is one. -/
theorem hasError_finishAfter_iff (baseDir : Path) (token : Token) (p : Process)
    (requests : List Request) :
    ((ofProcess baseDir token p).finishAfter requests).2.hasError = true ↔
      p.HasErrorLine baseDir := by
  have herrors := (tally_headSeverities baseDir token p requests).1
  rw [hasError_eq, decide_eq_true_eq, herrors, Tally.min_pos_iff, List.count_pos_iff,
    List.mem_append, Process.hasErrorLine_iff]
  constructor
  · rintro (h | h)
    · exact ⟨.stdout, h⟩
    · exact ⟨.stderr, h⟩
  · rintro ⟨origin, h⟩
    cases origin with
    | stdout => exact .inl h
    | stderr => exact .inr h

/-- What a run comes to is decided by the end of its process and by the error flag. -/
theorem finishAfter_eq (baseDir : Path) (token : Token) (p : Process)
    (requests : List Request) :
    ((ofProcess baseDir token p).finishAfter requests).1 =
      p.exit.ending.answer ((ofProcess baseDir token p).finishAfter requests).2.hasError := by
  have hwatcher := watcher_serveAll (ofProcess baseDir token p) requests
  have hnone : ((ofProcess baseDir token p).serveAll requests).2.watcher.report = none := by
    rw [hwatcher]
    rfl
  rw [finishAfter, finish_fst (Watcher.truthful_of_none hnone), hwatcher]
  rfl

/-- **The error flag is exact, line by line.** The result of a run, which there is whenever
the exit status can be learnt, has the error flag exactly if some line that begins a block
is an error by itself. The counters are the numbers of such lines, up to the greatest value
of a counter. For the heading of a diagnostic is told by the first line of its block. -/
theorem errorFlag_exact (baseDir : Path) (token : Token) (p : Process)
    (requests : List Request) :
    let finished := (ofProcess baseDir token p).finishAfter requests
    let found := p.headSeverities baseDir .stdout ++ p.headSeverities baseDir .stderr
    (∃ flag : Bool, (flag = true ↔ p.HasErrorLine baseDir) ∧
      finished.1 = match p.exit.ending with
        | .exited status => .ok ⟨status.code?, flag⟩
        | .lost e => .error (.wait e)
        | .unwatched => .error .watcherGone) ∧
      finished.2.monitor.tally.errors = min maxTally (found.count (some .error)) ∧
      finished.2.monitor.tally.warnings = min maxTally (found.count (some .warning)) ∧
      ∀ block, (Diagnostic.ofBlock? baseDir block).map Diagnostic.heading =
        (Diagnostic.ofBlock? baseDir (block.takeWhile (· ≠ '\n'))).map Diagnostic.heading := by
  intro finished found
  obtain ⟨herrors, hwarnings⟩ := tally_headSeverities baseDir token p requests
  refine ⟨⟨finished.2.hasError, ?_, ?_⟩, herrors, hwarnings, ?_⟩
  · exact hasError_finishAfter_iff baseDir token p requests
  · exact finishAfter_eq baseDir token p requests
  · exact Diagnostic.map_heading_eq_firstLine baseDir

end Run

end Buildwatch
