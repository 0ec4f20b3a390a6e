import Buildwatch.Proofs.Output.Cuts
import Buildwatch.Proofs.Run.Pipe

/-!
# Blocks of a whole pipe

What a pipe gives, poll after poll, is what one pass over all of its bytes gives: the blocks,
then the failure if there is one, then the end. Nothing is read once the pipe is at its end.
-/

namespace Buildwatch

open Text (joinLines)

/-- Whether these are the blocks of the bytes in one pass: the pieces between the separators
are decoded, an empty last one is left out, and the lines are divided into groups. Without
any line there is one empty block. -/
def BatchBlocks (sep bytes : List UInt8) (blocks : List Text) : Prop :=
  ∃ pieces tail groups, CutsInto sep bytes pieces tail ∧
    GroupsInto ((if tail = [] then pieces else pieces ++ [tail]).map Utf8.decodeLossy) groups ∧
    blocks = if groups = [] then [[]] else groups.map joinLines

theorem batchBlocks_blocksOf {sep : List UInt8} (hsep : sep ≠ []) (bytes : List UInt8) :
    BatchBlocks sep bytes (blocksOf (linesOf sep hsep bytes)) := by
  have hcut : CutsInto sep bytes (cutAtAll sep hsep bytes).1 (cutAtAll sep hsep bytes).2 :=
    (cutsInto_iff hsep).2 rfl
  refine ⟨_, _, _, hcut, groupsInto_groupLines _, ?_⟩
  rw [blocksOf]
  split
  · next heq => exact (if_pos heq).symm
  · next hne => exact (if_neg hne).symm

/-! ## Where reading stops -/

variable {ε : Type} [Interruptible ε]

/-- Whether a read ends the pipe: an empty one, or one that failed for good. -/
def Read.isStop : Read ε → Bool
  | .data bytes => bytes.isEmpty
  | .pending => false
  | .failed e => !Interruptible.isInterrupted e

namespace Reader

/-- The reads that an open pipe has still to give. -/
def unread? : Reader ε → Option (List (Read ε))
  | .reading source .. => some source
  | .ending .. => none

/-- Two readers that differ at most in the reads after the one that ends the pipe. -/
inductive AgreeUpTo (stop : Read ε) (after after' : List (Read ε)) : Reader ε → Reader ε → Prop
  | reading (before : List (Read ε)) (ready : List Text) (lines : LineSplitter)
      (blocks : BlockBuffer) :
      AgreeUpTo stop after after' (.reading (before ++ stop :: after) ready lines blocks)
        (.reading (before ++ stop :: after') ready lines blocks)
  | ending (ready : List Text) (failure : Option ε) :
      AgreeUpTo stop after after' (.ending ready failure) (.ending ready failure)

section Agree

variable {stop : Read ε} {after after' : List (Read ε)} {r r' : Reader ε}

omit [Interruptible ε] in
theorem agreeUpTo_pollEnding (ready : List Text) (failure : Option ε) :
    AgreeUpTo stop after after' (pollEnding ready failure).2 (pollEnding ready failure).2 := by
  cases ready with
  | nil => cases failure <;> exact .ending _ _
  | cons block ready => exact .ending _ _

theorem agreeUpTo_advance (hstop : stop.isStop = true) (lines : LineSplitter)
    (blocks : BlockBuffer) (before : List (Read ε)) :
    (advance lines blocks (before ++ stop :: after)).1 =
        (advance lines blocks (before ++ stop :: after')).1 ∧
      AgreeUpTo stop after after' (advance lines blocks (before ++ stop :: after)).2
        (advance lines blocks (before ++ stop :: after')).2 := by
  induction before generalizing lines blocks with
  | nil =>
    -- Both readers flush what waits and forget the reads that follow.
    match stop with
    | .data [] => exact ⟨rfl, agreeUpTo_pollEnding _ _⟩
    | .failed e =>
      have he : Interruptible.isInterrupted e = false := by simpa [Read.isStop] using hstop
      simp only [List.nil_append, advance, he, Bool.false_eq_true, if_false, true_and]
      exact agreeUpTo_pollEnding _ _
  | cons read before ih =>
    match read with
    | .pending => exact ⟨rfl, .reading before [] lines blocks⟩
    | .failed e =>
      simp only [List.cons_append, advance]
      split
      · exact ih lines blocks
      · exact ⟨rfl, agreeUpTo_pollEnding _ _⟩
    | .data [] => exact ⟨rfl, agreeUpTo_pollEnding _ _⟩
    | .data (b :: bytes) =>
      simp only [List.cons_append, advance]
      split
      · exact ih _ _
      · exact ⟨rfl, .reading before _ _ _⟩

/-- Readers that agree give the same answer, and go on agreeing. -/
theorem AgreeUpTo.poll (hstop : stop.isStop = true) (h : AgreeUpTo stop after after' r r') :
    r.poll.1 = r'.poll.1 ∧ AgreeUpTo stop after after' r.poll.2 r'.poll.2 := by
  cases h with
  | reading before ready lines blocks =>
    cases ready with
    | nil => exact agreeUpTo_advance hstop lines blocks before
    | cons block ready => exact ⟨rfl, .reading before ready lines blocks⟩
  | ending ready failure => exact ⟨rfl, agreeUpTo_pollEnding ready failure⟩

omit [Interruptible ε] in
/-- What ends the pipe, and all that follows it, is unread as long as the pipe is open. -/
theorem AgreeUpTo.suffix_unread (h : AgreeUpTo stop after after' r r') :
    ∀ source ∈ r.unread?, stop :: after <:+ source := by
  cases h with
  | reading before ready lines blocks =>
    rintro _ ⟨⟩
    exact List.suffix_append before (stop :: after)
  | ending ready failure => rintro _ ⟨⟩

end Agree

end Reader

/-! ## The stream of a pipe -/

namespace PipeReader

variable {sep : List UInt8}

theorem polls_agree {stop : Read ε} {after after' : List (Read ε)} (hstop : stop.isStop = true)
    {p q : PipeReader ε} (horigin : p.origin = q.origin)
    (h : Reader.AgreeUpTo stop after after' p.reader q.reader) (n : Nat) :
    (Source.polls n p).1 = (Source.polls n q).1 ∧
      Reader.AgreeUpTo stop after after' (Source.polls n p).2.reader
        (Source.polls n q).2.reader := by
  induction n generalizing p q with
  | zero => exact ⟨rfl, h⟩
  | succ n ih =>
    obtain ⟨hanswer, hnext⟩ := h.poll hstop
    obtain ⟨hanswers, hlast⟩ := ih (p := p.poll.2) (q := q.poll.2) horigin hnext
    have hfirst : p.poll.1 = q.poll.1 := by simp only [poll, hanswer, horigin]
    exact ⟨by simp only [Source.polls, Source.poll, hfirst, hanswers], hlast⟩

theorem answers_withSeparator (origin : Origin) (hsep : sep ≠ []) (reads : List (Read ε)) :
    (Source.answers (⟨origin, .ofReads (.withSeparator sep) reads⟩ : PipeReader ε)).filter
        Source.isSettled =
      (blocksOf (linesOf sep hsep (delivered reads))).map (fun text => .item ⟨origin, text⟩) ++
        (failureOf? reads).toList.map .failed := by
  have hfresh : LineSplitter.withSeparator sep = { separator := sep, separator_ne_nil := hsep } :=
    dif_neg hsep
  have hlines : (LineSplitter.withSeparator sep).linesWith (delivered reads) =
      linesOf sep hsep (delivered reads) := by rw [hfresh]; rfl
  have hsettled : (Reader.ofReads (.withSeparator sep) reads).Settled := by
    rw [hfresh, Reader.ofReads, Reader.Settled]; rfl
  rw [Source.answers_of_meets meets_poll
    (s := (⟨origin, .ofReads (.withSeparator sep) reads⟩ : PipeReader ε)) hsettled]
  simp only [forecast, Source.Forecast.map, Source.Forecast.answers, Reader.ofReads,
    Reader.forecast, hlines, BlockBuffer.blocksWith_fresh, List.nil_append, List.map_map,
    Function.comp_def]

/-- **A pipe gives what one pass over its bytes gives.** Polled to its end, it answers with the
blocks of the bytes that it delivers, then with the failure that ended it, if there is one;
then comes the end, always. The read that ends the pipe is the last one made: what would
follow it makes no difference to any answer, and stays unread. -/
theorem refines_batch (origin : Origin) (hsep : sep ≠ []) (reads : List (Read ε)) :
    let stream (reads : List (Read ε)) : PipeReader ε :=
      ⟨origin, .ofReads (.withSeparator sep) reads⟩
    let answers := Source.answers (stream reads)
    (∃ blocks, BatchBlocks sep (delivered reads) blocks ∧
      answers.filter Source.isSettled =
        blocks.map (fun text => .item ⟨origin, text⟩) ++ (failureOf? reads).toList.map .failed) ∧
    (.ended ∉ answers ∧
      (Source.polls (answers.length + 1) (stream reads)).1 = answers ++ [.ended]) ∧
    ∀ before stop after, reads = before ++ stop :: after → stop.isStop = true → ∀ n,
      (∀ after', (Source.polls n (stream reads)).1 =
        (Source.polls n (stream (before ++ stop :: after'))).1) ∧
      ∀ source ∈ (Source.polls n (stream reads)).2.reader.unread?, stop :: after <:+ source := by
  intro stream answers
  refine ⟨⟨_, batchBlocks_blocksOf hsep _, answers_withSeparator origin hsep reads⟩,
    ⟨Source.ended_not_mem_answers _, Source.polls_answers _⟩, ?_⟩
  -- Two readers that agree up to the stop answer alike, so what follows it cannot matter.
  rintro before stop after rfl hstop n
  have hagree (after' : List (Read ε)) := polls_agree hstop
    (p := stream (before ++ stop :: after)) (q := stream (before ++ stop :: after')) rfl
    (.reading before [] _ _) n
  exact ⟨fun after' => (hagree after').1, (hagree after).2.suffix_unread⟩

/-- A separator is cut in two by a pause and an interruption, and a failure comes before the
second line ends; the reads after it do not count. -/
theorem refines_batch_broken :
    let interrupted : IoError := ⟨.interrupted, "Interrupted system call"⟩
    let broken : IoError := ⟨.other, "Broken pipe"⟩
    let reads : List (Read IoError) := [.data [0x61, 0x0D], .pending, .failed interrupted,
      .data [0x0A, 0x20, 0x62], .failed broken, .data [0x63], .failed interrupted]
    let stream : PipeReader IoError := ⟨.stderr, .ofReads (.withSeparator [0x0D, 0x0A]) reads⟩
    [0x0D, 0x0A] ≠ ([] : List UInt8) ∧
      delivered reads = [0x61, 0x0D, 0x0A, 0x20, 0x62] ∧
      failureOf? reads = some broken ∧
      (∃ blocks, BatchBlocks [0x0D, 0x0A] [0x61, 0x0D, 0x0A, 0x20, 0x62] blocks ∧
        (Source.answers stream).filter Source.isSettled =
          blocks.map (fun text => .item ⟨.stderr, text⟩) ++ [.failed broken]) ∧
      ∀ n, ∀ source ∈ (Source.polls n stream).2.reader.unread?,
        [.failed broken, .data [0x63], .failed interrupted] <:+ source := by
  intro interrupted broken reads stream
  have hsep : [0x0D, 0x0A] ≠ ([] : List UInt8) := by decide
  obtain ⟨hblocks, -, hstop⟩ := refines_batch .stderr hsep reads
  exact ⟨hsep, by decide, by decide, hblocks,
    fun n => (hstop (reads.take 4) (.failed broken) (reads.drop 5) rfl rfl n).2⟩

end PipeReader

end Buildwatch
