import Buildwatch.Proofs.Output.Accumulator
import Buildwatch.Proofs.Output.Blocks
import Buildwatch.Proofs.Output.Cuts

/-!
# Stretches

A splitter and a buffer can be emptied at any time and go on with another stream. A stretch is
what goes in between two such times. What comes out of it depends on the stretch as a whole:
not on the pieces in which it goes in, and not on the stretches before.
-/

namespace Buildwatch

open Text (joinLines)

/-- What went in since the last time that everything was taken out, and what came out of it. -/
structure Stretch (α : Type) where
  input : List α := []
  output : List Text := []

/-! ## The splitter -/

section Cutting

variable {sep front bytes : List UInt8}

/-- If no separator begins within the front of some bytes, the front need not be looked at. -/
theorem breakOn?_skip
    (h : ∀ before after, front ++ bytes = before ++ sep ++ after → front.length ≤ before.length) :
    breakOn? sep (front ++ bytes) =
      (breakOn? sep bytes).map fun (piece, rest) => (front ++ piece, rest) := by
  induction front with
  | nil => simp
  | cons b front ih =>
    have hnone : dropFront? sep (b :: (front ++ bytes)) = none := by
      cases hd : dropFront? sep (b :: (front ++ bytes)) with
      | none => rfl
      | some rest =>
        have hle := h [] rest (dropFront?_eq_some hd)
        simp at hle
    have hrest : ∀ before after, front ++ bytes = before ++ sep ++ after →
        front.length ≤ before.length := by
      intro before after heq
      have hle := h (b :: before) after (by rw [List.cons_append, heq]; rfl)
      simpa using hle
    rw [List.cons_append, breakOn?, hnone]
    dsimp only
    rw [ih hrest, Option.map_map]
    rfl

end Cutting

namespace LineSplitter

/-! ### Looking at new bytes only -/

/-- The number of waiting bytes that need not be looked at again: of all but the last ones,
one less than a separator has, no separator can begin. -/
def passedOver (s : LineSplitter) : Nat := s.carry.length - (s.separator.length - 1)

/-- Takes a chunk as `push` does, but looks for the first separator only where it can begin. -/
def pushPassingOver (s : LineSplitter) (chunk : List UInt8) : List Text × LineSplitter :=
  match breakOn? s.separator (s.carry.drop s.passedOver ++ chunk) with
  | none => ([], { s with carry := s.carry ++ chunk })
  | some (piece, rest) =>
    let (pieces, carry) := cutAtAll s.separator s.separator_ne_nil rest
    (((s.carry.take s.passedOver ++ piece) :: pieces).map Utf8.decodeLossy, { s with carry })

variable {s : LineSplitter}

/-- No separator begins in the bytes that are passed over. -/
theorem passedOver_le (h : s.Settled) {chunk before after : List UInt8}
    (heq : s.carry ++ chunk = before ++ s.separator ++ after) : s.passedOver ≤ before.length := by
  by_contra hlt
  rw [passedOver] at hlt
  -- Such a separator would end among the waiting bytes, where there is none.
  have hlen : (before ++ s.separator).length ≤ s.carry.length := by
    rw [List.length_append]
    omega
  obtain ⟨more, hmore⟩ := List.prefix_of_prefix_length_le ⟨after, heq.symm⟩ ⟨chunk, rfl⟩ hlen
  exact (breakOn?_eq_none_iff s.separator_ne_nil).1 h before more hmore.symm

theorem push_eq_pushPassingOver (h : s.Settled) (chunk : List UInt8) :
    s.push chunk = s.pushPassingOver chunk := by
  have hwhole : s.carry ++ chunk =
      s.carry.take s.passedOver ++ (s.carry.drop s.passedOver ++ chunk) := by
    rw [← List.append_assoc, List.take_append_drop]
  have hskip : breakOn? s.separator (s.carry ++ chunk) =
      (breakOn? s.separator (s.carry.drop s.passedOver ++ chunk)).map
        fun (piece, rest) => (s.carry.take s.passedOver ++ piece, rest) := by
    rw [hwhole]
    refine breakOn?_skip fun before after heq => ?_
    rw [← hwhole] at heq
    exact Nat.le_trans (List.length_take_le _ _) (passedOver_le h heq)
  unfold push pushPassingOver
  cases hbreak : breakOn? s.separator (s.carry.drop s.passedOver ++ chunk) with
  | none =>
    rw [hbreak, Option.map_none] at hskip
    rw [cutAtAll_of_eq_none _ hskip]
    rfl
  | some found =>
    rw [hbreak, Option.map_some] at hskip
    rw [cutAtAll_of_eq_some _ hskip]

/-! ### Calls -/

/-- What can be asked of a splitter. -/
inductive Call
  | push (chunk : List UInt8)
  | takeRemainder

/-- Serves a call, and keeps a record of the stretch that is going on. -/
def serve : LineSplitter × Stretch UInt8 → Call → LineSplitter × Stretch UInt8
  | (s, stretch), .push chunk =>
    ((s.push chunk).2, ⟨stretch.input ++ chunk, stretch.output ++ (s.push chunk).1⟩)
  | (s, _), .takeRemainder => (s.takeRemainder.2, {})

/-- Serves all calls in order, from the start. -/
def serveAll (sep : List UInt8) (calls : List Call) : LineSplitter × Stretch UInt8 :=
  calls.foldl serve (withSeparator sep, {})

section

variable {sep : List UInt8} {hsep : sep ≠ []} {stretch : Stretch UInt8}

/-- Whether a splitter is where the cut of its stretch ends, and has given the pieces before. -/
structure Follows (sep : List UInt8) (hsep : sep ≠ []) (s : LineSplitter)
    (stretch : Stretch UInt8) : Prop where
  separator_eq : s.separator = sep
  carry_eq : s.carry = (cutAtAll sep hsep stretch.input).2
  output_eq : stretch.output = (cutAtAll sep hsep stretch.input).1.map Utf8.decodeLossy

theorem withSeparator_eq (hsep : sep ≠ []) :
    withSeparator sep = { separator := sep, separator_ne_nil := hsep } := dif_neg hsep

theorem follows_withSeparator : Follows sep hsep (withSeparator sep) {} := by
  have hnil : cutAtAll sep hsep [] = ([], []) := cutAtAll_of_eq_none hsep rfl
  rw [withSeparator_eq hsep]
  exact ⟨rfl, by rw [hnil], by rw [hnil]; rfl⟩

/-- A splitter whose remainder is taken is as at the start. -/
theorem Follows.takeRemainder_eq (h : Follows sep hsep s stretch) :
    s.takeRemainder.2 = withSeparator sep := by
  obtain ⟨rfl, -, -⟩ := h
  rw [withSeparator_eq hsep]
  rfl

theorem Follows.serve (h : Follows sep hsep s stretch) (call : Call) :
    Follows sep hsep (serve (s, stretch) call).1 (serve (s, stretch) call).2 := by
  cases call with
  | push chunk =>
    obtain ⟨rfl, hcarry, houtput⟩ := h
    refine ⟨rfl, ?_, ?_⟩
    · rw [LineSplitter.serve, cutAtAll_append, ← hcarry]
      rfl
    · rw [LineSplitter.serve, cutAtAll_append, ← hcarry, List.map_append, ← houtput]
      rfl
  | takeRemainder =>
    rw [LineSplitter.serve, h.takeRemainder_eq]
    exact follows_withSeparator

theorem Follows.foldl_serve {now : LineSplitter × Stretch UInt8}
    (h : Follows sep hsep now.1 now.2) (calls : List Call) :
    Follows sep hsep (calls.foldl LineSplitter.serve now).1
      (calls.foldl LineSplitter.serve now).2 := by
  induction calls generalizing now with
  | nil => exact h
  | cons call calls ih => exact ih (h.serve call)

theorem Follows.settled (h : Follows sep hsep s stretch) : s.Settled := by
  rw [Settled, h.separator_eq, h.carry_eq]
  exact breakOn?_cutAtAll hsep stretch.input

end

/-- **The lines of a stretch do not depend on the chunks in which it comes**: with the
remainder, they are the pieces of the one cut of its bytes. -/
theorem lines_regardless_of_chunks (sep : List UInt8) (hsep : sep ≠ []) (calls : List Call) :
    let s := (serveAll sep calls).1
    let stretch := (serveAll sep calls).2
    (∃ pieces tail, CutsInto sep stretch.input pieces tail ∧
        (∀ pieces' tail', CutsInto sep stretch.input pieces' tail' →
          pieces' = pieces ∧ tail' = tail) ∧
        stretch.output ++ [s.takeRemainder.1] = (pieces ++ [tail]).map Utf8.decodeLossy ∧
        (s.hasRemainder = true ↔ tail ≠ [])) ∧
      (∀ before after, s.carry ≠ before ++ sep ++ after) ∧
      (∀ chunk, s.push chunk = s.pushPassingOver chunk) ∧
      s.takeRemainder.2 = withSeparator sep := by
  intro s stretch
  have hfollows : Follows sep hsep s stretch := follows_withSeparator.foldl_serve calls
  have hcut : cutAtAll sep hsep stretch.input =
      ((cutAtAll sep hsep stretch.input).1, s.carry) := by rw [hfollows.carry_eq]
  refine ⟨⟨_, s.carry, (cutsInto_iff hsep).2 hcut, fun pieces' tail' hcut' => ?_, ?_, ?_⟩, ?_, ?_,
    hfollows.takeRemainder_eq⟩
  · have heq := hcut.symm.trans ((cutsInto_iff hsep).1 hcut')
    exact ⟨(Prod.mk.inj heq).1.symm, (Prod.mk.inj heq).2.symm⟩
  · rw [hfollows.output_eq, List.map_append]
    rfl
  · simp [hasRemainder]
  · exact hfollows.separator_eq ▸ (breakOn?_eq_none_iff s.separator_ne_nil).1 hfollows.settled
  · exact fun chunk => push_eq_pushPassingOver hfollows.settled chunk

/-- A separator that overlaps itself and is spread over three chunks, after an earlier stretch
that ended within a separator. -/
theorem lines_regardless_of_chunks_overlapping :
    let sep : List UInt8 := [0x61, 0x62, 0x61]
    let calls : List Call := [.push [0x61, 0x62], .takeRemainder, .push [0x78, 0x61],
      .push [0x62], .push [0x61, 0x62, 0x61]]
    let s := (serveAll sep calls).1
    let stretch := (serveAll sep calls).2
    sep ≠ [] ∧ stretch.input = [0x78, 0x61, 0x62, 0x61, 0x62, 0x61] ∧
      stretch.output ++ [s.takeRemainder.1] = ["x".toList, "ba".toList] ∧
      ∃ pieces tail, CutsInto sep stretch.input pieces tail ∧
        (pieces ++ [tail]).map Utf8.decodeLossy = ["x".toList, "ba".toList] := by
  intro sep calls s stretch
  have hsep : sep ≠ [] := by decide
  have hlines : stretch.output ++ [s.takeRemainder.1] = ["x".toList, "ba".toList] := by
    decide +kernel
  obtain ⟨⟨pieces, tail, hcut, -, houtput, -⟩, -⟩ := lines_regardless_of_chunks sep hsep calls
  exact ⟨hsep, by decide +kernel, hlines, pieces, tail, hcut, houtput.symm.trans hlines⟩

end LineSplitter

/-! ## The buffer -/

namespace BlockBuffer

variable {b : BlockBuffer} {stretch : Stretch Text}

/-- What can be asked of a buffer. -/
inductive Call
  | push (line : Text)
  | pushAll (lines : List Text)
  | flush (remainder : Text)

/-- Serves a call, and keeps a record of the stretch that is going on. -/
def serve : BlockBuffer × Stretch Text → Call → BlockBuffer × Stretch Text
  | (b, stretch), .push line =>
    ((b.push line).2, ⟨stretch.input ++ [line], stretch.output ++ (b.push line).1.toList⟩)
  | (b, stretch), .pushAll lines =>
    ((b.pushAll lines).2, ⟨stretch.input ++ lines, stretch.output ++ (b.pushAll lines).1⟩)
  | (b, _), .flush remainder => ((b.flush remainder).2, {})

/-- Serves all calls in order, from the start. -/
def serveAll (calls : List Call) : BlockBuffer × Stretch Text := calls.foldl serve ({}, {})

theorem flush_eq (b : BlockBuffer) (remainder : Text) :
    b.flush remainder = (b.finish remainder, {}) := by
  unfold flush finish
  by_cases h : remainder = []
  · simp [h]
  · simp [h]

/-- Whether a buffer and what it has given are what the lines of its stretch make of them. -/
structure Follows (b : BlockBuffer) (stretch : Stretch Text) : Prop where
  lines_eq_nil_iff : b.lines = [] ↔ stretch.input = []
  blocks_eq : ∀ lines, stretch.output ++ b.blocksWith lines = blocksOf (stretch.input ++ lines)

theorem follows_empty : Follows {} {} := ⟨by simp, fun lines => blocksWith_fresh lines⟩

theorem push_lines_ne_nil (b : BlockBuffer) (line : Text) : (b.push line).2.lines ≠ [] := by
  unfold push
  split <;> simp

theorem pushAll_lines_eq_nil_iff {lines : List Text} :
    (b.pushAll lines).2.lines = [] ↔ b.lines = [] ∧ lines = [] := by
  induction lines generalizing b with
  | nil => simp [pushAll]
  | cons line lines ih => simp [pushAll, ih, push_lines_ne_nil]

theorem Follows.serve (h : Follows b stretch) (call : Call) :
    Follows (serve (b, stretch) call).1 (serve (b, stretch) call).2 := by
  cases call with
  | push line =>
    refine ⟨?_, fun lines => ?_⟩
    · simp [BlockBuffer.serve, push_lines_ne_nil]
    · simp only [BlockBuffer.serve, List.append_assoc, List.singleton_append]
      rw [← blocksWith_cons, h.blocks_eq]
  | pushAll lines =>
    refine ⟨?_, fun rest => ?_⟩
    · simp [BlockBuffer.serve, pushAll_lines_eq_nil_iff, h.lines_eq_nil_iff]
    · simp only [BlockBuffer.serve, List.append_assoc]
      rw [← blocksWith_append, h.blocks_eq]
  | flush remainder =>
    rw [BlockBuffer.serve, flush_eq]
    exact follows_empty

theorem Follows.foldl_serve {now : BlockBuffer × Stretch Text} (h : Follows now.1 now.2)
    (calls : List Call) :
    Follows (calls.foldl BlockBuffer.serve now).1 (calls.foldl BlockBuffer.serve now).2 := by
  induction calls generalizing now with
  | nil => exact h
  | cons call calls ih => exact ih (h.serve call)

end BlockBuffer

namespace BlockAccumulator

open BlockBuffer (Call)

variable {a : BlockAccumulator} {b : BlockBuffer}

/-- Serves a call, as a buffer does. -/
def serve : BlockAccumulator × Stretch Text → Call → BlockAccumulator × Stretch Text
  | (a, stretch), .push line =>
    ((a.push line).2, ⟨stretch.input ++ [line], stretch.output ++ (a.push line).1.toList⟩)
  | (a, stretch), .pushAll lines =>
    ((a.pushAll lines).2, ⟨stretch.input ++ lines, stretch.output ++ (a.pushAll lines).1⟩)
  | (a, _), .flush remainder => ((a.flush remainder).2, {})

def serveAll (calls : List Call) : BlockAccumulator × Stretch Text := calls.foldl serve ({}, {})

theorem Keeps.serve (h : Keeps a b) (stretch : Stretch Text) (call : Call) :
    Keeps (serve (a, stretch) call).1 (BlockBuffer.serve (b, stretch) call).1 ∧
      (serve (a, stretch) call).2 = (BlockBuffer.serve (b, stretch) call).2 := by
  cases call with
  | push line =>
    obtain ⟨hcompleted, hpushed⟩ := h.push line
    exact ⟨hpushed, by simp [BlockAccumulator.serve, BlockBuffer.serve, hcompleted]⟩
  | pushAll lines =>
    obtain ⟨hblocks, hpushed⟩ := h.pushAll lines
    exact ⟨hpushed, by simp [BlockAccumulator.serve, BlockBuffer.serve, hblocks]⟩
  | flush remainder =>
    rw [BlockAccumulator.serve, BlockBuffer.serve, h.flush, BlockBuffer.flush_eq]
    exact ⟨.empty, rfl⟩

theorem Keeps.foldl_serve (h : Keeps a b) (stretch : Stretch Text) (calls : List Call) :
    Keeps (calls.foldl BlockAccumulator.serve (a, stretch)).1
        (calls.foldl BlockBuffer.serve (b, stretch)).1 ∧
      (calls.foldl BlockAccumulator.serve (a, stretch)).2 =
        (calls.foldl BlockBuffer.serve (b, stretch)).2 := by
  induction calls generalizing a b stretch with
  | nil => exact ⟨h, rfl⟩
  | cons call calls ih =>
    obtain ⟨hkeeps, hstretch⟩ := h.serve stretch call
    rcases hserved : BlockAccumulator.serve (a, stretch) call with ⟨a', stretch'⟩
    rcases hserved' : BlockBuffer.serve (b, stretch) call with ⟨b', stretch''⟩
    rw [hserved, hserved'] at hkeeps hstretch
    obtain rfl : stretch' = stretch'' := hstretch
    rw [List.foldl_cons, List.foldl_cons, hserved, hserved']
    exact ih hkeeps stretch'

end BlockAccumulator

namespace BlockBuffer

/-- **The blocks of a stretch do not depend on the batches in which its lines come**: they are
the groups of its lines, of which the remainder is the last one unless it is empty. A buffer that
keeps no lines, but their text and their number, gives the same blocks. -/
theorem blocks_regardless_of_batches (calls : List Call) (remainder : Text) :
    let b := (serveAll calls).1
    let stretch := (serveAll calls).2
    let a := (BlockAccumulator.serveAll calls).1
    let lines := stretch.input ++ (if remainder = [] then [] else [remainder])
    let blocks := stretch.output ++ (b.flush remainder).1
    (lines = [] → blocks = [[]]) ∧
      (lines ≠ [] → ∃ groups, GroupsInto lines groups ∧
        (∀ groups', GroupsInto lines groups' → groups' = groups) ∧
        blocks = groups.map joinLines) ∧
      joinLines blocks = joinLines lines ∧
      (b.isEmpty = true ↔ stretch.input = []) ∧
      (b.flush remainder).2 = {} ∧
      (BlockAccumulator.serveAll calls).2 = stretch ∧
      a.isEmpty = b.isEmpty ∧
      a.flush remainder = ((b.flush remainder).1, {}) := by
  intro b stretch a lines blocks
  have hfollows : Follows b stretch := follows_empty.foldl_serve calls
  -- A flush takes the remainder as one more line, unless it is empty.
  have hblocks : blocks = blocksOf lines := by
    simp only [blocks, flush_eq, finish_eq]
    exact hfollows.blocks_eq _
  -- The accumulator gets the same calls, and keeps the lines of the buffer all along.
  obtain ⟨hkeeps, hsame⟩ := BlockAccumulator.Keeps.empty.foldl_serve {} calls
  refine ⟨fun hnil => ?_, fun hne => ?_, ?_, ?_, ?_, hsame, hkeeps.isEmpty_eq,
    hkeeps.flush remainder⟩
  · rw [hblocks, hnil]
    rfl
  · rw [hblocks, blocksOf_eq hne]
    exact ⟨groupLines lines, groupsInto_groupLines lines,
      fun groups' hgroups => (groupsInto_iff.1 hgroups).symm, rfl⟩
  · rw [hblocks, joinLines_blocksOf]
  · rw [isEmpty, List.isEmpty_iff]
    exact hfollows.lines_eq_nil_iff
  · rw [flush_eq]

end BlockBuffer

end Buildwatch
