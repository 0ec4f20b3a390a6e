import Buildwatch.Run.Basic
import Buildwatch.Proofs.Output.Reader

/-!
# The stream of a pipe

The blocks of a pipe are those of the bytes that it delivers. Joined again, they are the
decoding of these bytes as a whole: nothing is lost, doubled or moved.
-/

namespace Buildwatch

open Text (joinLines)

variable {ε : Type} [Interruptible ε]

/-- The blocks of all bytes that a pipe delivers. -/
def pipeBlocks (origin : Origin) (source : List (Read ε)) : List OutputBlock :=
  (blocksOf (streamLines (delivered source))).map (OutputBlock.mk origin)

theorem origin_of_mem_pipeBlocks {origin : Origin} {source : List (Read ε)} {block : OutputBlock}
    (h : block ∈ pipeBlocks origin source) : block.origin = origin := by
  obtain ⟨text, -, rfl⟩ := List.mem_map.1 h
  rfl

namespace PipeReader

/-- A pipe at its start. -/
def ofReads (origin : Origin) (source : List (Read ε)) : PipeReader ε :=
  ⟨origin, .ofReads .fresh source⟩

/-- What a pipe has still to give. -/
def forecast (p : PipeReader ε) : Source.Forecast ε OutputBlock :=
  p.reader.forecast.map (OutputBlock.mk p.origin)

theorem meets_poll (p : PipeReader ε) (h : p.reader.Settled) :
    (Source.poll p).2.reader.Settled ∧
      p.forecast.Meets (Source.poll p).1 (Source.poll p).2.forecast := by
  obtain ⟨hsettled, hmeets⟩ := p.reader.meets_poll h
  exact ⟨hsettled, hmeets.map (OutputBlock.mk p.origin)⟩

omit [Interruptible ε] in
theorem settled_ofReads (origin : Origin) (source : List (Read ε)) :
    (ofReads origin source).reader.Settled := LineSplitter.settled_fresh

theorem forecast_ofReads (origin : Origin) (source : List (Read ε)) :
    (ofReads origin source).forecast = ⟨pipeBlocks origin source, failureOf? source⟩ := by
  simp only [forecast, ofReads, pipeBlocks, Reader.ofReads, Reader.forecast,
    BlockBuffer.blocksWith_fresh]
  rfl

/-- The blocks that a pipe gives. -/
theorem items_ofReads (origin : Origin) (source : List (Read ε)) :
    Source.items (ofReads origin source) = pipeBlocks origin source := by
  rw [(Source.drain_of_meets meets_poll (settled_ofReads origin source)).1, forecast_ofReads]

/-- All blocks among the answers of a pipe. -/
def blocks (p : PipeReader ε) : List OutputBlock := (Source.answers p).filterMap Polled.item?

theorem blocks_ofReads (origin : Origin) (source : List (Read ε)) :
    (ofReads origin source).blocks = pipeBlocks origin source := by
  rw [blocks, Source.filterMap_answers_of_meets meets_poll (settled_ofReads origin source),
    forecast_ofReads]

/-- **No output is lost, doubled or moved.** The blocks of a pipe joined with newlines, and
the newline that ends the last line if there is one, are the decoding of the delivered bytes
as a whole: every character where its bytes stand, and one replacement character for each
gap between characters. -/
theorem joinLines_blocks (origin : Origin) (source : List (Read ε)) :
    let data := delivered source
    let joined := joinLines ((ofReads origin source).blocks.map (·.text)) ++
      if data.getLast? = some 0x0A then ['\n'] else []
    joined = Utf8.decodeLossy data ∧
      ∃ out, Utf8.Decoding data out ∧ joined = out.map (·.getD Utf8.replacement) := by
  intro data joined
  -- Joining the blocks gives the lines, and joining the lines gives the decoding.
  have hjoined : joined = Utf8.decodeLossy data := by
    simp only [joined, blocks_ofReads, pipeBlocks, List.map_map, Function.comp_def, List.map_id',
      joinLines_blocksOf]
    exact joinLines_streamLines data
  exact ⟨hjoined, Utf8.decode data, Utf8.decoding_iff.2 rfl, hjoined⟩

end PipeReader

end Buildwatch
