import Buildwatch.Output.Reader
import Buildwatch.Proofs.Output.Blocks
import Buildwatch.Proofs.Output.Lines
import Buildwatch.Proofs.Output.Source

/-!
# Blocks of a pipe

What a reader gives depends on the bytes that its pipe delivers and on how the pipe
ends, and on nothing else: the blocks of all lines, then the failure if there is one.
-/

namespace Buildwatch

/-! ## What a pipe delivers -/

variable {ε : Type} [Interruptible ε]

/-- The bytes that the reads give before the end of the pipe or the first failure that
ends it. -/
def delivered : List (Read ε) → List UInt8
  | [] => []
  | .pending :: source => delivered source
  | .failed e :: source => if Interruptible.isInterrupted e then delivered source else []
  | .data [] :: _ => []
  | .data bytes :: source => bytes ++ delivered source

/-- The failure that ends the pipe. -/
def failureOf? : List (Read ε) → Option ε
  | [] => none
  | .pending :: source => failureOf? source
  | .failed e :: source => if Interruptible.isInterrupted e then failureOf? source else some e
  | .data [] :: _ => none
  | .data _ :: source => failureOf? source

namespace Reader

/-! ## The forecast of a reader -/

/-- What a reader has still to give. -/
def forecast : Reader ε → Source.Forecast ε Text
  | .reading source ready lines blocks =>
    ⟨ready ++ blocks.blocksWith (lines.linesWith (delivered source)), failureOf? source⟩
  | .ending ready failure => ⟨ready, failure⟩

/-- Whether the splitter of a reader has given all its lines. -/
def Settled : Reader ε → Prop
  | .reading _ _ lines _ => lines.Settled
  | .ending .. => True

variable {lines : LineSplitter} {blocks : BlockBuffer} {source : List (Read ε)}

theorem meets_pollEnding (ready : List Text) (failure : Option ε) :
    (pollEnding ready failure).2.Settled ∧
      (⟨ready, failure⟩ : Source.Forecast ε Text).Meets (pollEnding ready failure).1
        (pollEnding ready failure).2.forecast := by
  cases ready with
  | nil => cases failure <;> simp [pollEnding, Settled, Source.Forecast.Meets, forecast]
  | cons block ready => simp [pollEnding, Settled, Source.Forecast.Meets, forecast]

/-- At the end of the pipe, what waits is flushed. -/
theorem meets_flush (h : lines.Settled) (failure : Option ε) :
    (flush lines blocks failure).2.Settled ∧
      (⟨blocks.blocksWith (lines.linesWith []), failure⟩ :
        Source.Forecast ε Text).Meets (flush lines blocks failure).1
          (flush lines blocks failure).2.forecast := by
  rw [lines.linesWith_nil h, ← BlockBuffer.finish_eq]
  exact meets_pollEnding _ failure

/-- Taking a chunk completes the first of the blocks to come. -/
theorem forecast_data {bytes : List UInt8} (h : bytes ≠ []) :
    forecast (.reading (.data bytes :: source) [] lines blocks) =
      forecast (.reading source (blocks.pushAll (lines.push bytes).1).1 (lines.push bytes).2
        (blocks.pushAll (lines.push bytes).1).2) := by
  obtain ⟨b, bytes, rfl⟩ := List.exists_cons_of_ne_nil h
  simp only [forecast, delivered, failureOf?, LineSplitter.linesWith_append,
    BlockBuffer.blocksWith_append, List.nil_append]

theorem meets_advance (h : lines.Settled) :
    (advance lines blocks source).2.Settled ∧
      (forecast (.reading source [] lines blocks)).Meets (advance lines blocks source).1
        (advance lines blocks source).2.forecast := by
  -- By the reads: the end, a pending read, an interruption, a failure, an empty read, and
  -- chunks that complete no block or at least one.
  fun_induction advance lines blocks source with
  | case1 lines blocks => exact meets_flush h none
  | case2 lines blocks source => exact ⟨h, rfl⟩
  | case3 lines blocks e source he ih => simpa [forecast, delivered, failureOf?, he] using ih h
  | case4 lines blocks e source he =>
    simpa [forecast, delivered, failureOf?, he] using meets_flush h (some e)
  | case5 lines blocks source => exact meets_flush h none
  | case6 lines blocks bytes source hbytes complete lines' hpush blocks' hpushAll ih =>
    have hsettled : lines'.Settled := by simpa [hpush] using lines.settled_push bytes
    rw [forecast_data hbytes, hpush, hpushAll]
    exact ih hsettled
  | case7 lines blocks bytes source hbytes complete lines' hpush block ready blocks' hpushAll =>
    have hsettled : lines'.Settled := by simpa [hpush] using lines.settled_push bytes
    rw [forecast_data hbytes, hpush, hpushAll]
    exact ⟨hsettled, rfl⟩

/-- Every poll of a reader keeps to its forecast. -/
theorem meets_poll (r : Reader ε) (h : r.Settled) :
    (Source.poll r).2.Settled ∧
      r.forecast.Meets (Source.poll r).1 (Source.poll r).2.forecast := by
  match r with
  | .reading source (block :: ready) lines blocks => exact ⟨h, rfl⟩
  | .reading source [] lines blocks => exact meets_advance h
  | .ending ready failure => exact meets_pollEnding ready failure

end Reader

end Buildwatch
