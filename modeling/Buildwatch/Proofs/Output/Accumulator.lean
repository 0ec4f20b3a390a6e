import Buildwatch.Output.Blocks
import Buildwatch.Proofs.Text.Lines

/-!
# Blocks as they grow

The waiting block need not be kept line by line: its text, which grows at the end, and the number
of its lines do as well. The number is needed, since an empty first line leaves the text empty.
-/

namespace Buildwatch

open Text (joinLines joinLines_concat)

/-- The text of the block that is not complete yet, and the number of its lines. -/
structure BlockAccumulator where
  current : Text := []
  lines : Nat := 0
  deriving DecidableEq, Repr

namespace BlockAccumulator

def isEmpty (a : BlockAccumulator) : Bool := a.lines == 0

def push (a : BlockAccumulator) (line : Text) : Option Text × BlockAccumulator :=
  let (completed, a) :=
    if 0 < a.lines ∧ startsBlock line then (some a.current, { a with current := [], lines := 0 })
    else (none, a)
  let current := if 0 < a.lines then a.current ++ ['\n'] else a.current
  (completed, { current := current ++ line, lines := a.lines + 1 })

def pushAll (a : BlockAccumulator) : List Text → List Text × BlockAccumulator
  | [] => ([], a)
  | line :: lines =>
    let (completed, a) := a.push line
    let (blocks, a) := a.pushAll lines
    (completed.toList ++ blocks, a)

def flush (a : BlockAccumulator) (remainder : Text) : List Text × BlockAccumulator :=
  let (completed, a) := if remainder = [] then (none, a) else a.push remainder
  (completed.toList ++ [a.current], { a with current := [], lines := 0 })

/-! ## The lines that are kept -/

/-- Whether an accumulator keeps the lines of a buffer. -/
structure Keeps (a : BlockAccumulator) (b : BlockBuffer) : Prop where
  current_eq : a.current = b.text
  lines_eq : a.lines = b.lines.length

namespace Keeps

variable {a : BlockAccumulator} {b : BlockBuffer}

theorem empty : Keeps {} {} := ⟨rfl, rfl⟩

theorem isEmpty_eq (h : Keeps a b) : a.isEmpty = b.isEmpty := by
  rw [isEmpty, BlockBuffer.isEmpty, h.lines_eq]
  cases b.lines <;> rfl

theorem push (h : Keeps a b) (line : Text) :
    (a.push line).1 = (b.push line).1 ∧ Keeps (a.push line).2 (b.push line).2 := by
  obtain ⟨current, lines⟩ := a
  obtain ⟨kept⟩ := b
  obtain ⟨rfl, rfl⟩ := h
  unfold BlockAccumulator.push BlockBuffer.push BlockBuffer.isEmpty
  cases kept with
  | nil =>
    -- There is no block to complete, even if the line begins one.
    exact ⟨by simp, by simp [BlockBuffer.text], by simp⟩
  | cons last kept =>
    have htext : joinLines ((kept.reverse ++ [last]) ++ [line]) =
        joinLines (kept.reverse ++ [last]) ++ '\n' :: line := joinLines_concat (by simp)
    cases startsBlock line with
    | true => exact ⟨by simp, by simp [BlockBuffer.text], by simp⟩
    | false => exact ⟨by simp, by simpa [BlockBuffer.text] using htext.symm, by simp⟩

theorem pushAll (h : Keeps a b) (lines : List Text) :
    (a.pushAll lines).1 = (b.pushAll lines).1 ∧
      Keeps (a.pushAll lines).2 (b.pushAll lines).2 := by
  induction lines generalizing a b with
  | nil => exact ⟨rfl, h⟩
  | cons line lines ih =>
    obtain ⟨hcompleted, hpushed⟩ := h.push line
    obtain ⟨hblocks, hkeeps⟩ := ih hpushed
    exact ⟨congrArg₂ (·.toList ++ ·) hcompleted hblocks, hkeeps⟩

theorem flush (h : Keeps a b) (remainder : Text) :
    a.flush remainder = ((b.flush remainder).1, {}) := by
  unfold BlockAccumulator.flush BlockBuffer.flush
  by_cases hnil : remainder = []
  · simp [hnil, h.current_eq]
  · obtain ⟨hcompleted, hpushed⟩ := h.push remainder
    simp [hnil, hcompleted, hpushed.current_eq]

end Keeps

end BlockAccumulator

end Buildwatch
