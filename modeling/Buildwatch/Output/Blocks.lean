import Buildwatch.Text.Blank
import Buildwatch.Text.Digit

/-!
# Blocks

A build tool writes messages of several lines. A block is such a message: it
begins at a line that starts at the margin and is no part of a source excerpt,
and goes on until the next such line.
-/

namespace Buildwatch

open Text (isBlank isDigit joinLines)

/-! ## Kinds of lines -/

/-- Whether the line belongs to a source excerpt: a bar with nothing before it but
blanks and a line number, as in ` 12 | code`. -/
def isExcerpt (line : Text) : Bool :=
  -- Blanks and digits in any order: the line number is not looked at closely.
  (line.dropWhile fun c => isBlank c || isDigit c).head? == some '|'

def startsBlock (line : Text) : Bool :=
  match line with
  | [] => false
  | c :: _ => !isBlank c && !isExcerpt line

/-! ## The buffer -/

/-- The lines of the block that is not complete yet, the latest first. -/
structure BlockBuffer where
  lines : List Text := []
  deriving DecidableEq, Repr

namespace BlockBuffer

/-- The text of the waiting block. -/
def text (b : BlockBuffer) : Text := joinLines b.lines.reverse

def isEmpty (b : BlockBuffer) : Bool := b.lines.isEmpty

/-- Takes a line and gives the block that it completes, if any. -/
def push (b : BlockBuffer) (line : Text) : Option Text × BlockBuffer :=
  -- The first line begins a block whatever it looks like.
  if !b.isEmpty && startsBlock line then (some b.text, ⟨[line]⟩)
  else (none, ⟨line :: b.lines⟩)

/-- Takes lines and gives the blocks that they complete, in order. -/
def pushAll (b : BlockBuffer) : List Text → List Text × BlockBuffer
  | [] => ([], b)
  | line :: lines =>
    let (completed, b) := b.push line
    let (blocks, b) := b.pushAll lines
    (completed.toList ++ blocks, b)

/-- The blocks left at the end of the stream. The unterminated last line counts if
it is not empty; the waiting block comes last, be it empty. -/
def finish (b : BlockBuffer) (remainder : Text) : List Text :=
  if remainder = [] then [b.text]
  else
    let (completed, b) := b.push remainder
    completed.toList ++ [b.text]

/-- Ends a stream as `finish` does, and leaves the buffer for the next stream. -/
def flush (b : BlockBuffer) (remainder : Text) : List Text × BlockBuffer :=
  let (completed, b) := if remainder = [] then (none, b) else b.push remainder
  (completed.toList ++ [b.text], { b with lines := [] })

end BlockBuffer

/-! ## Grouping all lines at once -/

/-- The longest runs of lines in which no line but the first begins a block. -/
def groupLines : List Text → List (List Text)
  | [] => []
  | line :: lines =>
    match groupLines lines with
    | [] => [[line]]
    | group :: groups =>
      if group.head?.any startsBlock then [line] :: group :: groups
      else (line :: group) :: groups

/-- The blocks of a whole stream of lines; there is always one. -/
def blocksOf (lines : List Text) : List Text :=
  match groupLines lines with
  | [] => [[]]
  | groups => groups.map joinLines

end Buildwatch
