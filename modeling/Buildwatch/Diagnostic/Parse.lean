import Buildwatch.Diagnostic.Basic
import Buildwatch.Diagnostic.Header
import Buildwatch.Output.Blocks

/-!
# Reading diagnostics

A block is a diagnostic if its first line names a place. The source excerpt at its
end gives the width of the underline and is no part of the message; the message
loses the indentation that all its lines share.
-/

namespace Buildwatch

open Text (cutLines joinLines indentWidth dropBytes? trimStart trimEnd numeralUpTo?)

def maxCoordinate : Nat := 4294967295

/-! ## Parts of a message -/

/-- Only the word `warning` makes a warning, in capitals or not. -/
def Severity.ofWord (word : Option Text) : Severity :=
  if word.any (Text.sameIgnoringCase "warning".toList) then .warning else .error

/-- The length of the longest run of carets; `run` carets stand before the text. -/
def longestCarets (run : Nat) : Text → Nat
  | [] => run
  | '^' :: t => longestCarets (run + 1) t
  | _ :: t => max run (longestCarets 0 t)

/-- The width that the carets of an excerpt underline: one column at least. -/
def underlineWidth (excerpt : List Text) : Nat :=
  max 1 ((excerpt.map (longestCarets 0)).foldl max 0)

/-- The lines before the final run of excerpt lines, and that run. -/
def splitExcerpt (lines : List Text) : List Text × List Text :=
  ((lines.reverse.dropWhile isExcerpt).reverse, (lines.reverse.takeWhile isExcerpt).reverse)

/-- The lines without the indentation that they share. It is measured in bytes; a
line in which it ends inside a character loses all of its own. -/
def unindent (lines : List Text) : List Text :=
  let shared := (lines.map indentWidth).min?.getD 0
  lines.map fun line => (dropBytes? shared line).getD (trimStart line)

/-- The value of a line or column number, counted from zero. -/
def coordinate? (digits : Text) : Option UInt32 :=
  -- Line zero is the first line too.
  (numeralUpTo? maxCoordinate digits).map fun n => UInt32.ofNat (n - 1)

/-! ## The diagnostic of a block -/

/-- Reads the diagnostic of a block; a relative file name is seen from `baseDir`. -/
def Diagnostic.ofBlock? (baseDir : Path) (block : Text) : Option Diagnostic := do
  let block := trimEnd block
  let place ← Place.ofLine? (block.takeWhile (· ≠ '\n'))
  let line ← coordinate? place.line
  let column ← coordinate? place.column
  -- The place is on the first line; what follows it may go on to the next ones.
  let tail := HeaderTail.ofText (place.rest ++ block.dropWhile (· ≠ '\n'))
  let (message, excerpt) := splitExcerpt (cutLines tail.body)
  some {
    file := Path.join baseDir (String.ofList place.file)
    line
    column
    endColumn := UInt32.ofNat (min maxCoordinate (column.toNat + underlineWidth excerpt))
    severity := Severity.ofWord tail.word
    message := String.ofList (joinLines (unindent message))
    context := tail.context.map String.ofList }

end Buildwatch
