import Buildwatch.Front
import Buildwatch.Text.Blank
import Buildwatch.Text.Digit

/-!
# Progress

Build tools count their steps in brackets, as in `[3 of 10]`. The first counter in
a block is its progress.
-/

namespace Buildwatch

open Text (isBlank isDigit numeralUpTo?)

/-- How many steps of a build are done. -/
structure Progress where
  completed : UInt64
  total : UInt64
  deriving DecidableEq, Repr

namespace Progress

/-- The counter without its brackets. -/
def text (p : Progress) : String := s!"{p.completed.toNat} of {p.total.toNat}"

/-- Reads a numeral: its digits and what follows. -/
def digits? (t : Text) : Option (Text × Text) :=
  let digits := t.takeWhile isDigit
  if digits ≠ [] then some (digits, t.dropWhile isDigit) else none

def dropBlanks? (t : Text) : Option Text :=
  if t.head?.any isBlank then some (t.dropWhile isBlank) else none

/-- Reads a counter at the start of the text: its two numerals. -/
def counterAt? (t : Text) : Option (Text × Text) := do
  let t ← dropFront? ['['] t
  let (completed, t) ← digits? (t.dropWhile isBlank)
  let t ← dropFront? ['o', 'f'] (← dropBlanks? t)
  let (total, t) ← digits? (← dropBlanks? t)
  let _ ← dropFront? [']'] (t.dropWhile isBlank)
  some (completed, total)

def firstCounter? : Text → Option (Text × Text)
  | [] => none
  | c :: t => counterAt? (c :: t) <|> firstCounter? t

def maxCount : Nat := 18446744073709551615

/-- Reads the progress of a block: the first counter, if its numbers can be counted. -/
def ofBlock? (block : Text) : Option Progress := do
  -- A counter that is too large is not passed over in favour of a later one.
  let (completed, total) ← firstCounter? block
  let completed ← numeralUpTo? maxCount completed
  let total ← numeralUpTo? maxCount total
  some { completed := .ofNat completed, total := .ofNat total }

end Progress

end Buildwatch
