/-!
# Text

Text as the scanners of this library see it: a list of code points. This module
holds the operations that need no character table: cutting and joining lines,
measuring and dropping UTF-8 bytes, and ASCII letter case.
-/

namespace Buildwatch

/-- Code points in reading order. -/
abbrev Text := List Char

namespace Text

/-! ## Lines -/

/-- Cuts a list at every `sep`; the result has one piece more than there are separators. -/
def cutAt {α : Type} [DecidableEq α] (sep : α) : List α → List (List α)
  | [] => [[]]
  | c :: cs =>
    if c = sep then [] :: cutAt sep cs
    else
      match cutAt sep cs with
      | [] => [[c]]
      | piece :: pieces => (c :: piece) :: pieces

def cutLines (t : Text) : List Text := cutAt '\n' t

def joinLines : List Text → Text
  | [] => []
  | [line] => line
  | line :: lines => line ++ '\n' :: joinLines lines

/-- Drops one carriage return at the end. -/
def dropFinalReturn (line : Text) : Text :=
  if line.getLast? = some '\r' then line.dropLast else line

/-- The lines a reader sees: a final newline opens no further line, and a carriage
return before a newline belongs to the end of the line. -/
def visibleLines (t : Text) : List Text :=
  let pieces := cutLines t
  pieces.dropLast.map dropFinalReturn ++ pieces.getLast?.toList.filter (· ≠ [])

/-! ## Bytes -/

/-- The number of bytes that UTF-8 needs for the text. -/
def byteLength : Text → Nat
  | [] => 0
  | c :: cs => c.utf8Size + byteLength cs

/-- What is left after exactly `n` bytes, unless a character straddles the cut. -/
def dropBytes? : Nat → Text → Option Text
  | 0, t => some t
  | _ + 1, [] => none
  | n + 1, c :: cs => if c.utf8Size ≤ n + 1 then dropBytes? (n + 1 - c.utf8Size) cs else none

/-! ## Letter case -/

def sameIgnoringCase (s t : Text) : Bool := s.map Char.toLower == t.map Char.toLower

end Text

end Buildwatch
