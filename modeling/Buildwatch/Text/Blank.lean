import Buildwatch.Text.Basic
import Buildwatch.Text.Ranges

/-!
# Blank characters

The characters with the Unicode property `White_Space`, and trimming by them.
-/

namespace Buildwatch.Text

/-- The ranges of `White_Space`. -/
def blankRanges : List (Nat × Nat) :=
  [(0x9, 0xD), (0x20, 0x20), (0x85, 0x85), (0xA0, 0xA0), (0x1680, 0x1680), (0x2000, 0x200A),
  (0x2028, 0x2029), (0x202F, 0x202F), (0x205F, 0x205F), (0x3000, 0x3000)]

def isBlank (c : Char) : Bool := inRanges blankRanges c.toNat

def trimStart (t : Text) : Text := t.dropWhile isBlank

def trimEnd (t : Text) : Text := (t.reverse.dropWhile isBlank).reverse

def allBlank (t : Text) : Bool := t.all isBlank

/-- The number of bytes of leading white space. -/
def indentWidth (t : Text) : Nat := byteLength (t.takeWhile isBlank)

end Buildwatch.Text
