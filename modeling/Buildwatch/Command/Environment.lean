import Buildwatch.Text.Basic

/-!
# Environment variables

Some systems spell the name of the search path in their own mixture of capitals.
All spellings of a name are numbered, and the search path is collected from every
one that is set.
-/

namespace Buildwatch.Environment

/-- The character at a place counted from the end, in the spelling with number
`mask`: bit `i` makes a capital of the ASCII letter `i` places from the end. -/
def spell (mask : UInt32) (place : Nat) (c : Char) : Char :=
  if place < 32 ∧ mask.toNat.testBit place then c.toUpper else c

/-- The spelling of a name with number `mask`. -/
def capitalize (mask : UInt32) : Text → Text
  | [] => []
  | c :: t => spell mask t.length c :: capitalize mask t

def pathNames : List String :=
  (List.range 16).map fun mask => String.ofList (capitalize (.ofNat mask) "path".toList)

/-- The values of all spellings that are set. -/
def pathValues (lookUp : String → Option String) : List String := pathNames.filterMap lookUp

end Buildwatch.Environment
