/-!
# Ranges of code points

A character class is kept as the sorted list of its ranges, both ends included.
-/

namespace Buildwatch.Text

/-- Whether `n` lies in one of the sorted, disjoint ranges of `table`: the first
range that does not end before `n` decides. -/
def inRanges (table : List (Nat × Nat)) (n : Nat) : Bool :=
  match table.find? (fun range => n ≤ range.2) with
  | some range => range.1 ≤ n
  | none => false

end Buildwatch.Text
