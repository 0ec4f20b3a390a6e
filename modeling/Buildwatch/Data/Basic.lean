import Buildwatch.Text.Basic

/-!
# Data

The values that JSON and TOML texts denote, in one type for both. Decoders pick
what they know out of such values and ignore the rest.
-/

namespace Buildwatch

/-- A number as it is written in decimal. -/
structure Numeral where
  negative : Bool := false
  /-- The digits before the point, as a number. -/
  whole : Nat
  /-- The digits after the point. -/
  fraction : Text := []
  exponent : Option Int := none
  deriving DecidableEq, Repr

/-- A value in a text format. -/
inductive Data
  | null
  | bool (b : Bool)
  | number (n : Numeral)
  | string (s : String)
  | list (items : List Data)
  | record (fields : List (String × Data))
  /-- Correctly written, but no value to keep: a string that escapes half of a
  surrogate pair, or a number that is none. -/
  | broken
  deriving Repr, Inhabited

namespace Numeral

/-- The integer that is written without point and exponent; minus zero is none. -/
def integer? (n : Numeral) : Option Int :=
  if n.fraction ≠ [] ∨ n.exponent ≠ none then none
  -- Minus zero is read as a float.
  else if n.negative then if n.whole = 0 then none else some (-n.whole)
  else some n.whole

end Numeral

namespace Data

/-! ## Simple values -/

def string? : Data → Option String
  | .string s => some s
  | _ => none

def bool? : Data → Option Bool
  | .bool b => some b
  | _ => none

/-- An integer between `low` and `high`. -/
def integer? (low high : Int) : Data → Option Int
  | .number n => n.integer?.bind fun i => if low ≤ i ∧ i ≤ high then some i else none
  | _ => none

def uint32? (d : Data) : Option UInt32 :=
  (d.integer? 0 4294967295).map fun i => .ofNat i.toNat

def uint64? (d : Data) : Option UInt64 :=
  (d.integer? 0 18446744073709551615).map fun i => .ofNat i.toNat

def int32? (d : Data) : Option Int32 :=
  (d.integer? (-2147483648) 2147483647).map .ofInt

/-- A list all of whose items are decoded by `decode`. -/
def list? {α : Type} (decode : Data → Option α) : Data → Option (List α)
  | .list items => items.mapM decode
  | _ => none

def nullable? {α : Type} (decode : Data → Option α) : Data → Option (Option α)
  | .null => some none
  | d => (decode d).map some

/-! ## Encoding -/

def ofNat (n : Nat) : Data := .number { whole := n }

def ofInt (i : Int) : Data := .number { negative := i < 0, whole := i.natAbs }

def strings (items : List String) : Data := .list (items.map .string)

def ofOption {α : Type} (encode : α → Data) : Option α → Data
  | none => .null
  | some a => encode a

/-! ## Nesting -/

mutual

/-- The number of lists and records around the innermost value. -/
def depth : Data → Nat
  | .list items => 1 + depthOfList items
  | .record fields => 1 + depthOfFields fields
  | _ => 0

def depthOfList : List Data → Nat
  | [] => 0
  | d :: ds => max (depth d) (depthOfList ds)

def depthOfFields : List (String × Data) → Nat
  | [] => 0
  | (_, d) :: fields => max (depth d) (depthOfFields fields)

end

end Data

end Buildwatch
