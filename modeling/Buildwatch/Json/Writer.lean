import Buildwatch.Data.Basic

/-!
# Writing JSON

The compact JSON text of a value: no white space, and escapes only where a string
cannot do without them.
-/

namespace Buildwatch.Json

def hexDigit (n : Nat) : Char := Nat.digitChar (n % 16)

/-- A character inside a string. -/
def escape (c : Char) : Text :=
  if c = '"' then ['\\', '"']
  else if c = '\\' then ['\\', '\\']
  else if c = '\x08' then ['\\', 'b']
  else if c = '\x0C' then ['\\', 'f']
  else if c = '\n' then ['\\', 'n']
  else if c = '\r' then ['\\', 'r']
  else if c = '\t' then ['\\', 't']
  -- The delete character and all beyond ASCII stand for themselves.
  else if c < ' ' then ['\\', 'u', '0', '0', hexDigit (c.toNat / 16), hexDigit c.toNat]
  else [c]

def writeString (s : String) : Text := '"' :: s.toList.flatMap escape ++ ['"']

/-- A number as it was written. -/
def writeNumeral (n : Numeral) : Text :=
  (if n.negative then ['-'] else []) ++ Nat.toDigits 10 n.whole ++
    (if n.fraction = [] then [] else '.' :: n.fraction) ++
    (match n.exponent with
      | none => []
      | some e => 'e' :: (if e < 0 then ['-'] else []) ++ Nat.toDigits 10 e.natAbs)

mutual

/-- The text of a value. A broken value has none; null stands for it. -/
def write : Data → Text
  | .null | .broken => "null".toList
  | .bool true => "true".toList
  | .bool false => "false".toList
  | .number n => writeNumeral n
  | .string s => writeString s
  | .list items => '[' :: writeItems items ++ [']']
  | .record fields => '\x7b' :: writeFields fields ++ ['\x7d']

def writeItems : List Data → Text
  | [] => []
  | [d] => write d
  | d :: ds => write d ++ ',' :: writeItems ds

def writeFields : List (String × Data) → Text
  | [] => []
  | [(name, d)] => writeString name ++ ':' :: write d
  | (name, d) :: fields => writeString name ++ ':' :: write d ++ ',' :: writeFields fields

end

end Buildwatch.Json
