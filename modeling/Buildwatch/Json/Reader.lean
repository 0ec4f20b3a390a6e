import Buildwatch.Data.Magnitude
import Buildwatch.Front
import Buildwatch.Text.Hexadecimal
import Buildwatch.Text.Utf8

/-!
# Reading JSON

A reader for JSON. A string may escape half of a surrogate pair, or hold bytes that are
no characters. That is correctly written but denotes no text: what depends on such a
string is `broken`.
-/

namespace Buildwatch.Json

/-- What is read: characters, with gaps for bytes that are none. -/
abbrev Source := Utf8.Gapped

def isSpace (c : Char) : Bool := c == ' ' || c == '\n' || c == '\r' || c == '\t'

def skipSpace (t : Source) : Source := t.dropWhile (·.any isSpace)

/-! ## Strings -/

def isHighSurrogate (n : Nat) : Bool := 0xD800 ≤ n && n < 0xDC00

def isLowSurrogate (n : Nat) : Bool := 0xDC00 ≤ n && n < 0xE000

def shortEscape? : Char → Option Char
  | '"' => some '"'
  | '\\' => some '\\'
  | '/' => some '/'
  | 'b' => some '\x08'
  | 'f' => some '\x0C'
  | 'n' => some '\n'
  | 'r' => some '\r'
  | 't' => some '\t'
  | _ => none

/-- Reads a string after its opening quote: its characters, with gaps for what is no
character, such as half of a surrogate pair, and what follows the closing quote. `high`
is the unit that an escape just before has left to be completed. -/
def stringBody? (high : Option Nat) : Source → Option (Source × Source)
  | [] => none
  | some '"' :: t => some (if high.isSome then [none] else [], t)
  | some '\\' :: some 'u' :: a :: b :: c :: d :: t => do
    let unit ← ([a, b, c, d].mapM id).bind Text.hexValue?
    match high with
    | some h =>
      if isLowSurrogate unit then
        let (cs, rest) ← stringBody? none t
        some (some (Char.ofNat (0x10000 + 0x400 * (h - 0xD800) + (unit - 0xDC00))) :: cs, rest)
      -- The first half is lost, but the second may begin a pair of its own.
      else if isHighSurrogate unit then
        let (cs, rest) ← stringBody? (some unit) t
        some (none :: cs, rest)
      else
        let (cs, rest) ← stringBody? none t
        -- The half before is lost, and this unit stands for itself.
        some (none :: some (Char.ofNat unit) :: cs, rest)
    | none =>
      if isHighSurrogate unit then stringBody? (some unit) t
      else
        let (cs, rest) ← stringBody? none t
        some ((if isLowSurrogate unit then none else some (Char.ofNat unit)) :: cs, rest)
  | some '\\' :: some c :: t => do
    let c ← shortEscape? c
    let (cs, rest) ← stringBody? none t
    some (high.toList.map (fun _ => none) ++ some c :: cs, rest)
  | c :: t => do
    if c.any fun c => c < ' ' || c = '\\' then none
    let (cs, rest) ← stringBody? none t
    some (high.toList.map (fun _ => none) ++ c :: cs, rest)

def textOf? (cs : Source) : Option String := (cs.mapM id).map String.ofList

/-! ## Numbers -/

def isDigit (c : Option Char) : Bool := c.any Char.isDigit

/-- Reads a run of digits of which there must be one. -/
def digits? (t : Source) : Option (Text × Source) :=
  let digits := t.takeWhile isDigit
  if digits ≠ [] then some (digits.filterMap id, t.dropWhile isDigit) else none

def natOf (digits : Text) : Nat := Numeral.extend 0 digits

/-- Reads the digits before the point: a zero stands alone. -/
def wholePart? : Source → Option (Nat × Source)
  -- No other digit may follow a zero; that is an error, not the end of the number.
  | some '0' :: c :: t => if isDigit c then none else some (0, c :: t)
  | t => (digits? t).map fun (digits, rest) => (natOf digits, rest)

/-- Reads the point and the digits after it, if there is a point. -/
def fractionPart? : Source → Option (Text × Source)
  | some '.' :: t => digits? t
  | t => some ([], t)

def exponentPart? : Source → Option (Option Int × Source)
  | c :: t =>
    if c = some 'e' ∨ c = some 'E' then
      let (negative, t) := match t with
        | some '-' :: t => (true, t)
        | some '+' :: t => (false, t)
        | t => (false, t)
      (digits? t).map fun (digits, rest) =>
        (some (if negative then -(natOf digits : Int) else natOf digits), rest)
    else some (none, c :: t)
  | [] => some (none, [])

def number? (t : Source) : Option (Data × Source) := do
  let (negative, t) := match t with
    | some '-' :: t => (true, t)
    | t => (false, t)
  let (whole, t) ← wholePart? t
  let (fraction, t) ← fractionPart? t
  let (exponent, t) ← exponentPart? t
  some (.number { negative, whole, fraction, exponent }, t)

/-! ## Values -/

/-- Reads one of the three words. -/
def word? (t : Source) : Option (Data × Source) :=
  let after? (word : String) : Option Source := dropFront? (word.toList.map some) t
  ((after? "null").map (Data.null, ·)) <|> ((after? "true").map (Data.bool true, ·)) <|>
  ((after? "false").map (Data.bool false, ·))

/-- A record, which is broken if one of its names is. -/
def recordOf (fields : List (Option String × Data)) : Data :=
  match fields.mapM fun (name, value) => name.map (·, value) with
  | some fields => .record fields
  | none => .broken

mutual

/-- Reads a value; `fuel` bounds the number of tokens. -/
def value? : (fuel : Nat) → Source → Option (Data × Source)
  | 0, _ => none
  | fuel + 1, t =>
    match skipSpace t with
    | some '"' :: t => do
      let (cs, rest) ← stringBody? none t
      some (((textOf? cs).map Data.string).getD .broken, rest)
    | some '[' :: t =>
      match skipSpace t with
      | some ']' :: rest => some (.list [], rest)
      | t => do
        let (items, rest) ← items? fuel t
        some (.list items, rest)
    | some '\x7b' :: t =>
      match skipSpace t with
      | some '\x7d' :: rest => some (.record [], rest)
      | t => do
        let (fields, rest) ← fields? fuel t
        some (recordOf fields, rest)
    | t => word? t <|> number? t

/-- Reads the items of a list up to its closing bracket. -/
def items? : (fuel : Nat) → Source → Option (List Data × Source)
  | 0, _ => none
  | fuel + 1, t => do
    let (item, t) ← value? fuel t
    match skipSpace t with
    | some ',' :: t =>
      let (items, rest) ← items? fuel t
      some (item :: items, rest)
    | some ']' :: rest => some ([item], rest)
    | _ => none

/-- Reads the fields of a record up to its closing brace. -/
def fields? : (fuel : Nat) → Source → Option (List (Option String × Data) × Source)
  | 0, _ => none
  | fuel + 1, t => do
    let (some '"' :: t) := skipSpace t | none
    let (name, t) ← stringBody? none t
    let (some ':' :: t) := skipSpace t | none
    let (value, t) ← value? fuel t
    match skipSpace t with
    | some ',' :: t =>
      let (fields, rest) ← fields? fuel t
      some ((textOf? name, value) :: fields, rest)
    | some '\x7d' :: rest => some ([(textOf? name, value)], rest)
    | _ => none

end

/-- Reads all of a source: one value with nothing but white space around it. -/
def ofSource? (t : Source) : Option Data := do
  let (d, rest) ← value? (t.length + 1) t
  if skipSpace rest = [] then some d else none

/-- Reads a text. -/
def parse? (t : Text) : Option Data := ofSource? (t.map some)

/-- Reads bytes. Those that are no characters are accepted in a string on which nothing
depends. -/
def parseBytes? (bytes : List UInt8) : Option Data := ofSource? (Utf8.decode bytes)

end Buildwatch.Json
