import Buildwatch.Machine.Tool.Basic
import Buildwatch.Machine.Tool.Decimal

/-!
# Numbers in arguments

Counts and sizes as tools read them: digits with a letter for a unit behind them.
-/

namespace Buildwatch.Machine

/-! ## Reading -/

/-- Why a text is no number. -/
inductive NumberError
  | invalid
  | badSuffix
  | tooLarge
  deriving DecidableEq

namespace Numeral

def largest : Nat := Raw.wordLimit - 1

/-- The power of 1024, or of 1000, that a letter stands for. -/
def power? (c : Char) : Option Nat :=
  match c with
  | 'k' | 'K' => some 1
  | 'm' | 'M' => some 2
  | 'g' | 'G' => some 3
  | 't' | 'T' => some 4
  | 'P' => some 5
  | 'E' => some 6
  | 'Z' => some 7
  | 'Y' => some 8
  | 'R' => some 9
  | 'Q' => some 10
  | _ => none

/-- The factor that a unit stands for. A zero among the letters allows two forms of them. -/
def factor? (letters : String) : Raw → Option Nat
  | [] => some 1
  | c :: r =>
    if c = '0' || !letters.toList.contains c then none
    else
      match power? c, r with
      | some n, [] => some (Nat.pow 1024 n)
      | some n, ['i', 'B'] => if letters.contains '0' then some (Nat.pow 1024 n) else none
      | some n, ['B'] | some n, ['D'] => if letters.contains '0' then some (Nat.pow 1000 n) else none
      | some _, _ => none
      | none, [] =>
        match c with
        | 'b' => some 512
        | 'B' => some 1024
        | 'c' => some 1
        | 'w' => some 2
        | _ => none
      | none, _ => none

/-- A number with a unit. A unit alone counts once. -/
def read (letters : String) (r : Raw) : Except NumberError Nat :=
  let text := match Raw.dropSpace r with
    | '+' :: text => text
    | text => text
  let (n, rest) := Raw.takeDigits 10 text.length 0 text
  let isBare := rest.length = text.length
  if isBare && (rest ≠ r || !rest.head?.any fun c => c ≠ '0' && letters.toList.contains c) then .error .invalid
  else
    match factor? letters rest with
    | none => .error .badSuffix
    | some k =>
      let n := if isBare then k else n * k
      if largest < n then .error .tooLarge else .ok n

def units : String := "bkKmMGTPEZYRQ0"

/-- The seconds that a letter behind a time stands for. -/
def secondsOf? (unit : Raw) : Option Nat :=
  match unit with
  | [] | ['s'] => some 1
  | ['m'] => some 60
  | ['h'] => some 3600
  | ['d'] => some 86400
  | _ => none

/-- A time such as `0.5`, `2s` or `1m`, in microseconds; a part of one counts as a whole one. -/
def duration? (r : Raw) : Option Nat := do
  let r := Raw.dropSpace r
  let r := if r.head? = some '+' then r.drop 1 else r
  let (magnitude, rest) ← Decimal.take? Decimal.extended r
  let seconds ← secondsOf? rest
  match magnitude with
  | .finite x => some ((x.numerator * seconds * 1000000 + x.denominator - 1) / x.denominator)
  | .infinite => some 1000000000000000000
  | .notNumber => none

end Numeral

/-! ## Complaints -/

namespace NumberError

/-- What is said behind a text that is no number. -/
def tail : NumberError → Raw
  | .tooLarge => Raw.ascii ": Value too large for defined data type"
  | _ => []

end NumberError

namespace Tool

/-- The number that a text is; one that is none ends the tool with a complaint. -/
def number (letters what : String) (r : Raw) : Tool Nat := do
  match Numeral.read letters r with
  | .ok n => return n
  | .error e => fail (Raw.ascii what ++ Raw.ascii ": " ++ Quoting.plain r ++ e.tail)

end Tool

end Buildwatch.Machine
