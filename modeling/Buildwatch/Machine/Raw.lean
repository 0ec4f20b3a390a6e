import Buildwatch.Text.Utf8

/-!
# Raw text

What the programs of the machine read and write: bytes that need not be text. A byte
is kept as the character with its number, so that scripts and patterns can be
written with character literals.
-/

namespace Buildwatch.Machine

/-- Bytes as characters below 256. -/
abbrev Raw := List Char

namespace Raw

/-! ## Conversions -/

def ofBytes (bytes : List UInt8) : Raw := bytes.map fun b => Char.ofNat b.toNat

def toBytes (r : Raw) : List UInt8 := r.map fun c => .ofNat c.toNat

def ofText (t : Text) : Raw := ofBytes (Utf8.encode t)

def ofString (s : String) : Raw := ofText s.toList

def toText (r : Raw) : String := String.ofList (Utf8.decodeLossy (toBytes r))

/-- The bytes of a word of ASCII. -/
def ascii (s : String) : Raw := s.toList

def ofNat (n : Nat) : Raw := Nat.toDigits 10 n

def ofInt (i : Int) : Raw := if i < 0 then '-' :: ofNat i.natAbs else ofNat i.natAbs

/-! ## Numbers -/

/-- The first number that has no room in 64 bits with a sign. -/
def signedLimit : Nat := 9223372036854775808

/-- The first number that has no room in 64 bits. -/
def wordLimit : Nat := 18446744073709551616

def total : List Nat → Nat
  | [] => 0
  | n :: ns => n + total ns

/-! ## Digits -/

def isDigit (c : Char) : Bool := '0' ≤ c && c ≤ '9'

def isLetter (c : Char) : Bool := ('a' ≤ c && c ≤ 'z') || ('A' ≤ c && c ≤ 'Z') || c = '_'

/-- The value of a digit in any base up to 36. -/
def digitValue (c : Char) : Nat :=
  if isDigit c then c.toNat - '0'.toNat
  else if 'a' ≤ c && c ≤ 'z' then c.toNat - 'a'.toNat + 10
  else if 'A' ≤ c && c ≤ 'Z' then c.toNat - 'A'.toNat + 10
  else 36

/-- Takes the digits of a base off the front, at most `limit` of them. -/
def takeDigits (base : Nat) : (limit : Nat) → (value : Nat) → Raw → Nat × Raw
  | limit + 1, value, c :: r =>
    if digitValue c < base then takeDigits base limit (value * base + digitValue c) r
    else (value, c :: r)
  | _, value, r => (value, r)

def natural? (r : Raw) : Option Nat :=
  if r ≠ [] && r.all isDigit then some (takeDigits 10 r.length 0 r).1 else none

def integer? : Raw → Option Int
  | '-' :: r => (natural? r).map fun n => -(n : Int)
  | '+' :: r => (natural? r).map Int.ofNat
  | r => (natural? r).map Int.ofNat

def inBase (base n : Nat) : Raw := Nat.toDigits base n

def upper (r : Raw) : Raw := r.map Char.toUpper

/-! ## Cutting and joining -/

def startsWith (front r : Raw) : Bool := front.isPrefixOf r

def includes (piece : Raw) : Raw → Bool
  | [] => piece.isEmpty
  | c :: r => startsWith piece (c :: r) || includes piece r

/-- The lines without their newlines; an unfinished last line counts. -/
def lines (r : Raw) : List Raw :=
  let pieces := Text.cutLines r
  if pieces.getLast? = some [] then pieces.dropLast else pieces

/-- The lines, each with a newline. -/
def unlines (ls : List Raw) : Raw := ls.flatMap (· ++ ['\n'])

def join (sep : Raw) : List Raw → Raw
  | [] => []
  | [r] => r
  | r :: rs => r ++ sep ++ join sep rs

def isBlank (c : Char) : Bool := c = ' ' || c = '\t'

def isSpace (c : Char) : Bool := isBlank c || c = '\n' || c = '\r' || c = '\x0b' || c = '\x0c'

def words (r : Raw) : List Raw :=
  let step (c : Char) (acc : List Raw) : List Raw :=
    if isSpace c then [] :: acc
    else
      match acc with
      | [] => [[c]]
      | w :: ws => (c :: w) :: ws
  -- White space at the ends, and next to more of it, leaves empty words behind.
  (r.foldr step [[]]).filter (· ≠ [])

def dropSpace (r : Raw) : Raw := r.dropWhile isSpace

def dropFinalNewlines (r : Raw) : Raw := (r.reverse.dropWhile (· = '\n')).reverse

/-- The text with blanks in front, up to a width. -/
def padLeft (width : Nat) (r : Raw) : Raw := List.replicate (width - r.length) ' ' ++ r

/-- Whether a text comes before another one in the order of bytes. -/
def before : Raw → Raw → Bool
  | [], [] => false
  | [], _ :: _ => true
  | _ :: _, [] => false
  | a :: r, b :: s => if a = b then before r s else a < b

end Raw

end Buildwatch.Machine
