import Buildwatch.Front
import Buildwatch.Text.Hexadecimal

/-!
# Strings of TOML

The four kinds of strings and the keys. A basic string may hold escapes, a literal
one may not; each may be written on one line or, between triple quotes, on several.
-/

namespace Buildwatch.Toml

def isSpace (c : Char) : Bool := c == ' ' || c == '\t'

def skipSpace (t : Text) : Text := t.dropWhile isSpace

def newline? : Text → Option Text
  | '\n' :: t | '\r' :: '\n' :: t => some t
  | _ => none

/-- Whether the character may stand in a comment or a string: no control character
but the tab. -/
def isPrintable (c : Char) : Bool := c == '\t' || (' ' ≤ c && c != '\x7f')

/-- What follows a comment, if there is one here. -/
def skipComment : Text → Text
  | '#' :: t => t.dropWhile isPrintable
  | t => t

/-- Drops white space and newlines; `fuel` bounds their number. -/
def skipBlankLines (t : Text) : Text :=
  match t with
  | '\r' :: '\n' :: t => skipBlankLines t
  | c :: t => if isSpace c || c == '\n' then skipBlankLines t else c :: t
  | [] => []

/-! ## Escapes -/

def char? (n : Nat) : Option Char := if n.isValidChar then some (Char.ofNat n) else none

def shortEscape? : Char → Option Char
  | 'b' => some '\x08'
  | 't' => some '\t'
  | 'n' => some '\n'
  | 'f' => some '\x0C'
  | 'r' => some '\r'
  | '"' => some '"'
  | '\\' => some '\\'
  | _ => none

/-- Reads an escape after its backslash: the character and what follows. -/
def escape? : Text → Option (Char × Text)
  -- A surrogate is no character, and there are no pairs of them here.
  | 'u' :: a :: b :: c :: d :: t => do
    let n ← Text.hexValue? [a, b, c, d]
    some (← char? n, t)
  | 'U' :: a :: b :: c :: d :: e :: f :: g :: h :: t => do
    let n ← Text.hexValue? [a, b, c, d, e, f, g, h]
    some (← char? n, t)
  | c :: t => (shortEscape? c).map (·, t)
  | [] => none

theorem length_escape? {t rest : Text} {c : Char} (h : escape? t = some (c, rest)) :
    rest.length < t.length := by
  unfold escape? at h
  split at h <;> simp_all [Option.bind_eq_some_iff] <;> grind

/-! ## Strings on one line -/

/-- Reads a basic string after its opening quote. -/
def basic? (t : Text) : Option (Text × Text) :=
  match t with
  | '"' :: rest => some ([], rest)
  | '\\' :: t =>
    match _h : escape? t with
    | some (c, t) => (basic? t).map fun (s, rest) => (c :: s, rest)
    | none => none
  | c :: t => if isPrintable c then (basic? t).map fun (s, rest) => (c :: s, rest) else none
  | [] => none
termination_by t.length
decreasing_by
  · have := length_escape? _h
    simp only [List.length_cons]
    omega
  · simp

def literal? : Text → Option (Text × Text)
  | '\'' :: rest => some ([], rest)
  | c :: t => if isPrintable c then (literal? t).map fun (s, rest) => (c :: s, rest) else none
  | [] => none

/-! ## Strings on several lines -/

/-- How many quotes, up to five, the text begins with. -/
def leadingQuotes (quote : Char) (t : Text) : Nat := ((t.take 5).takeWhile (· == quote)).length

/-- What follows an escaped line end: white space and newlines, of which there must
be one on this line. -/
def lineContinuation? (t : Text) : Option Text :=
  (newline? (skipSpace t)).map skipBlankLines

/-- Reads the contents of a string up to three quotes in a row; up to two more quotes
before them belong to it. `fuel` bounds the number of characters. -/
def multiline? (quote : Char) : (fuel : Nat) → Text → Option (Text × Text)
  | 0, _ => none
  | fuel + 1, t =>
    let quotes := leadingQuotes quote t
    -- Of four or five quotes the last three close the string.
    if 3 ≤ quotes then some (List.replicate (quotes - 3) quote, t.drop quotes)
    else
      match t with
      | [] => none
      | '\\' :: t =>
        if quote = '"' then
          match lineContinuation? t with
          -- The line end is tried first, since a newline is no escape.
          | some t => multiline? quote fuel t
          | none =>
            match escape? t with
            | some (c, t) => (multiline? quote fuel t).map fun (s, rest) => (c :: s, rest)
            | none => none
        else (multiline? quote fuel t).map fun (s, rest) => ('\\' :: s, rest)
      | c :: t =>
        match newline? (c :: t) with
        -- A carriage return counts only with its newline, and is dropped.
        | some t => (multiline? quote fuel t).map fun (s, rest) => ('\n' :: s, rest)
        | none =>
          if isPrintable c then (multiline? quote fuel t).map fun (s, rest) => (c :: s, rest)
          else none

/-- Reads a string on several lines after its opening quotes; a newline directly
after them does not count. -/
def multilineString? (quote : Char) (t : Text) : Option (Text × Text) :=
  multiline? quote (t.length + 1) ((newline? t).getD t)

/-! ## Any string, and keys -/

def string? : Text → Option (Text × Text)
  | '"' :: '"' :: '"' :: t => multilineString? '"' t
  | '\'' :: '\'' :: '\'' :: t => multilineString? '\'' t
  | '"' :: t => basic? t
  | '\'' :: t => literal? t
  | _ => none

def isBare (c : Char) : Bool := c.isAlphanum || c == '_' || c == '-'

def simpleKey? : Text → Option (String × Text)
  | '"' :: t => (basic? t).map fun (s, rest) => (String.ofList s, rest)
  | '\'' :: t => (literal? t).map fun (s, rest) => (String.ofList s, rest)
  | t =>
    let name := t.takeWhile isBare
    if name ≠ [] then some (String.ofList name, t.dropWhile isBare) else none

/-- How many parts a dotted key may have, and how deeply values may be nested. -/
-- The parser gives up on more, so that its own stack stays small.
def depthLimit : Nat := 80

/-- Reads a key with dots between its parts, which white space may surround; `fuel`
bounds the number of parts. -/
def key? : (fuel : Nat) → Text → Option (List String × Text)
  | 0, _ => none
  | fuel + 1, t => do
    let (name, t) ← simpleKey? (skipSpace t)
    match skipSpace t with
    | '.' :: t =>
      let (names, rest) ← key? fuel t
      some (name :: names, rest)
    | rest => some ([name], rest)

def dottedKey? (t : Text) : Option (List String × Text) := key? (depthLimit - 1) t

end Buildwatch.Toml
