import Buildwatch.Machine.Tool.Decimal
import Buildwatch.Machine.Tool.Rules.Script

/-!
# Words of scripts

How the text of a script is cut into words. A slash begins an expression to search for
unless something that can be divided stands before it.
-/

namespace Buildwatch.Machine.Rules

/-! ## Mistakes -/

inductive Mistake
  | near (line : Nat) (word : Raw)
  | missing (line : Nat) (sign : Char) (word : Raw)
  | extra (line : Nat) (sign : Char)
  | unknown (line : Nat) (c : Char)
  | openText (line : Nat) (r : Raw)
  | openPattern (line : Nat) (r : Raw)
  | misplaced (line : Nat) (what : String)
  | undefined (line : Nat) (name : Raw)
  | argumentCount (line : Nat) (name : Raw)
  | tooManyArguments (line : Nat) (name : Raw)
  | noTable (line : Nat) (name : Raw)
  | noPlainValue (line : Nat) (name : Raw)
  | badPattern (line : Nat) (reason : String) (pattern : Raw)

namespace Mistake

/-- A report on a line. -/
def located (line : Nat) (r : Raw) : Raw := Raw.ascii "line " ++ Raw.ofNat line ++ Raw.ascii ": " ++ r

def message : Mistake → Raw
  | .near n w => located n (Raw.ascii "syntax error at or near " ++ w)
  | .missing n c w => located n (Raw.ascii "missing " ++ [c] ++ Raw.ascii " near " ++ w)
  | .extra n c => located n (Raw.ascii "extra '" ++ [c, '\''])
  | .unknown n c => Raw.ofNat n ++ Raw.ascii ": unexpected character '" ++ [c, '\'']
  | .openText n r => located n (Raw.ascii "runaway string constant \"" ++ r.take 10 ++ Raw.ascii " ...")
  | .openPattern n r => located n (Raw.ascii "runaway regular expression /" ++ r.take 10 ++ Raw.ascii " ...")
  | .misplaced n what => located n (Raw.ascii what)
  | .undefined n name => located n (Raw.ascii "function " ++ name ++ Raw.ascii " never defined")
  | .argumentCount n name => located n (Raw.ascii "wrong number of arguments in call to " ++ name)
  | .tooManyArguments n name => located n (Raw.ascii "too many arguments in call to " ++ name)
  | .noTable n name => located n (Raw.ascii "illegal reference to variable " ++ name)
  | .noPlainValue n name => located n (Raw.ascii "illegal reference to array " ++ name)
  | .badPattern n reason r =>
    located n (Raw.ascii "regular expression compile failed (" ++ Raw.ascii reason ++ Raw.ascii ")\n" ++ r)

end Mistake

/-! ## Words -/

inductive Token
  | number (x : Float)
  | text (r : Raw)
  | pattern (r : Raw)
  | name (r : Raw)
  /-- A name with an opening bracket right behind it. -/
  | callee (r : Raw)
  | builtIn (f : BuiltIn)
  | keyword (k : String)
  | sign (s : String)
  | newline

/-- A word where it stands. -/
structure Lexeme where
  token : Token
  source : Raw
  line : Nat

def keywords : List String :=
  ["BEGIN", "END", "function", "if", "else", "while", "for", "do", "break", "continue", "next", "nextfile",
    "exit", "return", "delete", "in", "getline", "print", "printf"]

/-- The functions that every script has, by their names. -/
def builtIns : List (String × BuiltIn) :=
  [("atan2", .arctangent), ("close", .close), ("cos", .cosine), ("exp", .exponential), ("fflush", .flush),
    ("gsub", .substituteAll), ("index", .index), ("int", .integer), ("length", .length), ("log", .logarithm),
    ("tolower", .lower), ("match", .matching), ("rand", .random), ("sqrt", .root), ("srand", .seed), ("sin", .sine),
    ("split", .split), ("sprintf", .sprintf), ("sub", .substitute), ("substr", .substring),
    ("system", .system), ("toupper", .upper)]

/-- Signs, the longer ones first. -/
def signs : List String :=
  ["&&", "||", "++", "--", "+=", "-=", "*=", "/=", "%=", "^=", "==", "<=", ">=", "!=", "!~", ">>", "\x7b", "\x7d",
    "(", ")", "[", "]", ";", ",", "+", "-", "*", "/", "%", "^", "!", ">", "<", "|", "?", ":", "~", "$", "="]

/-- Whether what follows a word could divide it. -/
def Token.isOperand : Token → Bool
  | .number _ | .text _ | .pattern _ | .name _ | .builtIn _ => true
  | .sign s => [")", "]", "$", "++", "--"].contains s
  | _ => false

/-- The float that a number with a power of two as its denominator is. -/
def floatOf : Decimal.Magnitude → Float
  | .finite x => Float.scaleB (Float.ofNat x.numerator) (-(x.denominator.log2 : Int))
  | .infinite => 1.0 / 0.0
  | .notNumber => 0.0 / 0.0

/-- Resolves the escapes in a text. -/
def unescape : (fuel : Nat) → Raw → Raw
  | 0, r => r
  | _, [] => []
  | fuel + 1, '\\' :: c :: r =>
    let plain (d : Char) : Raw := d :: unescape fuel r
    match c with
    | 'n' => plain '\n'
    | 't' => plain '\t'
    | 'r' => plain '\r'
    | 'a' => plain '\x07'
    | 'b' => plain '\x08'
    | 'f' => plain '\x0c'
    | 'v' => plain '\x0b'
    | '\\' => plain '\\'
    | '"' => plain '"'
    | '\n' => unescape fuel r
    | 'x' =>
      let (n, rest) := Raw.takeDigits 16 2 0 r
      if rest.length = r.length then '\\' :: plain 'x' else Char.ofNat n :: unescape fuel rest
    | c =>
      if '0' ≤ c && c ≤ '7' then
        let (n, rest) := Raw.takeDigits 8 3 0 (c :: r)
        Char.ofNat (n % 256) :: unescape fuel rest
      else '\\' :: plain c
  | fuel + 1, c :: r => c :: unescape fuel r

/-- Takes a text up to a closing sign that stands in no set, with its escapes. -/
def takeQuoted (quote : Char) : (fuel : Nat) → (isInSet : Bool) → Raw → Option (Raw × Raw)
  | 0, _, _ | _, _, [] | _, _, '\n' :: _ => none
  | fuel + 1, isInSet, '\\' :: c :: r => do
    let (text, rest) ← takeQuoted quote fuel isInSet r
    some ('\\' :: c :: text, rest)
  | fuel + 1, isInSet, c :: r => do
    if c = quote && !isInSet then some ([], r)
    else
      let isInSet := quote = '/' && (c = '[' || (isInSet && c ≠ ']'))
      let (text, rest) ← takeQuoted quote fuel isInSet r
      some (c :: text, rest)

/-- The number at the front of a script. -/
def takeNumber? (r : Raw) : Option (Float × Raw) :=
  match r with
  | '0' :: 'x' :: _ | '0' :: 'X' :: _ => some (0, r.drop 1)
  | c :: _ =>
    if Raw.isDigit c || c = '.' then
      (Decimal.take? Decimal.double r).map fun (m, rest) => (floatOf m, rest)
    else none
  | [] => none

def nameToken (name rest : Raw) : Token :=
  let word := String.ofList name
  if keywords.contains word then .keyword word
  else
    match builtIns.lookup word with
    | some f => .builtIn f
    | none => if rest.head? = some '(' then .callee name else .name name

def scan : (fuel : Nat) → (line : Nat) → (isAfterOperand : Bool) → Raw → Except Mistake (List Lexeme)
  | 0, _, _, _ | _, _, _, [] => .ok []
  | fuel + 1, line, isAfterOperand, c :: r => do
    let emit (token : Token) (rest : Raw) : Except Mistake (List Lexeme) := do
      let source := (c :: r).take (r.length + 1 - rest.length)
      let others ← scan fuel (line + source.count '\n') token.isOperand rest
      .ok ({ token, source, line } :: others)
    if c = '\n' then emit .newline r
    else if c = ' ' || c = '\t' || c = '\r' then scan fuel line isAfterOperand r
    else if c = '#' then scan fuel line isAfterOperand (r.dropWhile (· ≠ '\n'))
    else if c = '\\' && r.head? = some '\n' then scan fuel (line + 1) isAfterOperand (r.drop 1)
    else if c = '"' then
      match takeQuoted '"' (r.length + 1) false r with
      | some (text, rest) => emit (.text (unescape (text.length + 1) text)) rest
      | none => .error (.openText line (r.takeWhile (· ≠ '\n')))
    else if c = '/' && !isAfterOperand then
      match takeQuoted '/' (r.length + 1) false r with
      | some (text, rest) => emit (.pattern text) rest
      | none => .error (.openPattern line (r.takeWhile (· ≠ '\n')))
    else if Raw.isLetter c then
      let name := (c :: r).takeWhile fun d => Raw.isLetter d || Raw.isDigit d
      let rest := (c :: r).drop name.length
      emit (nameToken name rest) rest
    else
      match takeNumber? (c :: r), signs.find? fun s => Raw.startsWith s.toList (c :: r) with
      | some (x, rest), _ => emit (.number x) rest
      | none, some s => emit (.sign s) ((c :: r).drop s.length)
      | none, none => .error (.unknown line c)

def words (r : Raw) : Except Mistake (List Lexeme) :=
  let r := if r.getLast? = some '\n' then r else r ++ ['\n']
  scan (r.length + 1) 1 false r

end Buildwatch.Machine.Rules
