import Buildwatch.Machine.Tool.Basic
import Buildwatch.Machine.Tool.Regex

/-!
# Formulas in arguments

The program that works out a formula whose signs and values are its arguments: sums and
products of whole numbers of any size, comparisons, choices, and questions about texts.
-/

namespace Buildwatch.Machine.Formula

/-! ## Values -/

def integer? (r : Raw) : Option Int :=
  match r with
  | '-' :: r => (Raw.natural? r).map fun n => -(n : Int)
  | r => (Raw.natural? r).map Int.ofNat

/-- Whether a value counts as none: it is empty or zero. -/
def isNone (r : Raw) : Bool :=
  let digits := match r with
    | '-' :: r => r
    | r => r
  r = [] || (digits ≠ [] && digits.all (· = '0'))

inductive Mistake
  | missingAfter (word : Raw)
  | unexpected (word : Raw)
  | unclosed (last : Raw)
  | notClosed (word : Raw)
  | strayBracket
  | noInteger
  | divisionByZero
  | badExpression (reason : String)

def Mistake.message : Mistake → Raw
  | .missingAfter w => Raw.ascii "syntax error: missing argument after " ++ Quoting.plain w
  | .unexpected w => Raw.ascii "syntax error: unexpected argument " ++ Quoting.plain w
  | .unclosed w => Raw.ascii "syntax error: expecting ')' after " ++ Quoting.plain w
  | .notClosed w => Raw.ascii "syntax error: expecting ')' instead of " ++ Quoting.plain w
  | .strayBracket => Raw.ascii "syntax error: unexpected ')'"
  | .noInteger => Raw.ascii "non-integer argument"
  | .divisionByZero => Raw.ascii "division by zero"
  | .badExpression reason => Raw.ascii reason

/-- A value, or why there is none. -/
abbrev Worked := Except Mistake Raw

/-- How much of a text matches an expression from its start on, or what its first group takes. -/
def matched (a b : Raw) : Worked :=
  match Regex.parse { extended := false } b with
  | .error reason => .error (.badExpression reason)
  | .ok e =>
    let hasGroups := e.groupCount ≠ 0
    match (e.ready {}).atStart? a with
    | some m => .ok (if hasGroups then (m.groups.lookup 1).getD [] else Raw.ofNat m.index)
    | none => .ok (if hasGroups then [] else ['0'])

def compared (a b : Raw) : Ordering :=
  match integer? a, integer? b with
  | some i, some j => compare i j
  | _, _ => if Raw.before a b then .lt else if a = b then .eq else .gt

def apply (sign : String) (a b : Raw) : Worked :=
  let test (isGood : Bool) : Worked := .ok (if isGood then ['1'] else ['0'])
  let numbers (f : Int → Int → Worked) : Worked :=
    match integer? a, integer? b with
    | some i, some j => f i j
    | _, _ => .error .noInteger
  match sign with
  | "=" | "==" => test (compared a b == .eq)
  | "!=" => test (compared a b != .eq)
  | "<" => test (compared a b == .lt)
  | "<=" => test (compared a b != .gt)
  | ">" => test (compared a b == .gt)
  | ">=" => test (compared a b != .lt)
  | ":" => matched a b
  | "+" => numbers fun i j => .ok (Raw.ofInt (i + j))
  | "-" => numbers fun i j => .ok (Raw.ofInt (i - j))
  | "*" => numbers fun i j => .ok (Raw.ofInt (i * j))
  | "/" => numbers fun i j => if j = 0 then .error .divisionByZero else .ok (Raw.ofInt (i.tdiv j))
  | _ => numbers fun i j => if j = 0 then .error .divisionByZero else .ok (Raw.ofInt (i.tmod j))

/-- The place of the first character of a text that is among others. -/
def placeOfAny (r others : Raw) : Nat :=
  let before := r.takeWhile fun c => !others.contains c
  if before.length = r.length then 0 else before.length + 1

/-- A part of a text by its place and length; numbers that make no sense give nothing. -/
def part (r place count : Raw) : Raw :=
  match integer? place, integer? count with
  | some i, some n => if 0 < i && 0 < n then (r.drop (i.toNat - 1)).take n.toNat else []
  | _, _ => []

/-! ## Reading -/

/-- The words that are left, and the one before them. -/
structure Cursor where
  rest : List Raw
  last : Raw := []

abbrev Reading := StateT Cursor (Except Mistake)

def word : Reading Raw := do
  let s ← get
  match s.rest with
  | w :: rest =>
    set ({ rest, last := w } : Cursor)
    return w
  | [] => throw (.missingAfter s.last)

/-- Takes the next word if it is one of some signs. -/
def sign? (signs : List String) : Reading (Option String) := do
  match (← get).rest with
  | w :: _ =>
    if signs.contains (String.ofList w) then
      discard word
      return some (String.ofList w)
    else return none
  | [] => return none

/-- The signs between values, by how tightly they bind. -/
def levels : List (List String) :=
  [["|"], ["&"], ["<", "<=", "=", "==", "!=", ">=", ">"], ["+", "-"], ["*", "/", "%"], [":"]]

mutual

/-- The value of what binds at least as tightly as the first of the levels. What does not
count is read and not worked out. -/
def level (counts : Bool) : (fuel : Nat) → List (List String) → Reading Raw
  | 0, _ => return []
  | fuel + 1, [] => value counts fuel
  | fuel + 1, signs :: others => do
    let a ← level counts fuel others
    levelAfter counts fuel signs others a

def levelAfter (counts : Bool) : (fuel : Nat) → List String → List (List String) → Raw → Reading Raw
  | 0, _, _, a => return a
  | fuel + 1, signs, others, a => do
    match ← sign? signs with
    | none => return a
    | some "|" =>
      let b ← level (counts && isNone a) fuel others
      levelAfter counts fuel signs others (if !isNone a then a else if isNone b then ['0'] else b)
    | some "&" =>
      let b ← level (counts && !isNone a) fuel others
      levelAfter counts fuel signs others (if isNone a || isNone b then ['0'] else a)
    | some sign =>
      let b ← level counts fuel others
      let r ← if counts then
          match apply sign a b with
          | .ok r => pure r
          | .error e => throw e
        else pure []
      levelAfter counts fuel signs others r

/-- A word, or a question about texts. -/
def value (counts : Bool) : (fuel : Nat) → Reading Raw
  | 0 => return []
  | fuel + 1 => do
    let w ← word
    match String.ofList w with
    | "+" => word
    | "length" => return Raw.ofNat (← value counts fuel).length
    | "match" =>
      let a ← value counts fuel
      let b ← value counts fuel
      if !counts then return []
      match matched a b with
      | .ok r => return r
      | .error e => throw e
    | "index" =>
      let a ← value counts fuel
      return Raw.ofNat (placeOfAny a (← value counts fuel))
    | "substr" =>
      let a ← value counts fuel
      let place ← value counts fuel
      return part a place (← value counts fuel)
    | "(" =>
      let a ← level counts fuel levels
      match (← get).rest with
      | [] => throw (.unclosed (← get).last)
      | [')'] :: _ =>
        discard word
        return a
      | w :: _ => throw (.notClosed w)
    | ")" => throw .strayBracket
    | _ => return w

end

def evaluate (words : List Raw) : Worked := do
  match ← (level true (20 * words.length + 20) levels).run { rest := words } with
  | (a, { rest := [], .. }) => .ok a
  | (_, { rest := w :: _, .. }) => .error (.unexpected w)

/-! ## The tool -/

def expr : Tool Nat := do
  let args := (← read).args
  if args = [Raw.ascii "--help"] || args = [Raw.ascii "--version"] then return 0
  match if args.head? = some ['-', '-'] then args.drop 1 else args with
  | [] => Tool.misuse (Raw.ascii "missing operand")
  | words =>
    match evaluate words with
    | .ok r =>
      Tool.sayLine r
      return Tool.statusOf !(isNone r)
    | .error e => Tool.fail e.message

end Buildwatch.Machine.Formula
