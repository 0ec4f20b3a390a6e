import Buildwatch.Machine.Raw

/-!
# Arithmetic of the shell

Expressions over whole numbers of 64 bits, with variables, comparisons and assignments.
-/

namespace Buildwatch.Machine.Arithmetic

/-! ## Expressions -/

inductive Expression
  | number (n : Int)
  | variable (name : Raw)
  | unary (operator : String) (e : Expression)
  | binary (operator : String) (a b : Expression)
  | choice (test a b : Expression)
  /-- A new value for a variable: that of the expression, or the old one combined with it. -/
  | assign (name : Raw) (operator : String) (e : Expression)

/-- A token: a number, a name, or an operator. -/
inductive Token
  | number (n : Nat)
  | name (name : Raw)
  | operator (o : String)
  deriving DecidableEq

def operators : List String :=
  ["<<=", ">>=", "<<", ">>", "<=", ">=", "==", "!=", "&&", "||", "+=", "-=", "*=", "/=", "%=", "&=",
    "|=", "^=", "+", "-", "*", "/", "%", "<", ">", "=", "!", "~", "&", "|", "^", "?", ":", "(", ")"]

def takeNumber : Raw → Nat × Raw
  | '0' :: r =>
    match r with
    | x :: c :: r' =>
      if (x = 'x' || x = 'X') && Raw.digitValue c < 16 then Raw.takeDigits 16 (r'.length + 1) 0 (c :: r')
      else Raw.takeDigits 8 r.length 0 r
    | r => Raw.takeDigits 8 r.length 0 r
  | r => Raw.takeDigits 10 r.length 0 r

/-- The tokens of a text; a character without meaning is an operator that nothing knows. -/
def tokens : (fuel : Nat) → Raw → List Token
  | 0, _ => []
  | _, [] => []
  | fuel + 1, c :: r =>
    if Raw.isSpace c then tokens fuel r
    else if Raw.isDigit c then
      let (n, rest) := takeNumber (c :: r)
      .number n :: tokens fuel rest
    else if Raw.isLetter c then
      let name := c :: r.takeWhile fun c => Raw.isLetter c || Raw.isDigit c
      .name name :: tokens fuel (r.drop (name.length - 1))
    else
      match operators.find? fun o => Raw.startsWith o.toList (c :: r) with
      | some o => .operator o :: tokens fuel (r.drop (o.length - 1))
      | none => .operator (String.singleton c) :: tokens fuel r

/-! ## Mistakes -/

inductive Mistake
  /-- Something of it cannot be read or worked out. -/
  | inExpression (reason : String)
  /-- A variable holds something that is no number. -/
  | badValue (text : Raw)

def Mistake.message (expression : Raw) : Mistake → Raw
  | .inExpression reason =>
    Raw.ascii "arithmetic expression: " ++ Raw.ascii reason ++ Raw.ascii ": \"" ++ expression ++ ['"']
  | .badValue text => Raw.ascii "Illegal number: " ++ text

/-! ## Reading -/

/-- The operators with two sides, by how tightly they bind. -/
def levels : List (List String) :=
  [["||"], ["&&"], ["|"], ["^"], ["&"], ["==", "!="], ["<", "<=", ">", ">="], ["<<", ">>"],
    ["+", "-"], ["*", "/", "%"]]

def assignments : List String := ["=", "+=", "-=", "*=", "/=", "%=", "&=", "|=", "^=", "<<=", ">>="]

/-- What reading gives: an expression and the tokens after it. -/
abbrev Read := Except Mistake (Expression × List Token)

def expecting (what : String) : Read := .error (.inExpression ("expecting " ++ what))

mutual

def full : (fuel : Nat) → List Token → Read
  | 0, _ => expecting "primary"
  | fuel + 1, ts =>
    match ts with
    | .name x :: .operator o :: rest =>
      if assignments.contains o then do
        let (e, rest) ← full fuel rest
        .ok (.assign x ((o.dropEnd 1).toString) e, rest)
      else choice fuel ts
    | _ => choice fuel ts

def choice : (fuel : Nat) → List Token → Read
  | 0, _ => expecting "primary"
  | fuel + 1, ts => do
    let (test, rest) ← level fuel levels ts
    match rest with
    | .operator "?" :: rest => do
      let (a, rest) ← full fuel rest
      let .operator ":" :: rest := rest | expecting "':'"
      let (b, rest) ← choice fuel rest
      .ok (.choice test a b, rest)
    | _ => .ok (test, rest)

/-- Reads what binds at least as tightly as the first of the levels. -/
def level : (fuel : Nat) → List (List String) → List Token → Read
  | 0, _, _ => expecting "primary"
  | fuel + 1, [], ts => unary fuel ts
  | fuel + 1, os :: ls, ts => do
    let (a, rest) ← level fuel ls ts
    levelAfter fuel os ls a rest

def levelAfter : (fuel : Nat) → List String → List (List String) → Expression → List Token → Read
  | 0, _, _, _, _ => expecting "primary"
  | fuel + 1, os, ls, a, ts =>
    match ts with
    | .operator o :: rest =>
      if os.contains o then do
        let (b, rest) ← level fuel ls rest
        levelAfter fuel os ls (.binary o a b) rest
      else .ok (a, ts)
    | _ => .ok (a, ts)

def unary : (fuel : Nat) → List Token → Read
  | 0, _ => expecting "primary"
  | fuel + 1, ts =>
    match ts with
    | .operator "(" :: rest => do
      let (e, rest) ← full fuel rest
      let .operator ")" :: rest := rest | expecting "')'"
      .ok (e, rest)
    | .operator o :: rest =>
      if ["+", "-", "!", "~"].contains o then do
        let (e, rest) ← unary fuel rest
        .ok (.unary o e, rest)
      else expecting "primary"
    | .number n :: rest => .ok (.number n, rest)
    | .name x :: rest => .ok (.variable x, rest)
    | [] => expecting "primary"

end

def parse (text : Raw) : Except Mistake Expression := do
  let ts := tokens (text.length + 1) text
  match ← full (30 * ts.length + 30) ts with
  | (e, []) => .ok e
  | _ => .error (.inExpression "expecting EOF")

/-! ## Values -/

def wrap (i : Int) : Int := i.bmod Raw.wordLimit

def ofBool (b : Bool) : Int := if b then 1 else 0

/-- An operation on two numbers; one on bits goes by their 64 bits. -/
def apply (operator : String) (a b : Int) : Except Mistake Int :=
  let nothing : Except Mistake Int := .error (.inExpression "division by zero")
  let bits (f : UInt64 → UInt64 → UInt64) : Int := wrap (f (.ofInt a) (.ofInt b)).toNat
  match operator with
  | "+" => .ok (wrap (a + b))
  | "-" => .ok (wrap (a - b))
  | "*" => .ok (wrap (a * b))
  | "/" => if b = 0 then nothing else .ok (wrap (a.tdiv b))
  | "%" => if b = 0 then nothing else .ok (wrap (a.tmod b))
  | "<<" => .ok (bits (· <<< ·))
  | ">>" => .ok (a / Nat.pow 2 (b.toNat % 64))
  | "&" => .ok (bits (· &&& ·))
  | "|" => .ok (bits (· ||| ·))
  | "^" => .ok (bits (· ^^^ ·))
  | "<" => .ok (ofBool (a < b))
  | "<=" => .ok (ofBool (a ≤ b))
  | ">" => .ok (ofBool (a > b))
  | ">=" => .ok (ofBool (a ≥ b))
  | "==" => .ok (ofBool (a = b))
  | "!=" => .ok (ofBool (a ≠ b))
  | _ => .ok b

/-- The value of a variable: what was assigned to it last, or what it holds as text. -/
def valueOf (lookUp : Raw → Option Raw) (assigned : List (Raw × Int)) (x : Raw) :
    Except Mistake Int :=
  match assigned.lookup x with
  | some i => .ok i
  | none =>
    match (lookUp x).getD [] with
    | [] => .ok 0
    | '-' :: text =>
      let (n, rest) := takeNumber text
      if rest = [] && text ≠ [] && n ≤ Raw.signedLimit then .ok (-n)
      else .error (.badValue ('-' :: text))
    | text =>
      let (n, rest) := takeNumber text
      if rest = [] && n < Raw.signedLimit then .ok n else .error (.badValue text)

def value (lookUp : Raw → Option Raw) :
    Expression → List (Raw × Int) → Except Mistake (Int × List (Raw × Int))
  | .number n, s => .ok (min n (Raw.signedLimit - 1), s)
  | .variable x, s => do .ok (← valueOf lookUp s x, s)
  | .unary o e, s => do
    let (i, s) ← value lookUp e s
    .ok (match o with
      | "-" => wrap (-i)
      | "!" => ofBool (i = 0)
      | "~" => -i - 1
      | _ => i, s)
  | .binary "&&" a b, s => do
    let (i, s) ← value lookUp a s
    if i = 0 then .ok (0, s)
    else
      let (j, s) ← value lookUp b s
      .ok (ofBool (j ≠ 0), s)
  | .binary "||" a b, s => do
    let (i, s) ← value lookUp a s
    if i ≠ 0 then .ok (1, s)
    else
      let (j, s) ← value lookUp b s
      .ok (ofBool (j ≠ 0), s)
  | .binary o a b, s => do
    let (i, s) ← value lookUp a s
    let (j, s) ← value lookUp b s
    .ok (← apply o i j, s)
  | .choice t a b, s => do
    let (i, s) ← value lookUp t s
    if i ≠ 0 then value lookUp a s else value lookUp b s
  | .assign x o e, s => do
    let (j, s) ← value lookUp e s
    let i ← valueOf lookUp s x
    let k ← if o = "" then .ok j else apply o i j
    .ok (k, (x, k) :: s)

/-- The value of a text, and the values that it assigns, latest first. -/
def evaluate (lookUp : Raw → Option Raw) (text : Raw) : Except Raw (Int × List (Raw × Int)) :=
  (do value lookUp (← parse text) []).mapError (Mistake.message text)

end Buildwatch.Machine.Arithmetic
