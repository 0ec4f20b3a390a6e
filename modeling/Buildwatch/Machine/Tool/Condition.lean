import Buildwatch.Machine.Tool.Basic

/-!
# Conditions

Questions about files, texts and numbers, asked word by word. The shell and the program of
the same name read them a little differently.
-/

namespace Buildwatch.Machine.Condition

/-! ## Questions -/

/-- The mode of the node at a path, if it is one of a kind. -/
def nodeIs (v : View) (a : Raw) (test : Node → Bool) : Bool :=
  (v.files.find true v.cwd (Raw.toText a)).toOption.any (test ·.2)

/-- Whether a node may be run, by a user who may do everything else. -/
def isRunnable (n : Node) : Bool := n.isDirectory || n.mode &&& 0o111 ≠ 0

def aboutFile? (v : View) (letter : Char) (a : Raw) : Option Bool :=
  let ask (test : Node → Bool) : Option Bool := some (nodeIs v a test)
  match letter with
  | 'e' | 'r' | 'w' | 'O' | 'G' => ask fun _ => true
  | 'f' => ask (·.isFile)
  | 'd' => ask (·.isDirectory)
  | 'x' => ask isRunnable
  | 's' => ask fun n => 0 < n.size
  | 'c' => ask fun n => match n.content with
    | .device _ => true
    | _ => false
  | 'u' => ask fun n => n.mode &&& 0o4000 ≠ 0
  | 'g' => ask fun n => n.mode &&& 0o2000 ≠ 0
  | 'k' => ask fun n => n.mode &&& 0o1000 ≠ 0
  | 'L' | 'h' => some ((v.files.find false v.cwd (Raw.toText a)).toOption.any fun (_, n) =>
    match n.content with
    | .link _ => true
    | _ => false)
  | 'p' => some (match a, v.channels.lookup 0 with
    | _, some (.pipeEnd ..) => a = Raw.ascii "/dev/stdin"
    | _, _ => false)
  | 'b' | 'S' => some false
  | _ => none

def modified? (v : View) (a : Raw) : Option Int :=
  (v.files.find true v.cwd (Raw.toText a)).toOption.map (·.2.modified)

def isSame (v : View) (a b : Raw) : Bool :=
  match v.files.find true v.cwd (Raw.toText a), v.files.find true v.cwd (Raw.toText b) with
  | .ok (_, m), .ok (_, n) => m.number = n.number
  | _, _ => false

def aboutNumbers? (operator : String) : Option (Int → Int → Bool) :=
  match operator with
  | "-eq" => some (· = ·)
  | "-ne" => some (· ≠ ·)
  | "-lt" => some (· < ·)
  | "-le" => some (· ≤ ·)
  | "-gt" => some (· > ·)
  | "-ge" => some (· ≥ ·)
  | _ => none

def aboutTexts? (operator : String) : Option (Raw → Raw → Bool) :=
  match operator with
  | "=" => some (· = ·)
  | "!=" => some (· ≠ ·)
  | "<" => some Raw.before
  | ">" => some fun a b => Raw.before b a
  | _ => none

/-- A whole number with blanks around it. -/
def number? (r : Raw) : Option Int :=
  Raw.integer? ((Raw.dropSpace r).reverse.dropWhile Raw.isSpace).reverse

/-! ## The shell -/

inductive Token
  | atEnd
  | operand
  | not
  | and
  | or
  | opening
  | closing
  | unary (letter : Char)
  | binary (operator : String)
  deriving DecidableEq

def operator? (w : Raw) : Option Token :=
  match w with
  | ['!'] => some .not
  | ['('] => some .opening
  | [')'] => some .closing
  | ['-', 'a'] => some .and
  | ['-', 'o'] => some .or
  | ['-', c] => if "rwxefdcbpugkstLhSOGzn".toList.contains c then some (.unary c) else none
  | w =>
    let s := String.ofList w
    if (aboutTexts? s).isSome || (aboutNumbers? s).isSome || ["-nt", "-ot", "-ef"].contains s then
      some (.binary s)
    else none

def isBinary (t : Option Token) : Bool :=
  match t with
  | some (.binary _) => true
  | _ => false

/-- What the first of some words is. -/
def token (ws : List Raw) : Token :=
  match ws with
  | [] => .atEnd
  | w :: rest =>
    match operator? w with
    | some (.unary c) =>
      -- A word that asks something is one that is asked about, before an operator or alone.
      let isOperand := match rest with
        | [] => true
        | [_] => false
        | next :: _ => isBinary (operator? next)
      if isOperand then .operand else .unary c
    | some .opening => if rest.isEmpty then .operand else .opening
    | some t => t
    | none => .operand

def number (w : Raw) : Except Raw Int :=
  match number? w with
  | some i => if -Raw.signedLimit ≤ i && i < Raw.signedLimit then .ok i else .error (Raw.ascii "Illegal number: " ++ w)
  | none => .error (Raw.ascii "Illegal number: " ++ w)

/-- The answer to a question with an operator between its words. -/
def binary (v : View) (operator : String) (a b : Raw) : Except Raw Bool := do
  match aboutTexts? operator, aboutNumbers? operator with
  | some test, _ => .ok (test a b)
  | _, some test => do
    let i ← number a
    let j ← number b
    .ok (test i j)
  | none, none =>
    let times := (modified? v a, modified? v b)
    .ok (match operator, times with
      | "-nt", (some m, some n) => n < m
      | "-ot", (some m, some n) => m < n
      | "-ef", _ => isSame v a b
      | _, _ => false)

/-- An answer, and the words from the last one on that was used. -/
abbrev Answer := Except Raw (Bool × List Raw)

mutual

/-- Reads alternatives, of which the first begins with a token. -/
def anyOf (v : View) : (fuel : Nat) → Token → List Raw → Answer
  | 0, _, ws => .ok (false, ws)
  | fuel + 1, t, ws => do
    let (a, ws) ← allOf v fuel t ws
    if token (ws.drop 1) = .or then
      let (b, ws) ← anyOf v fuel (token (ws.drop 2)) (ws.drop 2)
      .ok (a || b, ws)
    else .ok (a, ws)

def allOf (v : View) : (fuel : Nat) → Token → List Raw → Answer
  | 0, _, ws => .ok (false, ws)
  | fuel + 1, t, ws => do
    let (a, ws) ← notOf v fuel t ws
    if token (ws.drop 1) = .and then
      let (b, ws) ← allOf v fuel (token (ws.drop 2)) (ws.drop 2)
      .ok (a && b, ws)
    else .ok (a, ws)

def notOf (v : View) : (fuel : Nat) → Token → List Raw → Answer
  | 0, _, ws => .ok (false, ws)
  | fuel + 1, t, ws =>
    if t = .not then do
      let next := token (ws.drop 1)
      -- A negation of nothing is the negation of a word.
      let (a, ws) ← notOf v fuel next (if next = .atEnd then ws else ws.drop 1)
      .ok (!a, ws)
    else one v fuel t ws

def one (v : View) : (fuel : Nat) → Token → List Raw → Answer
  | 0, _, ws => .ok (false, ws)
  | fuel + 1, t, ws =>
    match t, ws with
    | .atEnd, _ => .ok (false, ws)
    | .opening, _ :: rest =>
      if token rest = .closing then .ok (false, rest)
      else do
        let (a, ws) ← anyOf v fuel (token rest) rest
        if token (ws.drop 1) = .closing then .ok (a, ws.drop 1)
        else .error (Raw.ascii "closing paren expected")
    | .unary _, [_] => .error (Raw.ascii "argument expected")
    | .unary c, _ :: rest@(a :: _) =>
      match c with
      | 'z' => .ok (a = [], rest)
      | 'n' => .ok (a ≠ [], rest)
      | 't' => do
        discard <| number a
        .ok (false, rest)
      | c => .ok ((aboutFile? v c a).getD false, rest)
    | _, a :: rest =>
      match token rest, rest with
      | .binary operator, [_] => .error (Raw.ascii operator ++ Raw.ascii ": argument expected")
      | .binary operator, _ :: b :: more => do .ok (← binary v operator a b, b :: more)
      -- A word alone asks whether it is there.
      | _, _ => .ok (a ≠ [], ws)
    | _, [] => .ok (false, ws)

end

/-- Whether a condition holds as the shell reads it, or what is wrong with it. -/
def holds (v : View) : (fuel : Nat) → List Raw → Except Raw Bool
  | 0, _ => .ok false
  | fuel + 1, ws =>
    let evaluate (t : Token) (ws : List Raw) : Except Raw Bool := do
      match ← anyOf v (8 * ws.length + 8) t ws with
      | (_, w :: _ :: _) =>
        .error ((if w = [] then [] else w ++ Raw.ascii ": ") ++ Raw.ascii "unexpected operator")
      | (a, _) => .ok a
    let isBracketed := ws.head? = some ['('] && ws.getLast? = some [')']
    let inner := (ws.drop 1).dropLast
    match ws with
    | [] => .ok false
    | [_, o, _] =>
      -- Three words with an operator between them are what they look like, whatever they are.
      if isBinary (operator? o) then evaluate .operand ws
      else if isBracketed then evaluate (token inner) inner
      else if ws.head? = some ['!'] then (holds v fuel (ws.drop 1)).map (!·)
      else evaluate (token ws) ws
    | [_, _, _, _] =>
      if isBracketed then evaluate (token inner) inner
      else if ws.head? = some ['!'] then (holds v fuel (ws.drop 1)).map (!·)
      else evaluate (token ws) ws
    | ws => evaluate (token ws) ws

/-- Whether a condition holds in the shell; `[` asks for a bracket at the end. -/
def shell (v : View) (name : String) (args : List Raw) : Except Raw Bool :=
  if name = "[" then
    if args.getLast? = some [']'] then holds v (args.length + 1) args.dropLast
    else .error (Raw.ascii "missing ]")
  else holds v (args.length + 1) args

/-! ## The program -/

/-- Whether a word asks something about one other word. -/
def unaryLetter? (w : Raw) : Option Char :=
  match w with
  | ['-', c] => some c
  | _ => none

def plainNumber (w : Raw) : Except Raw Int :=
  match number? w with
  | some i => .ok i
  | none => .error (Raw.ascii "invalid integer " ++ Quoting.plain w)

def isBetween (w : Raw) : Bool := isBinary (operator? w) || w = ['=', '=']

/-- The answer to a question with an operator between its words, in the program. -/
def plainBinary (v : View) (operator a b : Raw) : Except Raw Bool := do
  let name := String.ofList operator
  match aboutTexts? (if name = "==" then "=" else name), aboutNumbers? name with
  | some test, _ => .ok (test a b)
  | _, some test => do
    let length? (l w : Raw) : Except Raw Int := if l = Raw.ascii "-l" then .ok w.length else plainNumber l
    let i ← length? a []
    let j ← length? b []
    .ok (test i j)
  | none, none =>
    .ok (match name, modified? v a, modified? v b with
      | "-nt", some m, some n => n < m
      -- A file that is not there is older than any other.
      | "-nt", some _, none => true
      | "-ot", some m, some n => m < n
      | "-ot", none, some _ => true
      | "-ef", _, _ => isSame v a b
      | _, _, _ => false)

/-- The answer to a question about one word, in the program. -/
def plainUnary (v : View) (w a : Raw) : Except Raw Bool :=
  let unknown : Except Raw Bool := .error (Quoting.plain w ++ Raw.ascii ": unary operator expected")
  match w with
  | ['-', 'z'] => .ok (a = [])
  | ['-', 'n'] => .ok (a ≠ [])
  | ['-', 't'] => do
    discard <| plainNumber a
    .ok false
  | ['-', 'N'] => .ok false
  | ['-', c] =>
    match aboutFile? v c a with
    | some b => .ok b
    | none => unknown
  | _ => unknown

/-- The words of an expression with more than four words, from its end on. -/
abbrev Rest := Except Raw (Bool × List Raw)

mutual

def plainAny (v : View) (last : Raw) : (fuel : Nat) → List Raw → Rest
  | 0, ws => .ok (false, ws)
  | fuel + 1, ws => do
    let (a, rest) ← plainAll v last fuel ws
    match rest with
    | ['-', 'o'] :: rest => do
      let (b, rest) ← plainAny v last fuel rest
      .ok (a || b, rest)
    | rest => .ok (a, rest)

def plainAll (v : View) (last : Raw) : (fuel : Nat) → List Raw → Rest
  | 0, ws => .ok (false, ws)
  | fuel + 1, ws => do
    let (a, rest) ← plainTerm v last fuel ws
    match rest with
    | ['-', 'a'] :: rest => do
      let (b, rest) ← plainAll v last fuel rest
      .ok (a && b, rest)
    | rest => .ok (a, rest)

def plainTerm (v : View) (last : Raw) : (fuel : Nat) → List Raw → Rest
  | 0, ws => .ok (false, ws)
  | fuel + 1, ws =>
    let missing : Rest := .error (Raw.ascii "missing argument after " ++ Quoting.plain last)
    match ws with
    | [] => missing
    | ['!'] :: rest => do
      let (a, rest) ← plainTerm v last fuel rest
      .ok (!a, rest)
    | ['('] :: rest =>
      if rest.isEmpty then missing
      else do
        let (a, rest) ← plainAny v last fuel rest
        match rest with
        | [')'] :: rest => .ok (a, rest)
        | [] => .error (Raw.ascii "')' expected")
        | w :: _ => .error (Raw.ascii "')' expected, found " ++ w)
    | a :: o :: b :: rest =>
      if isBetween o then do .ok (← plainBinary v o a b, rest)
      else
        match unaryLetter? a with
        | some _ => do .ok (← plainUnary v a o, b :: rest)
        | none => .ok (a ≠ [], o :: b :: rest)
    | [w, a] =>
      match unaryLetter? w with
      | some _ => do .ok (← plainUnary v w a, [])
      | none => .ok (w ≠ [], [a])
    | [w] => if (unaryLetter? w).isSome then missing else .ok (w ≠ [], [])

end

def plainTwo (v : View) (a b : Raw) : Except Raw Bool :=
  if a = ['!'] then .ok (b = [])
  else if (unaryLetter? a).isSome then plainUnary v a b
  else .error (Raw.ascii "missing argument after " ++ Quoting.plain b)

/-- The answer to any number of words. -/
def plainLong (v : View) (ws : List Raw) : Except Raw Bool := do
  match ← plainAny v (ws.getLast?.getD []) (8 * ws.length + 8) ws with
  | (a, []) => .ok a
  | (_, w :: _) => .error (Raw.ascii "extra argument " ++ Quoting.plain w)

def plainThree (v : View) (a o b : Raw) : Except Raw Bool :=
  if isBetween o then plainBinary v o a b
  else if a = ['!'] then (plainTwo v o b).map (!·)
  else if a = ['('] && b = [')'] then .ok (o ≠ [])
  else if o = ['-', 'a'] || o = ['-', 'o'] || o = ['>'] || o = ['<'] then plainLong v [a, o, b]
  else .error (Quoting.plain o ++ Raw.ascii ": binary operator expected")

/-- Whether a condition holds as the program reads it, or what is wrong with it. -/
def plain (v : View) (ws : List Raw) : Except Raw Bool :=
  match ws with
  | [] => .ok false
  | [a] => .ok (a ≠ [])
  | [a, b] => plainTwo v a b
  | [a, b, c] => plainThree v a b c
  | [['!'], a, b, c] => (plainThree v a b c).map (!·)
  | [['('], a, b, [')']] => plainTwo v a b
  | ws => plainLong v ws

def test (needsBracket : Bool) : Tool Nat := do
  let args := (← read).args
  if needsBracket && args.getLast? ≠ some [']'] then
    Tool.warn (Raw.ascii "missing ']'")
    return 2
  match plain (← Tool.view) (if needsBracket then args.dropLast else args) with
  | .ok a => return Tool.statusOf a
  | .error reason =>
    Tool.warn reason
    return 2

end Buildwatch.Machine.Condition
