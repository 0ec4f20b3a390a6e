import Buildwatch.Machine.Tool.Rules.Token

/-!
# Reading scripts

How the words of a script make up rules and functions. A sign of comparison that points
right stands for an output where something is printed, unless it is in brackets.
-/

namespace Buildwatch.Machine.Rules

/-! ## The words that are left -/

/-- What has been read, and where. -/
structure Cursor where
  rest : List Lexeme
  /-- The line behind the last one. -/
  lastLine : Nat
  isPrinting : Bool := false
  /-- The open brackets. -/
  depth : Nat := 0
  loops : Nat := 0
  /-- The parameters of the function at hand. -/
  parameters : Option (List Raw) := none
  /-- Whether a record is there for the rule at hand. -/
  hasRecord : Bool := true
  /-- The names that are used for tables, and those that are used for other values. -/
  tables : List Raw := []
  plain : List Raw := []
  /-- The calls of functions: the line, the name, and how many arguments there are. -/
  calls : List (Nat × Raw × Nat) := []

abbrev Reading := StateT Cursor (Except Mistake)

def peek : Reading (Option Token) := do return (← get).rest.head?.map Lexeme.token

def lineHere : Reading Nat := do
  let s ← get
  return match s.rest with
    | w :: _ => w.line
    | [] => s.lastLine

def drop : Reading Unit := modify fun s => { s with rest := s.rest.drop 1 }

def giveUp {α : Type} : Reading α := do
  let s ← get
  match s.rest with
  | [] => throw (.missing s.lastLine '\x7d' (Raw.ascii "end of file"))
  | w :: _ =>
    let word := match w.token with
      | .newline => Raw.ascii "end of line"
      | _ => w.source
    match w.token with
    -- What is said of a bracket depends on whether one is open that it could close.
    | .sign ")" => if s.depth = 0 then throw (.extra w.line ')') else throw (.near w.line word)
    | .newline | .sign ";" | .sign "\x7d" =>
      if s.depth ≠ 0 then throw (.missing w.line ')' word) else throw (.near w.line word)
    | _ => throw (.near w.line word)

def isSign (s : String) : Reading Bool := do
  return match ← peek with
    | some (.sign t) => s = t
    | _ => false

def isKeyword (s : String) : Reading Bool := do
  return match ← peek with
    | some (.keyword t) => s = t
    | _ => false

def expect (s : String) : Reading Unit := do
  if ← isSign s then drop else giveUp

def dropNewlines : Reading Unit :=
  modify fun s => { s with rest := s.rest.dropWhile fun w => match w.token with
    | .newline => true
    | _ => false }

/-- Passes over the ends of lines and of statements. -/
def dropSeparators : Reading Unit :=
  modify fun s => { s with rest := s.rest.dropWhile fun w => match w.token with
    | .newline | .sign ";" => true
    | _ => false }

/-- Reads something in brackets that are open already. -/
def inBrackets {α : Type} (close : String) (p : Reading α) : Reading α := do
  let s ← get
  let isRound := close = ")"
  -- Within brackets a sign that points right compares again.
  set { s with isPrinting := false, depth := if isRound then s.depth + 1 else s.depth }
  let a ← p
  expect close
  modify fun t => { t with isPrinting := s.isPrinting, depth := s.depth }
  return a

/-! ## Names -/

def isParameter (name : Raw) : Reading Bool := do return (← get).parameters.any (·.contains name)

/-- Notes that a name stands for a table. -/
def noteTable (name : Raw) : Reading Unit := do
  if !(← isParameter name) then
    if (← get).plain.contains name then throw (.noTable (← lineHere) name)
    modify fun s => { s with tables := if s.tables.contains name then s.tables else name :: s.tables }

/-- Notes that a name stands for a value that is no table. -/
def notePlain (name : Raw) : Reading Unit := do
  if !(← isParameter name) then
    if (← get).tables.contains name then throw (.noPlainValue (← lineHere) name)
    modify fun s => { s with plain := if s.plain.contains name then s.plain else name :: s.plain }

def expectName : Reading Raw := do
  match ← peek with
  | some (.name r) =>
    drop
    return r
  | _ => giveUp

def expectTable : Reading Raw := do
  let name ← expectName
  noteTable name
  return name

/-! ## Expressions -/

/-- How tightly signs bind. -/
inductive Level
  | either
  | both
  | isKey
  | matching
  | comparison
  | join
  | sum
  | product

def operation? : String → Option Operation
  | "+" => some .add
  | "-" => some .subtract
  | "*" => some .multiply
  | "/" => some .divide
  | "%" => some .remainder
  | "^" => some .power
  | _ => none

/-- The operation that a sign for a change stands for. -/
def assignment? : String → Option (Option Operation)
  | "=" => some none
  | "+=" => some (some .add)
  | "-=" => some (some .subtract)
  | "*=" => some (some .multiply)
  | "/=" => some (some .divide)
  | "%=" => some (some .remainder)
  | "^=" => some (some .power)
  | _ => none

def comparison? : String → Option Comparison
  | "<" => some .less
  | "<=" => some .atMost
  | "==" => some .equal
  | "!=" => some .unequal
  | ">" => some .more
  | ">=" => some .atLeast
  | _ => none

/-- What a sign makes of two expressions at a level. -/
def sign? (l : Level) (isPrinting : Bool) (s : String) : Option (Expression → Expression → Expression) :=
  match l, s with
  | .either, "||" => some .either
  | .both, "&&" => some .both
  | .matching, "~" => some (.matching false)
  | .matching, "!~" => some (.matching true)
  -- In `print a > b` the sign names the file that the text goes to.
  | .comparison, ">" => if isPrinting then none else some (.compare .more)
  | .comparison, s => (comparison? s).map .compare
  | .sum, "+" | .sum, "-" | .product, "*" | .product, "/" | .product, "%" => (operation? s).map .operation
  | _, _ => none

/-- Whether a word begins an expression that follows another one. -/
def startsOperand : Token → Bool
  | .number _ | .text _ | .pattern _ | .name _ | .callee _ | .builtIn _ => true
  | .sign s => ["$", "!", "(", "++", "--"].contains s
  | _ => false

def nameOf (f : BuiltIn) : Raw := Raw.ascii (((builtIns.find? (·.2 = f)).map (·.1)).getD "")

/-- How many arguments a function takes at least and at most. -/
def argumentCounts : BuiltIn → Nat × Nat
  | .arctangent | .index | .matching => (2, 2)
  | .close | .cosine | .exponential | .integer | .logarithm | .lower | .root | .sine | .system | .upper => (1, 1)
  | .flush | .length | .seed => (0, 1)
  | .random => (0, 0)
  | .split | .substring | .substitute | .substituteAll => (2, 3)
  | .sprintf => (1, 1000)

mutual

def expression : (fuel : Nat) → Reading Expression
  | 0 => giveUp
  | fuel + 1 => do
    let a ← level .either fuel
    if ← isSign "?" then
      drop
      dropNewlines
      let b ← expression fuel
      dropNewlines
      expect ":"
      dropNewlines
      return .choose a b (← expression fuel)
    return a

/-- Reads what binds at least as tightly as a level. -/
def level (l : Level) : (fuel : Nat) → Reading Expression
  | 0 => giveUp
  | fuel + 1 => do levelAfter l fuel (← below l fuel)

/-- Reads what binds more tightly than a level. -/
def below (l : Level) : (fuel : Nat) → Reading Expression
  | 0 => giveUp
  | fuel + 1 =>
    match l with
    | .either => level .both fuel
    | .both => level .isKey fuel
    | .isKey => level .matching fuel
    | .matching => level .comparison fuel
    | .comparison => level .join fuel
    | .join => level .sum fuel
    | .sum => level .product fuel
    | .product => unary fuel

/-- Reads what follows an expression at a level. -/
def levelAfter (l : Level) : (fuel : Nat) → Expression → Reading Expression
  | 0, a => return a
  | fuel + 1, a => do
    match l, ← peek with
    | .isKey, some (.keyword "in") =>
      drop
      let table ← expectTable
      levelAfter l fuel (.isKey [a] table)
    -- Two operands side by side are joined, without a sign between them.
    | .join, some t =>
      if startsOperand t then
        let b ← below l fuel
        levelAfter l fuel (.join a b)
      else return a
    | _, some (.sign s) =>
      match sign? l (← get).isPrinting s with
      | some f =>
        drop
        match l with
        -- Only behind these two may an expression go on in the next line.
        | .either | .both => dropNewlines
        | _ => pure ()
        let b ← below l fuel
        levelAfter l fuel (f a b)
      | none => return a
    | _, _ => return a

def unary : (fuel : Nat) → Reading Expression
  | 0 => giveUp
  | fuel + 1 => do
    match ← peek with
    | some (.sign "!") =>
      drop
      return .negation (← unary fuel)
    | some (.sign "-") =>
      drop
      return .negative (← unary fuel)
    | some (.sign "+") =>
      drop
      return .positive (← unary fuel)
    | _ => piped fuel (← raised fuel)

/-- Reads the requests for records of a command. -/
def piped : (fuel : Nat) → Expression → Reading Expression
  | 0, a => return a
  | fuel + 1, a => do
    match (← get).isPrinting, (← get).rest with
    | false, { token := .sign "|", .. } :: { token := .keyword "getline", .. } :: _ =>
      drop
      drop
      let p ← place? fuel
      piped fuel (.record .command (some a) p)
    | _, _ => return a

/-- Reads an expression that may be raised to a power. -/
def raised : (fuel : Nat) → Reading Expression
  | 0 => giveUp
  | fuel + 1 => do
    let a ← primary fuel
    if ← isSign "^" then
      drop
      -- The right operand is a power itself: raising associates to the right.
      let signs ← peek
      match signs with
      | some (.sign "-") =>
        drop
        return .operation .power a (.negative (← raised fuel))
      | some (.sign "+") =>
        drop
        return .operation .power a (← raised fuel)
      | some (.sign "!") =>
        drop
        return .operation .power a (.negation (← raised fuel))
      | _ => return .operation .power a (← raised fuel)
    return a

def place? : (fuel : Nat) → Reading (Option Place)
  | 0 => giveUp
  | fuel + 1 => do
    match ← peek with
    | some (.name r) =>
      drop
      if ← isSign "[" then
        drop
        noteTable r
        let keys ← inBrackets "]" (expressions fuel)
        return some (.element r keys)
      return some (.name r)
    | some (.sign "$") =>
      drop
      return some (.field (← fieldNumber fuel))
    | _ => return none

def fieldNumber : (fuel : Nat) → Reading Expression
  | 0 => giveUp
  | fuel + 1 => do
    match ← peek with
    | some (.sign "-") =>
      drop
      return .negative (← fieldNumber fuel)
    | some (.sign "+") => do
      drop
      return .positive (← fieldNumber fuel)
    | some (.sign "++") | some (.sign "--") => stepBefore fuel
    | some (.sign "(") =>
      drop
      inBrackets ")" (expression fuel)
    | _ =>
      match ← place? fuel with
      | some p =>
        -- Only the use of a name says whether it is a table, and all uses have to agree.
        if let .name r := p then notePlain r
        return .value p
      | none => primary fuel

def stepBefore : (fuel : Nat) → Reading Expression
  | 0 => giveUp
  | fuel + 1 => do
    let amount := if ← isSign "++" then 1 else -1
    drop
    match ← place? fuel with
    | some p =>
      if let .name r := p then notePlain r
      return .step amount true p
    | none => giveUp

def arguments : (fuel : Nat) → Reading (List Expression)
  | 0 => giveUp
  | fuel + 1 => inBrackets ")" do
    dropNewlines
    if ← isSign ")" then return [] else expressions fuel

def expressions : (fuel : Nat) → Reading (List Expression)
  | 0 => giveUp
  | fuel + 1 => do
    let e ← expression fuel
    if ← isSign "," then
      drop
      dropNewlines
      return e :: (← expressions fuel)
    return [e]

/-- Reads an expression without signs around it. -/
def primary : (fuel : Nat) → Reading Expression
  | 0 => giveUp
  | fuel + 1 => do
    match ← peek with
    | some (.number x) =>
      drop
      return .number x
    | some (.text r) =>
      drop
      return .text r
    | some (.pattern r) =>
      drop
      return .found r
    | some (.sign "++") | some (.sign "--") => stepBefore fuel
    | some (.sign "-") | some (.sign "+") | some (.sign "!") => unary fuel
    | some (.sign "(") =>
      drop
      -- Several values in brackets are the key of a table, and only `in` may follow.
      match ← inBrackets ")" (expressions fuel) with
      | [e] => return e
      | es =>
        if ← isKeyword "in" then
          drop
          return .isKey es (← expectTable)
        else giveUp
    | some (.callee name) =>
      let line ← lineHere
      drop
      drop
      let args ← arguments fuel
      for a in args do
        -- A name alone as an argument may be either; the function decides when it runs.
        if let .value (.element t _) := a then noteTable t
      modify fun s => { s with calls := (line, name, args.length) :: s.calls }
      return .call name args
    | some (.builtIn f) =>
      let line ← lineHere
      drop
      let args ← if ← isSign "(" then
          drop
          arguments fuel
        else if f = .length then pure []
        else giveUp
      let (least, most) := argumentCounts f
      if args.length < least || most < args.length then throw (.argumentCount line (nameOf f))
      match f, args with
      | .split, _ :: .value (.name t) :: _ => noteTable t
      | _, _ => pure ()
      return .builtIn f args
    | some (.keyword "getline") =>
      drop
      let p ← place? fuel
      if ← isSign "<" then
        drop
        return .record .file (some (← raised fuel)) p
      return .record .inputs none p
    | _ =>
      match ← place? fuel with
      | none => giveUp
      | some p =>
        match ← peek with
        | some (.sign "++") =>
          drop
          if let .name r := p then notePlain r
          return .step 1 false p
        | some (.sign "--") =>
          drop
          if let .name r := p then notePlain r
          return .step (-1) false p
        | some (.sign s) =>
          match assignment? s with
          | some o =>
            drop
            dropNewlines
            if let .name r := p then notePlain r
            return .assign o p (← expression fuel)
          | none => return .value p
        | _ => return .value p

end

/-! ## Statements -/

/-- Whether the brackets that are open here hold all that is printed. -/
def holdsAll (ws : List Lexeme) : Bool :=
  let rec go : (depth : Nat) → List Lexeme → Bool
    | _, [] => false
    | depth, w :: ws =>
      match w.token with
      | .sign "(" => go (depth + 1) ws
      | .sign ")" =>
        if depth ≤ 1 then
          match ws.head?.map Lexeme.token with
          | some .newline | none => true
          | some (.sign s) => [";", "\x7d", ">", ">>", "|"].contains s
          | _ => false
        else go (depth - 1) ws
      | _ => go depth ws
  go 0 ws

def printed (fuel : Nat) : Reading (List Expression × Option (Target × Expression)) := do
  modify fun s => { s with isPrinting := true }
  let isEnd := match ← peek with
    | none | some .newline => true
    | some (.sign s) => [";", "\x7d", ">", ">>", "|"].contains s
    | _ => false
  let args ← if isEnd then pure []
    else if (← isSign "(") && holdsAll (← get).rest then
      drop
      arguments fuel
    else expressions fuel
  let kind := match ← peek with
    | some (.sign ">") => some Target.file
    | some (.sign ">>") => some .append
    | some (.sign "|") => some .command
    | _ => none
  let target ← match kind with
    | some k =>
      drop
      pure (some (k, ← expression fuel))
    | none => pure none
  modify fun s => { s with isPrinting := false }
  return (args, target)

def terminator : Reading Unit := do
  match ← peek with
  | some .newline | some (.sign ";") => drop
  | some (.sign "\x7d") => pure ()
  | _ => giveUp

/-- Reads an expression up to the end of its statement, if there is one. -/
def optional (fuel : Nat) : Reading (Option Expression) := do
  match ← peek with
  | some .newline | some (.sign ";") | some (.sign "\x7d") | none => return none
  | _ => return some (← expression fuel)

/-- Notes names that stand alone in an expression. -/
def settled (e : Expression) : Reading Expression := do
  if let .value (.name r) := e then notePlain r
  return e

def simple (fuel : Nat) : Reading Statement := do
  let line ← lineHere
  match ← peek with
  | some (.keyword "print") =>
    drop
    let (args, target) ← printed fuel
    for a in args do discard <| settled a
    return .print args target
  | some (.keyword "printf") =>
    drop
    let (args, target) ← printed fuel
    if args.isEmpty then giveUp
    return .printf args target
  | some (.keyword "next") =>
    if !(← get).hasRecord then throw (.misplaced line "improper use of next")
    drop
    return .next
  | some (.keyword "nextfile") =>
    if !(← get).hasRecord then throw (.misplaced line "improper use of next")
    drop
    return .nextFile
  | some (.keyword "exit") =>
    drop
    return .exit (← optional fuel)
  | some (.keyword "return") =>
    if (← get).parameters.isNone then throw (.misplaced line "return outside function body")
    drop
    return .leave (← optional fuel)
  | some (.keyword "break") =>
    if (← get).loops = 0 then throw (.misplaced line "break statement outside of loop")
    drop
    return .stop
  | some (.keyword "continue") =>
    if (← get).loops = 0 then throw (.misplaced line "continue statement outside of loop")
    drop
    return .again
  | some (.keyword "delete") =>
    drop
    let table ← expectTable
    if ← isSign "[" then
      drop
      return .delete table (← inBrackets "]" (expressions fuel))
    return .delete table []
  | _ => return .run (← settled (← expression fuel))

def condition (fuel : Nat) : Reading Expression := do
  expect "("
  let e ← inBrackets ")" (expression fuel)
  settled e

mutual

def statement : (fuel : Nat) → Reading Statement
  | 0 => giveUp
  | fuel + 1 => do
    match ← peek with
    | some (.sign "\x7b") =>
      drop
      return .block (← body fuel)
    | some (.sign ";") | some .newline =>
      drop
      return .block []
    | some (.keyword "if") =>
      drop
      let c ← condition fuel
      dropNewlines
      let a ← statement fuel
      -- An `else` may follow on a later line; where there is none, the ends of lines stay.
      let here := (← get).rest
      dropSeparators
      if ← isKeyword "else" then
        drop
        dropNewlines
        return .branch c a (← statement fuel)
      modify fun s => { s with rest := here }
      return .branch c a (.block [])
    | some (.keyword "while") =>
      drop
      let c ← condition fuel
      dropNewlines
      return .loop false (some c) none (← inLoop fuel)
    | some (.keyword "do") =>
      drop
      dropNewlines
      let b ← inLoop fuel
      dropSeparators
      if !(← isKeyword "while") then giveUp
      drop
      let c ← condition fuel
      terminator
      return .loop true (some c) none b
    | some (.keyword "for") =>
      drop
      expect "("
      match (← get).rest with
      -- Four words tell a walk over the keys of a table from a loop that counts.
      | { token := .name k, .. } :: { token := .keyword "in", .. } :: { token := .name t, .. } ::
          { token := .sign ")", .. } :: rest =>
        notePlain k
        noteTable t
        modify fun s => { s with rest }
        dropNewlines
        return .each k t (← inLoop fuel)
      | _ =>
        let depth := (← get).depth
        modify fun s => { s with depth := 0 }
        let first ← optional fuel
        expect ";"
        dropNewlines
        let c ← optional fuel
        expect ";"
        dropNewlines
        let step ← if ← isSign ")" then pure none else pure (some (← expression fuel))
        expect ")"
        modify fun s => { s with depth }
        dropNewlines
        let b ← inLoop fuel
        let start : List Statement := match first with
          | some e => [.run e]
          | none => []
        return .block (start ++ [.loop false c step b])
    | _ =>
      let s ← simple fuel
      terminator
      return s

def inLoop : (fuel : Nat) → Reading Statement
  | 0 => giveUp
  | fuel + 1 => do
    modify fun s => { s with loops := s.loops + 1 }
    let b ← statement fuel
    modify fun s => { s with loops := s.loops - 1 }
    return b

/-- Reads statements up to a closing brace. -/
def body : (fuel : Nat) → Reading (List Statement)
  | 0 => giveUp
  | fuel + 1 => do
    dropSeparators
    if ← isSign "\x7d" then
      drop
      return []
    let s ← statement fuel
    return s :: (← body fuel)

end

/-! ## Rules -/

def action (fuel : Nat) : Reading (List Statement) := do
  expect "\x7b"
  body fuel

/-- Reads the parameters of a function. -/
def parameters : (fuel : Nat) → Reading (List Raw)
  | 0 => giveUp
  | fuel + 1 => do
    if ← isSign ")" then
      drop
      return []
    let name ← expectName
    if ← isSign "," then
      drop
      dropNewlines
    return name :: (← parameters fuel)

/-- Reads the rules and functions that are left. -/
def items : (fuel : Nat) → Script → Reading Script
  | 0, s => return s
  | fuel + 1, s => do
    dropSeparators
    match ← peek with
    | none => return s
    | some (.keyword "BEGIN") =>
      drop
      -- Neither before the first record nor after the last one can the next be asked for.
      modify fun c => { c with hasRecord := false }
      let b ← action fuel
      modify fun c => { c with hasRecord := true }
      items fuel { s with rules := s.rules ++ [{ trigger := .start, body := some b }] }
    | some (.keyword "END") =>
      drop
      modify fun c => { c with hasRecord := false }
      let b ← action fuel
      modify fun c => { c with hasRecord := true }
      items fuel { s with rules := s.rules ++ [{ trigger := .finish, body := some b }] }
    | some (.keyword "function") =>
      drop
      let name ← match ← peek with
        | some (.callee r) | some (.name r) =>
          drop
          pure r
        | _ => giveUp
      expect "("
      let ps ← parameters fuel
      dropNewlines
      modify fun c => { c with parameters := some ps }
      let b ← action fuel
      modify fun c => { c with parameters := none }
      items fuel { s with functions := s.functions ++ [{ name, parameters := ps, body := b }] }
    | some (.sign "\x7b") =>
      let b ← action fuel
      items fuel { s with rules := s.rules ++ [{ trigger := .always, body := some b }] }
    | some (.sign "\x7d") => throw (.extra (← lineHere) '\x7d')
    | _ =>
      let first ← settled (← expression fuel)
      let trigger ← if ← isSign "," then
          drop
          dropNewlines
          pure (Trigger.between first (← expression fuel))
        else pure (.when first)
      let b ← if ← isSign "\x7b" then some <$> action fuel
        else
          match ← peek with
          | some .newline | some (.sign ";") => drop
          | _ => giveUp
          pure none
      items fuel { s with rules := s.rules ++ [{ trigger, body := b }] }

/-- The calls of functions that cannot be made. -/
def badCall? (s : Script) (lastLine : Nat) (calls : List (Nat × Raw × Nat)) : Option Mistake :=
  calls.reverse.findSome? fun (line, name, count) =>
    match s.functions.find? (·.name = name) with
    | none => some (.undefined lastLine name)
    | some f => if f.parameters.length < count then some (.tooManyArguments line name) else none

/-- The script in a text. -/
def readScript (r : Raw) : Except Mistake Script := do
  let ws ← words r
  let lastLine := (ws.getLast?.map fun w => w.line + 1).getD 1
  -- Each word is looked at once at every level of binding.
  let (s, c) ← (items (40 * r.length + 100) {}).run { rest := ws, lastLine }
  match badCall? s lastLine c.calls with
  | some m => throw m
  | none => return s

end Buildwatch.Machine.Rules
