import Buildwatch.Machine.Shell.Script

/-!
# The grammar of the shell

Reading commands from a script. A script is read one line of commands at a time, so
that what stands before a mistake is still carried out.
-/

namespace Buildwatch.Machine.Grammar

abbrev Reading := StateT Script (Except SyntaxError)

def fail {α : Type} (reason : String) : Reading α := do
  let s ← get
  throw { line := s.line, reason := Raw.ascii reason }

/-! ## Characters and tokens -/

/-- Whether a character ends an unquoted word. -/
def endsWord (c : Char) : Bool := " \t\n|&;<>()".toList.contains c

/-- Whether a character makes a word more than plain text. -/
def isSpecial (c : Char) : Bool := "'\"\\$\x60".toList.contains c

/-- Takes the next character, counting lines. -/
def takeChar (c : Char) : Reading Unit :=
  modify fun s =>
    -- The lines of a here-document were taken out ahead of this line end.
    if c = '\n' then { s with rest := s.rest.drop 1, line := s.line + 1 + s.skipped, skipped := 0 }
    else { s with rest := s.rest.drop 1 }

/-- Drops blanks, continued line ends and comments. -/
def dropBlanks : Raw → Nat → Raw × Nat
  | [], n => ([], n)
  | '\\' :: '\n' :: r, n => dropBlanks r (n + 1)
  | '#' :: r, n => (r.dropWhile (· ≠ '\n'), n)
  | c :: r, n => if Raw.isBlank c then dropBlanks r n else (c :: r, n)

def skipBlanks : Reading Unit :=
  modify fun s =>
    let (rest, n) := dropBlanks s.rest 0
    { s with rest, line := s.line + n }

/-- The operators, longer ones before their beginnings. -/
def operators : List Raw :=
  ["&&", "||", ";;", "<<-", "<<", ">>", "<&", ">&", "<>", ">|", "&", "|", ";", "<", ">", "(", ")",
    "\n"].map Raw.ascii

/-- The operator that comes next, if one does. -/
def peekOperator : Reading Raw := do
  skipBlanks
  let s ← get
  return (operators.find? (Raw.startsWith · s.rest)).getD []

def takeOperator (o : Raw) : Reading Unit := o.forM takeChar

def skipLines : (fuel : Nat) → Reading Unit
  | 0 => return
  | fuel + 1 => do
    if (← peekOperator) = ['\n'] then
      takeChar '\n'
      skipLines fuel

/-- The plain word that comes next, if one does; reserved words are such words. -/
def peekWord : Reading Raw := do
  skipBlanks
  let s ← get
  let word := s.rest.takeWhile fun c => !endsWord c && !isSpecial c
  match s.rest.drop word.length with
  | c :: _ => return if isSpecial c then [] else word
  | [] => return word

/-- Whether a word is one that the shell itself gives a meaning. -/
def isReserved (word : Raw) : Bool :=
  ["!", "\x7b", "\x7d", "case", "do", "done", "elif", "else", "esac", "fi", "for", "if", "in", "then",
    "until", "while"].contains (String.ofList word)

def peekName : Reading String := do
  match ← peekOperator with
  | [] =>
    if (← get).rest = [] then return "end of file"
    let word ← peekWord
    return if isReserved word then "\"" ++ String.ofList word ++ "\"" else "word"
  | ['\n'] => return "newline"
  | '<' :: _ | '>' :: _ => return "redirection"
  | o => return "\"" ++ String.ofList o ++ "\""

def unexpected {α : Type} : Reading α := do fail ((← peekName) ++ " unexpected")

def expecting {α : Type} (what : String) : Reading α := do
  fail ((← peekName) ++ " unexpected (expecting \"" ++ what ++ "\")")

def takeReserved (word : String) : Reading Unit := do
  if (← peekWord) = Raw.ascii word then word.toList.forM takeChar else expecting word

/-- The built-in commands whose mistakes end the shell, and that keep variables that are set in
front of them. -/
def specialBuiltIns : List String :=
  [":", ".", "break", "continue", "eval", "exec", "exit", "export", "local", "readonly", "return",
    "set", "shift", "times", "trap", "unset"]

/-- Replaces the word that comes next if it is an alias that is not being read already. -/
def substitute : (fuel : Nat) → Reading Unit
  | 0 => return
  | fuel + 1 => do
    let word ← peekWord
    let s ← get
    -- An alias is being read while less of the script is left than before it.
    let isOpen := s.substitutes.any fun u => u.name = word && u.left < s.rest.length
    match if word = [] || isOpen then none else s.aliases.lookup word with
    | none => return
    | some text =>
      let left := s.rest.length - word.length
      let entry : Substitute := { name := word, left, opensNext := text.getLast?.any Raw.isBlank }
      set { s with rest := text ++ s.rest.drop word.length, substitutes := entry :: s.substitutes }
      substitute fuel

/-- Replaces the word that comes next if the text of an alias before it asks for that. -/
def substituteNext (fuel : Nat) : Reading Unit := do
  skipBlanks
  let s ← get
  let (closed, others) := s.substitutes.partition fun u => s.rest.length ≤ u.left
  if !closed.isEmpty then
    set { s with substitutes := others }
    if closed.any (·.opensNext) then substitute fuel

/-- The words that end a list of commands. -/
def closing : List Raw := ["then", "else", "elif", "fi", "do", "done", "esac", "\x7d"].map Raw.ascii

/-! ## Words -/

/-- What part of a script is being read as a word. -/
inductive Mode
  | bare
  | quotes
  | braces (inQuotes : Bool)
  /-- A whole text in which only expansions are seen. -/
  | text
  deriving DecidableEq

namespace Mode

def inQuotes : Mode → Bool
  | bare => false
  | quotes => true
  | braces q => q
  | text => true

def endsAt (m : Mode) (c : Char) : Bool :=
  match m with
  | bare => endsWord c
  | quotes => c = '"'
  | braces _ => c = '\x7d'
  | text => false

/-- Whether a backslash takes the meaning from a character. -/
def escapes (m : Mode) (c : Char) : Bool :=
  match m with
  | quotes => "$\x60\"\\".toList.contains c
  | braces _ => "$\x60\"\\\x7d".toList.contains c
  | _ => "$\x60\\".toList.contains c

end Mode

def joinParts : List Part → List Part
  | .plain a :: ps =>
    match joinParts ps with
    | .plain b :: ps => .plain (a ++ b) :: ps
    | ps => .plain a :: ps
  | .quoted a :: ps =>
    match joinParts ps with
    | .quoted b :: ps => .quoted (a ++ b) :: ps
    | ps => .quoted a :: ps
  | p :: ps => p :: joinParts ps
  | [] => []

def takeSingle : (fuel : Nat) → Raw → Reading Raw
  | 0, _ => fail "Unterminated quoted string"
  | fuel + 1, acc => do
    match (← get).rest with
    | [] => fail "Unterminated quoted string"
    | c :: _ =>
      takeChar c
      if c = '\'' then return acc.reverse else takeSingle fuel (c :: acc)

/-- Takes the text up to a closing backquote, with the backslashes resolved that it needs. -/
def takeBackquoted (inQuotes : Bool) : (fuel : Nat) → Raw → Reading Raw
  | 0, _ => fail "EOF in backquote substitution"
  | fuel + 1, acc => do
    match (← get).rest with
    | [] => fail "EOF in backquote substitution"
    | '\x60' :: _ => do
      takeChar '\x60'
      return acc.reverse
    | '\\' :: c :: _ => do
      takeChar '\\'
      takeChar c
      if c = '\n' then takeBackquoted inQuotes fuel acc
      else if "$\x60\\".toList.contains c || (inQuotes && c = '"') then takeBackquoted inQuotes fuel (c :: acc)
      -- Before any other character the backslash is text of the inner script.
      else takeBackquoted inQuotes fuel (c :: '\\' :: acc)
    | c :: _ => do
      takeChar c
      takeBackquoted inQuotes fuel (c :: acc)

/-- Takes an arithmetic expression up to its two closing brackets. -/
def takeArithmetic : (fuel depth : Nat) → Raw → Reading Raw
  | 0, _, _ => fail "Missing '))'"
  | fuel + 1, depth, acc => do
    match (← get).rest, depth with
    | [], _ => fail "Missing '))'"
    -- Brackets of the expression itself close before the two that end it.
    | ')' :: ')' :: _, 0 => do
      takeChar ')'
      takeChar ')'
      return acc.reverse
    | c :: _, depth => do
      takeChar c
      let depth := if c = '(' then depth + 1 else if c = ')' then depth - 1 else depth
      takeArithmetic fuel depth (c :: acc)

/-- Takes the lines of a text in the script, up to its last line. Where that is missing, all
that is left is the text. -/
def takeHereText (dropTabs : Bool) (last : Raw) : List Raw → Raw × List Raw × Nat
  | [] => ([], [], 0)
  | line :: ls =>
    let line := if dropTabs then line.dropWhile (· = '\t') else line
    if line = last then ([], ls, 1)
    else
      let (body, rest, count) := takeHereText dropTabs last ls
      (if ls.isEmpty then line else line ++ '\n' :: body, rest, count + 1)

/-- The text of a word without its quotes, and whether it had any. -/
def wordText (w : Word) : Raw × Bool :=
  w.foldl (fun (text, quoted) part =>
    match part with
    | .plain s => (text ++ s, quoted)
    | .quoted s => (text ++ s, true)
    | _ => (text, quoted)) ([], false)

/-- The characters that are names of parameters by themselves. -/
def isParameterSign (c : Char) : Bool := "@*#?-$!".toList.contains c

/-- Takes a name, or the sign or digits of a special parameter. -/
def takeParameterName (digits : Bool) : Reading Raw := do
  let name := match (← get).rest with
    | c :: r =>
      if Raw.isLetter c then c :: r.takeWhile fun c => Raw.isLetter c || Raw.isDigit c
      else if Raw.isDigit c then if digits then c :: r.takeWhile Raw.isDigit else [c]
      else if isParameterSign c then [c]
      else []
    | [] => []
  name.forM takeChar
  return name

def assignment? : Word → Option (Raw × Word)
  | .plain s :: ps =>
    let name := s.takeWhile (· ≠ '=')
    match s.drop name.length, name with
    | '=' :: value, c :: _ =>
      if Raw.isLetter c && name.all fun c => Raw.isLetter c || Raw.isDigit c then
        some (name, if value = [] then ps else .plain value :: ps)
      else none
    | _, _ => none
  | _ => none

def sequenceOf : List Command → Option Command
  | [] => none
  | [c] => some c
  | c :: cs => (sequenceOf cs).map (.sequence c) |>.or (some c)

/-- Commands that must not be missing; at the end of the script the word after them is
what is missing. -/
def orUnexpected (read : Reading (Option Command)) : Reading Command := do
  match ← read with
  | some c => return c
  | none => if (← get).rest = [] then return default else unexpected

def redirectionNumber : Reading (Option (Option Nat)) := do
  let o ← peekOperator
  if o.head? = some '<' || o.head? = some '>' then return some none
  match (← get).rest with
  | d :: c :: _ =>
    if Raw.isDigit d && (c = '<' || c = '>') then
      takeChar d
      return some (some (Raw.digitValue d))
    else return none
  | _ => return none

mutual

/-- Reads parts up to where the mode ends; what ends it is left. -/
def parts (m : Mode) : (fuel : Nat) → Reading (List Part)
  | 0 => fail "script too long"
  | fuel + 1 => do
    match (← get).rest with
    | [] =>
      match m with
      | .bare | .text => return []
      | .quotes => fail "Unterminated quoted string"
      | .braces inQuotes =>
        fail (if inQuotes then "Unterminated quoted string" else "Missing '\x7d'")
    | '\\' :: r =>
      takeChar '\\'
      match r with
      | [] => if m = .quotes then fail "Unterminated quoted string" else return [.quoted ['\\']]
      | '\n' :: _ => do
        takeChar '\n'
        parts m fuel
      | c :: _ => do
        takeChar c
        let text := if m.inQuotes && !m.escapes c then ['\\', c] else [c]
        return .quoted text :: (← parts m fuel)
    | c :: _ =>
      if m.endsAt c then return []
      else if c = '\'' && !m.inQuotes then do
        takeChar c
        let text ← takeSingle fuel []
        return .quoted text :: (← parts m fuel)
      else if c = '"' && m ≠ .text then do
        takeChar c
        let inner ← parts .quotes fuel
        takeChar '"'
        return (if inner.isEmpty then [.quoted []] else inner) ++ (← parts m fuel)
      else if c = '$' then do
        takeChar c
        let part ← expansion m.inQuotes fuel
        return part :: (← parts m fuel)
      else if c = '\x60' then do
        takeChar c
        let text ← takeBackquoted (m.inQuotes && m ≠ .text) fuel []
        let after ← get
        -- A backquoted script is cut out first and read on its own, so that its end is
        -- an end of file; the outer one goes on behind it.
        set { Script.ofRaw text with aliases := after.aliases }
        let inner ← commands false fuel
        if (← get).rest ≠ [] then unexpected
        set after
        return .output m.inQuotes (inner.getD default) :: (← parts m fuel)
      else do
        takeChar c
        return (if m.inQuotes then .quoted [c] else .plain [c]) :: (← parts m fuel)

def expansion (inQuotes : Bool) : (fuel : Nat) → Reading Part
  | 0 => fail "script too long"
  | fuel + 1 => do
    match (← get).rest with
    | '\x7b' :: _ => do
      takeChar '\x7b'
      braced inQuotes fuel
    -- Two brackets are always arithmetic, never a subshell within an output.
    | '(' :: '(' :: _ => do
      takeChar '('
      takeChar '('
      let text ← takeArithmetic fuel 0 []
      let after ← get
      set (Script.ofRaw text)
      let inner ← parts .text fuel
      set after
      return .arithmetic inQuotes (joinParts inner)
    | '(' :: _ => do
      takeChar '('
      -- An output in brackets is read in place: its end is found by reading it.
      let inner ← commands false fuel
      if (← peekOperator) ≠ [')'] then expecting ")"
      takeChar ')'
      return .output inQuotes (inner.getD default)
    | _ => do
      let name ← takeParameterName false
      if name = [] then return if inQuotes then .quoted ['$'] else .plain ['$']
      else return .parameter inQuotes name .plain

def braced (inQuotes : Bool) : (fuel : Nat) → Reading Part
  | 0 => fail "script too long"
  | fuel + 1 => do
    let unfinished : Reading Part :=
      fail (if inQuotes then "Unterminated quoted string" else "Missing '\x7d'")
    -- What stands before the bracket without meaning is passed over.
    let close (part : Part) : Reading Part := do
      match (← get).rest with
      | '\x7d' :: _ =>
        takeChar '\x7d'
        return part
      | _ =>
        discard <| parts (.braces inQuotes) fuel
        if (← get).rest = [] then unfinished
        else
          takeChar '\x7d'
          return .parameter inQuotes [] .bad
    match (← get).rest with
    -- A length, unless the sign is itself the parameter.
    | '#' :: c :: r =>
      if Raw.isLetter c || Raw.isDigit c || (isParameterSign c && c ≠ '#') ||
          (c = '#' && r.head? = some '\x7d') then do
        takeChar '#'
        let name ← takeParameterName true
        return ← close (.parameter inQuotes name .length)
    | _ => pure ()
    let name ← takeParameterName true
    if name = [] then return ← close (.parameter inQuotes [] .bad)
    let colon ← match (← get).rest with
      | ':' :: _ => do
        takeChar ':'
        pure true
      | _ => pure false
    let word (treatment : Word → Treatment Word) : Reading Part := do
      let w ← parts (.braces inQuotes) fuel
      close (.parameter inQuotes name (treatment (joinParts w)))
    -- The characters of a pattern keep their meaning in quotes.
    let pattern (treatment : Word → Treatment Word) : Reading Part := do
      let w ← parts (.braces false) fuel
      close (.parameter inQuotes name (treatment (joinParts w)))
    match (← get).rest, colon with
    | '-' :: _, _ => do
      takeChar '-'
      word (.orElse colon)
    | '=' :: _, _ => do
      takeChar '='
      word (.orAssign colon)
    | '?' :: _, _ => do
      takeChar '?'
      word (.orFail colon)
    | '+' :: _, _ => do
      takeChar '+'
      word (.andThen colon)
    | '%' :: '%' :: _, false => do
      takeChar '%'
      takeChar '%'
      pattern (.dropBack true)
    | '%' :: _, false => do
      takeChar '%'
      pattern (.dropBack false)
    | '#' :: '#' :: _, false => do
      takeChar '#'
      takeChar '#'
      pattern (.dropFront true)
    | '#' :: _, false => do
      takeChar '#'
      pattern (.dropFront false)
    | '\x7d' :: _, true => fail "Missing '\x7d'"
    | _, true =>
      discard <| close (.parameter inQuotes [] .bad)
      return .parameter inQuotes [] .bad
    | _, false => close (.parameter inQuotes name .plain)

/-- Reads a redirection after its number. -/
def redirection (number : Option Nat) : (fuel : Nat) → Reading Redirection
  | 0 => fail "script too long"
  | fuel + 1 => do
    let o ← peekOperator
    takeOperator o
    let operator := String.ofList o
    let standard := if o.head? = some '<' then 0 else 1
    let number := number.getD standard
    skipBlanks
    let w := joinParts (← parts .bare fuel)
    if w.isEmpty then unexpected
    if operator = "<<" || operator = "<<-" then
      let (last, isQuoted) := wordText w
      let s ← get
      let line := s.rest.takeWhile (· ≠ '\n')
      -- The text is on the lines after this one, and the rest of this line comes first.
      let (text, rest, count) := takeHereText (operator = "<<-") last
        (Text.cutLines (s.rest.drop (line.length + 1)))
      let after : Script :=
        { s with rest := line ++ '\n' :: Text.joinLines rest, skipped := s.skipped + count }
      if isQuoted then
        set after
        return .here number [.quoted text]
      else
        set { Script.ofRaw text with aliases := after.aliases }
        let inner ← parts .text fuel
        set after
        return .here number (joinParts inner)
    else
      let direction : Direction := match operator with
        | "<" => .input
        | ">>" => .append
        | "<>" => .both
        | ">|" => .replace
        | ">&" | "<&" => .duplicate
        | _ => .output
      return .file number direction w

def redirections : (fuel : Nat) → Reading (List Redirection)
  | 0 => fail "script too long"
  | fuel + 1 => do
    match ← redirectionNumber with
    | some number => do
      let r ← redirection number fuel
      return r :: (← redirections fuel)
    | none => return []

/-- Reads a simple command, or a definition. -/
def simple : (fuel : Nat) → Nat → List (Raw × Word) → List Word → List Redirection → Reading Command
  | 0, _, _, _, _ => fail "script too long"
  | fuel + 1, line, assignments, words, redirs => do
    -- Only the first word may be an alias, or one that an alias asks for.
    if words.isEmpty then substitute 100 else substituteNext 100
    match ← redirectionNumber with
    | some number => do
      let r ← redirection number fuel
      simple fuel line assignments words (r :: redirs)
    | none =>
      let o ← peekOperator
      -- A name and an empty pair of brackets define a function.
      if o = ['('] && words.length = 1 && assignments.isEmpty then
        takeChar '('
        match ← peekOperator with
        | [')'] => takeChar ')'
        | [] =>
          if (← get).rest = [] then expecting ")"
          else fail "word unexpected (expecting \")\")"
        | _ => expecting ")"
        let name := words.head?.map (wordText · |>.1) |>.getD []
        if !(name.head?.any Raw.isLetter && name.all fun c => Raw.isLetter c || Raw.isDigit c) ||
            specialBuiltIns.contains (String.ofList name) then fail "Bad function name"
        skipLines fuel
        let body ← command fuel
        return .definition name body
      if o ≠ [] || (← get).rest = [] then
        if words.isEmpty && assignments.isEmpty && redirs.isEmpty then unexpected
        return .simple line assignments.reverse words.reverse redirs.reverse
      let w := joinParts (← parts .bare fuel)
      match assignment? w, words with
      -- After the first word what looks like an assignment is an argument.
      | some a, [] => simple fuel line (a :: assignments) words redirs
      | _, _ => simple fuel line assignments (w :: words) redirs

/-- Reads commands up to a closing word or bracket, or, on the top level, to the end
of a line. -/
def commands (top : Bool) : (fuel : Nat) → Reading (Option Command)
  | 0 => fail "script too long"
  | fuel + 1 => do
    if !top then skipLines fuel
    let o ← peekOperator
    if (← get).rest = [] || o = [')'] || o = Raw.ascii ";;" || o = ['\n'] then return none
    if closing.contains (← peekWord) then return none
    let c ← andOr fuel
    let o ← peekOperator
    if o = ['&'] then
      takeChar '&'
      let rest ← commands top fuel
      return sequenceOf (.background c :: rest.toList)
    -- On the top level a line end ends the reading, so that the line is carried out.
    if o = [';'] || (o = ['\n'] && !top) then
      takeOperator o
      let rest ← commands top fuel
      return sequenceOf (c :: rest.toList)
    return some c

def andOr : (fuel : Nat) → Reading Command
  | 0 => fail "script too long"
  | fuel + 1 => do
    let c ← pipeline fuel
    andOrAfter c fuel

def andOrAfter (c : Command) : (fuel : Nat) → Reading Command
  | 0 => fail "script too long"
  | fuel + 1 => do
    let o ← peekOperator
    if o = Raw.ascii "&&" || o = Raw.ascii "||" then
      takeOperator o
      skipLines fuel
      let d ← pipeline fuel
      andOrAfter (if o = Raw.ascii "&&" then .both c d else .either c d) fuel
    else return c

def pipeline : (fuel : Nat) → Reading Command
  | 0 => fail "script too long"
  | fuel + 1 => do
    let isNegated := (← peekWord) = ['!']
    if isNegated then takeChar '!'
    let c ← command fuel
    let c := match ← pipelineAfter fuel with
      | [] => c
      | cs => .pipeline (c :: cs)
    return if isNegated then .negated c else c

def pipelineAfter : (fuel : Nat) → Reading (List Command)
  | 0 => fail "script too long"
  | fuel + 1 => do
    if (← peekOperator) = ['|'] then
      takeChar '|'
      skipLines fuel
      let c ← command fuel
      return c :: (← pipelineAfter fuel)
    else return []

def command : (fuel : Nat) → Reading Command
  | 0 => fail "script too long"
  | fuel + 1 => do
    let compound (c : Command) : Reading Command := do
      match ← redirections fuel with
      | [] => return c
      | rs => return .redirected c rs
    if (← peekOperator) = ['('] then
      takeChar '('
      let c ← orUnexpected (commands false fuel)
      if (← peekOperator) ≠ [')'] then expecting ")"
      takeChar ')'
      return ← compound (.subshell c)
    if !isReserved (← peekWord) then substitute 100
    match String.ofList (← peekWord) with
    | "\x7b" =>
      takeReserved "\x7b"
      let c ← orUnexpected (commands false fuel)
      takeReserved "\x7d"
      compound c
    | "if" =>
      takeReserved "if"
      let c ← branch fuel
      compound c
    | "while" =>
      takeReserved "while"
      let test ← orUnexpected (commands false fuel)
      takeReserved "do"
      let body ← orUnexpected (commands false fuel)
      takeReserved "done"
      compound (.loop false test body)
    | "until" =>
      takeReserved "until"
      let test ← orUnexpected (commands false fuel)
      takeReserved "do"
      let body ← orUnexpected (commands false fuel)
      takeReserved "done"
      compound (.loop true test body)
    | "for" =>
      takeReserved "for"
      skipBlanks
      let name ← takeParameterName false
      if !name.head?.any Raw.isLetter then fail "Bad for loop variable"
      skipLines fuel
      let words ← if (← peekWord) = Raw.ascii "in" then do
          takeReserved "in"
          let words ← wordList fuel
          pure (some words)
        else pure none
      if (← peekOperator) = [';'] then takeChar ';'
      skipLines fuel
      takeReserved "do"
      let body ← orUnexpected (commands false fuel)
      takeReserved "done"
      compound (.each name words body)
    | "case" =>
      takeReserved "case"
      skipBlanks
      let w := joinParts (← parts .bare fuel)
      skipLines fuel
      takeReserved "in"
      let arms ← arms fuel
      takeReserved "esac"
      compound (.cases w arms)
    | word =>
      if closing.contains word.toList || word = "!" || word = "in" then unexpected
      simple fuel (← get).line [] [] []

def wordList : (fuel : Nat) → Reading (List Word)
  | 0 => fail "script too long"
  | fuel + 1 => do
    if (← peekOperator) ≠ [] || (← get).rest = [] then return []
    let w := joinParts (← parts .bare fuel)
    return w :: (← wordList fuel)

def branch : (fuel : Nat) → Reading Command
  | 0 => fail "script too long"
  | fuel + 1 => do
    let test ← orUnexpected (commands false fuel)
    takeReserved "then"
    let consequence ← orUnexpected (commands false fuel)
    match String.ofList (← peekWord) with
    | "elif" =>
      takeReserved "elif"
      let alternative ← branch fuel
      return .branch test consequence (some alternative)
    | "else" =>
      takeReserved "else"
      let alternative ← orUnexpected (commands false fuel)
      takeReserved "fi"
      return .branch test consequence (some alternative)
    | _ =>
      takeReserved "fi"
      return .branch test consequence none

/-- Reads the arms of a case distinction. -/
def arms : (fuel : Nat) → Reading (List (List Word × Option Command))
  | 0 => fail "script too long"
  | fuel + 1 => do
    skipLines fuel
    if (← peekWord) = Raw.ascii "esac" then return []
    if (← peekOperator) = ['('] then takeChar '('
    let patterns ← patterns fuel
    if (← peekOperator) ≠ [')'] then expecting ")"
    takeChar ')'
    let body ← commands false fuel
    skipLines fuel
    if (← peekOperator) = Raw.ascii ";;" then
      takeOperator (Raw.ascii ";;")
      return (patterns, body) :: (← arms fuel)
    else if (← peekWord) = Raw.ascii "esac" then return [(patterns, body)]
    else expecting ";;"

def patterns : (fuel : Nat) → Reading (List Word)
  | 0 => fail "script too long"
  | fuel + 1 => do
    skipBlanks
    let w := joinParts (← parts .bare fuel)
    if w.isEmpty && (← get).rest ≠ [] then unexpected
    if (← peekOperator) = ['|'] then
      takeChar '|'
      return w :: (← patterns fuel)
    else return [w]

end

/-- Reads the next line of commands; there may be none on it. -/
def nextLine (s : Script) : Except SyntaxError (Option Command × Script) :=
  -- Each character is looked at by a few calls of the readers at most.
  let fuel := 4 * s.rest.length + 100
  (do
    skipLines fuel
    let c ← commands true fuel
    let o ← peekOperator
    if o = ['\n'] then
      takeChar '\n'
      return c
    else if (← get).rest = [] then return c
    else unexpected : Reading (Option Command)).run s

/-- A text in which only expansions are seen. -/
def textWord (r : Raw) : Except SyntaxError Word :=
  ((do return joinParts (← parts .text (4 * r.length + 100)) : Reading Word).run (.ofRaw r)).map (·.1)

/-- The script after its blank lines. -/
def isFinished (s : Script) : Bool :=
  (dropBlanks s.rest 0).1.dropWhile Raw.isSpace = []

end Buildwatch.Machine.Grammar
