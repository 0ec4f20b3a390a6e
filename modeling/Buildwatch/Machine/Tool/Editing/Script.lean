import Buildwatch.Machine.Tool.Regex

/-!
# Scripts for editing streams

Commands with addresses that are applied to each line in turn, and how they are written.
-/

namespace Buildwatch.Machine.Editing

/-! ## Commands -/

/-- An expression with the manner in which it is searched for. Without one the last expression
that was used is meant. -/
abbrev Pattern? := Option Regex.Search

/-- Which lines are meant. -/
inductive Address
  | line (n : Nat)
  /-- Every so many lines, from one of them on. -/
  | every (first step : Nat)
  | last
  | matching (e : Pattern?)
  /-- So many lines behind the first one. -/
  | plus (n : Nat)
  /-- The next line whose number can be divided by this. -/
  | multiple (n : Nat)

/-- A part of a replacement. -/
inductive Piece
  | text (r : Raw)
  | group (n : Nat)
  /-- Letters become large or small from here on, or are left alone. -/
  | letters (toUpper : Option Bool)
  /-- The next letter becomes large or small. -/
  | oneLetter (toUpper : Bool)

structure Substitution where
  expression : Pattern?
  pieces : List Piece
  /-- Whether all matches are replaced, from the one with this number on. -/
  all : Bool := false
  number : Option Nat := none
  prints : Bool := false
  /-- Whether the result is run as a command. -/
  runs : Bool := false
  file : Option Raw := none

inductive Action
  | substitute (s : Substitution)
  | exchangeChars (source target : Raw)
  | delete
  | deleteFirst
  | print
  | printFirst
  | quit (quietly : Bool) (status : Nat)
  | next
  | appendNext
  | hold (adds : Bool)
  | fetch (adds : Bool)
  | exchange
  | empty
  | number
  | name
  | list (width : Option Nat)
  | after (text : Raw)
  | before (text : Raw)
  | change (text : Raw)
  | readFile (name : Raw)
  | readLine (name : Raw)
  | writeTo (name : Raw)
  | writeFirstTo (name : Raw)
  | run (command : Raw)
  | label (name : Raw)
  | branch (name : Raw)
  | branchIf (name : Raw)
  | branchUnless (name : Raw)
  /-- What follows up to the end of the block is for the same lines. -/
  | openBlock
  | closeBlock
  | nothing

/-- A command: an action for the lines between two addresses, or outside of them. -/
structure Command where
  first : Option Address := none
  second : Option Address := none
  isNegated : Bool := false
  action : Action

/-! ## Reading -/

/-- A piece of a script: the text of an argument, or a file. -/
inductive Origin
  | argument (number : Nat)
  | file (name : Raw)
  deriving DecidableEq

/-- What is to be read. -/
structure Cursor where
  origin : Origin
  rest : Raw
  /-- How many characters have been read, and on which line. -/
  count : Nat := 0
  line : Nat := 1
  extended : Bool

/-- Reading a script; what is wrong with it is said with the place. -/
abbrev Reading := StateT Cursor (Except Raw)

/-- What is said about a mistake at a place. -/
def located (origin : Origin) (count line : Nat) (reason : Raw) : Raw :=
  match origin with
  | .argument n =>
    Raw.ascii "-e expression #" ++ Raw.ofNat n ++ Raw.ascii ", char " ++ Raw.ofNat count ++ Raw.ascii ": " ++ reason
  | .file name =>
    Raw.ascii "file " ++ name ++ Raw.ascii " line " ++ Raw.ofNat line ++ Raw.ascii ": " ++ reason

def fail {α : Type} (reason : String) : Reading α := do
  let c ← get
  throw (located c.origin c.count c.line (Raw.ascii reason))

def char? : Reading (Option Char) := do
  let c ← get
  match c.rest with
  | [] => return none
  | ch :: rest =>
    set { c with rest, count := c.count + 1, line := if ch = '\n' then c.line + 1 else c.line }
    return some ch

def giveBack (ch : Option Char) : Reading Unit := do
  match ch with
  | some ch =>
    modify fun c => { c with
      rest := ch :: c.rest, count := c.count - 1, line := if ch = '\n' then c.line - 1 else c.line }
  | none => pure ()

/-- Takes characters as long as they are of a kind. -/
def takeWhile (isMeant : Char → Bool) : Reading Raw := do
  let c ← get
  let taken := c.rest.takeWhile isMeant
  set { c with
    rest := c.rest.drop taken.length, count := c.count + taken.length
    line := c.line + taken.count '\n' }
  return taken

def filled? : Reading (Option Char) := do
  discard <| takeWhile Raw.isBlank
  char?

def number : Reading Nat := do
  let digits ← takeWhile Raw.isDigit
  return (Raw.takeDigits 10 digits.length 0 digits).1

def endOfCommand : Reading Unit := do
  let ch ← filled?
  match ch with
  | some '\x7d' | some '#' => giveBack ch
  | none | some '\n' | some ';' => pure ()
  | some _ => fail "extra characters after command"

/-- The number of characters that a set takes up behind its opening bracket. -/
def setLength (r : Raw) : Nat :=
  let rec go : (fuel : Nat) → Raw → Nat
    | 0, _ => 0
    | _, [] => 0
    | fuel + 1, '[' :: c :: r =>
      if c = ':' || c = '.' || c = '=' then
        let rec close : Raw → Option Nat
          | a :: ']' :: rest => if a = c then some 2 else (close (']' :: rest)).map (· + 1)
          | _ :: rest => (close rest).map (· + 1)
          | [] => none
        match close r with
        | some n => n + 2 + go fuel (r.drop n)
        | none => 1 + go fuel (c :: r)
      else 1 + go fuel (c :: r)
    | fuel + 1, c :: r => if c = ']' then 1 else 1 + go fuel r
  -- A closing bracket right at the start is a member of the set.
  let front := match r with
    | '^' :: ']' :: _ => 2
    | '^' :: _ => 1
    | ']' :: _ => 1
    | _ => 0
  front + go (r.length + 1) (r.drop front)

/-- Takes text up to a delimiter, which an escaped one is not. In an expression neither is one
in a set. -/
def upTo (delimiter : Char) (isExpression : Bool) : (fuel : Nat) → Reading (Option Raw)
  | 0 => return none
  | fuel + 1 => do
    match ← char? with
    | none => return none
    | some ch =>
      let more (piece : Raw) : Reading (Option Raw) := do
        return (← upTo delimiter isExpression fuel).map (piece ++ ·)
      if ch = delimiter then return some []
      else if ch = '\n' && isExpression then
        giveBack (some ch)
        return none
      else if ch = '\\' then
        match ← char? with
        | none => return none
        | some c =>
          -- An escaped delimiter stands for itself, but an escaped `&` stays escaped.
          if c = delimiter && !(!isExpression && c = '&') then more [c]
          else if c = 'n' && isExpression then more ['\n']
          else if c = '\n' && isExpression then more [c]
          else more ['\\', c]
      else if ch = '[' && isExpression then
        let size := setLength (← get).rest
        let taken := (← get).rest.take size
        modify fun c => { c with rest := c.rest.drop size, count := c.count + size }
        let rec unescaped : Raw → Raw
          | '\\' :: 'n' :: r => '\n' :: unescaped r
          | '\\' :: ']' :: r => '\\' :: ']' :: unescaped r
          | c :: r => c :: unescaped r
          | [] => []
        more ('[' :: unescaped taken)
      else more [ch]

/-- Replaces escapes for characters. In an expression a character keeps its meaning, and elsewhere
one that would mean something keeps a backslash. -/
def unescape (isExpression : Bool) : (fuel : Nat) → Raw → Raw
  | 0, _ => []
  | fuel + 1, '\\' :: c :: r =>
    let put (n : Nat) (rest : Raw) : Raw :=
      let ch := Char.ofNat (n % 256)
      -- A character that was spelled by its number is not a sign of the replacement.
      let isMeaningful := !isExpression && (ch = '&' || ch = '\\')
      (if isMeaningful then ['\\', ch] else [ch]) ++ unescape isExpression fuel rest
    let digits (base count : Nat) : Raw :=
      let (n, rest) := Raw.takeDigits base count 0 r
      if rest.length = r.length then '\\' :: c :: unescape isExpression fuel r else put n rest
    match c with
    | 'a' => put 7 r
    | 'f' => put 12 r
    | 'r' => put 13 r
    | 't' => put 9 r
    | 'v' => put 11 r
    | 'd' => digits 10 3
    | 'o' => digits 8 3
    | 'x' =>
      let (n, rest) := Raw.takeDigits 16 2 0 r
      if rest.length = r.length then c :: unescape isExpression fuel r else put n rest
    | 'c' =>
      match r with
      | d :: rest => put (if d.toUpper.toNat < 64 then d.toUpper.toNat + 64 else d.toUpper.toNat - 64) rest
      | [] => ['\\', 'c']
    | c => '\\' :: c :: unescape isExpression fuel r
  | fuel + 1, c :: r => c :: unescape isExpression fuel r
  | _, [] => []

/-- The notation of expressions. -/
def notationOf (extended : Bool) : Regex.Notation where
  extended
  stray := if extended then .invalid else .plain
  plainBraces := false
  plainBrackets := false
  looseBounds := false

def expression (r : Raw) (manner : Regex.Manner) (hasManner : Bool) : Reading (Pattern? × Nat) := do
  if r = [] then
    if hasManner then fail "cannot specify modifiers on empty regexp"
    return (none, 9)
  match Regex.parse (notationOf (← get).extended) (unescape true (r.length + 1) r) with
  | .ok e => return (some (e.ready manner), e.groupCount)
  | .error reason => fail reason

/-- Reads the letters behind an expression. -/
def manner : (fuel : Nat) → Regex.Manner → Bool → Reading (Regex.Manner × Bool)
  | 0, m, isGiven => return (m, isGiven)
  | fuel + 1, m, isGiven => do
    let ch ← filled?
    match ch with
    | some 'I' => manner fuel { m with ignoresCase := true } true
    | some 'M' => manner fuel { m with seesLines := true } true
    | ch =>
      giveBack ch
      return (m, isGiven)

def address? (ch : Option Char) : Reading (Option Address) := do
  let fuel := (← get).rest.length + 2
  let searched (delimiter : Char) : Reading (Option Address) := do
    match ← upTo delimiter true fuel with
    | none => fail "unterminated address regex"
    | some r =>
      let (m, isGiven) ← manner fuel {} false
      return some (.matching (← expression r m isGiven).1)
  match ch with
  | some '/' => searched '/'
  | some '\\' =>
    match ← char? with
    | none => fail "unexpected \x60,'"
    | some d => searched d
  | some '$' => return some .last
  | some '+' =>
    discard <| takeWhile Raw.isBlank
    return some (.plus (← number))
  | some '~' =>
    discard <| takeWhile Raw.isBlank
    return some (.multiple (← number))
  | some ch =>
    if Raw.isDigit ch then
      giveBack (some ch)
      let n ← number
      let following ← filled?
      if following = some '~' then
        discard <| takeWhile Raw.isBlank
        let step ← number
        -- No step at all is the line itself.
        return some (if step = 0 then .line n else .every n step)
      else
        giveBack following
        return some (.line n)
    else return none
  | none => return none

def piecesOf : (fuel : Nat) → Raw → List Piece
  | 0, _ => []
  | fuel + 1, '\\' :: c :: r =>
    if Raw.isDigit c then .group (Raw.digitValue c) :: piecesOf fuel r
    else
      match c with
      | 'n' => .text ['\n'] :: piecesOf fuel r
      | 'U' => .letters (some true) :: piecesOf fuel r
      | 'L' => .letters (some false) :: piecesOf fuel r
      | 'E' => .letters none :: piecesOf fuel r
      | 'u' => .oneLetter true :: piecesOf fuel r
      | 'l' => .oneLetter false :: piecesOf fuel r
      | c => .text [c] :: piecesOf fuel r
  | fuel + 1, '&' :: r => .group 0 :: piecesOf fuel r
  | fuel + 1, c :: r => .text [c] :: piecesOf fuel r
  | _, [] => []

def fileName : Reading Raw := do
  discard <| takeWhile Raw.isBlank
  let name ← takeWhile (· ≠ '\n')
  discard <| char?
  if name = [] then fail "missing filename in r/R/w/W commands"
  return name

def flags : (fuel : Nat) → Substitution → Regex.Manner → Bool → Reading (Substitution × Regex.Manner × Bool)
  | 0, s, m, isGiven => return (s, m, isGiven)
  | fuel + 1, s, m, isGiven => do
    let ch ← char?
    match ch with
    | some 'i' | some 'I' => flags fuel s { m with ignoresCase := true } true
    | some 'm' | some 'M' => flags fuel s { m with seesLines := true } true
    | some 'e' => flags fuel { s with runs := true } m isGiven
    | some 'p' =>
      if s.prints then fail "multiple \x60p' options to \x60s' command"
      flags fuel { s with prints := true } m isGiven
    | some 'g' =>
      if s.all then fail "multiple \x60g' options to \x60s' command"
      flags fuel { s with all := true } m isGiven
    | some 'w' => return ({ s with file := some (← fileName) }, m, isGiven)
    | some '\x7d' | some '#' =>
      giveBack ch
      return (s, m, isGiven)
    | none | some '\n' | some ';' => return (s, m, isGiven)
    | some c =>
      if Raw.isDigit c then
        if s.number.isSome then fail "multiple number options to \x60s' command"
        giveBack ch
        let n ← number
        if n = 0 then fail "number option to \x60s' command may not be zero"
        flags fuel { s with number := some n } m isGiven
      else if Raw.isBlank c then flags fuel s m isGiven
      else fail "unknown option to \x60s'"

def substitution : Reading Action := do
  let fuel := (← get).rest.length + 2
  let unterminated : Reading Action := fail "unterminated \x60s' command"
  match ← char? with
  | none => unterminated
  | some '\n' | some '\\' => unterminated
  | some d =>
    match ← upTo d true fuel with
    | none => unterminated
    | some pattern =>
      match ← upTo d false fuel with
      | none => unterminated
      | some replacement =>
        let pieces := piecesOf (replacement.length + 1) (unescape false (replacement.length + 1) replacement)
        let (s, m, isGiven) ← flags fuel { expression := none, pieces } {} false
        let (e, groups) ← expression pattern m isGiven
        let largest := (pieces.map fun
          | .group n => n
          | _ => 0).foldl max 0
        -- Whether a group is there is known only after the expression, read last.
        if groups < largest then
          fail ("invalid reference \\" ++ toString largest ++ " on \x60s' command's RHS")
        return .substitute { s with expression := e }

/-- The characters that a side of an exchange means. -/
def exchanged : Raw → Raw
  | '\\' :: 'n' :: r => '\n' :: exchanged r
  | '\\' :: c :: r => c :: exchanged r
  | c :: r => c :: exchanged r
  | [] => []

def charExchange : Reading Action := do
  let fuel := (← get).rest.length + 2
  let unterminated : Reading Action := fail "unterminated \x60y' command"
  match ← char? with
  | none => unterminated
  | some d =>
    match ← upTo d false fuel with
    | none => unterminated
    | some source =>
      match ← upTo d false fuel with
      | none => unterminated
      | some target =>
        let side (r : Raw) : Raw := exchanged (unescape false (r.length + 1) r)
        -- The lengths are compared after the escapes are resolved.
        if (side source).length ≠ (side target).length then fail "strings for \x60y' command are different lengths"
        endOfCommand
        return .exchangeChars (side source) (side target)

/-- Reads lines of text up to the first newline without a backslash. -/
def textLines : (fuel : Nat) → Reading Raw
  | 0 => return []
  | fuel + 1 => do
    match ← char? with
    | none => return ['\n']
    | some '\n' => return ['\n']
    | some '\\' =>
      match ← char? with
      | none => return ['\n']
      | some '\n' => return '\n' :: (← textLines fuel)
      | some c => return '\\' :: c :: (← textLines fuel)
    | some c => return c :: (← textLines fuel)

/-- Text without the backslashes that took the meaning from a character. -/
def withoutBackslashes : Raw → Raw
  | '\\' :: 'n' :: r => '\n' :: withoutBackslashes r
  | '\\' :: c :: r => c :: withoutBackslashes r
  | c :: r => c :: withoutBackslashes r
  | [] => []

/-- Reads the text of a command that puts lines somewhere. -/
def text : Reading Raw := do
  let fuel := (← get).rest.length + 2
  let take : Reading Raw := do
    let r ← textLines fuel
    return withoutBackslashes (unescape false (r.length + 1) r)
  match ← filled? with
  | none => fail "expected \\ after \x60a', \x60c' or \x60i'"
  | some '\\' =>
    match ← char? with
    | none => return []
    | some '\n' => if (← get).rest = [] then return [] else take
    | some c =>
      giveBack (some c)
      take
  | some c =>
    giveBack (some c)
    take

def labelName : Reading Raw := do
  discard <| takeWhile Raw.isBlank
  takeWhile fun c => !Raw.isSpace c && c ≠ ';' && c ≠ '\x7d'

/-- Reads a number behind a command, if there is one. -/
def numberAfter? : Reading (Option Nat) := do
  let ch ← filled?
  giveBack ch
  let n ← if ch.any Raw.isDigit then some <$> number else pure none
  endOfCommand
  return n

def action (c : Command) (ch : Char) : Reading Action := do
  let plain (a : Action) : Reading Action := do
    endOfCommand
    return a
  match ch with
  | '\x7b' => return .openBlock
  | '\x7d' =>
    if c.first.isSome then fail "\x7d doesn't want any addresses"
    plain .closeBlock
  | 'a' => return .after (← text)
  | 'i' => return .before (← text)
  | 'c' => return .change (← text)
  | 'e' =>
    let ch ← filled?
    if ch = none || ch = some '\n' then return .run []
    giveBack ch
    return .run (← textLines ((← get).rest.length + 2))
  | ':' =>
    if c.first.isSome then fail ": doesn't want any addresses"
    let name ← labelName
    if name = [] then fail "\":\" lacks a label"
    return .label name
  | 'b' => return .branch (← labelName)
  | 't' => return .branchIf (← labelName)
  | 'T' => return .branchUnless (← labelName)
  | 'q' | 'Q' =>
    if c.second.isSome then fail "command only uses one address"
    return .quit (ch = 'Q') ((← numberAfter?).getD 0)
  | 'l' => return .list (← numberAfter?)
  | 'L' => return .list (← numberAfter?)
  | 'r' => return .readFile (← fileName)
  | 'R' => return .readLine (← fileName)
  | 'w' => return .writeTo (← fileName)
  | 'W' => return .writeFirstTo (← fileName)
  | 's' => substitution
  | 'y' => charExchange
  | 'v' =>
    let version ← labelName
    if version.head?.any fun d => '5' ≤ d && Raw.isDigit d then fail "expected newer version of sed"
    return .nothing
  | '=' => plain .number
  | 'd' => plain .delete
  | 'D' => plain .deleteFirst
  | 'F' => plain .name
  | 'g' => plain (.fetch false)
  | 'G' => plain (.fetch true)
  | 'h' => plain (.hold false)
  | 'H' => plain (.hold true)
  | 'n' => plain .next
  | 'N' => plain .appendNext
  | 'p' => plain .print
  | 'P' => plain .printFirst
  | 'x' => plain .exchange
  | 'z' => plain .empty
  | c => fail ("unknown command: \x60" ++ String.singleton c ++ "'")

/-- Where the blocks that are open began. -/
abbrev Blocks := List (Origin × Nat)

def commands : (fuel : Nat) → Blocks → List Command → Reading (Blocks × List Command)
  | 0, blocks, cs => return (blocks, cs)
  | fuel + 1, blocks, cs => do
    discard <| takeWhile fun ch => ch = ';' || Raw.isSpace ch
    match ← char? with
    | none => return (blocks, cs)
    | some ch =>
      let first ← address? (some ch)
      let mut c : Command := { first, action := .nothing }
      let mut ch : Option Char := some ch
      if first.isSome then
        match first with
        | some (.plus _) | some (.multiple _) => fail "invalid usage of +N or ~N as first address"
        | _ => pure ()
        ch ← filled?
        if ch = some ',' then
          match ← address? (← filled?) with
          | none => fail "unexpected \x60,'"
          | some a => c := { c with second := some a }
          ch ← filled?
        match c.first, c.second with
        -- Line zero stands before the first one, so an expression can end the range there.
        | some (.line 0), some (.matching _) => pure ()
        | some (.line 0), _ => fail "invalid usage of line address 0"
        | _, _ => pure ()
      if ch = some '!' then
        c := { c with isNegated := true }
        ch ← filled?
        if ch = some '!' then fail "multiple \x60!'s"
      match ch with
      | none => fail "missing command"
      | some '#' =>
        if c.first.isSome then fail "comments don't accept any addresses"
        discard <| takeWhile (· ≠ '\n')
        commands fuel blocks cs
      | some '\x7d' =>
        match blocks with
        | [] => fail "unexpected \x60\x7d'"
        | _ :: blocks =>
          let a ← action c '\x7d'
          commands fuel blocks ({ c with action := a } :: cs)
      | some '\x7b' =>
        let here := ((← get).origin, (← get).line)
        commands fuel (here :: blocks) ({ c with action := .openBlock } :: cs)
      | some l =>
        let a ← action c l
        commands fuel blocks ({ c with action := a } :: cs)

/-- Whether a piece of script goes on in the next one. -/
def goesOn (r : Raw) : Bool := (r.reverse.takeWhile (· = '\\')).length % 2 = 1

/-- The arguments joined where one goes on in the next. -/
def joined : List (Origin × Raw) → List (Origin × Raw)
  | (.argument n, r) :: (.argument m, s) :: rest =>
    if goesOn r then
      match joined ((.argument m, s) :: rest) with
      -- A backslash at the end of an argument escapes the newline between the two.
      | (_, s) :: rest => (.argument n, r ++ '\n' :: s) :: rest
      | [] => [(.argument n, r)]
    else (.argument n, r) :: joined ((.argument m, s) :: rest)
  | p :: rest => p :: joined rest
  | [] => []

/-- Reads the pieces of a script. -/
def script (extended : Bool) : List (Origin × Raw) → Blocks → List Command → Except Raw (List Command)
  | [], [], cs => .ok cs.reverse
  | [], (origin, line) :: _, _ => .error (located origin 0 line (Raw.ascii "unmatched \x60\x7b'"))
  | (origin, r) :: rest, blocks, cs => do
    let ((blocks, cs), _) ← (commands (r.length + 2) blocks cs).run { origin, rest := r, extended }
    script extended rest blocks cs

def readScript (extended : Bool) (pieces : List (Origin × Raw)) : Except Raw (List Command) :=
  script extended (joined pieces) [] []

/-- Whether a script asks in its first line that nothing be printed by itself. -/
def isQuiet (pieces : List (Origin × Raw)) : Bool :=
  match pieces with
  | (_, '#' :: 'n' :: r) :: _ => r = [] || r.head? = some '\n'
  | _ => false

end Buildwatch.Machine.Editing
