import Buildwatch.Machine.Tool.Basic

/-!
# Feeding arguments to programs

The tool that reads words and runs a program with them as further arguments, as many at a
time as are allowed.
-/

namespace Buildwatch.Machine.Feeding

open Tool

/-! ## Words of the input -/

inductive Cut
  /-- Words between blanks, with quotes. -/
  | words
  /-- Lines without the blanks in front, with quotes. -/
  | lines
  /-- What stands before each of one character. -/
  | pieces (delimiter : Char)
  deriving DecidableEq

inductive Place
  | gap
  | word
  | quoted (quote : Char)
  | escaped
  deriving DecidableEq

inductive Item
  | argument (r : Raw)
  /-- The end of a line that does not go on. -/
  | line
  | unmatched (quote : Char)
  deriving DecidableEq

/-- The state of the reading: the open word, last character first, and whether one is open. -/
structure Cursor where
  place : Place := .gap
  word : Raw := []
  isOpen : Bool := false
  previous : Option Char := none

namespace Cursor

def keep (k : Cursor) (c : Char) : Cursor := { k with word := c :: k.word, isOpen := true, place := .word }

/-- The open word as an argument. -/
def items (k : Cursor) : List Item := if k.isOpen then [.argument k.word.reverse] else []

def takePlain (cut : Cut) (k : Cursor) (c : Char) : Cursor × List Item :=
  if c = '\n' then
    let ends : List Item := if k.previous.any Raw.isBlank then [] else [.line]
    if k.isOpen then ({}, k.items ++ ends) else ({}, [])
  else if cut = .words && Raw.isBlank c then ({}, k.items)
  else
    match c with
    | '\\' => ({ k with place := .escaped }, [])
    | '\'' | '"' => ({ k with place := .quoted c, isOpen := true }, [])
    | c => (k.keep c, [])

def take (cut : Cut) (k : Cursor) (c : Char) : Cursor × List Item :=
  match cut with
  | .pieces d =>
    if c = d then ({}, [.argument k.word.reverse, .line]) else (k.keep c, [])
  | cut =>
    let (next, items) : Cursor × List Item := match k.place with
      | .gap => if Raw.isSpace c then (k, []) else takePlain cut { k with place := .word } c
      | .word => takePlain cut k c
      | .escaped => (k.keep c, [])
      | .quoted q =>
        -- Quotes do not reach across lines.
        if c = '\n' then ({}, [.unmatched q])
        else if c = q then ({ k with place := .word }, [])
        else ({ k with word := c :: k.word }, [])
    ({ next with previous := some c }, items)

/-- What is left at the end of the input. -/
def finish (k : Cursor) : List Item :=
  match k.place with
  | .quoted q => [.unmatched q]
  | _ => k.items

end Cursor

/-! ## Running -/

structure Setting where
  command : List Raw
  cut : Cut
  /-- What stands in the command for the argument. -/
  sign : Option Raw := none
  ending : Option Raw := none
  maxArguments : Option Nat := none
  maxLines : Option Nat := none
  maxSize : Nat
  stopsIfFull : Bool := false
  showsCommands : Bool := false
  runsEmpty : Bool := true
  /-- The open file that the input comes from. -/
  input : Nat := 0

/-- What has been gathered for the next run, latest first. -/
structure Gathered where
  arguments : List Raw := []
  size : Nat := 0
  lines : Nat := 0
  hasRun : Bool := false
  status : Nat := 0
  cursor : Cursor := {}
  isOver : Bool := false

def sizeOf (args : List Raw) : Nat := Raw.total (args.map (·.length + 1))

/-- Starts a command; the answer is its number. -/
def start (s : Setting) (command : List Raw) (emptyInput : Nat) : Tool Nat := do
  if s.showsCommands then report (Raw.join [' '] (command.map Quoting.ifNeeded) ++ ['\n'])
  match ← launch command (if s.input = 0 then [(0, emptyInput)] else []) with
  | .ok pid => return pid
  | .error e =>
    warn (command.head?.getD [] ++ Raw.ascii ": " ++ Raw.ascii e.text)
    exit (startStatus e)

/-- Waits for a command, and says which status that leaves. -/
def finish (command : List Raw) (pid : Nat) : Tool Nat := do
  let name := command.head?.getD []
  match ← await pid none with
  | some (.signal n) =>
    warn (name ++ Raw.ascii ": terminated by signal " ++ Raw.ofNat n)
    exit 125
  | some (.code n) =>
    -- With this status a command asks that nothing more be run.
    if n = 255 then
      warn (name ++ Raw.ascii ": exited with status 255; aborting")
      exit 124
    return if n = 0 then 0 else 123
  | none => return 0

def run (s : Setting) (emptyInput : Nat) (g : Gathered) : Tool Gathered := do
  let command := s.command ++ g.arguments.reverse
  let pid ← start s command emptyInput
  let status ← finish command pid
  return { g with arguments := [], size := 0, lines := 0, hasRun := true, status := max g.status status }

def replaced (sign argument : Raw) : (fuel : Nat) → Raw → Raw
  | 0, r => r
  | _, [] => []
  | fuel + 1, c :: r =>
    if sign ≠ [] && Raw.startsWith sign (c :: r) then
      argument ++ replaced sign argument fuel ((c :: r).drop sign.length)
    else c :: replaced sign argument fuel r

/-- Adds an argument, running the command before or after that if it is full. -/
def add (s : Setting) (emptyInput : Nat) (g : Gathered) (argument : Raw) : Tool Gathered := do
  match s.sign with
  | some sign =>
    let command := match s.command with
      | name :: args => name :: args.map fun a => replaced sign argument (a.length + 1) a
      | [] => []
    if s.maxSize < sizeOf command then fail (Raw.ascii "argument list too long")
    let pid ← start s command emptyInput
    return { g with hasRun := true, status := max g.status (← finish command pid) }
  | none =>
    let mut g := g
    -- What has been gathered is run without the argument that does not fit any more.
    if s.maxSize < sizeOf s.command + g.size + argument.length + 1 then
      if g.arguments.isEmpty then fail (Raw.ascii "argument line too long")
      if s.stopsIfFull then fail (Raw.ascii "argument list too long")
      g ← run s emptyInput g
      if s.maxSize < sizeOf s.command + argument.length + 1 then fail (Raw.ascii "argument line too long")
    g := { g with arguments := argument :: g.arguments, size := g.size + argument.length + 1 }
    if s.maxArguments.any (· ≤ g.arguments.length) then g ← run s emptyInput g
    return g

/-- Deals with what the input brings. -/
def takeItem (s : Setting) (emptyInput : Nat) (g : Gathered) (i : Item) : Tool Gathered := do
  if g.isOver then return g
  match i with
  | .argument r => if s.ending = some r then return { g with isOver := true } else add s emptyInput g r
  | .line =>
    let g := { g with lines := g.lines + 1 }
    if s.maxLines.any (· ≤ g.lines) then
      if s.sign.isNone then run s emptyInput g else return { g with lines := 0 }
    else return g
  | .unmatched q =>
    let name := if q = '"' then "double" else "single"
    let complain : Tool Unit :=
      warn (Raw.ascii ("unmatched " ++ name ++
        " quote; by default quotes are special to xargs unless you use the -0 option"))
    -- The arguments before the mistake are still handed on.
    if s.sign.isNone && !g.arguments.isEmpty then
      let command := s.command ++ g.arguments.reverse
      let pid ← start s command emptyInput
      complain
      discard <| finish command pid
    else complain
    exit 1

def takePiece (s : Setting) (emptyInput : Nat) : Raw → Gathered → Tool Gathered
  | [], g => return g
  | c :: r, g => do
    let (cursor, items) := g.cursor.take s.cut c
    let mut g := { g with cursor }
    for i in items do g ← takeItem s emptyInput g i
    if g.isOver then return g else takePiece s emptyInput r g

def work (s : Setting) (emptyInput : Nat) : (turns : Nat) → Gathered → Tool Gathered
  | 0, g => return g
  | turns + 1, g => do
    match ← take s.input 4096 with
    | .ok (c :: r) =>
      let g ← takePiece s emptyInput (c :: r) g
      if g.isOver then return g else work s emptyInput turns g
    | _ =>
      let mut g := g
      for i in g.cursor.finish do g ← takeItem s emptyInput g i
      return g

/-! ## The tool -/

/-- The character that a text names as the end of arguments. -/
def delimiter (r : Raw) : Tool Char := do
  match r with
  | [c] => return c
  | '\\' :: c :: rest =>
    let byte (base : Nat) (digits : Raw) : Tool Char := do
      let (n, left) := Raw.takeDigits base 3 0 digits
      if left = [] && n < 256 then return Char.ofNat n
      else
        fail (Raw.ascii "Invalid escape sequence " ++ r ++ Raw.ascii " in input delimiter specification; " ++
          Raw.ascii "trailing characters " ++ left ++ Raw.ascii " not recognised.")
    match c, rest with
    | 'a', [] => return '\x07'
    | 'b', [] => return '\x08'
    | 'f', [] => return '\x0c'
    | 'n', [] => return '\n'
    | 'r', [] => return '\r'
    | 't', [] => return '\t'
    | 'v', [] => return '\x0b'
    | '\\', [] => return '\\'
    | 'x', digits => byte 16 digits
    | c, digits =>
      if Raw.isDigit c then byte 8 (c :: digits)
      else
        fail (Raw.ascii "Invalid escape sequence " ++ r ++ Raw.ascii " in input delimiter specification.")
  | _ =>
    fail (Raw.ascii "Invalid input delimiter specification " ++ r ++
      Raw.ascii ": the delimiter must be either a single character or an escape sequence starting with \\.")

def number (letter : Char) (low : Nat) (r : Raw) : Tool Nat := do
  match Raw.integer? (Raw.dropSpace r) with
  | none =>
    misuse (Raw.ascii "invalid number \"" ++ r ++ Raw.ascii "\" for -" ++ [letter] ++ Raw.ascii " option")
  | some i =>
    if i < low then
      let reason := Raw.ascii "value " ++ r ++ Raw.ascii " for -" ++ [letter] ++
        Raw.ascii " option should be >= " ++ Raw.ofNat low
      if letter = 's' then
        warn reason
        return low
      else misuse reason
    else return i.toNat

/-- The largest room for arguments that may be asked for. -/
def largestSize : Nat := 2092991

/-- Reports that an option takes another one back. -/
def warnOfConflict (named other taken : String) : Tool Unit := do
  warn (Raw.ascii ("warning: options " ++ named ++ " and " ++ other ++
    " are mutually exclusive, ignoring previous " ++ taken ++ " value"))

/-- The setting after one more option. -/
def withOption (s : Setting) (key : String) (value : Option Raw) : Tool Setting := do
  let text := value.getD []
  match key with
  | "0" => return { s with cut := .pieces '\x00' }
  | "d" => return { s with cut := .pieces (← delimiter text) }
  | "E" => return { s with ending := if text = [] then none else some text }
  | "e" => return { s with ending := if text = [] then none else some text }
  | "I" | "i" =>
    let sign := if text = [] then ['\x7b', '\x7d'] else text
    if s.maxArguments.isSome then warnOfConflict "--max-args" "--replace/-I/-i" "--max-args"
    if s.maxLines.isSome then warnOfConflict "--max-lines" "--replace/-I/-i" "--max-lines"
    return { s with sign := some sign, maxArguments := none, maxLines := none }
  | "L" | "l" =>
    let lines ← if key = "l" && text = [] then pure 1 else number (if key = "L" then 'L' else 'l') 1 text
    let other := if key = "L" then "-L" else "--max-lines/-l"
    if s.maxArguments.isSome then warnOfConflict "--max-args" other "--max-args"
    if s.sign.isSome then warnOfConflict "--replace" other "--replace"
    return { s with maxLines := some lines, maxArguments := none, sign := none, stopsIfFull := key = "l" || s.stopsIfFull }
  | "n" =>
    let n ← number 'n' 1 text
    if s.maxLines.isSome then warnOfConflict "--max-lines" "--max-args/-n" "--max-lines"
    if s.sign.isSome && n = 1 then return s
    if s.sign.isSome then warnOfConflict "--replace" "--max-args/-n" "--replace"
    return { s with maxArguments := some n, maxLines := none, sign := none }
  | "s" =>
    let n ← number 's' 1 text
    if largestSize < n then
      warn (Raw.ascii "value " ++ text ++ Raw.ascii " for -s option should be <= " ++ Raw.ofNat largestSize)
      return { s with maxSize := largestSize }
    return { s with maxSize := n }
  | "P" =>
    discard <| number 'P' 0 text
    return s
  | "r" => return { s with runsEmpty := false }
  | "t" => return { s with showsCommands := true }
  | "x" => return { s with stopsIfFull := true }
  | _ => return s

def xargs : Tool Nat := do
  let c ← call {
    letters := "0a:E:e::i::I:l::L:n:prs:txP:d:o"
    long := "null=0 arg-file:=a delimiter:=d eof::=e replace::=i max-lines::=l max-args:=n interactive=p no-run-if-empty=r max-chars:=s verbose=t show-limits exit=x max-procs:=P process-slot-var: open-tty=o"
    permutes := false }
  let command := if c.operands.isEmpty then [Raw.ascii "echo"] else c.operands
  let mut s : Setting := { command, cut := .words, maxSize := 131072 }
  for (key, value) in c.options do s ← withOption s key value
  if s.sign.isSome && s.cut = .words then s := { s with cut := .lines }
  if s.cut ≠ .words && s.cut ≠ .lines then s := { s with ending := none }
  match c.value? "a" with
  | none => pure ()
  | some name =>
    if !isStandard name then
      match ← openFile name .input with
      | .ok d => s := { s with input := d }
      | .error e =>
        fail (Raw.ascii "Cannot open input file " ++ Quoting.plain name ++ Raw.ascii ": " ++ Raw.ascii e.text)
  if s.sign.isNone && s.maxSize < sizeOf command then
    fail (Raw.ascii "cannot fit single argument within argument list size limit")
  let emptyInput := (← openFile (Raw.ascii "/dev/null") .input).toOption.getD 0
  let g ← work s emptyInput manyTurns {}
  let g ← if !g.arguments.isEmpty || (s.runsEmpty && !g.hasRun && s.sign.isNone) then run s emptyInput g else pure g
  return g.status

end Buildwatch.Machine.Feeding
