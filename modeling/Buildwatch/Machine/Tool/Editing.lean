import Buildwatch.Machine.Changes
import Buildwatch.Machine.Tool.Basic
import Buildwatch.Machine.Tool.Editing.Script

/-!
# Editing streams

The commands of a script are applied to each line of the inputs in turn. What is left of
the line is printed at the end, and then what was to come after it.
-/

namespace Buildwatch.Machine.Editing

/-! ## The editor at work -/

/-- How far a range of lines has been gone through. -/
inductive Range
  | outside
  /-- The range ends at a line with a number, or where an expression is found. -/
  | inside (stop : Option Nat)
  | closed
  deriving DecidableEq

inductive Later
  | text (r : Raw)
  | file (name : Raw)
  | line (r : Raw)

structure Setting where
  commands : Array Command
  isQuiet : Bool
  /-- Whether every input is a stream of its own. -/
  isSeparate : Bool
  /-- The ending or the form of the names under which files that are changed are kept. -/
  inPlace : Option Raw
  delimiter : Char
  width : Nat
  isPosix : Bool
  isPrompt : Bool

structure Desk where
  line : Raw := []
  /-- Whether a newline stood behind the line. -/
  isEnded : Bool := true
  held : Raw := []
  /-- Whether a newline stood behind what is held. -/
  isHeldEnded : Bool := true
  number : Nat := 0
  /-- What comes after the line, latest first. -/
  later : List Later := []
  hasReplaced : Bool := false
  last : Pattern? := none
  ranges : Array Range
  /-- The inputs that are left. -/
  names : List Raw
  name : Raw := ['-']
  descriptor : Option Nat := none
  buffer : Raw := []
  /-- Whether there is no more in the input than what is in the buffer. -/
  isDrained : Bool := false
  /-- The outputs that a newline is missing from. -/
  unfinished : List Nat := []
  /-- The files that are written and read line by line. -/
  outputs : List (Raw × Nat) := []
  sources : List (Raw × List Raw) := []
  /-- What was written for the file that is changed, latest first. -/
  changed : List Raw := []
  status : Nat := 0

abbrev Edit := StateT Desk Tool

namespace Edit

def tool {α : Type} (t : Tool α) : Edit α := StateT.lift t

/-! ## Writing -/

/-- The number of the output to which lines are printed. -/
def standard : Nat := 1

/-- The number of the standard output while lines are printed to a file that is changed. -/
def outside : Nat := 1001

def write (s : Setting) (output : Nat) (r : Raw) : Edit Unit := do
  if output = standard then
    if s.inPlace.isSome then modify fun d => { d with changed := r :: d.changed }
    else
      tool (Tool.say r)
      if s.isPrompt then tool Tool.flush
  else
    if output = outside then tool (Tool.say r) else discard <| tool (Tool.writeTo output r)

def finishLine (s : Setting) (output : Nat) : Edit Unit := do
  if (← get).unfinished.contains output then
    modify fun d => { d with unfinished := d.unfinished.filter (· ≠ output) }
    write s output [s.delimiter]

/-- Writes a line, with its newline if it has one. -/
def putLine (s : Setting) (output : Nat) (r : Raw) (isEnded : Bool) : Edit Unit := do
  finishLine s output
  if isEnded then write s output (r ++ [s.delimiter])
  else
    write s output r
    modify fun d => { d with unfinished := output :: d.unfinished }

def putText (s : Setting) (output : Nat) (r : Raw) : Edit Unit := do
  finishLine s output
  write s output r

def print (s : Setting) : Edit Unit := do
  let d ← get
  putLine s standard d.line d.isEnded

/-! ## Reading -/

/-- Fills the buffer up to a newline or the end of the input. -/
def fill (s : Setting) : (turns : Nat) → Edit Unit
  | 0 => return
  | turns + 1 => do
    let d ← get
    if d.isDrained || d.buffer.contains s.delimiter then return
    match d.descriptor with
    | none => return
    | some n =>
      -- Byte by byte where the next reader of the descriptor is to find what is left.
      match ← tool (Tool.take n (if s.isPrompt then 1 else 4096)) with
      | .ok [] => modify fun d => { d with isDrained := true }
      | .ok r =>
        modify fun d => { d with buffer := d.buffer ++ r }
        fill s turns
      | .error e =>
        tool do
          Tool.warn (Raw.ascii "read error on " ++ d.name ++ Raw.ascii ": " ++ Raw.ascii e.text)
          Tool.exit 4

/-- The name under which a file that is changed is kept. -/
def backupName (form path : Raw) : Raw :=
  let (front, name) := ((path.reverse.dropWhile (· ≠ '/')).reverse, (path.reverse.takeWhile (· ≠ '/')).reverse)
  if form.contains '*' then
    let filled := form.flatMap fun c => if c = '*' then name else [c]
    if filled.contains '/' then filled else front ++ filled
  else path ++ form

def closeInput (s : Setting) : Edit Unit := do
  let d ← get
  match d.descriptor with
  | none => return
  | some n =>
    if n ≠ 0 then tool (Tool.close n)
    modify fun d => { d with descriptor := none }
    match s.inPlace with
    | none => return
    | some form =>
      -- The backup is a copy; the file itself keeps its number and gets the new text.
      let content := d.changed.reverse.flatten
      modify fun d => { d with changed := [], unfinished := d.unfinished.filter (· ≠ standard) }
      tool <| Tool.edit fun v =>
        let files := if form = [] then v.files
          else
            match v.find true d.name with
            | .ok (_, node) =>
              match View.create { v with files := ((v.removeName (backupName form d.name)).toOption).getD v.files }
                  (backupName form d.name) node.content node.mode with
              | .ok files => files
              | .error _ => v.files
            | .error _ => v.files
        match v.find true d.name with
        | .ok (_, node) => ((), files.setContent node.number (.file content) v.now)
        | .error _ => ((), files)

/-- Opens the next input that can be opened. -/
def openNext (s : Setting) : (count : Nat) → Edit Bool
  | 0 => return false
  | count + 1 => do
    match (← get).names with
    | [] => return false
    | name :: names =>
      modify fun d => { d with names }
      if s.inPlace.isSome && ((← tool Tool.view).node? true name).any (fun n => !n.content matches .file _) then
        tool (Tool.warn (Raw.ascii "couldn't edit " ++ name ++ Raw.ascii ": not a regular file"))
        modify fun d => { d with status := 4 }
        openNext s count
      else
        match ← tool (if s.inPlace.isSome then Tool.openFile name .input else Tool.openInput name) with
        | .ok n =>
          modify fun d => { d with
            name, descriptor := some n, buffer := [], isDrained := false }
          if s.isSeparate then
            modify fun d => { d with
              number := 0
              ranges := d.ranges.map fun r => if r = .closed then .outside else r }
          return true
        | .error e =>
          tool (Tool.warn (Raw.ascii "can't read " ++ name ++ Raw.ascii ": " ++ Raw.ascii e.text))
          modify fun d => { d with status := 2 }
          openNext s count

/-- Whether something is left of the input that is open. -/
def hasMore (s : Setting) : Edit Bool := do
  fill s Tool.manyTurns
  return (← get).descriptor.isSome && (← get).buffer ≠ []

/-- Goes on to an input with something in it; without one the answer is no. -/
def findMore (s : Setting) : (count : Nat) → Edit Bool
  | 0 => return false
  | count + 1 => do
    if ← hasMore s then return true
    closeInput s
    if ← openNext s ((← get).names.length + 1) then findMore s count else return false

def isLast (s : Setting) : Edit Bool := do
  if ← hasMore s then return false
  -- Whether another input has lines is only found out by opening it.
  if s.isSeparate then return true
  return !(← findMore s ((← get).names.length + 2))

def nextLine? (s : Setting) : Edit (Option (Raw × Bool)) := do
  if ← findMore s ((← get).names.length + 2) then
    let d ← get
    let line := d.buffer.takeWhile (· ≠ s.delimiter)
    let isEnded := line.length < d.buffer.length
    modify fun d => { d with buffer := d.buffer.drop (line.length + 1), number := d.number + 1 }
    return some (line, isEnded)
  else return none

/-! ## Addresses -/

/-- The expression that is meant, which is then the last one that was used. -/
def meant (p : Pattern?) : Edit Regex.Search := do
  match p.or (← get).last with
  | some e =>
    modify fun d => { d with last := some e }
    return e
  | none =>
    tool do
      Tool.warn (located (.argument 1) 0 0 (Raw.ascii "no previous regular expression"))
      Tool.exit 1

def accepts (s : Setting) (a : Address) : Edit Bool := do
  let n := (← get).number
  match a with
  | .line k => return n = k
  | .every first step => return first ≤ n && (n - first) % step = 0
  | .last => isLast s
  | .matching p => return (← meant p).isIn (← get).line
  | .plus _ | .multiple _ => return false

/-- Whether a command is meant for the line. -/
def isMeant (s : Setting) (index : Nat) (c : Command) : Edit Bool := do
  let n := (← get).number
  let setRange (r : Range) : Edit Unit := modify fun d => { d with ranges := d.ranges.setIfInBounds index r }
  match c.first, c.second with
  | none, _ => return true
  | some a, none => accepts s a
  | some a, some b =>
    match ((← get).ranges[index]?).getD .outside with
    | .inside stop =>
      match b, stop with
      | .matching p, _ =>
        if (← meant p).isIn (← get).line then setRange .closed
        return true
      | .last, _ =>
        if ← isLast s then setRange .closed
        return true
      | _, some k =>
        if k ≤ n then setRange .closed
        return n ≤ k
      | _, none => return true
    | state =>
      -- A range that a number begins does not begin again; one with an expression may.
      let isStart ← match a, state with
        | .line _, .closed => pure false
        | a, _ => accepts s a
      if !isStart then
        if state = .closed then setRange .outside
        match a with
        | .line _ => if state = .closed then setRange .closed
        | _ => pure ()
        return false
      match b with
      -- An end that has gone by already leaves a range of this one line.
      | .line k => setRange (if k ≤ n then .outside else .inside (some k))
      | .plus k => setRange (if k = 0 then .outside else .inside (some (n + k)))
      | .multiple k => setRange (if k = 0 || n % k = 0 then .outside else .inside (some ((n / k + 1) * k)))
      | _ => setRange (.inside none)
      return true

/-! ## Substitutions -/

/-- How letters are written. -/
structure Letters where
  all : Option Bool := none
  next : Option Bool := none

/-- A text in the letters that are asked for. -/
def Letters.apply (l : Letters) (r : Raw) : Raw :=
  let one (isUpper : Bool) (c : Char) : Char := if isUpper then c.toUpper else c.toLower
  match r with
  | [] => []
  | c :: rest =>
    let c := match l.next.or l.all with
      | some b => one b c
      | none => c
    c :: match l.all with
      | some b => rest.map (one b)
      | none => rest

def replacement (pieces : List Piece) (whole : Raw) (groups : List (Nat × Raw)) : Raw :=
  let add (r : Raw) (state : Letters × List Raw) : Letters × List Raw :=
    -- An empty piece has no letter that the next one could be meant for.
    if r = [] then state else ({ state.1 with next := none }, state.1.apply r :: state.2)
  let (_, texts) := pieces.foldl (fun (state : Letters × List Raw) p =>
    match p with
    | .text r => add r state
    | .group 0 => add whole state
    | .group n => add ((groups.lookup n).getD []) state
    | .letters b => ({ all := b }, state.2)
    | .oneLetter b => ({ state.1 with next := some b }, state.2)) ({}, [])
  texts.reverse.flatten

def substituted (c : Substitution) (e : Regex.Search) (line : Raw) : Option Raw :=
  let found := e.all line
  let number := c.number.getD 1
  -- With a number and all, the matches from that number on.
  let chosen := if c.all then found.drop (number - 1) else (found.drop (number - 1)).take 1
  if chosen.isEmpty then none
  else
    let (pieces, place) := chosen.foldl (fun (pieces, place) (a, b) =>
      let gap := (line.drop place).take (a.index - place)
      (replacement c.pieces (Regex.textBetween a b) b.groups :: gap :: pieces, b.index)) (([] : List Raw), 0)
    some (pieces.reverse.flatten ++ line.drop place)

/-- A character as lists of characters show it. -/
def listed (c : Char) : Raw :=
  if c = '\\' then ['\\', '\\']
  else if Quoting.isPrintable c then [c]
  else '\\' :: Quoting.escapeOf c

/-- The line with what cannot be seen spelled out, in pieces of a width. -/
def listing (width : Nat) (line : Raw) : Raw :=
  let (r, _) := line.foldl (fun ((r, used) : List Raw × Nat) c =>
    let shown := listed c
    if 0 < width && width - 1 < used + shown.length then (shown :: ['\\', '\n'] :: r, shown.length)
    else (shown :: r, used + shown.length)) ([], 0)
  r.reverse.flatten ++ ['$', '\n']

/-! ## Commands -/

/-- How the work on a line ends. -/
inductive Ending
  | cycle
  /-- Without printing. -/
  | silent
  /-- What is left of the line is worked on again. -/
  | again
  | quit (status : Nat) (prints : Bool)

def outputFor (name : Raw) : Edit Nat := do
  return ((← get).outputs.lookup name).getD standard

/-- Puts what was to come after the line. -/
def putLater (s : Setting) : Edit Unit := do
  let later := (← get).later.reverse
  modify fun d => { d with later := [] }
  for l in later do
    match l with
    | .text r => putText s standard r
    | .line r => putLine s standard r true
    | .file name =>
      match ← tool (Tool.contentOf (if name = Raw.ascii "/dev/stdin" then ['-'] else name)) with
      | .ok r => putText s standard r
      | .error _ => pure ()

/-- The end of the block that begins at a command. -/
def blockEnd (commands : Array Command) (start : Nat) : Nat :=
  let rec go : (fuel index depth : Nat) → Nat
    | 0, index, _ => index
    | fuel + 1, index, depth =>
      match (commands[index]?).map Command.action with
      | some .openBlock => go fuel (index + 1) (depth + 1)
      | some .closeBlock => if depth ≤ 1 then index else go fuel (index + 1) (depth - 1)
      | some _ => go fuel (index + 1) depth
      | none => index
  go (commands.size + 1) start 0

def labelPlace (commands : Array Command) (name : Raw) : Nat :=
  if name = [] then commands.size
  else (commands.findIdx? fun c => match c.action with
    | .label l => l = name
    | _ => false).getD commands.size

def execute (s : Setting) : (fuel : Nat) → (index : Nat) → Edit Ending
  | 0, _ => return .cycle
  | fuel + 1, index => do
    match s.commands[index]? with
    | none => return .cycle
    | some c =>
      let onward : Edit Ending := execute s fuel (index + 1)
      -- The address is looked at first in any case: ranges go on whether negated or not.
      if (← isMeant s index c) = c.isNegated then
        match c.action with
        | .openBlock => execute s fuel (blockEnd s.commands index + 1)
        | _ => onward
      else
        let d ← get
        match c.action with
        | .openBlock | .closeBlock | .label _ | .nothing => onward
        | .substitute sub =>
          let e ← meant sub.expression
          match substituted sub e d.line with
          | none => onward
          | some line =>
            modify fun d => { d with line, hasReplaced := true }
            if sub.runs then
              let (r, _) ← tool (Tool.outputOfLine line)
              modify fun d => { d with line := if r.getLast? = some '\n' then r.dropLast else r }
            if sub.prints then print s
            if let some name := sub.file then
              putLine s (← outputFor name) (← get).line (← get).isEnded
            onward
        | .exchangeChars source target =>
          let pairs := source.zip target
          modify fun d => { d with line := d.line.map fun c => (pairs.lookup c).getD c }
          onward
        | .delete => return .silent
        | .deleteFirst =>
          if d.line.contains '\n' then
            modify fun d => { d with line := (d.line.dropWhile (· ≠ '\n')).drop 1 }
            return .again
          else return .silent
        | .print =>
          print s
          onward
        | .printFirst =>
          putLine s standard (d.line.takeWhile (· ≠ '\n')) true
          onward
        | .quit quietly status => return .quit status !quietly
        | .next =>
          if ← isLast s then
            -- Without a next line the line is printed as at the end, except to the letter of POSIX.
            return .quit 0 (!(s.isPosix && s.isQuiet))
          else
            if !s.isQuiet then print s
            putLater s
            match ← nextLine? s with
            | some (line, isEnded) =>
              modify fun d => { d with line, isEnded }
              onward
            | none => return .cycle
        | .appendNext =>
          if ← isLast s then return .quit 0 !s.isPosix
          else
            putLater s
            match ← nextLine? s with
            | some (line, isEnded) =>
              modify fun d => { d with line := d.line ++ s.delimiter :: line, isEnded }
              onward
            | none => return .cycle
        | .hold adds =>
          modify fun d =>
            { d with held := if adds then d.held ++ s.delimiter :: d.line else d.line, isHeldEnded := d.isEnded }
          onward
        | .fetch adds =>
          modify fun d =>
            { d with line := if adds then d.line ++ s.delimiter :: d.held else d.held, isEnded := d.isHeldEnded }
          onward
        | .exchange =>
          modify fun d =>
            { d with line := d.held, isEnded := d.isHeldEnded, held := d.line, isHeldEnded := d.isEnded }
          onward
        | .empty =>
          modify fun d => { d with line := [] }
          onward
        | .number =>
          putText s standard (Raw.ofNat d.number ++ ['\n'])
          onward
        | .name =>
          putText s standard (d.name ++ ['\n'])
          onward
        | .list width =>
          putText s standard (listing (width.getD s.width) d.line)
          onward
        | .after r =>
          modify fun d => { d with later := .text r :: d.later }
          onward
        | .before r =>
          putText s standard r
          onward
        | .change r =>
          let isInside := match (d.ranges[index]?).getD .outside with
            | .inside _ => c.second.isSome
            | _ => false
          -- The text stands once for a range, at its end.
          if !isInside then putText s standard r
          return .silent
        | .readFile name =>
          modify fun d => { d with later := .file name :: d.later }
          onward
        | .readLine name =>
          let lines ← match d.sources.lookup name with
            | some lines => pure lines
            | none =>
              match ← tool (Tool.contentOf (if name = Raw.ascii "/dev/stdin" then ['-'] else name)) with
              | .ok r => pure (Raw.lines r)
              | .error _ => pure []
          modify fun d => { d with
            sources := (name, lines.drop 1) :: d.sources.filter (·.1 ≠ name)
            later := (lines.head?.map Later.line).toList ++ d.later }
          onward
        | .writeTo name =>
          putLine s (← outputFor name) d.line d.isEnded
          onward
        | .writeFirstTo name =>
          putLine s (← outputFor name) (d.line.takeWhile (· ≠ '\n')) true
          onward
        | .run command =>
          if command = [] then
            let (r, _) ← tool (Tool.outputOfLine d.line)
            modify fun d => { d with line := if r.getLast? = some '\n' then r.dropLast else r }
          else
            let (r, _) ← tool (Tool.outputOfLine command)
            putText s standard r
          onward
        | .branch name => execute s fuel (labelPlace s.commands name)
        | .branchIf name =>
          if d.hasReplaced then
            modify fun d => { d with hasReplaced := false }
            execute s fuel (labelPlace s.commands name)
          else onward
        | .branchUnless name =>
          if d.hasReplaced then
            modify fun d => { d with hasReplaced := false }
            onward
          else execute s fuel (labelPlace s.commands name)

/-- Works on lines up to the last one; the answer is the status. -/
def work (s : Setting) : (turns : Nat) → (again : Bool) → Edit Nat
  | 0, _ => return 0
  | turns + 1, again => do
    if !again then
      match ← nextLine? s with
      | none => return (← get).status
      | some (line, isEnded) => modify fun d => { d with line, isEnded, hasReplaced := false }
    match ← execute s Tool.manyTurns 0 with
    | .cycle =>
      if !s.isQuiet then print s
      putLater s
      work s turns false
    | .silent =>
      putLater s
      work s turns false
    | .again =>
      putLater s
      work s turns true
    | .quit status prints =>
      if prints then
        if !s.isQuiet then print s
        putLater s
      let failure := (← get).status
      -- An input that could not be read shows in the status, unless the script gives one.
      return if status = 0 then failure else status

end Edit

/-! ## The tool -/

def writtenFiles (commands : List Command) : List Raw :=
  (commands.filterMap fun c => match c.action with
    | .writeTo name | .writeFirstTo name => some name
    | .substitute sub => sub.file
    | _ => none).eraseDups

/-- The labels that a script jumps to without having them. -/
def missingLabel? (commands : List Command) : Option Raw :=
  commands.findSome? fun c => match c.action with
    | .branch name | .branchIf name | .branchUnless name =>
      if name = [] || commands.any (fun d => match d.action with
        | .label l => l = name
        | _ => false) then none
      else some name
    | _ => none

def sed : Tool Nat := do
  let c := Options.call {
    letters := "bsnrzuEe:f:l:i::V:"
    long := "binary=b regexp-extended=E debug=debug in-place::=i expression:=e file:=f line-length:=l " ++
      "null-data=z zero-terminated=z quiet=n posix=p silent=n sandbox=sandbox separate=s unbuffered=u " ++
      "follow-symlinks=follow" } (← readThe Self).args
  if c.has "help" || c.has "version" then Tool.exit 0
  if let some reason := c.mistake then Tool.fail reason
  let given := c.options.filter fun (key, _) => key = "e" || key = "f"
  let mut pieces : List (Origin × Raw) := []
  for ((key, value), i) in given.zipIdx do
    let value := value.getD []
    if key = "e" then
      let n := ((given.take (i + 1)).filter (·.1 = "e")).length
      pieces := pieces ++ [(.argument n, value)]
    else
      match ← Tool.contentOf value with
      | .ok r => pieces := pieces ++ [(.file value, r)]
      | .error e =>
        Tool.warn (Raw.ascii "couldn't open file " ++ value ++ Raw.ascii ": " ++ Raw.ascii e.text)
        Tool.exit 4
  let names ← if given.isEmpty then
      match c.operands with
      | [] => Tool.fail (Raw.ascii "no script specified")
      | script :: rest =>
        pieces := [(.argument 1, script)]
        pure rest
    else pure c.operands
  match readScript (c.has "E" || c.has "r") pieces with
  | .error reason => Tool.fail reason
  | .ok commands =>
    let writes (c : Command) : Bool := match c.action with
      | .writeTo _ | .writeFirstTo _ | .readFile _ | .readLine _ | .run _ => true
      | .substitute sub => sub.runs || sub.file.isSome
      | _ => false
    if c.has "sandbox" && commands.any writes then
      Tool.fail (located (.argument 1) 1 1 (Raw.ascii "e/r/w commands disabled in sandbox mode"))
    if let some name := missingLabel? commands then
      Tool.warn (Raw.ascii "can't find label for jump to \x60" ++ name ++ ['\''])
      Tool.exit 4
    let inPlace := if c.has "i" then some ((c.value? "i").getD []) else none
    if inPlace.isSome && names.isEmpty then
      Tool.warn (Raw.ascii "no input files")
      Tool.exit 4
    let mut outputs : List (Raw × Nat) := []
    for name in writtenFiles commands do
      if name = Raw.ascii "/dev/stdout" then
        outputs := (name, if inPlace.isSome then Edit.outside else Edit.standard) :: outputs
      else if name = Raw.ascii "/dev/stderr" then outputs := (name, 2) :: outputs
      else
        match ← Tool.openFile name .output with
        | .ok d => outputs := (name, d) :: outputs
        | .error e =>
          Tool.warn (Raw.ascii "couldn't open file " ++ name ++ Raw.ascii ": " ++ Raw.ascii e.text)
          Tool.exit 4
    let s : Setting := {
      commands := commands.toArray
      isQuiet := c.has "n" || isQuiet pieces
      isSeparate := c.has "s" || inPlace.isSome
      inPlace
      delimiter := if c.has "z" then '\x00' else '\n'
      width := ((c.value? "l").map fun r => (Raw.takeDigits 10 r.length 0 r).1).getD 70
      isPosix := c.has "p"
      isPrompt := c.has "u" }
    let ranges := s.commands.map fun c => match c.first with
      | some (.line 0) => Range.inside none
      | _ => .outside
    let desk : Desk := { ranges, outputs, names := if names.isEmpty then [['-']] else names }
    let (status, desk) ← (Edit.work s Tool.manyTurns false).run desk
    -- What was read too early is given back, where that is possible.
    if let some n := desk.descriptor then
      if inPlace.isSome then
        let rest ← Tool.takeAll n
        let finish : Edit Unit := do
          modify fun d => { d with changed := rest.toOption.getD [] :: d.buffer :: d.changed }
          Edit.closeInput s
        discard <| finish.run desk
      else Tool.perform fun next => .unread n desk.buffer.length (next ())
    return status

end Buildwatch.Machine.Editing
