import Buildwatch.Machine.Tool.Finding.Expression
import Buildwatch.Machine.Tool.Listing

/-!
# Finding files

The tool that walks through directories and asks an expression about everything that it
meets.
-/

namespace Buildwatch.Machine.Finding

open Tool

/-! ## Entries -/

structure Entry where
  path : Raw
  /-- The path that the walk began with. -/
  start : Raw
  depth : Nat
  node : Node

def baseOf (path : Raw) : Raw :=
  let bare := Names.withoutSlashes path
  if bare = [] then path.take 1
  else
    let name := (bare.reverse.takeWhile (· ≠ '/')).reverse
    name ++ path.drop bare.length

def frontOf (path : Raw) : Raw :=
  if path.contains '/' then ((path.reverse.dropWhile (· ≠ '/')).drop 1).reverse else ['.']

def kindLetter (n : Node) : Char := if n.isFile then 'f' else Modes.kindLetter n.content

def escapes : Raw → Raw
  | '\\' :: c :: r =>
    match c with
    | 'a' => '\x07' :: escapes r
    | 'b' => '\x08' :: escapes r
    | 'f' => '\x0c' :: escapes r
    | 'n' => '\n' :: escapes r
    | 'r' => '\r' :: escapes r
    | 't' => '\t' :: escapes r
    | 'v' => '\x0b' :: escapes r
    | '\\' => '\\' :: escapes r
    | c => '\\' :: c :: escapes r
  | c :: r => c :: escapes r
  | [] => []

def fact (v : View) (e : Entry) (letter : Char) : Option Raw :=
  let seconds (t : Int) : Raw := Calendar.ofMicros "%s" t ++ '.' :: Calendar.ofMicros "%N" t ++ ['0']
  let clock (t : Int) : Raw :=
    Calendar.ofMicros "%a %b %e %H:%M:%S." t ++ Calendar.ofMicros "%N" t ++ ['0'] ++ Calendar.ofMicros " %Y" t
  match letter with
  | 'p' => some e.path
  | 'f' => some (baseOf e.path)
  | 'h' => some (frontOf e.path)
  | 'P' => some ((e.path.drop e.start.length).dropWhile (· = '/'))
  | 'H' => some e.start
  | 's' => some (Raw.ofNat e.node.size)
  | 'd' => some (Raw.ofNat e.depth)
  | 'y' => some [kindLetter e.node]
  | 'Y' =>
    match v.find true e.path with
    | .ok (_, n) => some [kindLetter n]
    | .error .tooManyLinks => some ['L']
    | .error _ => some ['N']
  | 'm' => some (Modes.octal e.node.mode)
  | 'M' => some (Modes.ofNode e.node)
  | 'l' =>
    match e.node.content with
    | .link target => some (Raw.ofString target)
    | _ => some []
  | 'n' => some (Raw.ofNat (v.files.linkCount e.node))
  | 'u' | 'g' => some (Raw.ascii "root")
  | 'U' | 'G' => some ['0']
  | 'k' => some (Raw.ofNat (Listing.blocks e.node / 2))
  | 'b' => some (Raw.ofNat (Listing.blocks e.node))
  | 'i' => some (Listing.fact v [] e.node 'i')
  | 'D' => some (Raw.ascii "50")
  | 'F' => some (Raw.ascii "overlay")
  | 'S' => some ['1']
  | 't' | 'a' | 'c' => some (clock e.node.modified)
  | '@' => some (seconds e.node.modified)
  | _ => none

def formatted (v : View) (e : Entry) : (fuel : Nat) → Raw → Raw
  | 0, _ => []
  | _, [] => []
  | fuel + 1, '\\' :: c :: r =>
    if c = 'c' then []
    else if '0' ≤ c && c ≤ '7' then
      let (n, rest) := Raw.takeDigits 8 3 0 (c :: r)
      Char.ofNat (n % 256) :: formatted v e fuel rest
    else escapes ['\\', c] ++ formatted v e fuel r
  | fuel + 1, '%' :: '%' :: r => '%' :: formatted v e fuel r
  | fuel + 1, '%' :: r =>
    let flags := r.takeWhile fun c => "-+ #0".toList.contains c
    let rest := r.drop flags.length
    let (width, rest) := Raw.takeDigits 10 rest.length 0 rest
    let (places, rest) : Option Nat × Raw := match rest with
      | '.' :: more =>
        let (n, more) := Raw.takeDigits 10 more.length 0 more
        (some n, more)
      | more => (none, more)
    let lay (letter : Char) (text : Raw) : Raw :=
      let isNumber := letter = 'd' || letter = 'm'
      let text := match places with
        | some k => if isNumber then text else text.take k
        | none => text
      let missing := width - text.length
      if flags.contains '-' then text ++ List.replicate missing ' '
      else List.replicate missing (if flags.contains '0' && isNumber then '0' else ' ') ++ text
    match rest with
    | [] => '%' :: r
    | c :: more =>
      if c = 'T' || c = 'A' || c = 'C' || c = 'B' then
        match more with
        | '@' :: more => lay c ((fact v e '@').getD []) ++ formatted v e fuel more
        | k :: more =>
          let text := if k = 'T' || k = 'S' then
              Calendar.text ['%', k] (.ofMicros e.node.modified) ++ Calendar.ofMicros ".%N" e.node.modified ++ ['0']
            else if k = '+' then
              Calendar.ofMicros "%Y-%m-%d+%H:%M:%S.%N" e.node.modified ++ ['0']
            else Calendar.text ['%', k] (.ofMicros e.node.modified)
          lay c text ++ formatted v e fuel more
        | [] => []
      else
        match fact v e c with
        | some text => lay c text ++ formatted v e fuel more
        | none => '%' :: c :: formatted v e fuel more
  | fuel + 1, c :: r => c :: formatted v e fuel r

/-- What is wrong with a form: it breaks off, or has directives that stand for nothing. -/
def formFaults : (fuel : Nat) → Raw → Except Raw (List Raw)
  | 0, _ => .ok []
  | _, [] => .ok []
  | fuel + 1, '%' :: '%' :: r => formFaults fuel r
  | fuel + 1, '%' :: r =>
    match r.dropWhile fun c => "-+ #0123456789.".toList.contains c with
    | [] => .error (Raw.ascii "error: % at end of format string")
    | c :: more =>
      if "abcdDfFgGhHiklmMnpPsStuUyYTACB".toList.contains c then formFaults fuel more
      else do .ok ((Raw.ascii "warning: unrecognized format directive \x60%" ++ [c, '\'']) :: (← formFaults fuel more))
  | fuel + 1, '\\' :: c :: r =>
    if "abcfnrtv\\01234567".toList.contains c then formFaults fuel r
    else do .ok ((Raw.ascii "warning: unrecognized escape \x60\\" ++ [c, '\'']) :: (← formFaults fuel r))
  | fuel + 1, _ :: r => formFaults fuel r

/-- An entry in the form of a long list. -/
def listed (v : View) (e : Entry) : Raw :=
  let column (width : Nat) (r : Raw) : Raw := Raw.padLeft width r
  let left (width : Nat) (r : Raw) : Raw := Listing.padRight width r
  let f (letter : Char) : Raw := (fact v e letter).getD []
  let time := Listing.timeText {} v.now e.node.modified
  let target : Raw := match e.node.content with
    | .link t => Raw.ascii " -> " ++ Raw.ofString t
    | _ => []
  column 9 (f 'i') ++ [' '] ++ column 6 (f 'k') ++ [' '] ++ f 'M' ++ [' '] ++ column 3 (f 'n') ++ [' '] ++
    left 8 (f 'u') ++ [' '] ++ left 8 (f 'g') ++ [' '] ++ column 8 (f 's') ++ [' '] ++ time ++ [' '] ++
    e.path ++ target ++ ['\n']

/-! ## The walk -/

/-- Entries that a command is still to be run with, latest first. -/
structure Batch where
  number : Nat
  command : List Raw
  directory : Option Raw
  paths : List Raw

structure Hunt where
  isWhole : Bool := true
  hasQuit : Bool := false
  isPruned : Bool := false
  batches : List Batch := []
  /-- Open files that something is printed to. -/
  sinks : List (Raw × Nat) := []

abbrev Walk := StateT Hunt Tool

def complain (r : Raw) : Walk Unit := do
  StateT.lift (warn r)
  modify fun h => { h with isWhole := false }

def put (sink : Sink) (r : Raw) : Walk Unit := do
  match sink with
  | none => StateT.lift (say r)
  | some name =>
    match (← get).sinks.lookup name with
    | some 1 => StateT.lift (say r)
    | some d => discard <| StateT.lift (writeTo d r)
    | none => pure ()

def carryOut (directory : Option Raw) (words : List Raw) : Tool (Option ExitStatus) := do
  let home := (← view).cwd
  match directory with
  | some d =>
    -- The working directory is one of the tool, so it is put back before waiting.
    let place := (((← view).find true d).toOption.map (·.1)).getD home
    adjust fun t => { t with cwd := place }
  | none => pure ()
  let started ← launch words []
  adjust fun t => { t with cwd := home }
  match started with
  | .ok pid => await pid none
  | .error e =>
    warn (Quoting.plain (words.head?.getD []) ++ Raw.ascii ": " ++ Raw.ascii e.text)
    return none

/-- The directory of an entry, and its path as seen from there. -/
def fromDirectory (path : Raw) : Raw × Raw :=
  let base := baseOf path
  let front := (path.take (path.length - base.length))
  if base.head? = some '/' then (['/'], base)
  else (if front = [] then ['.'] else front, '.' :: '/' :: base)

def finishBatch (b : Batch) : Walk Unit := do
  if b.paths.isEmpty then return
  match ← StateT.lift (carryOut b.directory (b.command ++ b.paths.reverse)) with
  | some (.code 0) => pure ()
  | _ => modify fun h => { h with isWhole := false }

def withEntry (path : Raw) : (fuel : Nat) → Raw → Raw
  | 0, r => r
  | fuel + 1, '\x7b' :: '\x7d' :: r => path ++ withEntry path fuel r
  | fuel + 1, c :: r => c :: withEntry path fuel r
  | _, [] => []

/-- Asks whether a command is to be run. -/
def confirm (name path : Raw) : Tool Bool := do
  report (Raw.ascii "< " ++ name ++ Raw.ascii " ... " ++ path ++ Raw.ascii " > ? ")
  Making.isAgreed

def answer (s : Setting) (e : Entry) (q : Query) : Walk Bool := do
  let folded (ignoresCase : Bool) (r : Raw) : Raw := if ignoresCase then r.map Char.toLower else r
  let v ← StateT.lift view
  let age : Int := (s.dayStart.getD v.now) - e.node.modified
  match q with
  | .constant b => return b
  | .name ic p =>
    let base := Names.withoutSlashes (baseOf e.path)
    return Pattern.accepts p (folded ic (if base = [] then ['/'] else base))
  | .path ic p => return Pattern.accepts p (folded ic e.path)
  | .target ic p =>
    match e.node.content with
    | .link t => return Pattern.accepts p (folded ic (Raw.ofString t))
    | _ => return false
  | .expression x =>
    -- The whole path has to match.
    return (x.atStart? e.path).any fun m => m.rest = []
  | .kind isFollowed letters =>
    let node := if isFollowed then
        (v.node? (s.following ≠ .all) e.path).getD e.node
      else e.node
    return letters.contains (kindLetter node)
  | .empty =>
    match e.node.content with
    | .directory => return (v.names e.path).isEmpty
    | .file r => return r.isEmpty
    | _ => return false
  | .size unit b => return b.accepts ((e.node.size + unit - 1) / unit)
  | .newer t => return t < e.node.modified
  -- Begun minutes count, but only a number that is given exactly is rounded.
  | .minutes b =>
    match b with
    | .exactly n => return (age + 59999999) / 60000000 = n
    | .more n => return (n : Int) * 60000000 < age
    | .less n => return age < (n : Int) * 60000000
  | .days b => return b.accepts (age / 86400000000).toNat
  | .rights manner mode =>
    let own := e.node.mode
    match manner with
    | '-' => return own &&& mode = mode
    | '/' => return mode = 0 || own &&& mode ≠ 0
    | _ => return own = mode
  | .access bits => return bits = 0 || e.node.isDirectory || e.node.mode &&& bits ≠ 0
  | .links b => return b.accepts (v.files.linkCount e.node)
  | .number b => return b.accepts ((Raw.natural? (Listing.fact v [] e.node 'i')).getD 0)
  | .same n => return e.node.number = n
  | .owner isRoot => return isRoot
  | .prune =>
    modify fun h => { h with isPruned := true }
    return true
  | .quit =>
    modify fun h => { h with hasQuit := true }
    return true
  | .print sink ending =>
    put sink (e.path ++ [ending])
    return true
  | .format sink form =>
    put sink (formatted v e (form.length + 1) form)
    return true
  | .listing sink =>
    put sink (listed v e)
    return true
  | .delete =>
    -- The directory that the walk began with stays.
    if e.path = ['.'] then return true
    let outcome ← StateT.lift (edit fun v =>
      match if e.node.isDirectory then v.removeDirectory e.path else v.removeName e.path with
      | .ok files => (none, files)
      | .error reason => (some reason, v.files))
    match outcome with
    | none => return true
    | some reason =>
      complain (Raw.ascii "cannot delete " ++ Quoting.plain e.path ++ Raw.ascii ": " ++ Raw.ascii reason.text)
      return false
  | .run asks inPlace command =>
    let (directory, path) := if inPlace then
        let (d, p) := fromDirectory e.path
        (some d, p)
      else (none, e.path)
    let words := command.map fun w => withEntry path (w.length + 1) w
    let isAllowed ← if asks then StateT.lift (confirm (command.head?.getD []) path) else pure true
    if !isAllowed then return false
    return (← StateT.lift (carryOut directory words)) = some (.code 0)
  | .runMany number inPlace command =>
    let (directory, path) := if inPlace then
        let (d, p) := fromDirectory e.path
        (some d, p)
      else (none, e.path)
    let h ← get
    match h.batches.find? (·.number = number) with
    | some b =>
      -- A command line may not grow beyond what a program can be given.
      if b.directory = directory && Raw.total (b.paths.map (·.length + 1)) < 100000 then
        let add (b : Batch) : Batch := if b.number = number then { b with paths := path :: b.paths } else b
        set { h with batches := h.batches.map add }
      else
        finishBatch b
        let restart (b : Batch) : Batch := if b.number = number then { b with paths := [path], directory } else b
        modify fun h => { h with batches := h.batches.map restart }
    | none => set { h with batches := h.batches ++ [({ number, command, directory, paths := [path] } : Batch)] }
    return true

def holds (s : Setting) (e : Entry) : Expression → Walk Bool
  | .one q => answer s e q
  | .negated x => do return !(← holds s e x)
  | .both a b => do
    if ← holds s e a then
      -- Once the walk is over nothing more is asked, on either side.
      if (← get).hasQuit then return true
      holds s e b
    else return false
  | .either a b => do
    if ← holds s e a then return true
    if (← get).hasQuit then return true
    holds s e b
  | .sequence a b => do
    discard <| holds s e a
    if (← get).hasQuit then return true
    holds s e b

def nodeAt (v : View) (follows : Bool) (path : Raw) : Except FileError Node :=
  match v.find follows path with
  | .ok (_, node) => .ok node
  | .error e =>
    -- A link that leads nowhere is met as itself.
    if follows then
      match v.find false path with
      | .ok (_, node) => .ok node
      | .error _ => .error e
    else .error e

def visit (s : Setting) (x : Expression) : (fuel : Nat) → (start path : Raw) → (depth : Nat) → Walk Unit
  | 0, _, _, _ => return
  | fuel + 1, start, path, depth => do
    if (← get).hasQuit then return
    let follows := s.following = .all || (s.following = .given && depth = 0)
    match nodeAt (← StateT.lift view) follows path with
    | .error e => complain (Quoting.plain path ++ Raw.ascii ": " ++ Raw.ascii e.text)
    | .ok node =>
      let e : Entry := { path, start, depth, node }
      let isMeant := s.least ≤ depth && !s.most.any (· < depth)
      let consider : Walk Unit := do
        modify fun h => { h with isPruned := false }
        if isMeant then discard <| holds s e x
      if !s.depthFirst then consider
      -- What is visited after its entries cannot keep the walk from them.
      let isPruned := !s.depthFirst && (← get).isPruned
      if node.isDirectory && !isPruned && !(← get).hasQuit && !s.most.any (· ≤ depth) then
        for name in (← StateT.lift view).names path do
          visit s x fuel start (Names.inside path name) (depth + 1)
      if s.depthFirst && !(← get).hasQuit then consider

/-! ## The tool -/

/-- The files that something is printed to. -/
def Expression.sinks : Expression → List Raw
  | .one (.print (some s) _) | .one (.format (some s) _) | .one (.listing (some s)) => [s]
  | .one _ => []
  | .negated e => e.sinks
  | .both a b | .either a b | .sequence a b => a.sinks ++ b.sinks

def Expression.forms : Expression → List Raw
  | .one (.format _ form) => [form]
  | .one _ => []
  | .negated e => e.forms
  | .both a b | .either a b | .sequence a b => a.forms ++ b.forms

def leading : List Raw → Following → List Raw × Following
  | ['-', 'P'] :: args, _ => leading args .none
  | ['-', 'H'] :: args, _ => leading args .given
  | ['-', 'L'] :: args, _ => leading args .all
  | ('-' :: 'O' :: _) :: args, f => leading args f
  | ['-', 'D'] :: args, f => (args.drop 1, f)
  | ['-', '-'] :: args, f => (args, f)
  | args, f => (args, f)

def find : Tool Nat := do
  let (args, following) := leading (← read).args .none
  if args.contains (Raw.ascii "--help") || args.contains (Raw.ascii "--version") then return 0
  let paths := args.takeWhile fun a => !isExpression true a
  let v ← view
  let cursor : Cursor := { rest := args.drop paths.length, setting := { following }, now := v.now, view := v }
  match (tokens (args.length + 1)).run cursor with
  | .error reasons =>
    for r in reasons do warn r
    return 1
  | .ok (_, cursor) =>
    match assemble cursor.tokens.reverse with
    | .error reason => fail reason
    | .ok x =>
      for form in x.forms do
        match formFaults (form.length + 1) form with
        | .error reason => fail reason
        | .ok warnings => for w in warnings do warn w
      let mut sinks : List (Raw × Nat) := []
      for name in x.sinks.eraseDups do
        if name = Raw.ascii "/dev/stdout" then sinks := (name, 1) :: sinks
        else if name = Raw.ascii "/dev/stderr" then sinks := (name, 2) :: sinks
        else
          match ← openFile name .output with
          | .ok d => sinks := (name, d) :: sinks
          | .error e => fail (Quoting.plain name ++ Raw.ascii ": " ++ Raw.ascii e.text)
      let walk : Walk Unit := do
        for path in if paths.isEmpty then [['.']] else paths do
          visit cursor.setting x 200 path path 0
        for b in (← get).batches do finishBatch b
      let (_, h) ← walk.run { sinks }
      return statusOf h.isWhole

end Buildwatch.Machine.Finding
