import Buildwatch.Machine.Tool.Calendar
import Buildwatch.Machine.Tool.Modes
import Buildwatch.Machine.Tool.Names
import Buildwatch.Machine.Tool.Numbers

/-!
# Making files

Tools that make files, directories and further names, and that change their times, rights
and sizes.
-/

namespace Buildwatch.Machine.Making

/-! ## Changes -/

def attempt (f : View → View.Changed) : Tool (Option FileError) :=
  Tool.edit fun v =>
    match f v with
    | .ok files => (none, files)
    | .error e => (some e, v.files)

/-- A complaint such as `mkdir: cannot create directory 'x': File exists`. -/
def complain (what : String) (path : Raw) (e : FileError) : Tool Unit :=
  Tool.warn (Raw.ascii what ++ [' '] ++ Quoting.always path ++ Raw.ascii ": " ++ Raw.ascii e.text)

/-- Whether the next line of the standard input begins with a yes. -/
def isAgreed : Tool Bool := do
  let rec answer : Nat → Raw → Tool Raw
    | 0, line => return line
    | turns + 1, line => do
      match ← Tool.take 0 1 with
      | .ok ['\n'] => return line
      | .ok (c :: _) => answer turns (line ++ [c])
      | _ => return line
  let line ← answer Tool.manyTurns []
  return line.head? = some 'y' || line.head? = some 'Y'

def ask (question : Raw) : Tool Bool := do
  Tool.report ((← read).label ++ Raw.ascii ": " ++ question ++ Raw.ascii "? ")
  isAgreed

def needOperands (c : Call) (what : String) : Tool Unit := do
  if c.operands.isEmpty then Tool.misuse (Raw.ascii ("missing " ++ what))

/-! ## Times -/

def touch : Tool Nat := do
  let c ← Tool.call {
    letters := "acd:fhmr:t:"
    long := "time:=time no-create=c date:=d reference:=r no-dereference=h" }
  let v ← Tool.view
  let now ← match c.value? "t", c.value? "d", c.value? "r" with
    | some r, _, _ =>
      match Calendar.readDigits? v.now r with
      | some t => pure t
      | none => Tool.fail (Raw.ascii "invalid date format " ++ Quoting.always r)
    | none, some r, _ =>
      match Calendar.read? v.now r with
      | some t => pure t
      | none => Tool.fail (Raw.ascii "invalid date format " ++ Quoting.always r)
    | none, none, some r =>
      match v.find (!c.has "h") r with
      | .ok (_, node) => pure node.modified
      | .error e =>
        Tool.fail (Raw.ascii "failed to get attributes of " ++ Quoting.always r ++ Raw.ascii ": " ++
          Raw.ascii e.text)
    | none, none, none => pure v.now
  needOperands c "file operand"
  -- Times of access are not kept, so asking for these alone changes nothing.
  let changesTime := c.has "m" || !c.has "a"
  let mut status := 0
  for path in c.operands do
    if !Tool.isStandard path then
      let v ← Tool.view
      let failure ← match v.find (!c.has "h") path with
        | .ok _ => pure none
        | .error .notFound =>
          if path = [] then pure (some .notFound)
          -- What is not there is not made through a link that is not followed.
          else if c.has "c" || c.has "h" then pure none
          else
            match ← Tool.openFile path .append with
            | .ok d =>
              Tool.close d
              pure none
            | .error e => pure (some e)
        | .error e => pure (some e)
      match failure with
      | some e =>
        complain "cannot touch" path e
        status := 1
      | none =>
        if changesTime then
          discard <| attempt fun v => v.change (!c.has "h") path fun n => { n with modified := now }
  return status

/-! ## Directories -/

def modeChange (what : String) (r : Raw) : Tool Modes.Change := do
  match Modes.read? r with
  | some m => return m
  | none => Tool.fail (Raw.ascii what ++ [' '] ++ Quoting.always r)

def setMode (m : Option Modes.Change) (path : Raw) : Tool Unit := do
  match m with
  | some m =>
    discard <| attempt fun v =>
      v.change true path fun n => { n with mode := m.apply v.umask n.isDirectory 0o777 }
  | none => pure ()

/-- The paths of a path's directories, the outermost first, and the path itself. -/
def stages (path : Raw) : List Raw :=
  let cuts := (List.range path.length).filter fun i =>
    path[i]? = some '/' && 0 < i && path[i - 1]? ≠ some '/' && (path.drop i).any (· ≠ '/')
  cuts.map path.take ++ [path]

/-- Makes a directory and those on the way to it. The answer is whether it is there. -/
def makeAll (path : Raw) (onMade : Raw → Tool Unit) : Tool Bool := go (stages path)
where
  go : List Raw → Tool Bool
    | [] => return true
    | p :: ps => do
      if (← Tool.view).isDirectory p then go ps
      else
        match ← attempt (·.makeDirectory p 0o777) with
        | none =>
          onMade p
          go ps
        | some e =>
          -- A file on the way is no directory; a file in the last place exists.
          let e := if e = .exists && ps ≠ [] then .notDirectory else e
          complain "cannot create directory" p e
          return false

def mkdir : Tool Nat := do
  let c ← Tool.call { letters := "m:pvZ", long := "mode:=m parents=p verbose=v context::=Z" }
  needOperands c "operand"
  let mode ← (c.value? "m").mapM (modeChange "invalid mode")
  let tell (path : Raw) : Tool Unit := do
    if c.has "v" then
      Tool.sayLine ((← read).label ++ Raw.ascii ": created directory " ++ Quoting.always path)
  let mut status := 0
  for path in c.operands do
    if c.has "p" then
      let isNew := !(← Tool.view).isDirectory path
      if ← makeAll path tell then
        if isNew then setMode mode path
      else status := 1
    else
      match ← attempt (·.makeDirectory path 0o777) with
      | none =>
        tell path
        setMode mode path
      | some e =>
        complain "cannot create directory" path e
        status := 1
  return status

/-- The directories on the way to a path, the innermost first. -/
def parents : (fuel : Nat) → Raw → List Raw
  | 0, _ => []
  | fuel + 1, path =>
    if path.contains '/' then
      let p := Names.withoutSlashes ((path.reverse.dropWhile (· ≠ '/')).reverse)
      if p = [] then [] else p :: parents fuel p
    else []

def rmdir : Tool Nat := do
  let c ← Tool.call { letters := "pv", long := "parents=p verbose=v ignore-fail-on-non-empty=ignore" }
  needOperands c "operand"
  let tell (path : Raw) : Tool Unit := do
    if c.has "v" then
      Tool.sayLine ((← read).label ++ Raw.ascii ": removing directory, " ++ Quoting.always path)
  let rec removeAll (what : String) : List Raw → Tool Bool
    | [] => return true
    | p :: ps => do
      tell p
      match ← attempt (·.removeDirectory p) with
      | none => removeAll "failed to remove directory" ps
      | some e =>
        if e = .notEmpty && c.has "ignore" then return true
        complain what p e
        return false
  let mut status := 0
  for path in c.operands do
    let bare := Names.withoutSlashes path
    let others := if c.has "p" then parents bare.length bare else []
    if !(← removeAll "failed to remove" (path :: others)) then status := 1
  return status

/-! ## Names -/

def link : Tool Nat := do
  let c ← Tool.call { letters := "" }
  match c.operands with
  | [] => Tool.misuse (Raw.ascii "missing operand")
  | [a] => Tool.misuse (Raw.ascii "missing operand after " ++ Quoting.plain a)
  | [a, b] =>
    match ← attempt (·.addName false a b) with
    | none => return 0
    | some e =>
      Tool.fail (Raw.ascii "cannot create link " ++ Quoting.always b ++ Raw.ascii " to " ++
        Quoting.always a ++ Raw.ascii ": " ++ Raw.ascii e.text)
  | _ :: _ :: extra :: _ => Tool.misuse (Raw.ascii "extra operand " ++ Quoting.plain extra)

def unlink : Tool Nat := do
  let c ← Tool.call { letters := "" }
  match c.operands with
  | [] => Tool.misuse (Raw.ascii "missing operand")
  | [a] =>
    match ← attempt (·.removeName a) with
    | none => return 0
    | some e =>
      Tool.fail (Raw.ascii "cannot unlink " ++ Quoting.always a ++ Raw.ascii ": " ++ Raw.ascii e.text)
  | _ :: extra :: _ => Tool.misuse (Raw.ascii "extra operand " ++ Quoting.plain extra)

/-- Where several things are to go: the operands that go there, and the directory or the path
that is the target itself. -/
inductive Target
  | directory (path : Raw)
  | path (path : Raw)

/-- The sources and the target among the operands of a tool that copies, moves or links. -/
def targetOf (c : Call) (isPlainLink : Bool) : Tool (List Raw × Target) := do
  match c.value? "t" with
  | some d =>
    if c.has "T" then Tool.fail (Raw.ascii "cannot combine --target-directory (-t) and --no-target-directory (-T)")
    if c.operands.isEmpty then Tool.misuse (Raw.ascii "missing file operand")
    match (← Tool.view).find true d with
    | .ok (_, node) =>
      if !node.isDirectory then
        Tool.fail (Raw.ascii "target directory " ++ Quoting.always d ++ Raw.ascii ": Not a directory")
    | .error e =>
      Tool.fail (Raw.ascii "target directory " ++ Quoting.always d ++ Raw.ascii ": " ++ Raw.ascii e.text)
    return (c.operands, .directory d)
  | none =>
    match c.operands.reverse with
    | [] => Tool.misuse (Raw.ascii "missing file operand")
    | [a] =>
      -- A link needs no second name: it gets the last one of its source, here.
      if isPlainLink && !c.has "T" then return ([a], .directory ['.'])
      else Tool.misuse (Raw.ascii "missing destination file operand after " ++ Quoting.always a)
    | last :: sources =>
      if c.has "T" then
        if let some extra := c.operands[2]? then
          Tool.misuse (Raw.ascii "extra operand " ++ Quoting.always extra)
        return (sources, .path last)
      let v ← Tool.view
      -- A link to a directory is replaced as a link where it is not to be followed.
      let isLink := c.has "n" && isPlainLink && (v.node? false last).any fun n => !n.isDirectory
      if v.isDirectory last && !isLink then return (sources.reverse, .directory last)
      else if sources.length = 1 then return (sources, .path last)
      else
        let reason := match v.find true last with
          | .ok _ => FileError.notDirectory
          | .error e => e
        Tool.fail (Raw.ascii "target " ++ Quoting.always last ++ Raw.ascii ": " ++ Raw.ascii reason.text)

/-- The path that something gets at a target. -/
def Target.pathFor (t : Target) (source : Raw) : Raw :=
  match t with
  | .directory d => Names.inside d (Names.last source)
  | .path p => p

def backupName (v : View) (c : Call) (path : Raw) : Raw :=
  let ending := (c.value? "S").getD ['~']
  let numbered (n : Nat) : Raw := path ++ Raw.ascii ".~" ++ Raw.ofNat n ++ ['~']
  -- The latest number is one more than the largest one there.
  let taken := (List.range 100).filter fun n => (v.node? false (numbered n)).isSome
  let next := (taken.getLast?.map (· + 1)).getD 1
  match (c.value? "backup").map String.ofList with
  | some "numbered" | some "t" => numbered next
  | some "existing" | some "nil" => if taken.isEmpty then path ++ ending else numbered next
  | _ => path ++ ending

def keepsBackup (c : Call) : Bool :=
  c.has "b" || c.has "S" || (c.has "backup" && !(c.value? "backup").any fun r =>
    ["none", "off"].contains (String.ofList r))

def ln : Tool Nat := do
  let c ← Tool.call {
    letters := "bdfinrst:vFLPS:T"
    long := "symbolic=s force=f no-dereference=n verbose=v relative=r target-directory:=t " ++
      "no-target-directory=T backup::=backup interactive=i logical=L physical=P suffix:=S directory=d" }
  let (sources, target) ← targetOf c true
  let isSymbolic := c.has "s"
  let what := if isSymbolic then "symbolic" else "hard"
  let mut status := 0
  for source in sources do
    let path := target.pathFor source
    let v ← Tool.view
    let referent := if isSymbolic then none else some (v.find (c.has "L") source)
    let failure : Option Raw := match referent with
      | some (.error e) =>
        some (Raw.ascii "failed to access " ++ Quoting.always source ++ Raw.ascii ": " ++ Raw.ascii e.text)
      | some (.ok (_, node)) =>
        if node.isDirectory then some (Quoting.ifNeeded source ++ Raw.ascii ": hard link not allowed for directory")
        else none
      | none => none
    match failure with
    | some r =>
      Tool.warn r
      status := 1
    | none =>
      let there := v.node? false path
      -- Replacing a file by a link to itself would lose it.
      let isSame := match v.find false source, v.find false path with
        | .ok (a, m), .ok (b, n) => a = b || (!isSymbolic && m.number = n.number && Names.last source = Names.last path && a = b)
        | _, _ => false
      let replaces := there.isSome && (c.has "f" || c.has "i" || keepsBackup c)
      let isAllowed ← if there.isSome && c.has "i" then ask (Raw.ascii "replace " ++ Quoting.always path) else pure true
      if replaces && isSame then
        Tool.warn (Quoting.always source ++ Raw.ascii " and " ++ Quoting.always path ++ Raw.ascii " are the same file")
        status := 1
      else if !isAllowed then status := 1
      else
        if replaces && keepsBackup c then
          discard <| attempt fun v => v.rename path (backupName v c path)
        else if replaces then discard <| attempt (·.removeName path)
        let text := if c.has "r" && isSymbolic then
            match Names.place v .nothing (Names.directory path), Names.place v .nothing source with
            | .ok d, .ok s => Names.relative d s
            | _, _ => source
          else source
        let failure ← attempt fun v =>
          if isSymbolic then v.makeLink text path else v.addName (c.has "L") source path
        match failure with
        | some e =>
          complain ("failed to create " ++ what ++ " link") path e
          status := 1
        | none =>
          if c.has "v" then
            let arrow := if isSymbolic then " -> " else " => "
            Tool.sayLine (Quoting.always path ++ Raw.ascii arrow ++ Quoting.always text)
  return status

/-- The random ending of a name, made from a seed. -/
def randomLetters (seed : Nat) : (count : Nat) → Raw
  | 0 => []
  | count + 1 =>
    let seed := (seed * 6364136223846793005 + 1442695040888963407) % Raw.wordLimit
    let letters := "abcdefghijklmnopqrstuvwxyzABCDEFGHIJKLMNOPQRSTUVWXYZ0123456789".toList
    (letters[seed / Nat.pow 2 40 % 62]?).getD 'a' :: randomLetters seed count

def mktemp : Tool Nat := do
  let c ← Tool.call {
    letters := "dp:qtuV", long := "directory=d quiet=q dry-run=u suffix:=suffix tmpdir::=tmpdir" }
  let complainIf (r : Raw) : Tool Nat := do
    if c.has "q" then Tool.exit 1 else Tool.fail r
  if 1 < c.operands.length then Tool.misuse (Raw.ascii "too many templates")
  let template := c.operands.head?.getD (Raw.ascii "tmp.XXXXXXXXXX")
  let runEnd := (template.reverse.dropWhile (· ≠ 'X')).length
  let (front, tail) := match c.value? "suffix" with
    | some s => (template, s)
    | none => (template.take runEnd, template.drop runEnd)
  let marks := (front.reverse.takeWhile (· = 'X')).length
  if (c.value? "suffix").isSome && front.getLast? ≠ some 'X' then
    return ← complainIf (Raw.ascii "with --suffix, template " ++ Quoting.plain template ++ Raw.ascii " must end in X")
  if tail.contains '/' then
    return ← complainIf (Raw.ascii "invalid suffix " ++ Quoting.plain tail ++ Raw.ascii ", contains directory separator")
  if marks < 3 then
    return ← complainIf (Raw.ascii "too few X's in template " ++ Quoting.plain template)
  let v ← Tool.view
  let inherited := ((v.environment.lookup (Raw.ascii "TMPDIR")).filter (· ≠ [])).getD (Raw.ascii "/tmp")
  let directory : Option Raw :=
    if c.has "t" then some (((v.environment.lookup (Raw.ascii "TMPDIR")).filter (· ≠ [])).getD
      ((c.value? "p").getD inherited))
    else
      match c.value? "p", c.has "tmpdir", c.operands.isEmpty with
      | some d, _, _ => some (if d = [] then inherited else d)
      | none, true, _ => some ((c.value? "tmpdir").getD inherited)
      | none, false, true => some inherited
      | none, false, false => none
  if c.has "t" && template.contains '/' then
    return ← complainIf (Raw.ascii "invalid template, " ++ Quoting.plain template ++ Raw.ascii ", contains directory separator")
  if directory.isSome && template.head? = some '/' && !c.operands.isEmpty then
    return ← complainIf (Raw.ascii "invalid template, " ++ Quoting.plain template ++
      Raw.ascii "; with --tmpdir, it may not be absolute")
  let place (r : Raw) : Raw := (directory.map (Names.inside · r)).getD r
  -- Process and time make the name different from those of earlier calls.
  let seed := v.pid * 1000003 + v.clock
  let name := place (front.take (front.length - marks) ++ randomLetters seed marks ++ tail)
  if c.has "u" then
    Tool.sayLine name
    return 0
  let failure ← attempt fun v =>
    if c.has "d" then v.create name .directory (v.masked 0o700) else v.create name (.file []) (v.masked 0o600)
  match failure with
  | none =>
    Tool.sayLine name
    return 0
  | some e =>
    let what := if c.has "d" then "failed to create directory via template " else "failed to create file via template "
    complainIf (Raw.ascii what ++ Quoting.plain (place (front ++ tail)) ++ Raw.ascii ": " ++ Raw.ascii e.text)

def mkfifo : Tool Nat := do
  let c ← Tool.call { letters := "m:Z", long := "mode:=m context::=Z" }
  needOperands c "operand"
  let mode ← (c.value? "m").mapM (modeChange "invalid mode")
  let mut status := 0
  for path in c.operands do
    match ← attempt fun v => v.create path (.device .fifo) (v.masked 0o666) with
    | none =>
      if let some m := mode then
        discard <| attempt fun v => v.change true path fun n => { n with mode := m.apply v.umask false 0o666 }
    | some e =>
      complain "cannot create fifo" path e
      status := 1
  return status

/-! ## Rights -/

def rightLetters : List String := ["r", "w", "x", "X", "s", "t", "u", "g", "o", "a"]

def chmod : Tool Nat := do
  let c ← Tool.call {
    letters := "Rcfvr::w::x::X::s::t::u::g::o::a::"
    long := "changes=c recursive=R silent=f quiet=f verbose=v reference:=reference preserve-root=ignored " ++
      "no-preserve-root=ignored" }
  -- Rights that are taken away look like options.
  let taken := c.options.filterMap fun (key, value) =>
    if rightLetters.contains key then some ('-' :: key.toList ++ value.getD []) else none
  let (given, paths) : Option Raw × List Raw :=
    if c.has "reference" then (none, c.operands)
    else if taken.isEmpty then (c.operands.head?, c.operands.drop 1)
    else (some (Raw.join [','] taken), c.operands)
  if given.isNone && !c.has "reference" then Tool.misuse (Raw.ascii "missing operand")
  if paths.isEmpty then
    match c.operands.head? with
    | some o => Tool.misuse (Raw.ascii "missing operand after " ++ Quoting.always o)
    | none => Tool.misuse (Raw.ascii "missing operand")
  let change ← match given, c.value? "reference" with
    | some r, _ =>
      match Modes.read? r with
      | some m => pure m
      | none => Tool.misuse (Raw.ascii "invalid mode: " ++ Quoting.always r)
    | none, some r =>
      match (← Tool.view).find true r with
      | .ok (_, node) => pure (.digits node.mode true)
      | .error e =>
        Tool.fail (Raw.ascii "failed to get attributes of " ++ Quoting.always r ++ Raw.ascii ": " ++
          Raw.ascii e.text)
    | none, none => pure (.digits 0 true)
  let shown (mode : Nat) : Raw :=
    let digits := Modes.octal mode
    List.replicate (4 - digits.length) '0' ++ digits ++ Raw.ascii " (" ++ Modes.letters mode ++ [')']
  let mut status := 0
  for operand in paths do
    let all ← if c.has "R" then pure (Names.withContents (← Tool.view) operand) else pure [operand]
    for path in all do
      let v ← Tool.view
      let isInner := path ≠ operand
      match v.find false path, v.find true path with
      -- Links on the way through a tree are left alone; one that was named is followed.
      | .ok (_, { content := .link _, .. }), .error _ =>
        if isInner then
          if c.has "v" then
            Tool.sayLine (Raw.ascii "neither symbolic link " ++ Quoting.always path ++
              Raw.ascii " nor referent has been changed")
        else
          if !c.has "f" then
            Tool.warn (Raw.ascii "cannot operate on dangling symlink " ++ Quoting.always path)
          status := 1
      | _, .error e =>
        if !c.has "f" then complain "cannot access" path e
        if c.has "v" then Tool.sayLine (Quoting.always path ++ Raw.ascii " could not be accessed")
        status := 1
      | .ok (_, { content := .link _, .. }), .ok (_, node) =>
        if isInner then
          if c.has "v" then
            Tool.sayLine (Raw.ascii "neither symbolic link " ++ Quoting.always path ++
              Raw.ascii " nor referent has been changed")
        else apply c change shown path node
      | _, .ok (_, node) => apply c change shown path node
  return status
where
  apply (c : Call) (change : Modes.Change) (shown : Nat → Raw) (path : Raw) (node : Node) : Tool Unit := do
    let v ← Tool.view
    let mode := change.apply v.umask node.isDirectory node.mode
    discard <| attempt (·.change true path fun n => { n with mode })
    if node.mode ≠ mode then
      if c.has "v" || c.has "c" then
        Tool.sayLine (Raw.ascii "mode of " ++ Quoting.always path ++ Raw.ascii " changed from " ++
          shown node.mode ++ Raw.ascii " to " ++ shown mode)
    else if c.has "v" then
      Tool.sayLine (Raw.ascii "mode of " ++ Quoting.always path ++ Raw.ascii " retained as " ++ shown mode)

def knownNames : List String :=
  ["root", "daemon", "bin", "sys", "sync", "games", "man", "lp", "mail", "news", "nobody", "nogroup", "adm",
    "tty", "disk"]

/-- Changes owners, which are always the same. -/
def chown (isGroup : Bool) : Tool Nat := do
  let c ← Tool.call {
    letters := "HLPRcfhv"
    long := "recursive=R changes=c dereference=deref no-dereference=h silent=f quiet=f verbose=v " ++
      "reference:=reference from:=from" }
  let (owner, paths) := if c.has "reference" then ([], c.operands)
    else (c.operands.head?.getD [], c.operands.drop 1)
  if c.operands.isEmpty then Tool.misuse (Raw.ascii "missing operand")
  if paths.isEmpty then Tool.misuse (Raw.ascii "missing operand after " ++ Quoting.always owner)
  let names := if isGroup then [owner] else Text.cutAt ':' owner
  let isKnown (n : Raw) : Bool := n = [] || n.all Raw.isDigit || knownNames.contains (String.ofList n)
  match names with
  | [] => pure ()
  | user :: groups =>
    let what := if isGroup then "invalid group: " else "invalid user: "
    if !isKnown user then Tool.fail (Raw.ascii what ++ Quoting.always owner)
    if groups.any fun g => !isKnown g then Tool.fail (Raw.ascii "invalid group: " ++ Quoting.always owner)
  let mut status := 0
  for path in paths do
    if let .error e := (← Tool.view).find (!c.has "h") path then
      if !c.has "f" then complain "cannot access" path e
      status := 1
  return status

/-! ## Sizes -/

/-- How a size is found from the one that a file has. -/
inductive Resize
  | exactly (n : Nat)
  | more (n : Nat)
  | less (n : Nat)
  | atMost (n : Nat)
  | atLeast (n : Nat)
  | downTo (n : Nat)
  | upTo (n : Nat)

def Resize.apply (old : Nat) : Resize → Nat
  | exactly n => n
  | more n => old + n
  | less n => old - n
  | atMost n => min old n
  | atLeast n => max old n
  | downTo n => old / n * n
  | upTo n => (old + n - 1) / n * n

def truncate : Tool Nat := do
  let c ← Tool.call { letters := "cor:s:", long := "no-create=c io-blocks=o reference:=r size:=s" }
  let isRelative (r : Raw) : Bool := r.head?.any fun ch => "+-<>/%".toList.contains ch
  let resize ← (c.value? "s").mapM fun given => do
    let r := Raw.dropSpace given
    let read (r : Raw) : Tool Nat := do
      match Numeral.read "EgGkKmMPQRtTYZ0" r with
      | .ok n => return n
      | .error e => Tool.fail (Raw.ascii "Invalid number: " ++ Quoting.always given ++ e.tail)
    match r with
    | '+' :: r => return Resize.more (← read r)
    | '-' :: r => return .less (← read r)
    | '<' :: r => return .atMost (← read r)
    | '>' :: r => return .atLeast (← read r)
    | '/' :: r | '%' :: r =>
      let n ← read r
      if n = 0 then Tool.fail (Raw.ascii "division by zero")
      return if (Raw.dropSpace given).head? = some '/' then .downTo n else .upTo n
    | r => return .exactly (← read r)
  if c.operands.isEmpty then
    if resize.isNone && !c.has "r" then
      Tool.misuse (Raw.ascii "you must specify either " ++ Quoting.plain (Raw.ascii "--size") ++
        Raw.ascii " or " ++ Quoting.plain (Raw.ascii "--reference"))
    Tool.misuse (Raw.ascii "missing file operand")
  if resize.isNone && !c.has "r" then
    Tool.misuse (Raw.ascii "you must specify either " ++ Quoting.plain (Raw.ascii "--size") ++
      Raw.ascii " or " ++ Quoting.plain (Raw.ascii "--reference"))
  if c.has "r" && (c.value? "s").any (fun r => !isRelative (Raw.dropSpace r)) then
    Tool.misuse (Raw.ascii "you must specify a relative " ++ Quoting.plain (Raw.ascii "--size") ++
      Raw.ascii " with " ++ Quoting.plain (Raw.ascii "--reference"))
  let base ← (c.value? "r").mapM fun r => do
    match (← Tool.view).find true r with
    | .ok (_, node) => return node.size
    | .error e => Tool.fail (Raw.ascii "cannot stat " ++ Quoting.always r ++ Raw.ascii ": " ++ Raw.ascii e.text)
  let mut status := 0
  for path in c.operands do
    let isThere := ((← Tool.view).node? true path).isSome
    if isThere || !c.has "c" then
      match ← Tool.openFile path .append with
      | .error e =>
        Tool.warn (Raw.ascii "cannot open " ++ Quoting.always path ++ Raw.ascii " for writing: " ++
          Raw.ascii e.text)
        status := 1
      | .ok d =>
        Tool.close d
        discard <| attempt fun v => do
          let (_, node) ← v.find true path
          match node.content with
          | .file text =>
            -- A change counts from the size of the reference, where there is one.
            let size := (resize.getD (.exactly (base.getD 0))).apply (base.getD text.length)
            let text := text.take size ++ List.replicate (size - text.length) '\x00'
            .ok (v.files.setContent node.number (.file text) v.now)
          | _ => .ok v.files
  return status

end Buildwatch.Machine.Making
