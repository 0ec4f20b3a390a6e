import Buildwatch.Machine.Tool.Making

/-!
# Copying, moving and removing

Tools that copy files and trees of them, give them other names, and remove them.
-/

namespace Buildwatch.Machine.Copying

open Making (Target attempt ask complain)

/-! ## What is copied and how -/

structure Manner where
  isRecursive : Bool
  /-- Whether links are followed, for names that are given and for those that are found. -/
  followsGiven : Bool
  followsFound : Bool
  keepsMode : Bool
  keepsTime : Bool
  isForced : Bool := false
  asks : Bool := false
  keepsExisting : Bool := false
  onlyNewer : Bool := false
  isVerbose : Bool := false
  /-- Whether other names or links are made in place of copies. -/
  makesNames : Bool := false
  makesLinks : Bool := false
  removesFirst : Bool := false

def Manner.ofCall (c : Call) : Manner :=
  let isRecursive := c.has "r" || c.has "R" || c.has "a"
  let follow := match c.last? ["a", "d", "H", "L", "P"] with
    | some "L" => (true, true)
    | some "H" => (true, false)
    | some _ => (false, false)
    -- A tree is copied with its links; a single file through them.
    | none => if isRecursive then (false, false) else (true, true)
  let kept := (c.values "preserve").flatMap fun r => (Text.cutAt ',' r).map String.ofList
  let keeps (what : String) : Bool :=
    c.has "p" || c.has "a" || kept.contains what || kept.contains "all" ||
      (c.has "preserve" && (c.values "preserve").contains [])
  { isRecursive, followsGiven := follow.1, followsFound := follow.2
    keepsMode := keeps "mode", keepsTime := keeps "timestamps"
    isForced := c.has "f"
    asks := c.last? ["i", "n", "f"] = some "i" || (c.has "i" && !c.has "n")
    keepsExisting := c.has "n" || (c.value? "update").any fun r => r = Raw.ascii "none"
    onlyNewer := c.has "u" || (c.has "update" && (c.value? "update").all fun r => r = Raw.ascii "older" || r = [])
    isVerbose := c.has "v", makesNames := c.has "l", makesLinks := c.has "s"
    removesFirst := c.has "remove-destination" }

/-! ## Copying -/

/-- Keeps what is to be replaced; the answer is the name that it has then. -/
def keepBackup (c : Call) (path : Raw) : Tool (Option Raw) := do
  let v ← Tool.view
  if Making.keepsBackup c && (v.node? false path).any fun n => !n.isDirectory then
    let name := Making.backupName v c path
    discard <| attempt (·.rename path name)
    return some name
  else return none

def tell (m : Manner) (source path : Raw) (backup : Option Raw) : Tool Unit := do
  if m.isVerbose then
    let tail := match backup with
      | some b => Raw.ascii " (backup: " ++ Quoting.always b ++ [')']
      | none => []
    Tool.sayLine (Quoting.always source ++ Raw.ascii " -> " ++ Quoting.always path ++ tail)

/-- Gives a copy the rights and the time of its source. -/
def dress (m : Manner) (node : Node) (path : Raw) : Tool Unit := do
  discard <| attempt fun v => v.change false path fun n =>
    { n with
      mode := if m.keepsMode then node.mode else n.mode
      modified := if m.keepsTime then node.modified else n.modified }

def copyContent (m : Manner) (source path : Raw) (node : Node) (mode : Nat) : Tool Bool := do
  match ← Tool.openFile source .input with
  | .error e =>
    Tool.warn (Raw.ascii "cannot open " ++ Quoting.always source ++ Raw.ascii " for reading: " ++
      Raw.ascii e.text)
    return false
  | .ok input =>
    -- Rights are given to a new file only; one that is there keeps its own.
    let isNew := ((← Tool.view).node? false path).isNone
    let opened ← Tool.openFile path .output
    match opened with
    | .error e =>
      Tool.close input
      let e := if e = .isDirectory && path.getLast? = some '/' then .notDirectory else e
      complain "cannot create regular file" path e
      return false
    | .ok output =>
      if isNew then
        discard <| attempt fun v => v.change true path fun n => { n with mode := v.masked mode }
      let failure ← Tool.forPieces input 131072 fun r => do
        if let some e := ← Tool.writeTo output r then
          Tool.fail (Raw.ascii "error writing " ++ Quoting.always path ++ Raw.ascii ": " ++ Raw.ascii e.text)
      Tool.close input
      Tool.close output
      match failure with
      | some e =>
        Tool.warn (Raw.ascii "error reading " ++ Quoting.always source ++ Raw.ascii ": " ++ Raw.ascii e.text)
        return false
      | none =>
        dress m node path
        return true

def isSame (v : View) (a b : Raw) : Bool :=
  match v.node? true a, v.node? true b with
  | some m, some n => m.number = n.number
  | _, _ => false

def copy (c : Call) (m : Manner) (isGiven : Bool) : (fuel : Nat) → (source path : Raw) → Tool Bool
  | 0, _, _ => return false
  | fuel + 1, source, path => do
    let v ← Tool.view
    let follows := if isGiven then m.followsGiven else m.followsFound
    match v.find follows source with
    | .error e =>
      complain "cannot stat" source e
      return false
    | .ok (place, node) =>
      let there := v.node? true path
      let linkThere := (v.node? false path).filter fun n => n.content matches .link _
      if node.isDirectory then
        if !m.isRecursive then
          Tool.warn (Raw.ascii "-r not specified; omitting directory " ++ Quoting.always source)
          return false
        -- The copy would be among the files that are still to be copied.
        else if (v.locate true path).toOption.any fun (target, _) => place.isPrefixOf target then
          Tool.warn (Raw.ascii "cannot copy a directory, " ++ Quoting.always source ++
            Raw.ascii ", into itself, " ++ Quoting.always path)
          return false
        else
          let isMade ← match there with
            | some n =>
              if n.isDirectory then pure true
              else
                Tool.warn (Raw.ascii "cannot overwrite non-directory " ++ Quoting.always path ++
                  Raw.ascii " with directory " ++ Quoting.always source)
                pure false
            | none =>
              match ← attempt (·.makeDirectory path node.mode) with
              | none =>
                tell m source path none
                pure true
              | some e =>
                complain "cannot create directory" path e
                pure false
          if !isMade then return false
          let mut isWhole := true
          for name in v.files.names place do
            let name := Raw.ofString name
            if !(← copy c m false fuel (Names.inside source name) (Names.inside path name)) then
              isWhole := false
          -- The time comes last: filling the directory changes it.
          if there.isNone then dress m node path
          return isWhole
      else if there.any Node.isDirectory && !(linkThere.isSome && !follows) then
        Tool.warn (Raw.ascii "cannot overwrite directory " ++ Quoting.always path ++ Raw.ascii " with non-directory")
        return false
      else if there.isSome && m.keepsExisting then return true
      else if m.onlyNewer && there.any fun n => node.modified ≤ n.modified then return true
      else
        let isLink := node.content matches .link _
        let isItself := isSame v source path || (isLink && (v.find false path).toOption.any (·.1 = place))
        if isItself && !Making.keepsBackup c && !(m.makesNames && !isLink) &&
            !(m.removesFirst && (v.find false path).toOption.all (·.1 ≠ place)) then
          Tool.warn (Quoting.always source ++ Raw.ascii " and " ++ Quoting.always path ++
            Raw.ascii " are the same file")
          return false
        else
          let isAllowed ← if there.isSome && m.asks then ask (Raw.ascii "overwrite " ++ Quoting.always path) else pure true
          if !isAllowed then return false
          let backup ← keepBackup c path
          let v ← Tool.view
          -- After a backup nothing is in the way any more.
          let stays := (v.node? false path).isSome
          if m.makesNames && !isLink then
            if stays && isItself then return true
            if stays && (m.isForced || m.removesFirst) then discard <| attempt (·.removeName path)
            match ← attempt (·.addName true source path) with
            | none =>
              tell m source path backup
              return true
            | some e =>
              Tool.warn (Raw.ascii "cannot create hard link " ++ Quoting.always path ++ Raw.ascii " to " ++
                Quoting.always source ++ Raw.ascii ": " ++ Raw.ascii e.text)
              return false
          else if m.makesLinks then
            if source.head? ≠ some '/' && Names.directory path ≠ ['.'] then
              Tool.warn (Quoting.ifNeeded path ++
                Raw.ascii ": can make relative symbolic links only in current directory")
              return false
            if stays && (m.isForced || m.removesFirst) then discard <| attempt (·.removeName path)
            match ← attempt (·.makeLink source path) with
            | none =>
              tell m source path backup
              return true
            | some e =>
              Tool.warn (Raw.ascii "cannot create symbolic link " ++ Quoting.always path ++ Raw.ascii " to " ++
                Quoting.always source ++ Raw.ascii ": " ++ Raw.ascii e.text)
              return false
          else
            match node.content with
            | .link target =>
              if stays then discard <| attempt (·.removeName path)
              match ← attempt (·.makeLink (Raw.ofString target) path) with
              | none =>
                dress m node path
                tell m source path backup
                return true
              | some e =>
                complain "cannot create symbolic link" path e
                return false
            | .device .fifo =>
              if m.isRecursive then
                match ← attempt fun v => v.create path node.content (v.masked node.mode) with
                | none =>
                  tell m source path backup
                  return true
                | some e =>
                  complain "cannot create fifo" path e
                  return false
              else
                tell m source path backup
                copyContent m source path node node.mode
            | _ =>
              if stays && m.removesFirst then discard <| attempt (·.removeName path)
              if ((← Tool.view).node? true path).isNone && linkThere.isSome && !m.removesFirst && backup.isNone then
                Tool.warn (Raw.ascii "not writing through dangling symlink " ++ Quoting.always path)
                return false
              else
                -- What is copied is told before anything can go wrong with it.
                let isThere := (v.locate true path).toOption.isSome && path ≠ []
                if isThere && !(there.isNone && path.getLast? = some '/') then tell m source path backup
                copyContent m source path node (node.mode &&& 0o777)

def maxDepth : Nat := 5000

def cp : Tool Nat := do
  let c ← Tool.call {
    letters := "abdfHilLnprst:uvxPRS:TZ"
    long := "archive=a attributes-only=attributes backup::=backup copy-contents=contents debug=v dereference=L " ++
      "force=f interactive=i link=l no-clobber=n no-dereference=P no-preserve:=unkept no-target-directory=T " ++
      "one-file-system=x parents=parents path=parents preserve::=preserve recursive=R " ++
      "remove-destination=remove-destination sparse:=sparse reflink::=reflink " ++
      "strip-trailing-slashes=slashes suffix:=S symbolic-link=s target-directory:=t update::=update verbose=v " ++
      "keep-directory-symlink=keep context::=Z" }
  let m := Manner.ofCall c
  if c.has "n" then
    Tool.warn (Raw.ascii "warning: behavior of -n is non-portable and may change in future; use --update=none instead")
  let (sources, target) ← Making.targetOf c false
  let hasParents := c.has "parents"
  if let .path _ := target then
    if hasParents then Tool.misuse (Raw.ascii "with --parents, the destination must be a directory")
  let mut isWhole := true
  let mut seen : List Nat := []
  for source in sources do
    let source := if c.has "slashes" then Names.withoutSlashes source else source
    let v ← Tool.view
    let number := (v.node? m.followsGiven source).map (·.number)
    let isDirectory := (v.node? m.followsGiven source).any Node.isDirectory
    if number.any seen.contains && target matches .directory _ then
      Tool.warn (Raw.ascii "warning: source " ++ Raw.ascii (if isDirectory then "directory " else "file ") ++
        Quoting.always source ++ Raw.ascii " specified more than once")
    else
      seen := number.toList ++ seen
      let path ← match hasParents, target with
        | true, .directory d =>
          let path := Names.inside d source
          for p in (Making.stages path).dropLast do
            if !(← Tool.view).isDirectory p then
              discard <| attempt (·.makeDirectory p 0o777)
              if m.isVerbose then
                Tool.sayLine (p.drop (d.length + 1) ++ Raw.ascii " -> " ++ p)
          pure path
        | _, target =>
          -- A directory that is copied by its own dot adds its entries.
          if Names.last source = ['.', '.'] || Names.last source = ['.'] then
            match target with
            | .directory d => pure (Names.inside d (Names.last source))
            | .path p => pure p
          else pure (target.pathFor source)
      if !(← copy c m true maxDepth source path) then isWhole := false
  return Tool.statusOf isWhole

/-! ## Moving -/

def moveOne (c : Call) (source path : Raw) : Tool Bool := do
  let v ← Tool.view
  match v.find false source with
  | .error e =>
    complain "cannot stat" source e
    return false
  | .ok (place, node) =>
    let there := (v.find false path).toOption
    -- Two names of one node: the kernel would leave both, so the first is removed.
    let isLinkTwin := there.any fun (p, n) => p ≠ place && n.number = node.number
    if there.any (·.1 = place) then
      Tool.warn (Quoting.always source ++ Raw.ascii " and " ++ Quoting.always path ++ Raw.ascii " are the same file")
      return false
    else if there.isSome && c.last? ["f", "i", "n"] = some "n" then
      Tool.warn (Raw.ascii "not replacing " ++ Quoting.always path)
      return false
    else if there.isSome && (c.value? "update").any fun r => r = Raw.ascii "none" then return true
    else if (c.has "u" || c.has "update") && there.any fun (_, n) => node.modified ≤ n.modified then return true
    else if node.isDirectory && there.any fun (_, n) => !n.isDirectory then
      Tool.warn (Raw.ascii "cannot overwrite non-directory " ++ Quoting.always path ++
        Raw.ascii " with directory " ++ Quoting.always source)
      return false
    else if !node.isDirectory && there.any (·.2.isDirectory) then
      Tool.warn (Raw.ascii "cannot overwrite directory " ++ Quoting.always path ++ Raw.ascii " with non-directory")
      return false
    else if path = [] && !node.isDirectory then
      Tool.warn (Raw.ascii "cannot overwrite directory '' with non-directory")
      return false
    else
      let isAllowed ←
        if there.isSome && c.last? ["f", "i", "n"] = some "i" then ask (Raw.ascii "overwrite " ++ Quoting.always path)
        else pure true
      if !isAllowed then return false
      let backup ← keepBackup c path
      let failure ← if isLinkTwin && backup.isNone then attempt (·.removeName source) else attempt (·.rename source path)
      match failure with
      | none =>
        if c.has "v" then
          let tail := match backup with
            | some b => Raw.ascii " (backup: " ++ Quoting.always b ++ [')']
            | none => []
          Tool.sayLine (Raw.ascii "renamed " ++ Quoting.always source ++ Raw.ascii " -> " ++
            Quoting.always path ++ tail)
        return true
      | some e =>
        if e = .invalid then
          Tool.warn (Raw.ascii "cannot move " ++ Quoting.always source ++ Raw.ascii " to a subdirectory of itself, " ++
            Quoting.always path)
        else if e = .notEmpty then complain "cannot overwrite" path e
        else
          Tool.warn (Raw.ascii "cannot move " ++ Quoting.always source ++ Raw.ascii " to " ++
            Quoting.always path ++ Raw.ascii ": " ++ Raw.ascii e.text)
        return false

def mv : Tool Nat := do
  let c ← Tool.call {
    letters := "bfint:uvS:TZ"
    long := "backup::=backup debug=v force=f interactive=i no-clobber=n no-target-directory=T " ++
      "strip-trailing-slashes=slashes suffix:=S target-directory:=t update::=update verbose=v no-copy=no-copy " ++
      "exchange=exchange context=Z" }
  let (sources, target) ← Making.targetOf c false
  let mut isWhole := true
  for source in sources do
    let source := if c.has "slashes" then Names.withoutSlashes source else source
    if !(← moveOne c source (target.pathFor source)) then isWhole := false
  return Tool.statusOf isWhole

/-! ## Removing -/

def kindName (n : Node) : String :=
  match n.content with
  | .directory => "directory"
  | .link _ => "symbolic link"
  | .device .fifo => "fifo"
  | .device _ => "character special file"
  | .file [] => "regular empty file"
  | .file _ | .program _ => "regular file"

def agrees (asks : Bool) (question : Raw) : Tool Bool := if asks then ask question else return true

def remove (c : Call) (asks : Bool) : (fuel : Nat) → (path : Raw) → Tool Bool
  | 0, _ => return false
  | fuel + 1, path => do
    let v ← Tool.view
    let isForced := c.has "f"
    let isRecursive := c.has "r" || c.has "R"
    match v.find false path with
    | .error e =>
      if isForced && (e = .notFound || e = .notDirectory) then return true
      complain "cannot remove" path e
      return false
    | .ok (place, node) =>
      if node.isDirectory then
        if !isRecursive && !c.has "d" then
          complain "cannot remove" path .isDirectory
          return false
        let names := v.files.names place
        if isRecursive && !names.isEmpty then
          if !(← agrees asks (Raw.ascii "descend into directory " ++ Quoting.always path)) then return true
          let mut isWhole := true
          for name in names do
            if !(← remove c asks fuel (Names.inside path (Raw.ofString name))) then isWhole := false
          if !isWhole then return false
        -- Entries that were to stay keep the directory.
        let isLeft := !((← Tool.view).files.names place).isEmpty
        if isLeft && isRecursive && asks then return true
        if !(← agrees (asks && !isLeft) (Raw.ascii "remove directory " ++ Quoting.always path)) then return true
        match ← attempt (·.removeDirectory path) with
        | none =>
          if c.has "v" then Tool.sayLine (Raw.ascii "removed directory " ++ Quoting.always path)
          return true
        | some e =>
          complain "cannot remove" path e
          return false
      else
        let question := Raw.ascii ("remove " ++ kindName node ++ " ") ++ Quoting.always path
        if !(← agrees asks question) then return true
        match ← attempt (·.removeName path) with
        | none =>
          if c.has "v" then Tool.sayLine (Raw.ascii "removed " ++ Quoting.always path)
          return true
        | some e =>
          complain "cannot remove" path e
          return false

def rm : Tool Nat := do
  let c ← Tool.call {
    letters := "dfirvIR"
    long := "force=f interactive::=interactive one-file-system=one no-preserve-root=careless " ++
      "preserve-root::=careful recursive=r dir=d verbose=v" }
  let last := c.last? ["f", "i", "I", "interactive"]
  let wish := (c.value? "interactive").map String.ofList
  let asks := last = some "i" || (last = some "interactive" && (wish.isNone || wish = some "always" || wish = some "yes"))
  let asksOnce := last = some "I" || (last = some "interactive" && wish = some "once")
  let c := if last = some "f" || last.isNone then c
    else { c with options := c.options.filter (·.1 ≠ "f") }
  if c.operands.isEmpty then
    if c.has "f" then return 0
    Tool.misuse (Raw.ascii "missing operand")
  let isRecursive := c.has "r" || c.has "R"
  let n := c.operands.length
  if asksOnce && (3 < n || isRecursive) then
    let question := Raw.ascii "remove " ++ Raw.ofNat n ++ Raw.ascii (if n = 1 then " argument" else " arguments") ++
      Raw.ascii (if isRecursive then " recursively" else "")
    if !(← ask question) then return 0
  let mut isWhole := true
  for path in c.operands do
    let name := Names.last path
    -- Both would pull the directory away from under the tool.
    if isRecursive && (name = ['.'] || name = ['.', '.']) then
      Tool.warn (Raw.ascii "refusing to remove '.' or '..' directory: skipping " ++ Quoting.always path)
      isWhole := false
    else if isRecursive && !c.has "careless" && ((← Tool.view).find false path).toOption.any (·.1 = []) then
      Tool.warn (Raw.ascii "it is dangerous to operate recursively on " ++ Quoting.always path)
      Tool.warn (Raw.ascii "use --no-preserve-root to override this failsafe")
      isWhole := false
    else if !(← remove c asks maxDepth path) then isWhole := false
  return Tool.statusOf isWhole

/-! ## Installing -/

def install : Tool Nat := do
  let c ← Tool.call {
    letters := "bcCdDg:m:o:psS:t:TvZ"
    long := "backup::=backup compare=C directory=d group:=g mode:=m owner:=o preserve-timestamps=p strip=s " ++
      "strip-program:=program suffix:=S target-directory:=t no-target-directory=T verbose=v context::=Z" }
  let mode ← match c.value? "m" with
    | some r =>
      match Modes.read? r with
      | some m => pure (m.apply 0 false 0)
      | none => Tool.fail (Raw.ascii "invalid mode " ++ Quoting.always r)
    | none => pure 0o755
  let tellMade (p : Raw) : Tool Unit := do
    if c.has "v" then
      Tool.sayLine ((← read).label ++ Raw.ascii ": creating directory " ++ Quoting.always p)
  let withMode (path : Raw) : Tool Unit := do
    discard <| attempt (·.change true path fun n => { n with mode })
  if c.has "d" then
    if c.operands.isEmpty then Tool.misuse (Raw.ascii "missing file operand")
    let mut isWhole := true
    for path in c.operands do
      if ← Making.makeAll path tellMade then withMode path else isWhole := false
    return Tool.statusOf isWhole
  if c.has "D" then
    match c.value? "t", c.operands.getLast? with
    | some d, _ => discard <| Making.makeAll d tellMade
    | none, some last =>
      if 2 ≤ c.operands.length then
        let d := Names.directory last
        if d ≠ ['.'] then discard <| Making.makeAll d tellMade
    | none, none => pure ()
  if let some d := c.value? "t" then
    if let .error e := (← Tool.view).find true d then
      Tool.fail (Raw.ascii "failed to access " ++ Quoting.always d ++ Raw.ascii ": " ++ Raw.ascii e.text)
  let (sources, target) ← Making.targetOf c false
  let m : Manner :=
    { isRecursive := false, followsGiven := true, followsFound := true, keepsMode := false
      keepsTime := c.has "p", isVerbose := c.has "v" }
  let mut isWhole := true
  for source in sources do
    let path := target.pathFor source
    let v ← Tool.view
    match v.find true source with
    | .error e =>
      complain "cannot stat" source e
      isWhole := false
    | .ok (_, node) =>
      if node.isDirectory then
        Tool.warn (Raw.ascii "omitting directory " ++ Quoting.always source)
        isWhole := false
      else
        -- The old file is unlinked first, so that programs that run from it keep it.
        if (v.node? false path).any (fun n => !n.isDirectory) && !isSame v source path then
          if (← keepBackup c path).isNone then
            if (← attempt (·.removeName path)).isNone && c.has "v" then
              Tool.sayLine (Raw.ascii "removed " ++ Quoting.always path)
        if ← copy c m true maxDepth source path then withMode path else isWhole := false
  return Tool.statusOf isWhole

end Buildwatch.Machine.Copying
