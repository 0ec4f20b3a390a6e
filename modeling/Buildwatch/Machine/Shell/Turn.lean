import Buildwatch.Machine.Shell.Simple

/-!
# The shell at work

One turn of a shell: it takes the topmost frame of its stack and does a small piece of
work. Words are expanded anew until all outputs of inner commands are at hand.

The shell stands on the far side of a launch: a build sees only what it reports.
-/

namespace Buildwatch.Machine.Shell

open Act

/-! ## Commands -/

/-- Carries out a command that was just taken off the stack. -/
def runCommand (c : Command) (isLast : Bool) (outputs : List (Raw × Nat)) : Act Unit := do
  match c with
  | .simple line assignments words redirections =>
    runSimple line assignments words redirections isLast outputs
  | .pipeline cs =>
    discard claimNumber
    push (.await (← startPipeline none cs))
  -- The frames come back in the reverse order: first the command, then what its status is for.
  | .negated c =>
    push .negate
    push (.run c false [])
  | .both a b =>
    push (.both b isLast)
    push (.run a false [])
  | .either a b =>
    push (.either b isLast)
    push (.run a false [])
  | .sequence a b =>
    push (.run b isLast [])
    push (.run a false [])
  | .background c => startBackground c
  | .subshell c =>
    -- The last command needs no child, unless the shell has still something to do.
    if isLast && (← get).traps.all (fun (_, action) => action = []) then push (.run c true [])
    else
      discard claimNumber
      push (.await [← forkPart c])
  | .redirected c redirections =>
    let openings ← expand (.run (.redirected c redirections) isLast) outputs
      (redirections.mapM expandRedirection)
    let (result, saved) ← openAll true openings []
    match result with
    | .error reason =>
      restoreFiles saved
      complain reason
      setStatus 2
    | .ok () =>
      push (.restore saved)
      push (.run c false [])
  | .branch test consequence alternative =>
    push (.branch consequence alternative isLast)
    push (.run test false [])
  | .loop isUntil test body =>
    push (.test isUntil test body 0)
    push (.run test false [])
  | .each name words body =>
    let files := (← machine).files
    let cwd := (← self).cwd
    let values ← match words with
      | none => pure (← get).scope.arguments
      | some ws => expand (.run (.each name words body) isLast) outputs (expandArguments files cwd ws)
    setStatus 0
    push (.each name values body)
  | .cases w arms =>
    let chosen ← expand (.run (.cases w arms) isLast) outputs do
      let text ← expandText w
      let mut chosen : Option (Option Command) := none
      for (patterns, body) in arms do
        if chosen.isNone then
          for p in patterns do
            if chosen.isNone then
              if Pattern.accepts (← expandPattern p) text then chosen := some body
      return chosen
    setStatus 0
    match chosen with
    | some (some body) => push (.run body isLast [])
    | _ => pure ()
  | .definition name body =>
    update fun s => { s with functions := (name, body) :: s.functions.filter (·.1 ≠ name) }
    setStatus 0

/-! ## Waiting -/

/-- Reports a child that was killed. -/
def reportEnd (status : ExitStatus) : Act Unit := do
  match status with
  | .signal n =>
    match Signals.text? n with
    | some text => discard <| write 2 (Raw.ascii text ++ ['\n'])
    | none => pure ()
  | .code _ => pure ()

/-- Waits for children in turn; those that were killed are reported. -/
def awaitAll : List Nat → Act Unit
  | [] => return
  | pid :: pids => do
    match ← statusOf pid with
    | none => pure ()
    | some status =>
      reportEnd status
      setStatus (statusNumber status)
    awaitAll pids

/-- Waits for a job that has not ended yet; the tasks of it that were killed are reported. -/
def awaitJob (b : Background) : Act Unit := do
  let mut last : Option ExitStatus := b.status
  if b.status.isNone then
    for pid in b.pids do
      match ← statusOf pid with
      | none => last := some (.code 0)
      | some status =>
        reportEnd status
        last := some status
  let noted (other : Background) : Background :=
    if other.number = b.number then { other with status := last, isWaited := true } else other
  update fun s => { s with backgrounds := s.backgrounds.map noted }
  setStatus (statusNumber (last.getD (.code 0)))

/-- Waits for the job that a text names; a task is named by its number. -/
def awaitNamed (name : Raw) (others : List Raw) (status : Nat) : Act Unit := do
  let bs := (← get).backgrounds
  let refuse (reason : Raw) : Act Unit := do
    complainOf "wait" reason
    setStatus 2
  match name with
  | '%' :: _ =>
    match BuiltIn.job? bs name with
    | .ok b =>
      awaitJob b
      push (.wait others (← get).scope.status)
    | .error reason => refuse reason
  | _ =>
    match Raw.natural? name with
    | none => refuse (Raw.ascii "Illegal number: " ++ name)
    | some pid =>
      match bs.find? (·.pids.getLast? = some pid) with
      | some b =>
        awaitJob b
        push (.wait others (← get).scope.status)
      | none => push (.wait others status)

/-- Ends the shell if a command has failed where that is not allowed. -/
def heedFailure : Act Unit := do
  let s ← get
  if s.scope.status ≠ 0 && s.scope.options.contains 'e' && failureCounts s.frames then
    leave s.scope.status

/-! ## Frames -/

/-- Shows what has been read of the script of a file. -/
def showRead (before after : Raw) : Act Unit := do
  if (← get).scope.options.contains 'v' then
    let text := before.take (before.length - after.length)
    if text ≠ [] then discard <| write 2 text

def goOn (script : Script) (isLast : Bool) : Act Unit := do
  let s ← get
  let isShown := script.isFile && s.scope.options.contains 'v'
  if Grammar.isFinished script then
    if isShown then showRead script.rest []
  else
    match Grammar.nextLine { script with aliases := s.aliases } with
    | .error e =>
      if isShown then showRead script.rest []
      update fun s => { s with line := e.line }
      fail (Raw.ascii "Syntax error: " ++ e.reason)
    | .ok (c, rest) =>
      if isShown then showRead script.rest rest.rest
      -- A script is left with its last command, so that this may take the shell's place.
      let isEnd := Grammar.isFinished rest && !isShown
      if !isEnd then push (.script rest isLast)
      match c with
      | some c => push (.run c (isLast && isEnd) [])
      | none => pure ()

def takeFrame (f : Frame) : Act Unit := do
  let s ← get
  match f with
  | .run c isLast outputs =>
    if s.scope.options.contains 'n' then return
    let below := s.frames.length
    runCommand c isLast outputs
    match c with
    | .simple .. =>
      -- A command that has not ended yet is judged when it has.
      let frames := (← get).frames
      let isOver := (frames.take (frames.length - below)).all fun
        | .restore _ | .bindings _ => true
        | _ => false
      if isOver then heedFailure
    | _ => pure ()
  | .gather pid d pieces =>
    match ← read d 65536 with
    | .ok (c :: r) => push (.gather pid d ((c :: r) :: pieces))
    | _ =>
      let status ← statusOf pid
      match status with
      | some status => reportEnd status
      | none => pure ()
      close d
      -- The command below asked for this output and begins again with it.
      let output := (pieces.reverse.flatten, (status.map statusNumber).getD 0)
      let handOver : List Frame → List Frame
        | .run c isLast outputs :: fs => .run c isLast (outputs ++ [output]) :: fs
        | fs => fs
      update fun s => { s with frames := handOver s.frames }
      refreshJobs
  | .await pids =>
    awaitAll pids
    refreshJobs
    heedFailure
  | .both c isLast => if s.scope.status = 0 then push (.run c isLast [])
  | .either c isLast => if s.scope.status ≠ 0 then push (.run c isLast [])
  | .negate => setStatus (if s.scope.status = 0 then 1 else 0)
  | .branch consequence alternative isLast =>
    if s.scope.status = 0 then push (.run consequence isLast [])
    else
      setStatus 0
      match alternative with
      | some c => push (.run c isLast [])
      | none => pure ()
  | .test isUntil test body status =>
    if (s.scope.status = 0) != isUntil then
      push (.again isUntil test body)
      push (.run body false [])
    else setStatus status
  | .again isUntil test body =>
    push (.test isUntil test body s.scope.status)
    push (.run test false [])
  | .each name values body =>
    match values with
    | [] => pure ()
    | v :: values =>
      assignAll false [(name, v)]
      push (.each name values body)
      push (.run body false [])
  | .leave .. =>
    undo f
    heedFailure
  | .restore _ | .bindings _ | .title .. => undo f
  | .script script isLast => goOn script isLast
  | .settle status => setStatus status
  | .wait names status =>
    match names with
    | [] => setStatus status
    | name :: others => awaitNamed name others status
  | .waitForAll =>
    refreshJobs
    -- Nothing has been changed so far, so the turn can be made again later.
    if (← get).backgrounds.any (·.status.isNone) then wait
    update fun s => { s with backgrounds := s.backgrounds.map fun b => { b with isWaited := true } }
    setStatus 0

/-! ## Turns -/

/-- Carries out the action for a signal that has arrived. -/
def takeSignal (signal : Nat) : Act Unit := do
  let s ← get
  onSelf fun t => { t with pending := t.pending.drop 1 }
  match s.traps.lookup signal with
  | none => pure ()
  | some action =>
    match s.frames with
    -- A signal ends the waiting; its number is the status.
    | .wait .. :: frames | .waitForAll :: frames =>
      update fun s => { s with frames, scope := { s.scope with status := 128 + signal } }
    | _ => pure ()
    push (.settle (← get).scope.status)
    push (.script (.ofRaw action) false)

/-- Whether the shell is waiting for a child that it carries out a command with. -/
def isBusy (s : Shell) : Bool :=
  match s.frames.head? with
  | some (.await _) | some (.gather ..) => true
  | _ => false

def turn : Act Unit := do
  let s ← get
  match (← self).pending, isBusy s with
  | signal :: _, false => takeSignal signal
  | _, _ =>
    match s.frames with
    | f :: frames =>
      update fun s => { s with frames }
      takeFrame f
    | [] =>
      match s.traps.lookup 0 with
      -- The action for the end is forgotten before it is carried out: it may end the shell.
      | some (c :: action) =>
        update fun s => { s with traps := s.traps.filter (·.1 ≠ 0) }
        push (.settle s.scope.status)
        push (.script (.ofRaw (c :: action)) false)
      | _ => exit s.scope.status

end Buildwatch.Machine.Shell
