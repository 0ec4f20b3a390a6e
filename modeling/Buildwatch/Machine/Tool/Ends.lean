import Buildwatch.Machine.Tool.Numbers

/-!
# The ends of texts

Showing the first or the last lines or bytes of texts, or all but those.
-/

namespace Buildwatch.Machine.Ends

/-! ## Cutting -/

/-- The pieces of a text up to and with each separator; the last piece may lack it. -/
def pieces (separator : Char) (r : Raw) : List Raw :=
  let cut := Text.cutAt separator r
  let whole := cut.dropLast.map (· ++ [separator])
  match cut.getLast? with
  | some [] | none => whole
  | some last => whole ++ [last]

/-- The front of a text up to a number of separators, and how many of them are missing. -/
def takePieces (separator : Char) : (count : Nat) → Raw → Raw → Raw × Nat
  | 0, front, _ => (front.reverse, 0)
  | count, front, [] => (front.reverse, count)
  | count + 1, front, c :: r =>
    takePieces separator (if c = separator then count else count + 1) (c :: front) r

structure Part where
  inBytes : Bool := false
  count : Nat := 10
  /-- Whether it is counted from the other end. -/
  isRest : Bool := false
  separator : Char := '\n'

/-- The text without its end. -/
def Part.allButEnd (p : Part) (r : Raw) : Raw :=
  if p.inBytes then r.take (r.length - p.count)
  else
    let ps := pieces p.separator r
    (ps.take (ps.length - p.count)).flatten

/-- The end of the text. -/
def Part.lastOf (p : Part) (r : Raw) : Raw :=
  if p.inBytes then r.drop (r.length - p.count)
  else
    let ps := pieces p.separator r
    (ps.drop (ps.length - p.count)).flatten

/-- The text from a place on, which is counted from one. -/
def Part.from (p : Part) (r : Raw) : Raw :=
  if p.inBytes then r.drop (p.count - 1) else ((pieces p.separator r).drop (p.count - 1)).flatten

/-! ## Headers -/

/-- Whether texts have their names in front of them. -/
def showsHeaders (c : Call) (names : List Raw) : Bool :=
  match c.last? ["q", "v"] with
  | some "q" => false
  | some _ => true
  | none => 1 < names.length

def header (isFirst : Bool) (name : Raw) : Raw :=
  (if isFirst then [] else ['\n']) ++ Raw.ascii "==> " ++
    (if Tool.isStandard name then Raw.ascii "standard input" else name) ++ Raw.ascii " <==\n"

def forTexts (c : Call) (names : List Raw) (f : Nat → Tool (Option FileError)) : Tool Nat := do
  let names := if names.isEmpty then [['-']] else names
  let hasHeaders := showsHeaders c names
  let mut isFirst := true
  let mut isWhole := true
  for name in names do
    let shown := Quoting.always (if Tool.isStandard name then Raw.ascii "standard input" else name)
    match ← Tool.openInput name with
    | .error e =>
      Tool.warn (Raw.ascii "cannot open " ++ shown ++ Raw.ascii " for reading: " ++ Raw.ascii e.text)
      isWhole := false
    | .ok d =>
      if hasHeaders then Tool.say (header isFirst name)
      isFirst := false
      if let some e := ← f d then
        Tool.warn (Raw.ascii "error reading " ++ shown ++ Raw.ascii ": " ++ Raw.ascii e.text)
        isWhole := false
      Tool.closeInput d
  return Tool.statusOf isWhole

/-! ## First parts -/

def countName (inBytes : Bool) : String :=
  if inBytes then "invalid number of bytes" else "invalid number of lines"

/-- Arguments that begin with a count such as `-5`, spelled out. -/
def spellOutHead : List Raw → Tool (List Raw)
  | ('-' :: c :: r) :: rest => do
    if Raw.isDigit c then
      let digits := (c :: r).takeWhile Raw.isDigit
      let letters := (c :: r).drop digits.length
      match letters.find? fun l => !"cbkmlqvz".toList.contains l with
      | some l =>
        Tool.warn (Raw.ascii "invalid trailing option -- " ++ [l])
        Tool.tryHelp
        Tool.exit 1
      | none => pure ()
      let unit := (letters.filter fun l => "cbkm".toList.contains l).getLast?
      let inBytes := (letters.filter fun l => "cbkml".toList.contains l).getLast?.any (· ≠ 'l')
      let flags := letters.filter fun l => "qvz".toList.contains l
      let count := digits ++ (unit.filter (· ≠ 'c')).toList
      return (if inBytes then Raw.ascii "-c" else Raw.ascii "-n") :: count ::
        flags.map (fun l => ['-', l]) ++ rest
    else return ('-' :: c :: r) :: rest
  | args => return args

/-- Copies the first lines from a descriptor, and gives back what it has read too much. -/
def copyLines (separator : Char) (d : Nat) : (turns count : Nat) → Tool (Option FileError)
  | 0, _ | _, 0 => return none
  | turns + 1, count => do
    match ← Tool.take d 8192 with
    | .error e => return some e
    | .ok [] => return none
    | .ok r =>
      let (front, count) := takePieces separator count [] r
      Tool.say front
      if front.length < r.length then
        Tool.perform fun next => .unread d (r.length - front.length) (next ())
      copyLines separator d turns count

def copyBytes (d : Nat) : (turns count : Nat) → Tool (Option FileError)
  | 0, _ | _, 0 => return none
  | turns + 1, count => do
    match ← Tool.take d (min count 8192) with
    | .error e => return some e
    | .ok [] => return none
    | .ok r =>
      Tool.say r
      copyBytes d turns (count - r.length)

def head : Tool Nat := do
  let o : Options := {
    letters := "c:n:qvz0123456789"
    long := "bytes:=c lines:=n quiet=q silent=q verbose=v zero-terminated=z" }
  let args ← spellOutHead (← read).args
  let countOf (inBytes : Bool) (value : Raw) : Tool Nat := do
    let digits := if value.head? = some '-' then value.drop 1 else value
    Tool.number Numeral.units (countName inBytes) digits
  let c ← Tool.callChecking o args fun key value => do
    if key = "c" || key = "n" then discard <| countOf (key = "c") value
    else if key.toList.all Raw.isDigit then
      Tool.warn (Raw.ascii ("invalid trailing option -- " ++ key))
      Tool.tryHelp
      Tool.exit 1
  let inBytes := c.last? ["c", "n"] = some "c"
  let value := (c.options.filter fun (k, _) => k = "c" || k = "n").getLast?.bind (·.2)
  let p : Part := {
    inBytes
    count := ← match value with
      | some v => countOf inBytes v
      | none => pure 10
    isRest := value.any (·.head? = some '-')
    separator := if c.has "z" then '\x00' else '\n' }
  forTexts c c.operands fun d => do
    if p.isRest then
      match ← Tool.takeAll d with
      | .error e => return some e
      | .ok r =>
        Tool.say (p.allButEnd r)
        return none
    else if p.inBytes then copyBytes d Tool.manyTurns p.count
    else copyLines p.separator d Tool.manyTurns p.count

/-! ## Last parts -/

/-- Arguments that begin with a count such as `-5` or `+5`, spelled out. -/
def spellOutTail (args : List Raw) : List Raw :=
  let isAlone := match args with
    | [_] => true
    | [_, second] => !(second.head? = some '-' && 1 < second.length) || second = ['-', '-']
    | [_, second, _] => second = ['-', '-']
    | _ => false
  match args with
  | (sign :: r) :: rest =>
    let digits := r.takeWhile Raw.isDigit
    let letters := r.drop digits.length
    let (unit, flags) := match letters with
      | 'b' :: l => (['b'], l)
      | 'c' :: l => (['c'], l)
      | 'l' :: l => (['l'], l)
      | l => ([], l)
    let isCount := isAlone && (flags = [] || flags = ['f']) &&
      (sign = '+' || (sign = '-' && r ≠ [] && r ≠ ['c']))
    if isCount && (sign = '+' || digits ≠ []) then
      let digits := if digits = [] then ['1', '0'] else digits
      let count := (if sign = '+' then ['+'] else []) ++ digits ++ (if unit = ['b'] then unit else [])
      (if unit = ['b'] || unit = ['c'] then Raw.ascii "-c" else Raw.ascii "-n") :: count ::
        (if flags = [] then rest else Raw.ascii "-f" :: rest)
    else args
  | args => args

/-- Shows what is added to texts, for ever. -/
def follow (ds : List Nat) : (turns : Nat) → Tool Unit
  | 0 => return
  | turns + 1 => do
    for d in ds do
      match ← Tool.take d 65536 with
      | .ok r => Tool.say r
      | .error _ => pure ()
    Tool.flush
    let v ← Tool.view
    Tool.perform fun next => .sleep (v.clock + 100000) (next ())
    follow ds turns

def tail : Tool Nat := do
  let o : Options := {
    letters := "c:n:fFqs:vz0123456789"
    long := "bytes:=c lines:=n follow::=f quiet=q silent=q verbose=v zero-terminated=z retry=F " ++
      "sleep-interval:=s pid: max-unchanged-stats:" }
  let countOf (inBytes : Bool) (value : Raw) : Tool Nat := do
    let digits := if value.head? = some '-' then value.drop 1 else value
    Tool.number Numeral.units (countName inBytes) digits
  let c ← Tool.callChecking o (spellOutTail (← read).args) fun key value => do
    if key = "c" || key = "n" then discard <| countOf (key = "c") value
    else if key.toList.all Raw.isDigit then
      Tool.fail (Raw.ascii ("option used in invalid context -- " ++ key))
  let inBytes := c.last? ["c", "n"] = some "c"
  let value := (c.options.filter fun (k, _) => k = "c" || k = "n").getLast?.bind (·.2)
  let p : Part := {
    inBytes
    count := ← match value with
      | some v => countOf inBytes v
      | none => pure 10
    isRest := value.any (·.head? = some '+')
    separator := if c.has "z" then '\x00' else '\n' }
  let follows := (c.has "f" || c.has "F") && !c.operands.isEmpty
  if p.count = 0 && !p.isRest && !follows then Tool.exit 0
  let show? (d : Nat) : Tool (Option FileError) := do
    match ← Tool.takeAll d with
    | .error e => return some e
    | .ok r =>
      Tool.say (if p.isRest then p.from r else p.lastOf r)
      return none
  if follows then
    let mut ds : List Nat := []
    for name in c.operands do
      match ← Tool.openInput name with
      | .error e =>
        Tool.warn (Raw.ascii "cannot open " ++ Quoting.always name ++ Raw.ascii " for reading: " ++
          Raw.ascii e.text)
      | .ok d =>
        if showsHeaders c c.operands then Tool.say (header ds.isEmpty name)
        discard <| show? d
        ds := ds ++ [d]
    if ds.isEmpty then Tool.fail (Raw.ascii "no files remaining")
    follow ds Tool.manyTurns
    return 0
  else forTexts c c.operands show?

end Buildwatch.Machine.Ends
