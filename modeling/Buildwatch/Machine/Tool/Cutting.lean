import Buildwatch.Machine.Tool.Ends

/-!
# Cutting lines

Parts of lines and lines beside each other: selected columns and fields, lines cut to a
width, blanks for tabs, and the lines of several texts in rows.
-/

namespace Buildwatch.Machine.Cutting

/-! ## Ranges -/

inductive Unit
  | fields
  | bytes
  deriving DecidableEq

namespace Unit

def startsAtOne (u : Unit) : Raw :=
  Raw.ascii (if u = fields then "fields are numbered from 1" else "byte/character positions are numbered from 1")

def badRange (u : Unit) : Raw :=
  Raw.ascii (if u = fields then "invalid field range" else "invalid byte or character range")

def badNumber (u : Unit) : Raw :=
  Raw.ascii (if u = fields then "invalid field value " else "invalid byte/character position ")

def tooLarge (u : Unit) (digits : Raw) : Raw :=
  if u = fields then Raw.ascii "field number " ++ Quoting.plain digits ++ Raw.ascii " is too large"
  else Raw.ascii "byte/character offset " ++ Quoting.plain digits ++ Raw.ascii " is too large"

end Unit

/-- The first and last places of a range, counted from one. -/
abbrev Range := Nat × Option Nat

def range (u : Unit) (r : Raw) : Except Raw Range := do
  let number (digits : Raw) : Except Raw Nat :=
    let n := (Raw.takeDigits 10 digits.length 0 digits).1
    if Raw.wordLimit - 1 ≤ n then .error (u.tooLarge digits) else .ok n
  let low := r.takeWhile Raw.isDigit
  match r.drop low.length with
  | [] =>
    let n ← number low
    if n = 0 then .error u.startsAtOne else .ok (n, some n)
  | '-' :: rest =>
    let first ← if low = [] then .ok 1 else number low
    if first = 0 then .error u.startsAtOne
    else
      let high := rest.takeWhile Raw.isDigit
      match rest.drop high.length with
      | [] =>
        if high = [] then
          if low = [] then .error (Raw.ascii "invalid range with no endpoint: -") else .ok (first, none)
        else
          let last ← number high
          if last < first then .error (Raw.ascii "invalid decreasing range") else .ok (first, some last)
      | '-' :: _ => .error u.badRange
      | more => .error (u.badNumber ++ Quoting.plain more)
  | more => .error (u.badNumber ++ Quoting.plain more)

def ranges (u : Unit) (r : Raw) : Except Raw (List Range) :=
  (Text.cutAt ',' (r.map fun c => if c = ' ' || c = '\t' then ',' else c)).mapM (range u)

def isIn (rs : List Range) (n : Nat) : Bool := rs.any fun (a, b) => a ≤ n && b.all (n ≤ ·)

/-- Whether a range begins at a place that is in none of the ranges before it. -/
def beginsRange (rs : List Range) (n : Nat) : Bool := rs.any (·.1 = n) && !isIn (rs.filter (·.1 < n)) n

/-! ## Columns and fields -/

structure Selection where
  unit : Unit
  ranges : List Range
  isComplement : Bool := false
  separator : Char := '\t'
  /-- What stands between the selected parts. -/
  between : Option Raw := none
  needsSeparator : Bool := false

/-- Whether a place is selected. -/
def Selection.takes (s : Selection) (n : Nat) : Bool := isIn s.ranges n != s.isComplement

/-- The selected bytes of a line. -/
def Selection.bytesOf (s : Selection) (line : Raw) : Raw :=
  match s.between with
  | none => ((line.zipIdx 1).filter (s.takes ·.2)).map (·.1)
  | some between =>
    let isStart (n : Nat) : Bool :=
      if s.isComplement then !s.takes (n - 1) || n = 1 else beginsRange s.ranges n
    ((line.zipIdx 1).foldl (fun (out, isFirst) (c, n) =>
      if s.takes n then ((if isStart n && !isFirst then out ++ between else out) ++ [c], false)
      else (out, isFirst)) (([] : Raw), true)).1

/-- What is left of a line, if anything is. -/
def Selection.apply (s : Selection) (line : Raw) : Option Raw :=
  match s.unit with
  | .bytes => some (s.bytesOf line)
  | .fields =>
    if line.contains s.separator then
      let chosen := ((Text.cutAt s.separator line).zipIdx 1).filter (s.takes ·.2)
      some (Raw.join (s.between.getD [s.separator]) (chosen.map (·.1)))
    else if s.needsSeparator then none
    else some line

/-- Does something with the lines of each text behind names. -/
def forLines (names : List Raw) (separator : Char) (f : Raw → Option Raw) : Tool Bool :=
  Tool.forInputs names Tool.warnOf fun _ d => do
    match ← Tool.takeAll d with
    | .error e => return some e
    | .ok r =>
      let pieces := Text.cutAt separator r
      let lines := if pieces.getLast? = some [] then pieces.dropLast else pieces
      Tool.say ((lines.filterMap f).flatMap (· ++ [separator]))
      return none

def cut : Tool Nat := do
  let c ← Tool.call {
    letters := "b:c:d:f:nsz"
    long := "bytes:=b characters:=c fields:=f delimiter:=d only-delimited=s output-delimiter: " ++
      "complement zero-terminated=z" }
  let lists := c.options.filter fun (k, _) => ["b", "c", "f"].contains k
  if lists.isEmpty then
    Tool.misuse (Raw.ascii "you must specify a list of bytes, characters, or fields")
  if 1 < lists.length then Tool.misuse (Raw.ascii "only one list may be specified")
  let unit : Unit := if c.has "f" then .fields else .bytes
  let separator ← match c.value? "d" with
    | none => pure '\t'
    | some [] => pure '\x00'
    | some [d] => pure d
    | some _ => Tool.misuse (Raw.ascii "the delimiter must be a single character")
  if unit = .bytes && c.has "d" then
    Tool.misuse (Raw.ascii "an input delimiter may be specified only when operating on fields")
  if unit = .bytes && c.has "s" then
    Tool.misuse (Raw.ascii "suppressing non-delimited lines makes sense\n\tonly when operating on fields")
  match ranges unit ((lists.head?.bind (·.2)).getD []) with
  | .error reason => Tool.misuse reason
  | .ok ranges =>
    let s : Selection := {
      unit, ranges, separator
      isComplement := c.has "complement"
      between := c.value? "output-delimiter"
      needsSeparator := c.has "s" }
    return Tool.statusOf (← forLines c.operands (if c.has "z" then '\x00' else '\n') s.apply)

/-! ## Widths -/

def columnAfter (inBytes : Bool) (column : Nat) (c : Char) : Nat :=
  if inBytes then column + 1
  else
    match c with
    -- Characters that move back or on take the column along.
    | '\x08' => column - 1
    | '\r' => 0
    | '\t' => column + 8 - column % 8
    | _ => column + 1

/-- The column after a text that begins a line. -/
def columnOf (inBytes : Bool) (r : Raw) : Nat := r.foldl (columnAfter inBytes) 0

def folded (inBytes atBlanks : Bool) (width : Nat) : (fuel : Nat) → (held : Raw) → Raw → Raw → Raw
  | 0, _, _, out => out
  | _, held, [], out => held ++ out
  | fuel + 1, held, c :: r, out =>
    if c = '\n' then folded inBytes atBlanks width fuel [] r ('\n' :: held ++ out)
    else if columnAfter inBytes (columnOf inBytes held.reverse) c ≤ width then
      folded inBytes atBlanks width fuel (c :: held) r out
    else
      -- The line is broken behind its last blank, if it has one.
      let tail := held.takeWhile fun c => !Raw.isBlank c
      if atBlanks && tail.length < held.length then
        folded inBytes atBlanks width fuel tail (c :: r) ('\n' :: held.drop tail.length ++ out)
      -- A character that is wider than a line has one for itself.
      else if held = [] then folded inBytes atBlanks width fuel [c] r out
      else folded inBytes atBlanks width fuel [] (c :: r) ('\n' :: held ++ out)

def fold : Tool Nat := do
  -- A number in the place of an option is a width.
  let args := (← read).args.map fun a =>
    match a with
    | '-' :: c :: r => if (c :: r).all Raw.isDigit then Raw.ascii "-w" ++ c :: r else a
    | a => a
  let widthOf (value : Raw) : Tool Nat := do
    match Numeral.read "" value with
    | .ok 0 =>
      Tool.fail (Raw.ascii "invalid number of columns: " ++ Quoting.plain value ++
        Raw.ascii ": Numerical result out of range")
    | .ok n => return n
    | .error e => Tool.fail (Raw.ascii "invalid number of columns: " ++ Quoting.plain value ++ e.tail)
  let c ← Tool.callChecking { letters := "bsw:", long := "bytes=b spaces=s width:=w" } args fun key value => do
    if key = "w" then discard <| widthOf value
  let width ← match c.value? "w" with
    | some value => widthOf value
    | none => pure 80
  let isWhole ← Tool.forInputs c.operands Tool.warnOf fun _ d => do
    match ← Tool.takeAll d with
    | .error e => return some e
    | .ok r =>
      Tool.say (folded (c.has "b") (c.has "s") width (4 * r.length + 4) [] r []).reverse
      return none
  return Tool.statusOf isWhole

/-! ## Tabs -/

/-- Where tabs end: a list of columns, and a step after them. -/
structure TabStops where
  columns : List Nat := []
  step : Nat := 8

/-- The next column at which a tab ends; after the last one there is none. -/
def TabStops.next? (t : TabStops) (column : Nat) : Option Nat :=
  match t.columns.find? (column < ·) with
  | some n => some n
  | none => if t.step = 0 then none else some (column + t.step - column % t.step)

/-- Reads a list of columns for tabs. -/
def tabStops (r : Raw) : Except Raw TabStops :=
  let words := (Text.cutAt ',' (r.map fun c => if Raw.isBlank c then ',' else c)).filter (· ≠ [])
  match words.find? fun w => (Raw.natural? w).isNone with
  | some w =>
    .error (Raw.ascii "tab size contains invalid character(s): " ++
      Quoting.plain (w.dropWhile Raw.isDigit))
  | none =>
    match words.filterMap Raw.natural? with
    | [] => .ok {}
    | [n] => if n = 0 then .error (Raw.ascii "tab size cannot be 0") else .ok { step := n }
    | ns =>
      if ns.contains 0 then .error (Raw.ascii "tab size cannot be 0")
      else if (ns.zip (ns.drop 1)).any fun (a, b) => b ≤ a then .error (Raw.ascii "tab sizes must be ascending")
      else .ok { columns := ns, step := 0 }

def expandLine (t : TabStops) (onlyFront : Bool) (line : Raw) : Raw :=
  (line.foldl (fun (out, column, isFront) c =>
    let isFront := isFront && (Raw.isBlank c || !onlyFront)
    if c = '\t' && isFront then
      -- Behind the last stop a tab is a single blank.
      let next := (t.next? column).getD (column + 1)
      (List.replicate (next - column) ' ' ++ out, next, isFront)
    else if c = '\x08' then (c :: out, column - 1, isFront)
    else (c :: out, column + 1, isFront)) (([] : Raw), 0, true)).1.reverse

/-- A line with tabs in the place of blanks that reach a column where a tab ends. -/
def unexpandLine (t : TabStops) (all : Bool) (line : Raw) : Raw :=
  let rec go : (fuel : Nat) → (out : Raw) → (column : Nat) → (pending : Raw) → (start : Nat) →
      (active : Bool) → Raw → Raw
    | 0, out, _, pending, _, _, r => (pending ++ out).reverse ++ r
    | _, out, _, pending, _, _, [] => (pending ++ out).reverse
    | fuel + 1, out, column, pending, start, active, c :: r =>
      if active && Raw.isBlank c then
        match t.next? column with
        | none => go fuel out column (c :: pending) start false r
        | some next =>
          if c = '\t' then go fuel ('\t' :: (if pending.all (· = ' ') then [] else pending) ++ out) next [] next active r
          else
            let column := column + 1
            if column = next then
              -- A single blank before a tab stop is kept unless more blanks follow it.
              if pending = [] && !(r.head?.any Raw.isBlank) then go fuel (' ' :: out) column [] column active r
              else go fuel ('\t' :: out) column [] column active r
            else go fuel out column (' ' :: pending) start active r
      else
        go fuel (c :: pending ++ out) (if c = '\x08' then column - 1 else column + 1) [] (column + 1)
          (active && all) r
  go (2 * line.length + 2) [] 0 [] 0 true line

/-- Reads the options of the two tools for tabs. -/
def tabCall (o : Options) : Tool (Call × TabStops) := do
  let args := (← read).args.map fun a =>
    match a with
    | '-' :: c :: r =>
      if (c :: r).all (fun c => Raw.isDigit c || c = ',') then Raw.ascii "-t" ++ c :: r else a
    | a => a
  let c ← Tool.callChecking o args fun _ _ => pure ()
  match tabStops (Raw.join [','] (c.values "t")) with
  | .ok t => return (c, t)
  | .error reason => Tool.fail reason

/-- Does something with each line of the texts, which keep their last newline or its absence. -/
def forEachLine (names : List Raw) (f : Raw → Raw) : Tool Nat := do
  let isWhole ← Tool.forInputs names Tool.warnOf fun _ d => do
    match ← Tool.takeAll d with
    | .error e => return some e
    | .ok r =>
      Tool.say (Raw.join ['\n'] ((Text.cutAt '\n' r).map f))
      return none
  return Tool.statusOf isWhole

def expand : Tool Nat := do
  let (c, t) ← tabCall { letters := "it:", long := "initial=i tabs:=t" }
  forEachLine c.operands (expandLine t (c.has "i"))

def unexpand : Tool Nat := do
  let (c, t) ← tabCall { letters := "at:", long := "tabs:=t all=a first-only" }
  forEachLine c.operands (unexpandLine t ((c.has "a" || c.has "t") && !c.has "first-only"))

/-! ## Rows -/

/-- The separators that a list with escapes stands for; one of them may be empty. -/
def separators : Raw → Option (List Raw)
  | [] => some []
  | ['\\'] => none
  | '\\' :: c :: r =>
    let one : Raw := match c with
      | '0' => []
      | 'b' => ['\x08']
      | 'f' => ['\x0c']
      | 'n' => ['\n']
      | 'r' => ['\r']
      | 't' => ['\t']
      | 'v' => ['\x0b']
      | c => [c]
    (separators r).map (one :: ·)
  | c :: r => (separators r).map ([c] :: ·)

/-- Texts with separators between them, which are taken in turn. -/
def joinInTurn (seps : List Raw) : (n : Nat) → List Raw → Raw
  | _, [] => []
  | _, [r] => r
  | n, r :: rs => r ++ (seps[n % max 1 seps.length]?).getD [] ++ joinInTurn seps (n + 1) rs

def linesOf (separator : Char) (r : Raw) : List Raw :=
  let pieces := Text.cutAt separator r
  if pieces.getLast? = some [] then pieces.dropLast else pieces

/-- The columns for several names; those that stand for the same input take its lines in
turn. -/
def shareLines (columns : List (Bool × List Raw)) : List (List Raw) :=
  let shares := (columns.filter (·.1)).length
  (columns.foldl (fun (k, out) (isShared, ls) =>
    if isShared then
      (k + 1, out ++ [((ls.zipIdx.filter fun (_, i) => i % shares = k).map (·.1))])
    else (k, out ++ [ls])) (0, ([] : List (List Raw)))).2

def paste : Tool Nat := do
  let c ← Tool.call { letters := "d:sz", long := "serial=s delimiters:=d zero-terminated=z" }
  let newline := if c.has "z" then '\x00' else '\n'
  let list := (c.value? "d").getD ['\t']
  let seps ← match separators list with
    | some [] => pure [[]]
    | some seps => pure seps
    | none =>
      Tool.fail (Raw.ascii "delimiter list ends with an unescaped backslash: " ++ Quoting.plain list)
  let names := if c.operands.isEmpty then [['-']] else c.operands
  if c.has "s" then
    let isWhole ← Tool.forInputs names Tool.warnOf fun _ d => do
      match ← Tool.takeAll d with
      | .error e => return some e
      | .ok r =>
        Tool.say (joinInTurn seps 0 (linesOf newline r) ++ [newline])
        return none
    return Tool.statusOf isWhole
  else
    let mut columns : List (Bool × List Raw) := []
    let mut standard : Option Raw := none
    let mut status := 0
    for name in names do
      let isStandard := Tool.isStandard name
      match if isStandard then standard else none with
      | some r => columns := columns ++ [(true, linesOf newline r)]
      | none =>
        match ← Tool.openInput name with
        | .error e =>
          Tool.warnOf name e
          Tool.exit 1
        | .ok d =>
          match ← Tool.takeAll d with
          | .error e =>
            Tool.warnOf name e
            columns := columns ++ [(false, [])]
            status := 1
          | .ok r =>
            if isStandard then standard := some r
            columns := columns ++ [(isStandard, linesOf newline r)]
    let shared := shareLines columns
    let rows := (shared.map List.length).foldl max 0
    Tool.say ((List.range rows).flatMap fun i =>
      joinInTurn seps 0 (shared.map fun ls => ls[i]?.getD []) ++ [newline])
    return status

end Buildwatch.Machine.Cutting
