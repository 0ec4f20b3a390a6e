import Buildwatch.Machine.Tool.Calendar
import Buildwatch.Machine.Tool.Names
import Buildwatch.Machine.Tool.Numbers
import Buildwatch.Machine.Tool.Regex

/-!
# Comparing files

Where files differ: byte by byte, or as the lines that have to be taken out of one and put
in to come to the other.
-/

namespace Buildwatch.Machine.Comparing

def misuse {α : Type} (r : Raw) : Tool α := do
  let label := (← read).label
  Tool.warn r
  Tool.warn (Raw.ascii "Try '" ++ label ++ Raw.ascii " --help' for more information.")
  Tool.exit 2

def callOf (o : Options) : Tool Call := do
  let c := o.call (← read).args
  if c.has "help" || c.has "version" then Tool.exit 0
  match c.mistake with
  | some reason => misuse reason
  | none => return c

/-! ## Bytes -/

def shownByte (c : Char) : Raw :=
  let seven (c : Char) : Raw :=
    if c.toNat < 32 then ['^', Char.ofNat (c.toNat + 64)] else if c = '\x7f' then ['^', '?'] else [c]
  if c.toNat < 128 then seven c else ['M', '-'] ++ seven (Char.ofNat (c.toNat - 128))

def differences (a b : Raw) : List (Nat × Char × Char) :=
  ((a.zip b).zipIdx 1).filterMap fun ((x, y), i) => if x = y then none else some (i, x, y)

def octal (c : Char) : Raw := Raw.padLeft 3 (Raw.inBase 8 c.toNat)

def cmp : Tool Nat := do
  let c ← callOf {
    letters := "bci:ln:sv"
    long := "print-bytes=b print-chars=b ignore-initial:=i verbose=l bytes:=n silent=s quiet=s" }
  let number (what : String) (r : Raw) : Tool Nat := do
    match Numeral.read Numeral.units r with
    | .ok n => return n
    | .error _ => misuse (Raw.ascii ("invalid --" ++ what ++ " value ") ++ Quoting.plain r)
  if c.has "l" && c.has "s" then misuse (Raw.ascii "options -l and -s are incompatible")
  let pair ← match c.value? "i" with
    | none => pure (0, 0)
    | some r =>
      match Text.cutAt ':' r with
      | [a, b] => pure (← number "ignore-initial" a, ← number "ignore-initial" b)
      | _ =>
        let n ← number "ignore-initial" r
        pure (n, n)
  let limit ← (c.value? "n").mapM (number "bytes")
  match c.operands with
  | [] => misuse (Raw.ascii "missing operand after " ++ Quoting.plain (← read).label)
  | first :: rest =>
    let second := rest.head?.getD ['-']
    let skip (i : Nat) (n : Nat) : Tool Nat := do
      match rest[i]? with
      | some r => number "ignore-initial" r
      | none => return n
    let skips := (← skip 1 pair.1, ← skip 2 pair.2)
    if let some extra := rest[3]? then misuse (Raw.ascii "extra operand " ++ Quoting.plain extra)
    let load (name : Raw) : Tool Raw := do
      match ← Tool.contentOf name with
      | .ok r => return r
      | .error e =>
        Tool.warnOf name e
        Tool.exit 2
    let a ← load first
    -- The standard input can be read only once.
    let b ← if Tool.isStandard first && Tool.isStandard second then pure a else load second
    let cut (n : Nat) (r : Raw) : Raw :=
      let r := r.drop n
      (limit.map r.take).getD r
    let a := cut skips.1 a
    let b := cut skips.2 b
    let found := differences a b
    if c.has "s" then return Tool.statusOf (a = b)
    if c.has "l" then
      let width := (Raw.ofNat (min a.length b.length)).length
      for (i, x, y) in found do
        let shown := if c.has "b" then
            octal x ++ [' '] ++ (shownByte x ++ List.replicate (4 - (shownByte x).length) ' ') ++ [' '] ++ octal y ++
              [' '] ++ shownByte y
          else octal x ++ [' '] ++ octal y
        Tool.sayLine (Raw.padLeft width (Raw.ofNat i) ++ [' '] ++ shown)
    else if let (i, x, y) :: _ := found then
      let line := (a.take (i - 1)).count '\n' + 1
      let front := first ++ [' '] ++ second ++ Raw.ascii " differ: "
      if c.has "b" then
        Tool.sayLine (front ++ Raw.ascii "byte " ++ Raw.ofNat i ++ Raw.ascii ", line " ++ Raw.ofNat line ++
          Raw.ascii " is " ++ octal x ++ [' '] ++ shownByte x ++ [' '] ++ octal y ++ [' '] ++ shownByte y)
      else
        Tool.sayLine (front ++ Raw.ascii "char " ++ Raw.ofNat i ++ Raw.ascii ", line " ++ Raw.ofNat line)
      return 1
    if a.length ≠ b.length then
      let (name, short) := if a.length < b.length then (first, a) else (second, b)
      if short = [] then Tool.warn (Raw.ascii "EOF on " ++ name ++ Raw.ascii " which is empty")
      else
        let line := short.count '\n'
        let place := if c.has "l" then []
          else if short.getLast? = some '\n' then Raw.ascii ", line " ++ Raw.ofNat line
          else Raw.ascii ", in line " ++ Raw.ofNat (line + 1)
        Tool.warn (Raw.ascii "EOF on " ++ name ++ Raw.ascii " after byte " ++ Raw.ofNat short.length ++ place)
      return 1
    return Tool.statusOf found.isEmpty

/-! ## Lines -/

/-- Which lines of two texts do not belong to what both have in common. -/
structure Changed where
  first : Array Bool
  second : Array Bool

/-- How much two texts have in common from each pair of lines on: a row for each line of
the first. -/
def commonRows (a b : Array Raw) : Array (Array Nat) :=
  let rows := a.toList.reverse.foldl (fun (rows : List (Array Nat)) x =>
    let below := (rows.head?).getD #[]
    let (row, _) := (List.range b.size).reverse.foldl (fun ((row, right) : List Nat × Nat) j =>
      let here := if b[j]? = some x then below.getD (j + 1) 0 + 1 else max (below.getD j 0) right
      (here :: row, here)) ([0], 0)
    row.toArray :: rows) [Array.replicate (b.size + 1) 0]
  rows.toArray

/-- The lines that do not belong to a longest common part. -/
def changedLines (a b : Array Raw) : Changed :=
  -- What both have at the ends needs no table.
  let front := ((a.toList.zip b.toList).takeWhile fun (x, y) => x = y).length
  let restA := a.toList.drop front
  let restB := b.toList.drop front
  let back := ((restA.reverse.zip restB.reverse).takeWhile fun (x, y) => x = y).length
  let midA := (restA.take (restA.length - back)).toArray
  let midB := (restB.take (restB.length - back)).toArray
  let rows := commonRows midA midB
  let value (i j : Nat) : Nat := (rows.getD i #[]).getD j 0
  let rec go : (fuel : Nat) → (i j : Nat) → List Bool → List Bool → List Bool × List Bool
    | 0, _, _, xs, ys => (xs, ys)
    | fuel + 1, i, j, xs, ys =>
      if i < midA.size && j < midB.size && midA[i]? = midB[j]? then go fuel (i + 1) (j + 1) (false :: xs) (false :: ys)
      -- Where both ways are as good, lines go before others come.
      else if i < midA.size && (j = midB.size || value i (j + 1) ≤ value (i + 1) j) then go fuel (i + 1) j (true :: xs) ys
      else if j < midB.size then go fuel i (j + 1) xs (true :: ys)
      else (xs, ys)
  let (xs, ys) := go (midA.size + midB.size + 1) 0 0 [] []
  let same (n : Nat) : List Bool := List.replicate n false
  { first := (same front ++ xs.reverse ++ same back).toArray
    second := (same front ++ ys.reverse ++ same back).toArray }

/-- A run of changed lines while it is moved: its start and end, the place in the other text,
and the marks. -/
structure Run where
  start : Nat
  stop : Nat
  other : Nat
  changed : Array Bool
  corresponding : Option Nat := none

/-- Goes back over changed lines. -/
def backOver (marks : Array Bool) : (fuel : Nat) → Nat → Nat
  | 0, i => i
  | fuel + 1, i => if 0 < i && marks.getD (i - 1) false then backOver marks fuel (i - 1) else i

/-- Goes forward over changed lines. -/
def forwardOver (marks : Array Bool) : (fuel : Nat) → Nat → Nat
  | 0, i => i
  | fuel + 1, i => if marks.getD i false then forwardOver marks fuel (i + 1) else i

/-- The place in the other text one unchanged line before. -/
def stepBack (marks : Array Bool) : (fuel : Nat) → Nat → Nat
  | 0, j => j
  | fuel + 1, j => if 0 < j && marks.getD (j - 1) false then stepBack marks fuel (j - 1) else j - 1

/-- Moves a run back as long as the line before is the same as its last one. -/
def moveBack (lines : Array Raw) (others : Array Bool) : (fuel : Nat) → Run → Run
  | 0, r => r
  | fuel + 1, r =>
    if 0 < r.start && lines[r.start - 1]? = lines[r.stop - 1]? then
      let changed := (r.changed.setIfInBounds (r.start - 1) true).setIfInBounds (r.stop - 1) false
      moveBack lines others fuel { r with
        start := backOver changed changed.size (r.start - 1), stop := r.stop - 1, changed
        other := stepBack others (others.size + 1) r.other }
    else r

/-- Moves a run forward as long as the line behind is the same as its first one. -/
def moveForward (lines : Array Raw) (others : Array Bool) : (fuel : Nat) → Run → Run
  | 0, r => r
  | fuel + 1, r =>
    if r.stop < lines.size && lines[r.start]? = lines[r.stop]? then
      let changed := (r.changed.setIfInBounds r.start false).setIfInBounds r.stop true
      let stop := forwardOver changed changed.size (r.stop + 1)
      let next := r.other + 1
      let other := forwardOver others others.size next
      moveForward lines others fuel { r with
        start := r.start + 1, stop, changed, other
        corresponding := if next < other then some stop else r.corresponding }
    else r

def returnTo (others : Array Bool) (target : Nat) : (fuel : Nat) → Run → Run
  | 0, r => r
  | fuel + 1, r =>
    if target < r.stop then
      returnTo others target fuel { r with
        start := r.start - 1, stop := r.stop - 1
        changed := (r.changed.setIfInBounds (r.start - 1) true).setIfInBounds (r.stop - 1) false
        other := stepBack others (others.size + 1) r.other }
    else r

/-- Moves a run until it does not grow any more. -/
def settle (lines : Array Raw) (others : Array Bool) : (fuel : Nat) → Run → Run
  | 0, r => r
  | fuel + 1, r =>
    let size := r.stop - r.start
    let r := moveBack lines others (lines.size + 1) r
    let r := { r with
      corresponding := if 0 < r.other && others.getD (r.other - 1) false then some r.stop else none }
    let r := moveForward lines others (lines.size + 1) r
    if r.stop - r.start = size then r else settle lines others fuel r

/-- Moves the changes of one text to where they read best: as far back as they go, unless
the other text is changed at a place before. -/
def shifted (lines : Array Raw) (changed others : Array Bool) : Array Bool :=
  let rec go : (fuel : Nat) → (i j : Nat) → Array Bool → Array Bool
    | 0, _, _, changed => changed
    | fuel + 1, i, j, changed =>
      if lines.size ≤ i then changed
      else if !changed.getD i false then
        go fuel (i + 1) (forwardOver others (others.size + 1) j + 1) changed
      else
        let stop := forwardOver changed changed.size i
        let r := settle lines others (lines.size + 1)
          { start := i, stop, other := forwardOver others (others.size + 1) j, changed }
        let r := match r.corresponding with
          | some target => returnTo others target (lines.size + 1) r
          | none => r
        go fuel r.stop r.other r.changed
  go (2 * lines.size + 2) 0 0 changed

/-- A change: the lines that go, and those that come in their place. -/
structure Change where
  /-- How many lines stand before it in the first and in the second text. -/
  before : Nat × Nat
  gone : Nat
  come : Nat

def changesOf (c : Changed) : List Change :=
  let rec go : (fuel : Nat) → (i j : Nat) → List Change
    | 0, _, _ => []
    | fuel + 1, i, j =>
      let i' := forwardOver c.first (c.first.size + 1) i
      let j' := forwardOver c.second (c.second.size + 1) j
      let here : List Change := if i < i' || j < j' then [⟨(i, j), i' - i, j' - j⟩] else []
      if c.first.size ≤ i' && c.second.size ≤ j' then here else here ++ go fuel (i' + 1) (j' + 1)
  go (c.first.size + c.second.size + 2) 0 0

/-- The changes from one text to another; `key` tells which lines count as the same. -/
def changes (key : Raw → Raw) (a b : Array Raw) : List Change :=
  let keysA := a.map key
  let keysB := b.map key
  let c := changedLines keysA keysB
  -- The changes of one side are moved first; those of the other look at the result.
  let first := shifted keysA c.first c.second
  changesOf { first, second := shifted keysB c.second first }

/-! ## Showing changes -/

/-- A text as lines, and whether its last line has a newline. -/
structure Lines where
  all : Array Raw
  isEnded : Bool

def Lines.of (r : Raw) : Lines where
  all := (Raw.lines r).toArray
  isEnded := r = [] || r.getLast? = some '\n'

def Lines.row (l : Lines) (mark : Raw) (i : Nat) : Raw :=
  let line := (l.all[i]?).getD []
  mark ++ line ++ ['\n'] ++
    if i + 1 = l.all.size && !l.isEnded then Raw.ascii "\\ No newline at end of file\n" else []

def Lines.rows (l : Lines) (mark : Raw) (start count : Nat) : Raw :=
  (List.range count).flatMap fun i => l.row mark (start + i)

def span (before count : Nat) : Raw :=
  if count ≤ 1 then Raw.ofNat (before + count)
  else Raw.ofNat (before + 1) ++ [','] ++ Raw.ofNat (before + count)

def plainForm (a b : Lines) (cs : List Change) : Raw :=
  cs.flatMap fun c =>
    let letter := if c.gone = 0 then 'a' else if c.come = 0 then 'd' else 'c'
    span c.before.1 c.gone ++ [letter] ++ span c.before.2 c.come ++ ['\n'] ++
      a.rows (Raw.ascii "< ") c.before.1 c.gone ++
      (if letter = 'c' then Raw.ascii "---\n" else []) ++ b.rows (Raw.ascii "> ") c.before.2 c.come

/-- Changes as commands of a line editor, the last one first. -/
def editorForm (b : Lines) (cs : List Change) : Raw :=
  cs.reverse.flatMap fun c =>
    let letter := if c.gone = 0 then 'a' else if c.come = 0 then 'd' else 'c'
    span c.before.1 c.gone ++ [letter, '\n'] ++
      if c.come = 0 then [] else b.rows [] c.before.2 c.come ++ Raw.ascii ".\n"

/-- Changes with the numbers of lines that go and come. -/
def numberForm (b : Lines) (cs : List Change) : Raw :=
  cs.flatMap fun c =>
    (if c.gone = 0 then [] else
      'd' :: Raw.ofNat (c.before.1 + 1) ++ [' '] ++ Raw.ofNat c.gone ++ ['\n']) ++
    (if c.come = 0 then [] else
      'a' :: Raw.ofNat (c.before.1 + c.gone) ++ [' '] ++ Raw.ofNat c.come ++ ['\n'] ++ b.rows [] c.before.2 c.come)

/-- Changes that are so near to each other that the lines around them touch. -/
def hunks (around : Nat) : List Change → List (List Change)
  | [] => []
  | c :: cs =>
    match hunks around cs with
    | (d :: ds) :: rest =>
      -- Lines around two changes touch where fewer than twice as many lie between them.
      if d.before.1 - (c.before.1 + c.gone) ≤ 2 * around then (c :: d :: ds) :: rest
      else [c] :: (d :: ds) :: rest
    | rest => [c] :: rest

/-- The lines that a hunk covers: how many stand before it in both texts, and how many it has
of each. -/
def extent (a b : Lines) (around : Nat) (h : List Change) : Nat × Nat × Nat × Nat :=
  match h, h.getLast? with
  | c :: _, some d =>
    let front := min around c.before.1
    let back := min around (a.all.size - (d.before.1 + d.gone))
    let startA := c.before.1 - front
    let startB := c.before.2 - front
    (startA, startB, d.before.1 + d.gone + back - startA, min (d.before.2 + d.come + back) b.all.size - startB)
  | _, _ => (0, 0, 0, 0)

/-- Changes with the lines around them, both texts in one. -/
def unifiedForm (a b : Lines) (around : Nat) (cs : List Change) : Raw :=
  let range (start count : Nat) : Raw :=
    if count = 1 then Raw.ofNat (start + 1)
    else Raw.ofNat (if count = 0 then start else start + 1) ++ [','] ++ Raw.ofNat count
  (hunks around cs).flatMap fun h =>
    let (startA, startB, sizeA, sizeB) := extent a b around h
    let (body, place) := h.foldl (fun ((body, place) : List Raw × Nat) c =>
      (b.rows ['+'] c.before.2 c.come :: a.rows ['-'] c.before.1 c.gone ::
        a.rows [' '] place (c.before.1 - place) :: body, c.before.1 + c.gone)) ([], startA)
    Raw.ascii "@@ -" ++ range startA sizeA ++ Raw.ascii " +" ++ range startB sizeB ++ Raw.ascii " @@\n" ++
      body.reverse.flatten ++ a.rows [' '] place (startA + sizeA - place)

/-- Changes with the lines around them, one text after the other. -/
def contextForm (a b : Lines) (around : Nat) (cs : List Change) : Raw :=
  let range (start count : Nat) : Raw :=
    if count ≤ 1 then Raw.ofNat (start + count)
    else Raw.ofNat (start + 1) ++ [','] ++ Raw.ofNat (start + count)
  (hunks around cs).flatMap fun h =>
    let (startA, startB, sizeA, sizeB) := extent a b around h
    let side (l : Lines) (start size : Nat) (pick : Change → Nat × Nat) (mark : Raw) : Raw :=
      let (body, place) := h.foldl (fun ((body, place) : List Raw × Nat) c =>
        let (at_, count) := pick c
        -- Lines that are exchanged for others have a mark of their own.
        let sign := if c.gone ≠ 0 && c.come ≠ 0 then Raw.ascii "! " else mark
        (l.rows sign at_ count :: l.rows (Raw.ascii "  ") place (at_ - place) :: body, at_ + count)) ([], start)
      body.reverse.flatten ++ l.rows (Raw.ascii "  ") place (start + size - place)
    Raw.ascii "***************\n*** " ++ range startA sizeA ++ Raw.ascii " ****\n" ++
      (if h.any fun c => c.gone ≠ 0 then side a startA sizeA (fun c => (c.before.1, c.gone)) (Raw.ascii "- ") else []) ++
      Raw.ascii "--- " ++ range startB sizeB ++ Raw.ascii " ----\n" ++
      (if h.any fun c => c.come ≠ 0 then side b startB sizeB (fun c => (c.before.2, c.come)) (Raw.ascii "+ ") else [])

def inColumn (width : Nat) (line : Raw) : Raw := line.take width

def columnForm (width : Nat) (suppresses : Bool) (a b : Lines) (cs : List Change) : Raw :=
  -- The second column begins at a tab stop.
  let half := (width + 1) / 2 / 8 * 8
  let half := if half = 0 then 8 else half
  let room := if width ≤ half + 3 then 1 else min (half - 3) (width - half)
  let tab (start stop : Nat) : Raw :=
    let rec go : (fuel : Nat) → Nat → Raw
      | 0, _ => []
      | fuel + 1, at_ =>
        if stop ≤ at_ then []
        else if at_ / 8 * 8 + 8 ≤ stop then '\t' :: go fuel (at_ / 8 * 8 + 8) else ' ' :: go fuel (at_ + 1)
    go (width + 10) start
  let row (left : Option Raw) (mark : Char) (right : Option Raw) : Raw :=
    let l := inColumn room (left.getD [])
    let signAt := (room + half) / 2
    let front := l ++ if mark = ' ' then [] else List.replicate (signAt - l.length) ' ' ++ [mark]
    front ++ (match right with
      | some r => tab front.length half ++ inColumn room r
      | none => []) ++ ['\n']
  let line (l : Lines) (i : Nat) : Raw := (l.all[i]?).getD []
  let both (i j n : Nat) : Raw :=
    if suppresses then []
    else (List.range n).flatMap fun k => row (some (line a (i + k))) ' ' (some (line b (j + k)))
  let (body, i, j) := cs.foldl (fun ((body, i, j) : List Raw × Nat × Nat) c =>
    let same := both i j (c.before.1 - i)
    let paired := min c.gone c.come
    let pairs := (List.range paired).flatMap fun k =>
      row (some (line a (c.before.1 + k))) '|' (some (line b (c.before.2 + k)))
    let gone := (List.range (c.gone - paired)).flatMap fun k => row (some (line a (c.before.1 + paired + k))) '<' none
    let come := (List.range (c.come - paired)).flatMap fun k =>
      row none '>' (some (line b (c.before.2 + paired + k)))
    ((gone ++ come) :: pairs :: same :: body, c.before.1 + c.gone, c.before.2 + c.come)) ([], 0, 0)
  body.reverse.flatten ++ both i j (a.all.size - i)

/-! ## The tool -/

def keyFor (c : Call) (line : Raw) : Raw :=
  let line := if c.has "strip-cr" && line.getLast? = some '\r' then line.dropLast else line
  let line :=
    if c.has "w" then line.filter fun ch => !Raw.isSpace ch
    else if c.has "b" || c.has "Z" then
      let line := (line.reverse.dropWhile Raw.isSpace).reverse
      if c.has "b" then
        (line.foldl (fun (out : Raw) ch =>
          if Raw.isSpace ch then if out.head? = some ' ' then out else ' ' :: out else ch :: out) []).reverse
      else line
    else line
  if c.has "i" then line.map Char.toLower else line

def compareTexts (c : Call) (labels : Raw × Raw) (times : Raw × Raw) (front : Raw) (a b : Raw) : Tool Nat := do
  -- Only the front of a text is looked at.
  let isBinary (r : Raw) : Bool := (r.take 65536).contains '\x00'
  if !c.has "a" && (isBinary a || isBinary b) then
    if a = b then return 0
    if c.has "q" then
      Tool.sayLine (Raw.ascii "Files " ++ labels.1 ++ Raw.ascii " and " ++ labels.2 ++ Raw.ascii " differ")
    else
      Tool.say front
      Tool.sayLine (Raw.ascii "Binary files " ++ labels.1 ++ Raw.ascii " and " ++ labels.2 ++ Raw.ascii " differ")
    return 1
  let la := Lines.of a
  let lb := Lines.of b
  -- A last line without a newline is not the same as one that has it.
  let ended (l : Lines) : Array Raw :=
    if l.isEnded || c.has "w" || c.has "b" then l.all
    else l.all.modify (l.all.size - 1) fun r => r ++ ['\n']
  let cs := changes (keyFor c) (ended la) (ended lb)
  let isIgnored (ch : Change) : Bool :=
    let gone := (List.range ch.gone).map fun i => (la.all[ch.before.1 + i]?).getD []
    let come := (List.range ch.come).map fun i => (lb.all[ch.before.2 + i]?).getD []
    let isBlank (r : Raw) : Bool := keyFor c r = []
    let matchesAll (p : Raw) (rs : List Raw) : Bool :=
      match Regex.parse { extended := false } p with
      | .ok e => rs.all (e.isIn false)
      | .error _ => false
    (c.has "B" && (gone ++ come).all isBlank) ||
      (c.has "I" && (c.values "I").any fun p => matchesAll p (gone ++ come))
  let cs := cs.filter fun ch => !isIgnored ch
  if cs.isEmpty then
    if c.has "s" then
      Tool.sayLine (Raw.ascii "Files " ++ labels.1 ++ Raw.ascii " and " ++ labels.2 ++ Raw.ascii " are identical")
    return 0
  if c.has "q" then
    Tool.sayLine (Raw.ascii "Files " ++ labels.1 ++ Raw.ascii " and " ++ labels.2 ++ Raw.ascii " differ")
    return 1
  Tool.say front
  let given := c.values "label"
  let head (i : Nat) (label time : Raw) : Raw := (given[i]?).getD (label ++ '\t' :: time)
  let number (keys : List String) : Nat :=
    ((keys.filterMap fun k => (c.value? k).bind Raw.natural?).getLast?).getD 3
  let headers (x y : String) : Raw :=
    Raw.ascii x ++ head 0 labels.1 times.1 ++ ['\n'] ++ Raw.ascii y ++ head 1 labels.2 times.2 ++ ['\n']
  if c.has "u" || c.has "U" then
    Tool.say (headers "--- " "+++ ")
    Tool.say (unifiedForm la lb (number ["U"]) cs)
  else if c.has "c" || c.has "C" then
    Tool.say (headers "*** " "--- ")
    Tool.say (contextForm la lb (number ["C"]) cs)
  else if c.has "e" then Tool.say (editorForm lb cs)
  else if c.has "n" then Tool.say (numberForm lb cs)
  else if c.has "y" then
    Tool.say (columnForm (((c.value? "W").bind Raw.natural?).getD 130) (c.has "suppress") la lb cs)
  else Tool.say (plainForm la lb cs)
  return 1

def load (c : Call) (name : Raw) : Tool (Except FileError (Raw × Raw)) := do
  let v ← Tool.view
  let time := Calendar.ofMicros "%Y-%m-%d %H:%M:%S.%N %z" <| match v.node? true name with
    | some n => n.modified
    | none => v.now
  match ← Tool.contentOf name with
  | .ok r => return .ok (r, time)
  | .error .notFound =>
    if c.has "N" then return .ok ([], Calendar.ofMicros "%Y-%m-%d %H:%M:%S.%N %z" 0) else return .error .notFound
  | .error e => return .error e

def compareFiles (c : Call) (front : Raw) (a b : Raw) : Tool Nat := do
  let x ← load c a
  let y ← if Tool.isStandard a && Tool.isStandard b then pure x else load c b
  match x, y with
  | .ok (r, s), .ok (t, u) => compareTexts c (a, b) (s, u) front r t
  | x, y =>
    if let .error e := x then Tool.warnOf a e
    if let .error e := y then Tool.warnOf b e
    return 2

def compareDirectories (c : Call) (shownArgs : Raw) : (fuel : Nat) → (a b : Raw) → Tool Nat
  | 0, _, _ => return 2
  | fuel + 1, a, b => do
    let v ← Tool.view
    let namesOf (d : Raw) : List Raw :=
      match v.find true d with
      | .ok (place, _) => (v.files.names place).map Raw.ofString
      | .error _ => []
    let excluded := (c.values "x").map Pattern.ofRaw
    let names := ((namesOf a ++ namesOf b).eraseDups.filter fun n => !excluded.any (Pattern.accepts · n)).mergeSort
      fun x y => !Raw.before y x
    let mut status := 0
    for name in names do
      let x := Names.inside a name
      let y := Names.inside b name
      let here (d : Raw) : Bool := (namesOf d).contains name
      let result ← if !here a && !(c.has "N") || (!here b && !(c.has "N")) then do
          let d := if here a then a else b
          Tool.sayLine (Raw.ascii "Only in " ++ d ++ Raw.ascii ": " ++ name)
          pure 1
        else
          match v.isDirectory x, v.isDirectory y with
          | true, true =>
            if c.has "r" then compareDirectories c shownArgs fuel x y
            else do
              Tool.sayLine (Raw.ascii "Common subdirectories: " ++ x ++ Raw.ascii " and " ++ y)
              pure 0
          | false, false =>
            let front := Raw.ascii "diff" ++ shownArgs ++ [' '] ++ x ++ [' '] ++ y ++ ['\n']
            compareFiles c (if c.has "q" then [] else front) x y
          | isX, _ =>
            let kind (isDirectory : Bool) (p : Raw) : Raw :=
              Raw.ascii (if isDirectory then "directory"
                else if (v.node? true p).any (·.size = 0) then "regular empty file" else "regular file")
            Tool.sayLine (Raw.ascii "File " ++ x ++ Raw.ascii " is a " ++ kind isX x ++ Raw.ascii " while file " ++ y ++
              Raw.ascii " is a " ++ kind (!isX) y)
            pure 1
      -- Trouble counts for more than differences, and these for more than none.
      status := max status result
    return status

def diff : Tool Nat := do
  let args := (← read).args
  let c ← callOf {
    letters := "0123456789abBcC:dD:eEfF:hHiI:lL:nNpPqrsS:tTuU:vwW:x:X:yZ"
    long := "normal=normal brief=q report-identical-files=s context::=C unified::=U ed=e rcs=n side-by-side=y " ++
      "width:=W left-column=left suppress-common-lines=suppress show-c-function=p show-function-line:=F " ++
      "label:=label expand-tabs=t initial-tab=T tabsize:=tabsize suppress-blank-empty=blank paginate=l recursive=r " ++
      "no-dereference=no-dereference new-file=N unidirectional-new-file=P ignore-file-name-case=case exclude:=x " ++
      "exclude-from:=X starting-file:=S from-file:=from to-file:=to ignore-case=i ignore-tab-expansion=E " ++
      "ignore-trailing-space=Z ignore-space-change=b ignore-all-space=w ignore-blank-lines=B " ++
      "ignore-matching-lines:=I text=a strip-trailing-cr=strip-cr minimal=d horizon-lines:=horizon " ++
      "speed-large-files=H color::=color" }
  let c := { c with options := c.options.map fun (k, v) => if k = "L" then ("label", v) else (k, v) }
  let v ← Tool.view
  let front := args.takeWhile (· ≠ ['-', '-'])
  let shownArgs := (front.filter fun a => !c.operands.contains a).flatMap fun a => ' ' :: Quoting.ifNeeded a
  let compare (a b : Raw) : Tool Nat := do
    match !Tool.isStandard a && v.isDirectory a, !Tool.isStandard b && v.isDirectory b with
    | true, true => compareDirectories c shownArgs 1000 a b
    | true, false => compareFiles c [] (Names.inside a (Names.last b)) b
    | false, true => compareFiles c [] a (Names.inside b (Names.last a))
    | false, false => compareFiles c [] a b
  let mut status := 0
  match c.value? "from", c.value? "to" with
  | some a, _ =>
    for b in c.operands do status := max status (← compare a b)
    return status
  | none, some b =>
    for a in c.operands do status := max status (← compare a b)
    return status
  | none, none =>
    match c.operands with
    | [a, b] => compare a b
    | _ :: _ :: extra :: _ => misuse (Raw.ascii "extra operand " ++ Quoting.plain extra)
    | [a] => misuse (Raw.ascii "missing operand after " ++ Quoting.plain a)
    | [] => misuse (Raw.ascii "missing operand after " ++ Quoting.plain (← read).label)

end Buildwatch.Machine.Comparing
