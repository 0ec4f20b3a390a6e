import Buildwatch.Machine.Tool.Copying
import Buildwatch.Machine.Tool.Order

/-!
# Listing files

Tools that show names, kinds, rights, sizes and times of files.
-/

namespace Buildwatch.Machine.Listing

/-! ## What is shown of a node -/

def blocks (n : Node) : Nat :=
  match n.content with
  | .file r => (r.length + 4095) / 4096 * 8
  | .directory => 8
  | .program _ => 200
  | .link _ | .device _ => 0

def humanSize (base : Nat) (n : Nat) : Raw :=
  if n < base then Raw.ofNat n
  else
    let letters := if base = 1000 then "kMGTPE".toList else "KMGTPE".toList
    let rec go : List Char → Nat → Raw
      | [], _ => Raw.ofNat n
      | [l], unit => Raw.ofNat ((n + unit - 1) / unit) ++ [l]
      | l :: ls, unit =>
        -- Below ten units one decimal is shown; both ways the number is rounded up.
        let tenths := (n * 10 + unit - 1) / unit
        if tenths < 100 then Raw.ofNat (tenths / 10) ++ '.' :: Raw.ofNat (tenths % 10) ++ [l]
        else
          let whole := (n + unit - 1) / unit
          if whole < base then Raw.ofNat whole ++ [l] else go ls (unit * base)
    go letters base

/-- Half a year, in microseconds. -/
def halfYear : Int := 31556952000000 / 2

def timeText (c : Call) (now modified : Int) : Raw :=
  let m := Calendar.Moment.ofMicros modified
  match (if c.has "full-time" then some (Raw.ascii "full-iso") else c.value? "time-style") with
  | some ('+' :: form) => Calendar.text form m
  | some style =>
    match String.ofList style with
    | "full-iso" => Calendar.ofMicros "%Y-%m-%d %H:%M:%S.%N %z" modified
    | "long-iso" => Calendar.ofMicros "%Y-%m-%d %H:%M" modified
    | "iso" =>
      if now - halfYear < modified && modified ≤ now then Calendar.ofMicros "%m-%d %H:%M" modified
      else Calendar.ofMicros "%Y-%m-%d " modified
    | _ => Calendar.ofMicros "%b %e %H:%M" modified
  | none =>
    -- Of times that are far away, or still to come, the year is shown.
    if now - halfYear < modified && modified ≤ now then Calendar.ofMicros "%b %e %H:%M" modified
    else Calendar.ofMicros "%b %e  %Y" modified

/-- The sign behind a name that tells its kind. -/
def sign (c : Call) (n : Node) : Raw :=
  let isFull := c.has "F"
  match n.content with
  | .directory => if isFull || c.has "p" || c.has "file-type" then ['/'] else []
  -- The long form shows what a link leads to instead.
  | .link _ => if (isFull && !c.has "l") || c.has "file-type" then ['@'] else []
  | .device .fifo => if isFull || c.has "file-type" then ['|'] else []
  | _ => if isFull && n.isExecutable then ['*'] else []

def nameText (c : Call) (name : Raw) : Raw :=
  let escaped (quote : Char) : Raw := name.flatMap fun ch =>
    if ch = '\\' || ch = quote then ['\\', ch]
    else if ch = ' ' && quote ≠ '"' then ['\\', ' ']
    else if Quoting.isPrintable ch then [ch]
    else '\\' :: Quoting.escapeOf ch
  let style := match c.last? ["Q", "b", "N", "quoting-style"] with
    | some "Q" => "c"
    | some "b" => "escape"
    | some "quoting-style" => String.ofList ((c.value? "quoting-style").getD [])
    | _ => "literal"
  match style with
  | "c" => ['"'] ++ escaped '"' ++ ['"']
  | "escape" => escaped ' '
  | "shell" => Quoting.ifNeeded name
  | "shell-always" => Quoting.always name
  | "shell-escape" => Quoting.ifNeeded name
  | "shell-escape-always" => Quoting.always name
  | _ => if c.has "q" then name.map fun ch => if Quoting.isPrintable ch then ch else '?' else name

/-! ## Rows -/

/-- A name in a list and the node behind it. -/
structure Row where
  name : Raw
  node : Node
  links : Nat
  /-- What a link leads to, with the sign for it. -/
  target : Raw := []

def row (c : Call) (v : View) (name path : Raw) (node : Node) : Row :=
  let target : Raw := match node.content with
    | .link t =>
      let s := match v.node? true path with
        | some n => if c.has "l" then sign c n else []
        | none => []
      nameText c (Raw.ofString t) ++ s
    | _ => []
  { name, node, links := v.files.linkCount node, target }

/-- The order in which rows are shown. -/
def arrange (c : Call) (rows : List Row) : List Row :=
  let byName (a b : Row) : Bool := !Raw.before b.name a.name
  let byNumber (f : Row → Int) (a b : Row) : Bool :=
    -- The largest and the latest come first.
    if f a = f b then byName a b else f b < f a
  let ending (r : Row) : Raw :=
    let tail := r.name.reverse.takeWhile (· ≠ '.')
    if tail.length < r.name.length then tail.reverse else []
  let wish : String := match c.last? ["t", "S", "U", "f", "X", "v", "sort"] with
    | some "sort" =>
      match String.ofList ((c.value? "sort").getD []) with
      | "time" => "t"
      | "size" => "S"
      | "none" => "U"
      | "extension" => "X"
      | "version" => "v"
      | _ => ""
    | some k => k
    | none => ""
  let sorted := match wish with
    | "t" => rows.mergeSort (byNumber fun r => r.node.modified)
    | "S" => rows.mergeSort (byNumber fun r => r.node.size)
    | "X" => rows.mergeSort fun a b =>
        if ending a = ending b then byName a b else Raw.before (ending a) (ending b)
    | "v" => rows.mergeSort fun a b => Order.version a.name b.name |>.isLE
    | _ => rows.mergeSort byName
  let sorted := if c.has "r" then sorted.reverse else sorted
  if c.has "directories-first" then
    sorted.filter (·.node.isDirectory) ++ sorted.filter fun r => !r.node.isDirectory
  else sorted

def sizeText (c : Call) (n : Nat) : Raw :=
  if c.has "h" then humanSize 1024 n else if c.has "si" then humanSize 1000 n else Raw.ofNat n

def roomText (c : Call) (n : Nat) : Raw :=
  if c.has "h" then humanSize 1024 (n * 512) else Raw.ofNat ((n + 1) / 2)

def widthOf (texts : List Raw) : Nat := (texts.map List.length).foldl max 0

def fronts (c : Call) (rows : List Row) : List Raw :=
  let numbers := rows.map fun r => Raw.ofNat (r.node.number + 100000)
  let rooms := rows.map fun r => roomText c (blocks r.node)
  let numberWidth := widthOf numbers
  let roomWidth := widthOf rooms
  (numbers.zip rooms).map fun (n, room) =>
    (if c.has "i" then Raw.padLeft numberWidth n ++ [' '] else []) ++
      (if c.has "s" then Raw.padLeft roomWidth room ++ [' '] else [])

def padRight (width : Nat) (r : Raw) : Raw := r ++ List.replicate (width - r.length) ' '

/-- The rows with all that there is to be shown. -/
def longRows (c : Call) (now : Int) (rows : List Row) : List Raw :=
  let owner := if c.has "n" then ['0'] else Raw.ascii "root"
  let links := rows.map fun r => Raw.ofNat r.links
  let sizes := rows.map fun r => sizeText c r.node.size
  let times := rows.map fun r => timeText c now r.node.modified
  let linkWidth := widthOf links
  let sizeWidth := widthOf sizes
  let owners := (if c.has "g" then [] else owner ++ [' ']) ++
    (if c.has "o" || c.has "G" then [] else owner ++ [' '])
  let shown := (rows.zip (fronts c rows)).zip (links.zip (sizes.zip times))
  shown.map fun ((r, front), links, size, time) =>
    front ++ Modes.ofNode r.node ++ [' '] ++ Raw.padLeft linkWidth links ++ [' '] ++ owners ++
      Raw.padLeft sizeWidth size ++ [' '] ++ time ++ [' '] ++ nameText c r.name ++
      (if r.node.content matches .link _ then Raw.ascii " -> " ++ r.target else sign c r.node)

/-- White space from one column to another; tabs where they fit. -/
def gap : (fuel : Nat) → (start stop : Nat) → Raw
  | 0, _, _ => []
  | fuel + 1, start, stop =>
    if stop ≤ start then []
    else if (start + 1) / 8 < stop / 8 then '\t' :: gap fuel (start + 8 - start % 8) stop
    else ' ' :: gap fuel (start + 1) stop

/-- The widths of columns that hold all texts, as many as fit. -/
def columnWidths (width : Nat) (byRows : Bool) (lengths : List Nat) : List Nat :=
  let n := lengths.length
  let most := min n (max 1 ((width + 2) / 3))
  let widths (k : Nat) : List Nat :=
    let rows := (n + k - 1) / k
    (List.range k).map fun column =>
      let here := (lengths.zipIdx).filterMap fun (l, i) =>
        if (if byRows then i % k else i / rows) = column then some l else none
      here.foldl max 0 + (if column + 1 = k then 0 else 2) |> max (if column + 1 = k then 1 else 3)
  -- As many columns as fit; with one the width does not matter.
  let fits (k : Nat) : Bool := Raw.total (widths k) < width
  widths ((((List.range most).map (· + 1)).reverse.find? fits).getD 1)

/-- Texts in columns. -/
def inColumns (width : Nat) (byRows : Bool) (texts : List Raw) : Raw :=
  let widths := columnWidths width byRows (texts.map List.length)
  let k := widths.length
  let n := texts.length
  let rows := (n + k - 1) / k
  let line (row : Nat) : Raw :=
    let cells := (List.range k).filterMap fun column =>
      let i := if byRows then row * k + column else row + column * rows
      (texts[i]?).map fun t => (t, Raw.total (widths.take column))
    let rec join : List (Raw × Nat) → Raw
      | [] => []
      | [(t, _)] => t
      | (t, p) :: (u, q) :: rest => t ++ gap 200 (p + t.length) q ++ join ((u, q) :: rest)
    join cells
  ((List.range (if n = 0 then 0 else rows)).map fun row => line row ++ ['\n']).flatten

def withCommas (width : Nat) (texts : List Raw) : Raw :=
  let (r, _) := texts.foldl (fun ((r, position) : Raw × Option Nat) t =>
    match position with
    | none => (t, some t.length)
    | some p =>
      if p + t.length + 2 < width then (r ++ Raw.ascii ", " ++ t, some (p + t.length + 2))
      else (r ++ Raw.ascii ",\n" ++ t, some t.length)) ([], none)
  if texts.isEmpty then [] else r ++ ['\n']

def layout? (c : Call) : Option String :=
  let key := c.last? ["l", "C", "x", "m", "1", "n", "g", "o", "full-time", "format"]
  match key with
  | some "format" =>
    match String.ofList ((c.value? "format").getD []) with
    | "long" | "verbose" => some "l"
    | "commas" => some "m"
    | "across" | "horizontal" => some "x"
    | "vertical" => some "C"
    | _ => some "1"
  | some "n" | some "g" | some "o" | some "full-time" => some "l"
  -- One name in a line is not taken back by the long form.
  | some "1" => if c.has "l" || c.has "n" || c.has "g" || c.has "o" then some "l" else some "1"
  | k => k

def listing (c : Call) (now : Int) (rows : List Row) : Raw :=
  let width := (((c.value? "w").bind Raw.natural?).getD 80)
  let width := if width = 0 then 1048576 else width
  let short := (rows.zip (fronts c rows)).map fun (r, front) => front ++ nameText c r.name ++ sign c r.node
  let ending : Char := if c.has "zero" then '\x00' else '\n'
  match layout? c with
  | some "l" => (longRows c now rows).flatMap (· ++ [ending])
  | some "C" => inColumns width false short
  | some "x" => inColumns width true short
  | some "m" => withCommas width short
  | _ => short.flatMap (· ++ [ending])

def isHidden (c : Call) (name : Raw) : Bool :=
  (name.head? = some '.' && !(c.has "a" || c.has "A" || c.has "f")) ||
    (c.has "B" && name.getLast? = some '~')

/-! ## The list -/

def directoryRows (c : Call) (v : View) (path : Raw) (place : Place) : List Row :=
  let own : List Row :=
    if c.has "a" || c.has "f" then
      [(['.'], place), (['.', '.'], place.dropLast)].filterMap fun (name, p) =>
        (v.files.node? p).map (row c v name name)
    else []
  let ignored := (c.values "I" ++ (if c.has "a" || c.has "A" then [] else c.values "hide")).map fun p =>
    Pattern.ofRaw p
  own ++ (v.files.names place).filterMap fun name =>
    let name := Raw.ofString name
    if isHidden c name || ignored.any fun p => Pattern.accepts p name then none
    else
      let inner := Names.inside path name
      match v.node? (c.has "L") inner with
      | some node => some (row c v name inner node)
      | none => (v.node? false inner).map (row c v name inner)

/-- Shows a directory, and those in it if that is asked for. -/
def showDirectory (c : Call) (hasHeader : Bool) : (fuel : Nat) → (isFirst : Bool) → (path : Raw) → Tool Unit
  | 0, _, _ => return
  | fuel + 1, isFirst, path => do
    let v ← Tool.view
    match v.find true path with
    | .error e =>
      Tool.warn (Raw.ascii "cannot open directory " ++ Quoting.always path ++ Raw.ascii ": " ++ Raw.ascii e.text)
    | .ok (place, _) =>
      let rows := arrange c (directoryRows c v path place)
      if !isFirst then Tool.say ['\n']
      if hasHeader then Tool.say (nameText c path ++ Raw.ascii ":\n")
      if layout? c = some "l" || c.has "s" then
        let all := Raw.total (rows.map fun r => blocks r.node)
        Tool.say (Raw.ascii "total " ++ roomText c all ++ ['\n'])
      Tool.say (listing c v.now rows)
      if c.has "R" then
        for r in rows do
          if r.node.isDirectory && r.name ≠ ['.'] && r.name ≠ ['.', '.'] then
            showDirectory c true fuel false (Names.inside path r.name)

def options : Options where
  letters := "abcdefghiklmnopqrstuvw:xABCDFGHI:LNQRST:UXZ1"
  long := "all=a escape=b directory=d dired=D full-time=full-time human-readable=h inode=i kibibytes=k " ++
    "numeric-uid-gid=n no-group=G hide-control-chars=q reverse=r size=s width:=w almost-all=A ignore-backups=B " ++
    "classify::=F file-type=file-type si=si dereference-command-line=H " ++
    "dereference-command-line-symlink-to-dir=HD hide:=hide ignore:=I indicator-style:=indicator dereference=L " ++
    "literal=N quote-name=Q quoting-style:=quoting-style recursive=R format:=format show-control-chars=shown " ++
    "sort:=sort tabsize:=T time:=time time-style:=time-style zero=zero color::=color hyperlink::=hyperlink " ++
    "block-size:=block context=Z author=author group-directories-first=directories-first"

/-- The call with options that stand for others spelled out. -/
def spelledOut (c : Call) : Call :=
  let more : List (String × Option Raw) := c.options.flatMap fun (key, value) =>
    match key, value.map String.ofList with
    | "indicator", some "slash" => [("p", none)]
    | "indicator", some "file-type" => [("file-type", none)]
    | "indicator", some "classify" => [("F", none)]
    | "n", _ | "g", _ | "o", _ | "full-time", _ => [(key, value), ("l", none)]
    | "format", some "long" | "format", some "verbose" => [(key, value), ("l", none)]
    | "F", some "never" => []
    | _, _ => [(key, value)]
  { c with options := more }

def ls : Tool Nat := do
  let c ← Tool.call options
  let c := spelledOut c
  let paths := if c.operands.isEmpty then [['.']] else c.operands
  let v ← Tool.view
  let isLong := layout? c = some "l"
  let followsGiven := c.has "L" || c.has "H"
  -- A link to a directory that is named is gone into, but not where it is described.
  let followsDirectories := !(isLong || c.has "d" || c.has "F") || c.has "HD"
  let mut files : List Row := []
  let mut directories : List Row := []
  let mut status := 0
  for path in paths do
    let found := if followsGiven then v.find true path else v.find false path
    match found with
    | .error e =>
      Tool.warn (Raw.ascii "cannot access " ++ Quoting.always path ++ Raw.ascii ": " ++ Raw.ascii e.text)
      status := 2
    | .ok (_, node) =>
      let node := match node.content, v.node? true path with
        | .link _, some n => if n.isDirectory && followsDirectories then n else node
        | _, _ => node
      if node.isDirectory && !c.has "d" then directories := directories ++ [row c v path path node]
      else files := files ++ [row c v path path node]
  Tool.say (listing c v.now (arrange c files))
  let hasHeader := 1 < paths.length || c.has "R"
  let mut isFirst := files.isEmpty
  for d in arrange c directories do
    showDirectory c hasHeader Copying.maxDepth isFirst d.name
    isFirst := false
  return status

/-! ## Facts about files -/

def kindBits (n : Node) : Nat :=
  match n.content with
  | .directory => 0o40000
  | .link _ => 0o120000
  | .device .fifo => 0o10000
  | .device _ => 0o20000
  | .file _ | .program _ => 0o100000

/-- A fact that a letter stands for. -/
def fact (v : View) (name : Raw) (n : Node) (letter : Char) : Raw :=
  let time := Calendar.ofMicros "%Y-%m-%d %H:%M:%S.%N %z" n.modified
  let seconds := Raw.ofInt (n.modified / 1000000)
  match letter with
  | 'a' => Modes.octal n.mode
  | 'A' => Modes.ofNode n
  | 'b' => Raw.ofNat (blocks n)
  | 'B' => Raw.ascii "512"
  | 'd' => Raw.ascii "50"
  | 'D' => Raw.ascii "32"
  | 'f' => Raw.inBase 16 (kindBits n + n.mode)
  | 'F' => Raw.ascii (Copying.kindName n)
  | 'g' | 'u' => ['0']
  | 'G' | 'U' => Raw.ascii "root"
  | 'h' => Raw.ofNat (v.files.linkCount n)
  | 'i' => Raw.ofNat (n.number + 100000)
  | 'm' => ['/']
  | 'n' => name
  | 'N' =>
    match n.content with
    | .link target => Quoting.always name ++ Raw.ascii " -> " ++ Quoting.always (Raw.ofString target)
    | _ => Quoting.always name
  | 'o' => Raw.ascii "4096"
  | 's' => Raw.ofNat n.size
  | 't' | 'T' | 'r' | 'R' => ['0']
  | 'w' => ['-']
  | 'W' => ['0']
  | 'x' | 'y' | 'z' => time
  | 'X' | 'Y' | 'Z' => seconds
  | _ => ['?']

/-- Writes facts in a form. -/
def facts (v : View) (escapes : Bool) (name : Raw) (n : Node) : (fuel : Nat) → Raw → Raw
  | 0, _ => []
  | _, [] => []
  | fuel + 1, '%' :: '%' :: r => '%' :: facts v escapes name n fuel r
  | fuel + 1, '%' :: r =>
    let flags := r.takeWhile fun c => "-+ #0'".toList.contains c
    let rest := r.drop flags.length
    let (width, afterWidth) := Raw.takeDigits 10 rest.length 0 rest
    let (places, afterPlaces) : Option Nat × Raw := match afterWidth with
      | '.' :: more =>
        let (n, more) := Raw.takeDigits 10 more.length 0 more
        (some n, more)
      | more => (none, more)
    let afterPlaces := match afterPlaces with
      | 'H' :: c :: more | 'L' :: c :: more => c :: more
      | more => more
    match afterPlaces with
    | [] => '%' :: r
    | c :: more =>
      let text := fact v name n c
      -- Only texts are cut off at a number of places.
      let isNumber := "abBdDfghioursStTXYZW".toList.contains c
      let text := match places with
        | some k => if isNumber then text else text.take k
        | none => text
      let text := if flags.contains '#' && c = 'a' then '0' :: text else text
      let missing := width - text.length
      let text :=
        if flags.contains '-' then text ++ List.replicate missing ' '
        else List.replicate missing (if flags.contains '0' && isNumber then '0' else ' ') ++ text
      text ++ facts v escapes name n fuel more
  | fuel + 1, '\\' :: c :: r =>
    if escapes then
      match c with
      | 'n' => '\n' :: facts v escapes name n fuel r
      | 't' => '\t' :: facts v escapes name n fuel r
      | 'r' => '\r' :: facts v escapes name n fuel r
      | 'a' => '\x07' :: facts v escapes name n fuel r
      | 'e' => '\x1b' :: facts v escapes name n fuel r
      | '\\' | '"' => c :: facts v escapes name n fuel r
      | c =>
        if '0' ≤ c && c ≤ '7' then
          let (value, rest) := Raw.takeDigits 8 3 0 (c :: r)
          Char.ofNat (value % 256) :: facts v escapes name n fuel rest
        else '\\' :: c :: facts v escapes name n fuel r
    else '\\' :: c :: facts v escapes name n fuel r
  | fuel + 1, c :: r => c :: facts v escapes name n fuel r

/-- The form in which all facts are shown. -/
def fullForm : Raw :=
  Raw.ascii ("  File: %N\n  Size: %-10s\tBlocks: %-10b IO Block: %-6o %F\nDevice: 0,%d\tInode: %-11i Links: %h\n" ++
    "Access: (%04a/%10.10A)  Uid: (%5u/%8U)   Gid: (%5g/%8G)\nAccess: %x\nModify: %y\nChange: %z\n Birth: %w\n")

def stat : Tool Nat := do
  let c ← Tool.call {
    letters := "c:fLt"
    long := "dereference=L file-system=f format:=c printf:=printf terse=t cached:=cached" }
  if c.operands.isEmpty then Tool.misuse (Raw.ascii "missing operand")
  let (form, escapes) := match c.last? ["c", "printf"] with
    | some "c" => ((c.value? "c").getD [] ++ ['\n'], false)
    | some _ => ((c.value? "printf").getD [], true)
    | none =>
      if c.has "t" then (Raw.ascii "%n %s %b %f %u %g %D %i %h %t %T %X %Y %Z %W %o\n", false)
      else (fullForm, false)
  let mut status := 0
  for path in c.operands do
    let v ← Tool.view
    match v.find (c.has "L") path with
    | .error e =>
      Tool.warn (Raw.ascii "cannot statx " ++ Quoting.always path ++ Raw.ascii ": " ++ Raw.ascii e.text)
      status := 1
    | .ok (_, n) => Tool.say (facts v escapes path n (form.length + 1) form)
  return status

/-! ## Room -/

def du : Tool Nat := do
  let c ← Tool.call {
    letters := "0abcd:hkLlmPsSxX:t:B:D"
    long := "null=0 all=a apparent-size=apparent bytes=b total=c max-depth:=d human-readable=h summarize=s " ++
      "separate-dirs=S one-file-system=x exclude:=exclude block-size:=B dereference=L threshold:=t si=si" }
  let size (n : Node) : Nat := if c.has "b" || c.has "apparent" then n.size else blocks n * 512
  let shown (n : Nat) : Raw :=
    if c.has "h" then humanSize 1024 n
    else if c.has "b" then Raw.ofNat n
    else if c.has "m" then Raw.ofNat ((n + 1048575) / 1048576)
    else Raw.ofNat ((n + 1023) / 1024)
  let depth := if c.has "s" then 0 else ((c.value? "d").bind Raw.natural?).getD 100000
  let mut status := 0
  let mut total := 0
  for path in if c.operands.isEmpty then [['.']] else c.operands do
    let v ← Tool.view
    match v.find (c.has "L") path with
    | .error e =>
      Tool.warn (Raw.ascii "cannot access " ++ Quoting.always path ++ Raw.ascii ": " ++ Raw.ascii e.text)
      status := 1
    | .ok (place, node) =>
      let rec go : (fuel : Nat) → (level : Nat) → Raw → Place → Node → Nat × List Raw
        | 0, _, _, _, _ => (0, [])
        | fuel + 1, level, path, place, node =>
          let (sum, lines) := (if node.isDirectory then v.files.names place else []).foldl
            (fun (sum, lines) name =>
              match v.files.node? (place ++ [name]) with
              | some inner =>
                let (n, ls) := go fuel (level + 1) (Names.inside path (Raw.ofString name)) (place ++ [name]) inner
                (sum + n, lines ++ ls)
              | none => (sum, lines)) (size node, [])
          -- What is deeper counts all the same.
          let isShown := level ≤ depth && (node.isDirectory || c.has "a" || level = 0)
          (sum, lines ++ if isShown then [shown sum ++ '\t' :: path] else [])
      let (sum, lines) := go Copying.maxDepth 0 path place node
      total := total + sum
      for l in lines do Tool.say (l ++ [if c.has "0" then '\x00' else '\n'])
  if c.has "c" then Tool.sayLine (shown total ++ Raw.ascii "\ttotal")
  return status

end Buildwatch.Machine.Listing
