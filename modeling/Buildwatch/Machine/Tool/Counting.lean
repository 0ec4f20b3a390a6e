import Buildwatch.Machine.Tool.Cutting
import Buildwatch.Machine.Tool.Printing
import Buildwatch.Machine.Tool.Regex

/-!
# Counting

Counting what texts hold, numbering their lines, and rows of numbers.
-/

namespace Buildwatch.Machine.Counting

/-! ## Sizes of texts -/

/-- What is counted in a text. -/
structure Counts where
  lines : Nat := 0
  words : Nat := 0
  bytes : Nat := 0
  longest : Nat := 0

namespace Counts

def of (r : Raw) : Counts :=
  let step (acc : Counts × Bool × Nat) (c : Char) : Counts × Bool × Nat :=
    let (n, inWord, column) := acc
    let n := { n with bytes := n.bytes + 1 }
    if c = '\n' then
      ({ n with lines := n.lines + 1, longest := max n.longest column }, false, 0)
    else if c = '\r' || c = '\x0c' then ({ n with longest := max n.longest column }, false, 0)
    else if c = '\t' then (n, false, column + 8 - column % 8)
    else if c = ' ' then (n, false, column + 1)
    -- A vertical tab ends a word but takes no room.
    else if c = '\x0b' then (n, false, column)
    else
      ({ n with words := if inWord then n.words else n.words + 1 }, true,
        if Quoting.isPrintable c then column + 1 else column)
  let (n, _, column) := r.foldl step ({}, false, 0)
  { n with longest := max n.longest column }

def add (a b : Counts) : Counts where
  lines := a.lines + b.lines
  words := a.words + b.words
  bytes := a.bytes + b.bytes
  longest := max a.longest b.longest

def shown (c : Call) (n : Counts) : List Nat :=
  let isPlain := !(["l", "w", "m", "c", "L"].any c.has)
  (if isPlain || c.has "l" then [n.lines] else []) ++ (if isPlain || c.has "w" then [n.words] else []) ++
    (if c.has "m" then [n.bytes] else []) ++ (if isPlain || c.has "c" then [n.bytes] else []) ++
    (if c.has "L" then [n.longest] else [])

def row (c : Call) (width : Nat) (name : Option Raw) (n : Counts) : Raw :=
  Raw.join [' '] ((n.shown c).map fun k => Raw.padLeft width (Raw.ofNat k)) ++
    (match name with
      | some name => ' ' :: name
      | none => []) ++ ['\n']

end Counts

/-- The width of the counts for what stands behind names. -/
def widthOf (c : Call) (v : View) (names : List Raw) : Nat :=
  let kinds := (["l", "w", "m", "c", "L"].filter c.has).length
  -- A single count is not laid out.
  if names.length ≤ 1 && kinds = 1 then 1
  else
    let sizeOf? (name : Raw) : Option (Option Nat) :=
      if Tool.isStandard name then
        match v.channels.lookup 0 with
        | some (.file n) => some ((v.files.text? n).map List.length)
        | some _ => some none
        | none => none
      else
        match v.files.find true v.cwd (Raw.toText name) with
        | .ok (_, n) => some (if n.isFile then some n.size else none)
        | .error _ => none
    let sizes := (if names.isEmpty then [['-']] else names).filterMap sizeOf?
    let total := Raw.total (sizes.map (·.getD 0))
    -- What is no regular file has no size beforehand, and gets room for seven digits.
    max (Raw.ofNat total).length (if sizes.any Option.isNone then 7 else 1)

def wc : Tool Nat := do
  let c ← Tool.call {
    letters := "clLmw"
    long := "bytes=c chars=m lines=l words=w files0-from: max-line-length=L total:" }
  let width := widthOf c (← Tool.view) c.operands
  let mut total : Counts := {}
  let mut isWhole := true
  for name in if c.operands.isEmpty then [['-']] else c.operands do
    let shown := if c.operands.isEmpty then none else some name
    match ← Tool.openInput name with
    | .error e =>
      Tool.warnOf name e
      isWhole := false
    | .ok d =>
      let (failure, r) ← match ← Tool.takeAll d with
        | .error e => pure (some e, [])
        | .ok r => pure (none, r)
      if let some e := failure then
        Tool.warnOf name e
        isWhole := false
      let n := Counts.of r
      total := total.add n
      if c.value? "total" ≠ some (Raw.ascii "only") then Tool.say (n.row c width shown)
      Tool.closeInput d
  let showsTotal := match (c.value? "total").map String.ofList with
    | some "always" => true
    | some "never" => false
    | some "only" => true
    | _ => 1 < c.operands.length
  if showsTotal then
    let isOnly := c.value? "total" = some (Raw.ascii "only")
    Tool.say (total.row c (if isOnly then 1 else width) (if isOnly then none else some (Raw.ascii "total")))
  return Tool.statusOf isWhole

/-! ## Numbers for lines -/

/-- Which lines are numbered. -/
inductive Choice
  | all
  | filled
  | nothing
  | matching (e : Regex)

/-- How lines are numbered. -/
structure Numbering where
  header : Choice := .nothing
  body : Choice := .filled
  footer : Choice := .nothing
  delimiter : Raw := ['\\', ':']
  step : Int := 1
  joined : Nat := 1
  /-- How numbers are laid out: left, right, or right with zeros. -/
  layout : String := "rn"
  goesOn : Bool := false
  separator : Raw := ['\t']
  start : Int := 1
  width : Nat := 6

namespace Numbering

/-- A number laid out. -/
def text (n : Numbering) (i : Int) : Raw :=
  let digits := Raw.ofNat i.natAbs
  let sign : Raw := if i < 0 then ['-'] else []
  let gap := n.width - (sign.length + digits.length)
  match n.layout with
  | "ln" => sign ++ digits ++ List.replicate gap ' '
  | "rz" => sign ++ List.replicate gap '0' ++ digits
  | _ => List.replicate gap ' ' ++ sign ++ digits

/-- How far the numbering has come. -/
structure Cursor where
  number : Int
  region : Nat := 1
  /-- The empty lines so far that are counted as one. -/
  empty : Nat := 0

/-- The section that a line begins, if it begins one. -/
def regionAt? (n : Numbering) (line : Raw) : Option Nat :=
  let d := n.delimiter
  if d = [] then none
  else if line = d ++ d ++ d then some 0
  else if line = d ++ d then some 1
  else if line = d then some 2
  else none

def line (n : Numbering) (cursor : Cursor) (line : Raw) : Raw × Cursor :=
  match n.regionAt? line with
  | some s =>
    (['\n'], { cursor with region := s, number := if n.goesOn then cursor.number else n.start })
  | none =>
    let choice := match cursor.region with
      | 0 => n.header
      | 1 => n.body
      | _ => n.footer
    let (isNumbered, empty) : Bool × Nat := match choice with
      | .all =>
        if line = [] && 1 < n.joined then
          -- Of empty lines that are counted together the last one gets the number.
          if cursor.empty + 1 = n.joined then (true, 0) else (false, cursor.empty + 1)
        else (true, 0)
      | .filled => (line ≠ [], 0)
      | .nothing => (false, 0)
      | .matching e => (e.isIn false line, 0)
    if isNumbered then
      (n.text cursor.number ++ n.separator ++ line ++ ['\n'],
        { cursor with number := cursor.number + n.step, empty })
    else
      (List.replicate (n.width + n.separator.length) ' ' ++ line ++ ['\n'], { cursor with empty })

def lines (n : Numbering) (cursor : Cursor) (ls : List Raw) : Raw × Cursor :=
  let (out, cursor) := ls.foldl (fun (out, cursor) l =>
    let (r, cursor) := n.line cursor l
    (r :: out, cursor)) (([] : List Raw), cursor)
  (out.reverse.flatten, cursor)

end Numbering

def choice (what : String) (r : Raw) : Tool Choice := do
  match r with
  | ['a'] => return .all
  | ['t'] => return .filled
  | ['n'] => return .nothing
  | 'p' :: e =>
    match Regex.parse { extended := false } e with
    | .ok e => return .matching e
    | .error reason => Tool.fail (Raw.ascii reason)
  | r => Tool.misuse (Raw.ascii ("invalid " ++ what ++ " numbering style: ") ++ Quoting.plain r)

def nl : Tool Nat := do
  let o : Options := {
    letters := "h:b:f:v:i:pl:s:w:n:d:"
    long := "header-numbering:=h body-numbering:=b footer-numbering:=f starting-line-number:=v " ++
      "line-increment:=i no-renumber=p join-blank-lines:=l number-separator:=s number-width:=w " ++
      "number-format:=n section-delimiter:=d" }
  let integer (what : String) (r : Raw) : Tool Int := do
    match Raw.integer? (Raw.dropSpace r) with
    | some i => return i
    | none => Tool.fail (Raw.ascii ("invalid " ++ what ++ ": ") ++ Quoting.plain r)
  let positive (what : String) (r : Raw) : Tool Nat := do
    let i ← integer what r
    if i ≤ 0 then
      Tool.fail (Raw.ascii ("invalid " ++ what ++ ": ") ++ Quoting.plain r ++
        Raw.ascii ": Numerical result out of range")
    return i.toNat
  let c ← Tool.callChecking o (← read).args fun key value => do
    match key with
    | "v" => discard <| integer "starting line number" value
    | "i" => discard <| integer "line number increment" value
    | "l" => discard <| positive "line number of blank lines" value
    | "w" => discard <| positive "line number field width" value
    | "n" => if !([Raw.ascii "ln", Raw.ascii "rn", Raw.ascii "rz"].contains value) then
        Tool.misuse (Raw.ascii "invalid line numbering format: " ++ Quoting.plain value)
    | _ => pure ()
  let choiceOf (key what : String) (usual : Choice) : Tool Choice := do
    match c.value? key with
    | some r => choice what r
    | none => return usual
  let n : Numbering := {
    header := ← choiceOf "h" "header" .nothing
    body := ← choiceOf "b" "body" .filled
    footer := ← choiceOf "f" "footer" .nothing
    delimiter := match c.value? "d" with
      | none => ['\\', ':']
      | some [x] => [x, ':']
      | some d => d
    step := ((c.value? "i").bind Raw.integer?).getD 1
    joined := ((c.value? "l").bind Raw.natural?).getD 1
    layout := String.ofList ((c.value? "n").getD ['r', 'n'])
    goesOn := c.has "p"
    separator := (c.value? "s").getD ['\t']
    start := ((c.value? "v").bind Raw.integer?).getD 1
    width := ((c.value? "w").bind Raw.natural?).getD 6 }
  let mut cursor : Numbering.Cursor := { number := n.start }
  let mut isWhole := true
  for name in if c.operands.isEmpty then [['-']] else c.operands do
    match ← Tool.contentOf name with
    | .error e =>
      Tool.warnOf name e
      isWhole := false
    | .ok r =>
      let (out, next) := n.lines cursor (Cutting.linesOf '\n' r)
      cursor := next
      Tool.say out
  return Tool.statusOf isWhole

/-! ## Rows of numbers -/

/-- A number with a decimal fraction: its digits without the point, and how many of them
follow it. -/
structure Exact where
  digits : Int
  places : Nat

namespace Exact

/-- The number in a text. -/
def read? (r : Raw) : Option Exact :=
  let text := Raw.dropSpace r
  let (isNegative, text) := match text with
    | '-' :: text => (true, text)
    | '+' :: text => (false, text)
    | text => (false, text)
  let signed (n : Nat) : Int := if isNegative then -n else n
  match text with
  | '0' :: 'x' :: r | '0' :: 'X' :: r =>
    let (n, rest) := Raw.takeDigits 16 r.length 0 r
    if r ≠ [] && rest = [] then some ⟨signed n, 0⟩ else none
  | text =>
    let (n, places, count, rest) := Decimal.takePointed 10 text
    let (e, rest) := Decimal.takeExponent ['e', 'E'] rest
    if count = 0 || rest ≠ [] || 400 < e.natAbs then none
    else
      -- A negative number of places stands for zeros behind the digits.
      let places : Int := places - e
      some (if 0 ≤ places then ⟨signed n, places.toNat⟩ else ⟨signed (n * Nat.pow 10 places.natAbs), 0⟩)

def scaled (x : Exact) (places : Nat) : Int := x.digits * Nat.pow 10 (places - x.places)

end Exact

/-- A text in which one number stands: what is before and behind it, and its layout. -/
structure Frame where
  before : Raw
  layout : Printing.Layout
  conversion : Char
  behind : Raw

def frame (r : Raw) : Except Raw Frame :=
  let rec cut : Raw → Option (Raw × Raw)
    | '%' :: '%' :: r => (cut r).map fun (a, b) => ('%' :: a, b)
    | '%' :: r => some ([], r)
    | c :: r => (cut r).map fun (a, b) => (c :: a, b)
    | [] => none
  let rec unescape : Raw → Raw
    | '%' :: '%' :: r => '%' :: unescape r
    | c :: r => c :: unescape r
    | [] => []
  let bad (reason : String) : Except Raw Frame :=
    .error (Raw.ascii "format " ++ Quoting.plain r ++ Raw.ascii reason)
  match cut r with
  | none => bad " has no % directive"
  | some (before, rest) =>
    let flags := rest.takeWhile fun c => "-+#0 '".toList.contains c
    let (width, rest) := Raw.takeDigits 10 rest.length 0 (rest.drop flags.length)
    let (precision, rest) : Option Nat × Raw := match rest with
      | '.' :: rest => (Raw.takeDigits 10 rest.length 0 rest).map some id
      | rest => (none, rest)
    match rest.dropWhile (· = 'L') with
    | [] => bad " ends in %"
    | c :: behind =>
      if !"aAeEfFgG".toList.contains c then
        .error (Raw.ascii "format " ++ Quoting.plain r ++ Raw.ascii " has unknown %" ++ [c] ++
          Raw.ascii " directive")
      else if (cut behind).isSome then bad " has too many % directives"
      else .ok { before, layout := { flags, width, precision }, conversion := c, behind := unescape behind }

def numberText (f : Option Frame) (places shown width : Nat) (i : Int) : Raw :=
  match f with
  | some f =>
    f.before ++ f.layout.real f.conversion (i < 0) (.finite ⟨i.natAbs, Nat.pow 10 places⟩) ++ f.behind
  | none =>
    let digits := Decimal.withPoint shown (i.natAbs / Nat.pow 10 (places - shown))
    let sign : Raw := if i < 0 then ['-'] else []
    sign ++ List.replicate (width - (sign.length + digits.length)) '0' ++ digits

def sayRow (text : Int → Raw) (separator : Raw) (step : Int) (last : Option Int) :
    (turns : Nat) → (isFirst : Bool) → Int → Tool Unit
  | 0, _, _ => return
  | turns + 1, isFirst, i => do
    let isPast (i : Int) : Bool := last.any fun l => if 0 < step then l < i else i < l
    if isPast i then
      if !isFirst then Tool.say ['\n']
    else
      -- Numbers are said in runs, so that a reader that leaves ends an endless row.
      let row := ((List.range 200).map fun (k : Nat) => i + step * k).takeWhile fun i => !isPast i
      Tool.say ((if isFirst then [] else separator) ++ Raw.join separator (row.map text))
      sayRow text separator step last turns false (i + step * 200)

def seq : Tool Nat := do
  let isNumber (a : Raw) : Bool :=
    match a with
    | '-' :: c :: _ => Raw.isDigit c || c = '.'
    | _ => false
  let args := (← read).args
  -- A negative number is an operand, and ends the options.
  let front := args.takeWhile fun a => !isNumber a
  let args := if front.length < args.length && (front.all fun a => a.head? = some '-' && a ≠ ['-', '-']) then
      front ++ ['-', '-'] :: args.drop front.length
    else args
  let o : Options := {
    letters := "f:s:w", permutes := false, long := "equal-width=w format:=f separator:=s" }
  let c ← Tool.callChecking o args fun _ _ => pure ()
  if c.operands.isEmpty then Tool.misuse (Raw.ascii "missing operand")
  if let some extra := (c.operands.drop 3).head? then
    Tool.misuse (Raw.ascii "extra operand " ++ Quoting.plain extra)
  let f ← match c.value? "f" with
    | none => pure none
    | some r =>
      match frame r with
      | .ok f => pure (some f)
      | .error reason => Tool.fail reason
  if f.isSome && c.has "w" then
    Tool.misuse (Raw.ascii "format string may not be specified when printing equal width strings")
  let isEndless (a : Raw) : Bool :=
    let word := String.ofList (a.map Char.toLower)
    word = "inf" || word = "infinity" || word = "+inf"
  let last := c.operands.getLast?.getD []
  let endless := isEndless last
  for a in if endless then c.operands.dropLast else c.operands do
    if (Exact.read? a).isNone then
      Tool.misuse (Raw.ascii "invalid floating point argument: " ++ Quoting.plain a)
  let numbers := c.operands.map fun a => (Exact.read? a).getD ⟨0, 0⟩
  let one : Exact := ⟨1, 0⟩
  let (first, step, final) : Exact × Exact × Exact := match numbers with
    | [l] => (one, one, l)
    | [a, l] => (a, one, l)
    | a :: s :: l :: _ => (a, s, l)
    | [] => (one, one, one)
  if step.digits = 0 then
    Tool.misuse (Raw.ascii "invalid Zero increment value: " ++
      Quoting.plain ((c.operands.drop 1).head?.getD []))
  let places := max first.places (max step.places final.places)
  -- The last number only bounds the row: its places are not shown.
  let shown := max first.places step.places
  let last := if endless then none else some (final.scaled places)
  let from_ := first.scaled places
  let by_ := step.scaled places
  let width :=
    if c.has "w" then
      let plain (i : Int) : Nat := (numberText none places shown 0 i).length
      let stop := last.getD from_
      -- The widest number is the first or the last one that is said.
      max (plain from_) (plain (from_ + by_ * ((stop - from_) / by_)))
    else 0
  sayRow (numberText f places shown width) ((c.value? "s").getD ['\n']) by_ last Tool.manyTurns true from_
  return 0

/-! ## Factors -/

def factorsFrom : (fuel : Nat) → (n divisor : Nat) → List Nat
  | 0, n, _ => [n]
  | fuel + 1, n, d =>
    if n < 2 then []
    -- What has no divisor up to its root is prime.
    else if n < d * d then [n]
    else if n % d = 0 then d :: factorsFrom fuel (n / d) d
    else factorsFrom fuel n (if d = 2 then 3 else d + 2)

def factor : Tool Nat := do
  let c ← Tool.call { letters := "h", long := "exponents=h" }
  let words ← if c.operands.isEmpty then do
      match ← Tool.takeAll 0 with
      | .ok r => pure (Raw.words r)
      | .error _ => pure []
    else pure c.operands
  let mut status := 0
  for w in words do
    match Raw.natural? (match w with
      | '+' :: w => w
      | w => w) with
    | some n =>
      let fs := factorsFrom (n.log2 * 64 + 2000000) n 2
      let grouped := (fs.foldl (fun acc f =>
        match acc with
        | (g, k) :: rest => if g = f then (g, k + 1) :: rest else (f, 1) :: acc
        | [] => [(f, 1)]) ([] : List (Nat × Nat))).reverse
      let shown := if c.has "h" then
          grouped.map fun (g, k) => Raw.ofNat g ++ if 1 < k then '^' :: Raw.ofNat k else []
        else fs.map Raw.ofNat
      Tool.sayLine (Raw.ofNat n ++ ':' :: shown.flatMap (' ' :: ·))
    | none =>
      Tool.warn (Quoting.plain w ++ Raw.ascii " is not a valid positive integer")
      status := 1
  return status

end Buildwatch.Machine.Counting
