import Buildwatch.Machine.Tool.Making
import Buildwatch.Machine.Tool.Regex

/-!
# Arranging text

Tools that exchange characters, turn text around, cut it into files and copy blocks of it.
-/

namespace Buildwatch.Machine.Arranging

/-! ## Sets of characters -/

inductive Part
  | char (c : Char)
  | range (low high : Char)
  | named (name : String)
  | repeated (c : Char) (count : Option Nat)

def setChar : Raw → Option (Char × Bool × Raw)
  | [] => none
  | '\\' :: c :: r =>
    match c with
    | 'a' => some ('\x07', true, r)
    | 'b' => some ('\x08', true, r)
    | 'f' => some ('\x0c', true, r)
    | 'n' => some ('\n', true, r)
    | 'r' => some ('\r', true, r)
    | 't' => some ('\t', true, r)
    | 'v' => some ('\x0b', true, r)
    | c =>
      if '0' ≤ c && c ≤ '7' then
        -- Three digits that are no byte are two digits and a character.
        let (n, rest) := Raw.takeDigits 8 3 0 (c :: r)
        if n < 256 then some (Char.ofNat n, true, rest)
        else
          let (n, rest) := Raw.takeDigits 8 2 0 (c :: r)
          some (Char.ofNat n, true, rest)
      else some (c, true, r)
  | c :: r => some (c, false, r)

/-- A character as it is written in complaints. -/
def shownChar (c : Char) : Raw :=
  if Quoting.isPrintable c then [c] else '\\' :: Quoting.octal c

def classNames : List String :=
  ["alnum", "alpha", "blank", "cntrl", "digit", "graph", "lower", "print", "punct", "space", "upper", "xdigit"]

def setParts : (fuel : Nat) → Raw → Except Raw (List Part)
  | 0, _ | _, [] => .ok []
  | fuel + 1, '[' :: m :: r => do
    let plain : Except Raw (List Part) := do .ok (.char '[' :: (← setParts fuel (m :: r)))
    let upTo (c : Char) : Option (Raw × Raw) :=
      let rec go : Raw → Raw → Option (Raw × Raw)
        | seen, a :: ']' :: rest => if a = c then some (seen.reverse, rest) else go (a :: seen) (']' :: rest)
        | seen, a :: rest => go (a :: seen) rest
        | _, [] => none
      go [] r
    if m = ':' then
      match upTo ':' with
      | some (name, rest) =>
        if classNames.contains (String.ofList name) then
          .ok (.named (String.ofList name) :: (← setParts fuel rest))
        else if r.head? = some '*' then plain
        else .error (Raw.ascii "invalid character class " ++ Quoting.plain name)
      | none => plain
    else if m = '=' then
      match upTo '=' with
      | some ([c], rest) => .ok (.char c :: (← setParts fuel rest))
      | some (name, _) =>
        if r.head? = some '*' then plain
        else .error (name ++ Raw.ascii ": equivalence class operand must be a single character")
      | none => plain
    else
      -- A repetition, where the bracket turns out to open one.
      match setChar (m :: r) with
      | some (c, _, '*' :: rest) =>
        let digits := rest.takeWhile (· ≠ ']')
        if digits.length = rest.length then plain
        else
          -- A count of zero is as good as none.
          let base := if digits.head? = some '0' then 8 else 10
          let (n, left) := Raw.takeDigits base digits.length 0 digits
          if left ≠ [] then
            .error (Raw.ascii "invalid repeat count " ++ Quoting.plain digits ++ Raw.ascii " in [c*n] construct")
          else
            .ok (.repeated c (if n = 0 then none else some n) :: (← setParts fuel (rest.drop (digits.length + 1))))
      | _ => plain
  | fuel + 1, r => do
    match setChar r with
    | none => .ok []
    | some (a, _, '-' :: rest) =>
      match setChar rest with
      | none => .ok [.char a, .char '-']
      | some (b, _, rest) =>
        if b < a then
          .error (Raw.ascii "range-endpoints of '" ++ shownChar a ++ ['-'] ++ shownChar b ++
            Raw.ascii "' are in reverse collating sequence order")
        else .ok (.range a b :: (← setParts fuel rest))
    | some (a, _, rest) => .ok (.char a :: (← setParts fuel rest))

def charsBetween (a b : Char) : Raw :=
  (List.range (b.toNat + 1 - a.toNat)).map fun i => Char.ofNat (a.toNat + i)

def classChars (name : String) : Raw :=
  let rs := Pattern.namedClass name
  ((List.range 256).map Char.ofNat).filter fun c => rs.any fun (a, b) => a ≤ c && c ≤ b

/-- The characters of a set; repetitions without a count fill up to a size. -/
def setChars (size : Nat) (ps : List Part) : Raw :=
  let fixed := Raw.total (ps.map fun
    | .char _ => 1
    | .range a b => b.toNat + 1 - a.toNat
    | .named n => (classChars n).length
    | .repeated _ (some n) => n
    | .repeated _ none => 0)
  ps.flatMap fun
    | .char c => [c]
    | .range a b => charsBetween a b
    | .named n => classChars n
    | .repeated c (some n) => List.replicate n c
    | .repeated c none => List.replicate (size - fixed) c

/-- What is done with the characters of a text. -/
structure Exchange where
  deletes : Char → Bool
  replace : Char → Char
  squeezes : Char → Bool

/-- The text after an exchange, given the last character before it. -/
def Exchange.apply (x : Exchange) (last : Option Char) (r : Raw) : Raw × Option Char :=
  let (out, last) := r.foldl (fun ((out, last) : Raw × Option Char) c =>
    if x.deletes c then (out, last)
    else
      let c := x.replace c
      -- A repetition is one of the output: it counts after the replacement.
      if last = some c && x.squeezes c then (out, last) else (c :: out, some c)) ([], last)
  (out.reverse, last)

def tr : Tool Nat := do
  let c ← Tool.call {
    letters := "cCdst", long := "complement=c delete=d squeeze-repeats=s truncate-set1=t", permutes := false }
  let hint (r : String) : Tool Unit := do
    Tool.report (Raw.ascii r)
  let complain {α : Type} (r : Raw) (more : String) : Tool α := do
    Tool.warn r
    hint more
    Tool.tryHelp
    Tool.exit 1
  let deletes := c.has "d"
  let squeezes := c.has "s"
  let isComplement := c.has "c" || c.has "C"
  let most := if deletes && !squeezes then 1 else 2
  let least := if deletes == squeezes then 2 else 1
  let least := if !deletes && !squeezes then 2 else least
  match c.operands with
  | [] => Tool.misuse (Raw.ascii "missing operand")
  | operands =>
    if operands.length < least then
      let last := operands.getLast?.getD []
      complain (Raw.ascii "missing operand after " ++ Quoting.plain last)
        (if deletes then "Two strings must be given when both deleting and squeezing repeats.\n"
          else "Two strings must be given when translating.\n")
    if most < operands.length then
      let extra := (operands[most]?).getD []
      complain (Raw.ascii "extra operand " ++ Quoting.plain extra)
        (if most = 1 then "Only one string may be given when deleting without squeezing repeats.\n" else "")
    for o in operands do
      if (o.reverse.takeWhile (· = '\\')).length % 2 = 1 then
        Tool.warn (Raw.ascii "warning: an unescaped backslash at end of string is not portable")
    let read (r : Raw) : Tool (List Part) := do
      match setParts (r.length + 1) r with
      | .ok ps => return ps
      | .error reason => Tool.fail reason
    let first ← read (operands.head?.getD [])
    let second ← (operands[1]?).mapM read
    let isFilled (ps : List Part) : Bool := ps.any fun
      | .repeated _ none => true
      | _ => false
    if isFilled first then Tool.fail (Raw.ascii "the [c*] repeat construct may not appear in string1")
    let chars := setChars 0 first
    let all := (List.range 256).map Char.ofNat
    let source := if isComplement then all.filter fun ch => !chars.contains ch else chars
    let translates := second.isSome && !deletes
    let target := setChars source.length (second.getD [])
    if translates then
      let classOf (ps : List Part) : List String := ps.filterMap fun
        | .named n => some n
        | _ => none
      let odd := (classOf (second.getD [])).filter fun n => n ≠ "upper" && n ≠ "lower"
      if !odd.isEmpty then
        Tool.fail (Raw.ascii ("when translating, the only character classes that may appear in\n" ++
          "string2 are 'upper' and 'lower'"))
      let cases (ps : List Part) : List (Nat × String) :=
        (ps.foldl (fun ((place, out) : Nat × List (Nat × String)) p =>
          match p with
          | .named n => (place + (classChars n).length, out ++ [(place, n)])
          | .char _ => (place + 1, out)
          | .range a b => (place + (b.toNat + 1 - a.toNat), out)
          | .repeated _ n => (place + n.getD 0, out)) (0, [])).2
      let firstCases := cases first
      if !isComplement && (cases (second.getD [])).any fun (place, _) =>
          !firstCases.any fun (p, n) => p = place && (n = "upper" || n = "lower") then
        Tool.fail (Raw.ascii "misaligned [:upper:] and/or [:lower:] construct")
      if target = [] && source ≠ [] && !c.has "t" then
        Tool.fail (Raw.ascii "when not truncating set1, string2 must be non-empty")
      if isComplement && !(classOf first).isEmpty && 1 < target.eraseDups.length then
        Tool.fail (Raw.ascii ("when translating with complemented character classes,\n" ++
          "string2 must map all characters in the domain to one"))
    -- The last character of a set that is too short stands for all that are missing.
    let padded := if c.has "t" then target
      else target ++ List.replicate (source.length - target.length) (target.getLast?.getD ' ')
    let table : Array Char := (source.zip padded).foldl (fun t (a, b) => t.setIfInBounds a.toNat b)
      (all.toArray)
    let members (r : Raw) : Array Bool := r.foldl (fun t ch => t.setIfInBounds ch.toNat true) (Array.replicate 256 false)
    let sourceSet := members source
    let lastSet := members (match second with
      | some ps => setChars 0 ps ++ target
      | none => source)
    let x : Exchange := {
      deletes := fun ch => deletes && sourceSet.getD ch.toNat false
      replace := fun ch => if translates then table.getD ch.toNat ch else ch
      squeezes := fun ch => squeezes && lastSet.getD ch.toNat false }
    match ← go x Tool.manyTurns none with
    | none => return 0
    | some e => Tool.fail (Raw.ascii "read error: " ++ Raw.ascii e.text)
where
  go (x : Exchange) : Nat → Option Char → Tool (Option FileError)
    | 0, _ => return none
    | turns + 1, last => do
      match ← Tool.take 0 8192 with
      | .error e => return some e
      | .ok [] => return none
      | .ok r =>
        let (out, last) := x.apply last r
        Tool.say out
        go x turns last

/-! ## Turning around -/

/-- The pieces of a text between matches of an expression, each with the match behind it. -/
def piecesBy (s : Regex.Search) (isBefore : Bool) (r : Raw) : List Raw :=
  let found := (s.all r).filter fun (a, b) => a.index < b.index
  let cuts := found.map fun (a, b) => if isBefore then a.index else b.index
  let (pieces, place) := cuts.foldl (fun ((out, place) : List Raw × Nat) cut =>
    if cut = place then (out, place) else ((r.drop place).take (cut - place) :: out, cut)) ([], 0)
  let rest := r.drop place
  (if rest = [] then pieces else rest :: pieces).reverse

def tac : Tool Nat := do
  let c ← Tool.call { letters := "brs:", long := "before=b regex=r separator:=s" }
  let separator := (c.value? "s").getD ['\n']
  if c.has "s" && separator = [] && c.has "r" then Tool.fail (Raw.ascii "separator cannot be empty")
  let separator := if separator = [] then ['\x00'] else separator
  let e ← if c.has "r" then
      match Regex.parse { extended := false } separator with
      | .ok e => pure e
      | .error reason => Tool.fail (Raw.ascii reason)
    else pure (Regex.ofText separator)
  let s := e.ready {}
  let mut status := 0
  for name in if c.operands.isEmpty then [['-']] else c.operands do
    match ← Tool.openInput name with
    | .error e =>
      Tool.warn (Raw.ascii "failed to open " ++ Quoting.always name ++ Raw.ascii " for reading: " ++ Raw.ascii e.text)
      status := 1
    | .ok d =>
      match ← Tool.takeAll d with
      | .ok r =>
        let pieces := if separator = ['\n'] then
            let lines := Text.cutLines r
            let front := lines.dropLast.map (· ++ ['\n'])
            match lines.getLast? with
            | some (ch :: l) => if c.has "b" then piecesBy s true r else front ++ [ch :: l]
            | _ => if c.has "b" then piecesBy s true r else front
          else piecesBy s (c.has "b") r
        for p in pieces.reverse do Tool.say p
      | .error _ =>
        let shown := if Tool.isStandard name then Raw.ascii "standard input" else Quoting.ifNeeded name
        Tool.warn (shown ++ Raw.ascii ": read error: Invalid argument")
        status := 1
      Tool.closeInput d
  return status

def rev : Tool Nat := do
  let c ← Tool.call { letters := "hV0", long := "zero=0" }
  let newline := if c.has "0" then '\x00' else '\n'
  let mut status := 0
  for name in if c.operands.isEmpty then [['-']] else c.operands do
    match ← Tool.contentOf name with
    | .ok r =>
      let pieces := Text.cutAt newline r
      Tool.say (Raw.join [newline] (pieces.map List.reverse))
    | .error e =>
      Tool.warn (if e = .isDirectory then name ++ Raw.ascii ": Is a directory"
        else Raw.ascii "cannot open " ++ name ++ Raw.ascii ": " ++ Raw.ascii e.text)
      status := 1
  return status

/-- Turns a list by a number of places. -/
def turned {α : Type} (seed : Nat) (xs : List α) : List α :=
  if xs.length ≤ 1 then xs
  else
    -- Any order will do; this one is a fixed function of the seed.
    let keyed := xs.zipIdx.map fun (x, i) =>
      (((i + 1) * 6364136223846793005 + seed * 1442695040888963407) % Raw.wordLimit / 8589934592, x)
    (keyed.mergeSort fun a b => a.1 ≤ b.1).map (·.2)

def shuf : Tool Nat := do
  let c ← Tool.call {
    letters := "ei:n:o:rz"
    long := "echo=e input-range:=i head-count:=n output:=o random-source:=source repeat=r zero-terminated=z" }
  let newline := if c.has "z" then '\x00' else '\n'
  let limit ← (c.value? "n").mapM fun r => do
    match Raw.natural? r with
    | some n => return n
    | none => Tool.fail (Raw.ascii "invalid line count: " ++ Quoting.plain r)
  let lines ← match c.value? "i" with
    | some r =>
      let bad : Tool (List Raw) := Tool.fail (Raw.ascii "invalid input range: " ++ Quoting.plain r)
      match Text.cutAt '-' r with
      | [a, b] =>
        match Raw.natural? a, Raw.natural? b with
        | some a, some b =>
          if a ≤ b + 1 then pure ((List.range (b + 1 - a)).map fun i => Raw.ofNat (a + i)) else bad
        | _, _ => bad
      | _ => bad
    | none =>
      if c.has "e" then pure c.operands
      else
        if let some extra := c.operands[1]? then
          Tool.misuse (Raw.ascii "extra operand " ++ Quoting.plain extra)
        if limit = some 0 then pure []
        else
          let name := c.operands.head?.getD ['-']
          match ← Tool.contentOf name with
          | .ok r =>
            let pieces := Text.cutAt newline r
            pure (if pieces.getLast? = some [] then pieces.dropLast else pieces)
          | .error e =>
            Tool.fail ((if e = .isDirectory then Raw.ascii "read error" else Quoting.ifNeeded name) ++
              Raw.ascii ": " ++ Raw.ascii e.text)
  let v ← Tool.view
  let mixed := turned (v.pid + v.clock) lines
  let chosen := match limit with
    | some n => if c.has "r" then (List.replicate n mixed).flatten.take n else mixed.take n
    | none => mixed
  let text := chosen.flatMap (· ++ [newline])
  match c.value? "o" with
  | none => Tool.say text
  | some path =>
    match ← Tool.openFile path .output with
    | .ok d => discard <| Tool.writeTo d text
    | .error e => Tool.fail (Quoting.ifNeeded path ++ Raw.ascii ": " ++ Raw.ascii e.text)
  return 0

/-! ## Cutting into files -/

/-- The letters or digits behind the names of pieces. -/
def suffix (alphabet : Raw) (width n : Nat) : Raw :=
  let k := alphabet.length
  (List.range width).reverse.map fun i => (alphabet[n / Nat.pow k i % k]?).getD 'a'

def gatherLines (size : Nat) (lines : List Raw) : List Raw :=
  let (pieces, last) := lines.foldl (fun ((out, piece) : List Raw × Raw) l =>
    if piece ≠ [] && size < piece.length + l.length then (piece :: out, l) else (out, piece ++ l)) ([], [])
  let all := (if last = [] then pieces else last :: pieces).reverse
  all.flatMap fun p => if p.length ≤ size then [p] else
    (List.range ((p.length + size - 1) / size)).map fun i => (p.drop (i * size)).take size

def split : Tool Nat := do
  let c ← Tool.call {
    letters := "0123456789C:a:b:del:n:t:ux"
    long := "bytes:=b lines:=l line-bytes:=C number:=n elide-empty-files=e unbuffered=u suffix-length:=a " ++
      "additional-suffix:=additional numeric-suffixes::=d hex-suffixes::=x filter:=filter verbose=verbose " ++
      "separator:=t" }
  if let some extra := c.operands[2]? then Tool.misuse (Raw.ascii "extra operand " ++ Quoting.plain extra)
  let name := c.operands.head?.getD ['-']
  let front := (c.operands[1]?).getD ['x']
  let size (key what : String) : Tool (Option Nat) := do
    match c.value? key with
    | none => return none
    | some r =>
      match Numeral.read Numeral.units r with
      | .ok 0 => Tool.fail (Raw.ascii ("invalid number of " ++ what ++ ": ") ++ Quoting.plain r)
      | .ok n => return some n
      | .error e => Tool.fail (Raw.ascii ("invalid number of " ++ what ++ ": ") ++ Quoting.plain r ++ e.tail)
  let newline := ((c.value? "t").bind (·.head?)).getD '\n'
  let byLines ← size "l" "lines"
  let byBytes ← size "b" "bytes"
  let byBoth ← size "C" "bytes"
  let content ← match ← Tool.contentOf name with
    | .ok r => pure r
    | .error .isDirectory => Tool.fail (Quoting.ifNeeded name ++ Raw.ascii ": Is a directory")
    | .error e =>
      Tool.fail (Raw.ascii "cannot open " ++ Quoting.always name ++ Raw.ascii " for reading: " ++ Raw.ascii e.text)
  let lines :=
    let pieces := Text.cutAt newline content
    let front := pieces.dropLast.map (· ++ [newline])
    match pieces.getLast? with
    | some (ch :: r) => front ++ [ch :: r]
    | _ => front
  let rec inGroups (size : Nat) : (fuel : Nat) → List Raw → List Raw
    | 0, _ | _, [] => []
    | fuel + 1, ls => (ls.take size).flatten :: inGroups size fuel (ls.drop size)
  let rec inBlocks (size : Nat) : (fuel : Nat) → Raw → List Raw
    | 0, _ | _, [] => []
    | fuel + 1, r => r.take size :: inBlocks size fuel (r.drop size)
  let chunk := (c.value? "n").map fun r => (Text.cutAt '/' r)
  let badChunks {α : Type} (r : Raw) : Tool α := Tool.fail (Raw.ascii "invalid number of chunks: " ++ Quoting.plain r)
  -- The pieces, and which of them alone is shown.
  let (pieces, only) ← match chunk with
    | some parts =>
      let (kind, numbers) := match parts with
        | ['l'] :: rest => ('l', rest)
        | ['r'] :: rest => ('r', rest)
        | rest => ('b', rest)
      let whole := (c.value? "n").getD []
      let (only, count) ← match numbers.map Raw.natural? with
        | [some n] => pure (none, n)
        | [some k, some n] => pure (some k, n)
        | _ => badChunks whole
      if count = 0 then badChunks whole
      let piece (i : Nat) : Raw :=
        match kind with
        | 'r' => ((lines.zipIdx.filter fun (_, j) => j % count = i).map (·.1)).flatten
        | 'l' =>
          -- A line belongs to the piece in which its first byte is.
          let size := content.length / count
          let starts := (lines.foldl (fun ((out, place) : List (Nat × Raw) × Nat) l =>
            ((place, l) :: out, place + l.length)) ([], 0)).1.reverse
          (starts.filterMap fun (place, l) =>
            let k := if size = 0 then place else min (place / size) (count - 1)
            if k = i then some l else none).flatten
        | _ =>
          let size := content.length / count
          let extra := content.length % count
          let start := i * size + min i extra
          (content.drop start).take (size + if i < extra then 1 else 0)
      pure ((List.range count).map piece, only)
    | none =>
      match byBytes, byBoth, byLines with
      | some n, _, _ => pure (inBlocks n (content.length + 1) content, none)
      | none, some n, _ => pure (gatherLines n lines, none)
      | none, none, n => pure (inGroups (n.getD 1000) (lines.length + 1) lines, none)
  if let some k := only then
    Tool.say ((pieces[k - 1]?).getD [])
    return 0
  let alphabet := if c.has "d" then "0123456789".toList else if c.has "x" then "0123456789abcdef".toList
    else "abcdefghijklmnopqrstuvwxyz".toList
  let start := (((c.value? "d").or (c.value? "x")).bind Raw.natural?).getD 0
  let width := match (c.value? "a").bind Raw.natural? with
    | some (n + 1) => n + 1
    | _ => max 2 (Nat.toDigits alphabet.length (pieces.length + start - 1)).length
  let shown := pieces.zipIdx.filter fun (p, _) => p ≠ [] || (chunk.isSome && !c.has "e")
  for (p, i) in shown do
    if Nat.pow alphabet.length width ≤ i + start then Tool.fail (Raw.ascii "output file suffixes exhausted")
    let path := front ++ suffix alphabet width (i + start) ++ (c.value? "additional").getD []
    match c.value? "filter" with
    | some command =>
      let (reading, writing) ← Tool.pipe
      let line := Raw.ascii "FILE='" ++ path ++ Raw.ascii "'; export FILE\n" ++ command
      match ← Tool.launch [Raw.ascii "sh", Raw.ascii "-c", line] [(0, reading), (writing, 0)] with
      | .ok pid =>
        Tool.close reading
        discard <| Tool.writeTo writing p
        Tool.close writing
        discard <| Tool.await pid none
      | .error _ => pure ()
    | none =>
      if c.has "verbose" then Tool.sayLine (Raw.ascii "creating file " ++ Quoting.always path)
      match ← Tool.openFile path .output with
      | .ok d =>
        discard <| Tool.writeTo d p
        Tool.close d
      | .error e => Tool.fail (Quoting.ifNeeded path ++ Raw.ascii ": " ++ Raw.ascii e.text)
  return 0

/-! ## Copying blocks -/

/-- A size, which may be a product. -/
def blockSize? (r : Raw) : Option Nat :=
  (Text.cutAt 'x' r).foldl (fun product part =>
    match product, (Numeral.read "bcEGkKMPQRTwYZ0" part).toOption with
    | some p, some n => some (p * n)
    | _, _ => none) (some 1)

def swapped : Raw → Raw
  | a :: b :: r => b :: a :: swapped r
  | r => r

/-- Reads blocks; the answer is the blocks, and how many were full and how many were not. -/
def takeBlocks (d size : Nat) (joins : Bool) : (turns : Nat) → (count : Option Nat) → List Raw →
    Tool (List Raw × Option FileError)
  | 0, _, blocks => return (blocks.reverse, none)
  | _, some 0, blocks => return (blocks.reverse, none)
  | turns + 1, count, blocks => do
    match ← block turns [] with
    | .error e => return (blocks.reverse, some e)
    | .ok [] => return (blocks.reverse, none)
    | .ok r => takeBlocks d size joins turns (count.map (· - 1)) (r :: blocks)
where
  block : Nat → Raw → Tool (Except FileError Raw)
    | 0, r => return .ok r
    | turns + 1, r => do
      match ← Tool.take d (size - r.length) with
      | .error e => return .error e
      | .ok [] => return .ok r
      | .ok more =>
        let r := r ++ more
        if r.length < size && joins then block turns r else return .ok r

def dd : Tool Nat := do
  let args := (← read).args.filter fun a => a ≠ ['-', '-']
  let mut values : List (String × Raw) := []
  for a in args do
    let key := a.takeWhile (· ≠ '=')
    let known := ["if", "of", "bs", "ibs", "obs", "cbs", "count", "skip", "seek", "iseek", "oseek", "conv", "status",
      "iflag", "oflag"]
    if key.length = a.length || !known.contains (String.ofList key) then
      Tool.misuse (Raw.ascii "unrecognized operand " ++ Quoting.plain a)
    values := (String.ofList key, a.drop (key.length + 1)) :: values
  let value? (key : String) : Option Raw := values.lookup key
  let number (key : String) : Tool (Option Nat) := do
    match value? key with
    | none => return none
    | some r =>
      -- A `B` behind the digits changes nothing: sizes are in bytes.
      let r' := if r.getLast? = some 'B' && (r.dropLast.getLast?.any Raw.isDigit) then r.dropLast else r
      match blockSize? r' with
      | some n =>
        if n = 0 && ["bs", "ibs", "obs", "cbs"].contains key then Tool.fail (Raw.ascii "invalid number: " ++ Quoting.plain r)
        return some n
      | none => Tool.fail (Raw.ascii "invalid number: " ++ Quoting.plain r)
  let words (key what : String) (known : List String) : Tool (List String) := do
    match value? key with
    | none => return []
    | some r =>
      let ws := (Text.cutAt ',' r).map String.ofList
      for w in ws do
        if !known.contains w then
          Tool.misuse (Raw.ascii ("invalid " ++ what ++ ": ") ++ Quoting.plain (Raw.ofString w))
      return ws
  let bs ← number "bs"
  let ibs := (bs.or (← number "ibs")).getD 512
  let obs := (bs.or (← number "obs")).getD 512
  let count ← number "count"
  let skip := ((← number "skip").or (← number "iseek")).getD 0
  let seek := ((← number "seek").or (← number "oseek")).getD 0
  let conv ← words "conv" "conversion"
    ["ascii", "ebcdic", "ibm", "block", "unblock", "lcase", "ucase", "sparse", "swab", "sync", "excl", "nocreat",
      "notrunc", "noerror", "fdatasync", "fsync"]
  let flags := ["append", "direct", "directory", "dsync", "sync", "fullblock", "nonblock", "noatime", "nocache",
    "noctty", "nofollow", "count_bytes", "skip_bytes", "seek_bytes"]
  let iflag ← words "iflag" "input flag" flags
  let oflag ← words "oflag" "output flag" flags
  let status := (value? "status").map String.ofList
  if let some s := status then
    if !(["none", "noxfer", "progress"].contains s) then
      Tool.misuse (Raw.ascii "invalid status level: " ++ Quoting.plain (Raw.ofString s))
  let input ← match value? "if" with
    | none => pure 0
    | some path =>
      match ← Tool.openFile path .input with
      | .ok d => pure d
      | .error e => Tool.fail (Raw.ascii "failed to open " ++ Quoting.always path ++ Raw.ascii ": " ++ Raw.ascii e.text)
  let skipBytes := if iflag.contains "skip_bytes" then skip else skip * ibs
  let seekBytes := if oflag.contains "seek_bytes" then seek else seek * obs
  let output ← match value? "of" with
    | none => pure 1
    | some path =>
      -- The file is emptied when it is opened, but for what stands before the place to write.
      let old := match (← Tool.view).node? true path with
        | some { content := .file r, .. } => r
        | _ => []
      let keeps := conv.contains "notrunc" || oflag.contains "append"
      match ← Tool.openFile path (if keeps then .append else .output) with
      | .error e => Tool.fail (Raw.ascii "failed to open " ++ Quoting.always path ++ Raw.ascii ": " ++ Raw.ascii e.text)
      | .ok d =>
        if !keeps && 0 < seekBytes then
          discard <| Tool.writeTo d (old.take seekBytes ++ List.replicate (seekBytes - old.length) '\x00')
        pure d
  if 0 < skipBytes then discard <| takeBlocks input skipBytes true 2 (some 1) []
  let (blocks, failure) ← match count with
    | some n =>
      if iflag.contains "count_bytes" then takeBlocks input n true Tool.manyTurns (some 1) []
      else takeBlocks input ibs (iflag.contains "fullblock") Tool.manyTurns (some n) []
    | none => takeBlocks input ibs (iflag.contains "fullblock") Tool.manyTurns none []
  let isFull (r : Raw) : Bool := r.length = ibs
  let full := (blocks.filter isFull).length
  let short := blocks.length - full
  let convert (r : Raw) : Raw :=
    let r := if conv.contains "sync" then r ++ List.replicate (ibs - r.length) '\x00' else r
    let r := if conv.contains "swab" then swapped r else r
    if conv.contains "ucase" then r.map Char.toUpper else if conv.contains "lcase" then r.map Char.toLower else r
  let out := (blocks.map convert).flatten
  let place? := (value? "of").filter fun _ => conv.contains "notrunc" && !oflag.contains "append"
  match place? with
  | some path =>
    discard <| Making.attempt fun v => do
      let (_, node) ← v.find true path
      match node.content with
      | .file old =>
        let text := old.take seekBytes ++ List.replicate (seekBytes - old.length) '\x00' ++ out ++
          old.drop (seekBytes + out.length)
        .ok (v.files.setContent node.number (.file text) v.now)
      | _ => .ok v.files
  | none => discard <| Tool.writeTo output out
  if let some e := failure then
    Tool.warn (Raw.ascii "error reading " ++ Quoting.always ((value? "if").getD (Raw.ascii "standard input")) ++
      Raw.ascii ": " ++ Raw.ascii e.text)
  if status ≠ some "none" then
    let written := if bs.isSome || ibs = obs then (full, short) else (out.length / obs, if out.length % obs = 0 then 0 else 1)
    let row (n : Nat × Nat) (what : String) : Raw :=
      Raw.ofNat n.1 ++ ['+'] ++ Raw.ofNat n.2 ++ Raw.ascii (" records " ++ what ++ "\n")
    Tool.report (row (full, short) "in" ++ row written "out")
    if status ≠ some "noxfer" then
      let n := out.length
      Tool.report (Raw.ofNat n ++ Raw.ascii (if n = 1 then " byte copied, " else " bytes copied, ") ++
        Raw.ascii "0.0001 s, " ++ Raw.ofNat (n * 10) ++ Raw.ascii " kB/s\n")
  return Tool.statusOf failure.isNone

end Buildwatch.Machine.Arranging
