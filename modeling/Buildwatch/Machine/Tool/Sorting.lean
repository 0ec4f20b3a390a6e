import Buildwatch.Machine.Tool.Cutting
import Buildwatch.Machine.Tool.Order

/-!
# Sorting lines

Sorting by the whole of the lines or by parts of them, and what can be done with sorted
lines: dropping repeated ones, comparing and joining them, and finding an order for pairs.
-/

namespace Buildwatch.Machine.Sorting

/-! ## Keys -/

/-- How texts are compared. -/
structure Rule where
  skipsBlanks : Bool := false
  skipsEndBlanks : Bool := false
  dictionary : Bool := false
  foldsCase : Bool := false
  general : Bool := false
  human : Bool := false
  printable : Bool := false
  month : Bool := false
  numeric : Bool := false
  version : Bool := false
  reversed : Bool := false

namespace Rule

def withLetter (r : Rule) (inEnd : Bool) (c : Char) : Option Rule :=
  match c with
  | 'b' => some (if inEnd then { r with skipsEndBlanks := true } else { r with skipsBlanks := true })
  | 'd' => some { r with dictionary := true }
  | 'f' => some { r with foldsCase := true }
  | 'g' => some { r with general := true }
  | 'h' => some { r with human := true }
  | 'i' => some { r with printable := true }
  | 'M' => some { r with month := true }
  | 'n' => some { r with numeric := true }
  -- A random order is any order; the one here leaves the lines as they compare.
  | 'R' => some r
  | 'r' => some { r with reversed := true }
  | 'V' => some { r with version := true }
  | _ => none

def isPlain (r : Rule) : Bool :=
  !(r.skipsBlanks || r.skipsEndBlanks || r.dictionary || r.foldsCase || r.general || r.human ||
    r.printable || r.month || r.numeric || r.version)

/-- The letters of what is asked for, if it does not fit together. -/
def conflict? (r : Rule) : Option Raw :=
  -- Versions, dictionaries and printable characters count as one way of comparing.
  let count := ([r.numeric, r.general, r.human, r.month,
    r.version || r.dictionary || r.printable].filter id).length
  if count < 2 then none
  else
    some (([(r.dictionary, 'd'), (r.foldsCase, 'f'), (r.general, 'g'), (r.human, 'h'),
      (r.printable && !r.dictionary, 'i'), (r.month, 'M'), (r.numeric, 'n'), (r.version, 'V')].filter
        (·.1)).map (·.2))

/-- How two texts compare. -/
def compare (r : Rule) (a b : Raw) : Ordering :=
  let keep (c : Char) : Bool :=
    if r.dictionary then Raw.isBlank c || Raw.isDigit c || (Raw.isLetter c && c ≠ '_')
    else if r.printable then ' ' ≤ c && c ≤ '~'
    else true
  let a := a.filter keep
  let b := b.filter keep
  let (a, b) := if r.foldsCase then (Raw.upper a, Raw.upper b) else (a, b)
  let o :=
    if r.numeric then Order.numeric a b
    else if r.general then Order.general a b
    else if r.human then Order.human a b
    else if r.month then Order.month a b
    else if r.version then Order.version a b
    else Order.bytes a b
  if r.reversed then o.swap else o

end Rule

/-- A part of a line that is compared: where it begins and ends, as fields and characters
counted from zero. -/
structure Key where
  field : Nat := 0
  char : Nat := 0
  /-- The last field, and how many of its characters belong to the key; zero means all. -/
  last : Option (Nat × Nat) := none
  rule : Rule := {}

def dropFields (separator : Option Char) : (count : Nat) → Raw → Raw
  | 0, r => r
  | n + 1, r =>
    dropFields separator n (match separator with
      | some c => (r.dropWhile (· ≠ c)).drop 1
      -- Without a separator the blanks in front of a field belong to it.
      | none => (r.dropWhile Raw.isBlank).dropWhile fun c => !Raw.isBlank c)

/-- What is left of a line behind the last field of a key. -/
def afterFields (separator : Option Char) (count : Nat) (keepsSeparator : Bool) (line : Raw) : Raw :=
  match separator, count with
  | some c, n + 1 =>
    let r := (dropFields separator n line).dropWhile (· ≠ c)
    if keepsSeparator then r else r.drop 1
  | separator, n => dropFields separator n line

def Key.text (k : Key) (separator : Option Char) (line : Raw) : Raw :=
  let front := dropFields separator k.field line
  let front := (if k.rule.skipsBlanks then front.dropWhile Raw.isBlank else front).drop k.char
  match k.last with
  | none => front
  | some (field, chars) =>
    let rest :=
      -- The end of a field, with no character given, comes before its separator.
      if chars = 0 then afterFields separator (field + 1) true line
      else
        let r := afterFields separator field false line
        (if k.rule.skipsEndBlanks then r.dropWhile Raw.isBlank else r).drop chars
    front.take (front.length - rest.length)

def keyNumber (reason : String) (r : Raw) : Except Raw (Nat × Raw) :=
  let (n, rest) := Raw.takeDigits 10 r.length 0 r
  if rest.length = r.length then
    .error (Raw.ascii reason ++ Raw.ascii ": invalid count at start of " ++ Quoting.plain r)
  else .ok (n, rest)

def keyLetters (inEnd : Bool) : Rule → Raw → Rule × Raw
  | rule, c :: r =>
    match rule.withLetter inEnd c with
    | some rule => keyLetters inEnd rule r
    | none => (rule, c :: r)
  | rule, [] => (rule, [])

/-- Reads a key such as `2,2n`. -/
def key (r : Raw) : Except Raw Key := do
  let bad {α : Type} (reason : String) : Except Raw α :=
    .error (Raw.ascii reason ++ Raw.ascii ": invalid field specification " ++ Quoting.plain r)
  let (field, rest) ← keyNumber "invalid number at field start" r
  if field = 0 then bad "field number is zero"
  else
    let (char, rest) ← match rest with
      | '.' :: rest => do
        let (n, rest) ← keyNumber "invalid number after '.'" rest
        if n = 0 then bad "character offset is zero" else .ok (n - 1, rest)
      | rest => .ok (0, rest)
    let (rule, rest) := keyLetters false {} rest
    match rest with
    | [] => .ok { field := field - 1, char, rule }
    | ',' :: rest => do
      let (last, rest) ← keyNumber "invalid number after ','" rest
      if last = 0 then bad "field number is zero"
      else
        let (chars, rest) ← match rest with
          | '.' :: rest => keyNumber "invalid number after '.'" rest
          | rest => .ok (0, rest)
        let (rule, rest) := keyLetters true rule rest
        if rest ≠ [] then bad "stray character in field spec"
        else .ok { field := field - 1, char, last := some (last - 1, chars), rule }
    | _ => bad "stray character in field spec"

/-! ## Sorting -/

structure Style where
  keys : List Key
  separator : Option Char := none
  /-- What holds for the lines as a whole. -/
  rule : Rule := {}
  isUnique : Bool := false
  isStable : Bool := false

namespace Style

/-- The keys, with what holds for all of them. -/
def allKeys (s : Style) : List Key :=
  -- A key with letters of its own is not touched by those for all keys.
  if s.keys.isEmpty then if s.rule.isPlain then [] else [{ rule := s.rule }]
  else s.keys.map fun k => if k.rule.isPlain && !k.rule.reversed then { k with rule := s.rule } else k

/-- How two lines compare, given their keys. -/
def compare (s : Style) (rules : List Rule) (a b : Raw × List Raw) : Ordering :=
  let byKeys := (rules.zip (a.2.zip b.2)).foldl (fun o (rule, x, y) =>
    if o == .eq then rule.compare x y else o) Ordering.eq
  -- Lines with equal keys are told apart by all their bytes, as a last resort.
  if byKeys != .eq || (!rules.isEmpty && (s.isUnique || s.isStable)) then byKeys
  else
    let o := Order.bytes a.1 b.1
    if s.rule.reversed then o.swap else o

def dropRepeated {α : Type} (isSame : α → α → Bool) : List α → List α
  | [] => []
  | a :: as =>
    (as.foldl (fun (last, out) b => if isSame last b then (last, out) else (b, b :: out)) (a, [a])).2.reverse

/-- A line with its keys. -/
def withKeys (s : Style) (keys : List Key) (line : Raw) : Raw × List Raw :=
  (line, keys.map (·.text s.separator line))

/-- The lines in order. -/
def sort (s : Style) (lines : List Raw) : List Raw :=
  let keys := s.allKeys
  let rules := keys.map (·.rule)
  let sorted := (lines.map (s.withKeys keys)).mergeSort fun a b => s.compare rules a b != .gt
  (if s.isUnique then dropRepeated (fun a b => s.compare rules a b == .eq) sorted else sorted).map (·.1)

/-- The first line that is not in order, with its number. -/
def disorder? (s : Style) (lines : List Raw) : Option (Nat × Raw) :=
  let keys := s.allKeys
  let rules := keys.map (·.rule)
  let pairs := (lines.zip (lines.drop 1)).zipIdx 2
  (pairs.find? fun ((a, b), _) =>
    let o := s.compare rules (s.withKeys keys a) (s.withKeys keys b)
    o == .gt || (s.isUnique && o == .eq)).map fun ((_, b), n) => (n, b)

end Style

abbrev linesOf := Cutting.linesOf

/-- Sorts lines. -/
def sort : Tool Nat := do
  let letters := "bdfghiMnRrVcCmo:sk:S:t:T:uy:z"
  let o : Options := {
    letters
    long := "ignore-leading-blanks=b check::=check compress-program: debug dictionary-order=d " ++
      "ignore-case=f files0-from: general-numeric-sort=g ignore-nonprinting=i key:=k merge=m " ++
      "month-sort=M numeric-sort=n human-numeric-sort=h version-sort=V random-sort=R " ++
      "random-source: sort: output:=o reverse=r stable=s batch-size: buffer-size:=S " ++
      "field-separator:=t temporary-directory:=T unique=u zero-terminated=z parallel:" }
  let c ← Tool.callChecking o (← read).args fun k value => do
    match k with
    | "k" =>
      match key value with
      | .ok _ => pure ()
      | .error reason => Tool.fail reason
    | "t" =>
      if value = [] then Tool.fail (Raw.ascii "empty tab")
      else if 1 < value.length && value ≠ Raw.ascii "\\0" then
        Tool.fail (Raw.ascii "multi-character tab " ++ Quoting.plain value)
    | "parallel" =>
      if (Raw.natural? value).isNone then
        Tool.fail (Raw.ascii "invalid --parallel argument " ++ Quoting.plain value)
    | _ => pure ()
  let longSorts := (c.values "sort").filterMap fun v =>
    match String.ofList v with
    | "general-numeric" => some 'g'
    | "human-numeric" => some 'h'
    | "month" => some 'M'
    | "numeric" => some 'n'
    | "random" => some 'R'
    | "version" => some 'V'
    | _ => none
  let given := longSorts ++ c.options.filterMap fun (k, _) => k.toList.head?
  let rule : Rule := given.foldl (fun r l => (r.withLetter false l).getD r) {}
  let rule := if c.has "b" then { rule with skipsEndBlanks := true } else rule
  let keys := (c.values "k").filterMap fun v => (key v).toOption
  let s : Style := {
    keys, rule
    separator := (c.value? "t").bind fun v => if v = Raw.ascii "\\0" then some '\x00' else v.head?
    isUnique := c.has "u"
    isStable := c.has "s" }
  for r in (s.allKeys.map (·.rule)) ++ [rule] do
    if let some letters := r.conflict? then
      Tool.fail (Raw.ascii "options '-" ++ letters ++ Raw.ascii "' are incompatible")
  let newline := if c.has "z" then '\x00' else '\n'
  let checks := c.has "c" || c.has "C" || c.has "check"
  let isQuiet := c.has "C" || (c.values "check").any fun v => v.head? = some 'q' || v.head? = some 's'
  if c.has "C" && c.has "c" then Tool.fail (Raw.ascii "options '-cC' are incompatible")
  if checks then
    if let some extra := (c.operands.drop 1).head? then
      Tool.fail (Raw.ascii "extra operand " ++ Quoting.always extra ++ Raw.ascii " not allowed with -" ++
        (if isQuiet then ['C'] else ['c']))
    if c.has "o" then Tool.fail (Raw.ascii (if isQuiet then "options '-Co' are incompatible"
      else "options '-co' are incompatible"))
  -- All inputs are read before the output is opened, which may be one of them.
  let mut lines : List Raw := []
  for name in if c.operands.isEmpty then [['-']] else c.operands do
    match ← Tool.openInput name with
    | .error e => Tool.fail (Raw.ascii (if checks then "open failed: " else "cannot read: ") ++ name ++
        Raw.ascii ": " ++ Raw.ascii e.text)
    | .ok d =>
      match ← Tool.takeAll d with
      | .error e => Tool.fail (Raw.ascii "read failed: " ++ name ++ Raw.ascii ": " ++ Raw.ascii e.text)
      | .ok r => lines := lines ++ linesOf newline r
      Tool.closeInput d
  if checks then
    match s.disorder? lines with
    | none => return 0
    | some (n, line) =>
      let name := (c.operands.head?).getD ['-']
      if !isQuiet then
        Tool.warn (name ++ ':' :: Raw.ofNat n ++ Raw.ascii ": disorder: " ++ line)
      return 1
  else
    let out := (s.sort lines).flatMap (· ++ [newline])
    match c.value? "o" with
    | none => Tool.say out
    | some name =>
      match ← Tool.openFile name .output with
      | .ok d => discard <| Tool.writeTo d out
      | .error e => Tool.fail (Raw.ascii "open failed: " ++ name ++ Raw.ascii ": " ++ Raw.ascii e.text)
    return 0

/-! ## Repeated lines -/

structure Likeness where
  fields : Nat := 0
  chars : Nat := 0
  limit : Option Nat := none
  foldsCase : Bool := false

/-- What is compared of a line. -/
def Likeness.part (l : Likeness) (line : Raw) : Raw :=
  let rest := (dropFields none l.fields line).drop l.chars
  let rest := match l.limit with
    | some n => rest.take n
    | none => rest
  if l.foldsCase then Raw.upper rest else rest

def runs (l : Likeness) (lines : List Raw) : List (List Raw) :=
  let step (acc : List (Raw × List Raw)) (line : Raw) : List (Raw × List Raw) :=
    let part := l.part line
    match acc with
    | (p, run) :: rest => if p = part then (p, line :: run) :: rest else (part, [line]) :: acc
    | [] => [(part, [line])]
  ((lines.foldl step []).map (·.2.reverse)).reverse

def uniq : Tool Nat := do
  let o : Options := {
    letters := "cdDuif:s:w:z0123456789"
    long := "count=c repeated=d all-repeated::=D group::=group ignore-case=i unique=u skip-fields:=f " ++
      "skip-chars:=s check-chars:=w zero-terminated=z" }
  let number (what : String) (value : Raw) : Tool Nat := do
    match Numeral.read "" value with
    | .ok n => return n
    | .error .tooLarge => return Raw.wordLimit
    | .error _ => Tool.fail (value ++ Raw.ascii ": " ++ Raw.ascii what)
  let c ← Tool.callChecking o (← read).args fun key value => do
    match key with
    | "f" => discard <| number "invalid number of fields to skip" value
    | "s" => discard <| number "invalid number of bytes to skip" value
    | "w" => discard <| number "invalid number of bytes to compare" value
    | _ => pure ()
  if let some extra := (c.operands.drop 2).head? then
    Tool.misuse (Raw.ascii "extra operand " ++ Quoting.plain extra)
  if c.has "c" && c.has "D" then
    Tool.misuse (Raw.ascii "printing all duplicated lines and repeat counts is meaningless")
  if c.has "group" && (c.has "c" || c.has "d" || c.has "D" || c.has "u") then
    Tool.misuse (Raw.ascii "--group is mutually exclusive with -c/-d/-D/-u")
  let count? (key : String) : Option Nat := (c.value? key).bind fun v => (Numeral.read "" v).toOption
  let l : Likeness := {
    fields := (count? "f").getD 0, chars := (count? "s").getD 0, limit := count? "w"
    foldsCase := c.has "i" }
  let newline := if c.has "z" then '\x00' else '\n'
  let name := c.operands.head?.getD ['-']
  match ← Tool.openInput name with
  | .error e => Tool.fail (name ++ Raw.ascii ": " ++ Raw.ascii e.text)
  | .ok d =>
    let target ← match c.operands.drop 1 with
      | out :: _ =>
        if Tool.isStandard out then pure 1
        else
          match ← Tool.openFile out .output with
          | .ok d => pure d
          | .error e => Tool.fail (out ++ Raw.ascii ": " ++ Raw.ascii e.text)
      | [] => pure 1
    match ← Tool.takeAll d with
    | .error e =>
      Tool.fail (Raw.ascii "error reading " ++ Quoting.always name ++ Raw.ascii ": " ++ Raw.ascii e.text)
    | .ok r =>
      let all := runs l (linesOf newline r)
      let method := ((c.value? "D").orElse fun _ => c.value? "group").getD []
      let separated := c.has "group" || (c.has "D" && (method.head? = some 'p' || method.head? = some 's'))
      let out : List Raw :=
        if c.has "D" || c.has "group" then
          let kept := if c.has "D" then all.filter fun run => 1 < run.length else all
          let front := method.head? = some 'p' || method.head? = some 'b'
          let back := c.has "group" && (method.head? = some 'a' || method.head? = some 'b')
          let blocks := kept.map fun run => run.flatMap (· ++ [newline])
          if !separated then blocks
          else if kept.isEmpty then []
          else
            (if front then [[newline]] else []) ++ [Raw.join [newline] blocks] ++
              (if back then [[newline]] else [])
        else
          (all.filter fun run => (!c.has "d" || 1 < run.length) && (!c.has "u" || run.length = 1)).map
            fun run =>
              (if c.has "c" then Raw.padLeft 7 (Raw.ofNat run.length) ++ [' '] else []) ++
                run.head?.getD [] ++ [newline]
      if target = 1 then Tool.say out.flatten else discard <| Tool.writeTo target out.flatten
      return 0

/-! ## Comparing -/

/-- What is common to two rows of sorted lines: each line with the column that it is in. -/
def compareLines : (fuel : Nat) → List Raw → List Raw → List (Nat × Raw)
  | 0, _, _ => []
  | _, as, [] => as.map (1, ·)
  | _, [], bs => bs.map (2, ·)
  | fuel + 1, a :: as, b :: bs =>
    if a = b then (3, a) :: compareLines fuel as bs
    else if Raw.before a b then (1, a) :: compareLines fuel as (b :: bs)
    else (2, b) :: compareLines fuel (a :: as) bs

def isSorted (lines : List Raw) : Bool :=
  (lines.zip (lines.drop 1)).all fun (a, b) => !Raw.before b a

/-- The lines behind a name, or a complaint. -/
def linesBehind (newline : Char) (name : Raw) : Tool (List Raw) := do
  match ← Tool.contentOf name with
  | .ok r => return linesOf newline r
  | .error e => Tool.fail (name ++ Raw.ascii ": " ++ Raw.ascii e.text)

def twoOperands (c : Call) : Tool (Raw × Raw) := do
  match c.operands with
  | [a, b] => return (a, b)
  | [] => Tool.misuse (Raw.ascii "missing operand")
  | [a] => Tool.misuse (Raw.ascii "missing operand after " ++ Quoting.plain a)
  | _ :: _ :: extra :: _ => Tool.misuse (Raw.ascii "extra operand " ++ Quoting.plain extra)

def comm : Tool Nat := do
  let c ← Tool.call {
    letters := "123z"
    long := "check-order nocheck-order output-delimiter: total zero-terminated=z" }
  let (left, right) ← twoOperands c
  let newline := if c.has "z" then '\x00' else '\n'
  let as ← linesBehind newline left
  let bs ← linesBehind newline right
  let rows := compareLines (as.length + bs.length + 1) as bs
  let separator := match c.value? "output-delimiter" with
    | some [] => ['\x00']
    | some r => r
    | none => ['\t']
  let indent (column : Nat) : Raw :=
    ((List.range (column - 1)).filter fun i => !c.has (toString (i + 1))).flatMap fun _ => separator
  let shown := rows.filter fun (n, _) => !c.has (toString n)
  Tool.say (shown.flatMap fun (n, line) => indent n ++ line ++ [newline])
  if c.has "total" then
    let count (k : Nat) : Raw := Raw.ofNat (rows.filter (·.1 = k)).length
    Tool.say (count 1 ++ separator ++ count 2 ++ separator ++ count 3 ++ separator ++
      Raw.ascii "total" ++ [newline])
  let hasUnpaired := rows.any fun (n, _) => n ≠ 3
  -- Sorted or not does not matter where all lines are common.
  let checks := c.has "check-order" || (!c.has "nocheck-order" && hasUnpaired)
  let complaints := (if isSorted as then [] else ['1']) ++ (if isSorted bs then [] else ['2'])
  if checks && complaints ≠ [] then
    for n in complaints do
      Tool.warn (Raw.ascii "file " ++ [n] ++ Raw.ascii " is not in sorted order")
      if c.has "check-order" then Tool.exit 1
    Tool.warn (Raw.ascii "input is not in sorted order")
    return 1
  return 0

/-! ## Joining -/

def fieldsOf (separator : Option Char) (line : Raw) : List Raw :=
  match separator with
  | some c => Text.cutAt c line
  | none =>
    (line.foldr (fun c acc =>
      if Raw.isBlank c then [] :: acc
      else
        match acc with
        | w :: ws => (c :: w) :: ws
        | [] => [[c]]) ([[]] : List Raw)).filter (· ≠ [])

structure Joint where
  separator : Option Char := none
  /-- The fields by which lines are joined, counted from zero. -/
  first : Nat := 0
  second : Nat := 0
  /-- Which fields are shown, by text and number; zero stands for the common one. -/
  shown : Option (List (Nat × Nat)) := none
  missing : Raw := []
  foldsCase : Bool := false

namespace Joint

def keyOf (n : Nat) (fields : List Raw) : Raw := (fields[n]?).getD []

def compare (j : Joint) (a b : Raw) : Ordering :=
  if j.foldsCase then Order.bytes (Raw.upper a) (Raw.upper b) else Order.bytes a b

/-- A line for a pair, of which one may be missing. -/
def row (j : Joint) (a b : Option (List Raw)) : Raw :=
  let gap := [j.separator.getD ' ']
  let key := match a, b with
    | some a, _ => keyOf j.first a
    | none, some b => keyOf j.second b
    | none, none => []
  let orMissing (r : Raw) : Raw := if r = [] then j.missing else r
  match j.shown with
  | some list =>
    Raw.join gap (list.map fun (text, n) =>
      orMissing (match text with
        | 0 => key
        | 1 => ((a.getD [])[n]?).getD []
        | _ => ((b.getD [])[n]?).getD []))
  | none =>
    let others (n : Nat) (fields : Option (List Raw)) : List Raw :=
      ((fields.getD []).zipIdx.filter (·.2 ≠ n)).map (·.1)
    Raw.join gap ((orMissing key) :: (others j.first a ++ others j.second b).map orMissing)

/-- The pairs of lines with the same key, and the lines without one; each with a mark. -/
def pairs (j : Joint) : (fuel : Nat) → List (List Raw) → List (List Raw) → List (Nat × Raw)
  | 0, _, _ => []
  | _, as, [] => as.map fun a => (1, j.row (some a) none)
  | _, [], bs => bs.map fun b => (2, j.row none (some b))
  | fuel + 1, a :: as, b :: bs =>
    match j.compare (keyOf j.first a) (keyOf j.second b) with
    | .lt => (1, j.row (some a) none) :: pairs j fuel as (b :: bs)
    | .gt => (2, j.row none (some b)) :: pairs j fuel (a :: as) bs
    | .eq =>
      let isSame (n : Nat) (key : Raw) (fields : List Raw) : Bool := j.compare (keyOf n fields) key == .eq
      -- Every line of one side with the key goes with every such line of the other.
      let left := (a :: as).takeWhile (isSame j.first (keyOf j.first a))
      let right := (b :: bs).takeWhile (isSame j.second (keyOf j.first a))
      (left.flatMap fun x => right.map fun y => (3, j.row (some x) (some y))) ++
        pairs j fuel ((a :: as).drop left.length) ((b :: bs).drop right.length)

end Joint

def shownFields (r : Raw) : Except Raw (List (Nat × Nat)) :=
  let words := (Text.cutAt ',' (r.map fun c => if Raw.isBlank c then ',' else c)).filter (· ≠ [])
  words.mapM fun w =>
    match w with
    | ['0'] => .ok (0, 0)
    | text :: '.' :: n =>
      match Raw.natural? n with
      | some (k + 1) =>
        if text = '1' || text = '2' then .ok (Raw.digitValue text, k)
        else .error (Raw.ascii "invalid file number in field spec: " ++ Quoting.plain w)
      | _ => .error (Raw.ascii "invalid field number: " ++ Quoting.plain n)
    | w => .error (Raw.ascii "invalid field specifier: " ++ Quoting.plain w)

def join : Tool Nat := do
  let fieldNumber (value : Raw) : Tool Nat := do
    match Raw.natural? value with
    | some (n + 1) => return n
    | _ => Tool.fail (Raw.ascii "invalid field number: " ++ Quoting.plain value)
  let o : Options := {
    letters := "-a:e:i1:2:j:o:t:v:z"
    long := "ignore-case=i check-order nocheck-order zero-terminated=z header" }
  let c ← Tool.callChecking o (← read).args fun key value => do
    match key with
    | "1" | "2" | "j" => discard <| fieldNumber value
    | "t" => if 1 < value.length && value ≠ Raw.ascii "\\0" then
        Tool.fail (Raw.ascii "multi-character tab " ++ Quoting.plain value)
    | "a" | "v" => if value ≠ ['1'] && value ≠ ['2'] then
        Tool.fail (Raw.ascii "invalid file number: " ++ Quoting.plain value)
    | _ => pure ()
  let (left, right) ← twoOperands c
  let common ← match c.value? "j" with
    | some v => fieldNumber v
    | none => pure 0
  let fieldOf (key : String) : Tool Nat := do
    match c.value? key with
    | some v => fieldNumber v
    | none => return common
  let isAuto := c.value? "o" = some (Raw.ascii "auto")
  let shown ← match if isAuto then [] else c.values "o" with
    | [] => pure none
    | vs =>
      match shownFields (Raw.join [','] vs) with
      | .ok list => pure (some list)
      | .error reason => Tool.fail reason
  let j : Joint := {
    separator := (c.value? "t").map fun v =>
      if v = [] then '\n' else if v = Raw.ascii "\\0" then '\x00' else v.head?.getD '\t'
    first := ← fieldOf "1"
    second := ← fieldOf "2"
    shown
    missing := (c.value? "e").getD []
    foldsCase := c.has "i" }
  let newline := if c.has "z" then '\x00' else '\n'
  let as := (← linesBehind newline left).map (fieldsOf j.separator)
  let bs := (← linesBehind newline right).map (fieldsOf j.separator)
  let (heads, as, bs) := if c.has "header" then
      ((match as.head?, bs.head? with
        | none, none => []
        | a, b => [j.row a b]), as.drop 1, bs.drop 1)
    else ([], as, bs)
  let rows := j.pairs (as.length + bs.length + 1) as bs
  let extra := (c.values "a" ++ c.values "v").filterMap Raw.natural?
  let chosen := rows.filter fun (n, _) => if n = 3 then !c.has "v" else extra.contains n
  Tool.say ((heads ++ chosen.map (·.2)).flatMap (· ++ [newline]))
  let keysSorted (n : Nat) (rows : List (List Raw)) : Option Nat :=
    ((rows.zip (rows.drop 1)).zipIdx 2).findSome? fun ((a, b), i) =>
      if j.compare (Joint.keyOf n a) (Joint.keyOf n b) == .gt then some i else none
  let hasUnpaired := rows.any fun (n, _) => n ≠ 3
  if !c.has "nocheck-order" && (hasUnpaired || c.has "check-order") then
    let shift := if c.has "header" then 1 else 0
    let mut isBad := false
    for (name, place, fields, separator) in [(left, keysSorted j.first as, as, j.separator),
        (right, keysSorted j.second bs, bs, j.separator)] do
      if let some i := place then
        isBad := true
        Tool.warn (name ++ ':' :: Raw.ofNat (i + shift) ++ Raw.ascii ": is not sorted: " ++
          Raw.join [separator.getD ' '] ((fields[i - 1]?).getD []))
    if isBad then
      if !c.has "check-order" then Tool.warn (Raw.ascii "input is not in sorted order")
      return 1
  return 0

/-! ## Orders for pairs -/

/-- Takes the items that nothing stands before, one after the other; the rest are in loops. -/
def arrange : (fuel : Nat) → (ready : List Raw) → (pairs : List (Raw × Raw)) → (waiting : List (Raw × Nat)) →
    List Raw × List (Raw × Nat)
  | 0, ready, _, waiting => (ready, waiting)
  | _, [], _, waiting => ([], waiting)
  | fuel + 1, a :: ready, pairs, waiting =>
    let after := (pairs.filter (·.1 = a)).map (·.2)
    -- Latest pairs come first.
    let (released, waiting) := after.reverse.foldl (fun (released, waiting) b =>
      let waiting := waiting.map fun (x, n) => if x = b then (x, n - 1) else (x, n)
      if waiting.lookup b = some 0 then (released ++ [b], waiting.filter (·.1 ≠ b)) else (released, waiting))
      (([] : List Raw), waiting)
    let (rest, waiting) := arrange fuel (ready ++ released) pairs waiting
    (a :: rest, waiting)

def tsort : Tool Nat := do
  let c ← Tool.call { letters := "" }
  if let some extra := (c.operands.drop 1).head? then
    Tool.misuse (Raw.ascii "extra operand " ++ Quoting.plain extra)
  let name := c.operands.head?.getD ['-']
  match ← Tool.openInput name with
  | .error e => Tool.fail (name ++ Raw.ascii ": " ++ Raw.ascii e.text)
  | .ok d =>
    match ← Tool.takeAll d with
    | .error e => Tool.fail (name ++ Raw.ascii ": read error: " ++ Raw.ascii e.text)
    | .ok r =>
      let words := Raw.words r
      if words.length % 2 = 1 then
        Tool.fail (name ++ Raw.ascii ": input contains an odd number of tokens")
      let rec pairUp : List Raw → List (Raw × Raw)
        | a :: b :: ws => (a, b) :: pairUp ws
        | _ => []
      let pairs := (pairUp words).filter fun (a, b) => a ≠ b
      let items := words.eraseDups.mergeSort fun a b => !Raw.before b a
      let counted := items.map fun a => (a, (pairs.filter (·.2 = a)).length)
      let ready := (counted.filter (·.2 = 0)).map (·.1)
      let (order, waiting) := arrange (items.length + 1) ready pairs (counted.filter (·.2 ≠ 0))
      Tool.say (Raw.unlines order)
      if waiting.isEmpty then return 0
      else
        Tool.warn (name ++ Raw.ascii ": input contains a loop:")
        for (a, _) in waiting do Tool.warn a
        Tool.say (Raw.unlines (waiting.map (·.1)))
        return 1

end Buildwatch.Machine.Sorting
