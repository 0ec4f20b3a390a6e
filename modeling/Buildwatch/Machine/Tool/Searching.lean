import Buildwatch.Machine.Changes
import Buildwatch.Machine.Tool.Names
import Buildwatch.Machine.Tool.Regex

/-!
# Searching text

The lines in which one of several expressions is found, and what is shown of them.
-/

namespace Buildwatch.Machine.Searching

/-! ## Expressions -/

inductive Kind
  | basic
  | extended
  | fixed
  deriving DecidableEq

/-- The expression for whole words, or for whole lines. -/
def framed (c : Call) (e : Regex) : Regex :=
  if c.has "x" then .sequence .lineStart (.sequence e .lineEnd)
  else if c.has "w" then .sequence .noWordBefore (.sequence e .noWordAfter)
  else e

/-- The expression for any of several patterns. -/
def expression (k : Kind) (c : Call) (patterns : List Raw) : Except String (Option Regex) := do
  let es ← patterns.mapM fun p =>
    match k with
    | .fixed => .ok (Regex.ofText p)
    | k => Regex.parse { extended := k = .extended } p
  let es := es.map (framed c)
  match es.reverse with
  | [] => .ok none
  | last :: others => .ok (some (others.foldl (fun e a => .either a e) last))

/-- A sign of repetition at the start of a pattern, which deserves a warning. -/
def strayRepeat? (p : Raw) : Option Char :=
  let rec go : (fuel : Nat) → (isStart : Bool) → Raw → Option Char
    | 0, _, _ | _, _, [] => none
    | fuel + 1, _, '\\' :: _ :: r => go fuel false r
    | fuel + 1, isStart, c :: r =>
      -- Only here has the sign nothing to repeat.
      if isStart && (c = '*' || c = '+' || c = '?') then some c
      else if c = '|' || c = '(' then go fuel true r
      else if c = '^' then go fuel isStart r
      else if c = '[' then go fuel false (((r.drop 1).dropWhile (· ≠ ']')).drop 1)
      else go fuel false r
  go (p.length + 1) true p

/-! ## Showing -/

structure Style where
  call : Call
  search : Option Regex.Search
  /-- Whether names are shown in front of lines. -/
  showsName : Bool
  limit : Option Nat
  before : Nat
  after : Nat
  /-- Whether lines around those that are found are shown. -/
  hasContext : Bool
  /-- What stands between lines that do not follow each other. -/
  gap : Option Raw
  newline : Char

namespace Style

def has (s : Style) (key : String) : Bool := s.call.has key

def isQuiet (s : Style) : Bool := s.has "q"

/-- Whether only names or numbers are shown. -/
def isSummary (s : Style) : Bool := s.has "c" || s.has "l" || s.has "L" || s.isQuiet

def finds (s : Style) (line : Raw) : Bool :=
  (match s.search with
    | some e => e.isIn line
    | none => false) != s.has "v"

/-- What stands in front of a line, or of a part of one. -/
def front (s : Style) (name : Raw) (mark : Char) (number place : Nat) : Raw :=
  let numberText := Raw.ofNat number
  (if s.showsName then name ++ [if s.has "Z" then '\x00' else mark] else []) ++
    (if s.has "n" then (if s.has "T" && numberText.length < 2 then ' ' :: numberText else numberText) ++ [mark]
      else []) ++
    (if s.has "b" then Raw.ofNat place ++ [mark] else []) ++
    (if s.has "T" && (s.showsName || s.has "n" || s.has "b") then ['\t'] else [])

def marked (r : Raw) : Raw := Raw.ascii "\x1b[01;31m\x1b[K" ++ r ++ Raw.ascii "\x1b[m\x1b[K"

def coloured (s : Style) (line : Raw) : Raw :=
  match s.search with
  | none => line
  | some e =>
    let found := (e.all line).filter fun (a, b) => a.index < b.index
    let (pieces, place) := found.foldl (fun (pieces, place) (a, b) =>
      (marked (Regex.textBetween a b) :: (line.drop place).take (a.index - place) :: pieces, b.index))
      (([] : List Raw), 0)
    pieces.reverse.flatten ++ line.drop place

def hasColours (s : Style) : Bool :=
  (s.call.value? "color").any fun r => r = Raw.ascii "always" || r = Raw.ascii "yes" || r = Raw.ascii "force"

def row (s : Style) (name : Raw) (isFound : Bool) (number place : Nat) (line : Raw) : Raw :=
  if s.has "o" && isFound then
    match s.search with
    | some e =>
      if s.has "v" then []
      else ((e.all line).filter fun (a, b) => a.index < b.index).flatMap fun (a, b) =>
        let text := Regex.textBetween a b
        let text := if s.hasColours then marked text else text
        s.front name ':' number (place + a.index) ++ text ++ [s.newline]
    | none => []
  else if s.has "o" then []
  else
    let text := if s.hasColours && (isFound != s.has "v") then s.coloured line else line
    s.front name (if isFound then ':' else '-') number place ++ text ++ [s.newline]

end Style

/-! ## Searching -/

structure Progress where
  number : Nat := 0
  place : Nat := 0
  /-- How many lines were found. -/
  found : Nat := 0
  /-- The number of the last line that was shown. -/
  shown : Option Nat := none
  /-- The lines before, latest first, with their numbers and places. -/
  before : List (Nat × Nat × Raw) := []
  /-- How many lines are still shown behind the last one that was found. -/
  owed : Nat := 0
  /-- Whether anything was shown before, of any input. -/
  hasShown : Bool := false
  isBinary : Bool := false
  /-- Whether nothing more is looked at. -/
  isOver : Bool := false

def step (s : Style) (name : Raw) (p : Progress) (line : Raw) : Tool Progress := do
  let number := p.number + 1
  let next : Progress := { p with number, place := p.place + line.length + 1 }
  let isFull := s.limit.any (· ≤ p.found)
  if isFull then
    -- Lines behind the last one that was found are shown even when no more are looked for.
    if p.owed = 0 then return { p with isOver := true }
    Tool.say (s.row name false number p.place line)
    return { next with owed := p.owed - 1, shown := some number }
  else if s.finds line then
    let next := { next with found := p.found + 1, owed := s.after, before := [] }
    if s.isSummary then
      let isEnough := (s.has "l" || s.has "L" || s.isQuiet) || s.limit.any (· ≤ next.found)
      return { next with owed := 0, isOver := isEnough }
    else if p.isBinary then return { next with isOver := true }
    else
      let before := p.before.reverse
      let first := (before.head?.map (·.1)).getD number
      -- A gap is marked where lines before this one were left out.
      if s.hasContext && p.hasShown && p.shown.all (fun n => n + 1 < first) then
        if let some gap := s.gap then Tool.say (gap ++ [s.newline])
      for (n, place, l) in before do Tool.say (s.row name false n place l)
      Tool.say (s.row name true number p.place line)
      return { next with
        shown := some number, hasShown := true
        isOver := s.limit.any (· ≤ next.found) && s.after = 0 }
  else if 0 < p.owed && !s.isSummary && !p.isBinary then
    Tool.say (s.row name false number p.place line)
    return { next with owed := p.owed - 1, shown := some number }
  else return { next with before := ((number, p.place, line) :: p.before).take s.before }

/-- Searches the complete lines of a text; the answer is what is left of it. -/
def searchLines (s : Style) (name : Raw) : (fuel : Nat) → Progress → Raw → Tool (Progress × Raw)
  | 0, p, r => return (p, r)
  | fuel + 1, p, r => do
    if p.isOver then return (p, r)
    let line := r.takeWhile (· ≠ s.newline)
    if line.length = r.length then return (p, r)
    searchLines s name fuel (← step s name p line) (r.drop (line.length + 1))

/-- Searches an input; the answer is how far it was searched, and what went wrong. -/
def searchInput (s : Style) (name : Raw) (d : Nat) (hasShown : Bool) : Tool (Progress × Option FileError) :=
  go Tool.manyTurns { hasShown } []
where
  go : Nat → Progress → Raw → Tool (Progress × Option FileError)
    | 0, p, _ => return (p, none)
    | turns + 1, p, rest => do
      match ← Tool.take d 32768 with
      | .error e => return (p, some e)
      | .ok r =>
        -- What has zero bytes is no text; they end lines, but such lines are not shown.
        let isText := s.has "a" || s.newline ≠ '\n'
        let p := { p with isBinary := p.isBinary || (!isText && r.contains '\x00') }
        if p.isBinary && s.has "I" then return ({ p with found := 0, isOver := true }, none)
        let r' := if p.isBinary then r.map fun c => if c = '\x00' then '\n' else c else r
        let all := rest ++ r' ++ if r = [] && rest ≠ [] then [s.newline] else []
        let (p, left) ← searchLines s name (all.length + 1) p all
        if p.isOver || r = [] then
          if p.isOver && s.limit.isSome && !s.isQuiet then
            -- Whoever reads next goes on behind the last line that was looked at.
            Tool.perform fun next => .unread d left.length (next ())
          return (p, none)
        go turns p left

/-- What is said when an input has been searched. -/
def conclude (s : Style) (name : Raw) (p : Progress) : Tool Unit := do
  let ending : Char := if s.has "Z" then '\x00' else '\n'
  if s.isQuiet then return
  if s.has "c" && !s.has "l" && !s.has "L" then
    Tool.say ((if s.showsName then name ++ [if s.has "Z" then '\x00' else ':'] else []) ++ Raw.ofNat p.found ++ ['\n'])
  if s.has "l" && 0 < p.found then Tool.say (name ++ [ending])
  if s.has "L" && p.found = 0 then Tool.say (name ++ [ending])
  if p.isBinary && 0 < p.found && !s.isSummary then
    Tool.warn (name ++ Raw.ascii ": binary file matches")

/-! ## The tool -/

/-- The arguments with numbers of lines around spelled out. -/
def spellOut (args : List Raw) : List Raw :=
  args.flatMap fun a =>
    match a with
    | '-' :: d :: r =>
      if Raw.isDigit d then
        let digits := (d :: r).takeWhile Raw.isDigit
        let rest := (d :: r).drop digits.length
        [Raw.ascii "-C" ++ digits] ++ if rest = [] then [] else ['-' :: rest]
      else [a]
    | a => [a]

def options : Options where
  letters := "0123456789A:B:C:D:EFGHILPTUVX:abcd:e:f:hiLlm:noqRrsuvwxyZz"
  long := "basic-regexp=G extended-regexp=E fixed-regexp=F fixed-strings=F perl-regexp=P after-context:=A " ++
    "before-context:=B context:=C group-separator:=group-separator no-group-separator=no-group-separator " ++
    "binary-files:=binary-files binary=U byte-offset=b count=c color::=color colour::=color devices:=D " ++
    "directories:=d exclude:=exclude exclude-from:=exclude-from exclude-dir:=exclude-dir file:=f " ++
    "files-with-matches=l files-without-match=L include:=include ignore-case=i no-ignore-case=no-ignore-case " ++
    "initial-tab=T label:=label line-buffered=line-buffered line-number=n line-regexp=x max-count:=m " ++
    "no-filename=h no-ignore-case=no-ignore-case no-messages=s null=Z null-data=z only-matching=o quiet=q " ++
    "recursive=r dereference-recursive=R regexp:=e invert-match=v silent=q text=a unix-byte-offsets=u " ++
    "with-filename=H word-regexp=w"

/-- The files that are searched for an operand: names and whether they were named themselves. -/
def filesOf (c : Call) (v : View) (isRecursive : Bool) (operand : Raw) : List (Raw × Bool) :=
  let base (path : Raw) : Raw := Names.last path
  let takes (globs : List Raw) (path : Raw) : Bool :=
    globs.any fun g => Pattern.accepts (Pattern.ofRaw g) (base path) || Pattern.accepts (Pattern.ofRaw g) path
  let isLeftOut (path : Raw) : Bool :=
    takes (c.values "exclude") path || (c.has "include" && !takes (c.values "include") path)
  if isRecursive && v.isDirectory operand && !Tool.isStandard operand then
    let rec below : (fuel : Nat) → Raw → List (Raw × Bool)
      | 0, _ => []
      | fuel + 1, directory =>
        match v.find true directory with
        | .error _ => []
        | .ok (place, _) => (v.files.names place).flatMap fun name =>
          let path := Names.inside directory (Raw.ofString name)
          match v.node? (c.has "R") path with
          | none => []
          | some node =>
            if node.isDirectory then
              if takes (c.values "exclude-dir") path then [] else below fuel path
            else if node.content matches .file _ || node.content matches .program _ then
              if isLeftOut path then [] else [(path, false)]
            else []
    -- A directory that was named is left out too, whatever slashes it has.
    if takes ((c.values "exclude-dir").map Names.withoutSlashes) (Names.withoutSlashes operand) then []
    else below 1000 operand
  else if !Tool.isStandard operand && c.has "exclude" && takes (c.values "exclude") operand then []
  else [(operand, true)]

def grep (kind : Option Kind) : Tool Nat := do
  let args := spellOut (← read).args
  let c := options.call args
  if c.has "help" || c.has "version" || c.has "V" then Tool.exit 0
  let usage : Tool Unit := do
    Tool.report (Raw.ascii "Usage: " ++ (← read).label ++ Raw.ascii " [OPTION]... PATTERNS [FILE]...\n")
    Tool.tryHelp
    Tool.exit 2
  if let some reason := c.mistake then
    Tool.warn reason
    usage
  let kinds := ["E", "F", "G", "P"].filter c.has
  if 1 < kinds.length then Tool.fail (Raw.ascii "conflicting matchers specified")
  let k : Kind := match kinds with
    | ["E"] | ["P"] => .extended
    | ["F"] => .fixed
    | ["G"] => .basic
    | _ => kind.getD .basic
  for key in ["A", "B", "C"] do
    if let some r := c.value? key then
      if (Raw.natural? r).isNone then Tool.fail (r ++ Raw.ascii ": invalid context length argument")
  let limit ← match c.value? "m" with
    | some r =>
      match Raw.integer? r with
      | some i => pure (if i < 0 then none else some i.toNat)
      | none => Tool.fail (Raw.ascii "invalid max count")
    | none => pure none
  if c.has "u" then Tool.warn (Raw.ascii "warning: --unix-byte-offsets (-u) is obsolete")
  let mut patterns : List Raw := []
  for (key, value) in c.options do
    let value := value.getD []
    if key = "e" then patterns := patterns ++ Text.cutLines value
    else if key = "f" then
      match ← Tool.contentOf value with
      | .ok r => patterns := patterns ++ Raw.lines r
      | .error e => Tool.fail (value ++ Raw.ascii ": " ++ Raw.ascii e.text)
  let isGiven := c.has "e" || c.has "f"
  if !isGiven then
    match c.operands with
    | [] => usage
    | p :: _ => patterns := Text.cutLines p
  let names := if isGiven then c.operands else c.operands.drop 1
  if k = .extended then
    for p in patterns do
      if let some sign := strayRepeat? p then
        Tool.warn (Raw.ascii "warning: " ++ [sign] ++ Raw.ascii " at start of expression")
  let isBracketed (p : Raw) : Bool :=
    match p with
    | '[' :: m :: r => (m = ':' || m = '.' || m = '=') && (r.reverse.take 2 = [']', m])
    | _ => false
  if k ≠ .fixed && patterns.any isBracketed then
    Tool.fail (Raw.ascii "character class syntax is [[:space:]], not [:space:]")
  let ignoresCase := c.last? ["i", "y", "no-ignore-case"] ∈ [some "i", some "y"]
  match expression k c patterns with
  | .error reason => Tool.fail (Raw.ascii reason)
  | .ok e =>
    let isRecursive := c.has "r" || c.has "R" || (c.value? "d").any (· = Raw.ascii "recurse")
    let operands := if names.isEmpty then if isRecursive then [['.']] else [['-']] else names
    let v ← Tool.view
    let all := operands.map fun o => (o, filesOf c v isRecursive o)
    -- Names are shown where lines may come from several files.
    let many := 1 < operands.length || (isRecursive && operands.any v.isDirectory)
    let showsName := match c.last? ["h", "H"] with
      | some "H" => true
      | some _ => false
      | none => many
    let around (key : String) : Nat :=
      ((c.value? key).or (c.value? "C")).bind Raw.natural? |>.getD 0
    let s : Style := {
      call := c
      search := e.map fun e => e.ready { ignoresCase }
      showsName, limit
      before := around "B", after := around "A"
      hasContext := 0 < around "B" || 0 < around "A" || c.has "A" || c.has "B" || c.has "C"
      gap := if c.last? ["no-group-separator", "group-separator"] = some "no-group-separator" then none
        else some ((c.value? "group-separator").getD ['-', '-'])
      newline := if c.has "z" then '\x00' else '\n' }
    let s := if c.has "binary-files" then
        let wish := (c.value? "binary-files").map String.ofList
        { s with call := { c with options := c.options ++
          (if wish = some "text" then [("a", none)] else if wish = some "without-match" then [("I", none)] else []) } }
      else s
    let mut anyFound := false
    let mut failed := false
    let mut hasShown := false
    for (_, files) in all do
      for (path, isNamed) in files do
        let shownName := if Tool.isStandard path then (c.value? "label").getD (Raw.ascii "(standard input)")
          else if names.isEmpty && isRecursive then path.drop 2
          else path
        let skips := (c.value? "d").any (· = Raw.ascii "skip") && v.isDirectory path
        if !skips then
          match ← Tool.openInput path with
          | .error e =>
            if !c.has "s" then Tool.warn (path ++ Raw.ascii ": " ++ Raw.ascii e.text)
            failed := true
          | .ok d =>
            let (p, failure) ← searchInput s shownName d hasShown
            Tool.closeInput d
            match failure with
            | some e =>
              if !(e = .isDirectory && (c.has "s" || !isNamed)) then
                Tool.warn (path ++ Raw.ascii ": " ++ Raw.ascii e.text)
              failed := true
            | none =>
              hasShown := p.hasShown
              if 0 < p.found then
                anyFound := true
                if s.isQuiet then Tool.exit 0
              conclude s shownName p
    return if failed then 2 else if anyFound then 0 else 1

end Buildwatch.Machine.Searching
