import Buildwatch.Machine.Shell.Pattern

/-!
# Regular expressions

The regular expressions of the text tools, in their basic and extended notations. Of the
matches at a place the longest one counts; it is found by following all ways through the
expression at once, and the groups are worked out for that match alone.
-/

namespace Buildwatch.Machine

inductive Regex
  | empty
  | char (c : Char)
  | any
  | set (negated : Bool) (ranges : List (Char × Char))
  | lineStart
  | lineEnd
  | textStart
  | textEnd
  | wordEdge
  | noWordEdge
  | wordStart
  | wordEnd
  /-- No word goes on here from before. -/
  | noWordBefore
  /-- No word goes on from here. -/
  | noWordAfter
  | sequence (a b : Regex)
  | either (a b : Regex)
  /-- At least `low` times, and at most `high` times if there is a bound. -/
  | repeated (a : Regex) (low : Nat) (high : Option Nat)
  | group (number : Nat) (a : Regex)
  | back (number : Nat)

namespace Regex

/-! ## Notations -/

/-- What happens to a sign of repetition that nothing stands before. -/
inductive Stray
  /-- It stands for itself. -/
  | plain
  | invalid
  /-- It is passed over. -/
  | ignored
  deriving DecidableEq

/-- How expressions are written. -/
structure Notation where
  extended : Bool
  stray : Stray := if extended then .ignored else .plain
  /-- Whether a brace that begins no bounds stands for itself in the extended notation. -/
  plainBraces : Bool := true
  /-- Whether a closing bracket without an opening one stands for itself in the extended
  notation. -/
  plainBrackets : Bool := true
  /-- Whether bounds may stand without anything before them in the basic notation, and after a
  star. -/
  looseBounds : Bool := true
  /-- Whether a backslash takes the meaning from a character in a set. -/
  escapesInSets : Bool := false
  /-- Whether there are classes and places of words. -/
  words : Bool := true

/-! ## Reading -/

inductive Front
  | nothing
  | anchor
  | something
  deriving DecidableEq

/-- What has been read: how many groups were opened and closed, and what is left. -/
structure Cursor where
  groups : Nat := 0
  closed : List Nat := []
  depth : Nat := 0
  rest : Raw

abbrev Reading := StateT Cursor (Except String)

def peek : Reading Raw := do return (← get).rest

def drop (n : Nat) : Reading Unit := modify fun s => { s with rest := s.rest.drop n }

/-- How many characters an operator takes: in the basic notation it is escaped. -/
def operator (n : Notation) (c : Char) (r : Raw) : Option Nat :=
  if n.extended then if r.head? = some c then some 1 else none
  else if Raw.startsWith ['\\', c] r then some 2 else none

def wordRanges : List (Char × Char) := [('a', 'z'), ('A', 'Z'), ('0', '9'), ('_', '_')]

def maxRepeats : Nat := 32767

/-- What bounds a repetition, and how many characters they take after the opening brace. -/
def bounds (n : Notation) (r : Raw) : Except String (Option (Nat × Option Nat × Nat)) :=
  let low := r.takeWhile Raw.isDigit
  let rest := r.drop low.length
  let (high, hasComma, rest) : Raw × Bool × Raw := match rest with
    | ',' :: rest =>
      let high := rest.takeWhile Raw.isDigit
      (high, true, rest.drop high.length)
    | rest => ([], false, rest)
  let value (digits : Raw) : Nat := (Raw.takeDigits 10 digits.length 0 digits).1
  let isPlain := n.extended && n.plainBraces
  match operator n '\x7d' rest with
  | some k =>
    -- Either bound may be missing, but not both of them with the comma.
    if low = [] && !hasComma then if isPlain then .ok none else .error "Invalid preceding regular expression"
    else
      let bound : Option Nat := if !hasComma then some (value low) else if high = [] then none else some (value high)
      if bound.any (· < value low) then .error "Invalid content of \\\x7b\\\x7d"
      else if maxRepeats < max (value low) (bound.getD 0) then .error "Regular expression too big"
      else .ok (some (value low, bound, r.length - rest.length + k))
  | none =>
    if isPlain then .ok none
    else if rest = [] || (!n.extended && rest = ['\\']) || n.extended then .error "Unmatched \\\x7b"
    else .error "Invalid content of \\\x7b\\\x7d"

/-- A sign of repetition: its bounds and how long it is. -/
def repetition? (n : Notation) (r : Raw) : Except String (Option (Nat × Option Nat × Nat)) := do
  if r.head? = some '*' then .ok (some (0, none, 1))
  else
    match operator n '+' r, operator n '?' r, operator n '\x7b' r with
    | some k, _, _ => .ok (some (1, none, k))
    | _, some k, _ => .ok (some (0, some 1, k))
    | _, _, some k => return (← bounds n (r.drop k)).map fun (low, high, m) => (low, high, k + m)
    | _, _, _ => .ok none

/-- The repetitions after an expression. -/
def repetitions (n : Notation) : (fuel : Nat) → (isRepeated : Bool) → Regex → Reading Regex
  | 0, _, e => return e
  | fuel + 1, isRepeated, e => do
    let r ← peek
    match ← repetition? n r with
    | none => return e
    | some (low, high, k) =>
      let isSign := r.head? = some '*' || (operator n '\x7b' r).isSome
      if isRepeated && isSign && !n.extended && !n.looseBounds then
        throw "Invalid preceding regular expression"
      drop k
      repetitions n fuel true (.repeated e low high)

/-- Reads the ranges of a set up to its closing bracket. -/
def ranges (n : Notation) : (fuel : Nat) → (first : Bool) → Raw → Except String (List (Char × Char) × Raw)
  | 0, _, _ | _, _, [] => .error "Unmatched [, [^, [:, [., or [="
  | fuel + 1, first, c :: r => do
    let unmatched {α : Type} : Except String α := .error "Unmatched [, [^, [:, [., or [="
    -- An element in brackets of its own, up to its closing sign.
    let named (sign : Char) (r : Raw) : Except String (Raw × Raw) :=
      let rec go : (fuel : Nat) → Raw → Raw → Except String (Raw × Raw)
        | 0, _, _ => unmatched
        | fuel + 1, name, r =>
          match r with
          | d :: ']' :: rest => if d = sign then .ok (name.reverse, rest) else go fuel (d :: name) (']' :: rest)
          | d :: rest => go fuel (d :: name) rest
          | [] => unmatched
      go (r.length + 1) [] r
    let endPoint (r : Raw) : Except String (Char × Raw) :=
      match r with
      | '[' :: '.' :: r => do
        match ← named '.' r with
        | ([c], rest) => .ok (c, rest)
        | _ => .error "Invalid collation character"
      | '[' :: ':' :: _ | '[' :: '=' :: _ => .error "Invalid range end"
      | '\\' :: c :: r => if n.escapesInSets then .ok (c, r) else .ok ('\\', c :: r)
      | c :: r => .ok (c, r)
      | [] => unmatched
    -- A closing bracket right at the start is a member of the set.
    if c = ']' && !first then .ok ([], r)
    else
      match c, r with
      | '[', ':' :: r => do
        let (name, rest) ← named ':' r
        match Pattern.namedClass (String.ofList name) with
        | [] => .error "Invalid character class name"
        | found =>
          match rest with
          | '-' :: d :: _ => if d ≠ ']' then .error "Invalid range end" else pure ()
          | _ => pure ()
          let (rs, rest) ← ranges n fuel false rest
          .ok (found ++ rs, rest)
      | '[', '=' :: r => do
        match ← named '=' r with
        | ([c], rest) =>
          let (rs, rest) ← ranges n fuel false rest
          .ok ((c, c) :: rs, rest)
        | _ => .error "Invalid collation character"
      | _, _ => do
        let (low, rest) ← endPoint (c :: r)
        match rest with
        | '-' :: d :: more =>
          -- A sign for a range at the end of the set is a member of it.
          if d = ']' then
            let (rs, rest) ← ranges n fuel false rest
            .ok ((low, low) :: rs, rest)
          else
            let (high, rest) ← endPoint (d :: more)
            if high < low then .error "Invalid range end"
            else
              let (rs, rest) ← ranges n fuel false rest
              .ok ((low, high) :: rs, rest)
        | rest =>
          let (rs, rest) ← ranges n fuel false rest
          .ok ((low, low) :: rs, rest)

def setOf (n : Notation) (r : Raw) : Except String (Regex × Raw) := do
  let (negated, r) := match r with
    | '^' :: r => (true, r)
    | r => (false, r)
  if r = [] then .error "Invalid regular expression"
  else
    let (rs, rest) ← ranges n (r.length + 1) true r
    .ok (.set negated rs, rest)

/-- The meaning of a letter after a backslash, if it has one of its own. -/
def escaped? (n : Notation) (c : Char) : Option Regex :=
  if !n.words then none
  else
    match c with
    | 'w' => some (.set false wordRanges)
    | 'W' => some (.set true wordRanges)
    | 's' => some (.set false (Pattern.namedClass "space"))
    | 'S' => some (.set true (Pattern.namedClass "space"))
    | 'b' => some .wordEdge
    | 'B' => some .noWordEdge
    | '<' => some .wordStart
    | '>' => some .wordEnd
    | '\x60' => some .textStart
    | '\'' => some .textEnd
    | _ => none

/-- Whether an expression stands for a place and takes nothing. -/
def isPlace : Regex → Bool
  | .lineStart | .lineEnd | .textStart | .textEnd | .wordEdge | .noWordEdge | .wordStart | .wordEnd => true
  | _ => false

mutual

def alternatives (n : Notation) : (fuel : Nat) → Reading Regex
  | 0 => throw "Regular expression too big"
  | fuel + 1 => do
    let a ← branch n .nothing fuel
    match operator n '|' (← peek) with
    | some k =>
      drop k
      let b ← alternatives n fuel
      return .either a b
    | none => return a

def branch (n : Notation) (front : Front) : (fuel : Nat) → Reading Regex
  | 0 => throw "Regular expression too big"
  | fuel + 1 => do
    let r ← peek
    if r = [] || (operator n '|' r).isSome then return .empty
    if (operator n ')' r).isSome && (0 < (← get).depth || !n.extended || !n.plainBrackets) then return .empty
    let e ← atom n front fuel
    -- A place cannot be repeated.
    let e ← if e.isPlace then pure e else repetitions n (r.length + 1) false e
    let rest ← branch n (if e.isPlace then .anchor else .something) fuel
    return .sequence e rest

def atom (n : Notation) (front : Front) : (fuel : Nat) → Reading Regex
  | 0 => throw "Regular expression too big"
  | fuel + 1 => do
    let r ← peek
    if let some k := operator n '(' r then
      drop k
      let number := (← get).groups + 1
      modify fun s => { s with groups := number, depth := s.depth + 1 }
      let e ← alternatives n fuel
      match operator n ')' (← peek) with
      | some k =>
        drop k
        modify fun s => { s with depth := s.depth - 1, closed := number :: s.closed }
        return .group number e
      | none => throw "Unmatched ( or \\("
    let isSign := r.head? = some '*' || (operator n '+' r).isSome || (operator n '?' r).isSome
    let isBound := (operator n '\x7b' r).isSome
    if front ≠ .something && (isSign || isBound) then
      if n.extended && n.stray = .invalid then throw "Invalid preceding regular expression"
      if n.extended && n.stray = .ignored then
        drop 1
        let r ← peek
        if r = [] || (operator n '|' r).isSome || (operator n ')' r).isSome then return .empty
        return ← atom n front fuel
      if isBound && !n.extended && !n.looseBounds then throw "Invalid preceding regular expression"
    match r with
    | '.' :: _ =>
      drop 1
      return .any
    | '[' :: r =>
      let (e, rest) ← setOf n r
      modify fun s => { s with rest }
      return e
    | '^' :: _ =>
      drop 1
      -- In the basic notation the two anchors are signs only at the ends of a branch.
      return if n.extended || front = .nothing then .lineStart else .char '^'
    | '$' :: rest =>
      drop 1
      let isLast := rest = [] || (operator n ')' rest).isSome || (operator n '|' rest).isSome
      return if n.extended || isLast then .lineEnd else .char '$'
    | '\\' :: c :: _ =>
      drop 2
      match escaped? n c with
      | some e => return e
      | none =>
        if '1' ≤ c && c ≤ '9' then
          let number := Raw.digitValue c
          -- A group cannot be referred to from within itself.
          if (← get).closed.contains number then return .back number
          else throw "Invalid back reference"
        else return .char c
    | ['\\'] => throw "Trailing backslash"
    | c :: _ =>
      drop 1
      return .char c
    | [] => return .empty

end

/-- The expression in a text, or why it has none. -/
def parse (n : Notation) (r : Raw) : Except String Regex := do
  -- Between two characters the readers call each other a few times at most.
  let (e, s) ← (alternatives n (6 * r.length + 6)).run { rest := r }
  if s.rest = [] then .ok e else .error "Unmatched ) or \\)"

def ofText (r : Raw) : Regex := r.foldr (fun c e => .sequence (.char c) e) .empty

def groupCount : Regex → Nat
  | .sequence a b | .either a b => max a.groupCount b.groupCount
  | .repeated a _ _ => a.groupCount
  | .group n a => max n a.groupCount
  | _ => 0

def refersBack : Regex → Bool
  | .sequence a b | .either a b => a.refersBack || b.refersBack
  | .repeated a .. | .group _ a => a.refersBack
  | .back _ => true
  | _ => false

/-! ## Places -/

/-- How texts are searched. -/
structure Manner where
  ignoresCase : Bool := false
  /-- Whether lines begin and end at newlines, which only a newline itself then stands for. -/
  seesLines : Bool := false

/-- Where a search stands: the character before, what follows, how far it has come, and
what the groups stand for. -/
structure Match where
  previous : Option Char
  rest : Raw
  index : Nat
  groups : List (Nat × Raw)

def isWordChar (c : Char) : Bool := Raw.isLetter c || Raw.isDigit c

/-- Whether two characters are the same, possibly up to letter case. -/
def sameChar (m : Manner) (a b : Char) : Bool :=
  a = b || (m.ignoresCase && a.toLower = b.toLower)

/-- Whether an expression that takes one character takes this one; it is none for others. -/
def takes? (m : Manner) (e : Regex) (c : Char) : Option Bool :=
  match e with
  | .char d => some (sameChar m d c)
  | .any => some !(m.seesLines && c = '\n')
  | .set negated rs =>
    let isIn (c : Char) : Bool := rs.any fun (a, b) => a ≤ c && c ≤ b
    some (!(m.seesLines && negated && c = '\n') &&
      ((isIn c || (m.ignoresCase && (isIn c.toLower || isIn c.toUpper))) != negated))
  | _ => none

/-- Whether an expression that takes nothing holds at a place; it is none for others. -/
def holds? (m : Manner) (e : Regex) (p : Match) : Option Bool :=
  let before := p.previous.any isWordChar
  let after := p.rest.head?.any isWordChar
  match e with
  | .lineStart => some (p.index = 0 || (m.seesLines && p.previous = some '\n'))
  | .lineEnd => some (p.rest = [] || (m.seesLines && p.rest.head? = some '\n'))
  | .textStart => some (p.index = 0)
  | .textEnd => some (p.rest = [])
  | .wordEdge => some (before != after)
  | .noWordEdge => some (before = after)
  | .wordStart => some (!before && after)
  | .wordEnd => some (before && !after)
  | .noWordBefore => some !before
  | .noWordAfter => some !after
  | _ => none

def Match.advance (p : Match) : Match :=
  match p.rest with
  | c :: rest => { p with previous := some c, rest, index := p.index + 1 }
  | [] => p

/-! ## All ways at once -/

/-- A node in the graph of ways through an expression. -/
inductive Way
  | take (e : Regex) (next : Nat)
  | hold (e : Regex) (next : Nat)
  | fork (a b : Nat)
  | done

def addWay (w : Way) (ways : Array Way) : Nat × Array Way := (ways.size, ways.push w)

/-- Adds the ways through an expression that go on at a node; the answer is where they begin. -/
def build : Regex → (next : Nat) → Array Way → Nat × Array Way
  -- Expressions that refer back are followed one way after the other, not here.
  | .empty, next, ways | .back _, next, ways => (next, ways)
  | .sequence a b, next, ways =>
    let (n, ways) := build b next ways
    build a n ways
  | .either a b, next, ways =>
    let (i, ways) := build a next ways
    let (j, ways) := build b next ways
    addWay (.fork i j) ways
  | .group _ a, next, ways => build a next ways
  | .repeated a low high, next, ways =>
    let (start, ways) : Nat × Array Way := match high with
      | none =>
        -- The fork is made first, so that the way back can name it.
        let (loop, ways) := addWay (.fork next next) ways
        let (inner, ways) := build a loop ways
        (loop, ways.setIfInBounds loop (.fork inner next))
      | some high =>
        (List.range (high - low)).foldl (fun (start, ways) _ =>
          let (inner, ways) := build a start ways
          addWay (.fork inner next) ways) (next, ways)
    (List.range low).foldl (fun (start, ways) _ => build a start ways) (start, ways)
  | .char c, next, ways => addWay (.take (.char c) next) ways
  | .any, next, ways => addWay (.take .any next) ways
  | .set negated rs, next, ways => addWay (.take (.set negated rs) next) ways
  | e, next, ways => addWay (.hold e next) ways

/-- An expression that is ready to be searched for. -/
structure Search where
  expression : Regex
  manner : Manner
  ways : Array Way
  start : Nat
  refersBack : Bool

def ready (e : Regex) (manner : Manner) : Search :=
  let (start, ways) := build e 0 #[.done]
  { expression := e, manner, ways, start, refersBack := e.refersBack }

/-- The nodes that are reached from some nodes without taking a character. -/
def reach (s : Search) (p : Match) : (fuel : Nat) → List Nat → Array Bool → List Nat → List Nat × Array Bool
  | 0, _, seen, out => (out, seen)
  | _, [], seen, out => (out, seen)
  | fuel + 1, n :: ns, seen, out =>
    -- Each node is entered once at a place, so loops that take nothing come to an end.
    if seen.getD n true then reach s p fuel ns seen out
    else
      let seen := seen.setIfInBounds n true
      match s.ways.getD n .done with
      | .fork a b => reach s p fuel (a :: b :: ns) seen out
      | .hold e next =>
        reach s p fuel (if (holds? s.manner e p).getD false then next :: ns else ns) seen out
      | _ => reach s p fuel ns seen (n :: out)

/-- The end of the longest match from a place on. -/
def longestEnd (s : Search) (p : Match) : Option Nat :=
  let fuel := 4 * s.ways.size + 4
  let rec go : (turns : Nat) → List Nat → Match → Option Nat → Option Nat
    | 0, _, _, best => best
    | turns + 1, nodes, p, best =>
      let (reached, _) := reach s p fuel nodes (Array.replicate s.ways.size false) []
      let best := if reached.contains 0 then some p.index else best
      match p.rest with
      | [] => best
      | c :: _ =>
        let next := reached.filterMap fun n =>
          match s.ways.getD n .done with
          | .take e next => if (takes? s.manner e c).getD false then some next else none
          | _ => none
        -- Shorter ends have been noted already; the last one that is noted is the longest.
        if next.isEmpty then best else go turns next p.advance best
  go (p.rest.length + 1) [s.start] p none

/-! ## One way after the other -/

def Match.take (p : Match) (m : Manner) : Raw → Option Match
  | [] => some p
  | c :: r =>
    match p.rest with
    | d :: _ => if sameChar m c d then Match.take p.advance m r else none
    | [] => none

def longer : Option Match → Option Match → Option Match
  | some a, some b => if a.index < b.index then some b else some a
  | some a, none => some a
  | none, b => b

/-- Takes a match of the expression and goes on with `next`; of several ways the longest counts,
or the first one if `picksFirst`. -/
def go (m : Manner) (picksFirst : Bool) : (fuel : Nat) → Regex → Match → (Match → Option Match) → Option Match
  | 0, _, _, _ => none
  | fuel + 1, e, p, next =>
    let orElse (a : Option Match) (b : Unit → Option Match) : Option Match :=
      match a with
      | some x => if picksFirst || x.rest = [] then some x else longer (some x) (b ())
      | none => b ()
    match e with
    | .empty => next p
    | .sequence a b => go m picksFirst fuel a p fun p => go m picksFirst fuel b p next
    | .either a b =>
      orElse (go m picksFirst fuel a p next) fun _ => go m picksFirst fuel b p next
    | .group n a =>
      go m picksFirst fuel a p fun p' =>
        next { p' with groups := (n, p.rest.take (p'.index - p.index)) :: p'.groups }
    | .back n =>
      match p.groups.lookup n with
      | some r => (p.take m r).bind next
      | none => none
    | .repeated a low high =>
      let more := if high = some 0 then none else
        go m picksFirst fuel a p fun p' =>
          -- A round that takes nothing is not repeated.
          if p'.index = p.index && low = 0 then none
          else go m picksFirst fuel (.repeated a (low - 1) (high.map (· - 1))) p' next
      orElse more fun _ => if low = 0 then next p else none
    | e =>
      match holds? m e p with
      | some b => if b then next p else none
      | none =>
        match p.rest with
        | c :: _ => if (takes? m e c).getD false then next p.advance else none
        | [] => none

def matchAt (s : Search) (p : Match) : Option Match :=
  let fuel := 20 * p.rest.length + 4 * s.ways.size + 1000
  -- Only by trying all ways is the longest one found here.
  if s.refersBack then go s.manner false fuel s.expression p some
  else
    match longestEnd s p with
    | none => none
    | some stop =>
      let found := go s.manner true fuel s.expression p fun p => if p.index = stop then some p else none
      -- The end is known even where the groups are not.
      some (found.getD { p with
        previous := (p.rest.take (stop - p.index)).getLast?.or p.previous
        rest := p.rest.drop (stop - p.index), index := stop })

/-! ## Searching -/

def search (s : Search) : (fuel : Nat) → Match → Option (Match × Match)
  | 0, _ => none
  | fuel + 1, p =>
    match matchAt s { p with groups := [] } with
    | some q => some (p, q)
    | none => if p.rest = [] then none else search s fuel p.advance

def Match.start (r : Raw) : Match := { previous := none, rest := r, index := 0, groups := [] }

namespace Search

/-- Whether the expression matches somewhere in a text. -/
def isIn (s : Search) (r : Raw) : Bool := (Regex.search s (r.length + 1) (.start r)).isSome

/-- The first match in a text. -/
def first? (s : Search) (r : Raw) : Option (Match × Match) := Regex.search s (r.length + 1) (.start r)

/-- The match at the start of a text. -/
def atStart? (s : Search) (r : Raw) : Option Match := matchAt s (.start r)

/-- All matches from a place on, each as its start and end. An empty match does not touch the
end of the match before it. -/
def allFrom (s : Search) : (fuel : Nat) → (last : Option Nat) → Match → List (Match × Match)
  | 0, _, _ => []
  | fuel + 1, last, p =>
    match Regex.search s (p.rest.length + 1) p with
    | none => []
    | some (a, b) =>
      if b.index = a.index then
        -- Behind an empty match the search goes on one character later.
        let others := if b.rest = [] then [] else allFrom s fuel last b.advance
        if last = some a.index then others else (a, b) :: others
      else (a, b) :: allFrom s fuel (some b.index) b

/-- All matches in a text, from left to right. -/
def all (s : Search) (r : Raw) : List (Match × Match) := s.allFrom (r.length + 2) none (.start r)

end Search

/-- Whether the expression matches somewhere in a text. -/
def isIn (e : Regex) (ignoresCase : Bool) (r : Raw) : Bool := (e.ready { ignoresCase }).isIn r

/-- The text of a match. -/
def textBetween (a b : Match) : Raw := a.rest.take (b.index - a.index)

end Regex

end Buildwatch.Machine
