import Buildwatch.Machine.Files

/-!
# Patterns of the shell

Patterns with stars, question marks and sets of characters. What is quoted in a
pattern stands for itself.
-/

namespace Buildwatch.Machine.Pattern

inductive Element
  | char (c : Char)
  | any
  | many
  /-- The characters between pairs of bounds, or all others. -/
  | set (negated : Bool) (ranges : List (Char × Char))
  deriving DecidableEq

/-- The ranges of a named class of ASCII. -/
def namedClass (name : String) : List (Char × Char) :=
  match name with
  | "alpha" => [('a', 'z'), ('A', 'Z')]
  | "digit" => [('0', '9')]
  | "alnum" => [('a', 'z'), ('A', 'Z'), ('0', '9')]
  | "upper" => [('A', 'Z')]
  | "lower" => [('a', 'z')]
  | "space" => [(' ', ' '), ('\t', '\r')]
  | "blank" => [(' ', ' '), ('\t', '\t')]
  | "punct" => [('!', '/'), (':', '@'), ('[', '\x60'), ('\x7b', '~')]
  | "xdigit" => [('0', '9'), ('a', 'f'), ('A', 'F')]
  | "print" => [(' ', '~')]
  | "graph" => [('!', '~')]
  | "cntrl" => [('\x00', '\x1f'), ('\x7f', '\x7f')]
  | _ => []

def ranges : (fuel : Nat) → (first : Bool) → Raw → Option (List (Char × Char) × Nat)
  | 0, _, _ => none
  | _, _, [] => none
  | fuel + 1, first, '[' :: ':' :: r =>
    let name := r.takeWhile Raw.isLetter
    match r.drop name.length with
    | ':' :: ']' :: rest => do
      let (rs, n) ← ranges fuel false rest
      some (namedClass (String.ofList name) ++ rs, n + name.length + 4)
    | _ => do
      let (rs, n) ← ranges fuel first (':' :: r)
      some (('[', '[') :: rs, n + 1)
  | fuel + 1, first, c :: r =>
    if c = ']' && !first then some ([], 1)
    else
      match r with
      | '-' :: d :: rest =>
        if d = ']' then do
          let (rs, n) ← ranges fuel false r
          some ((c, c) :: rs, n + 1)
        else do
          let (rs, n) ← ranges fuel false rest
          some ((c, d) :: rs, n + 3)
      | _ => do
        let (rs, n) ← ranges fuel false r
        some ((c, c) :: rs, n + 1)

/-- Reads a set after its opening bracket; the answer tells how long it is. -/
def set? : Raw → Option (Element × Nat)
  | '!' :: r | '^' :: r => (ranges (r.length + 1) true r).map fun (rs, n) => (.set true rs, n + 1)
  | r => (ranges (r.length + 1) true r).map fun (rs, n) => (.set false rs, n)

/-- The pattern in a text whose characters are marked as quoted or not. -/
def ofMarked : (fuel : Nat) → List (Char × Bool) → List Element
  | 0, _ => []
  | _, [] => []
  | fuel + 1, (c, quoted) :: r =>
    if quoted then .char c :: ofMarked fuel r
    else if c = '*' then .many :: ofMarked fuel r
    else if c = '?' then .any :: ofMarked fuel r
    else if c = '[' then
      match set? (r.map (·.1)) with
      | some (e, n) => e :: ofMarked fuel (r.drop n)
      | none => .char c :: ofMarked fuel r
    else .char c :: ofMarked fuel r

/-- Whether an element stands for a character. -/
def Element.accepts (e : Element) (c : Char) : Bool :=
  match e with
  | char d => c = d
  | any | many => true
  | set negated rs => (rs.any fun (a, b) => a ≤ c && c ≤ b) != negated

/-- What may be left of a pattern after a character. -/
def advance (c : Char) (pattern : List Element) : List (List Element) :=
  match pattern with
  | [] => []
  | .many :: p => (.many :: p) :: advance c p
  | e :: p => if e.accepts c then [p] else []

def mayEnd (pattern : List Element) : Bool := pattern.all (· = .many)

def matchesAny : List (List Element) → Raw → Bool
  | ps, [] => ps.any mayEnd
  | ps, c :: r => matchesAny ((ps.flatMap (advance c)).eraseDups) r

def accepts (pattern : List Element) (r : Raw) : Bool := matchesAny [pattern] r

def parse (marked : List (Char × Bool)) : List Element := ofMarked (marked.length + 1) marked

/-- The characters of a text, marked as quoted behind a backslash. -/
def marked : Raw → List (Char × Bool)
  | '\\' :: c :: r => (c, true) :: marked r
  | c :: r => (c, false) :: marked r
  | [] => []

def ofRaw (r : Raw) : List Element := parse (marked r)

/-! ## Files -/

def isPattern (marked : List (Char × Bool)) : Bool :=
  marked.any fun (c, quoted) => !quoted && "*?[".toList.contains c

/-- The pieces of a marked text between its slashes. -/
def cutMarked : List (Char × Bool) → List (List (Char × Bool))
  | [] => [[]]
  | (c, q) :: r =>
    if c = '/' then [] :: cutMarked r
    else
      match cutMarked r with
      | [] => [[(c, q)]]
      | p :: ps => ((c, q) :: p) :: ps

/-- The paths that match, going on from paths that do so far. -/
def expandFrom (files : Files) (cwd : Place) : List Raw → List (List (Char × Bool)) → List Raw
  | found, [] => found
  | found, piece :: rest =>
    let isLast := rest.isEmpty
    let found := found.flatMap fun front =>
      let directory := if front.isEmpty then "." else Raw.toText front
      if isPattern piece then
        let pattern := parse piece
        let showHidden := piece.head?.any (·.1 = '.')
        match files.find true cwd directory with
        | .ok (place, node) =>
          let dots : List Raw := if showHidden then [['.'], ['.', '.']] else []
          let all := dots ++ (files.names place).map Raw.ofString
          (if node.isDirectory then all else []).filterMap fun name =>
            if (showHidden || name.head? ≠ some '.') && accepts pattern name &&
                (isLast || files.isDirectory place (Raw.toText name)) then
              some (front ++ name)
            else none
        | .error _ => []
      else
        let path := front ++ piece.map (·.1)
        if piece.isEmpty || !isLast || (files.find false cwd (Raw.toText path)).toOption.isSome then [path]
        else []
    expandFrom files cwd (if isLast then found else found.map (· ++ ['/'])) rest

/-- The paths that a marked text stands for; without any it stands for itself. -/
def expand (files : Files) (cwd : Place) (marked : List (Char × Bool)) : List Raw :=
  if isPattern marked then
    match expandFrom files cwd [[]] (cutMarked marked) with
    | [] => [marked.map (·.1)]
    | paths => paths
  else [marked.map (·.1)]

end Buildwatch.Machine.Pattern
