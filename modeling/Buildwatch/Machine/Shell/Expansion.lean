import Buildwatch.Machine.Shell.Arithmetic
import Buildwatch.Machine.Shell.Pattern
import Buildwatch.Machine.Shell.Script

/-!
# Words of the shell

From the words of a command to its arguments: parameters are replaced by their values,
values are split into fields, and patterns by the files that they match. The output of
inner commands has to be at hand; if it is not, the expansion asks for it.
-/

namespace Buildwatch.Machine

/-! ## What words look at -/

structure Variable where
  value : Option Raw
  isExported : Bool := false
  isReadonly : Bool := false

/-- The variables and parameters of a shell. -/
structure Scope where
  bindings : List (Raw × Variable) := []
  /-- The arguments of the script or function. -/
  arguments : List Raw := []
  /-- The name under which the shell runs. -/
  name : Raw := []
  pid : Nat := 0
  lastBackground : Option Nat := none
  /-- The letters of the options that are set. -/
  options : List Char := []
  /-- The status of the last command. -/
  status : Nat := 0

namespace Scope

/-- The options of the shell, with their letters. -/
def optionNames : List (String × Char) :=
  [("errexit", 'e'), ("noglob", 'f'), ("ignoreeof", 'I'), ("interactive", 'i'), ("monitor", 'm'),
    ("noexec", 'n'), ("stdin", 's'), ("xtrace", 'x'), ("verbose", 'v'), ("vi", 'V'), ("emacs", 'E'),
    ("noclobber", 'C'), ("allexport", 'a'), ("notify", 'b'), ("nounset", 'u'), ("privileged", 'p'),
    ("nolog", ' '), ("debug", ' ')]

def textOf? (s : Scope) (name : Raw) : Option Raw := (s.bindings.lookup name).bind (·.value)

/-- The scope with a variable changed. A new one comes last. -/
def update (s : Scope) (name : Raw) (f : Variable → Variable) : Scope :=
  if s.bindings.any (·.1 = name) then
    { s with bindings := s.bindings.map fun (n, v) => if n = name then (n, f v) else (n, v) }
  else { s with bindings := s.bindings ++ [(name, f { value := none })] }

/-- The chain of a table that a name is kept in. -/
def chainOf (size : Nat) (name : Raw) : Nat :=
  (((name.head?.map Char.toNat).getD 0) * 16 + Raw.total (name.map Char.toNat)) % size

def isReadonly (s : Scope) (name : Raw) : Bool := (s.bindings.lookup name).any (·.isReadonly)

def assign (s : Scope) (name value : Raw) : Scope :=
  let isExported := s.options.contains 'a'
  s.update name fun v => { v with value := some value, isExported := v.isExported || isExported }

/-- The variables that other programs are given, chain after chain. -/
def environment (s : Scope) : List (Raw × Raw) :=
  let given := s.bindings.filterMap fun (name, v) =>
    if v.isExported then v.value.map (name, ·) else none
  -- The order is stable, so within a chain the variables stay as they came.
  given.mergeSort fun a b => chainOf 39 a.1 ≤ chainOf 39 b.1

def optionLetters (s : Scope) : Raw :=
  (optionNames.reverse.map (·.2)).filter fun c => c ≠ ' ' && s.options.contains c

def separators (s : Scope) : Raw := (s.textOf? (Raw.ascii "IFS")).getD [' ', '\t', '\n']

/-- All arguments in one, with the first separator between them. -/
def joinedArguments (s : Scope) : Raw := Raw.join (s.separators.take 1) s.arguments

def parameter? (s : Scope) (name : Raw) : Option Raw :=
  match name with
  | ['#'] => some (Raw.ofNat s.arguments.length)
  | ['?'] => some (Raw.ofNat s.status)
  | ['$'] => some (Raw.ofNat s.pid)
  | ['!'] => s.lastBackground.map Raw.ofNat
  | ['-'] => some s.optionLetters
  | ['@'] | ['*'] => if s.arguments.isEmpty then none else some s.joinedArguments
  | _ =>
    match Raw.natural? name with
    | some 0 => some s.name
    | some (n + 1) => s.arguments[n]?
    | none => s.textOf? name

end Scope

/-! ## Tildes -/

def homeOf? (s : Scope) (name : Raw) : Option Raw :=
  if name = [] then s.textOf? (Raw.ascii "HOME")
  else if name = Raw.ascii "root" then some (Raw.ascii "/root")
  else none

/-- A text whose tildes, at its start and perhaps behind colons, have become directories.
`isEnd` tells whether the word ends with the text. -/
def resolveTildes (s : Scope) (behindColons isEnd : Bool) : (atStart : Bool) → Raw → List Part
  | _, [] => []
  | true, '~' :: r =>
    let name := r.takeWhile fun c => c ≠ '/' && !(behindColons && c = ':')
    -- What follows the name in another part of the word belongs to it, and spoils it.
    if !isEnd && name.length = r.length then [.plain ('~' :: r)]
    else
      match homeOf? s name with
      | some home => .quoted home :: resolveTildes s behindColons isEnd false (r.drop name.length)
      | none => .plain ['~'] :: resolveTildes s behindColons isEnd false r
  | _, c :: r =>
    match resolveTildes s behindColons isEnd (behindColons && c = ':') r with
    | .plain t :: ps => .plain (c :: t) :: ps
    | ps => .plain [c] :: ps
termination_by _ r => r.length

def expandTildes (s : Scope) (behindColons : Bool) : (atStart : Bool) → Word → Word
  | _, [] => []
  | atStart, .plain t :: ps =>
    resolveTildes s behindColons ps.isEmpty atStart t ++
      expandTildes s behindColons (behindColons && t.getLast? = some ':') ps
  | _, p :: ps => if behindColons then p :: expandTildes s behindColons false ps else p :: ps

/-! ## Expanding -/

def isName (r : Raw) : Bool := r.head?.any Raw.isLetter && r.all fun c => Raw.isLetter c || Raw.isDigit c

/-- A piece of an expanded word. -/
inductive Piece
  | fixed (quoted : Bool) (text : Raw)
  /-- A value that is still to be split into fields. -/
  | loose (text : Raw)
  /-- A field ends here. -/
  | cut

/-- Why an expansion stops. -/
inductive Stop
  /-- The output of a command is needed. -/
  | need (c : Command)
  | fail (reason : Raw)

/-- The state of an expansion: the scope, and the outputs of inner commands that are at
hand with their statuses. -/
structure Expanding where
  scope : Scope
  outputs : List (Raw × Nat)

abbrev Expand := StateT Expanding (Except Stop)

def assignNamed (name value : Raw) : Expand Unit := do
  let s ← get
  if !isName name then throw (.fail (name ++ Raw.ascii ": bad variable name"))
  if s.scope.isReadonly name then throw (.fail (name ++ Raw.ascii ": is read only"))
  set { s with scope := s.scope.assign name value }

/-- The text of pieces that are not to be split. -/
def textOf (pieces : List Piece) : Raw :=
  pieces.flatMap fun
    | .fixed _ t | .loose t => t
    | .cut => [' ']

/-- The text of pieces with its quoted characters marked. -/
def markedOf (pieces : List Piece) : List (Char × Bool) :=
  pieces.flatMap fun
    | .fixed q t => t.map (·, q)
    | .loose t => t.map (·, false)
    | .cut => [(' ', false)]

/-- A value in quotes, or one to be split. -/
def pieceOf (inQuotes : Bool) (value : Raw) : List Piece :=
  [if inQuotes then .fixed true value else .loose value]

/-- Drops the shortest or longest front that matches. -/
def dropMatchingFront (longest : Bool) (pattern : List Pattern.Element) (r : Raw) : Raw :=
  let lengths := (List.range (r.length + 1)).filter fun n => Pattern.accepts pattern (r.take n)
  match if longest then lengths.getLast? else lengths.head? with
  | some n => r.drop n
  | none => r

/-- Drops the shortest or longest end that matches. -/
def dropMatchingBack (longest : Bool) (pattern : List Pattern.Element) (r : Raw) : Raw :=
  let lengths := (List.range (r.length + 1)).filter fun n => Pattern.accepts pattern (r.drop n)
  match if longest then lengths.head? else lengths.getLast? with
  | some n => r.take n
  | none => r

mutual

def expandParts : (fuel : Nat) → Word → Expand (List Piece)
  | 0, _ => throw (.fail (Raw.ascii "word too long"))
  | _, [] => return []
  | fuel + 1, p :: ps => do
    let a ← expandPart fuel p
    let b ← expandParts fuel ps
    return a ++ b

def expandPart : (fuel : Nat) → Part → Expand (List Piece)
  | 0, _ => throw (.fail (Raw.ascii "word too long"))
  | fuel + 1, p => do
    match p with
    | .plain t => return [.fixed false t]
    | .quoted t => return [.fixed true t]
    | .output inQuotes c =>
      let s ← get
      match s.outputs with
      -- The expansion is begun again once the output is there; nothing of it is kept.
      | [] => throw (.need c)
      | (text, status) :: outputs =>
        set { s with outputs, scope := { s.scope with status } }
        return pieceOf inQuotes (Raw.dropFinalNewlines (text.filter (· ≠ '\x00')))
    | .arithmetic inQuotes e =>
      let text := textOf (← expandParts fuel e)
      let s ← get
      match Arithmetic.evaluate s.scope.textOf? text with
      | .error reason => throw (.fail reason)
      | .ok (i, assigned) =>
        for (x, i) in assigned.reverse do assignNamed x (Raw.ofInt i)
        return pieceOf inQuotes (Raw.ofInt i)
    | .parameter inQuotes name treatment => expandParameter inQuotes name treatment fuel

def expandParameter (inQuotes : Bool) (name : Raw) (treatment : Treatment Word) :
    (fuel : Nat) → Expand (List Piece)
  | 0 => throw (.fail (Raw.ascii "word too long"))
  | fuel + 1 => do
    let scope := (← get).scope
    let value := scope.parameter? name
    let own : List Piece :=
      if name = ['@'] || (name = ['*'] && !inQuotes) then
        -- Each argument stays a field of its own, in quotes too.
        (scope.arguments.flatMap fun a => .cut :: pieceOf inQuotes a).drop 1
      else pieceOf inQuotes (value.getD [])
    let isMissing (colon : Bool) : Bool := value.isNone || (colon && value = some [])
    let resolved (w : Word) : Word := if inQuotes then w else expandTildes scope false true w
    let unsetFails : Expand Unit := do
      if value.isNone && scope.options.contains 'u' && name ≠ ['@'] && name ≠ ['*'] then
        throw (.fail (name ++ Raw.ascii ": parameter not set"))
    match treatment with
    | .bad => throw (.fail (Raw.ascii "Bad substitution"))
    | .plain =>
      unsetFails
      return own
    | .length =>
      unsetFails
      return [.fixed inQuotes (Raw.ofNat (value.getD []).length)]
    | .orElse colon w =>
      -- The empty piece makes a quoted word a field even if nothing follows.
      if isMissing colon then return .fixed inQuotes [] :: (← expandParts fuel (resolved w)) else return own
    | .orAssign colon w =>
      if isMissing colon then
        let text := textOf (← expandParts fuel (resolved w))
        assignNamed name text
        return pieceOf inQuotes text
      else return own
    | .orFail colon w =>
      if isMissing colon then
        let text := textOf (← expandParts fuel (resolved w))
        throw (.fail (name ++ Raw.ascii ": " ++
          if text ≠ [] then text
          else Raw.ascii (if colon then "parameter not set or null" else "parameter not set")))
      else return own
    | .andThen colon w =>
      if isMissing colon then return [.fixed inQuotes []]
      else return .fixed inQuotes [] :: (← expandParts fuel (resolved w))
    | .dropFront longest w =>
      let pattern := Pattern.parse (markedOf (← expandParts fuel (resolved w)))
      return pieceOf inQuotes (dropMatchingFront longest pattern (value.getD []))
    | .dropBack longest w =>
      let pattern := Pattern.parse (markedOf (← expandParts fuel (resolved w)))
      return pieceOf inQuotes (dropMatchingBack longest pattern (value.getD []))

end

/-! ## Fields -/

structure Fields where
  done : List (List (Char × Bool)) := []
  current : Option (List (Char × Bool)) := none
  /-- Whether blanks have ended the last field. -/
  afterSpace : Bool := false

namespace Fields

def add (f : Fields) (cs : List (Char × Bool)) : Fields :=
  { f with current := some (cs.reverse ++ f.current.getD []), afterSpace := false }

/-- Ends the open field, if there is one. -/
def close (f : Fields) : Fields :=
  match f.current with
  | some cs => { done := cs.reverse :: f.done, current := none, afterSpace := true }
  | none => f

def take (separators : Raw) (f : Fields) (c : Char) : Fields :=
  if c ∉ separators then f.add [(c, false)]
  else if c = ' ' || c = '\t' || c = '\n' then f.close
  -- White space next to another separator is part of it.
  else if f.current.isNone && f.afterSpace then { f with afterSpace := false }
  else { done := (f.current.getD []).reverse :: f.done, current := none, afterSpace := false }

def takePiece (separators : Raw) (f : Fields) : Piece → Fields
  | .fixed quoted t => if t = [] && !quoted then f else f.add (t.map (·, quoted))
  | .loose t => t.foldl (take separators) f
  | .cut => { f.close with afterSpace := false }

end Fields

def fieldsOf (separators : Raw) (pieces : List Piece) : List (List (Char × Bool)) :=
  (pieces.foldl (Fields.takePiece separators) {}).close.done.reverse

/-! ## Whole words -/

/-- The depth to which words may be nested. -/
def wordFuel : Nat := 10000

def expandWord (w : Word) : Expand (List Piece) := do
  expandParts wordFuel (expandTildes (← get).scope false true w)

def expandText (w : Word) : Expand Raw := do return textOf (← expandWord w)

/-- The value in an assignment. -/
def expandValue (w : Word) : Expand Raw := do
  return textOf (← expandParts wordFuel (expandTildes (← get).scope true true w))

def expandPattern (w : Word) : Expand (List Pattern.Element) := do
  return Pattern.parse (markedOf (← expandWord w))

/-- Words that are arguments, with the files that they match. -/
def expandArguments (files : Files) (cwd : Place) (ws : List Word) : Expand (List Raw) := do
  let fields ← ws.mapM fun w => do
    let pieces ← expandWord w
    let s := (← get).scope
    return (fieldsOf s.separators pieces).flatMap fun f =>
      if s.options.contains 'f' then [f.map (·.1)] else Pattern.expand files cwd f
  return fields.flatten

end Buildwatch.Machine
