import Buildwatch.Machine.Changes
import Buildwatch.Machine.Tool.Calendar
import Buildwatch.Machine.Tool.Modes
import Buildwatch.Machine.Tool.Quoting
import Buildwatch.Machine.Tool.Regex

/-!
# Expressions about files

The expressions that are asked about files: questions about names, kinds and sizes, and
actions such as printing and running programs, joined by signs.
-/

namespace Buildwatch.Machine.Finding

/-! ## Expressions -/

/-- How a number is compared. -/
inductive Bound
  | exactly (n : Nat)
  | more (n : Nat)
  | less (n : Nat)

def Bound.accepts (b : Bound) (n : Nat) : Bool :=
  match b with
  | exactly m => n = m
  | more m => m < n
  | less m => n < m

abbrev Sink := Option Raw

/-- A question about an entry, or something that is done with it. -/
inductive Query
  | constant (b : Bool)
  | name (ignoresCase : Bool) (pattern : List Pattern.Element)
  | path (ignoresCase : Bool) (pattern : List Pattern.Element)
  | target (ignoresCase : Bool) (pattern : List Pattern.Element)
  | expression (e : Regex.Search)
  /-- The kind is one of some letters; a link counts as what it leads to if `isFollowed`. -/
  | kind (isFollowed : Bool) (letters : Raw)
  | empty
  | size (unit : Nat) (b : Bound)
  | newer (moment : Int)
  /-- The age in minutes, counting begun ones, or in whole days. -/
  | minutes (b : Bound)
  | days (b : Bound)
  | rights (manner : Char) (mode : Nat)
  | access (bits : Nat)
  | links (b : Bound)
  | number (b : Bound)
  | same (number : Nat)
  | owner (isRoot : Bool)
  | prune
  | quit
  | print (sink : Sink) (ending : Char)
  | format (sink : Sink) (form : Raw)
  | listing (sink : Sink)
  | delete
  | run (asks inPlace : Bool) (command : List Raw)
  /-- Runs a command with many entries at once; the number tells such commands apart. -/
  | runMany (number : Nat) (inPlace : Bool) (command : List Raw)

/-- Whether a query does something that takes the place of printing. -/
def Query.isAction : Query → Bool
  | .print .. | .format .. | .listing .. | .delete | .run .. | .runMany .. | .quit => true
  | _ => false

inductive Expression
  | one (q : Query)
  | negated (e : Expression)
  | both (a b : Expression)
  | either (a b : Expression)
  | sequence (a b : Expression)

/-- Whether an expression does something that takes the place of printing. -/
def Expression.acts : Expression → Bool
  | .one .quit => false
  | .one q => q.isAction
  | .negated e => e.acts
  | .both a b | .either a b | .sequence a b => a.acts || b.acts

/-! ## Settings -/

inductive Following
  | none
  | given
  | all
  deriving DecidableEq

/-- What holds for the whole walk. -/
structure Setting where
  following : Following := .none
  depthFirst : Bool := false
  least : Nat := 0
  most : Option Nat := .none
  dialect : String := "findutils-default"
  /-- The time that ages are counted from. -/
  dayStart : Option Int := .none
  commands : Nat := 0

/-! ## Reading -/

inductive Token
  | query (q : Query)
  | open
  | close
  | negate
  | and
  | or
  | comma

/-- The arguments that are left, and what has been set. -/
structure Cursor where
  rest : List Raw
  setting : Setting := {}
  now : Int
  view : View
  tokens : List (Token × Raw) := []

abbrev Reading := StateT Cursor (Except (List Raw))

def failing {α : Type} (reason : Raw) : Reading α := throw [reason]

def value (name : Raw) : Reading Raw := do
  let s ← get
  match s.rest with
  | v :: rest =>
    set { s with rest }
    return v
  | [] => failing (Raw.ascii "missing argument to \x60" ++ name ++ ['\''])

/-- Reports a value that makes no sense. -/
def invalid {α : Type} (name v : Raw) : Reading α :=
  failing (Raw.ascii "invalid argument \x60" ++ v ++ Raw.ascii "' to \x60" ++ name ++ ['\''])

def bound? (r : Raw) : Option Bound :=
  match r with
  | '+' :: r => (Raw.natural? r).map .more
  | '-' :: r => (Raw.natural? r).map .less
  | r => (Raw.natural? r).map .exactly

def bound (name v : Raw) : Reading Bound := do
  match bound? v with
  | some b => return b
  | none => invalid name v

/-- The bound in a text, where a fraction may stand. -/
def looseBound (name v : Raw) : Reading Bound := do
  let whole := v.takeWhile (· ≠ '.')
  let fraction := (v.drop whole.length).drop 1
  if fraction.all Raw.isDigit then
    match bound? (if whole.any Raw.isDigit then whole else whole ++ ['0']), fraction.any (· ≠ '0') with
    -- An age below a number and a half may be the whole number.
    | some (.less n), true => return .less (n + 1)
    | some b, _ => return b
    | none, _ => invalid name v
  else invalid name v

def pattern (ignoresCase : Bool) (r : Raw) : List Pattern.Element :=
  Pattern.ofRaw (if ignoresCase then r.map Char.toLower else r)

/-- An expression with the signs that need a backslash and those that have none exchanged. -/
def exchanged : (inSet : Bool) → Raw → Raw
  | _, [] => []
  | true, ']' :: r => ']' :: exchanged false r
  | true, c :: r => c :: exchanged true r
  | false, '\\' :: c :: r =>
    (if "()|".toList.contains c then [c] else ['\\', c]) ++ exchanged false r
  | false, '[' :: '^' :: ']' :: r => '[' :: '^' :: ']' :: exchanged true r
  | false, '[' :: ']' :: r => '[' :: ']' :: exchanged true r
  | false, '[' :: r => '[' :: exchanged true r
  | false, c :: r =>
    (if "()|\x7b\x7d".toList.contains c then ['\\', c] else [c]) ++ exchanged false r

def notations : List String :=
  ["findutils-default", "ed", "emacs", "gnu-awk", "grep", "posix-awk", "awk", "posix-basic",
    "posix-egrep", "egrep", "posix-extended", "posix-minimal-basic", "sed"]

/-- The expression for whole paths in a text. -/
def expression (kind : String) (ignoresCase : Bool) (r : Raw) : Reading Query := do
  let isBasic := ["ed", "grep", "posix-basic", "posix-minimal-basic", "sed"].contains kind
  -- These dialects write brackets and bars with a backslash where they are signs.
  let text := if kind = "findutils-default" || kind = "emacs" then exchanged false r else r
  match Regex.parse { extended := !isBasic } text with
  | .ok e => return .expression (Regex.ready e { ignoresCase })
  | .error reason => failing (Raw.ascii reason)

/-- The command behind a name that runs one, and whether it takes many entries at once. -/
def command (name : Raw) (mayBeMany : Bool) : Reading (List Raw × Bool) := do
  let s ← get
  let rec go : List Raw → List Raw → Option (List Raw × Bool × List Raw)
    | _, [] => none
    | done, [';'] :: rest => some (done.reverse, false, rest)
    | done, ['+'] :: rest =>
      -- Only right behind the braces does the sign end a command.
      if mayBeMany && done.head? = some ['\x7b', '\x7d'] then some ((done.drop 1).reverse, true, rest)
      else go (['+'] :: done) rest
    | done, w :: rest => go (w :: done) rest
  match go [] s.rest with
  | none => failing (Raw.ascii "missing argument to \x60" ++ name ++ ['\''])
  | some (words, isMany, rest) =>
    set { s with rest }
    if words.isEmpty && !isMany then
      failing (Raw.ascii "invalid argument \x60" ++ [';'] ++ Raw.ascii "' to \x60" ++ name ++ ['\''])
    if isMany then
      match words.find? fun w => Raw.includes ['\x7b', '\x7d'] w with
      | some w =>
        if w = ['\x7b', '\x7d'] then
          failing (Raw.ascii "Only one instance of \x7b\x7d is supported with " ++ name ++ Raw.ascii " ... +")
        failing (Raw.ascii "In '" ++ name ++
          Raw.ascii " ... \x7b\x7d +' the '\x7b\x7d' must appear by itself, but you specified '" ++ w ++ ['\''])
      | none => pure ()
    return (words, isMany)

def depth (name v : Raw) : Reading Nat := do
  match Raw.natural? v with
  | some n => return n
  | none =>
    failing (Raw.ascii "Expected a positive decimal integer argument to " ++ name ++
      Raw.ascii ", but got '" ++ v ++ ['\''])

def timeOf (v : Raw) : Reading Int := do
  match (← get).view.find ((← get).setting.following = .all) v with
  | .ok (_, node) => return node.modified
  | .error e => failing (Quoting.plain v ++ Raw.ascii ": " ++ Raw.ascii e.text)

def sizeUnit? (c : Char) : Option Nat :=
  match c with
  | 'c' => some 1
  | 'w' => some 2
  | 'b' => some 512
  | 'k' => some 1024
  | 'M' => some 1048576
  | 'G' => some 1073741824
  | _ => none

def query (name : Raw) : Reading Query := do
  let always : Query := .constant true
  let setting (f : Setting → Setting) : Reading Query := do
    modify fun s => { s with setting := f s.setting }
    return always
  let word := String.ofList ((name.drop 1))
  match word with
  | "true" | "noleaf" | "mount" | "xdev" | "warn" | "nowarn" | "ignore_readdir_race"
  | "noignore_readdir_race" => return always
  | "false" => return .constant false
  | "name" => return .name false (pattern false (← value name))
  | "iname" => return .name true (pattern true (← value name))
  | "path" | "wholename" => return .path false (pattern false (← value name))
  | "ipath" | "iwholename" => return .path true (pattern true (← value name))
  | "lname" => return .target false (pattern false (← value name))
  | "ilname" => return .target true (pattern true (← value name))
  | "regex" => expression (← get).setting.dialect false (← value name)
  | "iregex" => expression (← get).setting.dialect true (← value name)
  | "regextype" =>
    let v ← value name
    if notations.contains (String.ofList v) then setting ({ · with dialect := String.ofList v })
    else
      let quoted := notations.map fun n => "'" ++ n ++ "'"
      failing (Raw.ascii "Unknown regular expression type " ++ Quoting.plain v ++
        Raw.ascii ("; valid types are " ++ ", ".intercalate quoted ++ "."))
  | "type" | "xtype" =>
    let v ← value name
    let letters := Text.cutAt ',' v
    for l in letters do
      match l with
      | [c] =>
        if !"bcdpflsD".toList.contains c then
          failing (Raw.ascii "Unknown argument to " ++ name ++ Raw.ascii ": " ++ [c])
      | [] =>
        failing (if v = [] then Raw.ascii "Arguments to " ++ name ++ Raw.ascii " should contain at least one letter"
          else Raw.ascii "Last file type in list argument to " ++ name ++ Raw.ascii " is missing, i.e., list is ending on: ','")
      | _ => failing (Raw.ascii "Must separate multiple arguments to " ++ name ++ Raw.ascii " using: ','")
    return .kind (word = "xtype") letters.flatten
  | "empty" => return .empty
  | "size" =>
    let v ← value name
    let (digits, unit) := match v.getLast?.bind sizeUnit? with
      | some unit => (v.dropLast, unit)
      | none => (v, 512)
    match v.getLast? with
    | none => failing (Raw.ascii "invalid null argument to -size")
    | some c =>
      if (sizeUnit? c).isNone && !Raw.isDigit c then
        failing (Raw.ascii "invalid -size type \x60" ++ [c, '\''])
    match bound? digits with
    | some b => return .size unit b
    | none => failing (Raw.ascii "Invalid argument \x60" ++ v ++ Raw.ascii "' to -size")
  | "newer" | "anewer" | "cnewer" => return .newer (← timeOf (← value name))
  -- The machine keeps one time for each file, so all three ask for it.
  | "mtime" | "atime" | "ctime" => return .days (← looseBound name (← value name))
  | "mmin" | "amin" | "cmin" => return .minutes (← looseBound name (← value name))
  | "perm" =>
    let v ← value name
    let (manner, text) : Char × Raw := match v with
      | '-' :: r => ('-', r)
      | '/' :: r => ('/', r)
      | r => ('=', r)
    match if v.head? = some '+' then none else Modes.read? text with
    | some change => return .rights manner (change.apply 0 false 0)
    | none => failing (Raw.ascii "invalid mode " ++ Quoting.plain v)
  -- The superuser may read and write everything, and run what anyone may run.
  | "readable" => return .access 0
  | "writable" => return .access 0
  | "executable" => return .access 0o111
  | "links" => return .links (← bound name (← value name))
  | "inum" => return .number (← bound name (← value name))
  | "samefile" =>
    let v ← value name
    match (← get).view.find ((← get).setting.following = .all) v with
    | .ok (_, node) => return .same node.number
    | .error e => failing (Quoting.plain v ++ Raw.ascii ": " ++ Raw.ascii e.text)
  | "user" | "group" =>
    let v ← value name
    match v, Raw.natural? v with
    | _, some n => return .owner (n = 0)
    | v, none =>
      if v = Raw.ascii "root" then return .owner true
      else if word = "user" then failing (Quoting.plain v ++ Raw.ascii " is not the name of a known user")
      else failing (Quoting.plain v ++ Raw.ascii " is not the name of an existing group")
  | "uid" | "gid" => return .owner ((← bound name (← value name)).accepts 0)
  | "nouser" | "nogroup" => return .constant false
  | "used" =>
    discard <| bound name (← value name)
    return .constant false
  | "maxdepth" =>
    let n ← depth name (← value name)
    setting ({ · with most := some n })
  | "mindepth" =>
    let n ← depth name (← value name)
    setting ({ · with least := n })
  | "depth" | "d" => setting ({ · with depthFirst := true })
  | "follow" => setting ({ · with following := .all })
  | "daystart" =>
    let now := (← get).now
    setting ({ · with dayStart := some ((now / 86400000000 + 1) * 86400000000) })
  | "prune" => return .prune
  | "quit" => return .quit
  | "print" => return .print none '\n'
  | "print0" => return .print none '\x00'
  | "fprint" => return .print (some (← value name)) '\n'
  | "fprint0" => return .print (some (← value name)) '\x00'
  | "printf" => return .format none (← value name)
  | "fprintf" =>
    let sink ← value name
    return .format (some sink) (← value name)
  | "ls" => return .listing none
  | "fls" => return .listing (some (← value name))
  | "delete" =>
    -- What is in a directory has to go before the directory can.
    modify fun s => { s with setting := { s.setting with depthFirst := true } }
    return .delete
  | "exec" | "execdir" =>
    let (words, isMany) ← command name true
    if isMany then
      modify fun s => { s with setting := { s.setting with commands := s.setting.commands + 1 } }
      return .runMany (← get).setting.commands (word = "execdir") words
    else return .run false (word = "execdir") words
  | "ok" | "okdir" =>
    let (words, _) ← command name false
    return .run true (word = "okdir") words
  | _ =>
    match word.toList with
    | ['n', 'e', 'w', 'e', 'r', x, y] =>
      if !"aBcm".toList.contains x || !"aBcmt".toList.contains y then
        failing (Raw.ascii "invalid predicate \x60" ++ name ++ ['\''])
      let v ← value name
      if y = 't' then
        match Calendar.read? (← get).now v with
        | some t => return .newer t
        | none =>
          failing (Raw.ascii "I cannot figure out how to interpret " ++ Quoting.plain v ++
            Raw.ascii " as a date or time")
      else return .newer (← timeOf v)
    | _ => failing (Raw.ascii "unknown predicate \x60" ++ name ++ ['\''])

def isExpression (isLeading : Bool) (a : Raw) : Bool :=
  match a with
  | '-' :: _ :: _ => true
  | [')'] | [','] => !isLeading
  | ['('] | ['!'] => true
  | _ => false

/-- The names whose values are often patterns that were not quoted. -/
def patternNames : List String :=
  ["-name", "-iname", "-path", "-ipath", "-wholename", "-iwholename", "-lname", "-ilname", "-regex", "-iregex"]

def tokens : (fuel : Nat) → Reading Unit
  | 0 => return
  | fuel + 1 => do
    let s ← get
    match s.rest with
    | [] => return
    | a :: rest =>
      let put (t : Token) : Reading Unit := modify fun s => { s with tokens := (t, a) :: s.tokens }
      if !isExpression false a then
        let last := (s.tokens.head?.map (·.2)).getD []
        let hint : List Raw :=
          if patternNames.contains (String.ofList last) && (s.view.node? false a).isSome then
            [Raw.ascii "possible unquoted pattern after predicate \x60" ++ last ++ Raw.ascii "'?"]
          else []
        throw ((Raw.ascii "paths must precede expression: \x60" ++ a ++ ['\'']) :: hint)
      set { s with rest }
      match String.ofList a with
      | "(" => put .open
      | ")" => put .close
      | "!" | "-not" => put .negate
      | "-a" | "-and" => put .and
      | "-o" | "-or" => put .or
      | "," => put .comma
      | _ => put (.query (← query a))
      tokens fuel

/-! ## Putting tokens together -/

/-- What reading tokens gives: an expression and the tokens after it. -/
abbrev Parsed := Except Raw (Expression × List (Token × Raw))

mutual

def joined : (fuel : Nat) → (before : Option Raw) → List (Token × Raw) → Parsed
  | 0, _, _ => .error []
  | fuel + 1, before, ts => do
    let (a, rest) ← eitherOf fuel before ts
    joinedAfter fuel a rest

def joinedAfter : (fuel : Nat) → Expression → List (Token × Raw) → Parsed
  | 0, a, ts => .ok (a, ts)
  | fuel + 1, a, ts =>
    match ts with
    | (.comma, w) :: rest => do
      let (b, rest) ← eitherOf fuel (some w) rest
      joinedAfter fuel (.sequence a b) rest
    | ts => .ok (a, ts)

def eitherOf : (fuel : Nat) → (before : Option Raw) → List (Token × Raw) → Parsed
  | 0, _, _ => .error []
  | fuel + 1, before, ts => do
    let (a, rest) ← bothOf fuel before ts
    eitherAfter fuel a rest

def eitherAfter : (fuel : Nat) → Expression → List (Token × Raw) → Parsed
  | 0, a, ts => .ok (a, ts)
  | fuel + 1, a, ts =>
    match ts with
    | (.or, w) :: rest => do
      let (b, rest) ← bothOf fuel (some w) rest
      eitherAfter fuel (.either a b) rest
    | ts => .ok (a, ts)

def bothOf : (fuel : Nat) → (before : Option Raw) → List (Token × Raw) → Parsed
  | 0, _, _ => .error []
  | fuel + 1, before, ts => do
    let (a, rest) ← term fuel before ts
    bothAfter fuel a rest

def bothAfter : (fuel : Nat) → Expression → List (Token × Raw) → Parsed
  | 0, a, ts => .ok (a, ts)
  | fuel + 1, a, ts =>
    match ts with
    | (.and, w) :: rest => do
      let (b, rest) ← term fuel (some w) rest
      bothAfter fuel (.both a b) rest
    -- Parts that follow each other without a sign have to hold together.
    | (.query q, w) :: rest => do
      let (b, rest) ← term fuel none ((.query q, w) :: rest)
      bothAfter fuel (.both a b) rest
    | (.open, w) :: rest => do
      let (b, rest) ← term fuel none ((.open, w) :: rest)
      bothAfter fuel (.both a b) rest
    | (.negate, w) :: rest => do
      let (b, rest) ← term fuel none ((.negate, w) :: rest)
      bothAfter fuel (.both a b) rest
    | ts => .ok (a, ts)

def term : (fuel : Nat) → (before : Option Raw) → List (Token × Raw) → Parsed
  | 0, _, _ => .error []
  | fuel + 1, before, ts =>
    match ts with
    | [] =>
      .error (match before with
        | some w => Raw.ascii "expected an expression after '" ++ w ++ ['\'']
        | none => [])
    | (.query q, _) :: rest => .ok (.one q, rest)
    | (.negate, w) :: rest => do
      let (e, rest) ← term fuel (some w) rest
      .ok (.negated e, rest)
    | (.open, _) :: (.close, _) :: _ =>
      .error (Raw.ascii "invalid expression; empty parentheses are not allowed.")
    | (.open, w) :: rest => do
      let unclosed : Raw :=
        Raw.ascii "invalid expression; I was expecting to find a ')' somewhere but did not see one."
      if rest.isEmpty then .error unclosed
      else
        let (e, rest) ← joined fuel (some w) rest
        match rest with
        | (.close, _) :: rest => .ok (e, rest)
        | _ => .error unclosed
    | (.close, _) :: _ =>
      .error (match before with
        | some w => Raw.ascii "expected an expression between '" ++ w ++ Raw.ascii "' and ')'"
        | none => Raw.ascii "invalid expression; you have too many ')'")
    | (_, w) :: _ =>
      .error (Raw.ascii "invalid expression; you have used a binary operator '" ++ w ++
        Raw.ascii "' with nothing before it.")

end

/-- The expression that tokens make; without any it is printing. -/
def assemble (ts : List (Token × Raw)) : Except Raw Expression := do
  let print : Expression := .one (.print none '\n')
  if ts.isEmpty then .ok print
  else
    match ← joined (20 * ts.length + 20) none ts with
    -- Entries are printed where nothing else is done with them.
    | (e, []) => .ok (if e.acts then e else .both e print)
    | (_, (.close, _) :: _) => .error (Raw.ascii "you have too many ')'")
    | (_, (_, w) :: _) =>
      .error (Raw.ascii "invalid expression; you have used a binary operator '" ++ w ++
        Raw.ascii "' with nothing before it.")

end Buildwatch.Machine.Finding
