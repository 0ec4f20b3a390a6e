import Buildwatch.Machine.Tool.Basic

/-!
# Showing text

Copying text as it is, or with numbers in front of its lines and with marks for what
cannot be seen.
-/

namespace Buildwatch.Machine.Showing

/-! ## Marks -/

structure Style where
  numbers : Bool := false
  /-- Whether lines with nothing in them have no number. -/
  numbersFilled : Bool := false
  squeezes : Bool := false
  showsEnds : Bool := false
  showsTabs : Bool := false
  showsOthers : Bool := false

namespace Style

def isPlain (s : Style) : Bool :=
  !(s.numbers || s.squeezes || s.showsEnds || s.showsTabs || s.showsOthers)

/-- A character of seven bits as it is shown. -/
def show7 (c : Char) : Raw :=
  if c.toNat < 32 then ['^', Char.ofNat (c.toNat + 64)] else if c = '\x7f' then ['^', '?'] else [c]

def char (s : Style) (c : Char) : Raw :=
  if c = '\t' then if s.showsTabs then ['^', 'I'] else [c]
  else if !s.showsOthers then [c]
  else if c.toNat < 128 then show7 c
  else ['M', '-'] ++ show7 (Char.ofNat (c.toNat - 128))

end Style

/-! ## Lines -/

structure Cursor where
  /-- The last number that was given to a line. -/
  number : Nat := 0
  isInLine : Bool := false
  /-- Whether the last line was empty. -/
  afterEmpty : Bool := false
  /-- A carriage return that may belong to the end of a line. -/
  return? : Bool := false

def numberText (n : Nat) : Raw := Raw.padLeft 6 (Raw.ofNat n) ++ ['\t']

/-- What is shown for a character, given what was shown before. -/
def step (s : Style) (cursor : Cursor) (c : Char) : Raw × Cursor :=
  if c = '\n' then
    let isEmpty := !cursor.isInLine
    if isEmpty && cursor.afterEmpty && s.squeezes then ([], cursor)
    else
      let isNumbered := isEmpty && s.numbers && !s.numbersFilled
      let number := if isNumbered then cursor.number + 1 else cursor.number
      ((if isNumbered then numberText number else []) ++
        (if cursor.return? then ['^', 'M'] else []) ++
        (if s.showsEnds then ['$', '\n'] else ['\n']),
        { number, isInLine := false, afterEmpty := isEmpty, return? := false })
  else
    let isNumbered := !cursor.isInLine && s.numbers
    let number := if isNumbered then cursor.number + 1 else cursor.number
    let isHeld := c = '\r' && s.showsEnds && !s.showsOthers
    ((if isNumbered then numberText number else []) ++
      (if cursor.return? then ['\r'] else []) ++ (if isHeld then [] else s.char c),
      { number, isInLine := true, afterEmpty := false, return? := isHeld })

/-- What is shown for a piece of text. -/
def run (s : Style) (cursor : Cursor) (piece : Raw) : Raw × Cursor :=
  let (shown, cursor) := piece.foldl (fun (shown, cursor) c =>
    let (r, cursor) := step s cursor c
    (r.reverse ++ shown, cursor)) (([] : Raw), cursor)
  (shown.reverse, cursor)

/-! ## The tools -/

/-- Writes at once; what goes wrong ends the tool. -/
def put (r : Raw) : Tool Unit := do
  match ← Tool.writeTo 1 r with
  | none => pure ()
  | some e => Tool.fail (Raw.ascii "write error: " ++ Raw.ascii e.text)

def options : Options where
  letters := "benstuvAET"
  long := "number-nonblank=b number=n squeeze-blank=s show-nonprinting=v show-ends=E show-tabs=T " ++
    "show-all=A"

/-- The style that a call asks for. -/
def styleOf (c : Call) : Style where
  numbers := c.has "n" || c.has "b"
  numbersFilled := c.has "b"
  squeezes := c.has "s"
  showsEnds := c.has "E" || c.has "e" || c.has "A"
  showsTabs := c.has "T" || c.has "t" || c.has "A"
  showsOthers := c.has "v" || c.has "e" || c.has "t" || c.has "A"

/-- Whether an input is the file that is being written, and holds what is still to be read. -/
def isOwnOutput (v : View) (descriptor : Nat) : Bool :=
  match v.channels.lookup 1 with
  | some (.file n) =>
    v.channels.lookup descriptor = some (.file n) && (v.files.text? n).any (· ≠ [])
  | _ => false

def cat : Tool Nat := do
  let c ← Tool.call options
  let s := styleOf c
  let mut cursor : Cursor := {}
  let mut isWhole := true
  for name in if c.operands.isEmpty then [['-']] else c.operands do
    match ← Tool.openInput name with
    | .error e =>
      Tool.warnOf name e
      isWhole := false
    | .ok d =>
      if isOwnOutput (← Tool.view) d then
        Tool.warn (name ++ Raw.ascii ": input file is output file")
        isWhole := false
      else
        let (failure, next) ← go s d Tool.manyTurns cursor
        cursor := next
        if let some e := failure then
          Tool.warnOf name e
          isWhole := false
      Tool.closeInput d
  if cursor.return? then put ['\r']
  return Tool.statusOf isWhole
where
  go (s : Style) (d : Nat) : Nat → Cursor → Tool (Option FileError × Cursor)
    | 0, cursor => return (none, cursor)
    | turns + 1, cursor => do
      match ← Tool.take d 131072 with
      | .error e => return (some e, cursor)
      | .ok [] => return (none, cursor)
      | .ok r =>
        if s.isPlain then
          put r
          go s d turns cursor
        else
          let (shown, cursor) := run s cursor r
          put shown
          go s d turns cursor

def tee : Tool Nat := do
  let c ← Tool.call { letters := "aip", long := "append=a ignore-interrupts=i output-error::=p" }
  let mut targets : List (Raw × Nat) := []
  let mut status := 0
  for name in c.operands do
    match ← Tool.openFile name (if c.has "a" then .append else .output) with
    | .ok d => targets := targets ++ [(name, d)]
    | .error e =>
      Tool.warnOf name e
      status := 1
  match ← Tool.forPieces 0 65536 (copy targets) with
  | none => return status
  | some e =>
    Tool.warn (Raw.ascii "read error: " ++ Raw.ascii e.text)
    return 1
where
  copy (targets : List (Raw × Nat)) (r : Raw) : Tool Unit := do
    put r
    for (name, d) in targets do
      if let some e := ← Tool.writeTo d r then Tool.warnOf name e

/-- Says the same line for ever. -/
def yes : Tool Nat := do
  let c ← Tool.call { letters := "" }
  let line := (if c.operands.isEmpty then ['y'] else Raw.join [' '] c.operands) ++ ['\n']
  let piece := (List.replicate (8192 / line.length + 1) line).flatten
  go piece Tool.manyTurns
where
  go (piece : Raw) : Nat → Tool Nat
    | 0 => return 0
    | turns + 1 => do
      match ← Tool.writeTo 1 piece with
      | none => go piece turns
      | some e => Tool.fail (Raw.ascii "standard output: " ++ Raw.ascii e.text)

end Buildwatch.Machine.Showing
