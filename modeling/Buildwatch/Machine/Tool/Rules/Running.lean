import Buildwatch.Machine.Tool.Basic
import Buildwatch.Machine.Tool.Rules.Grammar
import Buildwatch.Machine.Tool.Rules.Value

/-!
# Scripts at work

What a script keeps while it runs: its names, the record at hand and its fields, and the
files and commands that it reads from and prints to.
-/

namespace Buildwatch.Machine.Rules

/-! ## What is kept -/

/-- What a name stands for. One that has no value yet may become a table that is known to others
already. -/
inductive Slot
  | unset (table : Option Nat)
  | value (v : Value)
  | table (number : Nat)

structure Stream where
  descriptor : Nat
  buffer : Raw := []
  isDrained : Bool := false
  /-- The command at the other end. -/
  pid : Option Nat := none

structure Outlet where
  descriptor : Nat
  pid : Option Nat := none

structure Store where
  script : Script
  globals : List (Raw × Slot) := []
  locals : List (Raw × Slot) := []
  tables : List (Nat × Table) := []
  record : Value := .unset
  fields : Array Value := #[]
  sources : List (Raw × Stream) := []
  outlets : List (Raw × Outlet) := []
  /-- The input at hand. -/
  input : Option Stream := none
  nextArgument : Nat := 1
  hasOpened : Bool := false
  /-- The rules that apply until their last record is found. -/
  openRules : List Nat := []
  patterns : List (Raw × Regex.Search) := []
  /-- The last random number, and what the row of them was begun with. -/
  seed : Nat := 1
  seedValue : Value := .number 1700000000
  status : Nat := 0

/-- Why statements are not carried out one after the other. -/
inductive Jump
  | next
  | nextFile
  | exit
  | stop
  | again
  | leave (v : Value)
  /-- Something went wrong. -/
  | abandon

abbrev Run := ExceptT Jump (StateT Store Tool)

namespace Run

def tool {α : Type} (t : Tool α) : Run α := ExceptT.lift (StateT.lift t)

def complain (r : Raw) : Run Unit := tool do
  discard <| Tool.writeTo 2 ((← readThe Self).label ++ Raw.ascii ": " ++ r ++ ['\n'])

/-- Reports something and gives up. -/
def abandon {α : Type} (r : Raw) : Run α := do
  complain r
  modify fun s => { s with status := 2 }
  throw .abandon

/-! ## Names -/

def slot (name : Raw) : Run Slot := do
  let s ← get
  return ((s.locals.lookup name).or (s.globals.lookup name)).getD (.unset none)

def setSlot (name : Raw) (v : Slot) : Run Unit :=
  modify fun s =>
    if s.locals.any (·.1 = name) then { s with locals := s.locals.map fun e => if e.1 = name then (name, v) else e }
    else if s.globals.any (·.1 = name) then
      { s with globals := s.globals.map fun e => if e.1 = name then (name, v) else e }
    else { s with globals := (name, v) :: s.globals }

def global (name : String) : Run Value := do
  return match (← get).globals.lookup (Raw.ascii name) with
    | some (.value v) => v
    | _ => .unset

def setGlobal (name : String) (v : Value) : Run Unit := do
  let s ← get
  -- The name means the variable of the whole script, whatever the function calls so.
  set { s with locals := [] }
  setSlot (Raw.ascii name) (.value v)
  modify fun t => { t with locals := s.locals }

def text (v : Value) : Run Raw := do
  match v with
  | .number x =>
    let format := (← global "CONVFMT").toText (Raw.ascii "%.6g")
    return numberText format x
  | v => return v.toText []

def globalText (name : String) : Run Raw := do text (← global name)

/-- Reports something that goes wrong while a script runs. -/
def fault {α : Type} (r : Raw) : Run α := do
  let name ← globalText "FILENAME"
  let line ← globalText "FNR"
  let count ← globalText "NR"
  abandon (Raw.ascii "run time error: " ++ r ++ Raw.ascii "\n\tFILENAME=\"" ++ name ++ Raw.ascii "\" FNR=" ++ line ++
    Raw.ascii " NR=" ++ count)

/-- The number of the table that a name stands for. -/
def tableNumber (name : Raw) : Run Nat := do
  match ← slot name with
  | .table n => return n
  | .unset (some n) =>
    setSlot name (.table n)
    return n
  | _ =>
    let n := (← get).tables.length
    modify fun s => { s with tables := (n, {}) :: s.tables }
    setSlot name (.table n)
    return n

def table (n : Nat) : Run Table := do return ((← get).tables.lookup n).getD {}

def setTable (n : Nat) (t : Table) : Run Unit :=
  modify fun s => { s with tables := s.tables.map fun e => if e.1 = n then (n, t) else e }

/-! ## Expressions to search for -/

def ready (r : Raw) : Run Regex.Search := do
  match (← get).patterns.lookup r with
  | some e => return e
  | none =>
    match pattern r with
    | .ok e =>
      modify fun s => { s with patterns := (r, e) :: s.patterns }
      return e
    | .error reason => abandon (Mistake.badPattern 1 reason r).message

def partsOf (separator r : Raw) : Run (List Value) := do
  match parts separator r with
  | .ok rs => return rs.map .input
  | .error reason => abandon (Mistake.badPattern 1 reason separator).message

/-! ## The record and its fields -/

def recordText : Run Raw := do text (← get).record

def setRecord (v : Value) : Run Unit := do
  let fields ← partsOf (← globalText "FS") (← text v)
  modify fun s => { s with record := v, fields := fields.toArray }

def joinFields : Run Unit := do
  let separator ← globalText "OFS"
  let mut texts : List Raw := []
  for v in (← get).fields do texts := (← text v) :: texts
  let r := Raw.join separator texts.reverse
  modify fun s => { s with record := .text r }

def resized (fields : Array Value) (n : Nat) : Array Value :=
  fields.extract 0 n ++ Array.replicate (n - fields.size) .unset

def fieldIndex (v : Value) : Run Nat := do
  match truncated? v.toNumber with
  | some i =>
    if i < 0 then fault (Raw.ascii "negative field index $" ++ Raw.ofInt i) else return i.toNat
  | none => fault (Raw.ascii "field index out of range")

/-! ## Places -/

/-- A place with its field or key worked out. -/
inductive Address
  | name (r : Raw)
  | field (n : Nat)
  | element (table : Nat) (key : Raw) (isNumber : Bool)

def fieldCount : Raw := Raw.ascii "NF"

/-- The value at a place; an element is made by asking for it. -/
def fetch : Address → Run Value
  | .name r => do
    -- The number of fields is not kept: it is the size of what is kept.
    if r = fieldCount then return .ofNat (← get).fields.size
    match ← slot r with
    | .value v => return v
    | _ => return .unset
  | .field 0 => return (← get).record
  | .field n => return (← get).fields.getD (n - 1) .unset
  | .element n key isNumber => do
    -- The kind of key that was used last decides the order of the keys.
    let t := (← table n).prepared isNumber
    match t.get? key with
    | some v =>
      if !t.isCounted then setTable n (t.put key v)
      return v
    | none =>
      setTable n (t.put key .unset)
      return .unset

def put (a : Address) (v : Value) : Run Unit := do
  match a with
  | .name r =>
    if r = fieldCount then
      match truncated? v.toNumber with
      | some i =>
        -- Changing the number drops fields or adds empty ones, and the record follows.
        modify fun s => { s with fields := resized s.fields i.toNat }
        joinFields
      | none => pure ()
    else setSlot r (.value v)
  | .field 0 => setRecord v
  | .field n =>
    modify fun s => { s with fields := (resized s.fields (max n s.fields.size)).setIfInBounds (n - 1) v }
    joinFields
  | .element n key isNumber => setTable n (((← table n).prepared isNumber).put key v)

/-! ## Reading records -/

/-- Cuts the next record off, if it is all there. -/
def cutRecord (separator : Raw) (isDrained : Bool) (e : Option Regex.Search) (r : Raw) : Option (Raw × Raw) :=
  match separator, e with
  | [c], _ =>
    let record := r.takeWhile (· ≠ c)
    match r.drop record.length with
    | _ :: rest => some (record, rest)
    | [] => if isDrained && r ≠ [] then some (r, []) else none
  | _, some e =>
    -- An expression may match more once there is more, so all of the input is awaited.
    if !isDrained || r = [] then none
    else
      match (e.all r).find? fun (a, b) => a.index < b.index with
      | some (a, b) => some (r.take a.index, b.rest)
      | none => some (r, [])
  -- Without a separator empty lines stand between records.
  | _, none =>
    let r := r.dropWhile (· = '\n')
    if !isDrained || r = [] then none
    else
      let rec go : Raw → Raw → Raw × Raw
        | before, '\n' :: '\n' :: rest => (before.reverse, rest.dropWhile (· = '\n'))
        | before, ['\n'] => (before.reverse, [])
        | before, c :: rest => go (c :: before) rest
        | before, [] => (before.reverse, [])
      some (go [] r)

/-- The next record of a stream, and what is left of it. -/
def nextRecord (separator : Raw) (e : Option Regex.Search) : (turns : Nat) → Stream → Run (Option Raw × Stream)
  | 0, s => return (none, s)
  | turns + 1, s => do
    match cutRecord separator s.isDrained e s.buffer with
    | some (record, buffer) => return (some record, { s with buffer })
    | none =>
      if s.isDrained then return (none, s)
      match ← tool (Tool.take s.descriptor 4096) with
      | .error e => abandon (Raw.ascii "read error (" ++ Raw.ascii e.text ++ [')'])
      | .ok [] => nextRecord separator e turns { s with isDrained := true }
      | .ok piece => nextRecord separator e turns { s with buffer := s.buffer ++ piece }

/-- The next record of a stream, by what stands between records now. -/
def recordOf (s : Stream) : Run (Option Raw × Stream) := do
  let separator ← globalText "RS"
  let e ← match separator with
    -- A single character is no expression.
    | [] | [_] => pure none
    | r => some <$> ready r
  nextRecord separator e Tool.manyTurns s

def countUp (name : String) : Run Unit := do
  setGlobal name (.number ((← global name).toNumber + 1))

/-- The setting of a name that an argument stands for. -/
def setting? (r : Raw) : Option (Raw × Raw) :=
  let name := r.takeWhile fun c => Raw.isLetter c || Raw.isDigit c
  match r.drop name.length with
  | '=' :: v => if name.head?.any Raw.isLetter then some (name, unescape (v.length + 1) v) else none
  | _ => none

def nextInput : (turns : Nat) → Run (Option Stream)
  | 0 => return none
  | turns + 1 => do
    let s ← get
    let count := match truncated? (← global "ARGC").toNumber with
      | some i => i.toNat
      | none => 0
    if s.nextArgument < count then
      set { s with nextArgument := s.nextArgument + 1 }
      let args ← table (← tableNumber (Raw.ascii "ARGV"))
      let name ← text ((args.get? (Raw.ofNat s.nextArgument)).getD .unset)
      match setting? name with
      -- An argument that sets a name does so when its turn comes among the inputs.
      | some (n, v) =>
        put (.name n) (.input v)
        nextInput turns
      | none =>
        if name = [] then nextInput turns
        else
          setGlobal "FILENAME" (.text name)
          setGlobal "FNR" (.number 0)
          modify fun s => { s with hasOpened := true }
          match ← tool (Tool.openInput name) with
          | .ok descriptor => return some { descriptor }
          | .error e => abandon (Raw.ascii "cannot open \"" ++ name ++ Raw.ascii "\" (" ++ Raw.ascii e.text ++ [')'])
    -- Without any file among the arguments the standard input is read.
    else if s.hasOpened then return none
    else
      set { s with hasOpened := true }
      return some { descriptor := 0 }

def nextOfInputs : (turns : Nat) → Run (Option Raw)
  | 0 => return none
  | turns + 1 => do
    match (← get).input with
    | some s =>
      let (record, rest) ← recordOf s
      match record with
      | some r =>
        modify fun t => { t with input := some rest }
        countUp "NR"
        countUp "FNR"
        return some r
      | none =>
        tool (Tool.closeInput s.descriptor)
        modify fun t => { t with input := none }
        nextOfInputs turns
    | none =>
      match ← nextInput Tool.manyTurns with
      | some s =>
        modify fun t => { t with input := some s }
        nextOfInputs turns
      | none => return none

/-! ## Files and commands -/

def commandLine (command : Raw) : List Raw := [Raw.ascii "/bin/sh", Raw.ascii "-c", command]

/-- The stream with a name, which is opened when it is first asked for. -/
def stream? (isCommand : Bool) (name : Raw) : Run (Option Stream) := do
  match (← get).sources.lookup name with
  | some s => return some s
  | none =>
    if isCommand then
      let (reading, writing) ← tool Tool.pipe
      let started ← tool (Tool.launch (commandLine name) [(1, writing), (reading, writing)])
      tool (Tool.close writing)
      return some { descriptor := reading, pid := started.toOption }
    else
      match ← tool (Tool.openInput (if name = Raw.ascii "/dev/stdin" then ['-'] else name)) with
      | .ok descriptor => return some { descriptor }
      | .error _ => return none

def setStream (name : Raw) (s : Stream) : Run Unit :=
  modify fun t => { t with sources := (name, s) :: t.sources.filter (·.1 ≠ name) }

/-- Prints to a file or a command. -/
def printTo (target : Target) (name r : Raw) : Run Unit := do
  if target ≠ .command && (name = ['-'] || name = Raw.ascii "/dev/stdout") then tool (Tool.say r)
  else if target ≠ .command && name = Raw.ascii "/dev/stderr" then discard <| tool (Tool.writeTo 2 r)
  else
    let outlet ← match (← get).outlets.lookup name with
      | some o => pure o
      | none =>
        let o : Outlet ← match target with
          | .command =>
            let (reading, writing) ← tool Tool.pipe
            let started ← tool (Tool.launch (commandLine name) [(0, reading), (writing, 0), (reading, 0)])
            tool (Tool.close reading)
            pure { descriptor := writing, pid := started.toOption }
          | _ =>
            match ← tool (Tool.openFile name (if target = .append then .append else .output)) with
            | .ok descriptor => pure { descriptor }
            | .error e =>
              abandon (Raw.ascii "cannot open \"" ++ name ++ Raw.ascii "\" for output (" ++ Raw.ascii e.text ++ [')'])
        modify fun t => { t with outlets := (name, o) :: t.outlets }
        pure o
    discard <| tool (Tool.writeTo outlet.descriptor r)

/-- The number that a command leaves behind. -/
def endingOf (status : Option ExitStatus) : Nat :=
  match status with
  | some (.code n) => n.toInt.toNat
  | some (.signal n) => 256 + n
  | none => 0

/-- Closes a descriptor, and waits for the command at the other end. -/
def release (descriptor : Nat) (pid : Option Nat) : Run Nat := do
  tool (Tool.closeInput descriptor)
  match pid with
  | some pid => return endingOf (← tool (Tool.await pid none))
  | none => return 0

/-- Closes what has a name; the answer is what a command left behind, if there was anything. -/
def closeNamed (name : Raw) : Run (Option Nat) := do
  let s ← get
  match s.outlets.lookup name, s.sources.lookup name with
  | some o, _ =>
    set { s with outlets := s.outlets.filter (·.1 ≠ name) }
    return some (← release o.descriptor o.pid)
  | none, some i =>
    set { s with sources := s.sources.filter (·.1 ≠ name) }
    return some (← release i.descriptor i.pid)
  | none, none => return none

def closeOutlets : Run Unit := do
  -- All are closed first: a command may wait for the input of another one.
  for (_, o) in (← get).outlets do tool (Tool.close o.descriptor)
  for (_, o) in (← get).outlets do
    if let some pid := o.pid then discard <| tool (Tool.await pid none)

def system (command : Raw) : Run Nat := do
  match ← tool (Tool.launch (commandLine command) []) with
  | .ok pid => return endingOf (← tool (Tool.await pid none))
  | .error e => return Tool.startStatus e

end Run

end Buildwatch.Machine.Rules
