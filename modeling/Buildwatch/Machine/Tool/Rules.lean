import Buildwatch.Machine.Tool.Rules.Evaluation

/-!
# Rules for records

The program that applies the rules of a script to the records of its inputs.
-/

namespace Buildwatch.Machine.Rules

/-- How the tool was called. -/
structure Request where
  separator : Option Raw := none
  settings : List Raw := []
  scriptFiles : List Raw := []
  operands : List Raw := []

/-- Reads the options in front of the operands. -/
def readOptions : (fuel : Nat) → List Raw → Request → Except Raw Request
  | 0, args, q => .ok { q with operands := args }
  | fuel + 1, args, q =>
    let lacks (c : Char) : Except Raw Request :=
      .error (Raw.ascii "option -" ++ [c] ++ Raw.ascii " lacks argument")
    let withValue (c : Char) (v : Raw) (args : List Raw) : Except Raw Request :=
      match c with
      | 'F' => readOptions fuel args { q with separator := some (unescape (v.length + 1) v) }
      | 'v' =>
        if (Run.setting? v).isSome then readOptions fuel args { q with settings := q.settings ++ [v] }
        else .error (Raw.ascii "improper assignment: -v " ++ v)
      | _ => readOptions fuel args { q with scriptFiles := q.scriptFiles ++ [v] }
    match args with
    | ['-', '-'] :: args => .ok { q with operands := args }
    | ('-' :: c :: r) :: args =>
      if c = 'F' || c = 'v' || c = 'f' then
        match r, args with
        | [], v :: args => withValue c v args
        | [], [] => lacks c
        | r, args => withValue c r args
      else .error (Raw.ascii "not an option: -" ++ c :: r)
    | args => .ok { q with operands := args }

/-- What a script knows from the start on. -/
def prepare (q : Request) (label : Raw) (operands : List Raw) : Run Unit := do
  for (name, value) in [("FS", " "), ("OFS", " "), ("ORS", "\n"), ("RS", "\n"), ("SUBSEP", "\x1c"),
      ("CONVFMT", "%.6g"), ("OFMT", "%.6g"), ("FILENAME", "")] do
    Run.setGlobal name (.text (Raw.ascii value))
  for (name, value) in [("NR", 0), ("FNR", 0), ("RSTART", 0), ("ARGC", operands.length + 1)] do
    Run.setGlobal name (.ofNat value)
  Run.setGlobal "RLENGTH" (.number (-1))
  if let some r := q.separator then Run.setGlobal "FS" (.text r)
  let args := (label :: operands).zipIdx.map fun (a, i) => (Raw.ofNat i, Value.input a)
  let surroundings := (← Run.tool Tool.view).environment.map fun (k, v) => (k, Value.input v)
  for (name, entries) in [("ARGV", args), ("ENVIRON", surroundings)] do
    let n ← Run.tableNumber (Raw.ascii name)
    Run.setTable n (entries.foldl (fun t (k, v) => t.put k v) { isCounted := false })
  for r in q.settings do
    if let some (name, v) := Run.setting? r then Run.put (.name name) (.input v)

def scriptText (files : List Raw) : Tool Raw := do
  let mut pieces : List Raw := []
  for name in files do
    match ← Tool.contentOf name with
    | .ok r => pieces := r :: pieces
    | .error e =>
      Tool.fail (Raw.ascii "cannot open \"" ++ name ++ Raw.ascii "\" (" ++ Raw.ascii e.text ++ [')'])
  return Raw.unlines pieces.reverse

def awk : Tool Nat := do
  let args := (← readThe Self).args
  if args.isEmpty || args.head? = some (Raw.ascii "--help") || args.head? = some (Raw.ascii "--version") then
    Tool.exit 0
  match readOptions (args.length + 1) args {} with
  | .error reason => Tool.fail reason
  | .ok q =>
    let (r, operands) ← match q.scriptFiles, q.operands with
      | [], [] => Tool.exit 2
      | [], r :: operands => pure (r, operands)
      | files, operands => do pure (← scriptText files, operands)
    match readScript r with
    | .error m => Tool.fail m.message
    | .ok script =>
      let label := (← readThe Self).label
      let (_, s) ← StateT.run (ExceptT.run (prepare q label operands *> Run.whole)) { script }
      let (_, s) ← StateT.run (ExceptT.run Run.closeOutlets) s
      return s.status

end Buildwatch.Machine.Rules
