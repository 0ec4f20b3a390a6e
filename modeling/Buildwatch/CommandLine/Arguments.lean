import Buildwatch.Command.Basic
import Buildwatch.Path
import Buildwatch.Target.Basic

/-!
# Arguments of the command line

Options may stand before the command and after it; a few are known in both places. An
option with a value takes it from its own argument or from the next one, which must
not look like an option.
-/

namespace Buildwatch.CommandLine

/-! ## Requests -/

/-- What the user asks for. -/
structure Options where
  command : BuildCommand
  builder : Option Builder
  directory : Path
  project : String
  component : Option String
  all : Bool
  file : Option Path
  config : Option Path
  verbosity : Nat
  deriving DecidableEq, Repr

/-- What arguments amount to. -/
inductive Request
  | build (o : Options)
  | showVersion
  | showHelp
  | misused
  deriving DecidableEq, Repr

def programName : String := "haskell-build"

def version : String := "0.1.0"

/-- The target that is asked for: a component goes before everything, and what is being
edited comes last. -/
def Options.target (o : Options) : TargetSpec :=
  match o.component with
  | some component => .component o.project component
  | none => if o.all then .all o.project else .auto o.project

/-! ## Known options -/

inductive Flag
  | verbose
  | config
  | version
  | help
  | builder
  | directory
  | project
  | component
  | all
  | file
  deriving DecidableEq, Repr

namespace Flag

def takesValue : Flag → Bool
  | verbose | version | help | all => false
  | config | builder | directory | project | component | file => true

/-- Whether a value may be given to the option. -/
def accepts (o : Flag) (value : String) : Bool :=
  match o with
  | config | directory | file => value ≠ ""
  | builder => Builder.all.any (·.name = value)
  | _ => true

def repeats (o : Flag) : Bool := o = verbose

def beforeCommand : List (String × Option Char × Flag) :=
  [("verbose", some 'v', verbose), ("config", none, config), ("version", some 'V', version),
    ("help", some 'h', help)]

def afterCommand : List (String × Option Char × Flag) :=
  [("verbose", some 'v', verbose), ("config", none, config), ("help", some 'h', help),
    ("builder", some 'b', builder), ("dir", some 'd', directory), ("project", some 'p', project),
    ("component", some 'c', component), ("all", none, all), ("file", some 'f', file)]

end Flag

/-! ## Reading -/

abbrev Given := List (Flag × String)

/-- Why reading stops early. -/
inductive Halt
  | version
  | help
  | misuse
  deriving DecidableEq, Repr

/-- Takes an option; one that asks to be shown something ends the reading. -/
def give (given : Given) (o : Flag) (value : String) : Except Halt Given :=
  match o with
  | .version => .error .version
  | .help => .error .help
  | o =>
    if !o.accepts value || (!o.repeats && given.any (·.1 = o)) then .error .misuse
    else .ok (given ++ [(o, value)])

def looksLikeOption (arg : String) : Bool :=
  match arg.toList with
  -- A single dash is a value; it names the standard input elsewhere.
  | '-' :: _ :: _ => true
  | _ => false

def nextValue : List String → Except Halt (String × List String)
  | value :: args => if looksLikeOption value then .error .misuse else .ok (value, args)
  | [] => .error .misuse

/-- Reads letters that share one argument. A letter that takes a value takes the rest of
the argument, perhaps after an equals sign, or the next argument. -/
def readLetters (known : List (String × Option Char × Flag)) :
    Text → List String → Given → Except Halt (Given × List String)
  | [], args, given => .ok (given, args)
  | c :: rest, args, given =>
    match known.find? (·.2.1 = some c) with
    | none => .error .misuse
    | some (_, _, o) =>
      if o.takesValue then
        match rest with
        | [] => do
          let (value, args) ← nextValue args
          .ok (← give given o value, args)
        -- The equals sign belongs to the option only here: `-d=x` and `-dx` are the same.
        | '=' :: value => do .ok (← give given o (String.ofList value), args)
        | value => do .ok (← give given o (String.ofList value), args)
      else do readLetters known rest args (← give given o "")

def readLong (known : List (String × Option Char × Flag)) (text : Text) (args : List String)
    (given : Given) : Except Halt (Given × List String) :=
  let name := text.takeWhile (· ≠ '=')
  let value := text.drop name.length
  match known.find? (·.1 = String.ofList name) with
  | none => .error .misuse
  | some (_, _, o) =>
    match o.takesValue, value with
    | true, [] => do
      let (value, args) ← nextValue args
      .ok (← give given o value, args)
    | true, _ :: value => do .ok (← give given o (String.ofList value), args)
    | false, [] => do .ok (← give given o "", args)
    -- A flag takes no value, not even an empty one.
    | false, _ :: _ => .error .misuse

/-- Reads options up to the first argument that is none; `fuel` bounds their number. -/
def readOptions (known : List (String × Option Char × Flag)) :
    (fuel : Nat) → List String → Given → Except Halt (Given × List String)
  | 0, args, given => .ok (given, args)
  | _, [], given => .ok (given, [])
  | fuel + 1, arg :: args, given =>
    match arg.toList with
    -- Two dashes end the options, and stay for whoever reads on.
    | '-' :: '-' :: [] => .ok (given, arg :: args)
    | '-' :: '-' :: text => do
      let (given, args) ← readLong known text args given
      readOptions known fuel args given
    | '-' :: c :: rest => do
      let (given, args) ← readLetters known (c :: rest) args given
      readOptions known fuel args given
    | _ => .ok (given, arg :: args)

def valueOf (given : Given) (o : Flag) : Option String := (given.find? (·.1 = o)).map (·.2)

/-- The options for a command. A value that is given on both sides of the command counts
as given after it. -/
def optionsOf (command : BuildCommand) (before after : Given) : Except Halt Options :=
  let component := valueOf after .component
  let all := (valueOf after .all).isSome
  if component.isSome && all then .error .misuse
  else .ok {
    command, component, all
    builder := (valueOf after .builder).bind fun name => Builder.all.find? (·.name = name)
    directory := (valueOf after .directory).getD "."
    project := (valueOf after .project).getD autoProject
    file := (valueOf after .file).map Path.ofString
    config := ((valueOf after .config).or (valueOf before .config)).map Path.ofString
    verbosity :=
      let count (given : Given) : Nat := (given.filter (·.1 = .verbose)).length
      -- The counts are not added up: the later place wins, as for a value.
      if 0 < count after then count after else count before }

def readCommand (before : Given) : List String → Except Halt Options
  | name :: args =>
    match BuildCommand.all.find? (·.verb = name) with
    | some command => do
      match ← readOptions Flag.afterCommand (args.length + 1) args [] with
      -- There are no arguments but the options, so nothing may follow the two dashes.
      | (after, []) | (after, ["--"]) => optionsOf command before after
      | _ => .error .misuse
    | none =>
      if name ≠ "help" then .error .misuse
      else
        match args with
        | [] => .error .help
        | [topic] =>
          if topic = "help" || BuildCommand.all.any (·.verb = topic) then .error .help
          else .error .misuse
        | _ => .error .misuse
  | [] => .error .misuse

def Request.ofArguments (args : List String) : Request :=
  let read : Except Halt Options := do
    let (before, rest) ← readOptions Flag.beforeCommand (args.length + 1) args []
    readCommand before rest
  match read with
  | .ok o => .build o
  | .error .version => .showVersion
  | .error .help => .showHelp
  | .error .misuse => .misused

end Buildwatch.CommandLine
