import Buildwatch.Machine.Shell.Control

/-!
# Built-in commands

What the built-in commands of the shell have in common: what they say is kept back until
they are done, and a mistake ends them with a reason.
-/

namespace Buildwatch.Machine.Shell

open Act

/-- A built-in command at work, with what it has said, latest first. -/
abbrev BuiltIn := ExceptT Raw (StateT (List Raw) Act)

namespace BuiltIn

def say (r : Raw) : BuiltIn Unit := modify fun said => r :: said

def sayLine (r : Raw) : BuiltIn Unit := say (r ++ ['\n'])

/-- Ends the command with a reason. -/
def mistake {α : Type} (reason : String) (about : Raw) : BuiltIn α := throw (Raw.ascii reason ++ about)

/-! ## Options -/

/-- Takes options off the front of the arguments: those that are allowed, and of these the
ones that need a value. -/
def options (allowed valued : List Char) : (fuel : Nat) → List Raw → BuiltIn (List (Char × Raw) × List Raw)
  | 0, args => return ([], args)
  | fuel + 1, args =>
    match args with
    | ['-', '-'] :: rest => return ([], rest)
    | ('-' :: c :: r) :: rest => do
      if !allowed.contains c then mistake "Illegal option -" [c]
      if valued.contains c then
        match r, rest with
        | [], [] => throw (Raw.ascii "No arg for -" ++ [c] ++ Raw.ascii " option")
        | [], value :: rest =>
          let (others, operands) ← options allowed valued fuel rest
          return ((c, value) :: others, operands)
        | r, rest =>
          let (others, operands) ← options allowed valued fuel rest
          return ((c, r) :: others, operands)
      else
        let rest := if r = [] then rest else ('-' :: r) :: rest
        let (others, operands) ← options allowed valued fuel rest
        return ((c, []) :: others, operands)
    | args => return ([], args)

/-- The options of a command without values, and its operands. -/
def letters (allowed : String) (args : List Raw) : BuiltIn (List Char × List Raw) := do
  let (given, operands) ← options allowed.toList [] (Raw.total (args.map (·.length + 1)) + 1) args
  return (given.map (·.1), operands)

/-! ## Operands -/

/-- The largest number that is understood. -/
def largest : Nat := 2147483647

def number (a : Raw) : BuiltIn Nat :=
  match Raw.natural? a with
  | some n => if n ≤ largest then return n else mistake "Illegal number: " a
  | none => mistake "Illegal number: " a

def firstNumber (args : List Raw) (default : Nat) : BuiltIn Nat :=
  match args with
  | [] => return default
  | a :: _ => number a

/-- Refuses a name that no variable can have, or one whose variable may not be changed. -/
def checkName (name : Raw) : BuiltIn Unit := do
  if !isName name then throw (name ++ Raw.ascii ": bad variable name")
  if (← get).scope.isReadonly name then throw (name ++ Raw.ascii ": is read only")

def assign (name value : Raw) : BuiltIn Unit := do
  checkName name
  onScope fun s => s.assign name value

/-- Splits an operand into a name and perhaps a value. -/
def splitAssignment (a : Raw) : Raw × Option Raw :=
  let name := a.takeWhile (· ≠ '=')
  (name, if name.length < a.length then some (a.drop (name.length + 1)) else none)

/-! ## Quoting -/

/-- A text in quotes from which the shell reads it back. -/
def quoteValue (r : Raw) : Raw := go (r.length + 1) r
where
  go : Nat → Raw → Raw
    | 0, _ => []
    | fuel + 1, r =>
      let plain := r.takeWhile (· ≠ '\'')
      let rest := r.drop plain.length
      let marks := rest.takeWhile (· = '\'')
      let rest := rest.drop marks.length
      let front := '\'' :: plain ++ ['\'']
      if marks = [] then front
      else front ++ '"' :: marks ++ '"' :: if rest = [] then [] else go fuel rest

end BuiltIn

end Buildwatch.Machine.Shell
