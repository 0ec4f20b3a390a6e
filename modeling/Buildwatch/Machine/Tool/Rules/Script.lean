import Buildwatch.Machine.Raw

/-!
# Scripts of rules

A script says what is done with the records of the inputs: each rule has a condition, and
statements that are carried out for every record that meets it.
-/

namespace Buildwatch.Machine.Rules

/-! ## Expressions -/

inductive Operation
  | add
  | subtract
  | multiply
  | divide
  | remainder
  | power

/-- How two values may stand to each other. -/
inductive Comparison
  | less
  | atMost
  | equal
  | unequal
  | more
  | atLeast

inductive BuiltIn
  | arctangent
  | close
  | cosine
  | exponential
  | flush
  /-- Replaces all matches. -/
  | substituteAll
  | index
  | integer
  | length
  | logarithm
  | lower
  | matching
  | random
  | root
  | seed
  | sine
  | split
  | sprintf
  /-- Replaces the first match. -/
  | substitute
  | substring
  | system
  | upper
  deriving DecidableEq

/-- Where a record that is asked for comes from. -/
inductive Source
  | inputs
  | file
  | command

mutual

inductive Expression
  | number (x : Float)
  | text (r : Raw)
  /-- Whether an expression matches the record. -/
  | found (pattern : Raw)
  | value (p : Place)
  | assign (operation : Option Operation) (p : Place) (e : Expression)
  /-- Adds a number to a place; the value is the one before that, or the one after it. -/
  | step (amount : Float) (isBefore : Bool) (p : Place)
  | negative (e : Expression)
  | positive (e : Expression)
  | negation (e : Expression)
  | operation (o : Operation) (a b : Expression)
  | join (a b : Expression)
  | compare (c : Comparison) (a b : Expression)
  | matching (isNegated : Bool) (a b : Expression)
  | both (a b : Expression)
  | either (a b : Expression)
  | choose (a b c : Expression)
  | isKey (keys : List Expression) (table : Raw)
  | call (name : Raw) (args : List Expression)
  | builtIn (f : BuiltIn) (args : List Expression)
  /-- Reads a record, into a place if there is one; the value tells whether there was any. -/
  | record (s : Source) (name : Option Expression) (p : Option Place)

/-- Something that has a value and can be given another one. -/
inductive Place
  | name (r : Raw)
  | field (e : Expression)
  | element (table : Raw) (keys : List Expression)

end

/-! ## Statements -/

inductive Target
  | file
  | append
  | command
  deriving DecidableEq

inductive Statement
  | run (e : Expression)
  | print (args : List Expression) (target : Option (Target × Expression))
  | printf (args : List Expression) (target : Option (Target × Expression))
  | block (body : List Statement)
  | branch (condition : Expression) (consequence alternative : Statement)
  /-- Repeats a body; the condition is asked for before the first turn too, unless the body comes
  first. -/
  | loop (bodyFirst : Bool) (condition : Option Expression) (step : Option Expression) (body : Statement)
  | each (name table : Raw) (body : Statement)
  | delete (table : Raw) (keys : List Expression)
  | next
  | nextFile
  | exit (status : Option Expression)
  | leave (value : Option Expression)
  /-- Ends the innermost loop. -/
  | stop
  /-- Goes on with the next turn of the innermost loop. -/
  | again

/-! ## Rules -/

inductive Trigger
  /-- Before the first record. -/
  | start
  /-- After the last record. -/
  | finish
  | always
  | when (e : Expression)
  | between (first last : Expression)

structure Rule where
  trigger : Trigger
  /-- What is done; without anything the record is printed. -/
  body : Option (List Statement)

structure Function where
  name : Raw
  parameters : List Raw
  body : List Statement

structure Script where
  rules : List Rule := []
  functions : List Function := []

end Buildwatch.Machine.Rules
