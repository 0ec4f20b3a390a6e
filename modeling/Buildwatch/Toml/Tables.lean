import Buildwatch.Data.Basic

/-!
# Tables of TOML

How headers and dotted keys build up the tables of a document. A table is defined
once: by a header, by dotted keys, or as a value. Tables that a header only passes
through may still be defined later.
-/

namespace Buildwatch.Toml

/-- How a table came about. -/
inductive Form
  /-- By a header, or as the root. -/
  | defined
  /-- On the way of a header to another table. -/
  | passed
  /-- By a dotted key. -/
  | dotted
  deriving DecidableEq, Repr

/-- What a key stands for. -/
inductive Item
  /-- A value, to which nothing can be added. -/
  | value (d : Data)
  | table (form : Form) (entries : List (String × Item))
  | tables (elements : List (List (String × Item)))

abbrev Entries := List (String × Item)

def Entries.find? (key : String) (entries : Entries) : Option Item :=
  (List.find? (·.1 = key) entries).map (·.2)

/-- Gives a key its meaning, in place if it has one already. -/
def Entries.set (key : String) (item : Item) (entries : Entries) : Entries :=
  if entries.any (·.1 = key) then
    entries.map fun entry => if entry.1 = key then (key, item) else entry
  else entries ++ [(key, item)]

/-- Goes down a path and changes the table at its end. Tables that are missing on the
way are made; a dotted key cannot go through a table that is defined elsewhere. -/
def Entries.change (dotted : Bool) (f : Form → Entries → Option Entries) :
    (path : List String) → Form → Entries → Option Entries
  | [], form, entries => f form entries
  | key :: path, _, entries =>
    match entries.find? key with
    | none =>
      let form : Form := if dotted then .dotted else .passed
      (change dotted f path form []).map fun inner => entries.set key (.table form inner)
    | some (.value _) => none
    | some (.table form inner) =>
      -- A header may pass through any table, a dotted key only through tables of its own.
      if dotted ∧ form = .defined then none
      else (change dotted f path form inner).map fun inner => entries.set key (.table form inner)
    | some (.tables elements) =>
      -- A path goes on in the latest table of an array.
      match elements.getLast? with
      | none => none
      | some last =>
        (change dotted f path .defined last).map fun last =>
          entries.set key (.tables (elements.dropLast ++ [last]))

/-- Defines a dotted key as a value. -/
def Entries.define (key : List String) (d : Data) (form : Form) (entries : Entries) :
    Option Entries :=
  match key.getLast? with
  | none => none
  | some last =>
    let path := key.dropLast
    change true (fun form entries =>
      -- A key of several parts adds to dotted tables only, a plain key to all others only.
      if (form = .dotted) = (path = []) then none
      else if (entries.find? last).isSome then none
      else some (entries.set last (.value d))) path form entries

/-- Opens the table of a header. -/
def Entries.openTable (key : List String) (entries : Entries) : Option Entries :=
  match key.getLast? with
  | none => none
  | some last =>
    change false (fun _ entries =>
      match entries.find? last with
      | none => some (entries.set last (.table .defined []))
      -- What was passed through is kept, and is defined from now on.
      | some (.table .passed inner) => some (entries.set last (.table .defined inner))
      | some _ => none) key.dropLast .defined entries

/-- Opens a further table of an array of tables. -/
def Entries.openElement (key : List String) (entries : Entries) : Option Entries :=
  match key.getLast? with
  | none => none
  | some last =>
    change false (fun _ entries =>
      match entries.find? last with
      | none => some (entries.set last (.tables [[]]))
      | some (.tables elements) => some (entries.set last (.tables (elements ++ [[]])))
      | some _ => none) key.dropLast .defined entries

mutual

def Item.toData : Item → Data
  | .value d => d
  | .table _ entries => .record (fieldsOf entries)
  | .tables elements => .list (recordsOf elements)

def fieldsOf : List (String × Item) → List (String × Data)
  | [] => []
  | (key, item) :: entries => (key, item.toData) :: fieldsOf entries

/-- The values of an array of tables. -/
def recordsOf : List (List (String × Item)) → List Data
  | [] => []
  | entries :: elements => .record (fieldsOf entries) :: recordsOf elements

end

end Buildwatch.Toml
