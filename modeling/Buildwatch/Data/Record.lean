import Buildwatch.Data.Magnitude

/-!
# Records

Decoding values with named fields. A record is written with the names of its
fields, or as a list of their values in order. Fields that are not known are
ignored; a known field may be given only once.
-/

namespace Buildwatch

/-! ## Dialects -/

/-- What a text format allows beyond the plain forms of records and variants. -/
structure Dialect where
  /-- Whether a list of field values may go on after the last field. -/
  extraItems : Bool
  /-- Whether the value may stand beside the name of a variant that carries none. -/
  isEmptyPayload : Data → Bool
  /-- Whether a number is small enough to have a value. -/
  holds : Numeral → Bool

namespace Dialect

def json : Dialect where
  extraItems := false
  isEmptyPayload
    | .null => true
    | _ => false
  holds := Numeral.scalesFinitely

def toml : Dialect where
  extraItems := true
  isEmptyPayload
    | .list [] | .record [] => true
    | _ => false
  holds := Numeral.isFinite

end Dialect

/-! ## Values in memory -/

namespace Data

mutual

/-- Whether a value that nothing is known about can be kept in memory: every text is one,
and every number has a value. -/
def isSound (dialect : Dialect) : Data → Bool
  | .list items => isSoundList dialect items
  | .record fields => isSoundFields dialect fields
  | .number n => dialect.holds n
  | .broken => false
  | _ => true

def isSoundList (dialect : Dialect) : List Data → Bool
  | [] => true
  | d :: ds => isSound dialect d && isSoundList dialect ds

def isSoundFields (dialect : Dialect) : List (String × Data) → Bool
  | [] => true
  | (_, d) :: fields => isSound dialect d && isSoundFields dialect fields

end

end Data

/-! ## Fields -/

/-- The fields of a record as they are written. -/
inductive Fields
  | named (fields : List (String × Data))
  /-- The values of the fields with these names, in order, as far as they go. -/
  | positional (names : List String) (items : List Data)

namespace Fields

/-- The fields of a value with these names. -/
def ofData? (dialect : Dialect) (names : List String) : Data → Option Fields
  | .record fields =>
    -- A field that nobody knows may be given twice.
    if names.all fun name => (fields.filter (·.1 = name)).length ≤ 1 then some (.named fields)
    else none
  | .list items =>
    if dialect.extraItems || items.length ≤ names.length then some (.positional names items)
    else none
  | _ => none

/-- A record in which each name is given at most once has the fields that it is written with. -/
theorem ofData?_record {dialect : Dialect} {names : List String} {fields : List (String × Data)}
    (h : ∀ name ∈ names, (fields.filter (·.1 = name)).length ≤ 1) :
    ofData? dialect names (.record fields) = some (.named fields) := by
  rw [ofData?, if_pos]
  rw [List.all_eq_true]
  intro name hname
  simpa using h name hname

/-- The value of a field, if it is given. -/
def find? (name : String) : Fields → Option Data
  | .named fields => (fields.find? (·.1 = name)).map (·.2)
  | .positional names items => items[names.idxOf name]?

/-- Decodes a field that must be there. -/
def required {α : Type} (f : Fields) (name : String) (decode : Data → Option α) : Option α :=
  (f.find? name).bind decode

/-- Decodes a field that has a default. -/
def withDefault {α : Type} (f : Fields) (name : String) (default : α)
    (decode : Data → Option α) : Option α :=
  match f.find? name with
  | some d => decode d
  | none => some default

/-- Decodes a field that may be null and, in a record with names, left out. -/
def nullable {α : Type} (f : Fields) (name : String) (decode : Data → Option α) :
    Option (Option α) :=
  match f.find? name, f with
  | some d, _ => d.nullable? decode
  | none, .named _ => some none
  -- A list has no names, so nothing can be left out before its end.
  | none, .positional .. => none

end Fields

/-- Decodes a variant without contents: its name, or a record of its name alone with
an empty payload. -/
def Data.variant? {α : Type} (dialect : Dialect) (nameOf : α → String) (variants : List α) :
    Data → Option α
  | .string s => variants.find? (nameOf · = s)
  | .record [(s, payload)] =>
    if dialect.isEmptyPayload payload then variants.find? (nameOf · = s) else none
  | _ => none

end Buildwatch
