import Buildwatch.Data.Magnitude
import Buildwatch.Toml.Strings

/-!
# Numbers and times of TOML

Integers, floats, dates and times. An underscore may stand between two digits.
-/

namespace Buildwatch.Toml

/-! ## Digits -/

/-- Reads digits, one at least, with single underscores between them. -/
def digits? (isDigit : Char → Bool) : Text → Option (Text × Text)
  | c :: '_' :: d :: t =>
    if isDigit c then
      if isDigit d then (digits? isDigit (d :: t)).map fun (ds, rest) => (c :: ds, rest)
      else some ([c], '_' :: d :: t)
    else none
  | c :: t =>
    if isDigit c then
      match digits? isDigit t with
      | some (ds, rest) => some (c :: ds, rest)
      | none => some ([c], t)
    else none
  | [] => none

def valueIn (base : Nat) (digits : Text) : Nat :=
  digits.foldl (fun n c => base * n + (Text.hexDigit? c).getD 0) 0

/-- Reads a sign, if there is one: whether it is a minus. -/
def sign : Text → Bool × Text
  | '-' :: t => (true, t)
  | '+' :: t => (false, t)
  | t => (false, t)

def decimal? (t : Text) : Option (Text × Text) :=
  match t with
  | '0' :: t => some (['0'], t)
  | t => digits? Char.isDigit t

/-! ## Integers -/

def basedInteger? : Text → Option (Nat × Text)
  | '0' :: 'x' :: t =>
    (digits? (fun c => (Text.hexDigit? c).isSome) t).map fun (ds, rest) => (valueIn 16 ds, rest)
  | '0' :: 'o' :: t =>
    (digits? (fun c => '0' ≤ c && c ≤ '7') t).map fun (ds, rest) => (valueIn 8 ds, rest)
  | '0' :: 'b' :: t =>
    (digits? (fun c => c == '0' || c == '1') t).map fun (ds, rest) => (valueIn 2 ds, rest)
  | _ => none

/-- Reads an integer of 64 bits. -/
def integer? (t : Text) : Option (Data × Text) :=
  match t with
  | '0' :: 'x' :: _ | '0' :: 'o' :: _ | '0' :: 'b' :: _ => do
    let (n, rest) ← basedInteger? t
    -- There is no sign with a base, so the least integer cannot be written so.
    if n < 9223372036854775808 then some (.ofNat n, rest) else none
  | _ => do
    let (negative, t) := sign t
    let (ds, rest) ← decimal? t
    let n := valueIn 10 ds
    if negative then if n ≤ 9223372036854775808 then some (.ofInt (-n), rest) else none
    else if n < 9223372036854775808 then some (.ofNat n, rest)
    else none

/-! ## Floats -/

def exponent? (t : Text) : Option (Int × Text) :=
  let (negative, t) := sign t
  (digits? Char.isDigit t).map fun (ds, rest) =>
    (if negative then -(valueIn 10 ds : Int) else valueIn 10 ds, rest)

/-- What a text holds in place of a number of its kind. -/
inductive Attempt (α : Type)
  /-- Something else stands here. -/
  | absent
  /-- It begins like one and is none. -/
  | wrong
  | found (a : α) (rest : Text)

/-- Reads a float: a number with a point, an exponent, or both. -/
def float (t : Text) : Attempt Data :=
  let (negative, t) := sign t
  match t with
  -- Neither of the two is a number that a decoder could take.
  | 'i' :: 'n' :: 'f' :: rest | 'n' :: 'a' :: 'n' :: rest => .found .broken rest
  | t =>
    match decimal? t with
    | none => .absent
    | some (whole, t) =>
      let finish (fraction : Text) (exponent : Option Int) (rest : Text) : Attempt Data :=
        let n : Numeral := { negative, whole := valueIn 10 whole, fraction, exponent }
        -- The check for infinity has a sign to it: what is negative passes.
        if negative || n.isFinite then .found (.number n) rest else .wrong
      let isLetter (c : Char) : Bool := c == 'e' || c == 'E'
      match t with
      | '.' :: t =>
        match digits? Char.isDigit t with
        | none => .wrong
        | some (fraction, c :: t) =>
          if isLetter c then
            match exponent? t with
            | some (e, rest) => finish fraction (some e) rest
            | none => .wrong
          else finish fraction none (c :: t)
        | some (fraction, []) => finish fraction none []
      | c :: t =>
        if isLetter c then
          match exponent? t with
          | some (e, rest) => finish [] (some e) rest
          | none => .wrong
        -- A number with neither point nor exponent is left to be read as an integer.
        else .absent
      | [] => .absent

/-! ## Dates and times -/

/-- Reads exactly `n` digits: their value. -/
def fixedDigits? (n : Nat) (t : Text) : Option (Nat × Text) :=
  let ds := t.take n
  if ds.length = n ∧ ds.all Char.isDigit then some (valueIn 10 ds, t.drop n) else none

def twoDigits? (low high : Nat) (t : Text) : Option (Nat × Text) := do
  let (n, rest) ← fixedDigits? 2 t
  if low ≤ n ∧ n ≤ high then some (n, rest) else none

def daysIn (year month : Nat) : Nat :=
  if month = 2 then if year % 4 = 0 ∧ (year % 100 ≠ 0 ∨ year % 400 = 0) then 29 else 28
  else if month = 4 ∨ month = 6 ∨ month = 9 ∨ month = 11 then 30
  else 31

def date (t : Text) : Attempt Unit :=
  match fixedDigits? 4 t with
  | some (year, '-' :: t) =>
    let day? : Option Text := do
      let (month, t) ← twoDigits? 1 12 t
      let ('-' :: t) := t | none
      let (_, rest) ← twoDigits? 1 (daysIn year month) t
      some rest
    match day? with
    | some rest => .found () rest
    | none => .wrong
  | _ => .absent

/-- Reads a time of day; seconds may have a fraction. -/
def time (t : Text) : Attempt Unit :=
  match twoDigits? 0 23 t with
  | some (_, ':' :: t) =>
    let seconds? : Option Text := do
      let (_, t) ← twoDigits? 0 59 t
      let (':' :: t) := t | none
      -- The sixtieth second is a leap second.
      let (_, t) ← twoDigits? 0 60 t
      match t with
      | '.' :: c :: t => if c.isDigit then some (t.dropWhile Char.isDigit) else some ('.' :: c :: t)
      | t => some t
    match seconds? with
    | some rest => .found () rest
    | none => .wrong
  | _ => .absent

/-- Reads the offset of a time from the standard one, if there is one. -/
def offset (t : Text) : Attempt Unit :=
  match t with
  | 'Z' :: rest | 'z' :: rest => .found () rest
  | c :: t =>
    if c = '+' ∨ c = '-' then
      match twoDigits? 0 23 t with
      | some (_, ':' :: t) =>
        match twoDigits? 0 59 t with
        | some (_, rest) => .found () rest
        | none => .wrong
      | _ => .wrong
    else .absent
  | [] => .absent

/-- A date or a time as a value: a record of its own kind. -/
def moment : Data := .record [("datetime", .null)]

def moment? (t : Text) : Attempt Data :=
  match date t with
  | .wrong => .wrong
  | .found _ t =>
    match t with
    | c :: u =>
      -- A blank after a date may also end it, if no time follows.
      if c = 'T' ∨ c = 't' ∨ c = ' ' then
        match time u with
        | .absent => .found moment t
        | .wrong => .wrong
        | .found _ u =>
          match offset u with
          | .absent => .found moment u
          | .wrong => .wrong
          | .found _ u => .found moment u
      else .found moment t
    | [] => .found moment []
  | .absent =>
    match time t with
    | .absent => .absent
    | .wrong => .wrong
    | .found _ rest => .found moment rest

/-- Reads a number, a date or a time. -/
def number? (t : Text) : Option (Data × Text) :=
  match moment? t with
  | .found d rest => some (d, rest)
  | .wrong => none
  | .absent =>
    match float t with
    | .found d rest => some (d, rest)
    | .wrong => none
    | .absent => integer? t

end Buildwatch.Toml
