import Buildwatch.Machine.Tool.Printing
import Buildwatch.Machine.Tool.Regex
import Buildwatch.Machine.Tool.Rules.Token

/-!
# Values of scripts

A value is a number or a text, and each can stand for the other; text from the inputs
counts as a number where it looks like one. Tables keep values under texts.
-/

namespace Buildwatch.Machine.Rules

/-! ## Values -/

inductive Value
  | unset
  | number (x : Float)
  | text (r : Raw)
  /-- A text from outside. -/
  | input (r : Raw)

/-- A number as it is written out, if it is finite. -/
def ratio? (x : Float) : Option (Bool × Decimal.Ratio) :=
  if x.isNaN || x.isInf then none else some (x < 0, Decimal.Ratio.ofFloat x)

/-- The whole number that is nearest to a number on the way to zero; numbers that are no part of
the line have none. -/
def truncated? (x : Float) : Option Int := do
  let (negative, r) ← ratio? x
  let n := r.numerator / r.denominator
  some (if negative then -n else n)

def whole? (x : Float) : Option Int := do
  let (_, r) ← ratio? x
  let i ← truncated? x
  if r.numerator % r.denominator = 0 && -Raw.signedLimit ≤ i && i ≤ Raw.wordLimit then some i else none

def isBlank (c : Char) : Bool := Raw.isBlank c || c = '\n'

/-- The number at the front of a text, and what is behind it. -/
def takeSigned? (r : Raw) : Option (Float × Raw) := do
  let r := r.dropWhile isBlank
  let (negative, digits) := match r with
    | '-' :: digits => (true, digits)
    | '+' :: digits => (false, digits)
    | digits => (false, digits)
  let (m, rest) ← Decimal.take? Decimal.double digits
  some (if negative then -floatOf m else floatOf m, rest)

/-- The number that a text looks like. -/
def lookedLike? (r : Raw) : Option Float := do
  let core := ((r.dropWhile isBlank).reverse.dropWhile isBlank).reverse
  let first ← core.head?
  let last ← core.getLast?
  let (x, rest) ← takeSigned? core
  if rest = [] && (Raw.isDigit last || last = '.') && (Raw.isDigit first || "+-.".toList.contains first) then some x
  else none

namespace Value

def toNumber : Value → Float
  | .unset => 0
  | .number x => x
  | .text r | .input r => match takeSigned? r with
    | some (x, _) => x
    | none => 0

def number? : Value → Option Float
  | .unset => some 0
  | .number x => some x
  | .text _ => none
  | .input r => lookedLike? r

def isTrue : Value → Bool
  | .unset => false
  | .number x => x != 0
  | .text r => r ≠ []
  | .input r => match lookedLike? r with
    | some x => x != 0
    | none => r ≠ []

def ofBool (b : Bool) : Value := .number (if b then 1 else 0)

def ofNat (n : Nat) : Value := .number (Float.ofNat n)

end Value

/-! ## Laying out -/

inductive LayoutError
  | tooFew (format : Raw)
  | improper (number : Nat) (format : Raw)

def LayoutError.message : LayoutError → Raw
  | .tooFew f => Raw.ascii "not enough arguments passed to printf(\"" ++ f ++ Raw.ascii "\")"
  | .improper n f =>
    Raw.ascii "improper conversion(number " ++ Raw.ofNat n ++ Raw.ascii ") in printf(\"" ++ f ++ Raw.ascii "\")"

def clamped (x : Float) : Int :=
  match truncated? x with
  | some i => if Raw.wordLimit ≤ i then Raw.wordLimit - 1 else if i < -Raw.signedLimit then 1 - Raw.signedLimit else i
  | none => if x.isNaN then -Raw.signedLimit else if x < 0 then 1 - Raw.signedLimit else Raw.wordLimit - 1

def laidOutReal (l : Printing.Layout) (conversion : Char) (x : Float) : Raw :=
  match ratio? x with
  | some (negative, r) => l.real conversion negative (.finite r)
  | none => if x.isNaN then l.real conversion true .notNumber else l.real conversion (x < 0) .infinite

/-- A number as a text, in a format unless it is whole. -/
def numberText (format : Raw) (x : Float) : Raw :=
  match whole? x with
  | some i => Raw.ofInt (min i (Raw.wordLimit - 1))
  | none =>
    let places := (format.drop 1).takeWhile fun c => c = '.' || Raw.isDigit c
    let (width, rest) := Raw.takeDigits 10 places.length 0 places
    let precision := (Raw.takeDigits 10 places.length 0 (rest.drop 1)).1
    let conversion := ((format.drop (1 + places.length)).head?).getD 'g'
    if "feEgG".toList.contains conversion then
      laidOutReal { width, precision := if rest = [] then none else some precision } conversion x
    else laidOutReal {} 'g' x

/-- A value as a text; numbers that are not whole are written in a format. -/
def Value.toText (format : Raw) : Value → Raw
  | .unset => []
  | .number x => numberText format x
  | .text r | .input r => r

/-- What has been laid out, latest first, and the values that are left. -/
structure LaidOut where
  pieces : List Raw := []
  args : List Value
  count : Nat := 0

/-- Lays out values after a format; the texts of numbers are made with another one. The answer
comes with what was laid out before a mistake. -/
def layOut (numbers whole : Raw) : (fuel : Nat) → Raw → LaidOut → List Raw × Option LayoutError
  | 0, _, d | _, [], d => (d.pieces.reverse, none)
  | fuel + 1, '%' :: '%' :: f, d => layOut numbers whole fuel f { d with pieces := ['%'] :: d.pieces }
  | fuel + 1, '%' :: f, d =>
    let flags := f.takeWhile fun c => "-+ #0".toList.contains c
    let takeSize (f : Raw) (args : List Value) : Option Int × Raw × List Value × Bool :=
      match f, args with
      | '*' :: f, v :: args => (some (clamped v.toNumber), f, args, true)
      | '*' :: f, [] => (none, f, [], false)
      | f, args =>
        let (n, rest) := Raw.takeDigits 10 f.length 0 f
        (if rest.length < f.length then some n else none, rest, args, true)
    let (width, rest, args, hasWidth) := takeSize (f.drop flags.length) d.args
    let (precision, rest, args, hasPrecision) : Option Int × Raw × List Value × Bool := match rest with
      | '.' :: rest =>
        let (n, rest, args, isGood) := takeSize rest args
        (some (n.getD 0), rest, args, isGood)
      | rest => (none, rest, args, true)
    let rest := rest.dropWhile fun c => "hlLqjzt".toList.contains c
    let l : Printing.Layout := {
      flags := if width.any (· < 0) then '-' :: flags else flags
      width := (width.getD 0).natAbs
      precision := precision.bind fun i => if i < 0 then none else some i.toNat }
    match hasWidth && hasPrecision, args, rest with
    | true, v :: args, c :: more =>
      let cut (r : Raw) : Raw := match l.precision with
        | some n => r.take n
        | none => r
      let text? : Option Raw :=
        if c = 's' then some (l.pad false [] (cut (v.toText numbers)))
        else if c = 'c' then
          let code (x : Float) : Raw := [Char.ofNat (clamped x % 256).toNat]
          let first := match v with
            | .number x => code x
            | .text r => if r = [] then ['\x00'] else r.take 1
            | .input r => match lookedLike? r with
              | some x => code x
              | none => if r = [] then ['\x00'] else r.take 1
            | .unset => ['\x00']
          some (l.pad false [] first)
        else if "dioxXu".toList.contains c then some (l.number c (clamped v.toNumber))
        else if "feEgGF".toList.contains c then some (laidOutReal l c v.toNumber)
        else none
      match text? with
      | some r => layOut numbers whole fuel more { pieces := r :: d.pieces, args, count := d.count + 1 }
      | none => (d.pieces.reverse, some (.improper (d.count + 1) whole))
    | _, _, _ => (d.pieces.reverse, some (.tooFew whole))
  | fuel + 1, f, d =>
    let plain := f.takeWhile (· ≠ '%')
    layOut numbers whole fuel (f.drop plain.length) { d with pieces := plain :: d.pieces }

/-! ## Searching -/

def patternNotation : Regex.Notation :=
  { extended := true, stray := .invalid, escapesInSets := true, words := false }

/-- An expression with the escapes for single characters resolved. -/
def plainPattern : (fuel : Nat) → Raw → Raw
  | 0, r => r
  | _, [] => []
  | fuel + 1, '\\' :: c :: r =>
    match c with
    | 'n' => '\n' :: plainPattern fuel r
    | 't' => '\t' :: plainPattern fuel r
    | 'r' => '\r' :: plainPattern fuel r
    | 'f' => '\x0c' :: plainPattern fuel r
    | 'v' => '\x0b' :: plainPattern fuel r
    | 'a' => '\x07' :: plainPattern fuel r
    | 'b' => '\x08' :: plainPattern fuel r
    | '"' | '/' => c :: plainPattern fuel r
    | c =>
      if '0' ≤ c && c ≤ '7' then
        let (n, rest) := Raw.takeDigits 8 3 0 (c :: r)
        let d := Char.ofNat (n % 256)
        (if "^$.[]|()*+?\\".toList.contains d then ['\\', d] else [d]) ++ plainPattern fuel rest
      else '\\' :: c :: plainPattern fuel r
  | _, ['\\'] => ['\\', '\\']
  | fuel + 1, c :: r => c :: plainPattern fuel r

def patternTrouble (reason : String) : String :=
  if reason = "Unmatched ( or \\(" then "missing ')'"
  else if reason = "Unmatched [, [^, [:, [., or [=" || reason = "Invalid regular expression" then
    "bad class -- [], [^] or ["
  else "missing operand"

/-- Makes an expression ready to be searched for. -/
def pattern (r : Raw) : Except String Regex.Search :=
  match Regex.parse patternNotation (plainPattern (r.length + 1) r) with
  | .ok e => .ok (e.ready {})
  | .error reason => .error (patternTrouble reason)

/-! ## Splitting -/

/-- The texts between the matches of an expression. -/
def between (e : Regex.Search) (r : Raw) : List Raw :=
  let found := (e.all r).filter fun (a, b) => a.index < b.index
  let (pieces, place) := found.foldl (fun (pieces, place) (a, b) =>
    ((r.drop place).take (a.index - place) :: pieces, b.index)) (([] : List Raw), 0)
  (r.drop place :: pieces).reverse

def blankParts (r : Raw) : List Raw :=
  let step (c : Char) (acc : List Raw) : List Raw :=
    if isBlank c then [] :: acc
    else
      match acc with
      | [] => [[c]]
      | w :: ws => (c :: w) :: ws
  (r.foldr step [[]]).filter (· ≠ [])

/-- The parts of a text by what stands between them: one blank stands for all blanks, any other
character for itself, and nothing for the places between characters. -/
def parts (separator r : Raw) : Except String (List Raw) :=
  match separator with
  | [' '] => .ok (blankParts r)
  | [] => .ok (r.map ([·]))
  | [c] => .ok (if r = [] then [] else Text.cutAt c r)
  | s => do
    if r = [] then .ok []
    else .ok (between (← pattern s) r)

/-! ## Tables -/

/-- A table: its entries, with those on top that were used last. -/
structure Table where
  entries : List (Raw × Value) := []
  /-- Whether all keys are whole numbers, and none has been asked for as a text. -/
  isCounted : Bool := true
  /-- How many boxes the keys are spread over. -/
  boxes : Nat := 64

namespace Table

/-- A number for a key that spreads the keys over the boxes. -/
def mixed (key : Raw) : Nat :=
  key.foldl (fun h c => (h ^^^ c.toNat) * 16777619 % 4294967296) 2166136261

def numberOf (key : Raw) : Nat := ((Raw.integer? key).getD 0 % Raw.wordLimit).toNat

def sorted (boxes : Nat) (box : Raw → Nat) (entries : List (Raw × Value)) : List (Raw × Value) :=
  entries.mergeSort fun a b => decide (box a.1 % boxes ≤ box b.1 % boxes)

def spelled (t : Table) : Table :=
  if t.isCounted then { t with entries := (sorted t.boxes numberOf t.entries).reverse, isCounted := false }
  else t

/-- The keys, in the order in which they are gone through. -/
def keys (t : Table) : List Raw := (sorted t.boxes mixed t.spelled.entries).map (·.1)

/-- The table before a key of one kind is asked for. -/
def prepared (t : Table) (isNumber : Bool) : Table := if isNumber then t else t.spelled

def get? (t : Table) (key : Raw) : Option Value := t.entries.lookup key

def put (t : Table) (key : Raw) (v : Value) : Table :=
  let isNew := (t.get? key).isNone
  let entries := (key, v) :: if isNew then t.entries else t.entries.filter (·.1 ≠ key)
  { t with
    entries
    boxes := if isNew && 12 * t.boxes < entries.length then 2 * t.boxes else t.boxes }

def erase (t : Table) (key : Raw) : Table := { t with entries := t.entries.filter (·.1 ≠ key) }

def ofParts (vs : List Value) : Table :=
  (vs.zipIdx).foldl (fun t (v, i) => t.put (Raw.ofNat (i + 1)) v) {}

end Table

end Buildwatch.Machine.Rules
