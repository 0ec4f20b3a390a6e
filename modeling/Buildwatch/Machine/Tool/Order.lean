import Buildwatch.Machine.Tool.Decimal

/-!
# Orders of texts

The ways in which tools compare lines: by bytes, as numbers, as numbers with units, as
months, and as versions.
-/

namespace Buildwatch.Machine.Order

def bytes (a b : Raw) : Ordering :=
  if Raw.before a b then .lt else if Raw.before b a then .gt else .eq

/-! ## Numbers -/

/-- A decimal number at the front of a text: whether it is negative, its whole part, and the
digits of its fraction. -/
structure Number where
  isNegative : Bool
  whole : Nat
  fraction : Raw

/-- The number at the front of a text, after its blanks, and what follows it. -/
def Number.take (r : Raw) : Number × Raw :=
  let r := r.dropWhile Raw.isBlank
  let (isNegative, r) := match r with
    | '-' :: r => (true, r)
    | r => (false, r)
  let (whole, rest) := Raw.takeDigits 10 r.length 0 r
  let fraction := match rest with
    | '.' :: rest => rest.takeWhile Raw.isDigit
    | _ => []
  let rest := match rest with
    | '.' :: rest => rest.drop fraction.length
    | rest => rest
  ({ isNegative, whole, fraction := (fraction.reverse.dropWhile (· = '0')).reverse }, rest)

def Number.isZero (n : Number) : Bool := n.whole = 0 && n.fraction = []

/-- How two numbers compare without their signs. -/
def Number.compareSize (m n : Number) : Ordering :=
  if m.whole < n.whole then .lt else if n.whole < m.whole then .gt else bytes m.fraction n.fraction

def Number.compare (m n : Number) : Ordering :=
  let isBelow (k : Number) : Bool := k.isNegative && !k.isZero
  match isBelow m, isBelow n with
  | true, false => .lt
  | false, true => .gt
  | false, false => m.compareSize n
  | true, true => n.compareSize m

def numeric (a b : Raw) : Ordering := (Number.take a).1.compare (Number.take b).1

/-- The place of a unit behind a number. -/
def unitOrder (n : Number) (rest : Raw) : Nat :=
  if n.isZero then 0
  else
    match rest.head? with
    | some c => if c = 'k' then 1 else ("KMGTPEZYRQ".toList.idxOf c + 1) % 11
    | none => 0

/-- Numbers with units such as `2K` and `1M`. -/
def human (a b : Raw) : Ordering :=
  let (m, r) := Number.take a
  let (n, s) := Number.take b
  let isBelow (k : Number) : Bool := k.isNegative && !k.isZero
  match isBelow m, isBelow n with
  | true, false => .lt
  | false, true => .gt
  | isBelow, _ =>
    let o := (Ord.compare (unitOrder m r) (unitOrder n s)).then (m.compareSize n)
    if isBelow then o.swap else o

/-- A number in any notation as a signed fraction; what is no number comes first, and then
what stands for none. -/
def generalKey (r : Raw) : Nat × Int × Nat :=
  let r := Raw.dropSpace r
  let (isNegative, text) := match r with
    | '-' :: r => (true, r)
    | '+' :: r => (false, r)
    | r => (false, r)
  match Decimal.take? Decimal.extended text with
  | none => (0, 0, 1)
  | some (.notNumber, _) => (1, 0, 1)
  | some (.infinite, _) => (if isNegative then 2 else 4, 0, 1)
  | some (.finite x, _) => (3, if isNegative then -x.numerator else x.numerator, x.denominator)

/-- Numbers in any notation. -/
def general (a b : Raw) : Ordering :=
  let (i, m, d) := generalKey a
  let (j, n, e) := generalKey b
  (Ord.compare i j).then (Ord.compare (m * e) (n * d))

/-! ## Months -/

def months : List Raw :=
  ["JAN", "FEB", "MAR", "APR", "MAY", "JUN", "JUL", "AUG", "SEP", "OCT", "NOV", "DEC"].map Raw.ascii

/-- The number of the month that a text begins with; anything else comes first. -/
def monthNumber (r : Raw) : Nat :=
  let word := Raw.upper ((r.dropWhile Raw.isBlank).take 3)
  (months.idxOf word + 1) % 13

def month (a b : Raw) : Ordering := Ord.compare (monthNumber a) (monthNumber b)

/-! ## Versions -/

/-- The rank of a character in a version; a tilde comes before everything else, even the end. -/
def versionRank : Option Char → Int
  | none => -1
  | some c =>
    if Raw.isDigit c then 0
    else if c = '~' then -2
    else if c ≠ '_' && Raw.isLetter c then c.toNat
    else c.toNat + 256

/-- Compares texts in which runs of digits count as numbers. -/
def versionRuns : (fuel : Nat) → Raw → Raw → Ordering
  | 0, _, _ => .eq
  | _, [], [] => .eq
  | fuel + 1, a, b =>
    let isDigit : Option Char → Bool := fun c => c.any Raw.isDigit
    if isDigit a.head? && isDigit b.head? then
      let (m, r) := Raw.takeDigits 10 a.length 0 a
      let (n, s) := Raw.takeDigits 10 b.length 0 b
      (Ord.compare m n).then (versionRuns fuel r s)
    else if (a = [] || isDigit a.head?) && (b = [] || isDigit b.head?) then
      -- A number on one side only stands against nothing.
      if a = [] then
        if (Raw.takeDigits 10 b.length 0 b).1 = 0 then versionRuns fuel [] (b.dropWhile Raw.isDigit) else .lt
      else if (Raw.takeDigits 10 a.length 0 a).1 = 0 then versionRuns fuel (a.dropWhile Raw.isDigit) []
      else .gt
    else
      let rank (r : Raw) : Int := if isDigit r.head? then 0 else versionRank r.head?
      match Ord.compare (rank a) (rank b) with
      | .eq => versionRuns fuel (a.drop 1) (b.drop 1)
      | o => o

/-- The length of a name without the endings that begin with dots and letters. -/
def withoutEndings (r : Raw) : Raw :=
  let rec go : (fuel : Nat) → Raw → Raw
    | 0, r => r
    | fuel + 1, r =>
      let tail := (r.reverse.takeWhile (· ≠ '.')).reverse
      let isEnding := tail.length < r.length && tail.head?.any (fun c => (Raw.isLetter c && c ≠ '_') || c = '~') &&
        tail.all fun c => (Raw.isLetter c && c ≠ '_') || Raw.isDigit c || c = '~'
      let front := r.take (r.length - tail.length - 1)
      if isEnding && front ≠ [] then go fuel front else r
  go r.length r

/-- Names with versions in them. -/
def version (a b : Raw) : Ordering :=
  if a = b then .eq
  else
    -- Names that begin with dots come first.
    let rank (r : Raw) : Nat :=
      if r = [] then 0 else if r = ['.'] then 1 else if r = ['.', '.'] then 2
      else if r.head? = some '.' then 3 else 4
    let (a', b') := (withoutEndings a, withoutEndings b)
    ((Ord.compare (rank a) (rank b)).then
      (versionRuns (a.length + b.length + 2) (if a' = b' then a else a') (if a' = b' then b else b'))).then
      (bytes a b)

end Buildwatch.Machine.Order
