import Buildwatch.Machine.Raw

/-!
# Decimal fractions

Reading numbers with a fraction, and writing them with a number of digits. A number that
was read is the nearest one that 64 bits can hold, and it is written exactly from there.
-/

namespace Buildwatch.Machine.Decimal

/-! ## Numbers -/

/-- A number that is not negative. -/
structure Ratio where
  numerator : Nat
  denominator : Nat

/-- A number without its sign, or what stands for one. -/
inductive Magnitude
  | finite (x : Ratio)
  | infinite
  | notNumber

/-- How floating-point numbers are kept: the bits of their digits, and the powers of two of
their largest digit and of their smallest one. -/
structure Precision where
  bits : Nat
  largest : Int
  smallest : Int

def double : Precision := { bits := 53, largest := 1023, smallest := -1074 }

def extended : Precision := { bits := 64, largest := 16383, smallest := -16445 }

/-- The nearest whole number to a quotient; of two the even one. -/
def roundedQuotient (n d : Nat) : Nat :=
  let q := n / d
  let rest := 2 * (n % d)
  if d < rest || (rest = d && q % 2 = 1) then q + 1 else q

/-- The number that a floating-point number stands for, if it is finite. -/
def Ratio.ofFloat (x : Float) : Ratio :=
  let bits := x.toBits.toNat
  let fraction := bits % Nat.pow 2 52
  let exponent := bits / Nat.pow 2 52 % 2048
  let (m, e) := if exponent = 0 then (fraction, 1) else (fraction + Nat.pow 2 52, exponent)
  if 1075 ≤ e then ⟨m * Nat.pow 2 (e - 1075), 1⟩ else ⟨m, Nat.pow 2 (1075 - e)⟩

def Ratio.shift (x : Ratio) (power : Int) : Ratio :=
  if 0 ≤ power then ⟨x.numerator * Nat.pow 2 power.toNat, x.denominator⟩
  else ⟨x.numerator, x.denominator * Nat.pow 2 power.natAbs⟩

/-- The power of two of the first digit of a number. -/
def Ratio.log2 (x : Ratio) : Int :=
  let guess : Int := (x.numerator.log2 : Int) - x.denominator.log2
  let y := x.shift (-guess)
  if y.numerator < y.denominator then guess - 1 else guess

/-- The nearest number that can be kept. -/
def Precision.round (p : Precision) (x : Ratio) : Magnitude :=
  if x.numerator = 0 then .finite ⟨0, 1⟩
  else
    let unit := max (x.log2 - (p.bits - 1)) p.smallest
    let y := x.shift (-unit)
    let z := (⟨roundedQuotient y.numerator y.denominator, 1⟩ : Ratio).shift unit
    if z.numerator ≠ 0 && p.largest < z.log2 then .infinite else .finite z

/-! ## Reading -/

/-- Takes an exponent such as `e-3` off the front; without digits there is none. -/
def takeExponent (letters : Raw) (r : Raw) : Int × Raw :=
  match r with
  | c :: rest =>
    if letters.contains c then
      let (negative, digits) := match rest with
        | '-' :: digits => (true, digits)
        | '+' :: digits => (false, digits)
        | digits => (false, digits)
      let (n, after) := Raw.takeDigits 10 digits.length 0 digits
      if after.length = digits.length then (0, r) else (if negative then -n else n, after)
    else (0, r)
  | [] => (0, [])

def maxPower : Nat := 6000

def power (base digits : Nat) (exponent : Int) : Magnitude :=
  if digits = 0 then .finite ⟨0, 1⟩
  else if exponent.natAbs > maxPower * 4 then if 0 ≤ exponent then .infinite else .finite ⟨0, 1⟩
  else if 0 ≤ exponent then .finite ⟨digits * Nat.pow base exponent.toNat, 1⟩
  else .finite ⟨digits, Nat.pow base exponent.natAbs⟩

/-- Takes digits with a point among them off the front: their value without the point, how
many follow it, and how many there are. -/
def takePointed (base : Nat) (r : Raw) : Nat × Nat × Nat × Raw :=
  let (whole, rest) := Raw.takeDigits base r.length 0 r
  let before := r.length - rest.length
  match rest with
  | '.' :: more =>
    let (n, after) := Raw.takeDigits base more.length whole more
    let places := more.length - after.length
    if before + places = 0 then (0, 0, 0, r) else (n, places, before + places, after)
  | rest => (whole, 0, before, rest)

def take? (p : Precision) (r : Raw) : Option (Magnitude × Raw) :=
  let round : Magnitude → Magnitude
    | .finite x => p.round x
    | m => m
  let startsWith (word : String) : Bool := (r.take word.length).map Char.toLower = word.toList
  if startsWith "infinity" then some (.infinite, r.drop 8)
  else if startsWith "inf" then some (.infinite, r.drop 3)
  else if startsWith "nan" then some (.notNumber, r.drop 3)
  else
    let hexadecimal : Option (Magnitude × Raw) :=
      match r with
      | '0' :: x :: digits =>
        if x = 'x' || x = 'X' then
          let (n, places, count, rest) := takePointed 16 digits
          if count = 0 then none
          else
            let (e, rest) := takeExponent ['p', 'P'] rest
            some (round (power 2 n (e - 4 * places)), rest)
        else none
      | _ => none
    match hexadecimal with
    | some found => some found
    | none =>
      let (n, places, count, rest) := takePointed 10 r
      if count = 0 then none
      else
        let (e, rest) := takeExponent ['e', 'E'] rest
        some (round (power 10 n (e - places)), rest)

/-! ## Writing -/

/-- Digits with a point before the last ones. -/
def withPoint (places n : Nat) : Raw :=
  let digits := Raw.ofNat n
  let digits := List.replicate (places + 1 - digits.length) '0' ++ digits
  let whole := digits.take (digits.length - places)
  if places = 0 then whole else whole ++ '.' :: digits.drop whole.length

/-- The number with a number of places behind the point. -/
def fixed (places : Nat) (x : Ratio) : Raw :=
  withPoint places (roundedQuotient (x.numerator * Nat.pow 10 places) x.denominator)

def scaled (x : Ratio) (power : Int) : Nat :=
  if 0 ≤ power then roundedQuotient (x.numerator * Nat.pow 10 power.toNat) x.denominator
  else roundedQuotient x.numerator (x.denominator * Nat.pow 10 power.natAbs)

/-- The first digits of a number and the power of ten that the very first one stands for. -/
def leading (places : Nat) (x : Ratio) : Nat × Int :=
  if x.numerator = 0 then (0, 0)
  else
    let guess : Int := (Raw.ofNat x.numerator).length - (Raw.ofNat x.denominator).length
    -- The guess is right or one too high, and rounding may need one more digit.
    let tries := [guess - 1, guess, guess + 1].map fun (e : Int) => (scaled x (places - e), e)
    (tries.find? fun (n, _) => n < Nat.pow 10 (places + 1)).getD (0, 0)

/-- The number with one digit before the point and a power of ten. -/
def scientific (places : Nat) (x : Ratio) : Raw :=
  let (n, e) := leading places x
  let power := Raw.ofNat e.natAbs
  withPoint places n ++ ['e', if e < 0 then '-' else '+'] ++
    List.replicate (2 - power.length) '0' ++ power

/-- The digits without zeros at their end, and without a point that nothing follows. -/
def dropFinalZeros (r : Raw) : Raw :=
  if r.contains '.' then
    let short := r.reverse.dropWhile (· = '0')
    (if short.head? = some '.' then short.drop 1 else short).reverse
  else r

/-- The number in the shorter of both ways, with a number of digits in all. -/
def general (digits : Nat) (keepsZeros : Bool) (x : Ratio) : Raw :=
  let digits := max digits 1
  let (_, e) := leading (digits - 1) x
  if -4 ≤ e && e < digits then
    let r := fixed (digits - 1 - e).toNat x
    if keepsZeros then r else dropFinalZeros r
  else
    let r := scientific (digits - 1) x
    let mantissa := r.takeWhile (· ≠ 'e')
    if keepsZeros then r else dropFinalZeros mantissa ++ r.drop mantissa.length

end Buildwatch.Machine.Decimal
