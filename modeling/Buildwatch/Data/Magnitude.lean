import Buildwatch.Data.Basic

/-!
# Magnitude

Whether a number that is written in decimal can be read as a double-precision one, or
is so large that only infinity is left. There are two ways to read: exactly, and by
scaling, which rounds more than once.
-/

namespace Buildwatch.Numeral

/-- The value of digits that follow those of `n`. -/
def extend (n : Nat) (digits : Text) : Nat :=
  digits.foldl (fun m c => 10 * m + (c.toNat - '0'.toNat)) n

/-! ## Exact reading -/

/-- The least number that rounds to infinity. -/
def ceiling : Nat := Nat.pow 2 1024 - Nat.pow 2 970

/-- Whether the value lies below the point from which rounding leads to infinity. Where
the number of its digits tells, the value is not computed. -/
def isFinite (n : Numeral) : Bool :=
  let digits := extend n.whole n.fraction
  let exponent := n.exponent.getD 0 - n.fraction.length
  -- Bounds on the number of digits; a binary digit is worth 0.30102 to 0.30103 decimal ones.
  let (low, high) := (digits.log2 * 30102 / 100000, (digits.log2 + 1) * 30103 / 100000 + 1)
  if digits = 0 || high + exponent < 308 then true
  else if 310 < low + exponent then false
  else digits * Nat.pow 10 exponent.toNat < ceiling * Nat.pow 10 (-exponent).toNat

/-! ## Scaling -/

/-- The number of 53 binary digits that is nearest to `n`; of two, the even one. -/
def rounded (n : Nat) : Nat :=
  let unit := Nat.pow 2 (n.log2 + 1 - 53)
  let (q, r) := (n / unit, n % unit)
  (if unit < 2 * r || (unit = 2 * r && q % 2 = 1) then q + 1 else q) * unit

/-- Adds digits to a number for as long as it fits into 64 bits: the number, and how many
digits are left over. -/
def absorb (n : Nat) : Text → Nat × Nat
  | [] => (n, 0)
  | c :: cs =>
    let m := 10 * n + (c.toNat - '0'.toNat)
    if m < 18446744073709551616 then absorb m cs else (n, cs.length + 1)

/-- The largest power of ten that numbers are scaled by in one step. -/
def maxScale : Nat := 308

/-- Whether scaling stays finite: the first digits, as many as fit into 64 bits, are rounded
and multiplied by a rounded power of ten. Division never leads to infinity. -/
def scalesFinitely (n : Numeral) : Bool :=
  let (kept, extra) := absorb 0 (Nat.toDigits 10 n.whole)
  -- Digits that do not fit are not read, and those before the point count as tens.
  let (kept, unread) := absorb kept n.fraction
  let exponent : Int := n.exponent.getD 0 + extra - (n.fraction.length - unread : Nat)
  if kept = 0 || exponent < 0 then true
  else if maxScale < exponent then false
  else rounded (rounded kept * rounded (Nat.pow 10 exponent.toNat)) < Nat.pow 2 1024

end Buildwatch.Numeral
