import Buildwatch.Json.Reader
import Buildwatch.Json.Writer
import Buildwatch.Proofs.Text.Digit
import Buildwatch.Proofs.Text.Lines
import Buildwatch.Proofs.Text.Utf8

/-!
# Written strings and numbers

A written string is read back character by character, up to its closing quote. A written number is
read back part by part, up to what can no longer belong to it.
-/

namespace Buildwatch.Json

variable {c : Char} {n : Nat} {digits fraction : Text} {exponent : Option Int}
  {rest t cs : Source}

/-! ## Strings -/

/-- The digits that are written for a control character have its number as their value. -/
theorem hexValue?_written :
    ∀ n < 32, Text.hexValue? ['0', '0', hexDigit (n / 16), hexDigit n] = some n := by
  decide

/-- A character that needs no escape is read as it is. -/
theorem stringBody?_plain (hquote : c ≠ '"') (hbackslash : c ≠ '\\') (hcontrol : ¬c < ' ')
    (h : stringBody? none t = some (cs, rest)) :
    stringBody? none (some c :: t) = some (some c :: cs, rest) := by
  rw [stringBody?]
  · simp [hbackslash, hcontrol, h]
  all_goals simp_all

/-- A control character is read from its number. -/
theorem stringBody?_control (hcontrol : c < ' ') (h : stringBody? none t = some (cs, rest)) :
    stringBody? none (some '\\' :: some 'u' :: some '0' :: some '0' ::
      some (hexDigit (c.toNat / 16)) :: some (hexDigit c.toNat) :: t) =
        some (some c :: cs, rest) := by
  -- The number of a control character is no half of a surrogate pair, so it stands for itself.
  have hlt : c.toNat < 32 := hcontrol
  have hhigh : isHighSurrogate c.toNat = false := by simp [isHighSurrogate]; omega
  have hlow : isLowSurrogate c.toNat = false := by simp [isLowSurrogate]; omega
  have hvalue := hexValue?_written c.toNat hlt
  simp [stringBody?, hvalue, hhigh, hlow, h]

/-- A character that has a letter for its escape is read from that. -/
theorem stringBody?_short {letter : Char} (hletter : shortEscape? letter = some c)
    (h : stringBody? none t = some (cs, rest)) :
    stringBody? none (some '\\' :: some letter :: t) = some (some c :: cs, rest) := by
  have hne : letter ≠ 'u' := by
    rintro rfl
    cases hletter
  rw [stringBody?]
  · simp [hletter, h]
  · intro _ _ _ _ _ _ hu
    exact hne hu

/-- The ways to write a character. -/
theorem escape_cases (c : Char) :
    (∃ letter, escape c = ['\\', letter] ∧ shortEscape? letter = some c) ∨
    (c < ' ' ∧ escape c = ['\\', 'u', '0', '0', hexDigit (c.toNat / 16), hexDigit c.toNat]) ∨
    (c ≠ '"' ∧ c ≠ '\\' ∧ ¬c < ' ' ∧ escape c = [c]) := by
  unfold escape
  split_ifs <;> simp_all [shortEscape?]

/-- An escaped character is read as what it stands for. -/
theorem stringBody?_escape (c : Char) (h : stringBody? none t = some (cs, rest)) :
    stringBody? none ((escape c).map some ++ t) = some (some c :: cs, rest) := by
  obtain ⟨letter, hescape, hletter⟩ | ⟨hcontrol, hescape⟩ |
      ⟨hquote, hbackslash, hcontrol, hescape⟩ := escape_cases c
  · rw [hescape]
    exact stringBody?_short hletter h
  · rw [hescape]
    exact stringBody?_control hcontrol h
  · rw [hescape]
    exact stringBody?_plain hquote hbackslash hcontrol h

/-- A written string is read up to its closing quote. -/
theorem stringBody?_written (w : Text) (rest : Source) :
    stringBody? none ((w.flatMap escape).map some ++ some '"' :: rest) =
      some (w.map some, rest) := by
  induction w with
  | nil => simp [stringBody?]
  | cons c w ih =>
    rw [List.flatMap_cons, List.map_append, List.append_assoc]
    exact stringBody?_escape c ih

theorem textOf?_map_some (w : Text) : textOf? (w.map some) = some (String.ofList w) := by
  rw [textOf?, Utf8.mapM_id_eq_some_iff.2 rfl, Option.map_some]

/-! ## Numbers -/

/-- Whether the text does not go on with a digit. -/
def NoDigit (t : Source) : Prop := ∀ c ∈ t.head?, isDigit c = false

/-- Whether a number that ends here does not go on. -/
structure Ends (t : Source) : Prop where
  noDigit : NoDigit t
  no_point : t.head? ≠ some (some '.')
  no_exponent : t.head? ≠ some (some 'e') ∧ t.head? ≠ some (some 'E')

theorem digits?_append (hne : digits ≠ []) (h : ∀ c ∈ digits, c.isDigit = true)
    (hrest : NoDigit rest) : digits? (digits.map some ++ rest) = some (digits, rest) := by
  have hdigits : ∀ c ∈ digits.map some, isDigit c = true := by
    intro c hc
    obtain ⟨d, hd, rfl⟩ := List.mem_map.1 hc
    exact h d hd
  rw [digits?, Text.takeWhile_append_of_head? hdigits hrest,
    Text.dropWhile_append_of_head? hdigits hrest]
  simp [hne, List.filterMap_map]

theorem digits?_toDigits (n : Nat) (hrest : NoDigit rest) :
    digits? ((Nat.toDigits 10 n).map some ++ rest) = some (Nat.toDigits 10 n, rest) :=
  digits?_append Nat.toDigits_ne_nil (fun _ => Text.ascii_of_mem_toDigits) hrest

theorem natOf_toDigits (n : Nat) : natOf (Nat.toDigits 10 n) = n := Text.numeral_toDigits n

/-- The digits of a number begin with one. -/
theorem exists_toDigits_eq_cons (n : Nat) :
    ∃ d ds, Nat.toDigits 10 n = d :: ds ∧ d.isDigit = true := by
  obtain ⟨d, ds, hdigits⟩ :=
    List.exists_cons_of_ne_nil (Nat.toDigits_ne_nil (n := n) (b := 10))
  exact ⟨d, ds, hdigits, Text.ascii_of_mem_toDigits (hdigits ▸ List.mem_cons_self)⟩

/-- A digit is no sign. -/
theorem ne_of_isDigit (h : c.isDigit = true) : c ≠ '-' ∧ c ≠ '+' := by
  constructor
  · rintro rfl
    cases h
  · rintro rfl
    cases h

/-- A number other than zero is not written with a zero in front. -/
theorem head?_toDigits_ne_zero (h : 0 < n) : (Nat.toDigits 10 n).head? ≠ some '0' := by
  -- The front digit of a number is that of its tenth, down to a single digit.
  induction n using Nat.strongRecOn with
  | _ n ih =>
    by_cases hlt : n < 10
    · have hdigits : ∀ n < 10, 0 < n → (Nat.toDigits 10 n).head? ≠ some '0' := by decide
      exact hdigits n hlt h
    · have hle : 10 ≤ n := Nat.le_of_not_lt hlt
      have hfront := ih (n / 10) (Nat.div_lt_self h (by decide)) (Nat.div_pos hle (by decide))
      rw [Nat.toDigits_of_base_le (by decide) hle]
      rwa [List.head?_append_of_ne_nil _ Nat.toDigits_ne_nil]

theorem wholePart?_written (n : Nat) (hrest : NoDigit rest) :
    wholePart? ((Nat.toDigits 10 n).map some ++ rest) = some (n, rest) := by
  rcases Nat.eq_zero_or_pos n with rfl | hpos
  · -- A zero stands alone.
    cases rest with
    | nil => rfl
    | cons c rest =>
      have hc : isDigit c = false := hrest c rfl
      simp [wholePart?, hc]
  · have hhead : ((Nat.toDigits 10 n).map some ++ rest).head? ≠ some (some '0') := by
      rw [List.head?_append_of_ne_nil _ (by simp), List.head?_map]
      intro hzero
      simp only [Option.map_eq_some_iff, Option.some_inj, exists_eq_right] at hzero
      exact head?_toDigits_ne_zero hpos hzero
    rw [wholePart?]
    · simp only [digits?_toDigits n hrest, Option.map_some, natOf_toDigits]
    · rintro c t heq
      rw [heq] at hhead
      exact hhead rfl

/-- The point and the digits after it, if there are any. -/
def writtenFraction (fraction : Text) : Text := if fraction = [] then [] else '.' :: fraction

def writtenExponent : Option Int → Text
  | none => []
  | some e => 'e' :: (if e < 0 then ['-'] else []) ++ Nat.toDigits 10 e.natAbs

theorem fractionPart?_written (h : ∀ c ∈ fraction, c.isDigit = true) (hrest : NoDigit rest)
    (hpoint : rest.head? ≠ some (some '.')) :
    fractionPart? ((writtenFraction fraction).map some ++ rest) = some (fraction, rest) := by
  unfold writtenFraction
  split
  · next hnil =>
    subst hnil
    rw [List.map_nil, List.nil_append, fractionPart?]
    rintro t rfl
    exact hpoint rfl
  · next hne => exact digits?_append hne h hrest

theorem exponentPart?_written (exponent : Option Int) (hrest : NoDigit rest)
    (hexponent : rest.head? ≠ some (some 'e') ∧ rest.head? ≠ some (some 'E')) :
    exponentPart? ((writtenExponent exponent).map some ++ rest) = some (exponent, rest) := by
  cases exponent with
  | none =>
    cases rest with
    | nil => rfl
    | cons c rest =>
      simp only [List.head?_cons, ne_eq, Option.some_inj] at hexponent
      simp [writtenExponent, exponentPart?, hexponent]
  | some e =>
    rw [writtenExponent]
    by_cases hnegative : e < 0
    · have hvalue : -(e.natAbs : Int) = e := by omega
      generalize e.natAbs = n at hvalue ⊢
      have hread := digits?_toDigits n hrest
      simp [exponentPart?, hnegative, hread, natOf_toDigits, hvalue]
    · have hvalue : (e.natAbs : Int) = e := by omega
      generalize e.natAbs = n at hvalue ⊢
      -- Without a sign, the exponent begins with a digit.
      obtain ⟨d, ds, hdigits, hd⟩ := exists_toDigits_eq_cons n
      obtain ⟨hminus, hplus⟩ := ne_of_isDigit hd
      have hread := digits?_toDigits n hrest
      have hnat := natOf_toDigits n
      rw [hdigits] at hread hnat
      rw [List.map_cons, List.cons_append] at hread
      simp [exponentPart?, hnegative, hdigits, hminus, hplus, hread, hnat, hvalue]

/-- What follows the fraction does not go on with it. -/
theorem Ends.before_exponent (h : Ends rest) (exponent : Option Int) :
    NoDigit ((writtenExponent exponent).map some ++ rest) ∧
      ((writtenExponent exponent).map some ++ rest).head? ≠ some (some '.') := by
  cases exponent with
  | none => exact ⟨h.noDigit, h.no_point⟩
  | some e => simp [writtenExponent, NoDigit, isDigit]

/-- What follows the digits before the point does not go on with them. -/
theorem Ends.before_fraction (h : Ends rest) (fraction : Text) (exponent : Option Int) :
    NoDigit ((writtenFraction fraction).map some ++
      ((writtenExponent exponent).map some ++ rest)) := by
  unfold writtenFraction
  split
  · exact (h.before_exponent exponent).1
  · simp [NoDigit, isDigit]

theorem writeNumeral_eq (n : Numeral) :
    writeNumeral n = (if n.negative then ['-'] else []) ++ Nat.toDigits 10 n.whole ++
      writtenFraction n.fraction ++ writtenExponent n.exponent := by
  cases h : n.exponent <;> simp [writeNumeral, writtenFraction, writtenExponent, h]

/-- A written number is read up to its end. -/
theorem number?_written {n : Numeral} (h : ∀ c ∈ n.fraction, c.isDigit = true)
    (hrest : Ends rest) :
    number? ((writeNumeral n).map some ++ rest) = some (.number n, rest) := by
  obtain ⟨negative, whole, fraction, exponent⟩ := n
  have hwhole := wholePart?_written whole (hrest.before_fraction fraction exponent)
  obtain ⟨hdigit, hpoint⟩ := hrest.before_exponent exponent
  have hfraction := fractionPart?_written h hdigit hpoint
  have hexponent := exponentPart?_written exponent hrest.noDigit hrest.no_exponent
  rw [writeNumeral_eq]
  simp only [List.map_append, List.append_assoc]
  cases negative with
  | true => simp [number?, hwhole, hfraction, hexponent]
  | false =>
    -- A number without a sign begins with a digit, and so is not taken for one with a sign.
    obtain ⟨d, ds, hdigits, hd⟩ := exists_toDigits_eq_cons whole
    obtain ⟨hminus, -⟩ := ne_of_isDigit hd
    rw [hdigits] at hwhole ⊢
    rw [List.map_cons, List.cons_append] at hwhole
    simp [number?, hminus, hwhole, hfraction, hexponent]

end Buildwatch.Json
