import Buildwatch.Machine.Raw

/-!
# Quoting in messages

How tools write names in what they report: as a word of the shell, with quotes only
where they are needed or always, or between plain quotes.
-/

namespace Buildwatch.Machine.Quoting

/-! ## Words of the shell -/

def isSpecial (isFirst : Bool) (c : Char) : Bool :=
  " !\"$&'()*;<=>?[\\^\x60|\n\t\r".toList.contains c || (isFirst && (c = '#' || c = '~'))

/-- The letter of the escape for a character. -/
def escapeLetter? (c : Char) : Option Char :=
  match c with
  | '\x07' => some 'a'
  | '\x08' => some 'b'
  | '\t' => some 't'
  | '\n' => some 'n'
  | '\x0b' => some 'v'
  | '\x0c' => some 'f'
  | '\r' => some 'r'
  | _ => none

def isPrintable (c : Char) : Bool := ' ' ≤ c && c ≤ '~'

def octal (c : Char) : Raw :=
  let n := c.toNat
  [n / 64, n / 8 % 8, n % 8].map fun d => Char.ofNat (d + '0'.toNat)

/-- The escape for a character that cannot be seen, without its backslash. -/
def escapeOf (c : Char) : Raw :=
  match escapeLetter? c with
  | some l => [l]
  | none => octal c

/-- The text between single quotes; escapes leave the quotes for a moment. -/
def quotedBody : (inEscape : Bool) → Raw → Raw
  | _, [] => []
  | inEscape, c :: r =>
    if !isPrintable c then
      (if inEscape then [] else "'$'".toList) ++ '\\' :: escapeOf c ++ quotedBody true r
    else if c = '\'' then "'\\''".toList ++ quotedBody false r
    else (if inEscape then ['\'', '\'', c] else [c]) ++ quotedBody false r

/-- Whether a character means the same between double quotes of the shell as between those of
a programming language. -/
def isHarmless (isFirst : Bool) (c : Char) : Bool :=
  isPrintable c && !"!\"$&()*;<=>?[\\^\x60|\x7b\x7d".toList.contains c &&
    (isFirst || (c ≠ '#' && c ≠ '~'))

/-- Whether double quotes leave all characters what they are. -/
def fitsDoubleQuotes (r : Raw) : Bool := r.zipIdx.all fun (c, i) => isHarmless (i = 0) c

def always (r : Raw) : Raw :=
  if r.contains '\'' && fitsDoubleQuotes r then ['"'] ++ r ++ ['"']
  else ['\''] ++ quotedBody false r ++ ['\'']

/-- A word, in quotes if it needs them. -/
def ifNeeded (r : Raw) : Raw :=
  let isBrace := r = ['\x7b'] || r = ['\x7d']
  let needs := r = [] || isBrace || (r.zipIdx.any fun (c, i) => isSpecial (i = 0) c || !isPrintable c)
  if needs then always r else r

/-! ## Plain quotes -/

/-- A text between quotes, with escapes for what would end it or cannot be seen. -/
def plain (r : Raw) : Raw :=
  ['\''] ++ r.flatMap (fun c =>
    if c = '\'' || c = '\\' then ['\\', c] else if isPrintable c then [c] else '\\' :: escapeOf c) ++ ['\'']

end Buildwatch.Machine.Quoting
