import Buildwatch.Machine.Tool.Basic
import Buildwatch.Machine.Tool.Decimal

/-!
# Printing arguments

The two programs that print their arguments: one with blanks between them, one after
the pattern of a format. The shell has both built in, with other escapes than the
programs of the same names.
-/

namespace Buildwatch.Machine.Printing

/-! ## Escapes -/

/-- Which escapes are known. -/
structure Escapes where
  /-- Whether bytes may be given in hexadecimal digits. -/
  hexadecimal : Bool
  /-- Whether octal digits follow a zero of their own. -/
  zeroFirst : Bool
  /-- Whether one sequence ends all output. -/
  stop : Bool

/-- What an escape stands for. -/
inductive Escape
  | chars (r : Raw)
  | stop
  /-- Its digits are missing. -/
  | broken

def byte (n : Nat) : Char := Char.ofNat (n % 256)

def escape (es : Escapes) : Raw → Escape × Raw
  | [] => (.chars ['\\'], [])
  | c :: r =>
    match c with
    | 'a' => (.chars ['\x07'], r)
    | 'b' => (.chars ['\x08'], r)
    | 'e' => (.chars ['\x1b'], r)
    | 'f' => (.chars ['\x0c'], r)
    | 'n' => (.chars ['\n'], r)
    | 'r' => (.chars ['\r'], r)
    | 't' => (.chars ['\t'], r)
    | 'v' => (.chars ['\x0b'], r)
    | '\\' => (.chars ['\\'], r)
    | 'c' => if es.stop then (.stop, r) else (.chars ['\\', 'c'], r)
    | 'x' =>
      match Raw.takeDigits 16 2 0 r with
      | (n, rest) =>
        -- Without digits the sequence is printed as it stands, or is a mistake of a format.
        if !es.hexadecimal then (.chars ['\\', 'x'], r)
        else if rest.length < r.length then (.chars [byte n], rest)
        else if es.zeroFirst then (.chars ['\\', 'x'], r)
        else (.broken, r)
    | '0' =>
      let (n, rest) := Raw.takeDigits 8 (if es.zeroFirst then 3 else 2) 0 r
      (.chars [byte n], rest)
    | c =>
      if '1' ≤ c && c ≤ '7' then
        let (n, rest) := Raw.takeDigits 8 3 0 (c :: r)
        (.chars [byte n], rest)
      else (.chars ['\\', c], r)

/-- The text with its escapes resolved, and whether it goes on after that. -/
def unescape (es : Escapes) : (fuel : Nat) → Raw → Raw × Bool
  | 0, _ => ([], true)
  | _, [] => ([], true)
  | fuel + 1, '\\' :: r =>
    match escape es r with
    | (.stop, _) => ([], false)
    | (.broken, rest) => unescape es fuel rest
    | (.chars cs, rest) =>
      let (out, goesOn) := unescape es fuel rest
      (cs ++ out, goesOn)
  | fuel + 1, c :: r =>
    let (out, goesOn) := unescape es fuel r
    (c :: out, goesOn)

def echoEscapes (hexadecimal : Bool) : Escapes := { hexadecimal, zeroFirst := true, stop := true }

/-! ## Plain printing -/

def shellEcho (args : List Raw) : Raw :=
  let (args, newline) := match args with
    | ['-', 'n'] :: rest => (rest, false)
    | _ => (args, true)
  let text := Raw.join [' '] args
  let (out, goesOn) := unescape (echoEscapes false) (text.length + 1) text
  out ++ if newline && goesOn then ['\n'] else []

/-- What the program prints; escapes are resolved on demand. -/
def plainEcho (args : List Raw) : Raw :=
  let isOption (a : Raw) : Bool :=
    match a with
    | '-' :: c :: r => (c :: r).all fun c => c = 'n' || c = 'e' || c = 'E'
    | _ => false
  -- An option with any other letter is text, and so is all that follows it.
  let letters := (args.takeWhile isOption).flatMap (·.drop 1)
  let text := Raw.join [' '] (args.dropWhile isOption)
  let resolves := (letters.filter (· ≠ 'n')).getLast? = some 'e'
  let (out, goesOn) :=
    if resolves then unescape (echoEscapes true) (text.length + 1) text else (text, true)
  out ++ if goesOn && !letters.contains 'n' then ['\n'] else []

/-! ## Formats -/

/-- How the shell and the program differ. -/
structure Dialect where
  isShell : Bool
  /-- The numbers with a fraction. -/
  precision : Decimal.Precision

def shellFormat : Dialect := { isShell := true, precision := Decimal.double }

def plainFormat : Dialect := { isShell := false, precision := Decimal.extended }

namespace Dialect

/-- An argument as it stands in a complaint. -/
def named (d : Dialect) (a : Raw) : Raw := if d.isShell then a else Quoting.plain a

def noNumber (d : Dialect) (a : Raw) : Raw :=
  d.named a ++ Raw.ascii (if d.isShell then ": expected numeric value" else ": expected a numeric value")

def notAllNumber (d : Dialect) (a : Raw) : Raw :=
  d.named a ++ Raw.ascii (if d.isShell then ": not completely converted" else ": value not completely converted")

def outOfRange (d : Dialect) (a : Raw) : Raw :=
  d.named a ++ Raw.ascii ": Numerical result out of range"

end Dialect

/-- What one use of a format leaves behind. -/
structure Printed where
  /-- The output, last character first. -/
  out : Raw := []
  errors : List Raw := []
  /-- Complaints that are no errors. -/
  warnings : List Raw := []
  args : List Raw
  /-- Whether an argument was asked for. -/
  consumed : Bool := false
  stopped : Bool := false
  /-- Whether the format itself makes no sense. -/
  broken : Bool := false

namespace Printed

/-- The output. -/
def text (p : Printed) : Raw := p.out.reverse

def complaints (p : Printed) : List Raw := p.errors.reverse

/-- The status that this is in the shell. -/
def status (p : Printed) : Nat := if p.broken then 2 else if p.errors.isEmpty then 0 else 1

def say (p : Printed) (r : Raw) : Printed := { p with out := r.reverse ++ p.out }

def complain (p : Printed) (reason : Raw) : Printed := { p with errors := reason :: p.errors }

def next (p : Printed) : Option Raw × Printed :=
  match p.args with
  | a :: args => (some a, { p with args, consumed := true })
  | [] => (none, { p with consumed := true })

/-- The code of the character that an argument with a quote in front stands for. -/
def characterCode? (d : Dialect) (a : Raw) : Option Nat :=
  match a with
  -- The shell takes the end of the text for the character.
  | [q] => if d.isShell && (q = '"' || q = '\'') then some 0 else none
  | q :: c :: _ => if q = '"' || q = '\'' then some c.toNat else none
  | [] => none

def passOver (d : Dialect) (a : Raw) (p : Printed) : Printed :=
  match d.isShell, a.drop 2 with
  | false, c :: r =>
    p.complain (Raw.ascii "warning: " ++ (c :: r) ++
      Raw.ascii ": character(s) following character constant have been ignored")
  | _, _ => p

/-- The number that a text begins with, what is left of it, and whether it begins with one. -/
def numberOf (a : Raw) : Int × Raw × Bool :=
  let text := Raw.dropSpace a
  let (negative, text) := match text with
    | '-' :: r => (true, r)
    | '+' :: r => (false, r)
    | r => (false, r)
  let hexadecimal (r : Raw) : Option (Nat × Raw) :=
    if r.head?.any fun c => Raw.digitValue c < 16 then some (Raw.takeDigits 16 r.length 0 r) else none
  let (n, rest) := match text with
    | '0' :: 'x' :: r | '0' :: 'X' :: r =>
      (hexadecimal r).getD (Raw.takeDigits 8 text.length 0 text)
    | '0' :: _ => Raw.takeDigits 8 text.length 0 text
    | r => Raw.takeDigits 10 r.length 0 r
  let isNumber := rest.length < text.length
  -- What is left of a text that is no number is all of it.
  (if negative then -n else n, if isNumber then rest else a, isNumber)

/-- The next argument as a whole number. -/
def nextNumber (d : Dialect) (isSigned : Bool) (p : Printed) : Int × Printed :=
  match p.next with
  | (none, p) => (0, p)
  | (some a, p) =>
    match characterCode? d a with
    | some n => (n, passOver d a p)
    | none =>
      let (i, rest, isNumber) := numberOf a
      let (low, high) : Int × Int := if isSigned then (-Raw.signedLimit, Raw.signedLimit - 1)
        else (1 - Raw.wordLimit, Raw.wordLimit - 1)
      let isIn := low ≤ i && i ≤ high
      -- A number that is too large is the largest one, for the program without its sign.
      let value : Int := if isIn then i else if isSigned then max low (min high i) else high
      let p :=
        if !isNumber then if a = [] then p else p.complain (d.noNumber a)
        else if d.isShell && rest ≠ [] then p.complain (d.notAllNumber a)
        else if !isIn then p.complain (d.outOfRange a)
        else if rest ≠ [] then p.complain (d.notAllNumber a)
        else p
      (value, p)

def nextReal (d : Dialect) (p : Printed) : Bool × Decimal.Magnitude × Printed :=
  match p.next with
  | (none, p) => (false, .finite ⟨0, 1⟩, p)
  | (some a, p) =>
    match characterCode? d a with
    | some n => (false, .finite ⟨n, 1⟩, passOver d a p)
    | none =>
      let (negative, text) := match Raw.dropSpace a with
        | '-' :: r => (true, r)
        | '+' :: r => (false, r)
        | r => (false, r)
      let isWord := text.head?.any fun c => c = 'i' || c = 'I'
      match Decimal.take? d.precision text with
      | some (x, []) =>
        let isTooLarge := !isWord && match x with
          | .infinite => true
          | _ => false
        (negative, x, if isTooLarge then p.complain (d.outOfRange a) else p)
      | some (x, _) => (negative, x, p.complain (d.notAllNumber a))
      | none => (false, .finite ⟨0, 1⟩, if a = [] then p else p.complain (d.noNumber a))

end Printed

/-- How one value is laid out. -/
structure Layout where
  flags : Raw := []
  width : Nat := 0
  precision : Option Nat := none

/-- The text laid out to its width. -/
def Layout.pad (l : Layout) (zeros : Bool) (sign text : Raw) : Raw :=
  let gap := l.width - (sign.length + text.length)
  if l.flags.contains '-' then sign ++ text ++ List.replicate gap ' '
  else if zeros && l.flags.contains '0' then sign ++ List.replicate gap '0' ++ text
  else List.replicate gap ' ' ++ sign ++ text

/-- The sign in front of a number. -/
def Layout.sign (l : Layout) (negative : Bool) : Raw :=
  if negative then ['-']
  else if l.flags.contains '+' then ['+']
  else if l.flags.contains ' ' then [' ']
  else []

/-- A whole number laid out. -/
def Layout.number (l : Layout) (conversion : Char) (i : Int) : Raw :=
  let isSigned := conversion = 'd' || conversion = 'i'
  let sign := if isSigned then l.sign (i < 0) else []
  let n := if isSigned then i.natAbs else (i % Raw.wordLimit).toNat
  let digits := match conversion with
    | 'o' => Raw.inBase 8 n
    | 'x' => Raw.inBase 16 n
    | 'X' => Raw.upper (Raw.inBase 16 n)
    | _ => Raw.ofNat n
  let digits := if n = 0 && l.precision = some 0 then [] else digits
  let digits := List.replicate ((l.precision.getD 0) - digits.length) '0' ++ digits
  -- An octal number is marked only where no zero stands in front already.
  let mark : Raw :=
    if !l.flags.contains '#' || n = 0 then []
    else match conversion with
      | 'o' => if digits.head? = some '0' then [] else ['0']
      | 'x' => ['0', 'x']
      | 'X' => ['0', 'X']
      | _ => []
  l.pad l.precision.isNone (sign ++ mark) digits

/-- A number with a fraction laid out. -/
def Layout.real (l : Layout) (conversion : Char) (negative : Bool) (x : Decimal.Magnitude) : Raw :=
  let precision := l.precision.getD 6
  let (digits, isFinite) : Raw × Bool := match x with
    | .infinite => (Raw.ascii "inf", false)
    | .notNumber => (Raw.ascii "nan", false)
    | .finite x =>
      (match conversion.toLower with
        | 'f' => Decimal.fixed precision x
        | 'e' => Decimal.scientific precision x
        | _ => Decimal.general precision (l.flags.contains '#') x, true)
  l.pad isFinite (l.sign negative) (if conversion.isUpper then Raw.upper digits else digits)

def convert (d : Dialect) (l : Layout) (conversion : Char) (p : Printed) : Printed :=
  let cut (text : Raw) : Raw := match l.precision with
    | some n => text.take n
    | none => text
  match conversion with
  | 's' =>
    let (a, p) := p.next
    p.say (l.pad false [] (cut (a.getD [])))
  | 'b' =>
    let (a, p) := p.next
    let text := a.getD []
    let (out, goesOn) := unescape (echoEscapes !d.isShell) (text.length + 1) text
    { p.say (l.pad false [] (cut out)) with stopped := !goesOn }
  | 'q' =>
    let (a, p) := p.next
    p.say (Quoting.ifNeeded (a.getD []))
  | 'c' =>
    let (a, p) := p.next
    match (a.getD []).take 1 with
    -- The shell cannot print what ends a text of its own.
    | [] => if d.isShell then p.say (List.replicate (l.width - 1) ' ') else p.say (l.pad false [] ['\x00'])
    | c => p.say (l.pad false [] c)
  | c =>
    if "feg".toList.contains c.toLower then
      let (negative, x, p) := p.nextReal d
      p.say (l.real c negative x)
    else
      let (i, p) := p.nextNumber d (c = 'd' || c = 'i')
      p.say (l.number c i)

/-- Reads a width or precision, which may come from an argument. -/
def takeSize (d : Dialect) (f : Raw) (p : Printed) : Option Int × Raw × Printed :=
  match f with
  | '*' :: f =>
    let (i, p) := p.nextNumber d true
    (some i, f, p)
  | f =>
    let (n, rest) := Raw.takeDigits 10 f.length 0 f
    (if rest.length < f.length then some n else none, rest, p)

/-- Whether a conversion is known, and fits what stands before it. -/
def isKnown (d : Dialect) (conversion : Char) (isBare : Bool) (flags : Raw) (precision : Option Int) : Bool :=
  if d.isShell then "sbcdiouxXfFeEgG".toList.contains conversion
  else if conversion = 'b' || conversion = 'q' then isBare
  else
    "scdiouxXfFeEgG".toList.contains conversion &&
      !(flags.contains '\'' && "ceEosxX".toList.contains conversion) &&
      !(flags.contains '#' && "cdisu".toList.contains conversion) &&
      !(flags.contains '0' && "cs".toList.contains conversion) &&
      !(precision.isSome && conversion = 'c')

/-- Goes through a format once. -/
def once (d : Dialect) : (fuel : Nat) → Raw → Printed → Printed
  | 0, _, p => p
  | _, [], p => p
  | fuel + 1, '\\' :: f, p =>
    match f with
    | '"' :: f => once d fuel f (p.say (if d.isShell then ['\\', '"'] else ['"']))
    | _ =>
      match escape { hexadecimal := !d.isShell, zeroFirst := false, stop := !d.isShell } f with
      | (.stop, _) => { p with stopped := true }
      | (.broken, _) =>
        { p with errors := Raw.ascii "missing hexadecimal number in escape" :: p.errors, stopped := true, broken := true }
      | (.chars cs, rest) => once d fuel rest (p.say cs)
  | fuel + 1, '%' :: '%' :: f, p => once d fuel f (p.say ['%'])
  | fuel + 1, '%' :: f, p =>
    let isFlag (c : Char) : Bool := "-+ #0".toList.contains c || (!d.isShell && c = '\'')
    let flags := f.takeWhile isFlag
    let (width, rest, p) := takeSize d (f.drop flags.length) p
    -- A negative width from an argument is a flag and a width.
    let layoutFlags := if width.any (· < 0) then '-' :: flags else flags
    let (precision, rest, p) := match rest with
      | '.' :: rest =>
        let (n, rest, p) := takeSize d rest p
        (some (n.getD 0), rest, p)
      | rest => (none, rest, p)
    let rest := if d.isShell then rest else rest.dropWhile fun c => "lLhjtz".toList.contains c
    let spec := '%' :: f.take (f.length - rest.length + 1)
    match rest with
    | [] =>
      { p with
        errors := (if d.isShell then Raw.ascii "missing format character"
          else spec ++ Raw.ascii ": invalid conversion specification") :: p.errors
        stopped := true, broken := true }
    | c :: more =>
      if isKnown d c (spec.length = 2) flags precision then
        let p := convert d {
          flags := layoutFlags, width := (width.getD 0).natAbs
          precision := precision.bind fun i => if i < 0 then none else some i.toNat } c p
        if p.stopped then p else once d fuel more p
      else
        { p with
          errors := (spec ++ Raw.ascii (if d.isShell then ": invalid directive"
            else ": invalid conversion specification")) :: p.errors
          stopped := true
          broken := true }
  | fuel + 1, c :: f, p => once d fuel f (p.say [c])

/-- Goes through a format until the arguments are used up. -/
def again (d : Dialect) (format : Raw) : (fuel : Nat) → Printed → Printed
  | 0, p => p
  | fuel + 1, p =>
    let p := once d (format.length + 1) format { p with consumed := false }
    if p.stopped || p.args.isEmpty then p
    -- A format that takes no arguments is not gone through again.
    else if !p.consumed then
      if d.isShell then p
      else
        { p with warnings := [Raw.ascii "warning: ignoring excess arguments, starting with " ++
            Quoting.plain (p.args.head?.getD [])] }
    else again d format fuel p

/-- What a format prints for its arguments, and what was wrong with them. -/
def format (d : Dialect) (format : Raw) (args : List Raw) : Printed :=
  again d format (args.length + 1) { args }

/-! ## The tools -/

def echo : Tool Nat := do
  let args := (← read).args
  if args = [Raw.ascii "--help"] || args = [Raw.ascii "--version"] then return 0
  Tool.say (plainEcho args)
  return 0

def printf : Tool Nat := do
  let args := (← read).args
  match if args.head? = some ['-', '-'] then args.drop 1 else args with
  | [] => Tool.misuse (Raw.ascii "missing operand")
  | f :: rest =>
    let p := format plainFormat f rest
    Tool.say p.text
    for e in p.complaints ++ p.warnings do Tool.warn e
    return if p.errors.all (Raw.startsWith (Raw.ascii "warning: ")) then 0 else 1

end Buildwatch.Machine.Printing
