import Buildwatch.Machine.Tool.Digest
import Buildwatch.Machine.Tool.Printing

/-!
# Encodings of bytes

Bytes written as letters and read back, and bytes shown as numbers.
-/

namespace Buildwatch.Machine.Encoding

/-! ## Letters for bytes -/

/-- How bytes are written: a number of them becomes a number of letters. -/
structure Alphabet where
  letters : Raw
  /-- How many bits a letter stands for. -/
  bits : Nat
  /-- How many bytes make a whole group of letters. -/
  group : Nat
  isPadded : Bool := true

def base64 : Alphabet where
  letters := Raw.ascii "ABCDEFGHIJKLMNOPQRSTUVWXYZabcdefghijklmnopqrstuvwxyz0123456789+/"
  bits := 6
  group := 3

def base64url : Alphabet where
  letters := Raw.ascii "ABCDEFGHIJKLMNOPQRSTUVWXYZabcdefghijklmnopqrstuvwxyz0123456789-_"
  bits := 6
  group := 3

def base32 : Alphabet where
  letters := Raw.ascii "ABCDEFGHIJKLMNOPQRSTUVWXYZ234567"
  bits := 5
  group := 5

def base32hex : Alphabet where
  letters := Raw.ascii "0123456789ABCDEFGHIJKLMNOPQRSTUV"
  bits := 5
  group := 5

def base16 : Alphabet where
  letters := Raw.ascii "0123456789ABCDEF"
  bits := 4
  group := 1

namespace Alphabet

def groupLetters (a : Alphabet) : Nat := a.group * 8 / a.bits

def encode (a : Alphabet) (r : Raw) : Raw :=
  (Digest.chunks a.group (r.length + 1) r).flatMap fun bytes =>
    let count := (bytes.length * 8 + a.bits - 1) / a.bits
    let n := Digest.ofBig (bytes.map (·.toNat)) * Nat.pow 2 (count * a.bits - bytes.length * 8)
    let letters := (List.range count).map fun i =>
      (a.letters[n / Nat.pow 2 (a.bits * (count - 1 - i)) % Nat.pow 2 a.bits]?).getD 'A'
    letters ++ List.replicate (a.groupLetters - count) '='

/-- The bytes for letters, and whether the letters make sense. -/
def decode (a : Alphabet) (r : Raw) : Raw × Bool :=
  let step (acc : Raw × Bool) (group : Raw) : Raw × Bool :=
    let (out, isGood) := acc
    if !isGood then acc
    else
      let letters := group.takeWhile (· ≠ '=')
      let values := letters.map fun c => a.letters.idxOf c
      let count := letters.length * a.bits / 8
      let isKnown := values.all (· < a.letters.length)
      let known := values.takeWhile (· < a.letters.length)
      let n := known.foldl (fun n v => n * Nat.pow 2 a.bits + v) 0
      let whole := known.length * a.bits / 8
      let n := n / Nat.pow 2 (known.length * a.bits - whole * 8)
      let bytes := ((Digest.littleBytes whole n).reverse).map Char.ofNat
      let isWhole := group.length = a.groupLetters && (group.drop letters.length).all (· = '=') &&
        (letters.length = a.groupLetters || (0 < count && letters.length = (count * 8 + a.bits - 1) / a.bits))
      (out ++ bytes, isKnown && isWhole)
  (Digest.chunks a.groupLetters (r.length + 1) r).foldl step ([], true)

end Alphabet

/-- Text in lines of a width; zero stands for a single line without an end. -/
def wrapped (width : Nat) (r : Raw) : Raw :=
  if width = 0 || r = [] then r
  else (Digest.chunks width (r.length + 1) r).flatMap (· ++ ['\n'])

/-- Writes bytes as letters, or reads them back. -/
def encodingTool (a? : Option Alphabet) : Tool Nat := do
  let c ← Tool.callChecking {
    letters := "diw:"
    long := "decode=d wrap:=w ignore-garbage=i base64 base64url base32 base32hex base16" }
    (← read).args fun key value => do
      if key = "w" && (Raw.natural? value).isNone then
        Tool.fail (Raw.ascii "invalid wrap size: " ++ Quoting.plain value)
  if let some extra := (c.operands.drop 1).head? then
    Tool.misuse (Raw.ascii "extra operand " ++ Quoting.plain extra)
  let chosen := [("base64", base64), ("base64url", base64url), ("base32", base32),
    ("base32hex", base32hex), ("base16", base16)].filter fun (k, _) => c.has k
  let a ← match a?, chosen.getLast? with
    | some a, _ => pure a
    | none, some (_, a) => pure a
    | none, none => Tool.misuse (Raw.ascii "missing encoding type")
  let name := c.operands.head?.getD ['-']
  match ← Tool.openInput name with
  | .error e => Tool.fail (Quoting.ifNeeded name ++ Raw.ascii ": " ++ Raw.ascii e.text)
  | .ok d =>
    match ← Tool.takeAll d with
    | .error e => Tool.fail (Raw.ascii "read error: " ++ Raw.ascii e.text)
    | .ok r =>
      if c.has "d" then
        let letters := r.filter fun x =>
          x ≠ '\n' && (!c.has "i" || x = '=' || a.letters.contains x)
        let (out, isGood) := a.decode letters
        Tool.say out
        if !isGood then Tool.fail (Raw.ascii "invalid input")
      else Tool.say (wrapped (((c.value? "w").bind Raw.natural?).getD 76) (a.encode r))
      return 0

/-! ## Bytes as numbers -/

inductive Form
  | octal
  | hexadecimal
  | signed
  | unsigned
  /-- Characters with escapes. -/
  | chars
  /-- Characters with the names of those that cannot be seen. -/
  | named
  deriving DecidableEq

/-- A row of numbers: their form, how many bytes each takes, and whether the characters stand
behind it. -/
structure Column where
  form : Form
  size : Nat
  showsText : Bool := false

namespace Column

def width (c : Column) : Nat :=
  match c.form with
  | .chars | .named => 4
  | .octal => (c.size * 8 + 2) / 3 + 1
  | .hexadecimal => 2 * c.size + 1
  | .unsigned => (Raw.ofNat (Nat.pow 2 (8 * c.size) - 1)).length + 1
  | .signed => (Raw.ofNat (Nat.pow 2 (8 * c.size - 1))).length + 2

/-- The names of characters that cannot be seen. -/
def controlNames : List Raw :=
  ["nul", "soh", "stx", "etx", "eot", "enq", "ack", "bel", "bs", "ht", "nl", "vt", "ff", "cr", "so",
    "si", "dle", "dc1", "dc2", "dc3", "dc4", "nak", "syn", "etb", "can", "em", "sub", "esc", "fs",
    "gs", "rs", "us", "sp"].map Raw.ascii

def digits (base width n : Nat) : Raw :=
  let ds := Raw.inBase base n
  List.replicate (width - ds.length) '0' ++ ds

def cell (c : Column) (bytes : Raw) : Raw :=
  let n := Digest.ofLittle (bytes.map (·.toNat))
  match c.form with
  | .octal => digits 8 (c.width - 1) n
  | .hexadecimal => digits 16 (c.width - 1) n
  | .unsigned => Raw.ofNat n
  | .signed =>
    let half := Nat.pow 2 (8 * c.size - 1)
    Raw.ofInt (if n < half then n else (n : Int) - 2 * half)
  | .named =>
    let n := n % 128
    if n = 127 then Raw.ascii "del" else (controlNames[n]?).getD [Char.ofNat n]
  | .chars =>
    match bytes.head?.getD '\x00' with
    | '\x00' => ['\\', '0']
    | '\x07' => ['\\', 'a']
    | '\x08' => ['\\', 'b']
    | '\t' => ['\\', 't']
    | '\n' => ['\\', 'n']
    | '\x0b' => ['\\', 'v']
    | '\x0c' => ['\\', 'f']
    | '\r' => ['\\', 'r']
    | x => if Quoting.isPrintable x then [x] else digits 8 3 x.toNat

def row (c : Column) (perRow total : Nat) (block : Raw) : Raw :=
  let fields := perRow / c.size
  let pad := total - fields * c.width
  let cells := Digest.chunks c.size (block.length + 1) block
  let shown := (cells.zipIdx).flatMap fun (bytes, i) =>
    -- What is left of the width is shared out among the numbers.
    let gap := pad * (fields - i) / fields - pad * (fields - i - 1) / fields
    Raw.padLeft (c.width + gap) (c.cell bytes)
  if c.showsText then
    let missing := fields - cells.length
    let gap := pad * missing / fields
    shown ++ List.replicate (missing * c.width + gap) ' ' ++ Raw.ascii "  >" ++
      (block.map fun x => if Quoting.isPrintable x then x else '.') ++ ['<']
  else shown

end Column

/-- Reads descriptions of rows such as `x1z`. -/
def columns (whole : Raw) : (fuel : Nat) → Raw → Except Raw (List Column)
  | 0, _ | _, [] => .ok []
  | fuel + 1, c :: r => do
    let sized (form : Form) : Except Raw (List Column) := do
      let (size, rest) ← match r with
        | 'C' :: rest => .ok (1, rest)
        | 'S' :: rest => .ok (2, rest)
        | 'I' :: rest => .ok (4, rest)
        | 'L' :: rest => .ok (8, rest)
        | rest =>
          let (n, after) := Raw.takeDigits 10 rest.length 0 rest
          if after.length = rest.length then .ok (4, rest)
          else if [1, 2, 4, 8].contains n then .ok (n, after)
          else
            .error (Raw.ascii "invalid type string " ++ Quoting.plain whole ++
              Raw.ascii ";\nthis system doesn't provide a " ++ Raw.ofNat n ++ Raw.ascii "-byte integral type")
      let (showsText, rest) := match rest with
        | 'z' :: rest => (true, rest)
        | rest => (false, rest)
      .ok ({ form, size, showsText } :: (← columns whole fuel rest))
    let unsized (form : Form) : Except Raw (List Column) := do
      let (showsText, rest) := match r with
        | 'z' :: rest => (true, rest)
        | rest => (false, rest)
      .ok ({ form, size := 1, showsText } :: (← columns whole fuel rest))
    match c with
    | 'a' => unsized .named
    | 'c' => unsized .chars
    | 'd' => sized .signed
    | 'o' => sized .octal
    | 'u' => sized .unsigned
    | 'x' => sized .hexadecimal
    | c =>
      .error (Raw.ascii "invalid character '" ++ [c] ++ Raw.ascii "' in type string " ++ Quoting.plain whole)

/-- How the places of rows are shown. -/
def placeText (radix : Char) (n : Nat) : Raw :=
  match radix with
  | 'd' => Column.digits 10 7 n
  | 'x' => Column.digits 16 6 n
  | 'n' => []
  | _ => Column.digits 8 7 n

def dumped (cs : List Column) (radix : Char) (perRow : Nat) (showsAll : Bool) (start : Nat) (r : Raw) : Raw :=
  let total := (cs.map fun c => perRow / c.size * c.width).foldl max 0
  let blocks := Digest.chunks perRow (r.length + 1) r
  let step (acc : List Raw × Option Raw × Bool × Nat) (block : Raw) : List Raw × Option Raw × Bool × Nat :=
    let (out, last, isHidden, place) := acc
    if !showsAll && last = some block && block.length = perRow then
      (if isHidden then out else ['*', '\n'] :: out, last, true, place + block.length)
    else
      let rows := (cs.zipIdx).map fun (c, i) =>
        let front := placeText radix place
        (if i = 0 then front else front.map fun _ => ' ') ++ c.row perRow total block ++ ['\n']
      (rows.flatten :: out, some block, false, place + block.length)
  let (out, _, _, place) := blocks.foldl step ([], none, false, start)
  out.reverse.flatten ++ (if radix = 'n' then [] else placeText radix place ++ ['\n'])

/-- Reads a number of bytes, which may be octal or hexadecimal. -/
def byteCount? (r : Raw) : Option Nat :=
  let (n, rest) := match r with
    | '0' :: 'x' :: r | '0' :: 'X' :: r => Raw.takeDigits 16 r.length 0 r
    | '0' :: _ => Raw.takeDigits 8 r.length 0 r
    | r => Raw.takeDigits 10 r.length 0 r
  if rest.length = r.length then none else (Numeral.factor? "EGKkMmPQRTYZ0bBw" rest).map (n * ·)

/-- The types that single letters ask for. -/
def letterTypes : List (String × Column) :=
  [("a", ⟨.named, 1, false⟩), ("b", ⟨.octal, 1, false⟩), ("c", ⟨.chars, 1, false⟩),
    ("d", ⟨.unsigned, 2, false⟩), ("i", ⟨.signed, 4, false⟩), ("l", ⟨.signed, 8, false⟩),
    ("o", ⟨.octal, 2, false⟩), ("s", ⟨.signed, 2, false⟩), ("x", ⟨.hexadecimal, 2, false⟩)]

def od : Tool Nat := do
  let number (letter : String) (value : Raw) : Tool Nat := do
    match byteCount? value with
    | some n => return n
    | none => Tool.fail (Raw.ascii ("invalid -" ++ letter ++ " argument ") ++ Quoting.plain value)
  let c ← Tool.callChecking {
    letters := "A:aBbcDdeFfHhIij:LlN:OoS:st:vw::Xx"
    long := "skip-bytes:=j address-radix:=A read-bytes:=N format:=t output-duplicates=v strings::=S " ++
      "traditional width::=w endian:" } (← read).args fun key value => do
    match key with
    | "A" => if !(["d", "o", "x", "n"].contains (String.ofList (value.take 1))) then
        Tool.fail (Raw.ascii "invalid output address radix '" ++ value.take 1 ++
          Raw.ascii "'; it must be one character from [doxn]")
    | "t" =>
      match columns value (value.length + 1) value with
      | .ok _ => pure ()
      | .error reason => Tool.fail reason
    | "j" | "N" => discard <| number key value
    | _ => pure ()
  let given := c.options.flatMap fun (key, value) =>
    if key = "t" then
      let v := value.getD []
      (columns v (v.length + 1) v).toOption.getD []
    else (letterTypes.lookup key).toList
  let cs := if given.isEmpty then [⟨.octal, 2, false⟩] else given
  let radix := ((c.value? "A").bind (·.head?)).getD 'o'
  let perRow ← match c.options.find? (·.1 = "w") with
    | some (_, some v) => number "w" v
    | some (_, none) => pure 32
    | none => pure 16
  let mut pieces : List Raw := []
  let mut isWhole := true
  for name in if c.operands.isEmpty then [['-']] else c.operands do
    match ← Tool.contentOf name with
    | .ok r => pieces := r :: pieces
    | .error e =>
      Tool.warnOf name e
      isWhole := false
  let all := pieces.reverse.flatten
  let skipped ← match c.value? "j" with
    | some v => number "j" v
    | none => pure 0
  if all.length < skipped then Tool.fail (Raw.ascii "cannot skip past end of combined input")
  let rest := all.drop skipped
  let rest ← match c.value? "N" with
    | some v => pure (rest.take (← number "N" v))
    | none => pure rest
  Tool.say (dumped cs radix perRow (c.has "v") skipped rest)
  return Tool.statusOf isWhole

end Buildwatch.Machine.Encoding
