import Buildwatch.Machine.Tool.Numbers

/-!
# Digests

Check sums of texts: cyclic and plain sums, and the digests that are worked out block by
block.
-/

namespace Buildwatch.Machine.Digest

/-! ## Blocks -/

/-- The bytes of a number, the lowest first. -/
def littleBytes : (count : Nat) → Nat → List Nat
  | 0, _ => []
  | count + 1, n => n % 256 :: littleBytes count (n / 256)

/-- The number that bytes stand for, the lowest first. -/
def ofLittle (bytes : List Nat) : Nat := bytes.foldr (fun b n => b + 256 * n) 0

/-- The number that bytes stand for, the highest first. -/
def ofBig (bytes : List Nat) : Nat := bytes.foldl (fun n b => 256 * n + b) 0

def chunks {α : Type} (size : Nat) : (fuel : Nat) → List α → List (List α)
  | 0, _ => []
  | _, [] => []
  | fuel + 1, as => as.take size :: chunks size fuel (as.drop size)

/-- The bytes of a text with its length in bits behind them, in whole blocks. -/
def padded (block lengthBytes : Nat) (isBig : Bool) (r : Raw) : List (List Nat) :=
  let bytes := r.map (·.toNat)
  let size := bytes.length + 1 + lengthBytes
  let gap := (block - size % block) % block
  let bits := littleBytes lengthBytes (8 * bytes.length)
  let all := bytes ++ 128 :: List.replicate gap 0 ++ (if isBig then bits.reverse else bits)
  chunks block (all.length + 1) all

def hexadecimal (bytes : List Nat) : Raw :=
  bytes.flatMap fun b => [b / 16, b % 16].flatMap fun d => Nat.toDigits 16 d

/-- The bits of a word turned to the left. -/
def turn32 (x : UInt32) (n : UInt32) : UInt32 := (x <<< n) ||| (x >>> (32 - n))

/-- The bits of a word turned to the right. -/
def turn64 (x : UInt64) (n : UInt64) : UInt64 := (x >>> n) ||| (x <<< (64 - n))

/-! ## Constants -/

def primes (count : Nat) : List Nat :=
  ((List.range 410).filter fun n => 2 ≤ n && (List.range n).all fun d => d < 2 || n % d ≠ 0).take count

/-- The largest number whose power is not larger than another number. -/
def root (power n : Nat) : Nat :=
  let rec go : (fuel : Nat) → (low high : Nat) → Nat
    | 0, low, _ => low
    | fuel + 1, low, high =>
      let middle := (low + high) / 2
      if high ≤ low + 1 then low
      else if Nat.pow middle power ≤ n then go fuel middle high else go fuel low middle
  go 200 0 (n + 1)

/-- The first 64 bits behind the point of a root of a number. -/
def rootBits (power n : Nat) : UInt64 := .ofNat (root power (n * Nat.pow 2 (64 * power)) % Raw.wordLimit)

def roundWords : Array UInt64 := ((primes 80).map (rootBits 3)).toArray

/-- Where the digests with long words begin. -/
def startWords : List UInt64 := (primes 8).map (rootBits 2)

def shortStartWords : List UInt64 := ((primes 16).drop 8).map (rootBits 2)

def highHalf (x : UInt64) : UInt32 := (x >>> 32).toUInt32

/-! ## Digests with short words -/

/-- The constants of the oldest digest. -/
def sineWords : Array UInt32 :=
  ((List.range 64).map fun (i : Nat) => (Float.abs (Float.sin (i + 1).toFloat) * 4294967296.0).toUInt64.toUInt32).toArray

def turns : Array UInt32 := #[7, 12, 17, 22, 5, 9, 14, 20, 4, 11, 16, 23, 6, 10, 15, 21]

def md5 (r : Raw) : Raw :=
  let block (h : UInt32 × UInt32 × UInt32 × UInt32) (bytes : List Nat) :
      UInt32 × UInt32 × UInt32 × UInt32 :=
    let words := ((chunks 4 17 bytes).map fun b => UInt32.ofNat (ofLittle b)).toArray
    let (a, b, c, d) := (List.range 64).foldl (fun (a, b, c, d) i =>
      let (f, g) : UInt32 × Nat := match i / 16 with
        | 0 => ((b &&& c) ||| (~~~b &&& d), i)
        | 1 => ((d &&& b) ||| (~~~d &&& c), (5 * i + 1) % 16)
        | 2 => (b ^^^ c ^^^ d, (3 * i + 5) % 16)
        | _ => (c ^^^ (b ||| ~~~d), (7 * i) % 16)
      let sum := a + f + sineWords.getD i 0 + words.getD g 0
      -- Four turns in each of four rounds, taken in a circle.
      (d, b + turn32 sum (turns.getD (i / 16 * 4 + i % 4) 0), b, c)) h
    (h.1 + a, h.2.1 + b, h.2.2.1 + c, h.2.2.2 + d)
  let (a, b, c, d) := (padded 64 8 false r).foldl block (0x67452301, 0xefcdab89, 0x98badcfe, 0x10325476)
  hexadecimal ([a, b, c, d].flatMap fun w => littleBytes 4 w.toNat)

def sha1 (r : Raw) : Raw :=
  let block (h : List UInt32) (bytes : List Nat) : List UInt32 :=
    let words := ((chunks 4 17 bytes).map fun b => UInt32.ofNat (ofBig b)).toArray
    let words := (List.range 64).foldl (fun (w : Array UInt32) i =>
      let at_ (k : Nat) : UInt32 := w.getD (i + 16 - k) 0
      -- The words of a block are stretched to as many as there are steps.
      w.push (turn32 (at_ 3 ^^^ at_ 8 ^^^ at_ 14 ^^^ at_ 16) 1)) words
    match h with
    | [a₀, b₀, c₀, d₀, e₀] =>
      let (a, b, c, d, e) := (List.range 80).foldl (fun (a, b, c, d, e) i =>
        let (f, k) : UInt32 × UInt32 := match i / 20 with
          | 0 => ((b &&& c) ||| (~~~b &&& d), 0x5a827999)
          | 1 => (b ^^^ c ^^^ d, 0x6ed9eba1)
          | 2 => ((b &&& c) ||| (b &&& d) ||| (c &&& d), 0x8f1bbcdc)
          | _ => (b ^^^ c ^^^ d, 0xca62c1d6)
        (turn32 a 5 + f + e + k + words.getD i 0, a, turn32 b 30, c, d)) (a₀, b₀, c₀, d₀, e₀)
      [a₀ + a, b₀ + b, c₀ + c, d₀ + d, e₀ + e]
    | h => h
  let h := (padded 64 8 true r).foldl block [0x67452301, 0xefcdab89, 0x98badcfe, 0x10325476, 0xc3d2e1f0]
  hexadecimal (h.flatMap fun w => (littleBytes 4 w.toNat).reverse)

def short (start : List UInt32) (size : Nat) (r : Raw) : Raw :=
  let right (x : UInt32) (n : UInt32) : UInt32 := turn32 x (32 - n)
  let block (h : List UInt32) (bytes : List Nat) : List UInt32 :=
    let words := ((chunks 4 17 bytes).map fun b => UInt32.ofNat (ofBig b)).toArray
    let words := (List.range 48).foldl (fun (w : Array UInt32) i =>
      let at_ (k : Nat) : UInt32 := w.getD (i + 16 - k) 0
      let s₀ := right (at_ 15) 7 ^^^ right (at_ 15) 18 ^^^ (at_ 15 >>> 3)
      let s₁ := right (at_ 2) 17 ^^^ right (at_ 2) 19 ^^^ (at_ 2 >>> 10)
      w.push (at_ 16 + s₀ + at_ 7 + s₁)) words
    let next := (List.range 64).foldl (fun (v : List UInt32) i =>
      match v with
      | [a, b, c, d, e, f, g, k] =>
        let s₁ := right e 6 ^^^ right e 11 ^^^ right e 25
        let t₁ := k + s₁ + ((e &&& f) ^^^ (~~~e &&& g)) + highHalf (roundWords.getD i 0) + words.getD i 0
        let s₀ := right a 2 ^^^ right a 13 ^^^ right a 22
        [t₁ + s₀ + ((a &&& b) ^^^ (a &&& c) ^^^ (b &&& c)), a, b, c, d + t₁, e, f, g]
      | v => v) h
    h.zipWith (· + ·) next
  let h := (padded 64 8 true r).foldl block start
  hexadecimal ((h.flatMap fun w => (littleBytes 4 w.toNat).reverse).take size)

/-- One of the digests with long words, from where it begins. -/
def long (start : List UInt64) (size : Nat) (r : Raw) : Raw :=
  let block (h : List UInt64) (bytes : List Nat) : List UInt64 :=
    let words := ((chunks 8 17 bytes).map fun b => UInt64.ofNat (ofBig b)).toArray
    let words := (List.range 64).foldl (fun (w : Array UInt64) i =>
      let at_ (k : Nat) : UInt64 := w.getD (i + 16 - k) 0
      let s₀ := turn64 (at_ 15) 1 ^^^ turn64 (at_ 15) 8 ^^^ (at_ 15 >>> 7)
      let s₁ := turn64 (at_ 2) 19 ^^^ turn64 (at_ 2) 61 ^^^ (at_ 2 >>> 6)
      w.push (at_ 16 + s₀ + at_ 7 + s₁)) words
    let next := (List.range 80).foldl (fun (v : List UInt64) i =>
      match v with
      | [a, b, c, d, e, f, g, k] =>
        let s₁ := turn64 e 14 ^^^ turn64 e 18 ^^^ turn64 e 41
        let t₁ := k + s₁ + ((e &&& f) ^^^ (~~~e &&& g)) + roundWords.getD i 0 + words.getD i 0
        let s₀ := turn64 a 28 ^^^ turn64 a 34 ^^^ turn64 a 39
        [t₁ + s₀ + ((a &&& b) ^^^ (a &&& c) ^^^ (b &&& c)), a, b, c, d + t₁, e, f, g]
      | v => v) h
    h.zipWith (· + ·) next
  let h := (padded 128 16 true r).foldl block start
  hexadecimal ((h.flatMap fun w => (littleBytes 8 w.toNat).reverse).take size)

/-! ## The digest with mixed words -/

def mixingOrders : Array (Array Nat) :=
  #[#[0, 1, 2, 3, 4, 5, 6, 7, 8, 9, 10, 11, 12, 13, 14, 15],
    #[14, 10, 4, 8, 9, 15, 13, 6, 1, 12, 0, 2, 11, 7, 5, 3],
    #[11, 8, 12, 0, 5, 2, 15, 13, 10, 14, 3, 6, 7, 1, 9, 4],
    #[7, 9, 3, 1, 13, 12, 11, 14, 2, 6, 5, 10, 4, 0, 15, 8],
    #[9, 0, 5, 7, 2, 4, 10, 15, 14, 1, 11, 12, 6, 8, 3, 13],
    #[2, 12, 6, 10, 0, 11, 8, 3, 4, 13, 7, 5, 15, 14, 1, 9],
    #[12, 5, 1, 15, 14, 13, 4, 10, 0, 7, 6, 3, 9, 2, 8, 11],
    #[13, 11, 7, 14, 12, 1, 3, 9, 5, 0, 15, 4, 8, 6, 2, 10],
    #[6, 15, 14, 9, 11, 3, 0, 8, 12, 2, 13, 7, 1, 4, 10, 5],
    #[10, 2, 8, 4, 7, 6, 1, 5, 15, 11, 9, 14, 3, 12, 13, 0]]

/-- The places of the words that are mixed together. -/
def mixedPlaces : List (Nat × Nat × Nat × Nat) :=
  [(0, 4, 8, 12), (1, 5, 9, 13), (2, 6, 10, 14), (3, 7, 11, 15),
    (0, 5, 10, 15), (1, 6, 11, 12), (2, 7, 8, 13), (3, 4, 9, 14)]

def mix (h : List UInt64) (block : List Nat) (count : Nat) (isLast : Bool) : List UInt64 :=
  let words := ((chunks 8 17 (block ++ List.replicate (128 - block.length) 0)).map fun b =>
    UInt64.ofNat (ofLittle b)).toArray
  -- One half is what was digested so far, the other one is always the same.
  let v := (h ++ startWords).toArray
  let v := v.setIfInBounds 12 (v.getD 12 0 ^^^ .ofNat count)
  let v := if isLast then v.setIfInBounds 14 (~~~(v.getD 14 0)) else v
  let v := (List.range 12).foldl (fun v round =>
    (mixedPlaces.zipIdx).foldl (fun (v : Array UInt64) ((a, b, c, d), i) =>
      let word (k : Nat) : UInt64 :=
        words.getD ((mixingOrders.getD (round % 10) #[]).getD (2 * i + k) 0) 0
      let at_ (v : Array UInt64) (k : Nat) : UInt64 := v.getD k 0
      let v := v.setIfInBounds a (at_ v a + at_ v b + word 0)
      let v := v.setIfInBounds d (turn64 (at_ v d ^^^ at_ v a) 32)
      let v := v.setIfInBounds c (at_ v c + at_ v d)
      let v := v.setIfInBounds b (turn64 (at_ v b ^^^ at_ v c) 24)
      let v := v.setIfInBounds a (at_ v a + at_ v b + word 1)
      let v := v.setIfInBounds d (turn64 (at_ v d ^^^ at_ v a) 16)
      let v := v.setIfInBounds c (at_ v c + at_ v d)
      v.setIfInBounds b (turn64 (at_ v b ^^^ at_ v c) 63)) v) v
  (h.zipIdx).map fun (x, i) => x ^^^ v.getD i 0 ^^^ v.getD (i + 8) 0

def blake2 (size : Nat) (r : Raw) : Raw :=
  let bytes := r.map (·.toNat)
  let start := match startWords with
    | w :: ws => (w ^^^ .ofNat (0x01010000 + size)) :: ws
    | [] => []
  -- A text without bytes is one block without bytes.
  let blocks := if bytes = [] then [[]] else chunks 128 (bytes.length + 1) bytes
  let (h, _) := (blocks.zipIdx 1).foldl (fun (h, count) (block, i) =>
    let count := count + block.length
    (mix h block count (i = blocks.length), count)) (start, 0)
  hexadecimal ((h.flatMap fun w => littleBytes 8 w.toNat).take size)

/-! ## Sums -/

/-- One step of the cyclic sum. -/
def cyclicStep (sum : UInt32) (byte : Nat) : UInt32 :=
  (List.range 8).foldl (fun (sum : UInt32) _ =>
    if sum &&& 0x80000000 = 0 then sum <<< 1 else (sum <<< 1) ^^^ 0x04c11db7) (sum ^^^ (UInt32.ofNat byte <<< 24))

/-- The bytes of a number, the lowest first, without zeros at its end. -/
def lengthBytes : (fuel : Nat) → Nat → List Nat
  | 0, _ => []
  | fuel + 1, n => if n = 0 then [] else n % 256 :: lengthBytes fuel (n / 256)

/-- The cyclic sum of a text and its length. -/
def cyclic (r : Raw) : Nat :=
  -- The length counts as more text, so that zeros at the front show.
  let sum := (r.map (·.toNat) ++ lengthBytes 10 r.length).foldl cyclicStep 0
  (~~~sum).toNat

/-- The sum in which the bits are turned after every byte. -/
def turningSum (r : Raw) : Nat :=
  r.foldl (fun sum c => ((sum / 2 + sum % 2 * 32768) + c.toNat) % 65536) 0

def plainSum (r : Raw) : Nat :=
  let sum := (r.foldl (fun sum c => sum + c.toNat) 0) % 4294967296
  let folded := sum % 65536 + sum / 65536
  folded % 65536 + folded / 65536

/-! ## The tools -/

structure Kind where
  name : String
  /-- The name in rows that name their digest. -/
  tag : String
  digits : Nat
  digest : Raw → Raw

def kinds : List Kind :=
  [⟨"md5", "MD5", 32, md5⟩, ⟨"sha1", "SHA1", 40, sha1⟩,
    ⟨"sha224", "SHA224", 56, short (shortStartWords.map (·.toUInt32)) 28⟩,
    ⟨"sha256", "SHA256", 64, short (startWords.map highHalf) 32⟩,
    ⟨"sha384", "SHA384", 96, long shortStartWords 48⟩,
    ⟨"sha512", "SHA512", 128, long startWords 64⟩,
    ⟨"blake2b", "BLAKE2b", 128, blake2 64⟩]

/-- A name in which what would break a line is escaped, and whether anything was. -/
def escapedName (name : Raw) : Raw × Bool :=
  let out := name.flatMap fun c =>
    match c with
    | '\n' => ['\\', 'n']
    | '\r' => ['\\', 'r']
    | '\\' => ['\\', '\\']
    | c => [c]
  (out, out.length ≠ name.length)

def row (k : Kind) (isTagged isBinary : Bool) (ending : Char) (name digest : Raw) : Raw :=
  let (shown, isEscaped) := if ending = '\n' then escapedName name else (name, false)
  let mark : Raw := if isEscaped then ['\\'] else []
  if isTagged then
    mark ++ Raw.ascii k.tag ++ Raw.ascii " (" ++ shown ++ Raw.ascii ") = " ++ digest ++ [ending]
  else mark ++ digest ++ [' ', if isBinary then '*' else ' '] ++ shown ++ [ending]

/-- Reads a row: the digest and the name. -/
def readRow? (k : Kind) (line : Raw) : Option (Raw × Raw) :=
  let tag := Raw.ascii k.tag ++ Raw.ascii " ("
  if tag.isPrefixOf line then
    let rest := line.drop tag.length
    let digest := (rest.reverse.takeWhile (· ≠ ' ')).reverse
    let name := rest.take (rest.length - digest.length - 4)
    if rest = name ++ Raw.ascii ") = " ++ digest then some (digest, name) else none
  else
    let digest := line.takeWhile fun c => Raw.digitValue c < 16
    match line.drop digest.length with
    | ' ' :: mark :: name =>
      if digest.length = k.digits && (mark = ' ' || mark = '*') then some (digest, name) else none
    | _ => none

def checkRows (k : Kind) (c : Call) : Tool Nat := do
  let mut status := 0
  for list in if c.operands.isEmpty then [['-']] else c.operands do
    match ← Tool.contentOf list with
    | .error e =>
      Tool.warnOf list e
      status := 1
    | .ok r =>
      let mut bad := 0
      let mut unread := 0
      let mut failed := 0
      let mut good := 0
      for line in Raw.lines r do
        match readRow? k line with
        | none => if line ≠ [] && line.head? ≠ some '#' then bad := bad + 1
        | some (digest, name) =>
          match ← Tool.contentOf name with
          | .error e =>
            if !(c.has "ignore-missing" && e = .notFound) then
              Tool.warnOf name e
              if !c.has "status" then Tool.sayLine (name ++ Raw.ascii ": FAILED open or read")
              unread := unread + 1
          | .ok content =>
            if k.digest content = digest.map Char.toLower then
              good := good + 1
              if !c.has "quiet" && !c.has "status" then Tool.sayLine (name ++ Raw.ascii ": OK")
            else
              failed := failed + 1
              if !c.has "status" then Tool.sayLine (name ++ Raw.ascii ": FAILED")
      let shown := if Tool.isStandard list then Raw.ascii "'standard input'" else Quoting.ifNeeded list
      if good + unread + failed = 0 then
        Tool.warn (shown ++ Raw.ascii ": no properly formatted checksum lines found")
        status := 1
      else if !c.has "status" then
        let tell (n : Nat) (one many : String) : Tool Unit := do
          if n ≠ 0 then
            Tool.warn (Raw.ascii "WARNING: " ++ Raw.ofNat n ++ Raw.ascii (if n = 1 then one else many))
        tell bad " line is improperly formatted" " lines are improperly formatted"
        tell unread " listed file could not be read" " listed files could not be read"
        tell failed " computed checksum did NOT match" " computed checksums did NOT match"
      if unread + failed ≠ 0 || (c.has "strict" && bad ≠ 0) then status := 1
  return status

def digests (k : Kind) : Tool Nat := do
  let c ← Tool.call {
    letters := if k.name = "blake2b" then "bctl:wz" else "bctwz"
    long := "binary=b check=c text=t zero=z tag ignore-missing quiet status strict warn=w length:=l" }
  let k := match (c.value? "l").bind Raw.natural? with
    | some n => if 0 < n && n < 512 then
        { k with tag := k.tag ++ "-" ++ toString n, digits := n / 4, digest := blake2 (n / 8) } else k
    | none => k
  if c.has "c" then checkRows k c
  else
    let isWhole ← Tool.forInputs c.operands Tool.warnOf fun name d => do
      match ← Tool.takeAll d with
      | .error e => return some e
      | .ok r =>
        Tool.say (row k (c.has "tag") (c.has "b" && c.last? ["b", "t"] = some "b")
          (if c.has "z" then '\x00' else '\n') name (k.digest r))
        return none
    return Tool.statusOf isWhole

def cksum : Tool Nat := do
  let c ← Tool.call {
    letters := "a:bctwzl:"
    long := "algorithm:=a base64 check=c debug length:=l raw untagged tag zero=z ignore-missing quiet " ++
      "status strict warn=w" }
  let ending := if c.has "z" then '\x00' else '\n'
  let name := String.ofList ((c.value? "a").getD (Raw.ascii "crc"))
  let sayEach (text : Raw → Raw → Raw) : Tool Nat := do
    let isWhole ← Tool.forInputs c.operands Tool.warnOf fun name d => do
      match ← Tool.takeAll d with
      | .error e => return some e
      | .ok r =>
        Tool.say (text (if c.operands.isEmpty then [] else ' ' :: name) r)
        return none
    return Tool.statusOf isWhole
  match name, kinds.find? (·.name = name) with
  | "crc", _ =>
    sayEach fun name r =>
      Raw.ofNat (cyclic r) ++ ' ' :: Raw.ofNat r.length ++ name ++ [ending]
  | "bsd", _ =>
    sayEach fun name r =>
      let digits := Raw.ofNat (turningSum r)
      List.replicate (5 - digits.length) '0' ++ digits ++ ' ' ::
        Raw.padLeft 5 (Raw.ofNat ((r.length + 1023) / 1024)) ++ name ++ [ending]
  | "sysv", _ =>
    sayEach fun name r =>
      Raw.ofNat (plainSum r) ++ ' ' :: Raw.ofNat ((r.length + 511) / 512) ++ name ++ [ending]
  | _, some k =>
    if c.has "c" then checkRows k c
    else
      sayEach fun name r =>
        row k (!c.has "untagged") false ending (if name = [] then ['-'] else name.drop 1) (k.digest r)
  | _, none =>
    Tool.misuse (Raw.ascii ("invalid argument '" ++ name ++ "' for '--algorithm'"))

def sum : Tool Nat := do
  let c ← Tool.call { letters := "rs", long := "sysv=s" }
  let isWhole ← Tool.forInputs c.operands Tool.warnOf fun name d => do
    match ← Tool.takeAll d with
    | .error e => return some e
    | .ok r =>
      let shown := if c.operands.isEmpty then [] else ' ' :: name
      if c.last? ["r", "s"] = some "s" then
        Tool.sayLine (Raw.ofNat (plainSum r) ++ ' ' :: Raw.ofNat ((r.length + 511) / 512) ++ shown)
      else
        let digits := Raw.ofNat (turningSum r)
        Tool.sayLine (List.replicate (5 - digits.length) '0' ++ digits ++ ' ' ::
          Raw.padLeft 5 (Raw.ofNat ((r.length + 1023) / 1024)) ++ shown)
      return none
  return Tool.statusOf isWhole

end Buildwatch.Machine.Digest
