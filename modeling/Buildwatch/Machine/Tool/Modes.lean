import Buildwatch.Machine.Files

/-!
# Rights

The rights of files as texts: digits or clauses that change them, and the ten letters
that lists show.
-/

namespace Buildwatch.Machine.Modes

/-! ## Reading -/

/-- What a clause takes the rights from. -/
inductive Source
  /-- Letters for rights. -/
  | letters (r : Raw)
  /-- The rights that the owner, the group or others have. -/
  | copied (shift : Nat)

structure Clause where
  /-- Whose rights are meant; none are named if those are meant that new files may have. -/
  owners : Raw
  sign : Char
  source : Source

/-- A change of rights. -/
inductive Change
  | digits (mode : Nat) (isLong : Bool)
  | clauses (cs : List Clause)

/-- Reads what stands behind the owners of a clause. -/
def actions (owners : Raw) : (fuel : Nat) → Raw → Option (List Clause × Raw)
  | 0, _ => none
  | fuel + 1, r =>
    match r with
    | sign :: r =>
      if sign ≠ '+' && sign ≠ '-' && sign ≠ '=' then none
      else
        let (source, r) : Source × Raw :=
          match r with
          | 'u' :: r => (.copied 6, r)
          | 'g' :: r => (.copied 3, r)
          | 'o' :: r => (.copied 0, r)
          | r =>
            let letters := r.takeWhile fun c => "rwxXst".toList.contains c
            (.letters letters, r.drop letters.length)
        let clause : Clause := { owners, sign, source }
        match r with
        | [] => some ([clause], [])
        | ',' :: _ => some ([clause], r)
        | r => (actions owners fuel r).map fun (cs, r) => (clause :: cs, r)
    | [] => none

def clauses : (fuel : Nat) → Raw → Option (List Clause)
  | 0, _ => none
  | fuel + 1, r => do
    let owners := r.takeWhile fun c => "ugoa".toList.contains c
    let (cs, rest) ← actions owners (r.length + 1) (r.drop owners.length)
    match rest with
    | ',' :: rest => return cs ++ (← clauses fuel rest)
    | _ => return cs

def read? (r : Raw) : Option Change :=
  if r.head?.any fun c => '0' ≤ c && c ≤ '7' then
    let (mode, rest) := Raw.takeDigits 8 r.length 0 r
    if rest = [] && mode ≤ 0o7777 then some (.digits mode (4 < r.length)) else none
  else (clauses (r.length + 1) r).map .clauses

/-! ## Applying -/

/-- The bits of the owners that are named. -/
def ownerBits (owners : Raw) : Nat :=
  owners.foldl (fun bits c =>
    bits ||| (match c with
      | 'u' => 0o4700
      | 'g' => 0o2070
      | 'o' => 0o1007
      | _ => 0o7777)) 0

/-- The bits that a source stands for, for all owners. -/
def sourceBits (isDirectory : Bool) (mode : Nat) : Source → Nat
  | .copied shift => (mode >>> shift &&& 7) * 0o111
  | .letters r => r.foldl (fun bits c =>
      bits ||| (match c with
        | 'r' => 0o444
        | 'w' => 0o222
        | 'x' => 0o111
        | 'X' => if isDirectory || mode &&& 0o111 ≠ 0 then 0o111 else 0
        | 's' => 0o6000
        | 't' => 0o1000
        | _ => 0)) 0

def applyClause (umask : Nat) (isDirectory : Bool) (mode : Nat) (c : Clause) : Nat :=
  let affected := if c.owners = [] then 0o7777 else ownerBits c.owners
  let omitted := if isDirectory then 0o6000 else 0
  let isSticky := match c.source with
    | .letters r => r.contains 's'
    | .copied _ => false
  let omitted := if isSticky then 0 else omitted
  let bits := sourceBits isDirectory mode c.source &&& affected &&&
    (if c.owners = [] then 0o7777 ^^^ umask else 0o7777)
  match c.sign with
  | '+' => mode ||| bits
  | '-' => mode &&& (0o7777 ^^^ bits)
  | _ => (mode &&& ((0o7777 ^^^ affected) ||| omitted)) ||| bits

def Change.apply (umask : Nat) (isDirectory : Bool) (mode : Nat) : Change → Nat
  | .digits new isLong => if isDirectory && !isLong then new ||| (mode &&& 0o6000) else new
  | .clauses cs => cs.foldl (applyClause umask isDirectory) mode

/-! ## Showing -/

/-- The letter for the kind of a node. -/
def kindLetter (c : Content) : Char :=
  match c with
  | .directory => 'd'
  | .link _ => 'l'
  | .device (.descriptor _) => 'l'
  | .device .fifo => 'p'
  | .device _ => 'c'
  | .file _ | .program _ => '-'

def three (bits : Nat) (isSpecial : Bool) (special : Char) : Raw :=
  [if bits &&& 4 ≠ 0 then 'r' else '-', if bits &&& 2 ≠ 0 then 'w' else '-',
    if isSpecial then if bits &&& 1 ≠ 0 then special else special.toUpper
    else if bits &&& 1 ≠ 0 then 'x' else '-']

/-- The nine letters of rights. -/
def letters (mode : Nat) : Raw :=
  three (mode >>> 6) (mode &&& 0o4000 ≠ 0) 's' ++ three (mode >>> 3) (mode &&& 0o2000 ≠ 0) 's' ++
    three mode (mode &&& 0o1000 ≠ 0) 't'

/-- The ten letters of a node. -/
def ofNode (n : Node) : Raw := kindLetter n.content :: letters n.mode

/-- The rights in octal digits. -/
def octal (mode : Nat) : Raw := Raw.inBase 8 mode

end Buildwatch.Machine.Modes
