import Buildwatch.Toml.Numbers
import Buildwatch.Toml.Tables

/-!
# Reading TOML

A reader for TOML documents, version 1.0.
-/

namespace Buildwatch.Toml

/-! ## Values -/

/-- Drops white space, newlines and comments; `fuel` bounds the number of comments. -/
def skipFiller : (fuel : Nat) → Text → Option Text
  | 0, _ => none
  | fuel + 1, t =>
    match skipBlankLines t with
    | '#' :: t =>
      match skipComment ('#' :: t) with
      | [] => some []
      | rest => (newline? rest).bind (skipFiller fuel)
    | t => some t

def filler? (t : Text) : Option Text := skipFiller (t.length + 1) t

mutual

/-- Reads a value at a depth of nesting that is still allowed; `fuel` bounds the
number of tokens. -/
def value? : (fuel depth : Nat) → Text → Option (Data × Text)
  | 0, _, _ => none
  | fuel + 1, depth, t =>
    match t with
    | '[' :: t => if depth + 1 < depthLimit then array? fuel (depth + 1) t else none
    | '\x7b' :: t => if depth + 1 < depthLimit then inlineTable? fuel (depth + 1) t else none
    | '"' :: _ | '\'' :: _ => (string? t).map fun (s, rest) => (.string (String.ofList s), rest)
    | 't' :: 'r' :: 'u' :: 'e' :: rest => some (.bool true, rest)
    | 'f' :: 'a' :: 'l' :: 's' :: 'e' :: rest => some (.bool false, rest)
    | t => number? t

/-- Reads an array after its opening bracket. -/
def array? : (fuel depth : Nat) → Text → Option (Data × Text)
  | 0, _, _ => none
  | fuel + 1, depth, t => do
    match ← filler? t with
    | ']' :: rest => some (.list [], rest)
    | t =>
      let (items, rest) ← items? fuel depth t
      some (.list items, rest)

/-- Reads the items of an array, of which there is one, up to its closing bracket. -/
def items? : (fuel depth : Nat) → Text → Option (List Data × Text)
  | 0, _, _ => none
  | fuel + 1, depth, t => do
    let (item, t) ← value? fuel depth t
    match ← filler? t with
    | ']' :: rest => some ([item], rest)
    | ',' :: t =>
      match ← filler? t with
      -- A comma may stand after the last item too.
      | ']' :: rest => some ([item], rest)
      | t =>
        let (items, rest) ← items? fuel depth t
        some (item :: items, rest)
    | _ => none

/-- Reads an inline table after its opening brace. -/
def inlineTable? : (fuel depth : Nat) → Text → Option (Data × Text)
  | 0, _, _ => none
  | fuel + 1, depth, t =>
    match skipSpace t with
    | '\x7d' :: rest => some (.record [], rest)
    | t => do
      let (pairs, rest) ← pairs? fuel depth t
      let entries ← pairs.foldlM (fun entries (key, d) => Entries.define key d .defined entries) []
      some (.record (fieldsOf entries), rest)

/-- Reads the pairs of an inline table up to its closing brace. -/
def pairs? : (fuel depth : Nat) → Text → Option (List (List String × Data) × Text)
  | 0, _, _ => none
  | fuel + 1, depth, t => do
    let (key, t) ← dottedKey? t
    -- The key has taken the white space before the equals sign.
    let ('=' :: t) := t | none
    let (d, t) ← value? fuel depth (skipSpace t)
    match skipSpace t with
    | '\x7d' :: rest => some ([(key, d)], rest)
    | ',' :: t =>
      let (pairs, rest) ← pairs? fuel depth t
      some ((key, d) :: pairs, rest)
    | _ => none

end

/-! ## Documents -/

/-- What follows the rest of a line, which may hold only white space and a comment. -/
def endOfLine? (t : Text) : Option Text :=
  match skipComment (skipSpace t) with
  | [] => some []
  | rest => newline? rest

/-- What has been read of a document: its tables, and the header that is in force. -/
structure Draft where
  root : Entries := []
  header : List String := []

/-- Takes one line of a document that is not blank, and gives what follows it. -/
def Draft.line? (draft : Draft) (t : Text) : Option (Draft × Text) :=
  match t with
  | '[' :: '[' :: t => do
    let (key, t) ← dottedKey? t
    let (']' :: ']' :: t) := t | none
    let rest ← endOfLine? t
    some (⟨← draft.root.openElement key, key⟩, rest)
  | '[' :: t => do
    let (key, t) ← dottedKey? t
    let (']' :: t) := t | none
    let rest ← endOfLine? t
    some (⟨← draft.root.openTable key, key⟩, rest)
  | t => do
    let (key, t) ← dottedKey? t
    let ('=' :: t) := t | none
    let (d, t) ← value? (2 * t.length + 1) 0 (skipSpace t)
    let rest ← endOfLine? t
    -- The header leads to its table, and the key goes on from there.
    let root ← draft.root.change false (Entries.define key d) draft.header .defined
    some ({ draft with root }, rest)

/-- Reads the lines of a document; `fuel` bounds their number. -/
def lines? : (fuel : Nat) → Draft → Text → Option Draft
  | 0, _, _ => none
  | fuel + 1, draft, t =>
    match skipBlankLines t with
    | [] => some draft
    | '#' :: t => (endOfLine? ('#' :: t)).bind (lines? fuel draft)
    | t => do
      let (draft, rest) ← draft.line? t
      lines? fuel draft rest

def byteOrderMark : Char := '\uFEFF'

def parse? (t : Text) : Option Data :=
  let t := match t with
    | c :: rest => if c = byteOrderMark then rest else c :: rest
    | [] => []
  (lines? (t.length + 1) {} t).map fun draft => .record (fieldsOf draft.root)

end Buildwatch.Toml
