import Buildwatch.Front
import Buildwatch.Text.Utf8

/-!
# Lines

Cutting a byte stream into lines. A line ends at a separator, a non-empty byte
string; the bytes after the last separator wait for the chunks to come. How the
stream is cut into chunks makes no difference to the lines.
-/

namespace Buildwatch

/-! ## Cutting bytes -/

/-- The bytes before the first occurrence of `sep` and the bytes after it. -/
def breakOn? (sep : List UInt8) : List UInt8 → Option (List UInt8 × List UInt8)
  | [] => none
  | b :: bs =>
    match dropFront? sep (b :: bs) with
    | some rest => some ([], rest)
    | none => (breakOn? sep bs).map fun (piece, rest) => (b :: piece, rest)

theorem breakOn?_eq_some {sep bytes piece rest : List UInt8}
    (h : breakOn? sep bytes = some (piece, rest)) : bytes = piece ++ sep ++ rest := by
  induction bytes generalizing piece with
  | nil => simp [breakOn?] at h
  | cons b bs ih =>
    rw [breakOn?] at h
    split at h
    · next hp =>
      obtain ⟨rfl, rfl⟩ := by simpa using h
      simpa using dropFront?_eq_some hp
    · obtain ⟨⟨p, r⟩, hbs, hpr⟩ := Option.map_eq_some_iff.1 h
      obtain ⟨rfl, rfl⟩ := by simpa using hpr
      simp [ih hbs]

/-- Cuts at the leftmost occurrences of `sep` that do not overlap: the pieces that
a separator ends, and the bytes after the last of them. -/
def cutAtAll (sep : List UInt8) (sep_ne_nil : sep ≠ []) (bytes : List UInt8) :
    List (List UInt8) × List UInt8 :=
  match _h : breakOn? sep bytes with
  | none => ([], bytes)
  | some (piece, rest) =>
    let (pieces, tail) := cutAtAll sep sep_ne_nil rest
    (piece :: pieces, tail)
termination_by bytes.length
decreasing_by
  have := congrArg List.length (breakOn?_eq_some _h)
  have := List.length_pos_iff.2 sep_ne_nil
  simp at *
  omega

/-! ## The splitter -/

def newline : List UInt8 := [0x0A]

/-- A splitter in the middle of a stream. -/
structure LineSplitter where
  separator : List UInt8 := newline
  /-- The bytes since the last separator. -/
  carry : List UInt8 := []
  separator_ne_nil : separator ≠ [] := by decide

namespace LineSplitter

def fresh : LineSplitter := {}

/-- A fresh splitter for a separator; an empty one stands for the newline. -/
def withSeparator (separator : List UInt8) : LineSplitter :=
  if h : separator = [] then fresh else { separator, separator_ne_nil := h }

/-- Takes a chunk and gives the lines that it completes. -/
def push (s : LineSplitter) (chunk : List UInt8) : List Text × LineSplitter :=
  let (pieces, carry) := cutAtAll s.separator s.separator_ne_nil (s.carry ++ chunk)
  (pieces.map Utf8.decodeLossy, { s with carry })

def hasRemainder (s : LineSplitter) : Bool := !s.carry.isEmpty

/-- Takes the waiting line, which may be empty. -/
def takeRemainder (s : LineSplitter) : Text × LineSplitter :=
  (Utf8.decodeLossy s.carry, { s with carry := [] })

end LineSplitter

/-- The lines of a whole stream: the pieces before each separator, and the bytes
after the last one if there are any. -/
def linesOf (sep : List UInt8) (sep_ne_nil : sep ≠ []) (bytes : List UInt8) : List Text :=
  let (pieces, tail) := cutAtAll sep sep_ne_nil bytes
  (if tail = [] then pieces else pieces ++ [tail]).map Utf8.decodeLossy

end Buildwatch
