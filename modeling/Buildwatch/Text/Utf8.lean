import Buildwatch.Text.Basic

/-!
# UTF-8

A decoder that goes byte by byte and never stops: wherever the bytes cannot be
continued to a character, the longest part that could have begun one is marked as a
gap, and decoding goes on with the next byte.
-/

namespace Buildwatch.Utf8

abbrev Gapped := List (Option Char)

/-- Where the decoder stands. -/
inductive State
  /-- Between characters. -/
  | idle
  /-- Inside a character: the bits read so far, the number of bytes still owed,
  and the least and greatest value the next byte may have. -/
  | within (value owed low high : Nat)
  deriving DecidableEq, Repr

/-- Takes the first byte of a character. -/
def start (byte : UInt8) : Gapped × State :=
  let b := byte.toNat
  if b < 0x80 then ([some (Char.ofNat b)], .idle)
  -- Bytes of the middle, and two that would spell ASCII at greater length.
  else if b < 0xC2 then ([none], .idle)
  else if b < 0xE0 then ([], .within (b - 0xC0) 1 0x80 0xBF)
  else if b < 0xF0 then
    -- No detours here either, and no surrogates.
    ([], .within (b - 0xE0) 2 (if b = 0xE0 then 0xA0 else 0x80) (if b = 0xED then 0x9F else 0xBF))
  else if b < 0xF5 then
    ([], .within (b - 0xF0) 3 (if b = 0xF0 then 0x90 else 0x80) (if b = 0xF4 then 0x8F else 0xBF))
  else ([none], .idle)

/-- Takes one byte: the characters that it completes, and where the decoder then stands. -/
def feed : State → UInt8 → Gapped × State
  | .idle, byte => start byte
  | .within value owed low high, byte =>
    let b := byte.toNat
    if low ≤ b ∧ b ≤ high then
      let value := 64 * value + (b - 0x80)
      if owed ≤ 1 then ([some (Char.ofNat value)], .idle)
      else ([], .within value (owed - 1) 0x80 0xBF)
    else
      let (out, state) := start byte
      -- The byte that does not fit may begin the next character.
      (none :: out, state)

def flush : State → Gapped
  | .idle => []
  | .within .. => [none]

/-- Decodes the bytes from where the decoder stands. -/
def decodeFrom : State → List UInt8 → Gapped
  | state, [] => flush state
  | state, byte :: bytes =>
    let (out, state) := feed state byte
    out ++ decodeFrom state bytes

def decode (bytes : List UInt8) : Gapped := decodeFrom .idle bytes

/-- Decodes bytes that are well-formed throughout. -/
def decode? (bytes : List UInt8) : Option Text := (decode bytes).mapM id

def replacement : Char := '\uFFFD'

/-- Decodes bytes; what is no character becomes a replacement character. -/
def decodeLossy (bytes : List UInt8) : Text := (decode bytes).map (·.getD replacement)

def encode (t : Text) : List UInt8 := t.flatMap String.utf8EncodeChar

end Buildwatch.Utf8
