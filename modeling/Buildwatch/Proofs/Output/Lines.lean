import Buildwatch.Output.Lines
import Buildwatch.Proofs.Text.Lines
import Buildwatch.Proofs.Text.Utf8

/-!
# Lines of a stream

However a stream is cut into chunks, the splitter gives the lines of the whole stream.
With the newline as separator, the lines joined again are the decoding of the stream.
-/

namespace Buildwatch

/-! ## Fronts -/

section Front

variable {α : Type} [DecidableEq α] {front list rest : List α}

theorem dropFront?_append (h : dropFront? front list = some rest) (more : List α) :
    dropFront? front (list ++ more) = some (rest ++ more) := by
  induction front generalizing list with
  | nil =>
    obtain rfl : list = rest := by simpa [dropFront?] using h
    rfl
  | cons f front ih =>
    cases list with
    | nil => simp [dropFront?] at h
    | cons a list =>
      simp only [List.cons_append, dropFront?] at h ⊢
      split at h
      · next hf => rw [if_pos hf, ih h]
      · simp at h

/-- Whether a list that is long enough starts with `front` is decided by its own elements. -/
theorem dropFront?_append_eq_none (h : dropFront? front list = none)
    (hlen : front.length ≤ list.length) (more : List α) :
    dropFront? front (list ++ more) = none := by
  induction front generalizing list with
  | nil => simp [dropFront?] at h
  | cons f front ih =>
    cases list with
    | nil => simp at hlen
    | cons a list =>
      simp only [List.cons_append, dropFront?] at h ⊢
      split at h
      · next hf => rw [if_pos hf, ih h (by simpa using hlen)]
      · next hf => rw [if_neg hf]

end Front

/-! ## Cutting bytes -/

section Cutting

variable {sep : List UInt8} {bytes piece rest : List UInt8}

/-- The first separator stays where it is when more bytes arrive. -/
theorem breakOn?_append (h : breakOn? sep bytes = some (piece, rest)) (more : List UInt8) :
    breakOn? sep (bytes ++ more) = some (piece, rest ++ more) := by
  induction bytes generalizing piece with
  | nil => simp [breakOn?] at h
  | cons b bytes ih =>
    have hwhole := breakOn?_eq_some h
    rw [breakOn?] at h
    rw [List.cons_append, breakOn?]
    split at h
    · -- The separator stands at the front.
      next hd =>
      obtain ⟨rfl, rfl⟩ := by simpa using h
      rw [← List.cons_append, dropFront?_append hd]
    · -- It stands further on, so the bytes are long enough to tell that it is not at the front.
      next hd =>
      obtain ⟨⟨p, r⟩, hbs, hpr⟩ := Option.map_eq_some_iff.1 h
      obtain ⟨rfl, rfl⟩ := by simpa using hpr
      have hlen : sep.length ≤ (b :: bytes).length := by
        rw [hwhole]
        simp
        omega
      rw [← List.cons_append, dropFront?_append_eq_none hd hlen, ih hbs]
      rfl

variable (hsep : sep ≠ [])

theorem cutAtAll_of_eq_none (h : breakOn? sep bytes = none) :
    cutAtAll sep hsep bytes = ([], bytes) := by
  rw [cutAtAll]
  split
  · rfl
  · next h' => simp [h] at h'

theorem cutAtAll_of_eq_some (h : breakOn? sep bytes = some (piece, rest)) :
    cutAtAll sep hsep bytes =
      (piece :: (cutAtAll sep hsep rest).1, (cutAtAll sep hsep rest).2) := by
  rw [cutAtAll]
  split
  · next h' => simp [h] at h'
  · next h' =>
    obtain ⟨rfl, rfl⟩ := by simpa [h] using h'
    rfl

theorem breakOn?_cutAtAll (bytes : List UInt8) :
    breakOn? sep (cutAtAll sep hsep bytes).2 = none := by
  fun_induction cutAtAll sep hsep bytes with
  | case1 bytes h => exact h
  | case2 bytes piece rest h pieces tail heq ih => simpa [heq] using ih

/-- Cutting goes on where it stopped. -/
theorem cutAtAll_append (bytes more : List UInt8) :
    cutAtAll sep hsep (bytes ++ more) =
      ((cutAtAll sep hsep bytes).1 ++ (cutAtAll sep hsep ((cutAtAll sep hsep bytes).2 ++ more)).1,
        (cutAtAll sep hsep ((cutAtAll sep hsep bytes).2 ++ more)).2) := by
  -- By the pieces of `bytes`; what is left after the last of them is cut with `more`.
  fun_induction cutAtAll sep hsep bytes with
  | case1 bytes h => simp
  | case2 bytes piece rest h pieces tail heq ih =>
    rw [cutAtAll_of_eq_some hsep (breakOn?_append h more), ih, heq]
    rfl

theorem linesOf_append (bytes more : List UInt8) :
    linesOf sep hsep (bytes ++ more) = (cutAtAll sep hsep bytes).1.map Utf8.decodeLossy ++
      linesOf sep hsep ((cutAtAll sep hsep bytes).2 ++ more) := by
  rw [linesOf, cutAtAll_append, linesOf]
  generalize cutAtAll sep hsep ((cutAtAll sep hsep bytes).2 ++ more) = later
  by_cases hl : later.2 = [] <;> simp [hl]

/-- The lines of bytes that no separator ends. -/
theorem linesOf_of_eq_none (h : breakOn? sep bytes = none) :
    linesOf sep hsep bytes = if bytes = [] then [] else [Utf8.decodeLossy bytes] := by
  rw [linesOf, cutAtAll_of_eq_none hsep h]
  by_cases hb : bytes = [] <;> simp [hb]

theorem linesOf_of_eq_some (h : breakOn? sep bytes = some (piece, rest)) :
    linesOf sep hsep bytes = Utf8.decodeLossy piece :: linesOf sep hsep rest := by
  rw [linesOf, cutAtAll_of_eq_some hsep h, linesOf]
  by_cases hr : (cutAtAll sep hsep rest).2 = [] <;> simp [hr]

end Cutting

/-! ## The splitter -/

namespace LineSplitter

variable (s : LineSplitter)

/-- Whether no separator waits in the splitter. -/
def Settled : Prop := breakOn? s.separator s.carry = none

/-- The lines that a stream still has: those of the waiting bytes and the bytes to come. -/
def linesWith (bytes : List UInt8) : List Text :=
  linesOf s.separator s.separator_ne_nil (s.carry ++ bytes)

theorem settled_fresh : fresh.Settled := rfl

theorem settled_push (chunk : List UInt8) : (s.push chunk).2.Settled :=
  breakOn?_cutAtAll s.separator_ne_nil (s.carry ++ chunk)

/-- Taking a chunk gives the first of the lines and leaves the others. -/
theorem linesWith_append (chunk bytes : List UInt8) :
    s.linesWith (chunk ++ bytes) = (s.push chunk).1 ++ (s.push chunk).2.linesWith bytes := by
  rw [linesWith, ← List.append_assoc, linesOf_append]
  rfl

/-- At the end of the stream the waiting line is left, unless it is empty. -/
theorem linesWith_nil (h : s.Settled) :
    s.linesWith [] = if s.takeRemainder.1 = [] then [] else [s.takeRemainder.1] := by
  rw [linesWith, List.append_nil, linesOf_of_eq_none _ h]
  simp only [takeRemainder, Utf8.decodeLossy_eq_nil_iff]

end LineSplitter

/-! ## Newlines -/

section Newline

variable {bytes piece rest : List UInt8}

theorem newline_ne_nil : newline ≠ [] := by decide

/-- The lines of a stream as build tools write it. -/
abbrev streamLines (bytes : List UInt8) : List Text := linesOf newline newline_ne_nil bytes

theorem dropFront?_newline (b : UInt8) :
    dropFront? newline (b :: bytes) = if 0x0A = b then some bytes else none := rfl

theorem breakOn?_newline_eq_none (h : 0x0A ∉ bytes) : breakOn? newline bytes = none := by
  induction bytes with
  | nil => rfl
  | cons b bytes ih =>
    have hb : ¬ 0x0A = b := fun hb => h (hb ▸ List.mem_cons_self)
    have hbs : 0x0A ∉ bytes := fun hbs => h (List.mem_cons_of_mem _ hbs)
    simp [breakOn?, dropFront?_newline, hb, ih hbs]

theorem breakOn?_newline_append_cons (h : 0x0A ∉ piece) :
    breakOn? newline (piece ++ 0x0A :: rest) = some (piece, rest) := by
  induction piece with
  | nil => simp [breakOn?, dropFront?_newline]
  | cons b piece ih =>
    have hb : ¬ 0x0A = b := fun hb => h (hb ▸ List.mem_cons_self)
    have hp : 0x0A ∉ piece := fun hp => h (List.mem_cons_of_mem _ hp)
    simp [breakOn?, dropFront?_newline, hb, ih hp]

theorem streamLines_of_not_mem (h : 0x0A ∉ bytes) :
    streamLines bytes = if bytes = [] then [] else [Utf8.decodeLossy bytes] :=
  linesOf_of_eq_none _ (breakOn?_newline_eq_none h)

theorem streamLines_append_cons (h : 0x0A ∉ piece) :
    streamLines (piece ++ 0x0A :: rest) = Utf8.decodeLossy piece :: streamLines rest :=
  linesOf_of_eq_some _ (breakOn?_newline_append_cons h)

/-- Induction along the lines of a stream. -/
theorem lines_induction {P : List UInt8 → Prop} (last : ∀ bytes, 0x0A ∉ bytes → P bytes)
    (line : ∀ piece rest, 0x0A ∉ piece → P rest → P (piece ++ 0x0A :: rest)) :
    ∀ bytes, P bytes := by
  intro bytes
  by_cases h : 0x0A ∈ bytes
  · obtain ⟨piece, rest, hbytes, hpiece⟩ := List.eq_append_cons_of_mem h
    have : rest.length < bytes.length := by
      rw [hbytes]
      simp
      omega
    rw [hbytes]
    exact line piece rest hpiece (lines_induction last line rest)
  · exact last bytes h
termination_by bytes => bytes.length

theorem newline_not_mem_streamLines {line : Text} (h : line ∈ streamLines bytes) :
    '\n' ∉ line := by
  induction bytes using lines_induction with
  | last bytes hb =>
    rw [streamLines_of_not_mem hb] at h
    split at h
    · simp at h
    · obtain rfl := List.mem_singleton.1 h
      exact Utf8.newline_not_mem_decodeLossy hb
  | line piece rest hp ih =>
    rw [streamLines_append_cons hp] at h
    rcases List.mem_cons.1 h with rfl | h
    · exact Utf8.newline_not_mem_decodeLossy hp
    · exact ih h

theorem streamLines_eq_nil_iff : streamLines bytes = [] ↔ bytes = [] := by
  induction bytes using lines_induction with
  | last bytes hb =>
    rw [streamLines_of_not_mem hb]
    split <;> simp_all
  | line piece rest hp _ => simp [streamLines_append_cons hp]

/-- The lines joined again, with the newline that ends the last one, are the whole stream. -/
theorem joinLines_streamLines (bytes : List UInt8) :
    Text.joinLines (streamLines bytes) ++ (if bytes.getLast? = some 0x0A then ['\n'] else []) =
      Utf8.decodeLossy bytes := by
  induction bytes using lines_induction with
  | last bytes hb =>
    have hlast : bytes.getLast? ≠ some 0x0A := fun h => hb (List.mem_of_getLast? h)
    rw [streamLines_of_not_mem hb, if_neg hlast]
    split <;> simp_all
  | line piece rest hp ih =>
    rw [streamLines_append_cons hp, Utf8.decodeLossy_append_newline]
    by_cases hr : rest = []
    · -- The newline ends the last line.
      subst hr
      simp [streamLines_eq_nil_iff.2 rfl]
    · have hlast : (piece ++ 0x0A :: rest).getLast? = rest.getLast? := by
        obtain ⟨b, bs, rfl⟩ := List.exists_cons_of_ne_nil hr
        simp [List.getLast?_append, List.getLast?_cons]
      rw [Text.joinLines_cons (by rwa [ne_eq, streamLines_eq_nil_iff]), hlast, List.append_assoc,
        List.cons_append, ih]

/-- The lines of an encoded text are its lines. -/
theorem streamLines_encode {lines : List Text} (h : ∀ line ∈ lines, '\n' ∉ line) :
    streamLines (Utf8.encode (lines.flatMap (· ++ ['\n']))) = lines := by
  by_cases hl : lines = []
  · subst hl
    exact streamLines_eq_nil_iff.2 rfl
  · rw [Text.flatMap_newline hl]
    let bytes := Utf8.encode (Text.joinLines lines ++ ['\n'])
    have hbytes : bytes = Utf8.encode (Text.joinLines lines) ++ [0x0A] :=
      List.flatMap_append
    have hlast : bytes.getLast? = some 0x0A := by rw [hbytes, List.getLast?_concat]
    have hne : streamLines bytes ≠ [] := by
      rw [ne_eq, streamLines_eq_nil_iff, hbytes]
      simp
    -- Neither list has a newline in a line, so both are what is cut from their common text.
    have hjoin := joinLines_streamLines bytes
    rw [if_pos hlast, Utf8.decodeLossy_encode] at hjoin
    calc streamLines bytes
        = Text.cutLines (Text.joinLines (streamLines bytes)) :=
          (Text.cutLines_joinLines hne fun _ => newline_not_mem_streamLines).symm
      _ = Text.cutLines (Text.joinLines lines) := by rw [List.append_cancel_right hjoin]
      _ = lines := Text.cutLines_joinLines hl h

end Newline

end Buildwatch
