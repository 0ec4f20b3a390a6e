import Buildwatch.Proofs.Output.Lines

/-!
# Cuts

What it means that bytes are cut at the leftmost separators that do not overlap. There is
exactly one such cut, and it is the one that the splitter makes.
-/

namespace Buildwatch

/-- Whether `bytes` are cut at the leftmost occurrences of `sep` that do not overlap, into
the pieces that a separator ends and the tail after the last of them. -/
inductive CutsInto (sep : List UInt8) : List UInt8 → List (List UInt8) → List UInt8 → Prop
  /-- There is no separator. -/
  | tail {bytes : List UInt8} (absent : ∀ before after, bytes ≠ before ++ sep ++ after) :
      CutsInto sep bytes [] bytes
  /-- No separator stands further left than the one that ends the piece. -/
  | piece {piece rest tail : List UInt8} {pieces : List (List UInt8)}
      (leftmost : ∀ before after, piece ++ sep ++ rest = before ++ sep ++ after →
        piece.length ≤ before.length)
      (cut : CutsInto sep rest pieces tail) :
      CutsInto sep (piece ++ sep ++ rest) (piece :: pieces) tail

section

variable {sep bytes piece rest tail : List UInt8} {pieces : List (List UInt8)} (hsep : sep ≠ [])

include hsep in
/-- A separator is found, at the latest where one is known to be. -/
theorem exists_breakOn?_append (before after : List UInt8) :
    ∃ piece rest, breakOn? sep (before ++ sep ++ after) = some (piece, rest) ∧
      piece.length ≤ before.length := by
  induction before with
  | nil =>
    obtain ⟨b, bs, rfl⟩ := List.exists_cons_of_ne_nil hsep
    refine ⟨[], after, ?_, Nat.le_refl _⟩
    rw [List.nil_append, List.cons_append, breakOn?, ← List.cons_append, dropFront?_self_append]
  | cons b before ih =>
    obtain ⟨piece, rest, hbreak, hle⟩ := ih
    rw [List.cons_append, List.cons_append, breakOn?]
    split
    · next rest' _ => exact ⟨[], rest', rfl, Nat.zero_le _⟩
    · exact ⟨b :: piece, rest, by rw [hbreak]; rfl, Nat.succ_le_succ hle⟩

include hsep in
theorem breakOn?_eq_none_iff :
    breakOn? sep bytes = none ↔ ∀ before after, bytes ≠ before ++ sep ++ after := by
  constructor
  · rintro h before after rfl
    obtain ⟨piece, rest, hbreak, -⟩ := exists_breakOn?_append hsep before after
    cases hbreak.symm.trans h
  · intro h
    cases hbreak : breakOn? sep bytes with
    | none => rfl
    | some found => exact absurd (breakOn?_eq_some hbreak) (h found.1 found.2)

include hsep in
theorem breakOn?_eq_some_iff :
    breakOn? sep bytes = some (piece, rest) ↔ bytes = piece ++ sep ++ rest ∧
      ∀ before after, bytes = before ++ sep ++ after → piece.length ≤ before.length := by
  constructor
  · intro h
    refine ⟨breakOn?_eq_some h, ?_⟩
    rintro before after rfl
    obtain ⟨piece', rest', hbreak, hle⟩ := exists_breakOn?_append hsep before after
    cases hbreak.symm.trans h
    exact hle
  · rintro ⟨rfl, hleft⟩
    obtain ⟨piece', rest', hbreak, hle⟩ := exists_breakOn?_append hsep piece rest
    -- Neither of the two separators stands further left than the other.
    have hwhole := breakOn?_eq_some hbreak
    have hlen : piece.length = piece'.length := Nat.le_antisymm (hleft _ _ hwhole) hle
    simp only [List.append_assoc] at hwhole
    obtain ⟨rfl, htail⟩ := List.append_inj hwhole hlen
    obtain rfl := List.append_cancel_left htail
    exact hbreak

/-- Bytes are cut in exactly one way, which is the way of the splitter. -/
theorem cutsInto_iff :
    CutsInto sep bytes pieces tail ↔ cutAtAll sep hsep bytes = (pieces, tail) := by
  constructor
  · intro h
    induction h with
    | tail absent => exact cutAtAll_of_eq_none hsep ((breakOn?_eq_none_iff hsep).2 absent)
    | piece leftmost _ ih =>
      rw [cutAtAll_of_eq_some hsep ((breakOn?_eq_some_iff hsep).2 ⟨rfl, leftmost⟩), ih]
  · intro h
    fun_induction cutAtAll sep hsep bytes generalizing pieces tail with
    | case1 bytes hbreak =>
      obtain ⟨rfl, rfl⟩ := by simpa using h
      exact .tail ((breakOn?_eq_none_iff hsep).1 hbreak)
    | case2 bytes piece rest hbreak later tail' heq ih =>
      obtain ⟨rfl, rfl⟩ := by simpa using h
      obtain ⟨rfl, leftmost⟩ := (breakOn?_eq_some_iff hsep).1 hbreak
      exact .piece leftmost (ih heq)

end

end Buildwatch
