import Mathlib.Order.Bounds.Defs
import Mathlib.Order.MinMax
import Mathlib.Order.Nat
import Buildwatch.Proofs.Diagnostic.Body
import Buildwatch.Proofs.Diagnostic.MessageLines

/-!
# The excerpt of a message

A message ends before the longest run of excerpt lines that the body ends with. That run is the
excerpt. The carets in it, and no others, tell how many columns are underlined.
-/

namespace Buildwatch

open Text (cutLines joinLines trimEnd)

/-! ## Runs of carets -/

section Carets

variable {n : Nat} {t : Text} {lines : List Text}

/-- A run of one character on a text with another one in it stands before or after that one. -/
theorem replicate_infix_append_cons {a c : Char} (h : c ≠ a) {s : Text} :
    List.replicate n a <:+: s ++ c :: t ↔
      List.replicate n a <:+: s ∨ List.replicate n a <:+: t := by
  constructor
  · rintro ⟨before, after, heq⟩
    obtain ⟨more, hs, -⟩ | ⟨more, hfront, hafter⟩ := List.append_eq_append_iff.1 heq
    · exact .inl ⟨before, more, hs.symm⟩
    · cases more with
      | nil => exact .inl ⟨before, [], by simpa using hfront⟩
      | cons d more =>
        obtain ⟨rfl, rfl⟩ := List.cons.inj hafter
        -- The other character stands before the run, as it cannot be in it.
        obtain ⟨rest, hbefore, hrun⟩ | ⟨rest, hbefore, hrun⟩ := List.append_eq_append_iff.1 hfront
        · have hmem : c ∈ List.replicate n a := hrun ▸ List.mem_append_right _ List.mem_cons_self
          exact absurd (List.eq_of_mem_replicate hmem) h
        · cases rest with
          | nil =>
            have hmem : c ∈ List.replicate n a := by
              rw [← List.nil_append (List.replicate n a), ← hrun]
              exact List.mem_cons_self
            exact absurd (List.eq_of_mem_replicate hmem) h
          | cons e rest =>
            obtain ⟨-, rfl⟩ := List.cons.inj hrun
            exact .inr ⟨rest, after, rfl⟩
  · rintro (h | h)
    · exact h.trans (List.prefix_append s (c :: t)).isInfix
    · exact h.trans ⟨s ++ [c], [], by simp⟩

theorem replicate_infix_replicate_iff {m : Nat} {a : Char} :
    List.replicate n a <:+: List.replicate m a ↔ n ≤ m := by
  constructor
  · intro h
    simpa using h.length_le
  · intro h
    exact ⟨List.replicate (m - n) a, [], by simp [h]⟩

/-- A text holds `n` carets in a row exactly if its longest run has so many. -/
theorem replicate_infix_iff {run : Nat} :
    List.replicate n '^' <:+: List.replicate run '^' ++ t ↔ n ≤ longestCarets run t := by
  induction t generalizing run with
  | nil => rw [List.append_nil, longestCarets, replicate_infix_replicate_iff]
  | cons c t ih =>
    by_cases hc : c = '^'
    · subst hc
      rw [longestCarets, ← ih, List.replicate_succ', List.append_assoc, List.singleton_append]
    · have hrun : longestCarets run (c :: t) = max run (longestCarets 0 t) := by
        rw [longestCarets]
        exact hc
      have hafter := @ih 0
      rw [List.replicate_zero, List.nil_append] at hafter
      rw [hrun, replicate_infix_append_cons hc, le_max_iff, replicate_infix_replicate_iff, hafter]

theorem le_foldl_max_iff {widths : List Nat} {least : Nat} :
    n ≤ widths.foldl max least ↔ n ≤ least ∨ ∃ width ∈ widths, n ≤ width := by
  induction widths generalizing least with
  | nil => simp
  | cons width widths ih => simp [ih, or_assoc]

theorem le_underlineWidth_iff :
    n ≤ underlineWidth lines ↔ n ≤ 1 ∨ ∃ line ∈ lines, List.replicate n '^' <:+: line := by
  have hline : ∀ line : Text, List.replicate n '^' <:+: line ↔ n ≤ longestCarets 0 line :=
    fun line => @replicate_infix_iff n line 0
  simp only [underlineWidth, le_max_iff, le_foldl_max_iff, List.mem_map, exists_exists_and_eq_and,
    hline]
  constructor
  · rintro (h | h | h)
    · exact .inl h
    · exact .inl (Nat.le_trans h (Nat.zero_le 1))
    · exact .inr h
  · rintro (h | h)
    · exact .inl h
    · exact .inr (.inr h)

/-- Whether the width is that of the longest run of carets in the lines, or one if there is no
caret in them. -/
def IsUnderline (lines : List Text) (width : Nat) : Prop :=
  IsGreatest {n | n ≠ 0 ∧ ∃ line ∈ lines, List.replicate n '^' <:+: line} width ∨
    (∀ line ∈ lines, '^' ∉ line) ∧ width = 1

theorem isUnderline_underlineWidth (lines : List Text) :
    IsUnderline lines (underlineWidth lines) := by
  have hpos : 1 ≤ underlineWidth lines := Nat.le_max_left _ _
  by_cases hcaret : ∃ line ∈ lines, '^' ∈ line
  · refine .inl ⟨⟨Nat.ne_of_gt hpos, ?_⟩, ?_⟩
    · rcases le_underlineWidth_iff.1 (Nat.le_refl (underlineWidth lines)) with hle | hrun
      · -- A caret is a run of one.
        obtain ⟨line, hline, hmem⟩ := hcaret
        rw [Nat.le_antisymm hle hpos]
        obtain ⟨before, after, rfl⟩ := List.append_of_mem hmem
        exact ⟨_, hline, before, after, by simp⟩
      · exact hrun
    · rintro n ⟨-, hrun⟩
      exact le_underlineWidth_iff.2 (.inr hrun)
  · refine .inr ⟨fun line hline hmem => hcaret ⟨line, hline, hmem⟩, ?_⟩
    rcases le_underlineWidth_iff.1 (Nat.le_refl (underlineWidth lines)) with
      hle | ⟨line, hline, hrun⟩
    · exact Nat.le_antisymm hle hpos
    · have hmem : '^' ∈ List.replicate (underlineWidth lines) '^' :=
        List.mem_replicate.2 ⟨Nat.ne_of_gt hpos, rfl⟩
      exact absurd ⟨line, hline, hrun.subset hmem⟩ hcaret

end Carets

/-! ## The last lines -/

/-- Whether lines are split before the longest run of excerpt lines at their end. -/
structure EndsWithExcerpt (lines kept excerpt : List Text) : Prop where
  lines_eq : lines = kept ++ excerpt
  isExcerpt_of_mem : ∀ line ∈ excerpt, isExcerpt line = true
  longest : ∀ run, run <:+ lines → (∀ line ∈ run, isExcerpt line = true) → run <:+ excerpt

theorem endsWithExcerpt_splitExcerpt (lines : List Text) :
    EndsWithExcerpt lines (splitExcerpt lines).1 (splitExcerpt lines).2 := by
  have happend := splitExcerpt_append_eq lines
  refine ⟨happend.symm, isExcerpt_of_mem_splitExcerpt, ?_⟩
  rintro run ⟨front, hrun⟩ hall
  rcases List.suffix_or_suffix_of_suffix ⟨front, hrun⟩ ⟨_, happend⟩ with hsuffix | ⟨more, hmore⟩
  · exact hsuffix
  · -- The last line of a longer run would be the last kept line, which is no excerpt line.
    rcases List.eq_nil_or_concat more with rfl | ⟨init, last, rfl⟩
    · rw [List.nil_append] at hmore
      exact hmore ▸ List.suffix_rfl
    · rw [List.concat_eq_append] at hmore
      have hlines : front ++ (init ++ [last]) ++ (splitExcerpt lines).2 = lines := by
        rw [List.append_assoc front, hmore, hrun]
      have hkept : (splitExcerpt lines).1 = front ++ (init ++ [last]) :=
        List.append_cancel_right (happend.trans hlines.symm)
      have hlast : isExcerpt last = false :=
        splitExcerpt_last last (by rw [hkept, ← List.append_assoc, List.getLast?_concat])
      have htrue : isExcerpt last = true := hall last (hmore ▸ by simp)
      exact absurd (htrue.symm.trans hlast) (by decide)

/-! ## The excerpt of a block -/

namespace Diagnostic

/-- **A message ends where its excerpt begins**, and the longest run of carets in the excerpt is
what is underlined. Carets in other lines do not count, be they in excerpt lines or not. -/
theorem excerpt_underlines (baseDir : Path) (block : Text) (d : Diagnostic)
    (h : ofBlock? baseDir block = some d) :
    ∃ place body kept excerpt,
      Place.IsLongest place ((trimEnd block).takeWhile (· ≠ '\n')) ∧
        HasBody (place.rest ++ (trimEnd block).dropWhile (· ≠ '\n')) body ∧
        EndsWithExcerpt (cutLines body) kept excerpt ∧
        (kept = [] → d.message = "") ∧
        (kept ≠ [] → cutLines d.message.toList = unindent kept) ∧
        (∀ line, (cutLines d.message.toList).getLast? = some line → isExcerpt line = false) ∧
        ∃ width, IsUnderline excerpt width ∧
          d.endColumn.toNat = min maxCoordinate (d.column.toNat + width) := by
  obtain ⟨place, hlongest, hread⟩ := exists_readsAs h
  let body := (HeaderTail.ofText (place.rest ++ (trimEnd block).dropWhile (· ≠ '\n'))).body
  have hmessage : d.message.toList = joinLines (unindent (splitExcerpt (cutLines body)).1) :=
    hread.message_eq
  refine ⟨place, body, _, _, hlongest, hasBody_iff.2 rfl, endsWithExcerpt_splitExcerpt _,
    fun hnil => ?_, fun hne => ?_, ?_, _, isUnderline_underlineWidth _, hread.toNat_endColumn⟩
  · rw [hnil] at hmessage
    exact String.toList_eq_nil_iff.1 hmessage
  · rw [hmessage, cutLines_unindent hne]
  · rw [hmessage]
    exact (message_of_splitExcerpt body).2

/-- Two runs of carets in the excerpt, and longer ones above it in a text line and in an excerpt
line. -/
theorem excerpt_underlines_two_runs :
    let block := ("A.hs:3:5: error: [x] \n ^^^^\n 1 | ^^^^^\n    f\n 3 | f ^\n" ++
      "   | ^^^ ^^\n").toList
    let d : Diagnostic := ⟨"/p/A.hs", 2, 4, 7, .error, "^^^^\n1 | ^^^^^\n   f", some "[x]"⟩
    ofBlock? "/p" block = some d ∧ ∃ body kept excerpt,
      EndsWithExcerpt (cutLines body) kept excerpt ∧ cutLines d.message.toList = unindent kept ∧
        IsUnderline excerpt 3 := by
  intro block d
  have hread : ofBlock? "/p" block = some d := by decide +kernel
  obtain ⟨place, body, kept, excerpt, -, -, hexcerpt, hnil, hkept, -, width, hwidth, hend⟩ :=
    excerpt_underlines "/p" block d hread
  have hne : kept ≠ [] := fun h => absurd (hnil h) (by decide)
  obtain rfl : width = 3 := by
    have hcolumns : (7 : Nat) = min 4294967295 (4 + width) := hend
    omega
  exact ⟨hread, body, kept, excerpt, hexcerpt, hkept hne, hwidth⟩

end Diagnostic

end Buildwatch
