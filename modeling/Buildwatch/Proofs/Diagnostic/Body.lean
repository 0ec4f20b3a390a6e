import Buildwatch.Proofs.Diagnostic.Reprinting

/-!
# The body of a message

After the place, a header can have a severity word, a context and a newline, with blanks
between them. Each of these parts may be missing, and belongs to the header where it is not. The
text after them is the body.
-/

namespace Buildwatch

open Text (isWord)

/-! ## Parts of a header -/

/-- What is left of a text if a part at its start is skipped, should there be one. -/
inductive Skips (IsPart : Text → Prop) : Text → Text → Prop
  | part {front rest : Text} (h : IsPart front) : Skips IsPart (front ++ rest) rest
  | missing {t : Text} (h : ∀ front rest, IsPart front → t ≠ front ++ rest) : Skips IsPart t t

/-- What is left of a text if all blanks at its start are skipped. -/
def SkipsGaps (t rest : Text) : Prop :=
  ∃ gap, t = gap ++ rest ∧ (∀ c ∈ gap, isGap c = true) ∧ ∀ c, rest.head? = some c → isGap c = false

/-- Whether the text is a severity: blanks, a word and a colon. -/
def IsSeverityPart (front : Text) : Prop :=
  ∃ gap word, front = gap ++ (word ++ [':']) ∧ gap ≠ [] ∧ (∀ c ∈ gap, isGap c = true) ∧
    word ≠ [] ∧ ∀ c ∈ word, isWord c = true

/-- Whether the text is a context: a text in brackets. -/
def IsContextPart (front : Text) : Prop :=
  ∃ inner, front = '[' :: (inner ++ [']']) ∧ inner ≠ [] ∧ ']' ∉ inner

/-- Whether the text after a place is the end of a header and this body. -/
def HasBody (t body : Text) : Prop :=
  ∃ t₁ t₂ t₃ t₄, Skips IsSeverityPart t t₁ ∧ SkipsGaps t₁ t₂ ∧ Skips IsContextPart t₂ t₃ ∧
    SkipsGaps t₃ t₄ ∧ Skips (· = ['\n']) t₄ body

/-! ## Skipping them -/

section Skips

variable {IsPart : Text → Prop} {t rest : Text}

/-- What is left is told by a function that takes off the part. -/
theorem skips_iff (read : Text → Option Text)
    (h : ∀ t rest, read t = some rest ↔ ∃ front, IsPart front ∧ t = front ++ rest) :
    Skips IsPart t rest ↔ rest = (read t).getD t := by
  constructor
  · intro hskips
    cases hskips with
    | part hpart => rw [(h _ _).2 ⟨_, hpart, rfl⟩, Option.getD_some]
    | missing hmissing =>
      cases hread : read t with
      | none => rfl
      | some rest =>
        obtain ⟨front, hpart, heq⟩ := (h _ _).1 hread
        exact absurd heq (hmissing front rest hpart)
  · rintro rfl
    cases hread : read t with
    | none =>
      refine .missing fun front rest hpart heq => ?_
      rw [(h _ _).2 ⟨front, hpart, heq⟩] at hread
      cases hread
    | some rest =>
      obtain ⟨front, hpart, rfl⟩ := (h _ _).1 hread
      exact .part hpart

theorem skipsGaps_iff : SkipsGaps t rest ↔ rest = t.dropWhile isGap := by
  constructor
  · rintro ⟨gap, rfl, hgap, hrest⟩
    rw [List.dropWhile_append_of_pos hgap]
    cases rest with
    | nil => rfl
    | cons c rest => rw [List.dropWhile_cons_of_neg (by simp [hrest c rfl])]
  · rintro rfl
    exact ⟨t.takeWhile isGap, List.takeWhile_append_dropWhile.symm,
      fun c => List.mem_takeWhile_imp, fun c => Text.eq_false_of_head?_dropWhile⟩

/-- The text without a severity at its start. -/
def afterSeverity (t : Text) : Text := ((severityWord? t).map (·.2)).getD t

theorem skips_severity_iff : Skips IsSeverityPart t rest ↔ rest = afterSeverity t := by
  refine skips_iff (fun t => (severityWord? t).map (·.2)) fun t rest => ?_
  rw [Option.map_eq_some_iff]
  constructor
  · rintro ⟨⟨word, _⟩, hread, rfl⟩
    obtain ⟨gap, rfl, hgap, hgaps, hword, hwords⟩ := severityWord?_eq_some_iff.1 hread
    exact ⟨gap ++ (word ++ [':']), ⟨gap, word, rfl, hgap, hgaps, hword, hwords⟩, by simp⟩
  · rintro ⟨_, ⟨gap, word, rfl, hgap, hgaps, hword, hwords⟩, rfl⟩
    exact ⟨(word, rest),
      severityWord?_eq_some_iff.2 ⟨gap, by simp, hgap, hgaps, hword, hwords⟩, rfl⟩

/-- The text without a context at its start. -/
def afterContext (t : Text) : Text := ((bracketed? t).map (·.2)).getD t

theorem skips_context_iff : Skips IsContextPart t rest ↔ rest = afterContext t := by
  refine skips_iff (fun t => (bracketed? t).map (·.2)) fun t rest => ?_
  rw [Option.map_eq_some_iff]
  constructor
  · rintro ⟨⟨context, _⟩, hread, rfl⟩
    obtain ⟨inner, rfl, rfl, hne, hbracket⟩ := bracketed?_eq_some hread
    exact ⟨_, ⟨inner, rfl, hne, hbracket⟩, by simp⟩
  · rintro ⟨_, ⟨inner, rfl, hne, hbracket⟩, rfl⟩
    refine ⟨('[' :: (inner ++ [']']), rest), ?_, rfl⟩
    rw [List.cons_append, List.append_assoc]
    exact bracketed?_append hne hbracket

theorem skips_newline_iff : Skips (· = ['\n']) t rest ↔ rest = dropNewline t := by
  unfold dropNewline
  constructor
  · intro h
    cases h with
    | part h =>
      subst h
      rfl
    | missing h =>
      split
      · next t => exact absurd rfl (h ['\n'] t rfl)
      · rfl
  · rintro rfl
    split
    · next t => exact @Skips.part (· = ['\n']) ['\n'] t rfl
    · next t hne =>
      refine .missing ?_
      rintro front rest rfl heq
      exact hne rest heq

end Skips

/-- A header ends where its parts do. -/
theorem body_ofText (t : Text) : (HeaderTail.ofText t).body =
    dropNewline ((afterContext ((afterSeverity t).dropWhile isGap)).dropWhile isGap) := by
  unfold HeaderTail.ofText afterSeverity
  cases severityWord? t with
  | none =>
    simp only [Option.map_none, Option.getD_none]
    unfold afterContext
    cases bracketed? (t.dropWhile isGap) <;> rfl
  | some read =>
    simp only [Option.map_some, Option.getD_some]
    unfold afterContext
    cases bracketed? (read.2.dropWhile isGap) <;> rfl

/-- The body that is read is the one body that the text has. -/
theorem hasBody_iff {t body : Text} : HasBody t body ↔ body = (HeaderTail.ofText t).body := by
  simp only [HasBody, skips_severity_iff, skipsGaps_iff, skips_context_iff, skips_newline_iff,
    body_ofText]
  constructor
  · rintro ⟨_, _, _, _, rfl, rfl, rfl, rfl, rfl⟩
    rfl
  · rintro rfl
    exact ⟨_, _, _, _, rfl, rfl, rfl, rfl, rfl⟩

end Buildwatch
