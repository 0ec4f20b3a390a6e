import Mathlib.Logic.Function.Basic
import Buildwatch.Command.Basic

/-!
# Quoted command lines are read back

A reader that knows blanks, single quotes and backslashes reads the words of a command line
back as they were. So a command line tells its command.
-/

namespace Buildwatch

namespace Quoted

variable {c : Char} {read w rest : Text}

/-! ## Characters -/

/-- A plain character means nothing to a reader. -/
theorem isSeparator_eq_false_of_isPlain (h : isPlain c = true) :
    isSeparator c = false ∧ c ≠ '\'' ∧ c ≠ '\\' := by
  have hspecial : [' ', '\t', '\n', '\'', '\\'].all (!isPlain ·) = true := by decide
  have hne : ∀ d ∈ [' ', '\t', '\n', '\'', '\\'], c ≠ d := by
    rintro d hd rfl
    have hplain := List.all_eq_true.1 hspecial c hd
    simp [h] at hplain
  simp only [List.mem_cons, List.not_mem_nil, or_false, forall_eq_or_imp, forall_eq] at hne
  simpa [isSeparator, and_assoc] using hne

/-! ## One word -/

/-- Outside of quotes, plain characters are read as they are. -/
theorem wordsFrom?_bare_append (h : ∀ c ∈ w, isPlain c = true) (read rest : Text) :
    wordsFrom? (.bare read) (w ++ rest) = wordsFrom? (.bare (w.reverse ++ read)) rest := by
  induction w generalizing read with
  | nil => rfl
  | cons c w ih =>
    obtain ⟨hseparator, hquote, hbackslash⟩ :=
      isSeparator_eq_false_of_isPlain (h c List.mem_cons_self)
    have hw := ih (fun c hc => h c (List.mem_cons_of_mem _ hc)) (c :: read)
    simp [wordsFrom?, hseparator, hquote, hbackslash, hw]

/-- Inside of quotes, an escaped text is read as what it stands for. -/
theorem wordsFrom?_quoted_escape (w read rest : Text) :
    wordsFrom? (.quoted read) (escape w ++ rest) =
      wordsFrom? (.quoted (w.reverse ++ read)) rest := by
  induction w generalizing read with
  | nil => rfl
  | cons c w ih =>
    rw [escape, List.flatMap_cons, List.append_assoc, ← escape]
    by_cases hescaped : isEscaped c = true
    · -- The character is read between two stretches of quotes.
      have hc : c ≠ '\n' := by
        rintro rfl
        exact absurd hescaped (by decide)
      simp [wordsFrom?, hescaped, hc, ih, isSeparator]
    · have hc : c ≠ '\'' := by
        rintro rfl
        exact hescaped (by decide)
      simp [wordsFrom?, hescaped, hc, ih]

/-- A written word is read as the word, which goes on with whatever follows. -/
theorem wordsFrom?_blank_word (w rest : Text) :
    wordsFrom? .blank (word w ++ rest) = wordsFrom? (.bare w.reverse) rest := by
  unfold word
  split
  · next hplain =>
    obtain ⟨hne, hall⟩ := hplain
    obtain ⟨c, w, rfl⟩ := List.exists_cons_of_ne_nil hne
    rw [List.all_cons, Bool.and_eq_true, List.all_eq_true] at hall
    obtain ⟨hseparator, hquote, hbackslash⟩ := isSeparator_eq_false_of_isPlain hall.1
    simp [wordsFrom?, hseparator, hquote, hbackslash, wordsFrom?_bare_append hall.2]
  · have hquoted : wordsFrom? (.quoted []) (escape w ++ '\'' :: rest) =
        wordsFrom? (.bare w.reverse) rest := by
      simp [wordsFrom?_quoted_escape, wordsFrom?]
    simpa [wordsFrom?, isSeparator] using hquoted

/-! ## All words -/

/-- The words of a line are read back. -/
theorem words?_line (ws : List Text) : words? (line ws) = some ws := by
  unfold words?
  induction ws with
  | nil => rfl
  | cons w ws ih =>
    cases ws with
    | nil =>
      have hword := wordsFrom?_blank_word w []
      rw [List.append_nil] at hword
      simp [line, hword, wordsFrom?]
    | cons w' ws =>
      -- The blank between two words ends the first one.
      rw [line, wordsFrom?_blank_word]
      · simp [wordsFrom?, isSeparator, ih]
      · simp

end Quoted

/-- **A command line denotes its command.** Cut into words at the blanks outside of quotes, and
with its quotes removed, it gives the program and the arguments; so no two invocations have the
same command line. -/
theorem Invocation.commandLine_denotes :
    (∀ i : Invocation, (Quoted.words? i.commandLine.toList).map (·.map String.ofList) =
      some (i.program :: i.args)) ∧ Function.Injective Invocation.commandLine := by
  have hwords : ∀ i : Invocation, Quoted.words? i.commandLine.toList =
      some ((i.program :: i.args).map String.toList) := by
    intro i
    rw [commandLine, String.toList_ofList]
    exact Quoted.words?_line _
  have hread : ∀ i : Invocation, (Quoted.words? i.commandLine.toList).map (·.map String.ofList) =
      some (i.program :: i.args) := by
    intro i
    simp [hwords, Function.comp_def]
  refine ⟨hread, fun i j heq => ?_⟩
  have hsame := hread i
  rw [heq, hread j] at hsame
  obtain ⟨program, args⟩ := i
  cases j
  cases hsame
  rfl

/-- An empty word, a blank, a quote and an exclamation mark. -/
example : (Invocation.mk "sh" ["", "it's a", "go!"]).commandLine =
    "sh '' 'it'\\''s a' 'go'\\!''" := by decide +kernel

end Buildwatch
