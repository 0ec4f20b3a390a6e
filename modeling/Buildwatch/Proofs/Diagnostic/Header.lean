import Buildwatch.Diagnostic.Header
import Buildwatch.Proofs.Text.Blank
import Buildwatch.Proofs.Text.Lines

/-!
# Reading a header

The place and the severity word at the front of a message are each told by a short grammar.
Both end with a colon, so blanks and further lines after them make no difference.
-/

namespace Buildwatch

open Text (isBlank isDigit isWord takeWhile_append_cons dropWhile_append_cons eq_takeWhile_append
  eq_or_mem_of_concat_eq_append)

/-! ## The place -/

/-- Whether the text is a run of digits. -/
def IsNumeral (t : Text) : Prop := t ≠ [] ∧ ∀ c ∈ t, isDigit c = true

/-- Coordinates as they are written. -/
def writtenCoordinates (line column rest : Text) : Text :=
  ':' :: (line ++ ':' :: (column ++ ':' :: rest))

/-- A place with its last colon, as it is written. -/
def writtenPlace (file line column : Text) : Text :=
  file ++ ':' :: (line ++ ':' :: (column ++ [':']))

/-- Whether coordinates are written somewhere in the text. -/
def HoldsCoordinates (t : Text) : Prop :=
  ∃ front line column rest,
    t = front ++ writtenCoordinates line column rest ∧ IsNumeral line ∧ IsNumeral column

variable {t line column rest : Text}

theorem append_writtenCoordinates (file : Text) :
    file ++ writtenCoordinates line column rest = writtenPlace file line column ++ rest := by
  simp [writtenPlace, writtenCoordinates]

theorem coordinates?_eq_some_iff :
    coordinates? t = some (line, column, rest) ↔
      t = writtenCoordinates line column rest ∧ IsNumeral line ∧ IsNumeral column := by
  have hcolon : isDigit ':' = false := by decide
  constructor
  · intro h
    unfold coordinates? at h
    split at h
    · next t =>
      split at h
      · next u hu =>
        split at h
        · next rest' hrest =>
          dsimp only at h
          split at h
          · next hne =>
            -- Only here, after both colons and with digits before each, does the reader answer.
            obtain ⟨rfl, rfl, rfl⟩ := by simpa using h
            refine ⟨?_, ⟨hne.1, ?_⟩, ⟨hne.2, ?_⟩⟩
            · rw [writtenCoordinates, ← eq_takeWhile_append hrest, ← eq_takeWhile_append hu]
            · exact fun c => List.mem_takeWhile_imp
            · exact fun c => List.mem_takeWhile_imp
          · simp at h
        · simp at h
      · simp at h
    · simp at h
  · rintro ⟨rfl, ⟨hline, hlines⟩, hcolumn, hcolumns⟩
    simp [coordinates?, writtenCoordinates, dropWhile_append_cons hlines hcolon,
      dropWhile_append_cons hcolumns hcolon, takeWhile_append_cons hlines hcolon,
      takeWhile_append_cons hcolumns hcolon, hline, hcolumn]

/-- What holds no colon does not lengthen the coordinates. -/
theorem coordinates?_append {s : Text} (hs : ':' ∉ s) :
    coordinates? (t ++ s) =
      (coordinates? t).map fun (line, column, rest) => (line, column, rest ++ s) := by
  rcases h : coordinates? t with _ | ⟨line, column, rest⟩
  · rcases h' : coordinates? (t ++ s) with _ | ⟨line, column, rest⟩
    · rfl
    · -- The last colon of the coordinates would be in `s`, or they would be in `t`.
      exfalso
      obtain ⟨heq, hline, hcolumn⟩ := coordinates?_eq_some_iff.1 h'
      have hwritten : writtenCoordinates line column rest =
          (':' :: (line ++ ':' :: column) ++ [':']) ++ rest := by simp [writtenCoordinates]
      rw [hwritten] at heq
      obtain ⟨more, hmore, hrest⟩ | ⟨more, ht, -⟩ := List.append_eq_append_iff.1 heq
      · rcases eq_or_mem_of_concat_eq_append hmore with ht | hcolon
        · have ht' : t = writtenCoordinates line column [] := by
            rw [ht]
            simp [writtenCoordinates]
          simp [coordinates?_eq_some_iff.2 ⟨ht', hline, hcolumn⟩] at h
        · exact hs (hrest ▸ List.mem_append_left _ hcolon)
      · have ht' : t = writtenCoordinates line column more := by
          rw [ht]
          simp [writtenCoordinates]
        simp [coordinates?_eq_some_iff.2 ⟨ht', hline, hcolumn⟩] at h
  · obtain ⟨rfl, hline, hcolumn⟩ := coordinates?_eq_some_iff.1 h
    exact coordinates?_eq_some_iff.2 ⟨by simp [writtenCoordinates], hline, hcolumn⟩

namespace Place

/-- A place is written as its file, its coordinates and the rest, and the file is not empty. -/
theorem ofLine?_eq_some {place : Place} (h : ofLine? t = some place) :
    t = place.file ++ writtenCoordinates place.line place.column place.rest ∧
      place.file ≠ [] ∧ IsNumeral place.line ∧ IsNumeral place.column := by
  induction t generalizing place with
  | nil => simp [ofLine?] at h
  | cons c t ih =>
    rw [ofLine?] at h
    split at h
    · next inner hinner =>
      obtain ⟨ht, -, hline, hcolumn⟩ := ih hinner
      cases h
      exact ⟨by rw [ht]; rfl, by simp, hline, hcolumn⟩
    · obtain ⟨⟨line, column, rest⟩, hc, hplace⟩ := Option.map_eq_some_iff.1 h
      obtain ⟨rfl, hline, hcolumn⟩ := coordinates?_eq_some_iff.1 hc
      cases hplace
      exact ⟨rfl, by simp, hline, hcolumn⟩

theorem ofLine?_eq_none (h : ':' ∉ t) : ofLine? t = none := by
  cases hp : ofLine? t with
  | none => rfl
  | some place =>
    rw [(ofLine?_eq_some hp).1] at h
    exact absurd (List.mem_append_right _ (by simp [writtenCoordinates])) h

/-- What holds no colon does not lengthen the file name. -/
theorem ofLine?_append {s : Text} (hs : ':' ∉ s) :
    ofLine? (t ++ s) =
      (ofLine? t).map fun place => { place with rest := place.rest ++ s } := by
  induction t with
  | nil => simpa [ofLine?] using ofLine?_eq_none hs
  | cons c t ih =>
    rw [List.cons_append, ofLine?, ofLine?, ih, coordinates?_append hs]
    cases ofLine? t <;> cases coordinates? t <;> rfl

/-- Text without a colon can be read over. -/
theorem ofLine?_cons_append_eq_none {c : Char} {s : Text} (hs : ':' ∉ s)
    (hcoordinates : coordinates? t = none) (h : ofLine? t = none) :
    ofLine? (c :: (s ++ t)) = none := by
  induction s generalizing c with
  | nil => simp [ofLine?, h, hcoordinates]
  | cons d s ih =>
    have hd : ':' ≠ d := fun hd => hs (hd ▸ List.mem_cons_self)
    have hinner : ofLine? (d :: (s ++ t)) = none := ih fun h => hs (List.mem_cons_of_mem _ h)
    rw [List.cons_append, ofLine?, hinner]
    simp [coordinates?, Ne.symm hd]

/-- No place is read in a text that holds no coordinates. -/
theorem ofLine?_cons_eq_none {c : Char} (h : ¬ HoldsCoordinates t) : ofLine? (c :: t) = none := by
  cases hplace : ofLine? (c :: t) with
  | none => rfl
  | some place =>
    obtain ⟨heq, hfile, hline, hcolumn⟩ := ofLine?_eq_some hplace
    obtain ⟨_, front, hfront⟩ := List.exists_cons_of_ne_nil hfile
    rw [hfront] at heq
    exact absurd ⟨front, _, _, _, (List.cons.inj heq).2, hline, hcolumn⟩ h

/-- The file name ends before the last coordinates. -/
theorem ofLine?_file_append {file : Text} (hfile : file ≠ [])
    (h : coordinates? t = some (line, column, rest)) (hlast : ofLine? t = none) :
    ofLine? (file ++ t) = some ⟨file, line, column, rest⟩ := by
  -- From the end of the file: its last character is where the place can begin, and each
  -- character before makes the file longer.
  induction file with
  | nil => exact absurd rfl hfile
  | cons c file ih =>
    rw [List.cons_append, ofLine?]
    by_cases hnil : file = []
    · subst hnil
      simp [hlast, h]
    · rw [ih hnil]

end Place

/-! ## The severity word -/

theorem isGap_iff {c : Char} : isGap c = true ↔ c = ' ' ∨ c = '\t' := by simp [isGap]

theorem isBlank_of_isGap {c : Char} (h : isGap c = true) : isBlank c = true := by
  rcases isGap_iff.1 h with rfl | rfl <;> decide

theorem severityWord?_eq_some_iff {word : Text} :
    severityWord? t = some (word, rest) ↔
      ∃ gap, t = gap ++ (word ++ ':' :: rest) ∧ gap ≠ [] ∧ (∀ c ∈ gap, isGap c = true) ∧
        word ≠ [] ∧ ∀ c ∈ word, isWord c = true := by
  have hcolon : isWord ':' = false := by decide +kernel
  constructor
  · intro h
    unfold severityWord? at h
    split at h
    · next hgap =>
      dsimp only at h
      split at h
      · next rest' hrest =>
        split at h
        · next hword =>
          obtain ⟨rfl, rfl⟩ := by simpa using h
          refine ⟨t.takeWhile isGap, ?_, ?_, fun c => List.mem_takeWhile_imp, hword,
            fun c => List.mem_takeWhile_imp⟩
          · rw [← eq_takeWhile_append hrest, List.takeWhile_append_dropWhile]
          · cases t with
            | nil => simp at hgap
            | cons c t => simp_all
        · simp at h
      · simp at h
    · simp at h
  · rintro ⟨gap, rfl, hne, hgap, hword, hwords⟩
    obtain ⟨g, gap, rfl⟩ := List.exists_cons_of_ne_nil hne
    obtain ⟨w, word, rfl⟩ := List.exists_cons_of_ne_nil hword
    have hg : isGap g = true := hgap g List.mem_cons_self
    -- The word does not go on with a gap, so the gap in front of it is cut off exactly.
    have hw : isGap w = false := by
      rw [Bool.eq_false_iff]
      intro hw
      simpa [Text.not_isWord_of_isBlank (isBlank_of_isGap hw)] using hwords w List.mem_cons_self
    have hdrop : (g :: gap ++ (w :: word ++ ':' :: rest)).dropWhile isGap =
        w :: word ++ ':' :: rest := dropWhile_append_cons hgap hw
    simp only [severityWord?, hdrop, takeWhile_append_cons hwords hcolon,
      dropWhile_append_cons hwords hcolon]
    simp [hg]

/-- Blanks up to the end of the line, and what follows the line, do not change the word. -/
theorem severityWord?_append {blanks more : Text} (hblanks : ∀ c ∈ blanks, isBlank c = true) :
    (severityWord? (t ++ (blanks ++ '\n' :: more))).map (·.1) = (severityWord? t).map (·.1) := by
  rcases h : severityWord? t with _ | ⟨word, rest⟩
  · rcases h' : severityWord? (t ++ (blanks ++ '\n' :: more)) with _ | ⟨word, rest⟩
    · rfl
    · exfalso
      obtain ⟨gap, heq, hgap, hgaps, hword, hwords⟩ := severityWord?_eq_some_iff.1 h'
      rw [show gap ++ (word ++ ':' :: rest) = (gap ++ word ++ [':']) ++ rest by simp] at heq
      obtain ⟨extra, hextra, hrest⟩ | ⟨extra, ht, -⟩ := List.append_eq_append_iff.1 heq
      · rcases eq_or_mem_of_concat_eq_append hextra with ht | hcolon
        · have ht' : t = gap ++ (word ++ ':' :: []) := by
            rw [ht]
            simp
          simp [severityWord?_eq_some_iff.2 ⟨gap, ht', hgap, hgaps, hword, hwords⟩] at h
        · -- The colon stands on the same line, where only blanks are.
          have hnewline : '\n' ∉ extra := by
            intro hn
            have hmem : '\n' ∈ gap ++ word ++ [':'] := hextra ▸ List.mem_append_right _ hn
            simp only [List.mem_append, List.mem_singleton] at hmem
            rcases hmem with (hmem | hmem) | hmem
            · exact absurd (hgaps _ hmem) (by decide)
            · exact absurd (hwords _ hmem) (by decide +kernel)
            · simp at hmem
          have hmem : ':' ∈ blanks := by
            obtain ⟨below, rfl, hbelow⟩ | ⟨below, rfl, -⟩ := List.append_eq_append_iff.1 hrest
            · cases below with
              | nil => simpa using hcolon
              | cons c below =>
                obtain ⟨rfl, -⟩ := List.cons.inj hbelow
                exact absurd (List.mem_append_right _ List.mem_cons_self) hnewline
            · exact List.mem_append_left _ hcolon
          exact absurd (hblanks _ hmem) (by decide)
      · have ht' : t = gap ++ (word ++ ':' :: extra) := by
          rw [ht]
          simp
        simp [severityWord?_eq_some_iff.2 ⟨gap, ht', hgap, hgaps, hword, hwords⟩] at h
  · obtain ⟨gap, rfl, hgap, hgaps, hword, hwords⟩ := severityWord?_eq_some_iff.1 h
    have happend : severityWord? (gap ++ (word ++ ':' :: rest) ++ (blanks ++ '\n' :: more)) =
        some (word, rest ++ (blanks ++ '\n' :: more)) :=
      severityWord?_eq_some_iff.2 ⟨gap, by simp, hgap, hgaps, hword, hwords⟩
    rw [happend]
    rfl

end Buildwatch
