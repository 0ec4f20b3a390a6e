import Buildwatch.Proofs.Diagnostic.Reprinting

/-!
# The leading place

A header that begins with a place may name further places in its text. The one with the
longest file name counts, so a place in the text reaches over the leading one. The diagnostic
is about the leading place exactly if the rest of the first line holds no coordinates; what is
written on further lines has no part in it.
-/

namespace Buildwatch

/-! ## Text before and after a place -/

variable {t front file line column : Text}

/-- The coordinates at the end of a longer text can be the same. -/
theorem holdsCoordinates_cons_iff {c : Char} (hc : c ≠ ':') :
    HoldsCoordinates (c :: t) ↔ HoldsCoordinates t := by
  constructor
  · rintro ⟨before, line, column, rest, heq, hline, hcolumn⟩
    cases before with
    | nil => exact absurd (List.cons.inj heq).1 hc
    | cons d before => exact ⟨before, line, column, rest, (List.cons.inj heq).2, hline, hcolumn⟩
  · intro h
    exact h.of_infix (List.suffix_cons c t).isInfix

namespace Place

variable {place : Place}

/-- What stands before a place is a part of its file name. -/
theorem ofLine?_append_left (h : ofLine? t = some place) :
    ofLine? (front ++ t) = some { place with file := front ++ place.file } := by
  induction front with
  | nil => exact h
  | cons c front ih => rw [List.cons_append, ofLine?, ih]; rfl

/-- Behind a character that begins no coordinates, a place is read exactly if the text holds
coordinates. -/
theorem ofLine?_cons_eq_none_iff {c : Char} :
    ofLine? (c :: t) = none ↔ ¬ HoldsCoordinates t := by
  refine ⟨fun h => ?_, ofLine?_cons_eq_none⟩
  rintro ⟨before, line, column, rest, rfl, hline, hcolumn⟩
  have hwrites : Writes ⟨c :: before, line, column, rest⟩
      (c :: (before ++ writtenCoordinates line column rest)) :=
    ⟨rfl, List.cons_ne_nil _ _, hline, hcolumn⟩
  obtain ⟨place, hplace, -⟩ := hwrites.exists_ofLine?
  rw [h] at hplace
  cases hplace

end Place

/-- The leading place is read if no coordinates follow on the line. -/
theorem ofLine?_writtenPlace {rest : Text} (hfile : file ≠ []) (hline : IsNumeral line)
    (hcolumn : IsNumeral column) (h : ¬ HoldsCoordinates rest) :
    Place.ofLine? (writtenPlace file line column ++ ' ' :: rest) =
      some ⟨file, line, column, ' ' :: rest⟩ := by
  have hspace : ¬ HoldsCoordinates (' ' :: rest) := by
    rwa [holdsCoordinates_cons_iff (by decide)]
  rw [← append_writtenCoordinates]
  exact Diagnostic.ofLine?_append_space hfile hline hcolumn (Place.ofLine?_cons_eq_none hspace)

/-- Otherwise the last place of the line is read, and the leading one with it. -/
theorem exists_isLongest_of_holdsCoordinates {rest : Text} (h : HoldsCoordinates rest) :
    ∃ later : Place, later.IsLongest (' ' :: rest) := by
  cases hlater : Place.ofLine? (' ' :: rest) with
  | none => exact absurd h (Place.ofLine?_cons_eq_none_iff.1 hlater)
  | some later => exact ⟨later, Place.ofLine?_eq_some_iff.1 hlater⟩

/-! ## The diagnostic -/

theorem Place.Tells.file_eq_join {baseDir : Path} {place : Place} {d : Diagnostic}
    (h : place.Tells baseDir d) : d.file = Path.join baseDir (String.ofList place.file) := by
  rw [h.file_eq]
  split
  · next habsolute => exact (Path.join_of_isAbsolute habsolute).symm
  · rfl

/-- The place whose file name begins with a leading place. -/
def Place.reachingOver (later : Place) (file line column : Text) : Place :=
  { later with file := writtenPlace file line column ++ later.file }

/-- A file name that reaches over the leading place is that of another file. -/
theorem file_ne_of_reachingOver {baseDir : Path} {later : Place} {d : Diagnostic}
    (hfile : file ≠ []) (h : (later.reachingOver file line column).Tells baseDir d) :
    d.file ≠ Path.join baseDir (String.ofList file) := by
  obtain ⟨c, cs, rfl⟩ := List.exists_cons_of_ne_nil hfile
  have habsolute : Path.isAbsolute (String.ofList (later.reachingOver (c :: cs) line column).file) =
      Path.isAbsolute (String.ofList (c :: cs)) := by
    simp [Path.isAbsolute_ofString, Place.reachingOver, writtenPlace]
  intro heq
  have hjoin := h.file_eq_join.symm.trans heq
  have hsame := String.ofList_injective (Path.ofString_inj.1 (Path.eq_of_join_eq habsolute hjoin))
  have hlength := congrArg List.length hsame
  simp [Place.reachingOver, writtenPlace] at hlength

namespace Diagnostic

variable {baseDir : Path} {rest : Text}

/-- The heading of a block that begins with a place is told by its first line. -/
theorem map_heading_writtenPlace (hnewline : '\n' ∉ file) (hline : IsNumeral line)
    (hcolumn : IsNumeral column) :
    (ofBlock? baseDir (writtenPlace file line column ++ ' ' :: rest)).map heading =
      (Place.ofLine? (writtenPlace file line column ++ ' ' :: rest.takeWhile (· ≠ '\n'))).bind
        fun place => headingOf? baseDir place place.rest := by
  have hplace : '\n' ∉ writtenPlace file line column ++ [' '] := by
    simp [newline_not_mem_writtenPlace hnewline hline hcolumn]
  have hsplit (tail : Text) : writtenPlace file line column ++ ' ' :: tail =
      writtenPlace file line column ++ [' '] ++ tail := by simp
  have hfirst : (writtenPlace file line column ++ ' ' :: rest).takeWhile (· ≠ '\n') =
      writtenPlace file line column ++ ' ' :: rest.takeWhile (· ≠ '\n') ++ [] := by
    rw [hsplit rest, hsplit (rest.takeWhile _),
      List.takeWhile_append_of_pos (Text.all_ne_newline hplace), List.append_nil]
  exact map_heading_first hfirst (by simp)

/-- A block with the heading of a place is a diagnostic if the coordinates are numbers, and says
what the place tells. -/
theorem tells_of_map_heading {block text : Text} {place : Place} (hplace : place.Writes text)
    (h : (ofBlock? baseDir block).map heading = headingOf? baseDir place place.rest) :
    ((ofBlock? baseDir block).isSome = true ↔ IsNumber place.line ∧ IsNumber place.column) ∧
      ∀ d, ofBlock? baseDir block = some d → place.Tells baseDir d := by
  constructor
  · have hsome := congrArg Option.isSome h
    rw [Option.isSome_map] at hsome
    rw [hsome, isSome_headingOf?, Bool.and_eq_true,
      isSome_coordinate?_iff hplace.isNumeral_line.1,
      isSome_coordinate?_iff hplace.isNumeral_column.1]
  · intro d hd
    rw [hd, Option.map_some] at h
    exact tells_of_heading hplace h.symm

/-- **The leading place counts exactly if no coordinates follow on its line.** Where some do,
the last place of the line is read: a diagnostic is about another file, whose name begins with
the leading place, and there is none if the last coordinates are no numbers. -/
theorem leading_place_counts (baseDir : Path) (file line column rest : Text)
    (hfile : file ≠ []) (hnewline : '\n' ∉ file) (hline : line ≠ []) (hcolumn : column ≠ [])
    (hlines : IsNumber line) (hcolumns : IsNumber column) :
    let block := writtenPlace file line column ++ ' ' :: rest
    let text := rest.takeWhile (· ≠ '\n')
    ((∃ d, ofBlock? baseDir block = some d ∧
        (⟨file, line, column, ' ' :: text⟩ : Place).Tells baseDir d) ↔ ¬ HoldsCoordinates text) ∧
      ∀ later : Place, later.IsLongest (' ' :: text) →
        ((ofBlock? baseDir block).isSome = true ↔ IsNumber later.line ∧ IsNumber later.column) ∧
        ∀ d, ofBlock? baseDir block = some d →
          (later.reachingOver file line column).Tells baseDir d ∧
            d.file ≠ Path.join baseDir (String.ofList file) := by
  intro block text
  have hnumeral : IsNumeral line := ⟨hline, fun c hc => Text.isDigit_of_ascii (hlines.1 c hc)⟩
  have hnumeral' : IsNumeral column :=
    ⟨hcolumn, fun c hc => Text.isDigit_of_ascii (hcolumns.1 c hc)⟩
  have hheading : (ofBlock? baseDir block).map heading =
      (Place.ofLine? (writtenPlace file line column ++ ' ' :: text)).bind
        fun place => headingOf? baseDir place place.rest :=
    map_heading_writtenPlace hnewline hnumeral hnumeral'
  have hlater : ∀ later : Place, later.IsLongest (' ' :: text) →
      ((ofBlock? baseDir block).isSome = true ↔ IsNumber later.line ∧ IsNumber later.column) ∧
      ∀ d, ofBlock? baseDir block = some d →
        (later.reachingOver file line column).Tells baseDir d ∧
          d.file ≠ Path.join baseDir (String.ofList file) := by
    intro later hlongest
    have hread : Place.ofLine? (writtenPlace file line column ++ ' ' :: text) =
        some (later.reachingOver file line column) :=
      Place.ofLine?_append_left (Place.ofLine?_eq_some_iff.2 hlongest)
    rw [hread, Option.bind_some] at hheading
    obtain ⟨hsome, htells⟩ := tells_of_map_heading (Place.writes_of_ofLine? hread) hheading
    exact ⟨hsome, fun d hd => ⟨htells d hd, file_ne_of_reachingOver hfile (htells d hd)⟩⟩
  refine ⟨⟨?_, ?_⟩, hlater⟩
  · -- A later place would be about another file.
    rintro ⟨d, hd, htells⟩ hholds
    obtain ⟨later, hlongest⟩ := exists_isLongest_of_holdsCoordinates hholds
    exact ((hlater later hlongest).2 d hd).2 htells.file_eq_join
  · intro hholds
    have hread := ofLine?_writtenPlace hfile hnumeral hnumeral' hholds
    rw [hread, Option.bind_some] at hheading
    obtain ⟨hsome, htells⟩ := tells_of_map_heading (Place.writes_of_ofLine? hread) hheading
    obtain ⟨d, hd⟩ := Option.isSome_iff_exists.1 (hsome.2 ⟨hlines, hcolumns⟩)
    exact ⟨d, hd, htells d hd⟩

/-- A place on the second line does not count, and neither does half a place on the first. -/
theorem leading_place_counts_above :
    let text := "Warning: see B.hs:2: x".toList
    let block := writtenPlace "A.hs".toList "007".toList ['3'] ++
      ' ' :: (text ++ "\nC.hs:4:5: y".toList)
    ¬ HoldsCoordinates text ∧ ∃ d, ofBlock? "/p" block = some d ∧
      (⟨"A.hs".toList, "007".toList, ['3'], ' ' :: text⟩ : Place).Tells "/p" d := by
  intro text block
  have hholds : ¬ HoldsCoordinates text := Place.ofLine?_cons_eq_none_iff.1
    (show Place.ofLine? (' ' :: text) = none by decide)
  have hline : IsNumber "007".toList := ⟨List.all_eq_true.1 rfl, by decide⟩
  have hcolumn : IsNumber ['3'] := ⟨List.all_eq_true.1 rfl, by decide⟩
  have hcounts := leading_place_counts "/p" "A.hs".toList "007".toList ['3']
    (text ++ "\nC.hs:4:5: y".toList) (by decide) (by decide) (by decide) (by decide) hline hcolumn
  exact ⟨hholds, hcounts.1.2 hholds⟩

/-- It is not so that a leading place always counts: one in the message can reach over it. -/
theorem leading_place_overreached :
    ¬ ∀ (baseDir : Path) (file line column rest : Text), file ≠ [] → ':' ∉ file → '\n' ∉ file →
      line ≠ [] → column ≠ [] → IsNumber line → IsNumber column →
      ∃ d, ofBlock? baseDir (writtenPlace file line column ++ ' ' :: rest) = some d ∧
        d.file = Path.join baseDir (String.ofList file) ∧
        d.line.toNat = Nat.ofDigitChars 10 line 0 - 1 ∧
        d.column.toNat = Nat.ofDigitChars 10 column 0 - 1 := by
  intro h
  have hnumber : IsNumber ['1'] := ⟨List.all_eq_true.1 rfl, by decide⟩
  obtain ⟨d, hd, hfile, -⟩ := h "/p" "A.hs".toList ['1'] ['1'] "error: see B.hs:2:3: x".toList
    (by decide) (by decide) (by decide) (by decide) (by decide) hnumber hnumber
  have hread : (ofBlock? "/p" "A.hs:1:1: error: see B.hs:2:3: x".toList).map (·.file) =
      some (Path.ofString "/p/A.hs:1:1: error: see B.hs") := by decide
  rw [show "A.hs:1:1: error: see B.hs:2:3: x".toList =
    writtenPlace "A.hs".toList ['1'] ['1'] ++ ' ' :: "error: see B.hs:2:3: x".toList by decide,
    hd, Option.map_some, hfile] at hread
  exact absurd hread (by decide)

end Diagnostic

end Buildwatch
