import Mathlib.Order.Bounds.Defs
import Mathlib.Order.Nat
import Buildwatch.Proofs.Diagnostic.LeadingPlace

/-!
# Locations

The numbers of a diagnostic that was read leave room for counting from one: no sum and no
difference of them leaves thirty-two bits. Its location tells the place, and the last column
if more than one is underlined. A location of one column is read again as the place it tells.
-/

namespace Buildwatch.Diagnostic

variable {d : Diagnostic} {baseDir : Path}

/-! ## Numbers within bounds -/

/-- Whether the numbers of a diagnostic can be counted from one, and the underlined columns too,
without an overflow. -/
structure Counts (d : Diagnostic) : Prop where
  line_le : d.line.toNat ≤ 4294967294
  column_le : d.column.toNat ≤ 4294967294
  column_lt : d.column < d.endColumn

theorem counts_of_ofBlock? {block : Text} (h : ofBlock? baseDir block = some d) : d.Counts := by
  obtain ⟨place, hlongest, hread⟩ := exists_readsAs h
  have hline := lt_of_coordinate? hlongest.1.isNumeral_line.1 hread.line_eq
  have hcolumn := lt_of_coordinate? hlongest.1.isNumeral_column.1 hread.column_eq
  exact ⟨Nat.le_of_lt_succ hline, Nat.le_of_lt_succ hcolumn, hread.lt_endColumn hcolumn⟩

theorem toNat_succ_of_le {n : UInt32} (h : n.toNat ≤ 4294967294) :
    (n + 1).toNat = n.toNat + 1 := by
  rw [UInt32.toNat_add, UInt32.toNat_one, Nat.mod_eq_of_lt (by omega)]

theorem column_add_underlineLength (d : Diagnostic) :
    d.column + d.underlineLength = d.endColumn := by
  rw [underlineLength, UInt32.add_comm, UInt32.sub_add_cancel]

namespace Counts

variable (h : d.Counts)

include h

theorem toNat_underlineLength :
    d.underlineLength.toNat = d.endColumn.toNat - d.column.toNat :=
  UInt32.toNat_sub_of_le _ _ (UInt32.le_of_lt h.column_lt)

theorem one_le_underlineLength : 1 ≤ d.underlineLength.toNat := by
  have hlt := UInt32.lt_iff_toNat_lt.1 h.column_lt
  rw [h.toNat_underlineLength]
  omega

/-- Counted from one, the end of the underline is the number of its last column. -/
theorem isGreatest_column :
    IsGreatest {n | ∃ c, d.column.toNat ≤ c ∧ c < d.endColumn.toNat ∧ n = c + 1}
      d.endColumn.toNat := by
  have hlt := UInt32.lt_iff_toNat_lt.1 h.column_lt
  refine ⟨⟨d.endColumn.toNat - 1, by omega, by omega, by omega⟩, ?_⟩
  rintro n ⟨c, -, hc, rfl⟩
  exact hc

end Counts

/-! ## What a location tells -/

/-- Whether the location of a diagnostic is its place and a suffix. The suffix is there exactly
if more than one column is underlined, and tells the last one. -/
structure HasLocation (d : Diagnostic) (suffix : Text) : Prop where
  location_eq : d.location.toList = d.file.display.toList ++
    ':' :: (Nat.toDigits 10 (d.line + 1).toNat ++
      ':' :: (Nat.toDigits 10 (d.column + 1).toNat ++ suffix))
  suffix_ne_nil_iff : suffix ≠ [] ↔ 1 < d.underlineLength.toNat
  suffix_eq : suffix ≠ [] → suffix = '-' :: Nat.toDigits 10 (d.column + d.underlineLength).toNat

theorem toList_location (d : Diagnostic) :
    d.location.toList = d.file.display.toList ++ ':' :: (Nat.toDigits 10 (d.line.toNat + 1) ++
      ':' :: (Nat.toDigits 10 (d.column.toNat + 1) ++
        if d.underlineLength > 1 then '-' :: Nat.toDigits 10 d.endColumn.toNat else [])) := by
  unfold location
  split <;> simp [toString]

theorem Counts.exists_hasLocation (h : d.Counts) : ∃ suffix, d.HasLocation suffix := by
  have hline := toNat_succ_of_le h.line_le
  have hcolumn := toNat_succ_of_le h.column_le
  have hiff : d.underlineLength > 1 ↔ 1 < d.underlineLength.toNat := UInt32.lt_iff_toNat_lt
  by_cases hwide : d.underlineLength > 1
  · refine ⟨'-' :: Nat.toDigits 10 d.endColumn.toNat, ?_, ?_, fun _ => ?_⟩
    · rw [toList_location, if_pos hwide, hline, hcolumn]
    · exact ⟨fun _ => hiff.1 hwide, fun _ => List.cons_ne_nil _ _⟩
    · rw [column_add_underlineLength]
  · refine ⟨[], ?_, ?_, fun hne => absurd rfl hne⟩
    · rw [toList_location, if_neg hwide, hline, hcolumn]
    · exact ⟨fun hne => absurd rfl hne, fun hlt => absurd (hiff.2 hlt) hwide⟩

/-- Without a suffix, a location with a colon is a place as it is written. -/
theorem HasLocation.append_colon (h : d.HasLocation []) :
    d.location.toList ++ [':'] = writtenPlace d.file.display.toList
      (Nat.toDigits 10 (d.line + 1).toNat) (Nat.toDigits 10 (d.column + 1).toNat) := by
  simp [h.location_eq, writtenPlace]

/-! ## Reading a location -/

/-- A place alone is read as it is written. -/
theorem map_heading_place {file : Text} {line column : UInt32} (baseDir : Path)
    (hfile : file ≠ []) (hnewline : '\n' ∉ file) (hline : line.toNat < maxCoordinate)
    (hcolumn : column.toNat < maxCoordinate) :
    (ofBlock? baseDir (writtenPlace file (Nat.toDigits 10 (line.toNat + 1))
        (Nat.toDigits 10 (column.toNat + 1)))).map heading =
      some (Path.join baseDir (String.ofList file), line, column, .error) := by
  have hlines := isNumeral_toDigits (line.toNat + 1)
  have hcolumns := isNumeral_toDigits (column.toNat + 1)
  have hholds : ¬ HoldsCoordinates [] := by
    rintro ⟨front, _, _, _, heq, -⟩
    simp [writtenCoordinates] at heq
  -- A space at the end is trimmed away.
  have hspace : Text.isBlank ' ' = true := by decide
  have htrim : ∀ c ∈ [' '], Text.isBlank c = true := by simp [hspace]
  rw [← ofBlock?_congr (Text.trimEnd_append_of_all htrim),
    map_heading_writtenPlace hnewline hlines hcolumns, List.takeWhile_nil,
    ofLine?_writtenPlace hfile hlines hcolumns hholds]
  simp only [Option.bind_some, headingOf?, coordinate?_toDigits hline, coordinate?_toDigits hcolumn]
  rfl

theorem HasLocation.exists_ofBlock? (h : d.HasLocation []) (hd : d.shown.HeaderReadable)
    (hcounts : d.Counts) (baseDir : Path) :
    ∃ d', ofBlock? baseDir (d.location.toList ++ [':']) = some d' ∧
      d'.file = d.file.display ∧ d'.line = d.line ∧ d'.column = d.column := by
  have habsolute : Path.isAbsolute d.file.display = true := hd.absolute
  obtain ⟨_, hroot⟩ := Path.exists_of_isAbsolute habsolute
  have hfile : d.file.display.toList ≠ [] := hroot ▸ List.cons_ne_nil _ _
  have hline : '\n' ∉ d.file.display.toList := display_file_shown d ▸ hd.file_line
  have hheading := map_heading_place baseDir hfile hline hd.line_lt hd.column_lt
  rw [String.ofList_toList, Path.join_of_isAbsolute habsolute] at hheading
  obtain ⟨d', hd', heq⟩ := Option.map_eq_some_iff.1 hheading
  rw [h.append_colon, toNat_succ_of_le hcounts.line_le, toNat_succ_of_le hcounts.column_le]
  simp only [heading, Prod.mk.injEq] at heq
  exact ⟨d', hd', heq.1, heq.2.1, heq.2.2.1⟩

end Buildwatch.Diagnostic
