import Buildwatch.Path
import Buildwatch.Proofs.Text.Utf8

/-!
# Joining paths and seeing them from a root

An absolute path stays as it is, and what is seen from an absolute path is absolute. A path lies
under another one if its components go on from those of the other. A path need not be text: what
is shown of it tells it apart from others only if it is.
-/

namespace Buildwatch.Path

open String (utf8EncodeChar)

variable {base path other : Path} {s t : String}

/-! ## Bytes -/

@[simp] theorem bytes_append (path other : Path) :
    (path ++ other).bytes = path.bytes ++ other.bytes :=
  rfl

theorem bytes_ofString (s : String) : (s : Path).bytes = Utf8.encode s.toList := rfl

@[simp] theorem bytes_slash : ("/" : Path).bytes = [slash] := rfl

@[simp] theorem bytes_dot : ("." : Path).bytes = [dot] := rfl

@[simp] theorem bytes_empty : ("" : Path).bytes = [] := rfl

theorem bytes_eq_nil_iff : path.bytes = [] ↔ path = "" := by
  rw [Path.ext_iff, bytes_empty]

theorem append_assoc (path other more : Path) : path ++ other ++ more = path ++ (other ++ more) :=
  Path.ext (List.append_assoc _ _ _)

@[simp] theorem append_empty (path : Path) : path ++ ("" : Path) = path :=
  Path.ext (List.append_nil _)

@[simp] theorem empty_append (path : Path) : ("" : Path) ++ path = path := Path.ext rfl

@[simp] theorem append_eq_empty_iff : path ++ other = "" ↔ path = "" ∧ other = "" := by
  simp [Path.ext_iff]

theorem append_right_inj (base : Path) : base ++ path = base ++ other ↔ path = other := by
  simp [Path.ext_iff]

/-! ## Text -/

/-- Whether the path is the bytes of a text. -/
def IsText (path : Path) : Prop := ∃ s : String, path = s

@[simp] theorem display_ofString (s : String) : display (s : Path) = s := by
  rw [display, bytes_ofString, Utf8.decodeLossy_encode, String.ofList_toList]

@[simp] theorem ofString_inj : (s : Path) = t ↔ s = t := by
  constructor
  · intro h
    rw [← display_ofString s, h, display_ofString]
  · rintro rfl
    rfl

theorem ofString_append (s t : String) : ofString (s ++ t) = (s : Path) ++ (t : Path) := by
  apply Path.ext
  simp [bytes_ofString]

theorem isText_iff : IsText path ↔ (path.display : Path) = path := by
  constructor
  · rintro ⟨s, rfl⟩
    rw [display_ofString]
  · exact fun h => ⟨path.display, h.symm⟩

theorem text?_eq_some_iff : path.text? = some s ↔ path = s := by
  rw [text?, Option.map_eq_some_iff]
  constructor
  · rintro ⟨t, ht, rfl⟩
    apply Path.ext
    rw [bytes_ofString, String.toList_ofList]
    exact Utf8.decode?_eq_some_iff.1 ht
  · rintro rfl
    exact ⟨s.toList, Utf8.decode?_eq_some_iff.2 rfl, String.ofList_toList⟩

theorem toList_display (path : Path) : path.display.toList = Utf8.decodeLossy path.bytes :=
  String.toList_ofList

theorem display_eq_empty_iff : path.display = "" ↔ path = "" := by
  rw [← bytes_eq_nil_iff, ← Utf8.decodeLossy_eq_nil_iff, ← toList_display, String.toList_eq_nil_iff]

/-- Only the bytes of a text without a replacement are shown as that text. -/
theorem display_eq_iff (h : Utf8.replacement ∉ s.toList) : path.display = s ↔ path = s := by
  constructor
  · rintro rfl
    rw [toList_display] at h
    apply Path.ext
    rw [bytes_ofString, toList_display, Utf8.encode_decodeLossy h]
  · rintro rfl
    exact display_ofString s

theorem mem_display_iff {c : Char} {b : UInt8} (hc : utf8EncodeChar c = [b]) :
    c ∈ path.display.toList ↔ b ∈ path.bytes := by
  rw [toList_display, Utf8.mem_decodeLossy_iff hc]

theorem slash_mem_bytes_iff : slash ∈ (s : Path).bytes ↔ '/' ∈ s.toList :=
  Utf8.mem_encode_iff (by decide)

/-! ## Joining -/

theorem isAbsolute_iff : isAbsolute path = true ↔ ∃ rest, path.bytes = slash :: rest := by
  rw [isAbsolute, beq_iff_eq, List.head?_eq_some_iff]

/-- An absolute text begins with a slash. -/
theorem exists_of_isAbsolute (h : isAbsolute s = true) : ∃ rest, s.toList = '/' :: rest := by
  obtain ⟨rest, hbytes⟩ := isAbsolute_iff.1 h
  cases hs : s.toList with
  | nil => simp [bytes_ofString, hs] at hbytes
  | cons c t =>
    have hone : utf8EncodeChar '/' = [slash] := by decide
    have hencode : utf8EncodeChar c ++ Utf8.encode t = utf8EncodeChar '/' ++ rest := by
      rw [hone]
      simpa [bytes_ofString, hs, Utf8.encode] using hbytes
    exact ⟨t, by rw [(Utf8.utf8EncodeChar_append_inj hencode).1]⟩

theorem isAbsolute_ofString : isAbsolute s = (s.toList.head? == some '/') := by
  rw [Bool.eq_iff_iff, beq_iff_eq, List.head?_eq_some_iff]
  refine ⟨exists_of_isAbsolute, ?_⟩
  rintro ⟨rest, h⟩
  exact isAbsolute_iff.2 ⟨Utf8.encode rest, by rw [bytes_ofString, h]; rfl⟩

theorem isAbsolute_display (h : isAbsolute path = true) : isAbsolute path.display = true := by
  obtain ⟨rest, hbytes⟩ := isAbsolute_iff.1 h
  have hslash : slash.toNat < 0x80 := by decide
  have hlossy := Utf8.decodeLossy_append_small hslash [] rest
  rw [List.nil_append, ← hbytes, ← toList_display] at hlossy
  rw [isAbsolute_ofString, hlossy]
  rfl

theorem join_of_isAbsolute (h : isAbsolute path = true) : join base path = path := by
  simp [join, h]

/-- A path seen from an absolute one is absolute. -/
theorem isAbsolute_join (h : isAbsolute base = true) : isAbsolute (join base path) = true := by
  obtain ⟨rest, hbase⟩ := isAbsolute_iff.1 h
  unfold join
  split
  · next hpath => simpa [hbase] using hpath
  · split <;> simp [isAbsolute, hbase]

/-- A text joined to a text is a text. -/
theorem isText_join (hbase : IsText base) (hpath : IsText path) : IsText (join base path) := by
  obtain ⟨s, rfl⟩ := hbase
  obtain ⟨t, rfl⟩ := hpath
  unfold join
  split
  · exact ⟨t, rfl⟩
  · split
    · exact ⟨s ++ t, (ofString_append s t).symm⟩
    · exact ⟨s ++ "/" ++ t, by rw [ofString_append, ofString_append]⟩

/-- A character of a joined path other than the slash belongs to one of the two paths. -/
theorem not_mem_join {c : Char} {b : UInt8} (hc : utf8EncodeChar c = [b]) (hslash : b ≠ slash)
    (hbase : c ∉ base.display.toList) (hpath : c ∉ path.display.toList) :
    c ∉ (join base path).display.toList := by
  rw [mem_display_iff hc] at hbase hpath ⊢
  unfold join
  split
  · exact hpath
  · split <;> simp [hbase, hpath, hslash]

/-- Two relative paths, or two absolute ones, that lead to one file are the same. -/
theorem eq_of_join_eq (h : isAbsolute path = isAbsolute other)
    (hjoin : join base path = join base other) : path = other := by
  unfold join at hjoin
  rw [h] at hjoin
  split at hjoin
  · exact hjoin
  · split at hjoin
    · exact (append_right_inj base).1 hjoin
    · exact (append_right_inj (base ++ "/")).1 hjoin

/-- A file that lies under a root is seen by the components that go on from the root. -/
theorem relativeTo?_eq_some_iff {root file : Path} {relative : String} :
    relativeTo? root file = some relative ↔
      ∃ names, components file = components root ++ names ∧
        relative = "/".intercalate (names.map display) := by
  simp only [relativeTo?, Option.map_eq_some_iff, dropFront?_eq_some_iff, eq_comm (b := relative)]

end Buildwatch.Path
