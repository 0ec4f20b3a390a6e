import Buildwatch.Proofs.Path.Components
import Buildwatch.Proofs.Text.Lines

/-!
# Files seen from a root

A file lies under a root if its components go on from those of the root, and is then seen by the
names that follow, as they are shown. How the root and the file are spelled plays no part, and a
name that begins like that of the root leads elsewhere. A name that is no text is shown by another
one, so that a file with such a name cannot be found again by the way in which it is seen.
-/

namespace Buildwatch.Path

open Text (cutAt cutAt_append_separator cutAt_eq_splitOn cutAt_ne_nil not_mem_of_mem_cutAt)

variable {root file path name piece more : Path} {names rest : List Path} {text : String}
  {texts : List String}

/-! ## Names that are text -/

theorem isName_ofString_iff :
    IsName text ↔ text.toList ≠ [] ∧ text.toList ≠ ['.'] ∧ '/' ∉ text.toList := by
  constructor
  · rintro ⟨hempty, hdot, hslash⟩
    refine ⟨fun h => hempty ?_, fun h => hdot ?_, mt slash_mem_bytes_iff.2 hslash⟩
    · rw [bytes_ofString, h]
      rfl
    · rw [bytes_ofString, h]
      rfl
  · rintro ⟨hempty, hdot, hslash⟩
    refine ⟨fun h => hempty ?_, fun h => hdot ?_, mt slash_mem_bytes_iff.1 hslash⟩
    · rw [ofString_inj.1 (bytes_eq_nil_iff.1 h)]
      rfl
    · rw [ofString_inj.1 (Path.ext h : (text : Path) = ".")]
      rfl

/-- Neither a slash nor a name of another kind comes about where a name is shown. -/
theorem isName_display (h : IsName name) : IsName name.display := by
  refine isName_ofString_iff.2 ⟨fun hempty => ?_, fun hdot => ?_, fun hslash => ?_⟩
  · exact h.ne_nil (bytes_eq_nil_iff.2 (display_eq_empty_iff.1 (String.toList_eq_nil_iff.1 hempty)))
  · have hshown : name.display = "." := String.ext hdot
    rw [display_eq_iff (by decide)] at hshown
    exact h.ne_dot (congrArg bytes hshown)
  · exact h.slash_not_mem ((mem_display_iff (by decide)).1 hslash)

theorem cutAt_encode (t : Text) : cutAt slash (Utf8.encode t) = (cutAt '/' t).map Utf8.encode := by
  have hslash : Utf8.encode ['/'] = [slash] := rfl
  have hpieces : ∀ piece ∈ (cutAt '/' t).map Utf8.encode, slash ∉ piece :=
    List.forall_mem_map.2 fun piece hpiece =>
      mt (Utf8.mem_encode_iff (by decide)).1 (not_mem_of_mem_cutAt hpiece)
  have hne : (cutAt '/' t).map Utf8.encode ≠ [] := mt List.map_eq_nil_iff.1 cutAt_ne_nil
  have ht : Utf8.encode t = [slash].intercalate ((cutAt '/' t).map Utf8.encode) := by
    rw [← hslash, ← Utf8.encode_intercalate, cutAt_eq_splitOn, List.intercalate_splitOn]
  conv_lhs => rw [ht, cutAt_eq_splitOn, List.splitOn_intercalate _ hpieces hne]

/-- The names in a text are texts. -/
theorem isText_of_mem_namesIn {t : Text} (h : name ∈ namesIn (Utf8.encode t)) : IsText name := by
  simp only [namesIn, cutAt_encode, List.mem_map, List.mem_filter] at h
  obtain ⟨_, ⟨⟨piece, _, rfl⟩, _⟩, rfl⟩ := h
  exact ⟨String.ofList piece, Path.ext (by rw [bytes_ofString, String.toList_ofList])⟩

/-! ## Names with slashes between them -/

/-- A relative path made of names with single slashes between them; it may have none. -/
structure IsPlain (text : String) : Prop where
  head?_ne : text.toList.head? ≠ some '/'
  getLast?_ne : text.toList.getLast? ≠ some '/'
  pieces : text ≠ "" → ∀ piece ∈ cutAt '/' text.toList, piece ≠ [] ∧ piece ≠ ['.']

theorem isPlain_of_pieces
    (h : text ≠ "" → ∀ piece ∈ cutAt '/' text.toList, piece ≠ [] ∧ piece ≠ ['.']) :
    IsPlain text := by
  -- A slash at an end of the path would have an empty piece beside it.
  have hempty (hne : text ≠ "") : [] ∉ cutAt '/' text.toList := fun hmem => (h hne [] hmem).1 rfl
  refine ⟨?_, ?_, h⟩
  · intro hhead
    obtain ⟨t, ht⟩ := List.head?_eq_some_iff.1 hhead
    have hne : text ≠ "" := by rintro rfl; simp at ht
    apply hempty hne
    simp [ht, cutAt]
  · intro hlast
    obtain ⟨t, ht⟩ := List.getLast?_eq_some_iff.1 hlast
    have hne : text ≠ "" := by rintro rfl; simp at ht
    apply hempty hne
    rw [ht, cutAt_append_separator]
    simp [cutAt]

theorem IsPlain.isAbsolute_eq (h : IsPlain text) : isAbsolute text = false := by
  rw [isAbsolute_ofString, beq_eq_false_iff_ne]
  exact h.head?_ne

theorem cutAt_intercalate (hne : texts ≠ []) (h : ∀ text ∈ texts, IsName text) :
    cutAt '/' ("/".intercalate texts).toList = texts.map String.toList := by
  have hpieces : ∀ piece ∈ texts.map String.toList, '/' ∉ piece :=
    List.forall_mem_map.2 fun text htext => (isName_ofString_iff.1 (h text htext)).2.2
  have hmap : texts.map String.toList ≠ [] := mt List.map_eq_nil_iff.1 hne
  rw [String.toList_intercalate, cutAt_eq_splitOn]
  exact List.splitOn_intercalate '/' hpieces hmap

theorem isPlain_intercalate (h : ∀ text ∈ texts, IsName text) :
    IsPlain ("/".intercalate texts) := by
  apply isPlain_of_pieces
  intro hne
  have htexts : texts ≠ [] := by rintro rfl; exact hne String.intercalate_nil
  rw [cutAt_intercalate htexts h, List.forall_mem_map]
  intro text htext
  obtain ⟨hempty, hdot, -⟩ := isName_ofString_iff.1 (h text htext)
  exact ⟨hempty, hdot⟩

theorem namesIn_intercalate (h : ∀ text ∈ texts, IsName text) :
    namesIn (ofString ("/".intercalate texts)).bytes = texts.map ofString := by
  by_cases hne : texts = []
  · subst hne
    rfl
  · have hpieces : (texts.map String.toList).map Utf8.encode =
        texts.map fun text => (ofString text).bytes := by
      rw [List.map_map]
      rfl
    have hkept : ∀ piece ∈ texts.map fun text => (ofString text).bytes,
        decide (piece ≠ [] ∧ piece ≠ [dot]) = true := by
      rw [List.forall_mem_map]
      exact fun text htext => decide_eq_true ⟨(h text htext).ne_nil, (h text htext).ne_dot⟩
    rw [namesIn, bytes_ofString, cutAt_encode, cutAt_intercalate hne h, hpieces,
      List.filter_eq_self.2 hkept, List.map_map]
    rfl

/-! ## Joining -/

theorem components_join (hroot : root ≠ "") (h : isAbsolute path = false) :
    components (join root path) = components root ++ namesIn path.bytes := by
  rw [← components_append hroot]
  exact (Respells.join hroot h).components_eq.symm

/-! ## Inside and outside -/

theorem exists_relativeTo?_iff :
    (∃ relative, relativeTo? root file = some relative) ↔ components root <+: components file := by
  simp only [relativeTo?_eq_some_iff]
  constructor
  · rintro ⟨-, names, hfile, -⟩
    exact ⟨names, hfile.symm⟩
  · rintro ⟨names, hfile⟩
    exact ⟨_, names, hfile.symm, rfl⟩

theorem mem_namesIn_of_mem_rest (hroot : root ≠ "")
    (hfile : components file = components root ++ rest) (h : name ∈ rest) :
    name ∈ namesIn file.bytes := by
  have hcomponents : components root ≠ [] := fun hnil => hroot (components_eq_nil_iff.1 hnil)
  apply mem_namesIn_of_mem_tail
  rw [hfile, List.tail_append_of_ne_nil hcomponents]
  exact List.mem_append_right _ h

/-- A path goes to its first slash, if it has one. -/
theorem exists_first_piece (path : Path) :
    ∃ piece : Path, slash ∉ piece.bytes ∧
      (path = piece ∨ ∃ below, path = piece ++ "/" ++ below) := by
  by_cases hslash : slash ∈ path.bytes
  · obtain ⟨piece, below, hpath, hpiece⟩ := List.eq_append_cons_of_mem hslash
    refine ⟨⟨piece⟩, hpiece, .inr ⟨⟨below⟩, ?_⟩⟩
    exact Path.ext (by simp [hpath])
  · exact ⟨path, hslash, .inl rfl⟩

theorem IsName.append (h : IsName name) (hpiece : slash ∉ piece.bytes) :
    IsName (name ++ piece) where
  ne_nil hempty := h.ne_nil (List.append_eq_nil_iff.1 hempty).1
  ne_dot hdot := by
    obtain ⟨hnil, -⟩ | ⟨hdot, -⟩ := List.append_eq_singleton_iff.1 hdot
    · exact h.ne_nil hnil
    · exact h.ne_dot hdot
  slash_not_mem := by
    rw [bytes_append, List.mem_append]
    exact fun hmem => hmem.elim h.slash_not_mem hpiece

/-- What is added to the last name of a path makes another name of it. -/
theorem components_append_more (parent : Path) (hname : IsName name) (hne : more ≠ "")
    (h : isAbsolute more = false) :
    ∃ (piece : Path) (rest : List Path), piece ≠ "" ∧ components (parent ++ "/" ++ name ++ more) =
      components (parent ++ "/") ++ (name ++ piece) :: rest := by
  obtain ⟨piece, hslash, hmore⟩ := exists_first_piece more
  have hlonger : components (parent ++ "/" ++ name ++ piece) =
      components (parent ++ "/") ++ [name ++ piece] := by
    rw [append_assoc, components_after_slash, namesIn_name (hname.append hslash)]
  obtain rfl | ⟨below, rfl⟩ := hmore
  · exact ⟨more, [], hne, hlonger⟩
  · have hpiece : piece ≠ "" := by
      rintro rfl
      simp [isAbsolute] at h
    have hbase : parent ++ "/" ++ name ++ piece ≠ "" := by simp
    refine ⟨piece, namesIn below.bytes, hpiece, ?_⟩
    rw [← append_assoc, ← append_assoc, components_append hbase, hlonger, List.append_assoc,
      List.singleton_append]

theorem relativeTo?_sibling (parent : Path) (hname : IsName name) (hne : more ≠ "")
    (h : isAbsolute more = false) :
    relativeTo? (parent ++ "/" ++ name) (parent ++ "/" ++ name ++ more) = none := by
  rw [Option.eq_none_iff_forall_ne_some]
  intro relative hrelative
  obtain ⟨piece, rest, hpiece, hfile⟩ := components_append_more parent hname hne h
  have hprefix := exists_relativeTo?_iff.1 ⟨relative, hrelative⟩
  rw [hfile, components_after_slash, namesIn_name hname, List.prefix_append_right_inj,
    List.cons_prefix_cons] at hprefix
  have hsame : name ++ "" = name ++ piece := by rw [append_empty]; exact hprefix.1
  exact hpiece ((append_right_inj name).1 hsame).symm

/-! ## The way back -/

/-- What is joined to the root are the names as they are shown. -/
theorem components_join_shown (hroot : root ≠ "") (h : ∀ name ∈ names, IsName name) :
    components (join root ("/".intercalate (names.map display))) =
      components root ++ names.map fun name => (name.display : Path) := by
  have htexts : ∀ text ∈ names.map display, IsName text :=
    List.forall_mem_map.2 fun name hname => isName_display (h name hname)
  rw [components_join hroot (isPlain_intercalate htexts).isAbsolute_eq, namesIn_intercalate htexts,
    List.map_map]
  rfl

theorem map_shown_eq_iff :
    (names.map fun name => (name.display : Path)) = names ↔ ∀ name ∈ names, IsText name := by
  simp only [isText_iff]
  constructor
  · intro h name hname
    exact List.map_inj_left.1 (h.trans (List.map_id names).symm) name hname
  · intro h
    exact (List.map_congr_left h).trans (List.map_id names)

/-- A name that is no text is shown by a replacement character, which is another name. -/
example :
    let file : Path := "/work/" ++ ⟨[0xFF]⟩ ++ ".hs"
    relativeTo? "/work" file = some "\uFFFD.hs" ∧
      components (join "/work" "\uFFFD.hs") ≠ components file := by
  decide

end Buildwatch.Path
