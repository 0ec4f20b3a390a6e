import Mathlib.Data.List.Basic
import Mathlib.Data.List.Induction
import Mathlib.Logic.Relation
import Buildwatch.Proofs.Path
import Buildwatch.Proofs.Text.Lines

/-!
# The components of a path

Two paths have the same components exactly if one becomes the other by adding and dropping
slashes that repeat or end a path, and dots between slashes. What follows a slash adds its names to
the components in front of it; everything here is derived from that, going from slash to slash.
-/

namespace Buildwatch.Path

open Text (cutAt cutAt_append_separator cutAt_ne_nil cutAt_of_not_mem not_mem_of_mem_cutAt)

variable {base path other piece name rest : Path} {s t : List UInt8}

/-! ## Names -/

/-- A piece between slashes that counts as a component: it is not empty and not a dot. -/
structure IsName (name : Path) : Prop where
  ne_nil : name.bytes ≠ []
  ne_dot : name.bytes ≠ [dot]
  slash_not_mem : slash ∉ name.bytes

theorem empty_or_dot_or_isName (h : slash ∉ piece.bytes) :
    piece = "" ∨ piece = "." ∨ IsName piece := by
  by_cases hempty : piece = ""
  · exact .inl hempty
  · by_cases hdot : piece = "."
    · exact .inr (.inl hdot)
    · exact .inr (.inr ⟨mt bytes_eq_nil_iff.1 hempty, fun h => hdot (Path.ext h), h⟩)

/-- The names in what follows a slash. -/
def namesIn (t : List UInt8) : List Path :=
  ((cutAt slash t).filter fun piece => piece ≠ [] ∧ piece ≠ [dot]).map Path.mk

@[simp] theorem namesIn_nil : namesIn [] = [] := rfl
@[simp] theorem namesIn_dot : namesIn [dot] = [] := rfl

theorem namesIn_append : namesIn (s ++ slash :: t) = namesIn s ++ namesIn t := by
  rw [namesIn, cutAt_append_separator, List.filter_append, List.map_append, namesIn, namesIn]

@[simp] theorem namesIn_cons_slash : namesIn (slash :: t) = namesIn t := namesIn_append (s := [])

theorem namesIn_name (h : IsName name) : namesIn name.bytes = [name] := by
  simp [namesIn, cutAt_of_not_mem h.slash_not_mem, h.ne_nil, h.ne_dot]

theorem isName_of_mem_namesIn (h : name ∈ namesIn t) : IsName name := by
  simp only [namesIn, List.mem_map, List.mem_filter, decide_eq_true_eq] at h
  obtain ⟨piece, ⟨hmem, hempty, hdot⟩, rfl⟩ := h
  exact ⟨hempty, hdot, not_mem_of_mem_cutAt hmem⟩

/-! ## Components from slash to slash -/

/-- What a path starts with in front of its names: the root, a dot, or nothing. -/
def start (path : Path) : List Path :=
  if isAbsolute path then ["/"]
  else if (cutAt slash path.bytes).head? = some [dot] then ["."]
  else []

/-- The first piece of a relative path is empty only if the path is. -/
theorem head?_filter_cutAt (h : isAbsolute path = false) :
    ((cutAt slash path.bytes).filter (· ≠ [])).head? = some [dot] ↔
      (cutAt slash path.bytes).head? = some [dot] := by
  cases hpath : path.bytes with
  | nil => simp [cutAt]
  | cons b t =>
    have hb : b ≠ slash := by simpa [isAbsolute, hpath] using h
    have hne : cutAt slash t ≠ [] := cutAt_ne_nil
    obtain ⟨piece, pieces, hpieces⟩ := List.exists_cons_of_ne_nil hne
    simp [cutAt, hb, hpieces]

theorem components_eq (path : Path) : components path = start path ++ namesIn path.bytes := by
  have hnames : namesIn path.bytes =
      (((cutAt slash path.bytes).filter (· ≠ [])).filter (· ≠ [dot])).map Path.mk := by
    simp [namesIn, List.filter_filter, Bool.and_comm]
  rw [hnames, components, start]
  cases habsolute : isAbsolute path with
  | true => rfl
  | false =>
    simp only [head?_filter_cutAt habsolute, Bool.false_eq_true, if_false]
    split <;> rfl

theorem components_slash (rest : Path) :
    components ("/" ++ rest) = ("/" : Path) :: namesIn rest.bytes := by
  simp [components_eq, start, isAbsolute]

theorem isAbsolute_append (h : base ≠ "") (rest : Path) :
    isAbsolute (base ++ rest) = isAbsolute base := by
  rw [isAbsolute, isAbsolute, bytes_append, List.head?_append_of_ne_nil _ (mt bytes_eq_nil_iff.1 h)]

theorem bytes_append_slash_append (base rest : Path) :
    (base ++ "/" ++ rest).bytes = base.bytes ++ slash :: rest.bytes := by
  simp

theorem start_append (h : base ≠ "") (rest : Path) : start (base ++ "/" ++ rest) = start base := by
  rw [start, start, bytes_append_slash_append, append_assoc, isAbsolute_append h,
    cutAt_append_separator, List.head?_append_of_ne_nil _ cutAt_ne_nil]

/-- What follows a slash adds its names. -/
theorem components_append (h : base ≠ "") (rest : Path) :
    components (base ++ "/" ++ rest) = components base ++ namesIn rest.bytes := by
  rw [components_eq, components_eq, start_append h, bytes_append_slash_append, namesIn_append,
    List.append_assoc]

theorem components_append_slash (h : base ≠ "") : components (base ++ "/") = components base := by
  simpa using components_append h ""

theorem components_after_slash (above below : Path) :
    components (above ++ "/" ++ below) = components (above ++ "/") ++ namesIn below.bytes := by
  by_cases habove : above = ""
  · subst habove
    exact components_slash below
  · rw [components_append habove, components_append_slash habove]

@[simp] theorem components_empty : components "" = [] := rfl

theorem isAbsolute_piece (h : slash ∉ piece.bytes) : isAbsolute piece = false := by
  rw [isAbsolute, beq_eq_false_iff_ne]
  exact fun hhead => h (List.mem_of_mem_head? hhead)

theorem components_piece (h : slash ∉ piece.bytes) (hne : piece ≠ "") :
    components piece = [piece] := by
  rw [components_eq, start, isAbsolute_piece h, cutAt_of_not_mem h]
  obtain rfl | rfl | hname := empty_or_dot_or_isName h
  · exact absurd rfl hne
  · rfl
  · simp [namesIn_name hname, hname.ne_dot]

/-- Every path is a piece without slashes, or goes on from another path with a slash and such a
piece. -/
theorem slash_induction {motive : Path → Prop} (piece : ∀ p, slash ∉ p.bytes → motive p)
    (append : ∀ base p, slash ∉ p.bytes → motive base → motive (base ++ "/" ++ p))
    (path : Path) : motive path := by
  -- The bytes after the last slash are collected on the way back to it.
  have hback (front last : List UInt8) (hlast : slash ∉ last) : motive ⟨front ++ last⟩ := by
    induction front using List.reverseRecOn generalizing last with
    | nil => exact piece ⟨last⟩ hlast
    | append_singleton front b ih =>
      by_cases hb : b = slash
      · subst hb
        have hfront : motive ⟨front⟩ := by simpa using ih [] List.not_mem_nil
        exact append ⟨front⟩ ⟨last⟩ hlast hfront
      · rw [List.append_assoc]
        exact ih (b :: last) (by simp [Ne.symm hb, hlast])
  simpa using hback path.bytes [] List.not_mem_nil

theorem components_eq_nil_iff : components path = [] ↔ path = "" := by
  constructor
  · intro h
    induction path using slash_induction with
    | piece p hp =>
      by_contra hne
      simp [components_piece hp hne] at h
    | append base p hp ih =>
      by_cases hbase : base = ""
      · subst hbase
        rw [empty_append, components_slash] at h
        cases h
      · rw [components_append hbase] at h
        exact absurd (ih (List.append_eq_nil_iff.1 h).1) hbase
  · rintro rfl
    rfl

/-- All components but the first are names. -/
theorem mem_namesIn_of_mem_tail (h : name ∈ (components path).tail) :
    name ∈ namesIn path.bytes := by
  rw [components_eq, start] at h
  split at h
  · exact h
  · split at h
    · exact h
    · exact List.mem_of_mem_tail h

/-! ## Spellings -/

/-- Adding a slash or a dot that leads to no other place. -/
inductive Pads : Path → Path → Prop
  | slash (above below : Path) : Pads (above ++ "/" ++ below) (above ++ "/" ++ "/" ++ below)
  | finalSlash (path : Path) (ne_empty : path ≠ "") : Pads path (path ++ "/")
  | dot (above below : Path) : Pads (above ++ "/" ++ below) (above ++ "/" ++ "." ++ "/" ++ below)
  | finalDot (above : Path) : Pads (above ++ "/") (above ++ "/" ++ ".")

/-- Two spellings of a path differ in added slashes and dots. -/
def Respells : Path → Path → Prop := Relation.EqvGen Pads

theorem Pads.components_eq (h : Pads path other) : components path = components other := by
  cases h with
  | slash above below =>
    have hne : above ++ "/" ≠ "" := by simp
    rw [components_append hne, components_after_slash]
  | finalSlash path ne_empty => exact (components_append_slash ne_empty).symm
  | dot above below =>
    have hne : above ++ "/" ++ "." ≠ "" := by simp
    rw [components_append hne, components_after_slash above ".", components_after_slash above below]
    simp
  | finalDot above =>
    rw [components_after_slash above "."]
    simp

namespace Respells

theorem refl (path : Path) : Respells path path := Relation.EqvGen.refl path

theorem symm (h : Respells path other) : Respells other path := Relation.EqvGen.symm _ _ h

theorem trans (h : Respells path other) (h' : Respells other rest) : Respells path rest :=
  Relation.EqvGen.trans _ _ _ h h'

theorem of_pads (h : Pads path other) : Respells path other := Relation.EqvGen.rel _ _ h

theorem components_eq (h : Respells path other) : components path = components other := by
  induction h with
  | rel path other pads => exact pads.components_eq
  | refl path => rfl
  | symm path other _ ih => exact ih.symm
  | trans path middle other _ _ first second => exact first.trans second

/-- What follows a slash does not depend on how the path in front of it is spelled. -/
theorem append (h : Respells path other) (rest : Path) :
    Respells (path ++ "/" ++ rest) (other ++ "/" ++ rest) := by
  induction h with
  | rel path other pads =>
    cases pads with
    | slash above below =>
      simpa only [append_assoc] using of_pads (.slash above (below ++ "/" ++ rest))
    | finalSlash path ne_empty => exact of_pads (.slash path rest)
    | dot above below =>
      simpa only [append_assoc] using of_pads (.dot above (below ++ "/" ++ rest))
    | finalDot above => exact (of_pads (.slash above rest)).symm.trans (of_pads (.dot above rest))
  | refl path => exact .refl _
  | symm path other _ ih => exact ih.symm
  | trans path middle other _ _ first second => exact first.trans second

/-- Joining adds no slash where one stands already. -/
theorem join (hbase : base ≠ "") (h : isAbsolute path = false) :
    Respells (base ++ "/" ++ path) (Path.join base path) := by
  have hnil : base.bytes ≠ [] := mt bytes_eq_nil_iff.1 hbase
  by_cases hlast : base.bytes.getLast? = some slash
  · have hjoin : Path.join base path = base ++ path := by simp [Path.join, h, hnil, hlast]
    obtain ⟨front, hfront⟩ := List.getLast?_eq_some_iff.1 hlast
    obtain rfl : base = ⟨front⟩ ++ "/" := Path.ext hfront
    rw [hjoin]
    exact (of_pads (.slash _ path)).symm
  · have hjoin : Path.join base path = base ++ "/" ++ path := by
      simp [Path.join, h, hnil, hlast]
    rw [hjoin]
    exact .refl _

end Respells

/-! ## The path of given components -/

/-- Puts a path together from components. -/
def spell (parts : List Path) : Path := parts.foldl join ""

theorem spell_singleton (part : Path) : spell [part] = part := by
  simp [spell, join]

theorem spell_concat (parts : List Path) (part : Path) :
    spell (parts ++ [part]) = join (spell parts) part := by
  rw [spell, List.foldl_append, List.foldl_cons, List.foldl_nil, spell]

/-- Every path is another spelling of its components put together. -/
theorem respells_spell (path : Path) : Respells path (spell (components path)) := by
  induction path using slash_induction with
  | piece p hp =>
    by_cases hne : p = ""
    · subst hne
      exact .refl _
    · rw [components_piece hp hne, spell_singleton]
      exact .refl p
  | append base p hp ih =>
    -- The path up to its last slash is spelled by induction; the piece behind it is added.
    have hslash : Respells (base ++ "/") (spell (components (base ++ "/"))) := by
      by_cases hbase : base = ""
      · subst hbase
        exact .refl _
      · rw [components_append_slash hbase]
        exact (Respells.of_pads (.finalSlash base hbase)).symm.trans ih
    rw [components_after_slash]
    obtain rfl | rfl | hname := empty_or_dot_or_isName hp
    · simpa using hslash
    · simpa using (Respells.of_pads (.finalDot base)).symm.trans hslash
    · have hne : spell (components (base ++ "/")) ≠ "" := by
        intro hempty
        have hnil : components (base ++ "/") = [] := by
          rw [hslash.components_eq, hempty, components_empty]
        exact absurd (components_eq_nil_iff.1 hnil) (by simp)
      rw [namesIn_name hname, spell_concat]
      have hdouble : Respells (base ++ "/" ++ p) (base ++ "/" ++ "/" ++ p) :=
        .of_pads (.slash base p)
      exact hdouble.trans ((hslash.append p).trans (.join hne (isAbsolute_piece hp)))

/-- **Components ignore just redundant slashes and dots.** -/
theorem components_eq_iff : components path = components other ↔ Respells path other := by
  constructor
  · intro h
    exact (h ▸ respells_spell path).trans (respells_spell other).symm
  · exact Respells.components_eq

end Buildwatch.Path
