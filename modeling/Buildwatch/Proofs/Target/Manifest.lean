import Buildwatch.Proofs.Path
import Buildwatch.Target.Manifest

/-!
# Which manifest is found

A directory is listed in any order, and may hold several manifests. The one with the smallest name
is found, byte by byte, so the order of the listing does not matter. Where an error ends the
listing, this holds of what was listed before it.
-/

namespace Buildwatch

/-! ## Manifests among the entries -/

theorem Path.hasExtension_iff {extension : String} {name : Path} :
    hasExtension extension name = true ↔
      ∃ stem : Path, stem ≠ "" ∧ name = stem ++ (("." : Path) ++ (extension : Path)) := by
  rw [hasExtension, Bool.and_eq_true, List.isSuffixOf_iff_suffix, decide_eq_true_eq]
  constructor
  · rintro ⟨⟨stem, hname⟩, hlength⟩
    refine ⟨⟨stem⟩, ?_, Path.ext hname.symm⟩
    rintro hstem
    obtain rfl : stem = [] := congrArg Path.bytes hstem
    rw [← hname] at hlength
    exact absurd hlength (Nat.lt_irrefl _)
  · rintro ⟨stem, hstem, rfl⟩
    have hlength : stem.bytes ≠ [] := mt bytes_eq_nil_iff.1 hstem
    refine ⟨⟨stem.bytes, rfl⟩, ?_⟩
    simpa [List.length_pos_iff] using hlength

/-- A regular file whose name is a non-empty stem followed by `.cabal`. -/
structure Entry.IsCabalFile (e : Entry) : Prop where
  kind_eq : e.kind = .ok .file
  name_eq : ∃ stem : Path, stem ≠ "" ∧ e.name = stem ++ (".cabal" : Path)

theorem Entry.isRegularFile_iff {e : Entry} : e.isRegularFile = true ↔ e.kind = .ok .file := by
  rw [isRegularFile]
  split <;> simp_all

theorem Entry.isManifest_iff {e : Entry} : e.isManifest = true ↔ e.IsCabalFile := by
  have hextension : (("." : Path) ++ (manifestExtension : Path)) = ".cabal" := by decide
  rw [isManifest, Bool.and_eq_true, isRegularFile_iff, Path.hasExtension_iff, hextension]
  exact ⟨fun h => ⟨h.1, h.2⟩, fun h => ⟨h.kind_eq, h.name_eq⟩⟩

/-! ## The first of them -/

/-- Whether this is the smallest name of a manifest among the entries. Names are compared by
their bytes. -/
structure IsFirstManifest (entries : List Entry) (name : Path) : Prop where
  listed : ∃ e ∈ entries, e.IsCabalFile ∧ e.name = name
  first : ∀ e ∈ entries, e.IsCabalFile → name.bytes ≤ e.name.bytes

variable {entries entries' : List Entry} {name : Path}

/-- A scan keeps a name that is no greater than any it has seen. -/
theorem foldl_smallerName (name : Path) (names : List Path) :
    names.foldl smallerName name ∈ name :: names ∧
      ∀ other ∈ name :: names, (names.foldl smallerName name).bytes ≤ other.bytes := by
  induction names generalizing name with
  | nil => simp
  | cons next names ih =>
    obtain ⟨hmem, hleast⟩ := ih (smallerName name next)
    have hkept : (names.foldl smallerName (smallerName name next)).bytes ≤
        (smallerName name next).bytes := hleast _ List.mem_cons_self
    -- Whichever of the two is kept, it is no greater than the other.
    have hsmaller : smallerName name next ∈ [name, next] ∧
        (smallerName name next).bytes ≤ name.bytes ∧
        (smallerName name next).bytes ≤ next.bytes := by
      rw [smallerName]
      split
      · next hlt => simp [List.le_of_lt hlt]
      · next hle => simp [List.not_lt.1 hle]
    refine ⟨?_, fun other hother => ?_⟩
    · rcases List.mem_cons.1 hmem with heq | hmem
      · rw [List.foldl_cons, heq]
        exact List.mem_append_left names hsmaller.1
      · exact List.mem_cons_of_mem _ (List.mem_cons_of_mem _ hmem)
    · rcases List.mem_cons.1 hother with rfl | hother
      · exact List.le_trans hkept hsmaller.2.1
      · rcases List.mem_cons.1 hother with rfl | hother
        · exact List.le_trans hkept hsmaller.2.2
        · exact hleast other (List.mem_cons_of_mem _ hother)

theorem mem_manifestNames {other : Path} :
    other ∈ (entries.filter Entry.isManifest).map Entry.name ↔
      ∃ e ∈ entries, e.IsCabalFile ∧ e.name = other := by
  simp [Entry.isManifest_iff, and_assoc]

theorem manifestName?_eq_none_iff :
    manifestName? entries = none ↔ ∀ e ∈ entries, ¬ e.IsCabalFile := by
  simp only [← Entry.isManifest_iff, ← List.filter_eq_nil_iff]
  rw [← List.map_eq_nil_iff (f := Entry.name), manifestName?]
  split <;> simp_all

theorem isFirstManifest_of_eq_some (h : manifestName? entries = some name) :
    IsFirstManifest entries name := by
  rw [manifestName?] at h
  split at h
  · cases h
  · next first names hnames =>
    obtain ⟨hmem, hleast⟩ := foldl_smallerName first names
    cases h
    rw [← hnames] at hmem hleast
    exact ⟨mem_manifestNames.1 hmem,
      fun e he hcabal => hleast e.name (mem_manifestNames.2 ⟨e, he, hcabal, rfl⟩)⟩

/-- There is at most one smallest name. -/
theorem IsFirstManifest.unique {other : Path} (h : IsFirstManifest entries name)
    (hother : IsFirstManifest entries other) : name = other := by
  obtain ⟨e, he, hcabal, rfl⟩ := h.listed
  obtain ⟨e', he', hcabal', rfl⟩ := hother.listed
  exact Path.ext (List.le_antisymm (h.first e' he' hcabal') (hother.first e he hcabal))

theorem manifestName?_eq_some_iff :
    manifestName? entries = some name ↔ IsFirstManifest entries name := by
  refine ⟨isFirstManifest_of_eq_some, fun h => ?_⟩
  cases hfound : manifestName? entries with
  | none =>
    obtain ⟨e, he, hcabal, -⟩ := h.listed
    exact absurd hcabal (manifestName?_eq_none_iff.1 hfound e he)
  | some other => rw [h.unique (isFirstManifest_of_eq_some hfound)]

theorem IsFirstManifest.perm (h : IsFirstManifest entries name) (hperm : entries.Perm entries') :
    IsFirstManifest entries' name where
  listed := by
    obtain ⟨e, hmem, he⟩ := h.listed
    exact ⟨e, hperm.mem_iff.1 hmem, he⟩
  first e hmem := h.first e (hperm.mem_iff.2 hmem)

/-- A listing in another order has the same first manifest. -/
theorem manifestName?_perm (hperm : entries.Perm entries') :
    manifestName? entries = manifestName? entries' := by
  apply Option.ext
  intro name
  rw [manifestName?_eq_some_iff, manifestName?_eq_some_iff]
  exact ⟨fun h => h.perm hperm, fun h => h.perm hperm.symm⟩

/-! ## Finding the manifest -/

variable {root path : Path} {listing : Listing} {answers : List (Except IoError Entry)}
  {error : TargetError}

@[simp] theorem listed_map_ok (entries : List Entry) : listed (entries.map .ok) = entries := by
  induction entries with
  | nil => rfl
  | cons e entries ih => rw [List.map_cons, listed, ih]

/-- What is listed stands before the first error. -/
theorem listed_append_error (entries : List Entry) (e : IoError) :
    listed (entries.map .ok ++ .error e :: answers) = entries := by
  induction entries with
  | nil => rfl
  | cons e entries ih => rw [List.map_cons, List.cons_append, listed, ih]

theorem findManifest_eq_ok_iff :
    findManifest root listing = .ok path ↔
      ∃ answers name, listing = .ok answers ∧ IsFirstManifest (listed answers) name ∧
        path = Path.join root name := by
  simp only [← manifestName?_eq_some_iff]
  rw [findManifest]
  cases listing with
  | error e => simp [Except.toOption]
  | ok answers =>
    cases hname : manifestName? (listed answers) <;> simp [Except.toOption, hname, eq_comm]

theorem findManifest_eq_error_iff :
    findManifest root listing = .error error ↔
      error = .noManifest root ∧
        ∀ answers, listing = .ok answers → ∀ e ∈ listed answers, ¬ e.IsCabalFile := by
  simp only [← manifestName?_eq_none_iff]
  rw [findManifest]
  cases listing with
  | error e => simp [Except.toOption, eq_comm]
  | ok answers =>
    cases hname : manifestName? (listed answers) <;> simp [Except.toOption, hname, eq_comm]

/-- **The first manifest in the order of names is found.** It is seen from the root as the root
is given. There is none exactly if the root cannot be listed or no entry is a manifest, and the
error names the root. An error within the listing ends it, and counts for no more. The order in
which the entries are listed plays no part. -/
theorem findManifest_first (root : Path) :
    (∀ listing path, findManifest root listing = .ok path ↔
      ∃ answers name, listing = .ok answers ∧ IsFirstManifest (listed answers) name ∧
        path = Path.join root name) ∧
    (∀ listing error, findManifest root listing = .error error ↔
      error = .noManifest root ∧
        ((∃ e, listing = .error e) ∨
          ∃ answers, listing = .ok answers ∧ ∀ e ∈ listed answers, ¬ e.IsCabalFile)) ∧
    (∀ entries, listed (entries.map .ok) = entries) ∧
    (∀ entries e answers, listed (entries.map .ok ++ .error e :: answers) = entries) ∧
    ∀ entries entries' : List Entry, entries.Perm entries' →
      findManifest root (.ok (entries.map .ok)) = findManifest root (.ok (entries'.map .ok)) := by
  refine ⟨fun listing path => findManifest_eq_ok_iff, fun listing error => ?_, listed_map_ok,
    fun entries e answers => listed_append_error entries e, fun entries entries' hperm => ?_⟩
  · rw [findManifest_eq_error_iff]
    cases listing <;> simp
  · simp [findManifest, Except.toOption, manifestName?_perm hperm]

end Buildwatch
