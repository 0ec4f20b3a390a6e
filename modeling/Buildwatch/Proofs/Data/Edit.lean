import Buildwatch.Data.Record

/-!
# Edited records

A record is edited: keys are deleted from it at any depth, keys that it does not know are added, and
its fields are put into any order. A decoder finds in it what was kept, and misses what was
deleted. Nothing else matters to it.
-/

namespace Buildwatch

/-- A set of keys. A key inside of a table is known by the path that leads to it. -/
abbrev Keys := List String → Bool

namespace Keys

def none : Keys := fun _ => false

def all : Keys := fun _ => true

/-- The keys that lie inside of a table, seen from there. -/
def under (deleted : Keys) (name : String) : Keys := fun path => deleted (name :: path)

/-- What is at a key, or the default if the key is deleted. -/
def pick {α : Type} (deleted : Keys) (name : String) (default a : α) : α :=
  if deleted [name] then default else a

@[simp] theorem under_none (name : String) : none.under name = none := rfl

end Keys

namespace Data

/-! ## Edits -/

mutual

/-- Whether a value comes from another one by deleting keys, adding unknown ones and reordering
its fields. Only records can be edited. -/
inductive Edited : Keys → Data → Data → Prop
  | value {deleted : Keys} {d : Data} (plain : ∀ fields, d ≠ .record fields) : Edited deleted d d
  | record {deleted : Keys} {fields kept added fields' : List (String × Data)}
      (keeps : Keeps deleted fields kept)
      (unknown : ∀ field ∈ added, field.1 ∉ fields.map (·.1))
      (reordered : fields'.Perm (kept ++ added)) :
      Edited deleted (.record fields) (.record fields')

/-- Whether these fields are what is left of others, each of them edited. -/
inductive Keeps : Keys → List (String × Data) → List (String × Data) → Prop
  | nil {deleted : Keys} : Keeps deleted [] []
  | delete {deleted : Keys} {name : String} {d : Data} {fields kept : List (String × Data)}
      (mem : deleted [name] = true) (keeps : Keeps deleted fields kept) :
      Keeps deleted ((name, d) :: fields) kept
  | keep {deleted : Keys} {name : String} {d d' : Data} {fields kept : List (String × Data)}
      (not_mem : deleted [name] = false) (edited : Edited (deleted.under name) d d')
      (keeps : Keeps deleted fields kept) :
      Keeps deleted ((name, d) :: fields) ((name, d') :: kept)

end

mutual

/-- The value without these keys. -/
def without (deleted : Keys) : Data → Data
  | .record fields => .record (withoutFields deleted fields)
  | d => d

def withoutFields (deleted : Keys) : List (String × Data) → List (String × Data)
  | [] => []
  | (name, d) :: fields =>
    if deleted [name] then withoutFields deleted fields
    else (name, without (deleted.under name) d) :: withoutFields deleted fields

end

mutual

/-- To delete keys is an edit. -/
theorem edited_without (deleted : Keys) : ∀ d : Data, Edited deleted d (d.without deleted)
  | .record fields =>
    .record (keeps_withoutFields deleted fields) (fun _ => List.not_mem_nil.elim)
      (.of_eq (List.append_nil _).symm)
  | .null | .bool _ | .number _ | .string _ | .list _ | .broken => .value (by simp)

theorem keeps_withoutFields (deleted : Keys) :
    ∀ fields, Keeps deleted fields (withoutFields deleted fields)
  | [] => .nil
  | (name, d) :: fields => by
    rw [withoutFields]
    split
    · next mem => exact .delete mem (keeps_withoutFields deleted fields)
    · next mem =>
      exact .keep (Bool.not_eq_true _ ▸ mem) (edited_without (deleted.under name) d)
        (keeps_withoutFields deleted fields)

end

mutual

theorem without_none : ∀ d : Data, d.without .none = d
  | .record fields => congrArg Data.record (withoutFields_none fields)
  | .null | .bool _ | .number _ | .string _ | .list _ | .broken => rfl

theorem withoutFields_none : ∀ fields, withoutFields .none fields = fields
  | [] => rfl
  | (name, d) :: fields => by
    rw [withoutFields, Keys.under_none, without_none d, withoutFields_none fields]
    rfl

end

/-! ## What is kept -/

variable {deleted : Keys} {d : Data} {name : String} {fields kept fields' : List (String × Data)}

theorem Keeps.names_subset (keeps : Keeps deleted fields kept) :
    kept.map (·.1) ⊆ fields.map (·.1) := by
  induction fields generalizing kept with
  | nil =>
    cases keeps
    exact List.Subset.refl _
  | cons field fields ih =>
    cases keeps with
    | delete mem keeps => exact List.subset_cons_of_subset _ (ih keeps)
    | keep not_mem edited keeps => exact List.cons_subset_cons _ (ih keeps)

/-- What is found among other fields under a key of the record: nothing if the key is deleted, and
what was kept otherwise. -/
inductive Finds (deleted : Keys) (name : String) (d : Data) : List (String × Data) → Prop
  | deleted (mem : deleted [name] = true) : Finds deleted name d []
  | kept {d' : Data} (not_mem : deleted [name] = false)
      (edited : Edited (deleted.under name) d d') :
      Finds deleted name d [(name, d')]

/-- A key that the record does not know is not among what was kept. -/
theorem Keeps.filter_eq_nil (keeps : Keeps deleted fields kept)
    (unknown : name ∉ fields.map (·.1)) : kept.filter (·.1 = name) = [] := by
  rw [List.filter_eq_nil_iff]
  intro field hmem
  rw [decide_eq_true_eq]
  rintro rfl
  exact unknown (keeps.names_subset (List.mem_map_of_mem hmem))

/-- Under each key of the record stands what was kept of it. -/
theorem Keeps.finds (keeps : Keeps deleted fields kept) (distinct : (fields.map (·.1)).Nodup)
    (mem : (name, d) ∈ fields) : Finds deleted name d (kept.filter (·.1 = name)) := by
  -- By induction on the fields up to the one with this key: the fields before it are passed over.
  induction fields generalizing kept with
  | nil => cases mem
  | cons field fields ih =>
    rw [List.map_cons, List.nodup_cons] at distinct
    obtain rfl | hmem := List.mem_cons.1 mem
    · -- The key does not occur a second time.
      cases keeps with
      | delete mem keeps =>
        rw [keeps.filter_eq_nil distinct.1]
        exact .deleted mem
      | keep not_mem edited keeps =>
        rw [List.filter_cons_of_pos (by simp), keeps.filter_eq_nil distinct.1]
        exact .kept not_mem edited
    · have hne : field.1 ≠ name := by
        rintro rfl
        exact distinct.1 (List.mem_map.2 ⟨_, hmem, rfl⟩)
      cases keeps with
      | delete _ keeps => exact ih keeps distinct.2 hmem
      | keep _ _ keeps =>
        rw [List.filter_cons_of_neg (by simpa using hne)]
        exact ih keeps distinct.2 hmem

/-- Other fields and another order make no difference to that. -/
theorem Finds.of_perm {added : List (String × Data)} (finds : Finds deleted name d
    (kept.filter (·.1 = name))) (unknown : ∀ field ∈ added, field.1 ≠ name)
    (reordered : fields'.Perm (kept ++ added)) :
    Finds deleted name d (fields'.filter (·.1 = name)) := by
  have hadded : added.filter (·.1 = name) = [] := by
    rw [List.filter_eq_nil_iff]
    intro field hmem
    rw [decide_eq_true_eq]
    exact unknown field hmem
  have hperm := reordered.filter (·.1 = name)
  rw [List.filter_append, hadded, List.append_nil] at hperm
  generalize kept.filter (·.1 = name) = found at finds hperm
  -- What is found is at most one field, so it has one order.
  cases finds with
  | deleted mem =>
    rw [List.perm_nil.1 hperm]
    exact .deleted mem
  | kept not_mem edited =>
    rw [List.perm_singleton.1 hperm]
    exact .kept not_mem edited

theorem Finds.length_le {found : List (String × Data)} (finds : Finds deleted name d found) :
    found.length ≤ 1 := by
  cases finds with
  | deleted => exact Nat.zero_le 1
  | kept => exact Nat.le_refl 1

/-- An edited record has fields again, each known one at most once. -/
theorem Edited.exists_fields (dialect : Dialect) (names : List String)
    (edited : Edited deleted (.record fields) d) (names_eq : fields.map (·.1) = names)
    (distinct : names.Nodup) :
    ∃ fields', Fields.ofData? dialect names d = some (.named fields') ∧
      ∀ name value, (name, value) ∈ fields →
        Finds deleted name value (fields'.filter (·.1 = name)) := by
  subst names_eq
  cases edited with
  | value plain => exact absurd rfl (plain fields)
  | @record _ _ kept added fields' keeps unknown reordered =>
    have hfinds (name : String) (value : Data) (hmem : (name, value) ∈ fields) :
        Finds deleted name value (fields'.filter (·.1 = name)) := by
      refine (keeps.finds distinct hmem).of_perm (fun field hadded => ?_) reordered
      rintro rfl
      exact unknown field hadded (List.mem_map.2 ⟨_, hmem, rfl⟩)
    refine ⟨fields', ?_, hfinds⟩
    apply Fields.ofData?_record
    intro name hname
    obtain ⟨field, hmem, rfl⟩ := List.mem_map.1 hname
    exact (hfinds field.1 field.2 hmem).length_le

/-- What is not a record stays as it is. -/
theorem Edited.eq_of_plain {d' : Data} (edited : Edited deleted d d')
    (plain : ∀ fields, d ≠ .record fields) : d' = d := by
  cases edited with
  | value => rfl
  | record => exact absurd rfl (plain _)

end Data

/-- A field that was kept is decoded, and one that was deleted has its default. -/
theorem Fields.withDefault_of_finds {α : Type} {deleted : Keys} {name : String} {d : Data}
    {fields : List (String × Data)} {decode : Data → Option α} (default a : α)
    (finds : Data.Finds deleted name d (fields.filter (·.1 = name)))
    (decodes : ∀ d', Data.Edited (deleted.under name) d d' → decode d' = some a) :
    (Fields.named fields).withDefault name default decode = some (deleted.pick name default a) := by
  have hfind : (Fields.named fields).find? name =
      ((fields.filter (·.1 = name)).head?).map (·.2) := by
    rw [find?, List.head?_filter]
  rw [withDefault, hfind]
  generalize fields.filter (·.1 = name) = found at finds
  cases finds with
  | deleted mem => simp [Keys.pick, mem]
  | kept not_mem edited => simp [Keys.pick, not_mem, decodes _ edited]

end Buildwatch
