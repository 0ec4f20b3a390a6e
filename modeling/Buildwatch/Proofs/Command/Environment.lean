import Mathlib
import Buildwatch.Command.Environment

/-!
# All spellings of a name

The spellings of a name of small letters are numbered by masks. A spelling gives its number back,
so the masks in order lead to every spelling, and to each of them once.
-/

namespace Buildwatch.Environment

open Text (sameIgnoringCase)

variable {mask mask' : UInt32} {place : Nat} {c : Char} {name t : Text}

/-! ## A character -/

theorem spell_eq (h : place < 32) :
    spell mask place c = if mask.toNat.testBit place then c.toUpper else c := by
  simp [spell, h]

theorem spell_spell :
    spell mask' place (spell mask place c) = spell (mask ||| mask') place c := by
  unfold spell
  rw [UInt32.toNat_or, Nat.testBit_or]
  by_cases hplace : place < 32
  · cases mask.toNat.testBit place <;> cases mask'.toNat.testBit place <;> simp [hplace]
  · simp [hplace]

theorem toLower_spell : (spell mask place c).toLower = c.toLower := by
  unfold spell
  split
  · exact Char.toLower_toUpper_eq_toLower c
  · rfl

/-- The bit at the place of a small letter is seen in the spelling. -/
theorem isUpper_spell (lower : c.isLower = true) (h : place < 32) :
    (spell mask place c).isUpper = mask.toNat.testBit place := by
  rw [spell_eq h]
  cases mask.toNat.testBit place with
  | true => simp [Char.isAlpha, lower]
  | false => simpa using Char.not_isUpper_of_isLower lower

/-! ## A name -/

@[simp] theorem length_capitalize : (capitalize mask name).length = name.length := by
  induction name with
  | nil => rfl
  | cons c name ih => rw [capitalize, List.length_cons, List.length_cons, ih]

theorem capitalize_capitalize :
    capitalize mask' (capitalize mask name) = capitalize (mask ||| mask') name := by
  induction name with
  | nil => rfl
  | cons c name ih =>
    rw [capitalize, capitalize, capitalize, length_capitalize, spell_spell, ih]

/-- The bits of a mask stand for the last 32 characters. -/
theorem take_capitalize :
    (capitalize mask name).take (name.length - 32) = name.take (name.length - 32) := by
  induction name with
  | nil => rfl
  | cons c name ih =>
    by_cases hlong : name.length < 32
    · have hnone : (c :: name).length - 32 = 0 := by
        rw [List.length_cons]
        omega
      rw [hnone, List.take_zero, List.take_zero]
    · have hsome : (c :: name).length - 32 = name.length - 32 + 1 := by
        rw [List.length_cons]
        omega
      have hkept : spell mask name.length c = c := by simp [spell, hlong]
      rw [hsome, capitalize, List.take_succ_cons, List.take_succ_cons, ih, hkept]

theorem sameIgnoringCase_capitalize : sameIgnoringCase (capitalize mask name) name = true := by
  rw [sameIgnoringCase, beq_iff_eq]
  induction name with
  | nil => rfl
  | cons c name ih => rw [capitalize, List.map_cons, List.map_cons, toLower_spell, ih]

/-- Only the bits at the places of a name tell its spelling. -/
theorem capitalize_congr
    (h : ∀ i < name.length, mask.toNat.testBit i = mask'.toNat.testBit i) :
    capitalize mask name = capitalize mask' name := by
  induction name with
  | nil => rfl
  | cons c name ih =>
    have hfirst := h name.length (Nat.lt_succ_self _)
    have hrest := ih fun i hi => h i (Nat.lt_succ_of_lt hi)
    rw [capitalize, capitalize, hrest, spell, spell, hfirst]

/-! ## The number of a spelling -/

/-- The number of a spelling: a capital sets the bit at its place, counted from the end. -/
def number : Text → Nat
  | [] => 0
  | c :: t => if c.isUpper then 2 ^ t.length + number t else number t

theorem number_lt (t : Text) : number t < 2 ^ t.length := by
  induction t with
  | nil => exact Nat.one_pos
  | cons c t ih =>
    rw [number, List.length_cons, Nat.pow_succ]
    split <;> omega

/-- A mask is read off the spelling, as far as the name goes. -/
theorem number_capitalize (lower : ∀ c ∈ name, c.isLower = true) (short : name.length ≤ 32) :
    number (capitalize mask name) = mask.toNat % 2 ^ name.length := by
  induction name with
  | nil => simp [capitalize, number, Nat.mod_one]
  | cons c name ih =>
    have hshort : name.length < 32 := short
    have hrest := ih (fun c hc => lower c (List.mem_cons_of_mem _ hc)) (Nat.le_of_lt hshort)
    have hfirst : (spell mask name.length c).isUpper = mask.toNat.testBit name.length :=
      isUpper_spell (lower c List.mem_cons_self) hshort
    rw [capitalize, number, length_capitalize, hrest, hfirst, List.length_cons, Nat.mod_pow_succ,
      Nat.testBit_eq_decide_div_mod_eq]
    have hbit : mask.toNat / 2 ^ name.length % 2 = 0 ∨ mask.toNat / 2 ^ name.length % 2 = 1 := by
      omega
    obtain hbit | hbit := hbit
    · simp [hbit]
    · simp [hbit, Nat.add_comm]

/-- A spelling has the number by which it is spelled. -/
theorem capitalize_number (short : t.length ≤ 32) :
    capitalize (.ofNat (number t)) (t.map Char.toLower) = t := by
  induction t with
  | nil => rfl
  | cons c t ih =>
    have hshort : t.length < 32 := short
    have htoNat {s : Text} (hs : s.length ≤ 32) :
        (UInt32.ofNat (number s)).toNat = number s :=
      UInt32.toNat_ofNat_of_lt' ((number_lt s).trans_le (Nat.pow_le_pow_right Nat.two_pos hs))
    -- The first letter sets a bit above those of the others.
    have hrest : capitalize (.ofNat (number (c :: t))) (t.map Char.toLower) =
        capitalize (.ofNat (number t)) (t.map Char.toLower) := by
      refine capitalize_congr fun i hi => ?_
      rw [List.length_map] at hi
      rw [htoNat short, htoNat (Nat.le_of_lt hshort), number]
      split
      · exact Nat.testBit_two_pow_add_gt hi _
      · rfl
    have hfirst : spell (.ofNat (number (c :: t))) t.length c.toLower = c := by
      rw [spell_eq hshort, htoNat short, number]
      by_cases hupper : c.isUpper = true
      · have hbit : (number t).testBit t.length = false := Nat.testBit_lt_two_pow (number_lt t)
        rw [if_pos hupper, Nat.testBit_two_pow_add_eq, hbit]
        simpa using Char.toUpper_eq_of_not_isLower (Char.not_isLower_of_isUpper hupper)
      · have hbit : (number t).testBit t.length = false := Nat.testBit_lt_two_pow (number_lt t)
        rw [if_neg hupper, hbit]
        simpa using Char.toLower_eq_of_not_isUpper hupper
    rw [List.map_cons, capitalize, List.length_map, hfirst, hrest, ih (Nat.le_of_lt hshort)]

/-! ## All spellings -/

theorem map_toLower_of_isLower (lower : ∀ c ∈ name, c.isLower = true) :
    name.map Char.toLower = name := by
  have hkept : ∀ c ∈ name, c.toLower = id c := fun c hc =>
    Char.toLower_eq_of_not_isUpper (Char.not_isUpper_of_isLower (lower c hc))
  rw [List.map_congr_left hkept, List.map_id]

/-- A number with no more bits than a name has letters is a mask. -/
theorem toNat_mask {n : Nat} (short : name.length ≤ 32) (h : n < 2 ^ name.length) :
    (UInt32.ofNat n).toNat = n := by
  have hsize : 2 ^ name.length ≤ 2 ^ 32 := Nat.pow_le_pow_right Nat.two_pos short
  exact UInt32.toNat_ofNat_of_lt' (h.trans_le hsize)

/-- Masks with a bit for each letter at most, and the spellings of a name. -/
theorem bijOn_capitalize (lower : ∀ c ∈ name, c.isLower = true) (short : name.length ≤ 32) :
    Set.BijOn (fun mask => capitalize mask name) {mask | mask.toNat < 2 ^ name.length}
      {t | sameIgnoringCase t name = true} := by
  have hname (t : Text) (h : sameIgnoringCase t name = true) :
      t.map Char.toLower = name ∧ t.length = name.length := by
    rw [sameIgnoringCase, beq_iff_eq, map_toLower_of_isLower lower] at h
    exact ⟨h, by rw [← h, List.length_map]⟩
  have hinverse : Set.InvOn (fun t => UInt32.ofNat (number t)) (fun mask => capitalize mask name)
      {mask | mask.toNat < 2 ^ name.length} {t | sameIgnoringCase t name = true} := by
    constructor
    · intro mask hmask
      dsimp only
      rw [number_capitalize lower short, Nat.mod_eq_of_lt hmask]
      exact UInt32.ofNat_toNat
    · intro t ht
      obtain ⟨hlower, hlength⟩ := hname t ht
      have hspelled := capitalize_number (t := t) (hlength ▸ short)
      rwa [hlower] at hspelled
  apply hinverse.bijOn
  · intro mask _
    exact sameIgnoringCase_capitalize
  · intro t ht
    obtain ⟨-, hlength⟩ := hname t ht
    have hlt : number t < 2 ^ name.length := hlength ▸ number_lt t
    exact (toNat_mask short hlt).trans_lt hlt

/-- The spellings of a name that are asked for if the masks are taken in order. -/
def spellings (name : Text) : List Text :=
  (List.range (2 ^ name.length)).map fun mask => capitalize (.ofNat mask) name

theorem pathNames_eq : pathNames = (spellings "path".toList).map String.ofList := by
  rw [pathNames, spellings, List.map_map]
  rfl

theorem nodup_spellings (lower : ∀ c ∈ name, c.isLower = true) (short : name.length ≤ 32) :
    (spellings name).Nodup := by
  have htoNat {n : Nat} (hn : n ∈ List.range (2 ^ name.length)) : (UInt32.ofNat n).toNat = n :=
    toNat_mask short (List.mem_range.1 hn)
  have hmem {n : Nat} (hn : n ∈ List.range (2 ^ name.length)) :
      UInt32.ofNat n ∈ {mask : UInt32 | mask.toNat < 2 ^ name.length} :=
    (htoNat hn).trans_lt (List.mem_range.1 hn)
  refine List.nodup_range.map_on fun m hm n hn h => ?_
  have hmask := (bijOn_capitalize lower short).injOn (hmem hm) (hmem hn) h
  rw [← htoNat hm, hmask, htoNat hn]

theorem mem_spellings_iff (lower : ∀ c ∈ name, c.isLower = true) (short : name.length ≤ 32) :
    t ∈ spellings name ↔ sameIgnoringCase t name = true := by
  rw [spellings, List.mem_map]
  constructor
  · rintro ⟨mask, -, rfl⟩
    exact sameIgnoringCase_capitalize
  · intro h
    obtain ⟨mask, hmask, rfl⟩ := (bijOn_capitalize lower short).surjOn h
    refine ⟨mask.toNat, List.mem_range.2 hmask, ?_⟩
    rw [UInt32.ofNat_toNat]

/-- **The masks number the spellings.** Of a name of at most 32 small letters, the masks with no
bit beyond its letters give all spellings and each of them once, and so do these masks in order;
in this way the search path is looked up. Whatever the name, a second mask adds its bits to those
of the first one, and nothing but the case of the last 32 characters depends on them. -/
theorem capitalize_enumerates (name : Text) (mask mask' : UInt32) :
    ((∀ c ∈ name, c.isLower = true) → name.length ≤ 32 →
      Set.BijOn (fun mask => capitalize mask name) {mask | mask.toNat < 2 ^ name.length}
        {t | sameIgnoringCase t name = true} ∧
      (spellings name).length = 2 ^ name.length ∧ (spellings name).Nodup ∧
      ∀ t, t ∈ spellings name ↔ sameIgnoringCase t name = true) ∧
    pathNames = (spellings "path".toList).map String.ofList ∧
    capitalize mask' (capitalize mask name) = capitalize (mask ||| mask') name ∧
    (capitalize mask name).length = name.length ∧
    (capitalize mask name).take (name.length - 32) = name.take (name.length - 32) := by
  refine ⟨?_, pathNames_eq, capitalize_capitalize, length_capitalize, take_capitalize⟩
  intro lower short
  have hlength : (spellings name).length = 2 ^ name.length := by
    rw [spellings, List.length_map, List.length_range]
  exact ⟨bijOn_capitalize lower short, hlength, nodup_spellings lower short,
    fun _ => mem_spellings_iff lower short⟩

end Buildwatch.Environment
