import Buildwatch.Data.Record
import Buildwatch.Proofs.Json.RoundTrip
import Mathlib.Data.List.Nodup

/-!
# Lawful codecs

An encoder and a decoder belong together if the decoder gives back what was encoded. Simple values
have such codecs, and they are made from others for lists, for values that may be missing and for
the fields of a record. What is encoded can be written as JSON and decoded from that text.
-/

namespace Buildwatch

variable {α : Type} {encode : α → Data} {decode : Data → Option α} {a : α} {d : Data}
  {name : String} {fields : List (String × Data)}

/-- Whether a decoder gives back what was encoded, and every value that is encoded has a text. -/
structure Lawful (encode : α → Data) (decode : Data → Option α) : Prop where
  hasText : ∀ a, Json.HasText (encode a)
  decode_encode : ∀ a, decode (encode a) = some a

/-- Whether values survive being written as JSON: what is decoded from the text, and from its
bytes, is the value, and no two values have the same text. -/
structure Survives (encode : α → Data) (decode : Data → Option α) : Prop where
  decode_text : ∀ a, (Json.parse? (Json.write (encode a))).bind decode = some a
  decode_bytes : ∀ a, (Json.parseBytes? (Utf8.encode (Json.write (encode a)))).bind decode = some a
  injective : Function.Injective fun a => Json.write (encode a)

/-- Whether the values that can be encoded survive being written as JSON. -/
structure SurvivesIfEncoded (encode? : α → Option Data) (decode : Data → Option α) : Prop where
  decode_text : ∀ a d, encode? a = some d → (Json.parse? (Json.write d)).bind decode = some a
  decode_bytes : ∀ a d, encode? a = some d →
    (Json.parseBytes? (Utf8.encode (Json.write d))).bind decode = some a
  injective : ∀ a a' d d', encode? a = some d → encode? a' = some d' →
    Json.write d = Json.write d' → a = a'

theorem bind_parse?_write (htext : Json.HasText d) (hdecode : decode d = some a) :
    (Json.parse? (Json.write d)).bind decode = some a := by
  rw [Json.parse?_write htext, Option.bind_some, hdecode]

theorem bind_parseBytes?_write (htext : Json.HasText d) (hdecode : decode d = some a) :
    (Json.parseBytes? (Utf8.encode (Json.write d))).bind decode = some a := by
  rw [Json.parseBytes?_encode, bind_parse?_write htext hdecode]

theorem survivesIfEncoded {encode? : α → Option Data}
    (h : ∀ a d, encode? a = some d → Json.HasText d ∧ decode d = some a) :
    SurvivesIfEncoded encode? decode := by
  have htext (a : α) (d : Data) (hd : encode? a = some d) :
      (Json.parse? (Json.write d)).bind decode = some a :=
    bind_parse?_write (h a d hd).1 (h a d hd).2
  refine ⟨htext, fun a d hd => bind_parseBytes?_write (h a d hd).1 (h a d hd).2, ?_⟩
  -- The value can be told from the text.
  intro a a' d d' hd hd' heq
  have ha := htext a d hd
  rw [heq, htext a' d' hd'] at ha
  exact (Option.some_inj.1 ha).symm

theorem Lawful.survives (h : Lawful encode decode) : Survives encode decode := by
  have hpart : SurvivesIfEncoded (some ∘ encode) decode := by
    refine survivesIfEncoded ?_
    rintro a _ ⟨⟩
    exact ⟨h.hasText a, h.decode_encode a⟩
  exact ⟨fun a => hpart.decode_text a _ rfl, fun a => hpart.decode_bytes a _ rfl,
    fun a a' heq => hpart.injective a a' _ _ rfl rfl heq⟩

/-! ## Simple values -/

theorem Lawful.string : Lawful .string Data.string? := ⟨.string, fun _ => rfl⟩

theorem Lawful.bool : Lawful .bool Data.bool? := ⟨.bool, fun _ => rfl⟩

theorem Data.hasText_ofNat (n : Nat) : Json.HasText (.ofNat n) :=
  .number fun _ => List.not_mem_nil.elim

theorem Data.hasText_ofInt (i : Int) : Json.HasText (.ofInt i) :=
  .number fun _ => List.not_mem_nil.elim

theorem Data.integer?_ofNat {n : Nat} {high : Int} (h : n ≤ high) :
    (Data.ofNat n).integer? 0 high = some (n : Int) := by
  simp [ofNat, integer?, Numeral.integer?, h]

theorem Data.integer?_ofInt {low high i : Int} (hlow : low ≤ i) (hhigh : i ≤ high) :
    (Data.ofInt i).integer? low high = some i := by
  rw [ofInt, integer?, Numeral.integer?]
  by_cases hnegative : i < 0
  · have hne : i.natAbs ≠ 0 := by omega
    have habs : -(i.natAbs : Int) = i := by omega
    generalize i.natAbs = n at hne habs ⊢
    simp [hnegative, hne, habs, hlow, hhigh]
  · have habs : (i.natAbs : Int) = i := by omega
    generalize i.natAbs = n at habs ⊢
    simp [hnegative, habs, hlow, hhigh]

theorem Lawful.uint32 : Lawful (fun n : UInt32 => .ofNat n.toNat) Data.uint32? := by
  refine ⟨fun n => Data.hasText_ofNat n.toNat, fun n => ?_⟩
  have hlt := n.toNat_lt
  have hread : (Data.ofNat n.toNat).integer? 0 4294967295 = some (n.toNat : Int) :=
    Data.integer?_ofNat (by omega)
  simp [Data.uint32?, hread]

theorem Lawful.uint64 : Lawful (fun n : UInt64 => .ofNat n.toNat) Data.uint64? := by
  refine ⟨fun n => Data.hasText_ofNat n.toNat, fun n => ?_⟩
  have hlt := n.toNat_lt
  have hread : (Data.ofNat n.toNat).integer? 0 18446744073709551615 = some (n.toNat : Int) :=
    Data.integer?_ofNat (by omega)
  simp [Data.uint64?, hread]

theorem Lawful.int32 : Lawful (fun i : Int32 => .ofInt i.toInt) Data.int32? := by
  refine ⟨fun i => Data.hasText_ofInt i.toInt, fun i => ?_⟩
  have hread : (Data.ofInt i.toInt).integer? (-2147483648) 2147483647 = some i.toInt :=
    Data.integer?_ofInt i.le_toInt (Int.le_sub_one_of_lt i.toInt_lt)
  simp [Data.int32?, hread]

/-! ## Lists and missing values -/

theorem Lawful.list (h : Lawful encode decode) :
    Lawful (fun items : List α => .list (items.map encode)) (Data.list? decode) := by
  refine ⟨fun items => .list fun d hmem => ?_, fun items => ?_⟩
  · obtain ⟨a, -, rfl⟩ := List.mem_map.1 hmem
    exact h.hasText a
  · induction items with
    | nil => rfl
    | cons a items ih =>
      simp only [Data.list?] at ih
      simp [Data.list?, h.decode_encode, ih]

/-- A value that may be missing is not mistaken for a missing one. -/
theorem Lawful.ofOption (h : Lawful encode decode) (not_null : ∀ a, encode a ≠ .null) :
    Lawful (Data.ofOption encode) (Data.nullable? decode) := by
  refine ⟨fun a => ?_, fun a => ?_⟩
  · cases a with
    | none => exact .null
    | some a => exact h.hasText a
  · cases a with
    | none => rfl
    | some a =>
      rw [Data.ofOption, Data.nullable?, h.decode_encode, Option.map_some]
      exact not_null a

/-! ## Fields -/

/-- Where names are distinct, each is that of one field. -/
theorem Fields.find?_named (distinct : (fields.map (·.1)).Nodup) (mem : (name, d) ∈ fields) :
    (Fields.named fields).find? name = some d := by
  induction fields with
  | nil => cases mem
  | cons field fields ih =>
    rw [List.map_cons, List.nodup_cons] at distinct
    obtain rfl | hmem := List.mem_cons.1 mem
    · simp [find?]
    · have hne : field.1 ≠ name := by
        rintro rfl
        exact distinct.1 (List.mem_map.2 ⟨_, hmem, rfl⟩)
      have hfind := ih distinct.2 hmem
      rw [find?] at hfind ⊢
      rwa [List.find?_cons_of_neg (by simpa using hne)]

/-- The fields of a record with distinct names are all found. -/
theorem Fields.exists_of_record (dialect : Dialect) (names : List String)
    (record : d = .record fields) (distinct : (fields.map (·.1)).Nodup) :
    ∃ f, Fields.ofData? dialect names d = some f ∧
      ∀ name d, (name, d) ∈ fields → f.find? name = some d := by
  subst record
  refine ⟨.named fields, ofData?_record ?_, fun name d => find?_named distinct⟩
  intro name _
  -- What is looked for is what has the name, of which there is at most one.
  have hcount := List.nodup_iff_count_le_one.1 distinct name
  rw [List.count, List.countP_map, List.countP_eq_length_filter] at hcount
  simpa [Function.comp_def, ← beq_eq_decide] using hcount

variable {f : Fields}

theorem Lawful.required (h : Lawful encode decode) (hfind : f.find? name = some (encode a)) :
    f.required name decode = some a := by
  rw [Fields.required, hfind, Option.bind_some, h.decode_encode]

theorem Lawful.withDefault (h : Lawful encode decode) (default : α)
    (hfind : f.find? name = some (encode a)) : f.withDefault name default decode = some a := by
  simp [Fields.withDefault, hfind, h.decode_encode]

theorem Lawful.nullable {a : Option α} (h : Lawful encode decode)
    (not_null : ∀ a, encode a ≠ .null) (hfind : f.find? name = some (.ofOption encode a)) :
    f.nullable name decode = some a := by
  simp [Fields.nullable, hfind, (h.ofOption not_null).decode_encode]

end Buildwatch
