import Buildwatch.Proofs.Json.Token

/-!
# Written values are read back

The text of a value is read as that value, whatever follows it, unless it goes on with a number.
What holds for the items of a list and for the fields of a record holds for the whole. Reading
takes no more steps than the text has characters.
-/

namespace Buildwatch.Json

variable {c : Char} {d : Data} {items : List Data} {fields : List (String × Data)} {name : String}
  {fuel : Nat} {t t' rest : Source}

/-- Whether a value has a text of its own: nothing in it is broken, and what stands after a point
is digits. -/
inductive HasText : Data → Prop
  | null : HasText .null
  | bool (b : Bool) : HasText (.bool b)
  | number {n : Numeral} (digits : ∀ c ∈ n.fraction, c.isDigit = true) : HasText (.number n)
  | string (s : String) : HasText (.string s)
  | list {items : List Data} (items_have : ∀ d ∈ items, HasText d) : HasText (.list items)
  | record {fields : List (String × Data)} (fields_have : ∀ field ∈ fields, HasText field.2) :
      HasText (.record fields)

/-- Whether the text of a value is read as that value. -/
def ReadsBack (d : Data) : Prop :=
  ∀ (fuel : Nat) (rest : Source), (write d).length ≤ fuel → Ends rest →
    value? (fuel + 1) ((write d).map some ++ rest) = some (d, rest)

/-- What follows an item or a field ends a number. -/
theorem ends_cons (h : c ∈ [',', ']', '\x7d']) : Ends (some c :: rest) := by
  simp only [List.mem_cons, List.not_mem_nil, or_false] at h
  rcases h with rfl | rfl | rfl <;> exact ⟨by simp [NoDigit, isDigit], by simp, by simp⟩

theorem ends_nil : Ends [] := ⟨by simp [NoDigit], by simp, by simp⟩

theorem skipSpace_cons (h : isSpace c = false) : skipSpace (some c :: t) = some c :: t := by
  simp [skipSpace, h]

/-! ## Simple values -/

/-- What begins neither a string nor a list nor a record is a word or a number. -/
theorem value?_simple (hspace : isSpace c = false) (hnested : c ∉ ['"', '[', '\x7b']) :
    value? (fuel + 1) (some c :: t) = (word? (some c :: t) <|> number? (some c :: t)) := by
  rw [value?, skipSpace_cons hspace]
  split <;> simp_all

theorem toList_null : "null".toList = ['n', 'u', 'l', 'l'] := rfl

theorem toList_true : "true".toList = ['t', 'r', 'u', 'e'] := rfl

theorem toList_false : "false".toList = ['f', 'a', 'l', 's', 'e'] := rfl

/-- What begins with none of the first letters of the words is no word. -/
theorem word?_eq_none (h : c ∉ ['n', 't', 'f']) : word? (some c :: t) = none := by
  simp only [List.mem_cons, List.not_mem_nil, or_false, not_or] at h
  simp [word?, toList_null, toList_true, toList_false, dropFront?, Ne.symm h.1, Ne.symm h.2.1,
    Ne.symm h.2.2]

theorem readsBack_null : ReadsBack .null := by
  intro fuel rest _ _
  rw [write, toList_null, List.map_cons, List.cons_append, value?_simple (by decide) (by decide)]
  simp [word?, toList_null, dropFront?]

theorem readsBack_bool (b : Bool) : ReadsBack (.bool b) := by
  intro fuel rest _ _
  cases b with
  | true =>
    rw [write, toList_true, List.map_cons, List.cons_append,
      value?_simple (by decide) (by decide)]
    simp [word?, toList_null, toList_true, dropFront?]
  | false =>
    rw [write, toList_false, List.map_cons, List.cons_append,
      value?_simple (by decide) (by decide)]
    simp [word?, toList_null, toList_true, toList_false, dropFront?]

/-- A number begins with a digit or with a sign. -/
theorem exists_writeNumeral_eq_cons (n : Numeral) :
    ∃ c t, writeNumeral n = c :: t ∧ (c.isDigit = true ∨ c = '-') := by
  rw [writeNumeral_eq]
  cases n.negative with
  | true => exact ⟨'-', _, rfl, .inr rfl⟩
  | false =>
    obtain ⟨d, ds, hdigits, hd⟩ := exists_toDigits_eq_cons n.whole
    refine ⟨d, ds ++ writtenFraction n.fraction ++ writtenExponent n.exponent, ?_, .inl hd⟩
    simp [hdigits]

/-- What a number begins with begins nothing else. -/
theorem not_mem_of_isDigit (h : c.isDigit = true ∨ c = '-') :
    isSpace c = false ∧ c ∉ [']', '"', '[', '\x7b', 'n', 't', 'f'] := by
  obtain h | rfl := h
  · refine ⟨?_, fun hmem => ?_⟩
    · rw [Bool.eq_false_iff]
      intro hspace
      simp only [isSpace, Bool.or_eq_true, beq_iff_eq] at hspace
      obtain ((rfl | rfl) | rfl) | rfl := hspace <;> cases h
    · simp only [List.mem_cons, List.not_mem_nil, or_false] at hmem
      obtain rfl | rfl | rfl | rfl | rfl | rfl | rfl := hmem <;> cases h
  · exact ⟨rfl, by decide⟩

theorem readsBack_number {n : Numeral} (h : ∀ c ∈ n.fraction, c.isDigit = true) :
    ReadsBack (.number n) := by
  intro fuel rest _ hrest
  have hread := number?_written h hrest
  obtain ⟨c, t, hwritten, hc⟩ := exists_writeNumeral_eq_cons n
  obtain ⟨hspace, hmem⟩ := not_mem_of_isDigit hc
  simp only [List.mem_cons, not_or] at hmem
  -- What begins a number begins no word, so the reader comes to the number.
  rw [hwritten, List.map_cons, List.cons_append] at hread
  rw [write, hwritten, List.map_cons, List.cons_append, value?_simple hspace (by simp [hmem]),
    word?_eq_none (by simp [hmem]), hread]
  rfl

theorem readsBack_string (s : String) : ReadsBack (.string s) := by
  intro fuel rest _ _
  have hread := stringBody?_written s.toList rest
  simp [write, writeString, value?, skipSpace_cons, isSpace, hread, textOf?_map_some]

/-! ## Lists -/

/-- A value begins with what is no space and does not close a list. -/
theorem exists_write_eq_cons (d : Data) :
    ∃ c t, write d = c :: t ∧ isSpace c = false ∧ c ≠ ']' := by
  cases d with
  | number n =>
    obtain ⟨c, t, hwritten, hc⟩ := exists_writeNumeral_eq_cons n
    obtain ⟨hspace, hmem⟩ := not_mem_of_isDigit hc
    exact ⟨c, t, hwritten, hspace, fun h => hmem (h ▸ List.mem_cons_self)⟩
  | bool b =>
    cases b with
    | true => exact ⟨_, _, toList_true, rfl, by decide⟩
    | false => exact ⟨_, _, toList_false, rfl, by decide⟩
  | null => exact ⟨_, _, toList_null, rfl, by decide⟩
  | broken => exact ⟨_, _, toList_null, rfl, by decide⟩
  | string s => exact ⟨_, _, rfl, rfl, by decide⟩
  | list items => exact ⟨_, _, rfl, rfl, by decide⟩
  | record fields => exact ⟨_, _, rfl, rfl, by decide⟩

/-- The last item stands before the closing bracket. -/
theorem items?_last (hvalue : value? fuel t = some (d, some ']' :: rest)) :
    items? (fuel + 1) t = some ([d], rest) := by
  simp [items?, hvalue, skipSpace_cons, isSpace]

/-- Other items stand before a comma. -/
theorem items?_next (hvalue : value? fuel t = some (d, some ',' :: t'))
    (hitems : items? fuel t' = some (items, rest)) :
    items? (fuel + 1) t = some (d :: items, rest) := by
  simp [items?, hvalue, skipSpace_cons, isSpace, hitems]

theorem writeItems_cons_cons (d e : Data) (items : List Data) :
    writeItems (d :: e :: items) = write d ++ ',' :: writeItems (e :: items) := by
  rw [writeItems]
  exact fun h => nomatch h

theorem items?_written (rest : Source) (hne : items ≠ []) (h : ∀ d ∈ items, ReadsBack d)
    (hfuel : (writeItems items).length ≤ fuel) :
    items? (fuel + 2) ((writeItems items).map some ++ some ']' :: rest) = some (items, rest) := by
  induction items generalizing fuel with
  | nil => exact absurd rfl hne
  | cons d items ih =>
    have hd := h d List.mem_cons_self
    cases items with
    | nil => exact items?_last (hd fuel _ hfuel (ends_cons (by simp)))
    | cons e items =>
      rw [writeItems_cons_cons, List.length_append, List.length_cons] at hfuel
      -- The comma takes the step that reading the items after it needs.
      obtain ⟨fuel, rfl⟩ := Nat.exists_eq_add_of_le' (m := 1) (n := fuel) (by omega)
      have hle : (writeItems (e :: items)).length ≤ fuel := by omega
      have hitems := ih (by simp) (fun d hmem => h d (List.mem_cons_of_mem _ hmem)) hle
      rw [writeItems_cons_cons, List.map_append, List.append_assoc]
      exact items?_next (hd _ _ (by omega) (ends_cons (by simp))) hitems

/-- The items of a list begin as the first one does. -/
theorem exists_writeItems_eq_cons (d : Data) (items : List Data) :
    ∃ c t, writeItems (d :: items) = c :: t ∧ isSpace c = false ∧ c ≠ ']' := by
  obtain ⟨c, t, hwritten, hc⟩ := exists_write_eq_cons d
  cases items with
  | nil => exact ⟨c, t, hwritten, hc⟩
  | cons e items => exact ⟨c, _, by rw [writeItems_cons_cons, hwritten, List.cons_append], hc⟩

/-- A list that is not empty is read item by item. -/
theorem value?_list (hspace : isSpace c = false) (hbracket : c ≠ ']')
    (hitems : items? fuel (some c :: t) = some (items, rest)) :
    value? (fuel + 1) (some '[' :: some c :: t) = some (.list items, rest) := by
  rw [value?, skipSpace_cons rfl]
  simp only
  rw [skipSpace_cons hspace]
  simp [hitems, hbracket]

theorem readsBack_list (h : ∀ d ∈ items, ReadsBack d) : ReadsBack (.list items) := by
  intro fuel rest hfuel _
  cases items with
  | nil => simp [write, writeItems, value?, skipSpace_cons, isSpace]
  | cons d items =>
    rw [write, List.length_append, List.length_cons, List.length_singleton] at hfuel
    -- The brackets are two characters, which leave two steps for the list itself.
    obtain ⟨fuel, rfl⟩ := Nat.exists_eq_add_of_le' (m := 2) (n := fuel) (by omega)
    have hle : (writeItems (d :: items)).length ≤ fuel := by omega
    have hitems := items?_written rest (List.cons_ne_nil d items) h hle
    obtain ⟨c, t, hwritten, hspace, hbracket⟩ := exists_writeItems_eq_cons d items
    rw [hwritten] at hitems
    rw [write, hwritten]
    simpa using value?_list hspace hbracket hitems

/-! ## Records -/

/-- The last field stands before the closing brace. -/
theorem fields?_last (hvalue : value? fuel t = some (d, some '\x7d' :: rest)) :
    fields? (fuel + 1) ((writeString name).map some ++ some ':' :: t) =
      some ([(some name, d)], rest) := by
  have hname (rest : Source) := stringBody?_written name.toList rest
  simp [fields?, writeString, hvalue, skipSpace_cons, isSpace, hname, textOf?_map_some]

/-- Other fields stand before a comma. -/
theorem fields?_next {read : List (Option String × Data)}
    (hvalue : value? fuel t = some (d, some ',' :: t'))
    (hfields : fields? fuel t' = some (read, rest)) :
    fields? (fuel + 1) ((writeString name).map some ++ some ':' :: t) =
      some ((some name, d) :: read, rest) := by
  have hname (rest : Source) := stringBody?_written name.toList rest
  simp [fields?, writeString, hvalue, skipSpace_cons, isSpace, hname, textOf?_map_some, hfields]

theorem writeFields_cons_cons (name : String) (d : Data) (field : String × Data)
    (fields : List (String × Data)) :
    writeFields ((name, d) :: field :: fields) =
      writeString name ++ ':' :: (write d ++ ',' :: writeFields (field :: fields)) := by
  rw [writeFields, List.append_assoc, List.cons_append]
  exact fun h => nomatch h

theorem fields?_written (rest : Source) (hne : fields ≠ [])
    (h : ∀ field ∈ fields, ReadsBack field.2)
    (hfuel : (writeFields fields).length ≤ fuel) :
    fields? (fuel + 2) ((writeFields fields).map some ++ some '\x7d' :: rest) =
      some (fields.map fun field => (some field.1, field.2), rest) := by
  induction fields generalizing fuel with
  | nil => exact absurd rfl hne
  | cons field fields ih =>
    obtain ⟨name, d⟩ := field
    have hd : ReadsBack d := h (name, d) List.mem_cons_self
    cases fields with
    | nil =>
      rw [writeFields, List.length_append, List.length_cons] at hfuel
      rw [writeFields, List.map_append, List.map_cons, List.append_assoc, List.cons_append]
      exact fields?_last (hd fuel _ (by omega) (ends_cons (by simp)))
    | cons field fields =>
      rw [writeFields_cons_cons, List.length_append, List.length_cons, List.length_append,
        List.length_cons] at hfuel
      obtain ⟨fuel, rfl⟩ := Nat.exists_eq_add_of_le' (m := 1) (n := fuel) (by omega)
      have hle : (writeFields (field :: fields)).length ≤ fuel := by omega
      have hfields := ih (by simp) (fun field hmem => h field (List.mem_cons_of_mem _ hmem)) hle
      rw [writeFields_cons_cons, List.map_append, List.map_cons, List.map_append,
        List.append_assoc, List.cons_append, List.append_assoc]
      exact fields?_next (hd _ _ (by omega) (ends_cons (by simp))) hfields

/-- A record is not broken by names that are texts. -/
theorem recordOf_named (fields : List (String × Data)) :
    recordOf (fields.map fun field => (some field.1, field.2)) = .record fields := by
  have hnames : fields.mapM ((fun field : Option String × Data => field.1.map (·, field.2)) ∘
      fun field => (some field.1, field.2)) = some fields := by
    induction fields with
    | nil => rfl
    | cons field fields ih => simp [ih]
  simp [recordOf, List.mapM_map, hnames]

/-- The fields of a record begin with the quote of a name. -/
theorem exists_writeFields_eq_cons (field : String × Data) (fields : List (String × Data)) :
    ∃ t, writeFields (field :: fields) = '"' :: t := by
  obtain ⟨name, d⟩ := field
  cases fields with
  | nil => exact ⟨_, by rw [writeFields, writeString, List.cons_append, List.cons_append]⟩
  | cons field fields =>
    exact ⟨_, by rw [writeFields_cons_cons, writeString, List.cons_append, List.cons_append]⟩

/-- A record that is not empty is read field by field. -/
theorem value?_record {read : List (Option String × Data)}
    (hfields : fields? fuel (some '"' :: t) = some (read, rest)) :
    value? (fuel + 1) (some '\x7b' :: some '"' :: t) = some (recordOf read, rest) := by
  rw [value?, skipSpace_cons rfl]
  simp only
  rw [skipSpace_cons rfl]
  simp [hfields]

theorem readsBack_record (h : ∀ field ∈ fields, ReadsBack field.2) :
    ReadsBack (.record fields) := by
  intro fuel rest hfuel _
  cases fields with
  | nil => simp [write, writeFields, value?, skipSpace_cons, isSpace]
  | cons field fields =>
    rw [write, List.length_append, List.length_cons, List.length_singleton] at hfuel
    obtain ⟨fuel, rfl⟩ := Nat.exists_eq_add_of_le' (m := 2) (n := fuel) (by omega)
    have hle : (writeFields (field :: fields)).length ≤ fuel := by omega
    have hfields := fields?_written rest (List.cons_ne_nil field fields) h hle
    obtain ⟨t, hwritten⟩ := exists_writeFields_eq_cons field fields
    rw [hwritten] at hfields
    have hread := value?_record hfields
    rw [recordOf_named] at hread
    rw [write, hwritten]
    simpa using hread

/-! ## Whole texts -/

/-- The text of a value is read as that value. -/
theorem readsBack (h : HasText d) : ReadsBack d := by
  -- The items of a list and the fields of a record read back by induction.
  induction h with
  | null => exact readsBack_null
  | bool b => exact readsBack_bool b
  | number digits => exact readsBack_number digits
  | string s => exact readsBack_string s
  | list _ ih => exact readsBack_list ih
  | record _ ih => exact readsBack_record ih

theorem parse?_write (h : HasText d) : parse? (write d) = some d := by
  have hread := readsBack h ((write d).length) [] (Nat.le_refl _) ends_nil
  rw [List.append_nil] at hread
  rw [parse?, ofSource?, List.length_map, hread]
  rfl

/-- The bytes of a text are read as the text is. -/
theorem parseBytes?_encode (t : Text) : parseBytes? (Utf8.encode t) = parse? t := by
  rw [parseBytes?, Utf8.decode_encode, parse?]

end Buildwatch.Json
