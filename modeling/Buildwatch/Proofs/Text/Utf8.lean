import Buildwatch.Text.Utf8

/-!
# What the decoder does

The decoding of bytes is fixed by the bytes of the characters alone: where a character
stands, it is read; elsewhere the longest part that begins a character, or else one byte,
is a gap. The decoder finds this decoding, and there is no other. A newline is never part
of another character, so decoding goes line by line.
-/

namespace Buildwatch.Utf8

open String (utf8EncodeChar)

/-! ## Decodings -/

/-- Whether some character's bytes start with `part`. -/
def BeginsCharacter (part : List UInt8) : Prop := ∃ c : Char, part <+: utf8EncodeChar c

/-- Whether `part` is the gap at the start of `part ++ rest`: no character stands there, and
`part` is the longest part that begins one, or a single byte. -/
structure IsGap (part rest : List UInt8) : Prop where
  ne_nil : part ≠ []
  no_character : ∀ c : Char, ¬ utf8EncodeChar c <+: part ++ rest
  begins : BeginsCharacter part ∨ part.length = 1
  longest : ∀ longer, longer <+: part ++ rest → part.length < longer.length →
    ¬ BeginsCharacter longer

/-- The decodings of bytes: characters where they stand, and gaps between them. -/
inductive Decoding : List UInt8 → Gapped → Prop
  | nil : Decoding [] []
  | character {c : Char} {rest : List UInt8} {out : Gapped} :
      Decoding rest out → Decoding (utf8EncodeChar c ++ rest) (some c :: out)
  | gap {part rest : List UInt8} {out : Gapped} :
      IsGap part rest → Decoding rest out → Decoding (part ++ rest) (none :: out)

/-! ## The bytes of a character -/

/-- The bytes of a character, by their number. -/
theorem utf8EncodeChar_cases (c : Char) :
    (∃ a, utf8EncodeChar c = [a] ∧ c.toNat < 0x80 ∧ a.toNat = c.toNat) ∨
    (∃ a b, utf8EncodeChar c = [a, b] ∧ 0x80 ≤ c.toNat ∧ c.toNat < 0x800 ∧
      a.toNat = 0xC0 + c.toNat / 64 ∧ b.toNat = 0x80 + c.toNat % 64) ∨
    (∃ a b d, utf8EncodeChar c = [a, b, d] ∧ 0x800 ≤ c.toNat ∧ c.toNat < 0x10000 ∧
      (c.toNat < 0xD800 ∨ 0xDFFF < c.toNat) ∧ a.toNat = 0xE0 + c.toNat / 4096 ∧
      b.toNat = 0x80 + c.toNat / 64 % 64 ∧ d.toNat = 0x80 + c.toNat % 64) ∨
    (∃ a b d e, utf8EncodeChar c = [a, b, d, e] ∧ 0x10000 ≤ c.toNat ∧ c.toNat < 0x110000 ∧
      a.toNat = 0xF0 + c.toNat / 262144 ∧ b.toNat = 0x80 + c.toNat / 4096 % 64 ∧
      d.toNat = 0x80 + c.toNat / 64 % 64 ∧ e.toNat = 0x80 + c.toNat % 64) := by
  have hvalid : c.toNat < 0xD800 ∨ 0xDFFF < c.toNat ∧ c.toNat < 0x110000 := c.valid
  have hval : c.val.toNat = c.toNat := rfl
  unfold utf8EncodeChar
  simp only [hval]
  split
  · exact .inl ⟨_, rfl, by omega, by simp; omega⟩
  · split
    · exact .inr (.inl ⟨_, _, rfl, by omega, by omega, by simp; omega, by simp; omega⟩)
    · split
      · exact .inr (.inr (.inl ⟨_, _, _, rfl, by omega, by omega, by omega, by simp; omega,
          by simp; omega, by simp; omega⟩))
      · exact .inr (.inr (.inr ⟨_, _, _, _, rfl, by omega, by omega, by simp; omega,
          by simp; omega, by simp; omega, by simp; omega⟩))

theorem toNat_ofNat_of_valid {n : Nat} (h : n < 0xD800 ∨ 0xDFFF < n ∧ n < 0x110000) :
    (Char.ofNat n).toNat = n := by
  have hvalid : n.isValidChar := h
  rw [Char.ofNat, dif_pos hvalid]
  rfl

theorem eq_utf8EncodeChar_one {a : UInt8} (ha : a.toNat < 0x80) :
    [a] = utf8EncodeChar (Char.ofNat a.toNat) := by
  have hn := toNat_ofNat_of_valid (n := a.toNat) (by omega)
  generalize Char.ofNat _ = c at hn ⊢
  obtain ⟨a', h, _, ha'⟩ | ⟨_, _, _, h⟩ | ⟨_, _, _, _, h⟩ | ⟨_, _, _, _, _, h⟩ :=
    utf8EncodeChar_cases c
  · rw [h, ← UInt8.toNat_inj.1 (show a.toNat = a'.toNat by omega)]
  · omega
  · omega
  · omega

theorem eq_utf8EncodeChar_two {a b : UInt8} (ha : 0xC2 ≤ a.toNat ∧ a.toNat < 0xE0)
    (hb : 0x80 ≤ b.toNat ∧ b.toNat ≤ 0xBF) :
    [a, b] = utf8EncodeChar (Char.ofNat (64 * (a.toNat - 0xC0) + (b.toNat - 0x80))) := by
  have hn := toNat_ofNat_of_valid (n := 64 * (a.toNat - 0xC0) + (b.toNat - 0x80)) (by omega)
  generalize Char.ofNat _ = c at hn ⊢
  obtain ⟨_, _, h⟩ | ⟨a', b', h, _, _, ha', hb'⟩ | ⟨_, _, _, _, h⟩ | ⟨_, _, _, _, _, h⟩ :=
    utf8EncodeChar_cases c
  · omega
  · rw [h, ← UInt8.toNat_inj.1 (show a.toNat = a'.toNat by omega),
      ← UInt8.toNat_inj.1 (show b.toNat = b'.toNat by omega)]
  · omega
  · omega

theorem eq_utf8EncodeChar_three {a b d : UInt8} (ha : 0xE0 ≤ a.toNat ∧ a.toNat < 0xF0)
    (hb : 0x80 ≤ b.toNat ∧ b.toNat ≤ 0xBF) (hd : 0x80 ≤ d.toNat ∧ d.toNat ≤ 0xBF)
    (hlow : a.toNat = 0xE0 → 0xA0 ≤ b.toNat) (hhigh : a.toNat = 0xED → b.toNat ≤ 0x9F) :
    [a, b, d] = utf8EncodeChar
      (Char.ofNat (64 * (64 * (a.toNat - 0xE0) + (b.toNat - 0x80)) + (d.toNat - 0x80))) := by
  have hn := toNat_ofNat_of_valid
    (n := 64 * (64 * (a.toNat - 0xE0) + (b.toNat - 0x80)) + (d.toNat - 0x80)) (by omega)
  generalize Char.ofNat _ = c at hn ⊢
  obtain ⟨_, _, h⟩ | ⟨_, _, _, h⟩ | ⟨a', b', d', h, _, _, _, ha', hb', hd'⟩ |
      ⟨_, _, _, _, _, h⟩ := utf8EncodeChar_cases c
  · omega
  · omega
  · rw [h, ← UInt8.toNat_inj.1 (show a.toNat = a'.toNat by omega),
      ← UInt8.toNat_inj.1 (show b.toNat = b'.toNat by omega),
      ← UInt8.toNat_inj.1 (show d.toNat = d'.toNat by omega)]
  · omega

theorem eq_utf8EncodeChar_four {a b d e : UInt8} (ha : 0xF0 ≤ a.toNat ∧ a.toNat < 0xF5)
    (hb : 0x80 ≤ b.toNat ∧ b.toNat ≤ 0xBF) (hd : 0x80 ≤ d.toNat ∧ d.toNat ≤ 0xBF)
    (he : 0x80 ≤ e.toNat ∧ e.toNat ≤ 0xBF)
    (hlow : a.toNat = 0xF0 → 0x90 ≤ b.toNat) (hhigh : a.toNat = 0xF4 → b.toNat ≤ 0x8F) :
    [a, b, d, e] = utf8EncodeChar (Char.ofNat (64 * (64 * (64 * (a.toNat - 0xF0) +
      (b.toNat - 0x80)) + (d.toNat - 0x80)) + (e.toNat - 0x80))) := by
  have hn := toNat_ofNat_of_valid (n := 64 * (64 * (64 * (a.toNat - 0xF0) +
    (b.toNat - 0x80)) + (d.toNat - 0x80)) + (e.toNat - 0x80)) (by omega)
  generalize Char.ofNat _ = c at hn ⊢
  obtain ⟨_, _, h⟩ | ⟨_, _, _, h⟩ | ⟨_, _, _, _, h⟩ |
      ⟨a', b', d', e', h, _, _, ha', hb', hd', he'⟩ := utf8EncodeChar_cases c
  · omega
  · omega
  · omega
  · rw [h, ← UInt8.toNat_inj.1 (show a.toNat = a'.toNat by omega),
      ← UInt8.toNat_inj.1 (show b.toNat = b'.toNat by omega),
      ← UInt8.toNat_inj.1 (show d.toNat = d'.toNat by omega),
      ← UInt8.toNat_inj.1 (show e.toNat = e'.toNat by omega)]

/-! ## Steps of the decoder -/

theorem start_one {b : UInt8} (h : b.toNat < 0x80) :
    start b = ([some (Char.ofNat b.toNat)], .idle) := by
  simp [start, h]

theorem start_two {b : UInt8} (h : 0xC2 ≤ b.toNat) (h' : b.toNat < 0xE0) :
    start b = ([], .within (b.toNat - 0xC0) 1 0x80 0xBF) := by
  simp only [start]
  rw [if_neg (by omega), if_neg (by omega), if_pos (by omega)]

theorem start_three {b : UInt8} (h : 0xE0 ≤ b.toNat) (h' : b.toNat < 0xF0) :
    start b = ([], .within (b.toNat - 0xE0) 2 (if b.toNat = 0xE0 then 0xA0 else 0x80)
      (if b.toNat = 0xED then 0x9F else 0xBF)) := by
  simp only [start]
  rw [if_neg (by omega), if_neg (by omega), if_neg (by omega), if_pos (by omega)]

theorem start_four {b : UInt8} (h : 0xF0 ≤ b.toNat) (h' : b.toNat < 0xF5) :
    start b = ([], .within (b.toNat - 0xF0) 3 (if b.toNat = 0xF0 then 0x90 else 0x80)
      (if b.toNat = 0xF4 then 0x8F else 0xBF)) := by
  simp only [start]
  rw [if_neg (by omega), if_neg (by omega), if_neg (by omega), if_neg (by omega),
    if_pos (by omega)]

theorem start_gap {b : UInt8} (h : 0x80 ≤ b.toNat ∧ b.toNat < 0xC2 ∨ 0xF5 ≤ b.toNat) :
    start b = ([none], .idle) := by
  simp only [start]
  obtain h | h := h
  · rw [if_neg (by omega), if_pos (by omega)]
  · rw [if_neg (by omega), if_neg (by omega), if_neg (by omega), if_neg (by omega),
      if_neg (by omega)]

section Feed

variable {value owed low high : Nat} {b : UInt8}

theorem feed_last (h : low ≤ b.toNat ∧ b.toNat ≤ high) :
    feed (.within value 1 low high) b =
      ([some (Char.ofNat (64 * value + (b.toNat - 0x80)))], .idle) := by
  simp [feed, h]

theorem feed_more (h : low ≤ b.toNat ∧ b.toNat ≤ high) :
    feed (.within value (owed + 2) low high) b =
      ([], .within (64 * value + (b.toNat - 0x80)) (owed + 1) 0x80 0xBF) := by
  simp [feed, h]

theorem feed_outside (h : ¬ (low ≤ b.toNat ∧ b.toNat ≤ high)) :
    feed (.within value owed low high) b = (none :: (start b).1, (start b).2) := by
  simp only [feed]
  rw [if_neg h]

end Feed

/-- The decoder reads a character where one stands. -/
theorem decode_utf8EncodeChar_append (c : Char) (rest : List UInt8) :
    decode (utf8EncodeChar c ++ rest) = some c :: decode rest := by
  have hc : Char.ofNat c.toNat = c := Char.ofNat_toNat c
  obtain ⟨a, h, hn, ha⟩ | ⟨a, b, h, _, _, ha, hb⟩ | ⟨a, b, d, h, _, _, _, ha, hb, hd⟩ |
      ⟨a, b, d, e, h, _, _, ha, hb, hd, he⟩ := utf8EncodeChar_cases c
  · simp only [h, decode, decodeFrom, feed, List.cons_append, List.nil_append]
    rw [start_one (by omega), ha, hc]
    rfl
  · simp only [h, decode, decodeFrom, List.cons_append, List.nil_append]
    rw [feed, start_two (by omega) (by omega), feed_last (by omega),
      show 64 * (a.toNat - 0xC0) + (b.toNat - 0x80) = c.toNat by omega, hc]
    rfl
  · simp only [h, decode, decodeFrom, List.cons_append, List.nil_append]
    rw [feed, start_three (by omega) (by omega), feed_more (by split <;> split <;> omega),
      feed_last (by omega), show 64 * (64 * (a.toNat - 0xE0) + (b.toNat - 0x80)) +
        (d.toNat - 0x80) = c.toNat by omega, hc]
    rfl
  · simp only [h, decode, decodeFrom, List.cons_append, List.nil_append]
    rw [feed, start_four (by omega) (by omega), feed_more (by split <;> split <;> omega),
      feed_more (by omega), feed_last (by omega), show 64 * (64 * (64 * (a.toNat - 0xF0) +
        (b.toNat - 0x80)) + (d.toNat - 0x80)) + (e.toNat - 0x80) = c.toNat by omega, hc]
    rfl

/-- No character's bytes start with those of another one. -/
theorem utf8EncodeChar_append_inj {c c' : Char} {rest rest' : List UInt8}
    (h : utf8EncodeChar c ++ rest = utf8EncodeChar c' ++ rest') : c = c' ∧ rest = rest' := by
  have hd := congrArg decode h
  rw [decode_utf8EncodeChar_append, decode_utf8EncodeChar_append] at hd
  have hc : c = c' := by simpa using (List.cons.inj hd).1
  subst hc
  exact ⟨rfl, List.append_cancel_left h⟩

theorem decode_encode (t : Text) : decode (encode t) = t.map some := by
  induction t with
  | nil => rfl
  | cons c t ih =>
    have h : encode (c :: t) = utf8EncodeChar c ++ encode t := rfl
    rw [h, decode_utf8EncodeChar_append, ih, List.map_cons]

theorem decodeLossy_encode (t : Text) : decodeLossy (encode t) = t := by
  rw [decodeLossy, decode_encode, List.map_map]
  exact List.map_id t

/-! ## There is one decoding -/

theorem IsGap.length_le {part rest part' rest' : List UInt8} (h : IsGap part rest)
    (h' : IsGap part' rest') (heq : part ++ rest = part' ++ rest') :
    part'.length ≤ part.length := by
  refine Nat.le_of_not_lt fun hlt => ?_
  have hpos : 0 < part.length := List.length_pos_iff.2 h.ne_nil
  have hprefix : part' <+: part ++ rest := heq ▸ List.prefix_append part' rest'
  rcases h'.begins with hb | hb
  · exact h.longest part' hprefix (by omega) hb
  · omega

/-- Two decodings take the same steps: a character that stands there leaves no gap, and the
longest part is one. -/
theorem Decoding.unique {bytes : List UInt8} {out out' : Gapped} (h : Decoding bytes out)
    (h' : Decoding bytes out') : out = out' := by
  induction h generalizing out' with
  | nil =>
    generalize hb : ([] : List UInt8) = bytes at h'
    cases h' with
    | nil => rfl
    | character => simp [String.utf8EncodeChar_ne_nil] at hb
    | gap hg => simp [hg.ne_nil] at hb
  | @character c rest out _ ih =>
    generalize hb : utf8EncodeChar c ++ rest = bytes at h'
    cases h' with
    | nil => simp [String.utf8EncodeChar_ne_nil] at hb
    | character h' =>
      obtain ⟨rfl, rfl⟩ := utf8EncodeChar_append_inj hb
      rw [ih h']
    -- No gap begins with a whole character.
    | gap hg => exact absurd (hb ▸ List.prefix_append _ rest) (hg.no_character c)
  | @gap part rest out hg _ ih =>
    generalize hb : part ++ rest = bytes at h'
    cases h' with
    | nil => simp [hg.ne_nil] at hb
    | @character c => exact absurd (hb ▸ List.prefix_append _ _) (hg.no_character c)
    | gap hg' h' =>
      -- Two gaps at one place are equally long, since each is as long as can be.
      have hlen := Nat.le_antisymm (hg'.length_le hg hb.symm) (hg.length_le hg' hb)
      obtain ⟨rfl, rfl⟩ := List.append_inj hb hlen
      rw [ih h']

/-! ## The decoder finds it -/

/-- The bytes that the decoder has read of a character when it stands inside one. -/
inductive Inside : List UInt8 → State → Prop
  | two {a : UInt8} (ha : 0xC2 ≤ a.toNat ∧ a.toNat < 0xE0) :
      Inside [a] (.within (a.toNat - 0xC0) 1 0x80 0xBF)
  | three {a : UInt8} (ha : 0xE0 ≤ a.toNat ∧ a.toNat < 0xF0) :
      Inside [a] (.within (a.toNat - 0xE0) 2 (if a.toNat = 0xE0 then 0xA0 else 0x80)
        (if a.toNat = 0xED then 0x9F else 0xBF))
  | four {a : UInt8} (ha : 0xF0 ≤ a.toNat ∧ a.toNat < 0xF5) :
      Inside [a] (.within (a.toNat - 0xF0) 3 (if a.toNat = 0xF0 then 0x90 else 0x80)
        (if a.toNat = 0xF4 then 0x8F else 0xBF))
  | secondOfThree {a b : UInt8} (ha : 0xE0 ≤ a.toNat ∧ a.toNat < 0xF0)
      (hb : 0x80 ≤ b.toNat ∧ b.toNat ≤ 0xBF) (hlow : a.toNat = 0xE0 → 0xA0 ≤ b.toNat)
      (hhigh : a.toNat = 0xED → b.toNat ≤ 0x9F) :
      Inside [a, b] (.within (64 * (a.toNat - 0xE0) + (b.toNat - 0x80)) 1 0x80 0xBF)
  | secondOfFour {a b : UInt8} (ha : 0xF0 ≤ a.toNat ∧ a.toNat < 0xF5)
      (hb : 0x80 ≤ b.toNat ∧ b.toNat ≤ 0xBF) (hlow : a.toNat = 0xF0 → 0x90 ≤ b.toNat)
      (hhigh : a.toNat = 0xF4 → b.toNat ≤ 0x8F) :
      Inside [a, b] (.within (64 * (a.toNat - 0xF0) + (b.toNat - 0x80)) 2 0x80 0xBF)
  | thirdOfFour {a b d : UInt8} (ha : 0xF0 ≤ a.toNat ∧ a.toNat < 0xF5)
      (hb : 0x80 ≤ b.toNat ∧ b.toNat ≤ 0xBF) (hlow : a.toNat = 0xF0 → 0x90 ≤ b.toNat)
      (hhigh : a.toNat = 0xF4 → b.toNat ≤ 0x8F) (hd : 0x80 ≤ d.toNat ∧ d.toNat ≤ 0xBF) :
      Inside [a, b, d] (.within
        (64 * (64 * (a.toNat - 0xF0) + (b.toNat - 0x80)) + (d.toNat - 0x80)) 1 0x80 0xBF)

/-- Whether the decoder, inside a character, goes on with it at this byte. -/
def State.Expects : State → UInt8 → Prop
  | .idle, _ => False
  | .within _ _ low high, b => low ≤ b.toNat ∧ b.toNat ≤ high

section Inside

variable {part rest : List UInt8} {state : State} {b : UInt8}

/-- An expected byte goes on with the character or ends it. -/
theorem Inside.feed (h : Inside part state) (hb : state.Expects b) :
    (∃ c, part ++ [b] = utf8EncodeChar c ∧ Utf8.feed state b = ([some c], .idle)) ∨
    ∃ state', Inside (part ++ [b]) state' ∧ Utf8.feed state b = ([], state') := by
  cases h with
  | two ha => exact .inl ⟨_, eq_utf8EncodeChar_two ha hb, feed_last hb⟩
  | three ha =>
    simp only [State.Expects] at hb
    refine .inr ⟨_, .secondOfThree ha ?_ ?_ ?_, feed_more hb⟩ <;> grind
  | four ha =>
    simp only [State.Expects] at hb
    refine .inr ⟨_, .secondOfFour ha ?_ ?_ ?_, feed_more hb⟩ <;> grind
  | secondOfThree ha hb' hlow hhigh =>
    exact .inl ⟨_, eq_utf8EncodeChar_three ha hb' hb hlow hhigh, feed_last hb⟩
  | secondOfFour ha hb' hlow hhigh =>
    exact .inr ⟨_, .thirdOfFour ha hb' hlow hhigh hb, feed_more hb⟩
  | thirdOfFour ha hb' hlow hhigh hd =>
    exact .inl ⟨_, eq_utf8EncodeChar_four ha hb' hd hb hlow hhigh, feed_last hb⟩

/-- No other byte goes on with a character. -/
theorem Inside.expects (h : Inside part state) (hb : BeginsCharacter (part ++ [b])) :
    state.Expects b := by
  obtain ⟨c, hc⟩ := hb
  obtain ⟨_, he, _, _⟩ | ⟨_, _, he, _, _, _, _⟩ | ⟨_, _, _, he, _, _, _, _, _, _⟩ |
      ⟨_, _, _, _, he, _, _, _, _, _, _⟩ := utf8EncodeChar_cases c <;>
    rw [he] at hc <;> cases h <;> simp [State.Expects] at hc ⊢ <;> grind

/-- What the decoder has read inside a character can be completed. -/
theorem Inside.completes (h : Inside part state) :
    ∃ c more, more ≠ [] ∧ part ++ more = utf8EncodeChar c := by
  have hleast : 0x80 ≤ (0x80 : UInt8).toNat ∧ (0x80 : UInt8).toNat ≤ 0xBF := by decide
  cases h with
  | two ha => exact ⟨_, [0x80], by simp, eq_utf8EncodeChar_two ha hleast⟩
  | @three a ha =>
    by_cases hED : a.toNat = 0xED
    · exact ⟨_, [0x80, 0x80], by simp,
        eq_utf8EncodeChar_three ha hleast hleast (by omega) (by simp)⟩
    · exact ⟨_, [0xA0, 0x80], by simp,
        eq_utf8EncodeChar_three ha (by decide) hleast (by simp) (fun h => absurd h hED)⟩
  | @four a ha =>
    by_cases hF4 : a.toNat = 0xF4
    · exact ⟨_, [0x80, 0x80, 0x80], by simp,
        eq_utf8EncodeChar_four ha hleast hleast hleast (by omega) (by simp)⟩
    · exact ⟨_, [0x90, 0x80, 0x80], by simp,
        eq_utf8EncodeChar_four ha (by decide) hleast hleast (by simp) (fun h => absurd h hF4)⟩
  | secondOfThree ha hb hlow hhigh =>
    exact ⟨_, [0x80], by simp, eq_utf8EncodeChar_three ha hb hleast hlow hhigh⟩
  | secondOfFour ha hb hlow hhigh =>
    exact ⟨_, [0x80, 0x80], by simp, eq_utf8EncodeChar_four ha hb hleast hleast hlow hhigh⟩
  | thirdOfFour ha hb hlow hhigh hd =>
    exact ⟨_, [0x80], by simp, eq_utf8EncodeChar_four ha hb hd hleast hlow hhigh⟩

omit state b in
/-- A longer part of the same bytes goes on with the byte that follows. -/
theorem exists_snoc_prefix {longer : List UInt8} (h : longer <+: part ++ rest)
    (hlen : part.length < longer.length) :
    ∃ b rest', rest = b :: rest' ∧ part ++ [b] <+: longer := by
  obtain ⟨more, rfl⟩ := List.prefix_of_prefix_length_le (List.prefix_append part rest) h
    (Nat.le_of_lt hlen)
  obtain ⟨b, more, rfl⟩ : ∃ b m, more = b :: m :=
    List.exists_cons_of_ne_nil (by rintro rfl; simp at hlen)
  obtain ⟨rest', hrest⟩ := (List.prefix_append_right_inj part).1 h
  exact ⟨b, more ++ rest', hrest.symm, ⟨more, by simp⟩⟩

/-- What the decoder has read of a character is a gap if the next byte does not go on with it. -/
theorem Inside.isGap (h : Inside part state)
    (hrest : ∀ b rest', rest = b :: rest' → ¬ state.Expects b) : IsGap part rest := by
  obtain ⟨c₀, more, hmore, hc₀⟩ := h.completes
  have hlonger : ∀ longer, longer <+: part ++ rest → part.length < longer.length →
      ¬ BeginsCharacter longer := by
    intro longer hpre hlen ⟨c, hc⟩
    obtain ⟨b, rest', rfl, hb⟩ := exists_snoc_prefix hpre hlen
    exact hrest b rest' rfl (h.expects ⟨c, hb.trans hc⟩)
  refine ⟨by cases h <;> simp, fun c hc => ?_, .inl ⟨c₀, ⟨more, hc₀⟩⟩, hlonger⟩
  by_cases hlen : part.length < (utf8EncodeChar c).length
  · exact hlonger _ hc hlen ⟨c, List.prefix_rfl⟩
  · -- The character would be all of what was read, which is not yet one.
    obtain ⟨gone, hgone⟩ :=
      List.prefix_of_prefix_length_le hc (List.prefix_append part rest) (by omega)
    have heq : utf8EncodeChar c ++ (gone ++ more) = utf8EncodeChar c₀ ++ [] := by
      rw [← List.append_assoc, hgone, hc₀, List.append_nil]
    have hnil := (utf8EncodeChar_append_inj heq).2
    exact hmore (List.append_eq_nil_iff.1 hnil).2

/-- A byte that begins no character is a gap. -/
theorem isGap_singleton (h : 0x80 ≤ b.toNat ∧ b.toNat < 0xC2 ∨ 0xF5 ≤ b.toNat) :
    IsGap [b] rest := by
  have hfirst : ∀ c more, utf8EncodeChar c ≠ b :: more := by
    intro c more hc
    obtain ⟨_, he, _, _⟩ | ⟨_, _, he, _, _, _, _⟩ | ⟨_, _, _, he, _, _, _, _, _, _⟩ |
        ⟨_, _, _, _, he, _, _, _, _, _, _⟩ := utf8EncodeChar_cases c <;>
      rw [he] at hc <;> simp at hc <;> grind
  refine ⟨by simp, fun c hc => ?_, .inr rfl, fun longer hpre hlen ⟨c, hc⟩ => ?_⟩
  · obtain ⟨a, more, he⟩ := List.exists_cons_of_ne_nil (String.utf8EncodeChar_ne_nil (c := c))
    rw [he] at hc
    obtain ⟨rfl, -⟩ := List.cons_prefix_cons.1 hc
    exact hfirst c more he
  · obtain ⟨d, _, -, hd⟩ := exists_snoc_prefix hpre hlen
    obtain ⟨more, hmore⟩ := hd.trans hc
    exact hfirst c (d :: more) hmore.symm

omit b in
theorem Inside.flush (h : Inside part state) : Utf8.flush state = [none] := by
  cases h <;> rfl

theorem Inside.feed_unexpected (h : Inside part state) (hb : ¬ state.Expects b) :
    Utf8.feed state b = (none :: (start b).1, (start b).2) := by
  cases h <;> exact feed_outside hb

end Inside

/-- The decoder gives a decoding, also if it starts inside a character. -/
theorem decoding_decodeFrom (bytes : List UInt8) :
    (∀ part state, Inside part state → Decoding (part ++ bytes) (decodeFrom state bytes)) ∧
      Decoding bytes (decode bytes) := by
  induction bytes with
  | nil =>
    refine ⟨fun part state h => ?_, .nil⟩
    rw [decodeFrom, h.flush]
    exact .gap (h.isGap (by simp)) .nil
  | cons b bytes ih =>
    obtain ⟨inside, between⟩ := ih
    -- Between characters the first byte tells what begins: an ASCII character, nothing, or a
    -- character of two, three or four bytes.
    have hstart : Decoding (b :: bytes) (decode (b :: bytes)) := by
      have hbegun : ∀ state, start b = ([], state) → Inside [b] state →
          Decoding (b :: bytes) (decode (b :: bytes)) := by
        intro state hs h
        simpa [decode, decodeFrom, feed, hs] using inside [b] state h
      by_cases h₁ : b.toNat < 0x80
      · have h := Decoding.character (c := Char.ofNat b.toNat) between
        rw [← eq_utf8EncodeChar_one h₁] at h
        simpa [decode, decodeFrom, feed, start_one h₁] using h
      by_cases h₂ : b.toNat < 0xC2 ∨ 0xF5 ≤ b.toNat
      · have hgap : 0x80 ≤ b.toNat ∧ b.toNat < 0xC2 ∨ 0xF5 ≤ b.toNat := by omega
        simpa [decode, decodeFrom, feed, start_gap hgap] using
          Decoding.gap (isGap_singleton hgap) between
      by_cases h₃ : b.toNat < 0xE0
      · exact hbegun _ (start_two (by omega) h₃) (.two (by omega))
      by_cases h₄ : b.toNat < 0xF0
      · exact hbegun _ (start_three (by omega) h₄) (.three (by omega))
      · exact hbegun _ (start_four (by omega) (by omega)) (.four (by omega))
    refine ⟨fun part state h => ?_, hstart⟩
    by_cases hb : state.Expects b
    · -- Inside a character, the byte goes on with it or completes it.
      obtain ⟨c, hc, hf⟩ | ⟨state', hs, hf⟩ := h.feed hb
      · rw [decodeFrom, hf, List.append_cons, hc]
        exact .character between
      · rw [decodeFrom, hf, List.append_cons]
        exact inside _ _ hs
    · -- The part that was read is a gap, and the byte begins anew.
      have hgap : IsGap part (b :: bytes) := h.isGap (by rintro _ _ ⟨⟩; exact hb)
      rw [decodeFrom, h.feed_unexpected hb]
      exact .gap hgap hstart

/-- **The decoder gives the one decoding there is.** -/
theorem decoding_iff {bytes : List UInt8} {out : Gapped} :
    Decoding bytes out ↔ out = decode bytes :=
  ⟨fun h => h.unique (decoding_decodeFrom bytes).2, fun h => h ▸ (decoding_decodeFrom bytes).2⟩

theorem mapM_id_eq_some_iff {out : Gapped} {t : Text} :
    out.mapM id = some t ↔ out = t.map some := by
  induction out generalizing t with
  | nil => cases t <;> simp [List.mapM_nil, pure]
  | cons c out ih =>
    rw [List.mapM_cons]
    cases c with
    | none => cases t <;> simp
    | some c =>
      cases t with
      | nil => simp [Option.bind_eq_some_iff]
      | cons d t => simpa [ih, Option.bind_eq_some_iff] using and_comm

/-- Bytes that are well-formed throughout are the bytes of a text. -/
theorem decode?_eq_some_iff {bytes : List UInt8} {t : Text} :
    decode? bytes = some t ↔ bytes = encode t := by
  rw [decode?, mapM_id_eq_some_iff]
  constructor
  · intro h
    have hdecoding : Decoding bytes (t.map some) := decoding_iff.2 h.symm
    clear h
    induction t generalizing bytes with
    | nil =>
      cases hdecoding
      rfl
    | cons c t ih =>
      cases hdecoding with
      | character later => rw [ih later, encode, encode, List.flatMap_cons]
  · rintro rfl
    exact decode_encode t

@[simp] theorem decodeLossy_nil : decodeLossy [] = [] := rfl

theorem decodeLossy_eq_nil_iff {bytes : List UInt8} : decodeLossy bytes = [] ↔ bytes = [] := by
  refine ⟨fun h => ?_, fun h => h ▸ rfl⟩
  have hd : Decoding bytes [] := decoding_iff.2 (List.map_eq_nil_iff.1 h).symm
  cases hd
  rfl

/-! ## Characters and their bytes -/

/-- A character is only where its bytes are. -/
theorem mem_of_decoding {bytes : List UInt8} {out : Gapped} {c : Char} {b : UInt8}
    (h : Decoding bytes out) (hout : some c ∈ out) (hb : b ∈ utf8EncodeChar c) : b ∈ bytes := by
  induction h with
  | nil => simp at hout
  | @character d rest out _ ih =>
    rcases List.mem_cons.1 hout with hd | hout
    · obtain rfl : c = d := by simpa using hd
      exact List.mem_append_left _ hb
    · exact List.mem_append_right _ (ih hout)
  | gap _ _ ih => exact List.mem_append_right _ (ih (by simpa using hout))

theorem mem_of_mem_decodeLossy {bytes : List UInt8} {c : Char} {b : UInt8}
    (h : c ∈ decodeLossy bytes) (hc : c ≠ replacement) (hb : b ∈ utf8EncodeChar c) :
    b ∈ bytes := by
  obtain ⟨out, hout, hgetD⟩ := List.mem_map.1 h
  cases out with
  | none => exact absurd hgetD.symm hc
  | some d =>
    obtain rfl : d = c := hgetD
    exact mem_of_decoding (decoding_iff.2 rfl) hout hb

/-- Bytes in whose decoding nothing is replaced are those of a text. -/
theorem encode_decodeLossy {bytes : List UInt8} (h : replacement ∉ decodeLossy bytes) :
    encode (decodeLossy bytes) = bytes := by
  have hfilled : ∀ out ∈ decode bytes, some (out.getD replacement) = out := by
    rintro (_ | c) hmem
    · exact absurd (List.mem_map.2 ⟨none, hmem, rfl⟩) h
    · rfl
  have hdecode : decode bytes = (decodeLossy bytes).map some := by
    rw [decodeLossy, List.map_map]
    exact ((List.map_congr_left hfilled).trans (List.map_id _)).symm
  exact (decode?_eq_some_iff.1 (mapM_id_eq_some_iff.2 hdecode)).symm

@[simp] theorem encode_nil : encode [] = [] := rfl

@[simp] theorem encode_append (s t : Text) : encode (s ++ t) = encode s ++ encode t :=
  List.flatMap_append

theorem encode_intercalate (sep : Text) (pieces : List Text) :
    encode (sep.intercalate pieces) = (encode sep).intercalate (pieces.map encode) := by
  induction pieces with
  | nil => rfl
  | cons piece pieces ih =>
    by_cases hne : pieces = []
    · subst hne
      simp
    · have hmap : pieces.map encode ≠ [] := mt List.map_eq_nil_iff.1 hne
      rw [List.intercalate_cons_of_ne_nil hne, List.map_cons, List.intercalate_cons_of_ne_nil hmap,
        encode_append, encode_append, ih]

theorem toNat_of_utf8EncodeChar {c : Char} {b : UInt8} (hc : utf8EncodeChar c = [b]) :
    b.toNat < 0x80 ∧ b.toNat = c.toNat := by
  obtain ⟨a, ha, hlt, heq⟩ | ⟨_, _, ha, _⟩ | ⟨_, _, _, ha, _⟩ | ⟨_, _, _, _, ha, _⟩ :=
    utf8EncodeChar_cases c <;> simp_all

/-- A byte below 128 is that of its own character only. -/
theorem mem_encode_iff {t : Text} {c : Char} {b : UInt8} (hc : utf8EncodeChar c = [b]) :
    b ∈ encode t ↔ c ∈ t := by
  have hsmall := toNat_of_utf8EncodeChar hc
  rw [encode, List.mem_flatMap]
  constructor
  · rintro ⟨d, hd, hb⟩
    suffices c = d from this ▸ hd
    apply Char.toNat_inj.1
    obtain ⟨a, ha, hlt, heq⟩ | ⟨_, _, ha, _⟩ | ⟨_, _, _, ha, _⟩ | ⟨_, _, _, _, ha, _⟩ :=
      utf8EncodeChar_cases d <;>
      simp only [ha, List.mem_cons, List.not_mem_nil, or_false] at hb <;>
      grind
  · exact fun h => ⟨c, h, hc ▸ List.mem_singleton_self b⟩

/-! ## Decoding line by line -/

/-- Whether a newline is unexpected; the decoder never gets to any other state. -/
def State.Sound : State → Prop
  | .idle => True
  | .within _ _ low _ => 0x80 ≤ low

theorem start_sound (b : UInt8) : (start b).2.Sound := by
  unfold start
  grind [State.Sound]

theorem feed_sound {state : State} (h : state.Sound) (b : UInt8) : (feed state b).2.Sound := by
  cases state with
  | idle => exact start_sound b
  | within value owed low high =>
    have hb := start_sound b
    unfold feed
    grind [State.Sound]

/-- A byte below 128 ends whatever stands before it. -/
theorem feed_small {state : State} (h : state.Sound) {b : UInt8} (hb : b.toNat < 0x80) :
    feed state b = (flush state ++ [some (Char.ofNat b.toNat)], .idle) := by
  cases state with
  | idle => exact start_one hb
  | within value owed low high =>
    have hlow : ¬ (low ≤ b.toNat ∧ b.toNat ≤ high) := by
      simp only [State.Sound] at h
      omega
    rw [feed_outside hlow, start_one hb]
    rfl

theorem decodeFrom_append_small {state : State} (h : state.Sound) {b : UInt8}
    (hb : b.toNat < 0x80) (bytes rest : List UInt8) :
    decodeFrom state (bytes ++ b :: rest) =
      decodeFrom state bytes ++ some (Char.ofNat b.toNat) :: decode rest := by
  induction bytes generalizing state with
  | nil => simp [decodeFrom, feed_small h hb, decode]
  | cons first bytes ih =>
    simp only [List.cons_append, decodeFrom, List.append_assoc]
    rw [ih (feed_sound h first)]

theorem decodeLossy_append_small {b : UInt8} (hb : b.toNat < 0x80) (bytes rest : List UInt8) :
    decodeLossy (bytes ++ b :: rest) =
      decodeLossy bytes ++ Char.ofNat b.toNat :: decodeLossy rest := by
  have hidle : State.Sound .idle := trivial
  simp [decodeLossy, decode, decodeFrom_append_small hidle hb]

theorem decodeLossy_append_newline (bytes rest : List UInt8) :
    decodeLossy (bytes ++ 0x0A :: rest) = decodeLossy bytes ++ '\n' :: decodeLossy rest :=
  decodeLossy_append_small (by decide) bytes rest

/-- Whatever else the bytes hold, a character of one byte is shown exactly where its byte is. -/
theorem mem_decodeLossy_iff {bytes : List UInt8} {c : Char} {b : UInt8}
    (hc : utf8EncodeChar c = [b]) : c ∈ decodeLossy bytes ↔ b ∈ bytes := by
  constructor
  · refine fun h => mem_of_mem_decodeLossy h ?_ (hc ▸ List.mem_singleton_self b)
    -- The replacement has three bytes.
    rintro rfl
    have hbytes : utf8EncodeChar replacement = [0xEF, 0xBF, 0xBD] := by decide
    simp [hbytes] at hc
  · intro h
    obtain ⟨hb, hchar⟩ := toNat_of_utf8EncodeChar hc
    obtain ⟨front, rest, rfl⟩ := List.append_of_mem h
    rw [decodeLossy_append_small hb, hchar, Char.ofNat_toNat]
    exact List.mem_append_right _ List.mem_cons_self

theorem newline_not_mem_decodeLossy {bytes : List UInt8} (h : 0x0A ∉ bytes) :
    '\n' ∉ decodeLossy bytes := mt (mem_decodeLossy_iff (by decide)).1 h

end Buildwatch.Utf8
