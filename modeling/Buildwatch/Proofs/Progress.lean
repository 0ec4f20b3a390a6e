import Buildwatch.Progress
import Buildwatch.Proofs.Diagnostic.Header
import Buildwatch.Proofs.Text.Digit
import Buildwatch.Run.Event

/-!
# Finding the progress of a block

The progress of a block is the counter that begins furthest left in it. White space and
digits are apart, so there is one way at most to read a counter at a place, and what stands
before or after it makes no difference.
-/

namespace Buildwatch

open Text (isBlank isDigit dropWhile_append_cons takeWhile_append_of_head? dropWhile_append_of_head?
  head?_append_of_forall)

/-! ## Counters as they are written -/

/-- Whether the text is white space, of which there may be none. -/
def IsPadding (t : Text) : Prop := ∀ c ∈ t, isBlank c = true

/-- A counter with its white space. -/
structure Counter where
  opening : Text
  completed : Text
  before : Text
  behind : Text
  total : Text
  closing : Text
  isPadding_opening : IsPadding opening
  isNumeral_completed : IsNumeral completed
  isPadding_before : IsPadding before
  before_ne : before ≠ []
  isPadding_behind : IsPadding behind
  behind_ne : behind ≠ []
  isNumeral_total : IsNumeral total
  isPadding_closing : IsPadding closing

namespace Counter

variable {c other : Counter} {t front back rest : Text}

/-- What follows the bracket that opens the counter. -/
def inside (c : Counter) : Text :=
  c.opening ++ (c.completed ++ (c.before ++ ('o' :: 'f' ::
    (c.behind ++ (c.total ++ (c.closing ++ [']']))))))

/-- The counter as it is written. -/
def text (c : Counter) : Text := '[' :: c.inside

/-- Whether the counter is written in the text after `front`. -/
def Follows (c : Counter) (front t : Text) : Prop := ∃ back, t = front ++ c.text ++ back

/-- Whether the counter is written in the text after `front`, and none further left. -/
def IsFirst (c : Counter) (front t : Text) : Prop :=
  c.Follows front t ∧
    ∀ other : Counter, ∀ front', other.Follows front' t → front.length ≤ front'.length

/-- Where a counter is written, one is written first. -/
theorem Follows.exists_isFirst (h : c.Follows front t) :
    ∃ (first : Counter) (front' : Text), first.IsFirst front' t := by
  induction hn : front.length using Nat.strong_induction_on generalizing c front with
  | _ n ih =>
    by_cases hfirst : c.IsFirst front t
    · exact ⟨c, front, hfirst⟩
    · obtain ⟨other, front', hother, hlt⟩ : ∃ (other : Counter) (front' : Text),
          other.Follows front' t ∧ front'.length < front.length := by
        simpa [IsFirst, h] using hfirst
      exact ih front'.length (hn ▸ hlt) hother rfl

/-- No counter has a second bracket that opens. -/
theorem bracket_not_mem_inside (c : Counter) : '[' ∉ c.inside := by
  have hpadding : ∀ {t : Text}, IsPadding t → '[' ∉ t := fun h hmem => by
    have := h _ hmem
    exact absurd this (by decide)
  have hnumeral : ∀ {t : Text}, IsNumeral t → '[' ∉ t := fun h hmem => by
    have := h.2 _ hmem
    exact absurd this (by decide)
  simp [inside, hpadding c.isPadding_opening, hnumeral c.isNumeral_completed,
    hpadding c.isPadding_before, hpadding c.isPadding_behind, hnumeral c.isNumeral_total,
    hpadding c.isPadding_closing]

end Counter

/-! ## Reading a counter -/

namespace Progress

variable {t rest digits : Text} {completed total : Text}

theorem digits?_eq_some_iff :
    digits? t = some (digits, rest) ↔
      t = digits ++ rest ∧ IsNumeral digits ∧ ∀ c ∈ rest.head?, isDigit c = false := by
  unfold digits?
  dsimp only
  constructor
  · intro h
    split at h
    · next hne =>
      obtain ⟨rfl, rfl⟩ := by simpa using h
      exact ⟨List.takeWhile_append_dropWhile.symm, ⟨hne, fun c => List.mem_takeWhile_imp⟩,
        fun c => Text.eq_false_of_head?_dropWhile⟩
    · cases h
  · rintro ⟨rfl, ⟨hne, hdigits⟩, hrest⟩
    rw [takeWhile_append_of_head? hdigits hrest, dropWhile_append_of_head? hdigits hrest,
      if_pos hne]

theorem dropBlanks?_eq_some_iff :
    dropBlanks? t = some rest ↔
      ∃ blanks, t = blanks ++ rest ∧ IsPadding blanks ∧ blanks ≠ [] ∧
        ∀ c ∈ rest.head?, isBlank c = false := by
  unfold dropBlanks?
  constructor
  · intro h
    split at h
    · next hhead =>
      obtain rfl := Option.some_inj.1 h
      refine ⟨t.takeWhile isBlank, List.takeWhile_append_dropWhile.symm,
        fun c => List.mem_takeWhile_imp, ?_, fun c => Text.eq_false_of_head?_dropWhile⟩
      cases t with
      | nil => simp at hhead
      | cons c t => simp_all
    · cases h
  · rintro ⟨blanks, rfl, hblanks, hne, hrest⟩
    have hhead : (blanks ++ rest).head?.any isBlank = true := by
      obtain ⟨c, blanks, rfl⟩ := List.exists_cons_of_ne_nil hne
      simpa using hblanks c List.mem_cons_self
    rw [if_pos hhead, dropWhile_append_of_head? hblanks hrest]

/-- What is read as a counter is written as one. -/
theorem exists_counter_of_counterAt? (h : counterAt? t = some (completed, total)) :
    ∃ (c : Counter) (back : Text), t = c.text ++ back ∧ c.completed = completed ∧
      c.total = total := by
  simp only [counterAt?, Option.bind_eq_bind, Option.bind_eq_some_iff] at h
  obtain ⟨t₁, hopen, ⟨d₁, t₂⟩, hcompleted, t₃, hbefore, t₄, hof, t₅, hbehind, ⟨d₂, t₆⟩, htotal,
    back, hclose, heq⟩ := h
  obtain ⟨rfl, rfl⟩ := by simpa using heq
  obtain ⟨ht₁, hnumeral₁, -⟩ := digits?_eq_some_iff.1 hcompleted
  obtain ⟨before, rfl, hpadding₁, hne₁, -⟩ := dropBlanks?_eq_some_iff.1 hbefore
  obtain ⟨behind, rfl, hpadding₂, hne₂, -⟩ := dropBlanks?_eq_some_iff.1 hbehind
  obtain ⟨rfl, hnumeral₂, -⟩ := digits?_eq_some_iff.1 htotal
  refine ⟨{
    opening := t₁.takeWhile isBlank
    completed := d₁
    before := before
    behind := behind
    total := d₂
    closing := t₆.takeWhile isBlank
    isPadding_opening := fun c => List.mem_takeWhile_imp
    isNumeral_completed := hnumeral₁
    isPadding_before := hpadding₁
    before_ne := hne₁
    isPadding_behind := hpadding₂
    behind_ne := hne₂
    isNumeral_total := hnumeral₂
    isPadding_closing := fun c => List.mem_takeWhile_imp }, back, ?_, rfl, rfl⟩
  -- The text is put together again from the parts that were read.
  have ht₃ : t₃ = 'o' :: 'f' :: (behind ++ (d₂ ++ t₆)) := dropFront?_eq_some hof
  have ht₆ : t₆.dropWhile isBlank = ']' :: back := dropFront?_eq_some hclose
  have hclosing : t₆ = t₆.takeWhile isBlank ++ ']' :: back := by
    rw [← ht₆, List.takeWhile_append_dropWhile]
  have hopening : t₁ = t₁.takeWhile isBlank ++ (d₁ ++ (before ++ t₃)) := by
    rw [← ht₁, List.takeWhile_append_dropWhile]
  calc t = '[' :: t₁ := dropFront?_eq_some hopen
    _ = '[' :: (t₁.takeWhile isBlank ++ (d₁ ++ (before ++ ('o' :: 'f' ::
          (behind ++ (d₂ ++ (t₆.takeWhile isBlank ++ ']' :: back))))))) := by
      rw [← hclosing, ← ht₃, ← hopening]
    _ = _ := by simp [Counter.text, Counter.inside]

/-- A counter is read as its numerals, whatever follows it. -/
theorem counterAt?_append (c : Counter) (back : Text) :
    counterAt? (c.text ++ back) = some (c.completed, c.total) := by
  have hnumeral {t : Text} (h : IsNumeral t) (rest : Text) :
      ∀ a ∈ (t ++ rest).head?, isBlank a = false :=
    fun a ha => Text.isBlank_eq_false_of_isDigit (head?_append_of_forall h.2 h.1 a ha)
  have hpadding {t : Text} (h : IsPadding t) (hne : t ≠ []) (rest : Text) :
      ∀ a ∈ (t ++ rest).head?, isDigit a = false :=
    fun a ha => Text.isDigit_eq_false_of_isBlank (head?_append_of_forall h hne a ha)
  -- The parts in their order, each with what follows it.
  let t₆ := c.closing ++ ']' :: back
  let t₅ := c.total ++ t₆
  let t₄ := 'o' :: 'f' :: (c.behind ++ t₅)
  let t₃ := c.completed ++ (c.before ++ t₄)
  have htext : c.text ++ back = '[' :: (c.opening ++ t₃) := by
    simp [Counter.text, Counter.inside, t₃, t₄, t₅, t₆]
  have hopening : (c.opening ++ t₃).dropWhile isBlank = t₃ :=
    dropWhile_append_of_head? c.isPadding_opening (hnumeral c.isNumeral_completed _)
  have hcompleted : digits? t₃ = some (c.completed, c.before ++ t₄) :=
    digits?_eq_some_iff.2 ⟨rfl, c.isNumeral_completed, hpadding c.isPadding_before c.before_ne _⟩
  have hbefore : dropBlanks? (c.before ++ t₄) = some t₄ :=
    dropBlanks?_eq_some_iff.2
      ⟨c.before, rfl, c.isPadding_before, c.before_ne, by simp [t₄]; decide⟩
  have hbehind : dropBlanks? (c.behind ++ t₅) = some t₅ :=
    dropBlanks?_eq_some_iff.2
      ⟨c.behind, rfl, c.isPadding_behind, c.behind_ne, hnumeral c.isNumeral_total _⟩
  have htotal : digits? t₅ = some (c.total, t₆) := by
    refine digits?_eq_some_iff.2 ⟨rfl, c.isNumeral_total, ?_⟩
    by_cases hnil : c.closing = []
    · simp [t₆, hnil]
      decide
    · exact hpadding c.isPadding_closing hnil _
  have hclosing : t₆.dropWhile isBlank = ']' :: back :=
    dropWhile_append_cons c.isPadding_closing (by decide)
  simp [counterAt?, htext, dropFront?, hopening, hcompleted, hbefore, hbehind, htotal, hclosing,
    t₄]

theorem counterAt?_eq_some_iff :
    counterAt? t = some (completed, total) ↔
      ∃ (c : Counter) (back : Text), t = c.text ++ back ∧ c.completed = completed ∧
        c.total = total := by
  constructor
  · exact exists_counter_of_counterAt?
  · rintro ⟨c, back, rfl, rfl, rfl⟩
    exact counterAt?_append c back

/-! ## The first counter -/

theorem exists_follows_of_firstCounter? (h : firstCounter? t = some (completed, total)) :
    ∃ (c : Counter) (front : Text), c.Follows front t := by
  induction t with
  | nil => simp [firstCounter?] at h
  | cons a t ih =>
    rw [firstCounter?] at h
    rcases hread : counterAt? (a :: t) with _ | ⟨completed', total'⟩
    · rw [hread] at h
      obtain ⟨c, front, back, ht⟩ := ih h
      exact ⟨c, a :: front, back, by rw [ht]; rfl⟩
    · obtain ⟨c, back, ht, -⟩ := counterAt?_eq_some_iff.1 hread
      exact ⟨c, [], back, ht⟩

/-- The counter that is read is the one that begins furthest left. -/
theorem firstCounter?_of_isFirst {c : Counter} {front : Text} (h : c.IsFirst front t) :
    firstCounter? t = some (c.completed, c.total) := by
  induction front generalizing t with
  | nil =>
    obtain ⟨⟨back, rfl⟩, -⟩ := h
    have hread := counterAt?_append c back
    rw [Counter.text, List.cons_append] at hread
    rw [List.nil_append, Counter.text, List.cons_append, firstCounter?, hread]
    rfl
  | cons a front ih =>
    obtain ⟨⟨back, rfl⟩, hfirst⟩ := h
    have hnone : counterAt? (a :: (front ++ c.text ++ back)) = none := by
      rcases hread : counterAt? (a :: (front ++ c.text ++ back)) with _ | ⟨completed', total'⟩
      · rfl
      · obtain ⟨other, back', ht, -⟩ := counterAt?_eq_some_iff.1 hread
        exact absurd (hfirst other [] ⟨back', ht⟩) (by simp)
    have hrest : c.IsFirst front (front ++ c.text ++ back) := by
      refine ⟨⟨back, rfl⟩, fun other front' ⟨back', ht⟩ => ?_⟩
      have hfollows : other.Follows (a :: front') (a :: (front ++ c.text ++ back)) :=
        ⟨back', congrArg (a :: ·) ht⟩
      exact Nat.le_of_succ_le_succ (hfirst other (a :: front') hfollows)
    rw [List.cons_append, List.cons_append, firstCounter?, hnone]
    exact ih hrest

end Progress

/-! ## What a counter counts -/

namespace Counter

variable {c : Counter} {p : Progress} {front block : Text}

/-- Whether the numerals of the counter are the numbers of the progress, in the digits of
ASCII. -/
structure Counts (c : Counter) (p : Progress) : Prop where
  ascii_completed : ∀ d ∈ c.completed, d.isDigit = true
  ascii_total : ∀ d ∈ c.total, d.isDigit = true
  completed_eq : Nat.ofDigitChars 10 c.completed 0 = p.completed.toNat
  total_eq : Nat.ofDigitChars 10 c.total 0 = p.total.toNat

/-- Whether the numerals are written in the digits of ASCII and have room in 64 bits. -/
structure IsCountable (c : Counter) : Prop where
  ascii_completed : ∀ d ∈ c.completed, d.isDigit = true
  ascii_total : ∀ d ∈ c.total, d.isDigit = true
  completed_lt : Nat.ofDigitChars 10 c.completed 0 < UInt64.size
  total_lt : Nat.ofDigitChars 10 c.total 0 < UInt64.size

theorem exists_counts_iff : (∃ p, c.Counts p) ↔ c.IsCountable := by
  constructor
  · rintro ⟨p, hcompleted, htotal, heq, heq'⟩
    exact ⟨hcompleted, htotal, heq ▸ p.completed.toNat_lt, heq' ▸ p.total.toNat_lt⟩
  · rintro ⟨hcompleted, htotal, hlt, hlt'⟩
    exact ⟨⟨.ofNat _, .ofNat _⟩, hcompleted, htotal, (UInt64.toNat_ofNat_of_lt' hlt).symm,
      (UInt64.toNat_ofNat_of_lt' hlt').symm⟩

theorem ofBlock?_eq_some_iff (h : c.IsFirst front block) :
    Progress.ofBlock? block = some p ↔ c.Counts p := by
  have hread := Progress.firstCounter?_of_isFirst h
  have hmax (n : UInt64) : n.toNat ≤ Progress.maxCount := Nat.le_of_lt_succ n.toNat_lt
  simp only [Progress.ofBlock?, hread, Option.bind_eq_bind, Option.bind_some,
    Option.bind_eq_some_iff, Option.some_inj,
    Text.numeralUpTo?_eq_some_iff c.isNumeral_completed.1,
    Text.numeralUpTo?_eq_some_iff c.isNumeral_total.1]
  constructor
  · rintro ⟨n, ⟨hcompleted, hle, rfl⟩, m, ⟨htotal, hle', rfl⟩, rfl⟩
    exact ⟨hcompleted, htotal, (UInt64.toNat_ofNat_of_lt' (Nat.lt_succ_of_le hle)).symm,
      (UInt64.toNat_ofNat_of_lt' (Nat.lt_succ_of_le hle')).symm⟩
  · rintro ⟨hcompleted, htotal, heq, heq'⟩
    exact ⟨p.completed.toNat, ⟨hcompleted, hmax _, heq⟩, p.total.toNat, ⟨htotal, hmax _, heq'⟩,
      by simp⟩

theorem ofBlock?_eq_none_iff (h : c.IsFirst front block) :
    Progress.ofBlock? block = none ↔ ¬ c.IsCountable := by
  rw [← exists_counts_iff, Option.eq_none_iff_forall_ne_some, not_exists]
  simp only [ne_eq, ofBlock?_eq_some_iff h]

/-- A block without a counter has no progress. -/
theorem ofBlock?_eq_none (h : ∀ (c : Counter) (front : Text), ¬ c.Follows front block) :
    Progress.ofBlock? block = none := by
  have hnone : Progress.firstCounter? block = none := by
    rcases hread : Progress.firstCounter? block with _ | ⟨completed, total⟩
    · rfl
    · obtain ⟨c, front, hfollows⟩ := Progress.exists_follows_of_firstCounter? hread
      exact absurd hfollows (h c front)
  rw [Progress.ofBlock?, hnone]
  rfl

/-! ## Printed counters -/

/-- Whether the counter shows a progress in decimal digits, with any white space. -/
def Shows (c : Counter) (p : Progress) : Prop :=
  c.completed = Nat.toDigits 10 p.completed.toNat ∧ c.total = Nat.toDigits 10 p.total.toNat

theorem Shows.counts (h : c.Shows p) : c.Counts p := by
  obtain ⟨hcompleted, htotal⟩ := h
  refine ⟨?_, ?_, ?_, ?_⟩
  · exact fun d hd => Text.ascii_of_mem_toDigits (hcompleted ▸ hd)
  · exact fun d hd => Text.ascii_of_mem_toDigits (htotal ▸ hd)
  · rw [hcompleted]
    exact Text.numeral_toDigits _
  · rw [htotal]
    exact Text.numeral_toDigits _

/-- After a text without a counter, a counter is the first one: no other one can begin before
it and reach into it, since a counter has only one bracket that opens. -/
theorem isFirst_of_not_follows (back : Text)
    (h : ∀ (other : Counter) (front' : Text), ¬ other.Follows front' front) :
    c.IsFirst front (front ++ c.text ++ back) := by
  refine ⟨⟨back, rfl⟩, fun other front' ⟨back', heq⟩ => ?_⟩
  by_contra hlt
  rw [List.append_assoc, List.append_assoc] at heq
  obtain ⟨more, hlonger, -⟩ | ⟨more, rfl, hmore⟩ := List.append_eq_append_iff.1 heq
  · exact hlt (by simp [hlonger])
  rw [text, text] at hmore
  cases more with
  | nil => exact hlt (by simp)
  | cons a more =>
    obtain ⟨rfl, hinside⟩ := List.cons.inj hmore
    -- The other counter ends before the bracket, or the bracket is inside of it.
    obtain ⟨gap, hgap, -⟩ | ⟨gap, hgap, hbracket⟩ := List.append_eq_append_iff.1 hinside
    · exact h other front' ⟨gap, by simp [text, hgap]⟩
    · cases gap with
      | nil => exact h other front' ⟨[], by simp_all [text]⟩
      | cons b gap =>
        obtain ⟨rfl, -⟩ := List.cons.inj hbracket
        exact other.bracket_not_mem_inside (by simp [hgap])

end Counter

namespace Progress

variable {p : Progress} {block : Text}

/-- The progress of a block goes before its message, whether or not that is a diagnostic. -/
theorem events_ofBlock? (h : ofBlock? block = some p) (baseDir : Path) (origin : Origin) :
    BuildEvent.ofBlock baseDir ⟨origin, block⟩ =
      [.progress p, .message ⟨origin, block⟩ (Diagnostic.ofBlock? baseDir block)] := by
  simp [BuildEvent.ofBlock, h]

/-- **The progress of a block is its leftmost counter.** A block without a counter has no
progress. Otherwise the counter that begins furthest left tells it: its two numerals, if they
are written in the digits of ASCII and have room in 64 bits, and else the block has no progress
either. So a progress that is shown as a counter, with any white space, after a text without a
counter and before any text, comes back; and it is reported whether or not the block is a
diagnostic. -/
theorem ofBlock?_leftmost (block : Text) :
    ((∀ (c : Counter) (front : Text), ¬ c.Follows front block) ∧ ofBlock? block = none ∨
        ∃ (c : Counter) (front : Text), c.IsFirst front block) ∧
      (∀ (c : Counter) (front : Text), c.IsFirst front block →
        (c.IsCountable → ∃ p, ofBlock? block = some p ∧ c.Counts p) ∧
          (¬ c.IsCountable → ofBlock? block = none)) ∧
      ∀ (c : Counter) (p : Progress) (front back : Text),
        block = front ++ c.text ++ back → c.Shows p →
        (∀ (other : Counter) (front' : Text), ¬ other.Follows front' front) →
        ofBlock? block = some p ∧ ∀ baseDir origin, BuildEvent.ofBlock baseDir ⟨origin, block⟩ =
          [.progress p, .message ⟨origin, block⟩ (Diagnostic.ofBlock? baseDir block)] := by
  refine ⟨?_, fun c front hfirst => ⟨fun hcountable => ?_, ?_⟩, ?_⟩
  · by_cases h : ∃ (c : Counter) (front : Text), c.Follows front block
    · obtain ⟨c, front, hfollows⟩ := h
      exact .inr hfollows.exists_isFirst
    · push Not at h
      exact .inl ⟨h, Counter.ofBlock?_eq_none h⟩
  · obtain ⟨p, hcounts⟩ := Counter.exists_counts_iff.2 hcountable
    exact ⟨p, (Counter.ofBlock?_eq_some_iff hfirst).2 hcounts, hcounts⟩
  · exact (Counter.ofBlock?_eq_none_iff hfirst).2
  · rintro c p front back rfl hshows hnone
    have hfirst := Counter.isFirst_of_not_follows (c := c) back hnone
    have hprogress := (Counter.ofBlock?_eq_some_iff hfirst).2 hshows.counts
    exact ⟨hprogress, events_ofBlock? hprogress⟩

/-- Brackets that stay open, and a second counter, make no difference. -/
example : ofBlock? "[ 1 of [ 3 of 10 ] [4 of 10]".toList = some ⟨3, 10⟩ := by decide +kernel

end Progress

end Buildwatch
