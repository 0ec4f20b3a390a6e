import Buildwatch.Proofs.Output.Merger

/-!
# What each source contributes

A merger passes on the items of its two sources as they come. What it has passed on of one
source is a first part of what that source gives before its first end or failure, whatever
the other source does; and when the merger ends, it is all of it. Sources may be endless
here, and may do as they like after their end.
-/

namespace Buildwatch

/-- Whether an answer is the last one that a merger takes from a source. -/
def Polled.isLast {ε α : Type} : Polled ε α → Bool
  | .failed _ | .ended => true
  | .pending | .item _ => false

/-! ## The items of a source -/

namespace Source

variable {σ ε α : Type} [Source σ ε α]

/-- The items that the next `n` polls of a source give before its first end or failure. -/
def itemsWithin (n : Nat) (s : σ) : List α :=
  ((polls n s).1.takeWhile (!·.isLast)).filterMap Polled.item?

/-- Turns of a slot give what its source gives before its first end or failure. -/
theorem takeTurns_some (n : Nat) (s : σ) : (takeTurns n (some s)).1 = itemsWithin n s := by
  induction n generalizing s with
  | zero => rfl
  | succ n ih =>
    rcases h : poll s with ⟨answer, s'⟩
    simp only [takeTurns, takeTurn, itemsWithin, polls, h]
    cases answer with
    | pending => exact ih s'
    | item a => exact congrArg (a :: ·) (ih s')
    | failed e => simp [takeTurns_none, Polled.isLast]
    | ended => simp [takeTurns_none, Polled.isLast]

/-- Once the slot of a source is empty, the source has given all its items. -/
theorem itemsWithin_prefix {n : Nat} {s : σ} (h : (takeTurns n (some s)).2 = none) (k : Nat) :
    itemsWithin k s <+: itemsWithin n s := by
  rw [← takeTurns_some, ← takeTurns_some]
  obtain hk | hn := Nat.le_total k n
  · obtain ⟨d, rfl⟩ := Nat.exists_eq_add_of_le hk
    rw [takeTurns_add]
    exact List.prefix_append _ _
  · obtain ⟨d, rfl⟩ := Nat.exists_eq_add_of_le hn
    simp only [takeTurns_add, h, takeTurns_none, List.append_nil]
    exact List.prefix_refl _

end Source

/-! ## Many polls of a merger -/

namespace Merger

section Polls

variable {σ τ ε α : Type} [Source σ ε α] [Source τ ε α]

theorem turns_polls (n : Nat) (m : Merger σ τ) :
    ∃ i j, n ≤ i + j ∧ Turns m i j ((Source.polls n m).1.filterMap Polled.item?)
      (Source.polls n m).2 := by
  induction n generalizing m with
  | zero => exact ⟨0, 0, Nat.le_refl _, .nil, rfl, rfl⟩
  | succ n ih =>
    obtain ⟨i, j, hle, hpoll⟩ := m.turns_poll
    obtain ⟨i', j', hle', hpolls⟩ := ih m.poll.2
    have hitems : (Source.polls (n + 1) m).1.filterMap Polled.item? =
        m.poll.1.item?.toList ++ (Source.polls n m.poll.2).1.filterMap Polled.item? := by
      rw [show (Source.polls (n + 1) m).1 = m.poll.1 :: (Source.polls n m.poll.2).1 from rfl,
        List.filterMap_cons]
      cases m.poll.1.item? <;> rfl
    refine ⟨i + i', j + j', by omega, ?_⟩
    rw [hitems]
    exact hpoll.trans hpolls

theorem isExhausted_polls {m : Merger σ τ} (h : m.isExhausted = true) (n : Nat) :
    (Source.polls n m).2.isExhausted = true := by
  induction n generalizing m with
  | zero => exact h
  | succ n ih => exact ih (isExhausted_poll h)

/-- After an answer that says so, both sources are gone. -/
theorem isExhausted_of_mem_polls {n : Nat} {m : Merger σ τ}
    (h : Polled.ended ∈ (Source.polls n m).1) : (Source.polls n m).2.isExhausted = true := by
  induction n generalizing m with
  | zero => simp [Source.polls] at h
  | succ n ih =>
    obtain h | h := List.mem_cons.1 h
    · exact isExhausted_polls (m.isExhausted_of_ended h.symm) n
    · exact ih h

end Polls

/-- Sources that are gone have nothing to give. -/
theorem slotItems_of_isExhausted {σ τ ε α : Type} [FiniteSource σ ε α] [FiniteSource τ ε α]
    {m : Merger σ τ} (h : m.isExhausted = true) :
    slotItems m.first = [] ∧ slotItems m.second = [] := by
  simp only [isExhausted, Bool.and_eq_true, Option.isNone_iff_eq_none] at h
  rw [h.1, h.2]
  exact ⟨rfl, rfl⟩

/-- Polls take their items from the fronts of the two sources and leave all else. -/
theorem interleaving_polls {σ τ ε α : Type} [FiniteSource σ ε α] [FiniteSource τ ε α] (n : Nat)
    (m : Merger σ τ) :
    ∃ xs ys, Interleaving xs ys ((Source.polls n m).1.filterMap Polled.item?) ∧
      slotItems m.first = xs ++ slotItems (Source.polls n m).2.first ∧
      slotItems m.second = ys ++ slotItems (Source.polls n m).2.second := by
  obtain ⟨i, j, -, hi, hfirst, hsecond⟩ := turns_polls n m
  refine ⟨_, _, hi, ?_, ?_⟩
  · rw [hfirst]
    exact slotItems_takeTurns i m.first
  · rw [hsecond]
    exact slotItems_takeTurns j m.second

/-! ## Where an item comes from -/

/-- The two sources of a merger. -/
inductive Side
  | first
  | second
  deriving DecidableEq, Repr

/-- A source whose items tell which source of the merger it is. -/
structure Marked (σ : Type) where
  side : Side
  source : σ

section Marks

variable {σ τ ε α : Type} [Source σ ε α] [Source τ ε α]

instance : Source (Marked σ) ε (Side × α) where
  poll s :=
    ((Source.poll s.source).1.map (s.side, ·), { s with source := (Source.poll s.source).2 })

/-- Takes the marks away from both sources. -/
def unmark (m : Merger (Marked σ) (Marked τ)) : Merger σ τ :=
  ⟨m.first.map (·.source), m.second.map (·.source), m.secondGoesFirst⟩

theorem takeTurn_unmark (slot : Option (Marked σ)) :
    takeTurn (slot.map (·.source)) =
      ((takeTurn slot).1.map (·.2), (takeTurn slot).2.map (·.source)) := by
  cases slot with
  | none => rfl
  | some s =>
    rcases h : Source.poll s.source with ⟨answer, s'⟩
    have hmarked : Source.poll s = (answer.map (s.side, ·), { s with source := s' }) := by
      simp [Source.poll, h]
    cases answer <;> simp [takeTurn, h, hmarked, Polled.map]

/-- Marks make no difference to what a merger does. -/
theorem poll_unmark (m : Merger (Marked σ) (Marked τ)) :
    m.unmark.poll = (m.poll.1.map (·.2), m.poll.2.unmark) := by
  obtain ⟨first, second, turn⟩ := m
  have h₁ := takeTurn_unmark first
  have h₂ := takeTurn_unmark second
  rcases ht₁ : takeTurn first with ⟨_ | a, first'⟩ <;>
    rcases ht₂ : takeTurn second with ⟨_ | b, second'⟩ <;>
    cases turn <;> simp_all [poll, unmark, withoutItem, isExhausted, Polled.map] <;>
    cases first' <;> cases second' <;> rfl

theorem polls_unmark (n : Nat) (m : Merger (Marked σ) (Marked τ)) :
    (Source.polls n m.unmark).1 = (Source.polls n m).1.map (Polled.map (·.2)) := by
  induction n generalizing m with
  | zero => rfl
  | succ n ih =>
    have hpoll : (Source.polls (n + 1) m.unmark).1 =
        m.unmark.poll.1 :: (Source.polls n m.unmark.poll.2).1 := rfl
    rw [hpoll, poll_unmark, ih]
    rfl

theorem itemsWithin_marked (n : Nat) (side : Side) (s : σ) :
    Source.itemsWithin n (Marked.mk side s) = (Source.itemsWithin n s).map (side, ·) := by
  have hpolls : (Source.polls n (Marked.mk side s)).1 =
      (Source.polls n s).1.map (Polled.map (side, ·)) := by
    induction n generalizing s with
    | zero => rfl
    | succ n ih => exact congrArg (_ :: ·) (ih (Source.poll s).2)
  have hlast : ∀ answer : Polled ε α, (answer.map (side, ·)).isLast = answer.isLast := by
    rintro ⟨⟩ <;> rfl
  have hitem : ∀ answer : Polled ε α,
      (answer.map (side, ·)).item? = answer.item?.map (side, ·) := by
    rintro ⟨⟩ <;> rfl
  simp only [Source.itemsWithin, hpolls, List.takeWhile_map, List.filterMap_map,
    Function.comp_def, hlast, hitem, List.map_filterMap]

theorem map_snd_marked (side : Side) (items : List α) :
    (items.map (side, ·)).map (·.2) = items := by
  simp [Function.comp_def]

/-- The items of the first `n` polls of a merger, each with the source that it comes from. -/
def markedItems (n : Nat) (first : σ) (second : τ) : List (Side × α) :=
  (Source.polls n (Merger.of (Marked.mk .first first) (Marked.mk .second second))).1.filterMap
    Polled.item?

/-- The items of the first `n` polls of a merger that come from one of its sources. -/
def contribution (n : Nat) (first : σ) (second : τ) (side : Side) : List α :=
  ((markedItems n first second).filter (·.1 = side)).map (·.2)

theorem map_snd_markedItems (n : Nat) (first : σ) (second : τ) :
    (markedItems n first second).map (·.2) =
      (Source.polls n (Merger.of first second)).1.filterMap Polled.item? := by
  have hpolls := polls_unmark n (Merger.of (Marked.mk .first first) (Marked.mk .second second))
  have hitem : ∀ answer : Polled Empty (Side × α),
      (answer.map (·.2)).item? = answer.item?.map (·.2) := by
    rintro ⟨⟩ <;> rfl
  simp only [markedItems, List.map_filterMap, ← hitem]
  rw [← Function.comp_def, ← List.filterMap_map, ← hpolls]
  rfl

/-- The items of a merger are those of some first polls of its sources; once the merger is at
its end, they are all items of its sources. -/
theorem interleaving_markedItems (n : Nat) (first : σ) (second : τ) :
    ∃ i j, n ≤ i + j ∧
      Interleaving ((Source.itemsWithin i first).map (Side.first, ·))
        ((Source.itemsWithin j second).map (Side.second, ·)) (markedItems n first second) ∧
      (.ended ∈ (Source.polls n (Merger.of first second)).1 → ∀ k,
        Source.itemsWithin k first <+: Source.itemsWithin i first ∧
          Source.itemsWithin k second <+: Source.itemsWithin j second) := by
  let marked := Merger.of (Marked.mk .first first) (Marked.mk .second second)
  obtain ⟨i, j, hle, hi, hfirst, hsecond⟩ := turns_polls n marked
  refine ⟨i, j, hle, ?_, fun hended k => ?_⟩
  · rw [← itemsWithin_marked, ← itemsWithin_marked, ← Source.takeTurns_some,
      ← Source.takeTurns_some]
    exact hi
  · have hmem : .ended ∈ (Source.polls n marked).1 := by
      rw [show Merger.of first second = marked.unmark from rfl, polls_unmark] at hended
      obtain ⟨answer, hmem, heq⟩ := List.mem_map.1 hended
      cases answer <;> simp_all [Polled.map]
    have hexhausted := isExhausted_of_mem_polls hmem
    simp only [isExhausted, Bool.and_eq_true, Option.isNone_iff_eq_none] at hexhausted
    rw [hfirst, hsecond] at hexhausted
    have hall₁ := (Source.itemsWithin_prefix hexhausted.1 k).map (·.2)
    have hall₂ := (Source.itemsWithin_prefix hexhausted.2 k).map (·.2)
    simp only [itemsWithin_marked, map_snd_marked] at hall₁ hall₂
    exact ⟨hall₁, hall₂⟩

/-- **A merger loses nothing.** What it has passed on is made of what came from the first
source and what came from the second one, each in its own order. Each of these is what some
first polls of its source give before its first end or failure; together these are at least
as many as the polls of the merger. And when the merger has answered that it is at its end,
neither source has more to give. -/
theorem merge_without_loss (first : σ) (second : τ) (n : Nat) :
    let answers := (Source.polls n (Merger.of first second)).1
    let given := contribution n first second
    Interleaving (given .first) (given .second) (answers.filterMap Polled.item?) ∧
      (∃ i j, n ≤ i + j ∧ given .first = Source.itemsWithin i first ∧
        given .second = Source.itemsWithin j second) ∧
      (.ended ∈ answers → ∀ k, Source.itemsWithin k first <+: given .first ∧
        Source.itemsWithin k second <+: given .second) := by
  intro answers given
  obtain ⟨i, j, hle, hi, hall⟩ := interleaving_markedItems n first second
  -- The marks tell the two contributions apart.
  have hgiven₁ : given .first = Source.itemsWithin i first := by
    have h := hi.filter_left (·.1 = .first) (by simp) (by simp)
    simp only [given, contribution, h, map_snd_marked]
  have hgiven₂ : given .second = Source.itemsWithin j second := by
    have h := hi.symm.filter_left (·.1 = .second) (by simp) (by simp)
    simp only [given, contribution, h, map_snd_marked]
  have hitems := hi.map (·.2)
  rw [map_snd_marked, map_snd_marked, map_snd_markedItems] at hitems
  rw [hgiven₁, hgiven₂]
  exact ⟨hitems, ⟨i, j, hle, rfl, rfl⟩, hall⟩

end Marks

/-- A source that plays back its answers, and is at its end after them. -/
structure Script (ε α : Type) where
  answers : List (Polled ε α)

instance {ε α : Type} : Source (Script ε α) ε α where
  poll s := (s.answers.headD .ended, ⟨s.answers.tail⟩)

/-- The first source fails after one item, and the second one pauses; all its items come. -/
theorem merge_without_loss_failing :
    let first : Script String Nat := ⟨[.item 1, .failed "gone", .item 2]⟩
    let second : Script String Nat := ⟨[.pending, .item 10, .pending, .item 20, .ended, .item 30]⟩
    let answers := (Source.polls 7 (Merger.of first second)).1
    .ended ∈ answers ∧ answers.filterMap Polled.item? = [1, 10, 20] ∧
      contribution 7 first second .second = [10, 20] ∧
      ∀ k, Source.itemsWithin k second <+: contribution 7 first second .second := by
  intro first second answers
  have hended : .ended ∈ answers := by decide
  have hall := (merge_without_loss first second 7).2.2 hended
  exact ⟨hended, by decide, by decide, fun k => (hall k).2⟩

end Merger

end Buildwatch
