import Buildwatch.Output.Merger
import Buildwatch.Proofs.Output.Source

/-!
# What a merger gives

A merger takes every item from the front of one of its sources and leaves the other
source's items alone. So what it gives is an interleaving of what its sources give.
-/

namespace Buildwatch

/-! ## Interleavings -/

/-- Whether `zs` is made of `xs` and `ys`, each in its own order. -/
inductive Interleaving {α : Type} : List α → List α → List α → Prop
  | nil : Interleaving [] [] []
  | left {xs ys zs : List α} (x : α) : Interleaving xs ys zs → Interleaving (x :: xs) ys (x :: zs)
  | right {xs ys zs : List α} (y : α) : Interleaving xs ys zs → Interleaving xs (y :: ys) (y :: zs)

namespace Interleaving

variable {α : Type} {xs ys zs xs' ys' zs' : List α}

theorem append (h : Interleaving xs ys zs) (h' : Interleaving xs' ys' zs') :
    Interleaving (xs ++ xs') (ys ++ ys') (zs ++ zs') := by
  induction h with
  | nil => exact h'
  | left x _ ih => exact .left x ih
  | right y _ ih => exact .right y ih

theorem perm (h : Interleaving xs ys zs) : zs.Perm (xs ++ ys) := by
  induction h with
  | nil => exact .refl []
  | left x _ ih => exact ih.cons x
  | right y _ ih => exact (ih.cons y).trans List.perm_middle.symm

/-- The elements of one part can be told by a property that the other part lacks. -/
theorem filter_left (p : α → Bool) (h : Interleaving xs ys zs) (hx : ∀ x ∈ xs, p x = true)
    (hy : ∀ y ∈ ys, p y = false) : zs.filter p = xs := by
  induction h with
  | nil => rfl
  | left x _ ih =>
    rw [List.filter_cons_of_pos (hx x List.mem_cons_self),
      ih (fun x hx' => hx x (List.mem_cons_of_mem _ hx')) hy]
  | right y _ ih =>
    rw [List.filter_cons_of_neg (by simp [hy y List.mem_cons_self]),
      ih hx fun y hy' => hy y (List.mem_cons_of_mem _ hy')]

theorem symm (h : Interleaving xs ys zs) : Interleaving ys xs zs := by
  induction h with
  | nil => exact .nil
  | left x _ ih => exact .right x ih
  | right y _ ih => exact .left y ih

theorem map {β : Type} (f : α → β) (h : Interleaving xs ys zs) :
    Interleaving (xs.map f) (ys.map f) (zs.map f) := by
  induction h with
  | nil => exact .nil
  | left x _ ih => exact .left (f x) ih
  | right y _ ih => exact .right (f y) ih

end Interleaving

/-! ## Slots -/

section Slots

variable {σ ε α : Type} [Source σ ε α]

/-- The items of the next `n` turns of a slot, and the slot after them. -/
def takeTurns : Nat → Option σ → List α × Option σ
  | 0, slot => ([], slot)
  | n + 1, slot =>
    ((takeTurn slot).1.toList ++ (takeTurns n (takeTurn slot).2).1,
      (takeTurns n (takeTurn slot).2).2)

theorem takeTurns_one (slot : Option σ) :
    takeTurns 1 slot = ((takeTurn slot).1.toList, (takeTurn slot).2) := by
  simp [takeTurns]

/-- Turns go on where the turns before them stopped. -/
theorem takeTurns_add (i j : Nat) (slot : Option σ) :
    takeTurns (i + j) slot =
      ((takeTurns i slot).1 ++ (takeTurns j (takeTurns i slot).2).1,
        (takeTurns j (takeTurns i slot).2).2) := by
  induction i generalizing slot with
  | zero => simp [takeTurns]
  | succ i ih =>
    rw [Nat.succ_add, takeTurns, ih, takeTurns, List.append_assoc]

/-- An empty slot has no more turns. -/
theorem takeTurns_none (n : Nat) : takeTurns n (none : Option σ) = ([], none) := by
  induction n with
  | zero => rfl
  | succ n ih => rw [takeTurns, takeTurn, ih]; rfl

end Slots

section FiniteSlots

variable {σ ε α : Type} [FiniteSource σ ε α]

/-- The items that a slot has still to give. -/
def slotItems : Option σ → List α
  | none => []
  | some s => Source.items s

/-- A turn takes the first item of its slot, or none. -/
theorem slotItems_takeTurn (slot : Option σ) :
    slotItems slot = (takeTurn slot).1.toList ++ slotItems (takeTurn slot).2 := by
  cases slot with
  | none => rfl
  | some s =>
    rcases h : Source.poll s with ⟨answer, s'⟩
    cases answer with
    | pending => simp [takeTurn, h, slotItems, Source.items, Source.drain_of_pending h]
    | item a => simp [takeTurn, h, slotItems, Source.items, Source.drain_of_item h]
    | failed e => simp [takeTurn, h, slotItems, Source.items, Source.drain_of_failed h]
    | ended => simp [takeTurn, h, slotItems, Source.items, Source.drain_of_ended h]

/-- Turns take the first items of their slot. -/
theorem slotItems_takeTurns (n : Nat) (slot : Option σ) :
    slotItems slot = (takeTurns n slot).1 ++ slotItems (takeTurns n slot).2 := by
  induction n generalizing slot with
  | zero => rfl
  | succ n ih => rw [slotItems_takeTurn, ih (takeTurn slot).2, takeTurns, List.append_assoc]

end FiniteSlots

/-! ## The merger -/

namespace Merger

section Turns

variable {σ τ ε α : Type} [Source σ ε α] [Source τ ε α]

/-- What a poll can do: it takes an item of the first source, after the second one had none
if that goes first; the same with the sources exchanged; or it finds no item at all. -/
theorem poll_cases (m : Merger σ τ) :
    (∃ a, m.poll.1 = .item a ∧ takeTurn m.first = (some a, m.poll.2.first) ∧
      if m.secondGoesFirst then takeTurn m.second = (none, m.poll.2.second)
      else m.poll.2.second = m.second) ∨
    (∃ a, m.poll.1 = .item a ∧ takeTurn m.second = (some a, m.poll.2.second) ∧
      if m.secondGoesFirst then m.poll.2.first = m.first
      else takeTurn m.first = (none, m.poll.2.first)) ∨
    (takeTurn m.first = (none, m.poll.2.first) ∧ takeTurn m.second = (none, m.poll.2.second) ∧
      m.poll.1 = if m.poll.2.isExhausted then .ended else .pending) := by
  obtain ⟨first, second, turn⟩ := m
  rcases h₁ : takeTurn first with ⟨_ | a, first'⟩ <;>
    rcases h₂ : takeTurn second with ⟨_ | b, second'⟩ <;>
    cases turn <;> simp [poll, withoutItem, h₁, h₂]

/-- Whether the merger goes over from `m` to `m'` in `i` turns of its first source and `j`
turns of its second one, which give the items `zs`. -/
def Turns (m : Merger σ τ) (i j : Nat) (zs : List α) (m' : Merger σ τ) : Prop :=
  Interleaving (takeTurns i m.first).1 (takeTurns j m.second).1 zs ∧
    m'.first = (takeTurns i m.first).2 ∧ m'.second = (takeTurns j m.second).2

theorem Turns.trans {m m' m'' : Merger σ τ} {i j i' j' : Nat} {zs zs' : List α}
    (h : Turns m i j zs m') (h' : Turns m' i' j' zs' m'') :
    Turns m (i + i') (j + j') (zs ++ zs') m'' := by
  obtain ⟨hi, hfirst, hsecond⟩ := h
  obtain ⟨hi', hfirst', hsecond'⟩ := h'
  rw [hfirst, hsecond] at hi'
  rw [hfirst] at hfirst'
  rw [hsecond] at hsecond'
  refine ⟨?_, ?_, ?_⟩
  · rw [takeTurns_add, takeTurns_add]
    exact hi.append hi'
  · rw [takeTurns_add, hfirst']
  · rw [takeTurns_add, hsecond']

/-- A poll is a turn of one source or of both, and an item of a turn is never dropped. -/
theorem turns_poll (m : Merger σ τ) :
    ∃ i j, 1 ≤ i + j ∧ Turns m i j m.poll.1.item?.toList m.poll.2 := by
  -- In the first two cases the other source was asked in vain, or not at all.
  obtain ⟨a, hanswer, hfirst, hsecond⟩ | ⟨a, hanswer, hsecond, hfirst⟩ |
      ⟨hfirst, hsecond, hanswer⟩ := m.poll_cases
  · rw [hanswer]
    split at hsecond
    · refine ⟨1, 1, by omega, ?_, ?_, ?_⟩ <;> simp only [takeTurns_one, hfirst, hsecond]
      exact .left a .nil
    · refine ⟨1, 0, by omega, ?_, ?_, hsecond⟩ <;> simp only [takeTurns_one, hfirst]
      exact .left a .nil
  · rw [hanswer]
    split at hfirst
    · refine ⟨0, 1, by omega, ?_, hfirst, ?_⟩ <;> simp only [takeTurns_one, hsecond]
      exact .right a .nil
    · refine ⟨1, 1, by omega, ?_, ?_, ?_⟩ <;> simp only [takeTurns_one, hfirst, hsecond]
      exact .right a .nil
  · refine ⟨1, 1, by omega, ?_, ?_, ?_⟩ <;> simp only [takeTurns_one, hfirst, hsecond]
    rw [hanswer]
    split <;> exact .nil

theorem isExhausted_of_ended (m : Merger σ τ) (h : m.poll.1 = .ended) :
    m.poll.2.isExhausted = true := by
  obtain ⟨a, hanswer, -⟩ | ⟨a, hanswer, -⟩ | ⟨-, -, hanswer⟩ := m.poll_cases
  · simp [hanswer] at h
  · simp [hanswer] at h
  · rw [hanswer] at h
    split at h
    · assumption
    · simp at h

/-- A merger that has lost both sources stays so. -/
theorem isExhausted_poll {m : Merger σ τ} (h : m.isExhausted = true) :
    m.poll.2.isExhausted = true := by
  obtain ⟨i, j, -, -, hfirst, hsecond⟩ := m.turns_poll
  simp only [isExhausted, Bool.and_eq_true, Option.isNone_iff_eq_none] at h ⊢
  rw [h.1, takeTurns_none] at hfirst
  rw [h.2, takeTurns_none] at hsecond
  exact ⟨hfirst, hsecond⟩

end Turns

end Merger

end Buildwatch
