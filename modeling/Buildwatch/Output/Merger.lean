import Buildwatch.Output.Source

/-!
# Merging two sources

A merger forwards the items of two sources in the order in which they are ready.
The source that is asked first alternates from poll to poll, so neither can starve
the other. A source that ends or fails is dropped, and the other goes on alone.
-/

namespace Buildwatch

/-! ## Slots -/

/-- Asks the source of a slot, if it is still there, for an item. A source that
ends or fails leaves its slot empty. -/
def takeTurn {σ ε α : Type} [Source σ ε α] : Option σ → Option α × Option σ
  | none => (none, none)
  | some s =>
    match Source.poll s with
    | (.item a, s) => (some a, some s)
    | (.pending, s) => (none, some s)
    | (.failed _, _) | (.ended, _) => (none, none)

/-! ## The merger -/

structure Merger (σ τ : Type) where
  first : Option σ
  second : Option τ
  secondGoesFirst : Bool := false

namespace Merger

variable {σ τ ε α : Type}

/-- A merger of two sources at their start. -/
def of (first : σ) (second : τ) : Merger σ τ := { first := some first, second := some second }

def isExhausted (m : Merger σ τ) : Bool := m.first.isNone && m.second.isNone

/-- Bounds on the number of items to come: at least none, and none at all once
both sources are gone. -/
def sizeHint (m : Merger σ τ) : Nat × Option Nat :=
  (0, if m.isExhausted then some 0 else none)

/-- The answer of a poll in which neither source gave an item. -/
def withoutItem (m : Merger σ τ) : Polled Empty α × Merger σ τ :=
  (if m.isExhausted then .ended else .pending, m)

variable [Source σ ε α] [Source τ ε α]

/-- Asks both sources in turn and stops at the first item. -/
def poll (m : Merger σ τ) : Polled Empty α × Merger σ τ :=
  if m.secondGoesFirst then
    match takeTurn m.second with
    -- The first source is not asked at all, and goes first the next time.
    | (some a, second) => (.item a, { m with second, secondGoesFirst := false })
    | (none, second) =>
      match takeTurn m.first with
      | (some a, first) => (.item a, ⟨first, second, false⟩)
      | (none, first) => withoutItem ⟨first, second, false⟩
  else
    match takeTurn m.first with
    | (some a, first) => (.item a, { m with first, secondGoesFirst := true })
    | (none, first) =>
      match takeTurn m.second with
      | (some a, second) => (.item a, ⟨first, second, true⟩)
      -- The turn is over even though nobody had anything.
      | (none, second) => withoutItem ⟨first, second, true⟩

instance : Source (Merger σ τ) Empty α := ⟨poll⟩

end Merger

/-! ## Mergers of finite sources end -/

/-- The order on what may be gone: nothing at all comes before everything else. -/
def OptionLT {ρ : Type} (r : ρ → ρ → Prop) : Option ρ → Option ρ → Prop
  | none, some _ => True
  | some a, some b => r a b
  | _, none => False

theorem OptionLT.wf {ρ : Type} {r : ρ → ρ → Prop} (h : WellFounded r) :
    WellFounded (OptionLT r) := by
  have bottom : Acc (OptionLT r) none := ⟨_, fun b hb => by cases b <;> exact hb.elim⟩
  refine ⟨fun o => ?_⟩
  cases o with
  | none => exact bottom
  | some a =>
    induction h.apply a with
    | intro a _ ih =>
      refine ⟨_, fun b hb => ?_⟩
      cases b with
      | none => exact bottom
      | some b => exact ih b hb

variable {σ τ ε α : Type} [FiniteSource σ ε α] [FiniteSource τ ε α]

def slotRank (slot : Option σ) : Option (FiniteSource.Rank σ) := slot.map FiniteSource.rank

/-- The order of the ranks of slots. -/
abbrev slotOrder (σ : Type) [FiniteSource σ ε α] :
    Option (FiniteSource.Rank σ) → Option (FiniteSource.Rank σ) → Prop :=
  OptionLT (FiniteSource.order (σ := σ)).rel

/-- A turn lowers the rank of a slot, unless the slot is empty and stays so. -/
theorem slotRank_takeTurn (slot : Option σ) :
    slotOrder σ (slotRank (takeTurn slot).2) (slotRank slot) ∨
      takeTurn slot = (none, none) ∧ slot = none := by
  cases slot with
  | none => exact .inr ⟨rfl, rfl⟩
  | some s =>
    have h := FiniteSource.rank_poll s
    left
    rcases hp : Source.poll s with ⟨answer, s'⟩
    cases answer <;> simp_all [takeTurn, slotRank, OptionLT]

namespace Merger

def rank (m : Merger σ τ) : Option (FiniteSource.Rank σ) × Option (FiniteSource.Rank τ) :=
  (slotRank m.first, slotRank m.second)

theorem rank_poll (m : Merger σ τ) (h : m.poll.1 ≠ .ended) :
    Prod.Lex (slotOrder σ) (slotOrder τ) (rank m.poll.2) (rank m) := by
  obtain ⟨first, second, turn⟩ := m
  have h₁ := slotRank_takeTurn first
  have h₂ := slotRank_takeTurn second
  rcases ht₁ : takeTurn first with ⟨_ | a, first'⟩ <;>
    rcases ht₂ : takeTurn second with ⟨_ | b, second'⟩ <;>
    cases turn <;>
    simp_all [poll, rank, withoutItem, isExhausted, Prod.lex_def] <;>
    grind

instance : FiniteSource (Merger σ τ) Empty α where
  Rank := Option (FiniteSource.Rank σ) × Option (FiniteSource.Rank τ)
  order := Prod.lex ⟨_, OptionLT.wf FiniteSource.order.wf⟩ ⟨_, OptionLT.wf FiniteSource.order.wf⟩
  rank := rank
  rank_poll := rank_poll

end Merger

end Buildwatch
