import Buildwatch.Proofs.Output.Contribution

/-!
# Whom a merger asks

A poll of a merger asks the source whose turn it is and, if that has no item, the other one.
A source is asked as long as it is there, and is gone with its end or its first failure. All
that a poll can do is told once, by `poll_sides`; how often and with what answers each source
was asked is a record of the polls, kept beside them, which the books of the sources confirm.
-/

namespace Buildwatch

/-! ## The answers of a slot -/

section Slots

variable {σ ε α : Type} [Source σ ε α]

/-- Whether these are the answers that a source gives, one after the other, while its slot goes
over from one content to the other: the first end or failure empties the slot. -/
inductive Heard : List (Polled ε α) → Option σ → Option σ → Prop
  | still {slot : Option σ} : Heard [] slot slot
  | last {s : σ} (h : (Source.poll s).1.isLast = true) : Heard [(Source.poll s).1] (some s) none
  | more {s : σ} {answers : List (Polled ε α)} {slot : Option σ}
      (h : (Source.poll s).1.isLast = false) :
      Heard answers (some (Source.poll s).2) slot →
        Heard ((Source.poll s).1 :: answers) (some s) slot

namespace Heard

variable {answers answers' : List (Polled ε α)} {slot slot' slot'' : Option σ} {s : σ}

theorem trans (h : Heard answers slot slot') (h' : Heard answers' slot' slot'') :
    Heard (answers ++ answers') slot slot'' := by
  induction h with
  | still => exact h'
  | last hlast =>
    -- An empty slot is asked no more.
    cases h' with
    | still => exact .last hlast
  | more hmore _ ih => exact .more hmore (ih h')

/-- Nothing is asked after the end or a failure. -/
theorem isLast_of_mem_dropLast (h : Heard answers slot slot') :
    ∀ answer ∈ answers.dropLast, answer.isLast = false := by
  induction h with
  | still => simp
  | last => simp
  | @more s answers _ hmore _ ih =>
    intro answer hanswer
    cases answers with
    | nil => simp at hanswer
    | cons next answers =>
      rcases List.mem_cons.1 hanswer with rfl | hanswer
      · exact hmore
      · exact ih answer hanswer

end Heard

/-- The answer that a source gives if it is asked now. -/
def answer? (slot : Option σ) : Option (Polled ε α) := slot.map fun s => (Source.poll s).1

theorem takeTurn_some (s : σ) :
    takeTurn (some s) = ((Source.poll s).1.item?,
      if (Source.poll s).1.isLast then none else some (Source.poll s).2) := by
  rcases h : Source.poll s with ⟨answer, s'⟩
  cases answer <;> simp [takeTurn, Polled.item?, Polled.isLast, h]

/-- A turn asks the source once, if it is there. -/
theorem heard_takeTurn (slot : Option σ) :
    Heard (answer? slot).toList slot (takeTurn slot).2 := by
  cases slot with
  | none => exact .still
  | some s =>
    rw [takeTurn_some]
    dsimp only
    split
    · next hlast => exact .last hlast
    · next hmore => exact .more (Bool.eq_false_iff.2 hmore) .still

theorem isSome_takeTurn_iff {slot : Option σ} :
    (takeTurn slot).2.isSome = true ↔ ∃ answer, answer? slot = some answer ∧
      answer.isLast = false := by
  cases slot with
  | none => simp [takeTurn, answer?]
  | some s =>
    rw [takeTurn_some]
    cases hlast : (Source.poll s).1.isLast <;> simp [answer?, hlast]

end Slots

/-! ## One poll -/

theorem Polled.item?_eq_some_iff {ε α : Type} {answer : Polled ε α} {a : α} :
    answer.item? = some a ↔ answer = .item a := by
  cases answer <;> simp [Polled.item?]

section Items

variable {σ ε α : Type} [Source σ ε α] {slot slot' : Option σ} {a : α}

theorem answer?_of_takeTurn (h : takeTurn slot = (some a, slot')) :
    answer? slot = some (.item a) := by
  cases slot with
  | none => simp [takeTurn] at h
  | some s =>
    rw [takeTurn_some, Prod.mk.injEq, Polled.item?_eq_some_iff] at h
    exact congrArg some h.1

theorem answer?_ne_of_takeTurn (h : takeTurn slot = (none, slot')) :
    ∀ a, answer? slot ≠ some (.item a) := by
  intro a ha
  cases slot with
  | none => simp [answer?] at ha
  | some s =>
    rw [takeTurn_some, Prod.mk.injEq] at h
    rw [Polled.item?_eq_some_iff.2 (Option.some.inj ha)] at h
    cases h.1

end Items

namespace Merger

/-- The other one of the two sources. -/
def Side.other : Side → Side
  | .first => .second
  | .second => .first

section Asked

variable {σ τ ε α : Type}

/-- The source whose turn it is. -/
def goesFirst (m : Merger σ τ) : Side := if m.secondGoesFirst then .second else .first

/-- Whether a source is still there. -/
def isLive (m : Merger σ τ) : Side → Bool
  | .first => m.first.isSome
  | .second => m.second.isSome

/-- Whether a source is the same before and after. -/
def Untouched (m m' : Merger σ τ) : Side → Prop
  | .first => m'.first = m.first
  | .second => m'.second = m.second

theorem isExhausted_iff {m : Merger σ τ} :
    m.isExhausted = true ↔ ∀ side, m.isLive side = false := by
  constructor
  · intro h side
    simp only [isExhausted, Bool.and_eq_true, Option.isNone_iff_eq_none] at h
    cases side with
    | first => simp [isLive, h.1]
    | second => simp [isLive, h.2]
  · intro h
    have hfirst := h .first
    have hsecond := h .second
    simp_all [isExhausted, isLive]

variable [Source σ ε α] [Source τ ε α]

/-- The answer that a source gives if it is asked now; none if it is gone. -/
def offer (m : Merger σ τ) : Side → Option (Polled ε α)
  | .first => answer? m.first
  | .second => answer? m.second

/-- What asking a source brings: nothing if it is gone. -/
def ask (m : Merger σ τ) (side : Side) : List (Side × Polled ε α) :=
  (m.offer side).toList.map (side, ·)

/-- Whom the next poll asks, with the answers: the source whose turn it is, and if that has no
item, the other one. -/
def asked (m : Merger σ τ) : List (Side × Polled ε α) :=
  match m.offer m.goesFirst with
  | some (.item a) => [(m.goesFirst, .item a)]
  | _ => m.ask m.goesFirst ++ m.ask m.goesFirst.other

/-- Whether a source has one turn. -/
def Turned (m m' : Merger σ τ) : Side → Prop
  | .first => (takeTurn m.first).2 = m'.first
  | .second => (takeTurn m.second).2 = m'.second

/-- Whether a source gives these answers while a merger goes over into another one. -/
def Hears (m : Merger σ τ) (side : Side) (answers : List (Polled ε α)) (m' : Merger σ τ) : Prop :=
  match side with
  | .first => Heard answers m.first m'.first
  | .second => Heard answers m.second m'.second

theorem goesFirst_poll (m : Merger σ τ) : m.poll.2.goesFirst = m.goesFirst.other := by
  obtain ⟨first, second, turn⟩ := m
  rcases h₁ : takeTurn first with ⟨_ | a, first'⟩ <;>
    rcases h₂ : takeTurn second with ⟨_ | b, second'⟩ <;>
    cases turn <;> simp [poll, withoutItem, goesFirst, Side.other, h₁, h₂]

/-- All that a poll can do: the source whose turn it is has an item; or it has none, and the
other one has an item; or both have none. -/
theorem poll_sides (m : Merger σ τ) :
    (∃ a, m.offer m.goesFirst = some (.item a) ∧ m.poll.1 = .item a ∧
      m.Turned m.poll.2 m.goesFirst ∧ m.Untouched m.poll.2 m.goesFirst.other) ∨
    (∃ a, (∀ b, m.offer m.goesFirst ≠ some (.item b)) ∧
      m.offer m.goesFirst.other = some (.item a) ∧ m.poll.1 = .item a ∧
      ∀ side, m.Turned m.poll.2 side) ∨
    ((∀ side a, m.offer side ≠ some (.item a)) ∧
      m.poll.1 = (if m.poll.2.isExhausted then .ended else .pending) ∧
      ∀ side, m.Turned m.poll.2 side) := by
  -- The cases of a poll name the first and the second source; here they are named by turn.
  have hnow (turn : Bool) (h : m.secondGoesFirst = turn) :
      m.goesFirst = if turn then .second else .first := by rw [goesFirst, h]
  have hturned (hfirst : (takeTurn m.first).2 = m.poll.2.first)
      (hsecond : (takeTurn m.second).2 = m.poll.2.second) : ∀ side, m.Turned m.poll.2 side
    | .first => hfirst
    | .second => hsecond
  obtain ⟨a, hanswer, hfirst, hsecond⟩ | ⟨a, hanswer, hsecond, hfirst⟩ |
      ⟨hfirst, hsecond, hanswer⟩ := m.poll_cases
  · have hitem := answer?_of_takeTurn hfirst
    cases hturn : m.secondGoesFirst with
    | false =>
      rw [hnow false hturn]
      rw [hturn] at hsecond
      exact .inl ⟨a, hitem, hanswer, congrArg Prod.snd hfirst, hsecond⟩
    | true =>
      rw [hnow true hturn]
      rw [hturn] at hsecond
      exact .inr (.inl ⟨a, answer?_ne_of_takeTurn hsecond, hitem, hanswer,
        hturned (congrArg Prod.snd hfirst) (congrArg Prod.snd hsecond)⟩)
  · have hitem := answer?_of_takeTurn hsecond
    cases hturn : m.secondGoesFirst with
    | false =>
      rw [hnow false hturn]
      rw [hturn] at hfirst
      exact .inr (.inl ⟨a, answer?_ne_of_takeTurn hfirst, hitem, hanswer,
        hturned (congrArg Prod.snd hfirst) (congrArg Prod.snd hsecond)⟩)
    | true =>
      rw [hnow true hturn]
      rw [hturn] at hfirst
      exact .inl ⟨a, hitem, hanswer, congrArg Prod.snd hsecond, hfirst⟩
  · refine .inr (.inr ⟨?_, hanswer, hturned (congrArg Prod.snd hfirst) (congrArg Prod.snd hsecond)⟩)
    rintro ⟨⟩
    · exact answer?_ne_of_takeTurn hfirst
    · exact answer?_ne_of_takeTurn hsecond

theorem asked_of_item {m : Merger σ τ} {a : α} (h : m.offer m.goesFirst = some (.item a)) :
    m.asked = [(m.goesFirst, .item a)] := by
  rw [asked, h]

theorem asked_of_no_item {m : Merger σ τ} (h : ∀ a, m.offer m.goesFirst ≠ some (.item a)) :
    m.asked = m.ask m.goesFirst ++ m.ask m.goesFirst.other := by
  unfold asked
  split
  · next a ha => exact absurd ha (h a)
  · rfl

theorem mem_ask_iff {m : Merger σ τ} {side side' : Side} {answer : Polled ε α} :
    (side, answer) ∈ m.ask side' ↔ side = side' ∧ m.offer side = some answer := by
  simp only [ask, List.mem_map, Option.mem_toList, Prod.mk.injEq]
  constructor
  · rintro ⟨_, hoffer, rfl, rfl⟩
    exact ⟨rfl, hoffer⟩
  · rintro ⟨rfl, hoffer⟩
    exact ⟨answer, hoffer, rfl, rfl⟩

theorem Side.eq_or_eq_other (side now : Side) : side = now ∨ side = now.other := by
  cases side <;> cases now <;> simp [Side.other]

/-- Both sources are asked if the one whose turn it is has no item. -/
theorem mem_asked_of_no_item {m : Merger σ τ} {side : Side} {answer : Polled ε α}
    (h : ∀ a, m.offer m.goesFirst ≠ some (.item a)) :
    (side, answer) ∈ m.asked ↔ m.offer side = some answer := by
  rw [asked_of_no_item h, List.mem_append, mem_ask_iff, mem_ask_iff, ← or_and_right,
    and_iff_right (side.eq_or_eq_other m.goesFirst)]

/-- The answers of one source among those of both. -/
def answersOf (side : Side) (answers : List (Side × Polled ε α)) : List (Polled ε α) :=
  (answers.filter (·.1 = side)).map (·.2)

theorem answersOf_append (side : Side) (answers answers' : List (Side × Polled ε α)) :
    answersOf side (answers ++ answers') = answersOf side answers ++ answersOf side answers' := by
  rw [answersOf, List.filter_append, List.map_append]
  rfl

theorem answersOf_ask (m : Merger σ τ) (side side' : Side) :
    answersOf side (m.ask side') = if side' = side then (m.offer side).toList else [] := by
  split
  · next h =>
    subst h
    cases hoffer : m.offer side' <;> simp [answersOf, ask, hoffer]
  · next h => cases hoffer : m.offer side' <;> simp [answersOf, ask, hoffer, h]

theorem Side.other_ne (side : Side) : side.other ≠ side := by
  cases side <;> exact Side.noConfusion

theorem answersOf_asks (m : Merger σ τ) (side now : Side) :
    answersOf side (m.ask now ++ m.ask now.other) = (m.offer side).toList := by
  rw [answersOf_append, answersOf_ask, answersOf_ask]
  rcases side.eq_or_eq_other now with rfl | rfl
  · rw [if_pos rfl, if_neg side.other_ne, List.append_nil]
  · rw [if_neg now.other_ne.symm, if_pos rfl, List.nil_append]

theorem hears_of_turned {m m' : Merger σ τ} {side : Side} (h : m.Turned m' side) :
    m.Hears side (m.offer side).toList m' := by
  cases side with
  | first =>
    have hslot : (takeTurn m.first).2 = m'.first := h
    have hheard := heard_takeTurn m.first
    rwa [hslot] at hheard
  | second =>
    have hslot : (takeTurn m.second).2 = m'.second := h
    have hheard := heard_takeTurn m.second
    rwa [hslot] at hheard

theorem hears_of_untouched {m m' : Merger σ τ} {side : Side} (h : m.Untouched m' side) :
    m.Hears side [] m' := by
  cases side with
  | first =>
    have hslot : m'.first = m.first := h
    rw [Hears, hslot]
    exact .still
  | second =>
    have hslot : m'.second = m.second := h
    rw [Hears, hslot]
    exact .still

theorem Hears.trans {m m' m'' : Merger σ τ} {side : Side} {answers answers' : List (Polled ε α)}
    (h : m.Hears side answers m') (h' : m'.Hears side answers' m'') :
    m.Hears side (answers ++ answers') m'' := by
  cases side with
  | first => exact Heard.trans h h'
  | second => exact Heard.trans h h'

/-- **What a poll asks is what the sources answer.** -/
theorem hears_poll (m : Merger σ τ) (side : Side) :
    m.Hears side (answersOf side m.asked) m.poll.2 := by
  obtain ⟨a, hoffer, -, hturned, huntouched⟩ | ⟨a, hnone, -, -, hturned⟩ | ⟨hnone, -, hturned⟩ :=
    m.poll_sides
  · rw [asked_of_item hoffer]
    rcases side.eq_or_eq_other m.goesFirst with rfl | rfl
    · have hears := hears_of_turned hturned
      rw [hoffer] at hears
      simpa [answersOf] using hears
    · have hne := m.goesFirst.other_ne.symm
      simpa [answersOf, hne] using hears_of_untouched huntouched
  · rw [asked_of_no_item hnone, answersOf_asks]
    exact hears_of_turned (hturned side)
  · rw [asked_of_no_item (hnone m.goesFirst), answersOf_asks]
    exact hears_of_turned (hturned side)

theorem offer_of_mem_asked {m : Merger σ τ} {side : Side} {answer : Polled ε α}
    (h : (side, answer) ∈ m.asked) : m.offer side = some answer := by
  by_cases hitem : ∃ a, m.offer m.goesFirst = some (.item a)
  · obtain ⟨a, ha⟩ := hitem
    rw [asked_of_item ha] at h
    cases List.mem_singleton.1 h
    exact ha
  · exact (mem_asked_of_no_item fun a ha => hitem ⟨a, ha⟩).1 h

/-- Whether the next poll gives the item that one of the sources has. -/
structure Yields (m : Merger σ τ) (side : Side) (a : α) : Prop where
  mem_asked : (side, .item a) ∈ m.asked
  answer_eq : m.poll.1 = .item a

/-- A poll gives an item of a source, or no source has one. -/
theorem yields_or_no_item (m : Merger σ τ) :
    (∃ side a, m.Yields side a ∧ m.Turned m.poll.2 side) ∨
    ((∀ side a, m.offer side ≠ some (.item a)) ∧
      m.poll.1 = (if m.poll.2.isExhausted then .ended else .pending) ∧
      ∀ side, m.Turned m.poll.2 side) := by
  obtain ⟨a, hoffer, hanswer, hturned, -⟩ | ⟨a, hnone, hoffer, hanswer, hturned⟩ | hnone :=
    m.poll_sides
  · have hasked : (m.goesFirst, .item a) ∈ m.asked :=
      asked_of_item hoffer ▸ List.mem_singleton_self _
    exact .inl ⟨m.goesFirst, a, ⟨hasked, hanswer⟩, hturned⟩
  · have hasked : (m.goesFirst.other, .item a) ∈ m.asked := (mem_asked_of_no_item hnone).2 hoffer
    exact .inl ⟨m.goesFirst.other, a, ⟨hasked, hanswer⟩, hturned _⟩
  · exact .inr hnone

/-- A source is there after its turn if it gave no end and no failure. -/
theorem isLive_iff_of_turned {m m' : Merger σ τ} {side : Side} (h : m.Turned m' side) :
    m'.isLive side = true ↔ ∃ answer, m.offer side = some answer ∧ answer.isLast = false := by
  cases side with
  | first =>
    have hslot : (takeTurn m.first).2 = m'.first := h
    rw [isLive, ← hslot]
    exact isSome_takeTurn_iff
  | second =>
    have hslot : (takeTurn m.second).2 = m'.second := h
    rw [isLive, ← hslot]
    exact isSome_takeTurn_iff

theorem isExhausted_eq_false_iff {m : Merger σ τ} :
    m.isExhausted = false ↔ ∃ side, m.isLive side = true := by
  rw [← Bool.not_eq_true, isExhausted_iff]
  simp

/-- **A merger is pending** exactly if a source is there after the poll, and every source that
is there was asked by this poll and was pending itself. -/
theorem poll_eq_pending_iff (m : Merger σ τ) :
    m.poll.1 = .pending ↔ (∃ side, m.poll.2.isLive side = true) ∧
      ∀ side, m.poll.2.isLive side = true → (side, .pending) ∈ m.asked := by
  rw [← isExhausted_eq_false_iff]
  obtain ⟨side, a, hyields, hturned⟩ | ⟨hnone, hanswer, hturned⟩ := m.yields_or_no_item
  · -- The source that gave the item is there, and was not pending.
    have hoffer := offer_of_mem_asked hyields.mem_asked
    have hlive := (isLive_iff_of_turned hturned).2 ⟨_, hoffer, rfl⟩
    rw [hyields.answer_eq]
    refine iff_of_false (by simp) fun h => ?_
    have hpending := offer_of_mem_asked (h.2 side hlive)
    rw [hoffer] at hpending
    simp at hpending
  · rw [hanswer]
    cases hexhausted : m.poll.2.isExhausted with
    | true => simp
    | false =>
      refine iff_of_true (by simp) ⟨rfl, fun side hlive => ?_⟩
      obtain ⟨answer, hoffer, hlast⟩ := (isLive_iff_of_turned (hturned side)).1 hlive
      rw [mem_asked_of_no_item (hnone m.goesFirst), hoffer]
      cases answer with
      | pending => rfl
      | item a => exact absurd hoffer (hnone side a)
      | failed e => cases hlast
      | ended => cases hlast

/-- **A merger is at its end** exactly if a poll finds no item and both sources are gone. -/
theorem poll_eq_ended_iff (m : Merger σ τ) :
    m.poll.1 = .ended ↔
      (∀ side a, (side, .item a) ∉ m.asked) ∧ m.poll.2.isExhausted = true := by
  obtain ⟨side, a, hyields, -⟩ | ⟨hnone, hanswer, -⟩ := m.yields_or_no_item
  · rw [hyields.answer_eq]
    exact iff_of_false (by simp) fun h => h.1 side a hyields.mem_asked
  · have hitems : ∀ side a, (side, .item a) ∉ m.asked := fun side a h =>
      hnone side a (offer_of_mem_asked h)
    rw [hanswer]
    cases m.poll.2.isExhausted with
    | true => simpa using hitems
    | false => simp

/-- A merger without sources answers that it is at its end. -/
theorem poll_eq_ended_of_isExhausted {m : Merger σ τ} (h : m.isExhausted = true) :
    m.poll.1 = .ended := by
  refine (m.poll_eq_ended_iff).2 ⟨fun side a hmem => ?_, isExhausted_poll h⟩
  have hlive := isExhausted_iff.1 h side
  have hoffer := offer_of_mem_asked hmem
  cases side with
  | first => simp_all [isLive, offer, answer?]
  | second => simp_all [isLive, offer, answer?]

/-! ## Many polls -/

/-- Whom the next `n` polls ask, with the answers. -/
def askedWithin : Nat → Merger σ τ → List (Side × Polled ε α)
  | 0, _ => []
  | n + 1, m => m.asked ++ askedWithin n m.poll.2

theorem hears_polls (n : Nat) (m : Merger σ τ) (side : Side) :
    m.Hears side (answersOf side (askedWithin n m)) (Source.polls n m).2 := by
  induction n generalizing m with
  | zero =>
    cases side with
    | first => exact .still
    | second => exact .still
  | succ n ih =>
    rw [askedWithin, answersOf_append]
    exact (m.hears_poll side).trans (ih m.poll.2)

theorem polls_of_isExhausted {m : Merger σ τ} (h : m.isExhausted = true) (k : Nat) :
    (Source.polls k m).1 = List.replicate k .ended := by
  induction k generalizing m with
  | zero => rfl
  | succ k ih =>
    have hlater : (Source.polls k m.poll.2).1 = List.replicate k .ended := ih (isExhausted_poll h)
    have hnow : m.poll.1 = .ended := poll_eq_ended_of_isExhausted h
    rw [Source.polls_succ, List.replicate_succ]
    exact List.cons_eq_cons.2 ⟨hnow, hlater⟩

/-- **The discipline of a merger.** However often it has been polled, the answers of each source
are those of its own first polls, and nothing was asked after its end or its first failure. The
next poll is pending only if each source that is left was asked and is pending too; it is the end
exactly if it found no item and no source is left, and from then on every poll is. The upper
bound on the items to come is zero exactly when no source is left. -/
theorem poll_discipline (m : Merger σ τ) (n : Nat) :
    let now := (Source.polls n m).2
    (∀ side, m.Hears side (answersOf side (askedWithin n m)) now ∧
      ∀ answer ∈ (answersOf side (askedWithin n m)).dropLast, answer.isLast = false) ∧
    (now.poll.1 = .pending ↔ (∃ side, now.poll.2.isLive side = true) ∧
      ∀ side, now.poll.2.isLive side = true → (side, .pending) ∈ now.asked) ∧
    (now.poll.1 = .ended ↔
      (∀ side a, (side, .item a) ∉ now.asked) ∧ now.poll.2.isExhausted = true) ∧
    (now.poll.1 = .ended → ∀ k, (Source.polls k now.poll.2).1 = List.replicate k .ended ∧
      (Source.polls k now.poll.2).2.isExhausted = true) ∧
    (now.sizeHint.2 = some 0 ↔ now.isExhausted = true) := by
  intro now
  refine ⟨fun side => ?_, now.poll_eq_pending_iff, now.poll_eq_ended_iff, fun hended k => ?_, ?_⟩
  · have hears := hears_polls n m side
    refine ⟨hears, ?_⟩
    cases side with
    | first => exact Heard.isLast_of_mem_dropLast hears
    | second => exact Heard.isLast_of_mem_dropLast hears
  · have hexhausted := now.isExhausted_of_ended hended
    exact ⟨polls_of_isExhausted hexhausted k, isExhausted_polls hexhausted k⟩
  · simp [sizeHint]

end Asked

end Merger

/-! ## The books of the sources -/

/-- A source that keeps a book of the answers that it has given. -/
structure Booked (σ ε α : Type) where
  source : σ
  book : List (Polled ε α)

section Books

variable {σ τ ε α : Type} [Source σ ε α] [Source τ ε α]

instance : Source (Booked σ ε α) ε α where
  poll s :=
    let (answer, source) := Source.poll s.source
    (answer, ⟨source, s.book ++ [answer]⟩)

theorem book_poll (s : Booked σ ε α) :
    (Source.poll s).2.book = s.book ++ [(Source.poll s).1] := rfl

theorem Heard.book_eq {answers : List (Polled ε α)} {s s' : Booked σ ε α}
    (h : Heard answers (some s) (some s')) : s'.book = s.book ++ answers := by
  generalize hbefore : some s = before at h
  generalize hafter : some s' = after at h
  induction h generalizing s with
  | still =>
    cases hbefore
    cases hafter
    exact (List.append_nil _).symm
  | last => cases hafter
  | more _ _ ih =>
    cases hbefore
    rw [ih rfl hafter, book_poll, List.append_assoc, List.singleton_append]

namespace Merger

/-- The book of a source that is there. -/
def book? (m : Merger (Booked σ ε α) (Booked τ ε α)) : Side → Option (List (Polled ε α))
  | .first => m.first.map (·.book)
  | .second => m.second.map (·.book)

/-- **The record of the polls is right**: a source that keeps a book finds the same answers
there, each of them once. -/
theorem book?_polls (n : Nat) (m : Merger (Booked σ ε α) (Booked τ ε α)) (side : Side)
    {before after : List (Polled ε α)} (hbefore : m.book? side = some before)
    (hafter : (Source.polls n m).2.book? side = some after) :
    after = before ++ answersOf side (askedWithin n m) := by
  have hears := hears_polls n m side
  cases side with
  | first =>
    obtain ⟨s, hfirst, rfl⟩ := Option.map_eq_some_iff.1 hbefore
    obtain ⟨s', hfirst', rfl⟩ := Option.map_eq_some_iff.1 hafter
    rw [Hears, hfirst, hfirst'] at hears
    exact hears.book_eq
  | second =>
    obtain ⟨s, hsecond, rfl⟩ := Option.map_eq_some_iff.1 hbefore
    obtain ⟨s', hsecond', rfl⟩ := Option.map_eq_some_iff.1 hafter
    rw [Hears, hsecond, hsecond'] at hears
    exact hears.book_eq

end Merger

end Books

end Buildwatch
