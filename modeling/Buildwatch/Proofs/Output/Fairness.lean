import Buildwatch.Proofs.Output.Asking

/-!
# How long a source waits

A source that a poll passes over has the first turn in the next one, since the turn goes over
with every poll, whatever its answer. So a source waits for one poll at the most. Between two
polls the sources may get more to give; they neither come nor go, and the turn stays.
-/

namespace Buildwatch

section Slots

variable {σ ε α : Type} [Source σ ε α] {slot slot' : Option σ}

theorem isSome_iff_answer? : slot.isSome = true ↔ ∃ answer, answer? slot = some answer := by
  cases slot <;> simp [answer?]

/-- No source comes back. -/
theorem Heard.isSome {answers : List (Polled ε α)} (h : Heard answers slot slot')
    (hlive : slot'.isSome = true) : slot.isSome = true := by
  cases h with
  | still => exact hlive
  | last => rfl
  | more => rfl

end Slots

namespace Merger

variable {σ τ ε α : Type}

/-- Whether a merger can have become another one while it was not polled: the sources may have
other answers by now. -/
structure Idles (m m' : Merger σ τ) : Prop where
  goesFirst_eq : m'.goesFirst = m.goesFirst
  isLive_eq : ∀ side, m'.isLive side = m.isLive side

theorem Idles.refl (m : Merger σ τ) : m.Idles m := ⟨rfl, fun _ => rfl⟩

theorem Side.other_other (side : Side) : side.other.other = side := by
  cases side <;> rfl

theorem isLive_of_untouched {m m' : Merger σ τ} {side : Side} (h : m.Untouched m' side) :
    m'.isLive side = m.isLive side := by
  cases side <;> exact congrArg Option.isSome h

section Waiting

variable [Source σ ε α] [Source τ ε α]

/-- Whether the next poll asks a source. -/
def Asks (m : Merger σ τ) (side : Side) : Prop := ∃ answer, (side, answer) ∈ m.asked

theorem isLive_iff_offer {m : Merger σ τ} {side : Side} :
    m.isLive side = true ↔ ∃ answer, m.offer side = some answer := by
  cases side <;> exact isSome_iff_answer?

theorem offer_of_untouched {m m' : Merger σ τ} {side : Side} (h : m.Untouched m' side) :
    m'.offer side = m.offer side := by
  cases side <;> exact congrArg answer? h

/-- The source that has the first turn is asked, whatever it has to give. -/
theorem mem_asked_of_goesFirst {m : Merger σ τ} {side : Side} {answer : Polled ε α}
    (hturn : m.goesFirst = side) (hoffer : m.offer side = some answer) :
    (side, answer) ∈ m.asked := by
  subst hturn
  by_cases hitem : ∃ a, m.offer m.goesFirst = some (.item a)
  · obtain ⟨a, ha⟩ := hitem
    rw [asked_of_item ha]
    cases ha.symm.trans hoffer
    exact List.mem_singleton_self _
  · exact (mem_asked_of_no_item fun a ha => hitem ⟨a, ha⟩).2 hoffer

/-- A poll gives an item that it asks for. -/
theorem yields_of_mem_asked {m : Merger σ τ} {side : Side} {a : α}
    (h : (side, .item a) ∈ m.asked) : m.Yields side a := by
  refine ⟨h, ?_⟩
  have hoffer := offer_of_mem_asked h
  obtain ⟨b, hnow, hanswer, -⟩ | ⟨b, hnone, hother, hanswer, -⟩ | ⟨hnone, -⟩ := m.poll_sides
  · rw [asked_of_item hnow] at h
    cases List.mem_singleton.1 h
    exact hanswer
  · rcases side.eq_or_eq_other m.goesFirst with rfl | rfl
    · exact absurd hoffer (hnone a)
    · cases hother.symm.trans hoffer
      exact hanswer
  · exact absurd hoffer (hnone side a)

/-- **One poll**: it asks a source for what it has, or passes over it for an item of the other
one, and then the source is as it was and has the first turn. -/
theorem asked_or_passed_over (m : Merger σ τ) (side : Side) :
    (∀ answer, m.offer side = some answer → (side, answer) ∈ m.asked) ∨
    ((∃ a, m.Yields side.other a) ∧ m.Untouched m.poll.2 side ∧ m.poll.2.goesFirst = side) := by
  obtain ⟨a, hnow, -, -, huntouched⟩ | ⟨a, hnone, -⟩ | ⟨hnone, -⟩ := m.poll_sides
  · rcases side.eq_or_eq_other m.goesFirst with hside | hside
    · exact .inl fun answer hoffer => mem_asked_of_goesFirst hside.symm hoffer
    · have hother : side.other = m.goesFirst := by rw [hside, Side.other_other]
      refine .inr ⟨⟨a, hother ▸ yields_of_mem_asked (mem_asked_of_goesFirst rfl hnow)⟩,
        hside ▸ huntouched, ?_⟩
      rw [goesFirst_poll, hside]
  · exact .inl fun answer hoffer => (mem_asked_of_no_item hnone).2 hoffer
  · exact .inl fun answer hoffer => (mem_asked_of_no_item (hnone m.goesFirst)).2 hoffer

/-- A source that is there is asked by this poll or, whatever happens in between, by the next. -/
theorem asks_or_asks_next {m : Merger σ τ} {side : Side} (hlive : m.isLive side = true) :
    m.Asks side ∨ ∀ m', m.poll.2.Idles m' → m'.Asks side := by
  obtain ⟨answer, hoffer⟩ := isLive_iff_offer.1 hlive
  rcases m.asked_or_passed_over side with hasked | ⟨-, huntouched, hturn⟩
  · exact .inl ⟨answer, hasked answer hoffer⟩
  · -- Nothing that happens while the merger idles takes the turn from the source.
    refine .inr fun m' hidles => ?_
    have hlive' : m'.isLive side = true := by
      rw [hidles.isLive_eq, isLive_of_untouched huntouched, hlive]
    obtain ⟨answer', hoffer'⟩ := isLive_iff_offer.1 hlive'
    exact ⟨answer', mem_asked_of_goesFirst (hidles.goesFirst_eq.trans hturn) hoffer'⟩

/-- **A merger is fair**, whatever state it is in. A source that is there is asked by one of any
two polls that follow each other. An item that a source has ready comes with the next poll, or
it stays and comes with the one after that if the source still has it ready then. It comes with
the next poll if the other source has none. -/
theorem fair (m : Merger σ τ) (side : Side) :
    (m.isLive side = true → m.Asks side ∨ ∀ m', m.poll.2.Idles m' → m'.Asks side) ∧
    (∀ a, m.offer side = some (.item a) → m.Yields side a ∨
      (m.poll.2.offer side = some (.item a) ∧
        ∀ m', m.poll.2.Idles m' → m'.offer side = some (.item a) → m'.Yields side a)) ∧
    (∀ a, m.offer side = some (.item a) → (∀ b, m.offer side.other ≠ some (.item b)) →
      m.Yields side a) := by
  refine ⟨asks_or_asks_next, fun a hoffer => ?_, fun a hoffer hother => ?_⟩
  · rcases m.asked_or_passed_over side with hasked | ⟨-, huntouched, hturn⟩
    · exact .inl (yields_of_mem_asked (hasked _ hoffer))
    · refine .inr ⟨(offer_of_untouched huntouched).trans hoffer, fun m' hidles hoffer' => ?_⟩
      have hturn' : m'.goesFirst = side := hidles.goesFirst_eq.trans hturn
      exact yields_of_mem_asked (mem_asked_of_goesFirst hturn' hoffer')
  · rcases m.asked_or_passed_over side with hasked | ⟨⟨b, hyields⟩, -⟩
    · exact yields_of_mem_asked (hasked _ hoffer)
    · exact absurd (offer_of_mem_asked hyields.mem_asked) (hother b)

/-! ## Many polls -/

theorem isLive_of_hears {m m' : Merger σ τ} {side : Side} {answers : List (Polled ε α)}
    (h : m.Hears side answers m') (hlive : m'.isLive side = true) : m.isLive side = true := by
  cases side with
  | first => exact Heard.isSome h hlive
  | second => exact Heard.isSome h hlive

theorem answersOf_length_pos {m : Merger σ τ} {side : Side} (h : m.Asks side) :
    0 < (answersOf side m.asked).length := by
  obtain ⟨answer, hmem⟩ := h
  have hside : (side, answer) ∈ m.asked.filter (·.1 = side) := List.mem_filter.2 ⟨hmem, by simp⟩
  exact List.length_pos_iff_exists_mem.2 ⟨answer, List.mem_map.2 ⟨_, hside, rfl⟩⟩

/-- A source that is still there after `2 * n` polls was asked `n` times at the least. -/
theorem asked_often (n : Nat) {m : Merger σ τ} {side : Side}
    (hlive : (Source.polls (2 * n) m).2.isLive side = true) :
    n ≤ (answersOf side (askedWithin (2 * n) m)).length := by
  induction n generalizing m with
  | zero => exact Nat.zero_le _
  | succ n ih =>
    -- Two polls at a time; a source that is there afterwards was there all along.
    have hbefore : m.isLive side = true := isLive_of_hears (hears_polls _ m side) hlive
    have hrest : n ≤ (answersOf side (askedWithin (2 * n) m.poll.2.poll.2)).length := ih hlive
    have htwo : 0 < (answersOf side m.asked).length + (answersOf side m.poll.2.asked).length := by
      rcases asks_or_asks_next hbefore with hasks | hasks
      · exact Nat.add_pos_left (answersOf_length_pos hasks) _
      · exact Nat.add_pos_right _ (answersOf_length_pos (hasks _ (Idles.refl _)))
    rw [Nat.mul_succ, askedWithin, askedWithin, answersOf_append, answersOf_append,
      List.length_append, List.length_append]
    omega

end Waiting

end Merger

end Buildwatch
