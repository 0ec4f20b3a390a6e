import Buildwatch.Proofs.Run.Life

/-!
# Finishing a run, turn by turn

To serve requests, to drain a run and to wait for the exit of its process are rows of single
turns. So a run that is finished has one of the lives that are told in single turns; and a run
whose process has ended can always be brought to its end.
-/

namespace Buildwatch

namespace Run

variable {r : Run} {delay : Nat}

/-- The run, with another time to go until its process ends. -/
def withDelay (r : Run) (delay : Nat) : Run :=
  { r with watcher.exit.delay := delay }

/-- A watcher does not know how long it is still going to wait. -/
theorem watch_withDelay (h : delay = 0 ↔ r.watcher.exit.delay = 0) :
    (r.withDelay delay).watch = r.watch.withDelay delay := by
  have hending : (r.withDelay delay).watcher.exit.ending? = r.watcher.exit.ending? := by
    simp [withDelay, Exit.ending?, h]
  unfold watch Watcher.turn
  rw [hending]
  cases hreport : r.watcher.report with
  | some ending => simp [withDelay, hreport]
  | none =>
    cases r.watcher.exit.ending? with
    | some ending => simp [withDelay, hreport]
    | none =>
      by_cases hsent : r.watcher.sent = []
      · cases hlook : r.token.look.1 <;> simp [withDelay, hreport, hsent, hlook]
      · simp [withDelay, hreport, hsent]

end Run

namespace Life

variable {l : Life} {r : Run} {events : List BuildEvent}

theorem acts_cons (l : Life) (h : Happening) (happenings : List Happening) :
    l.acts (h :: happenings) = (l.act h).acts happenings := rfl

/-! ## Requests -/

theorem act_turn_of_asking (r : Run) (events : List BuildEvent) :
    act { run := r, events } .turn =
      { run := r.poll.2, events := events ++ r.poll.1.item?.toList } := rfl

/-- To wait for an event is to turn until there is something to say. -/
theorem exists_acts_next (r : Run) (events : List BuildEvent) :
    ∃ happenings, acts { run := r, events } happenings =
      { run := (Source.next r).2, events := events ++ (Source.next r).1.item?.toList } := by
  induction r using Source.poll_induction with
  | step r ih =>
    by_cases hpending : r.poll.1 = .pending
    · have hne : (Source.poll r).1 ≠ .ended := by
        rw [show Source.poll r = r.poll from rfl, hpending]
        simp
      obtain ⟨happenings, hacts⟩ := ih hne
      have hnone : events ++ r.poll.1.item?.toList = events := by simp [hpending, Polled.item?]
      refine ⟨.turn :: happenings, ?_⟩
      rw [acts_cons, act_turn_of_asking, hnone,
        Source.next_of_pending (s := r) (Prod.ext hpending rfl)]
      exact hacts
    · refine ⟨[.turn], ?_⟩
      rw [acts_cons, act_turn_of_asking, Source.next_of_ne_pending hpending]
      rfl

theorem exists_acts_serveAll (r : Run) (requests : List Request) (events : List BuildEvent) :
    ∃ happenings, acts { run := r, events } happenings =
      { run := (r.serveAll requests).2, events := events ++ (r.serveAll requests).1 } := by
  induction requests generalizing r events with
  | nil => exact ⟨[], by simp [acts, Run.serveAll]⟩
  | cons request requests ih =>
    obtain ⟨first, hfirst⟩ : ∃ first, acts { run := r, events } first =
        { run := (r.serve request).2, events := events ++ (r.serve request).1 } := by
      cases request with
      | poll => exact ⟨[.turn], act_turn_of_asking r events⟩
      | next => exact exists_acts_next r events
      | cancel => exact ⟨[.cancel], by simp [acts, act, Run.serve]⟩
    obtain ⟨rest, hrest⟩ := ih (r.serve request).2 (events ++ (r.serve request).1)
    exact ⟨first ++ rest, by rw [acts_append, hfirst, hrest, List.append_assoc]; rfl⟩

/-! ## The end -/

/-- To drain a run is to turn until both pipes have ended. -/
theorem exists_acts_drain (r : Run) (events : List BuildEvent) :
    ∃ n, acts { run := r, phase := .draining, events } (List.replicate n .turn) =
      { run := (Source.drain r).2.2.heed, phase := .waiting,
        events := events ++ Source.items r } := by
  induction r using Source.poll_induction generalizing events with
  | step r ih =>
    by_cases hended : r.poll.1 = .ended
    · have hnone : events ++ r.poll.1.item?.toList = events := by simp [hended, Polled.item?]
      refine ⟨1, ?_⟩
      rw [List.replicate_one, acts_cons, act, turn_of_ended rfl hended, Source.items,
        Source.drain_of_ended (s := r) (Prod.ext hended rfl), List.append_nil]
      exact congrArg (Life.mk r.poll.2.heed .waiting) hnone
    · obtain ⟨n, hacts⟩ := ih hended (events ++ r.poll.1.item?.toList)
      refine ⟨n + 1, ?_⟩
      rw [List.replicate_succ, acts_cons, act, turn_of_draining rfl hended]
      refine hacts.trans ?_
      rcases hpoll : Source.poll r with ⟨answer, r'⟩
      have hanswer : r.poll.1 = answer := congrArg (·.1) hpoll
      rw [hanswer] at hended ⊢
      cases answer with
      | pending => simp [Source.items, Source.drain_of_pending hpoll, Polled.item?]
      | item event => simp [Source.items, Source.drain_of_item hpoll, Polled.item?]
      | failed e => exact e.elim
      | ended => exact absurd rfl hended

/-- To wait for the exit of a process is to let the watcher turn and the process end. It makes no
difference how long that takes. -/
theorem exists_acts_await (r : Run) (events : List BuildEvent) (delay : Nat)
    (hdelay : delay = 0 ↔ r.watcher.exit.delay = 0) (htruthful : r.watcher.Truthful) :
    ∃ happenings, acts { run := r.withDelay delay, phase := .waiting, events } happenings =
      { run := r.await.2, phase := .waiting, events } := by
  fun_induction Run.await r generalizing delay with
  | case1 r ending hreport =>
    -- What is reported has come, so there was nothing to wait for.
    have hended := (Exit.ending?_eq_some_iff.1 (htruthful ending hreport)).1
    obtain rfl : delay = r.watcher.exit.delay := by rw [hended, hdelay, hended]
    exact ⟨[], rfl⟩
  | case2 r hreport ih =>
    have hturned : (r.watch.tick).watcher.Truthful := (htruthful.turn r.token).tick
    have hwatch : act { run := r.withDelay delay, phase := .waiting, events } .watch =
        { run := r.watch.withDelay delay, phase := .waiting, events } := by
      rw [act, Run.watch_withDelay hdelay]
    have hlast : r.watch.tick.watcher.exit.delay = r.watcher.exit.delay - 1 := by
      simp [Run.tick, Watcher.tick, Exit.tick, Run.watch, Watcher.exit_turn]
    by_cases hsoon : r.watcher.exit.delay = 1
    · -- The process ends after this turn of the watcher.
      obtain ⟨happenings, hacts⟩ := ih 0 (by simp [hlast, hsoon]) hturned
      have hne : delay ≠ 0 := by omega
      have hexit : act { run := r.watch.withDelay delay, phase := .waiting, events }
          (.exit r.watcher.exit.ending) =
            { run := r.watch.tick.withDelay 0, phase := .waiting, events } := by
        simp [act, Watcher.ends, Run.withDelay, hne, Run.tick, Watcher.tick, Exit.tick, Run.watch,
          Watcher.exit_turn]
      refine ⟨.watch :: .exit r.watcher.exit.ending :: happenings, ?_⟩
      rw [acts_cons, hwatch, acts_cons, hexit]
      exact hacts
    · obtain ⟨happenings, hacts⟩ := ih delay (by omega) hturned
      refine ⟨.watch :: happenings, ?_⟩
      rw [acts_cons, hwatch]
      exact hacts

/-- A run that is finished after some requests has one of the lives that are told in single
turns. -/
theorem exists_acts_finish (baseDir : Path) (token : Token) (p : Process)
    (requests : List Request) :
    let r := Run.ofProcess baseDir token p
    ∃ happenings, (start baseDir token p).acts happenings =
      { run := (r.finishAfter requests).2, phase := .answered (r.finishAfter requests).1,
        events := r.allEvents requests } := by
  intro r
  -- The parts of the life: the requests, the drain, the wait, and the answer.
  let served := (r.serveAll requests).2
  let drained := (Source.drain served).2.2.heed
  have hwatcher : drained.watcher = r.watcher := by
    rw [Run.watcher_heed, Run.watcher_drain, Run.watcher_serveAll]
  have hnone : drained.watcher.report = none := hwatcher ▸ rfl
  obtain ⟨asked, hasked⟩ := exists_acts_serveAll r requests []
  obtain ⟨n, hdrained⟩ := exists_acts_drain served (r.serveAll requests).1
  obtain ⟨awaited, hawaited⟩ := exists_acts_await drained (r.allEvents requests)
    drained.watcher.exit.delay Iff.rfl (Watcher.truthful_of_none hnone)
  let reported : Life :=
    { run := drained.await.2, phase := .waiting, events := r.allEvents requests }
  have hanswer : reported.turn =
      { run := (r.finishAfter requests).2,
        phase := .answered (r.finishAfter requests).1,
        events := r.allEvents requests } := by
    simp only [turn, reported, drained.report_await]
    rfl
  refine ⟨asked ++ .finish :: List.replicate n .turn ++ awaited ++ [.turn], ?_⟩
  rw [acts_concat, acts_append, acts_append, start, hasked, acts_cons, ← hanswer]
  exact congrArg turn ((congrArg (acts · awaited) hdrained).trans hawaited)

/-- A run whose process has ended can be brought to its answer, by its caller and its watcher
alone. -/
theorem exists_acts_answered (l : Life) (htruthful : l.run.watcher.Truthful) {ending : Ending}
    (hended : l.run.watcher.exit.ending? = some ending) :
    ∃ happenings, (∀ h ∈ happenings, h = .finish ∨ h = .turn ∨ h = .watch) ∧
      ∃ answer, (l.acts happenings).phase = .answered answer := by
  -- From the wait on, one turn of the watcher and one of the caller are enough.
  have hwaiting : ∀ r events, r.watcher = l.run.watcher →
      ∃ answer, (acts { run := r, phase := .waiting, events } [.watch, .turn]).phase =
        .answered answer := by
    intro r events hwatcher
    have hreport : r.watch.watcher.report = some ending := by
      rw [Run.watch, hwatcher]
      exact htruthful.report_turn hended r.token
    simp only [acts, List.foldl_cons, List.foldl_nil, act, turn, hreport]
    exact ⟨_, rfl⟩
  obtain ⟨n, hdrained⟩ := exists_acts_drain l.run l.events
  have hdraining : ∃ answer, (acts { l with phase := .draining }
      (List.replicate n .turn ++ [.watch, .turn])).phase = .answered answer := by
    rw [acts_append, hdrained]
    exact hwaiting _ _ (by rw [Run.watcher_heed, Run.watcher_drain])
  have hcallers : ∀ h ∈ List.replicate n .turn ++ [.watch, .turn],
      h = .finish ∨ h = .turn ∨ h = Happening.watch := by
    intro h hmem
    simp only [List.mem_append, List.mem_replicate, List.mem_cons, List.not_mem_nil] at hmem
    tauto
  obtain ⟨r, phase, events⟩ := l
  cases phase with
  | asking => exact ⟨.finish :: _, List.forall_mem_cons.2 ⟨.inl rfl, hcallers⟩, hdraining⟩
  | draining => exact ⟨_, hcallers, hdraining⟩
  | waiting => exact ⟨[.watch, .turn], by simp, hwaiting r events rfl⟩
  | answered answer => exact ⟨[], by simp, answer, rfl⟩

end Life

end Buildwatch
