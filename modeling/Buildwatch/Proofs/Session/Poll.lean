import Buildwatch.Proofs.Session.Turn

/-!
# One poll of a session

What a poll of a session can do is said once: while a step is running, and when the next step
is to start. From this, every poll is a turn of the history, and so is waiting for an answer
and firing the token.
-/

namespace Buildwatch.Session

variable {ω : Type} [Host ω] {start s now : Session ω} {past : List (Episode × BuildResult)}
  {h : History} {e : Episode} {later : List Step} {host : ω}

/-! ## What a poll can do -/

/-- While a step is running, a poll hands out an event, finds that none is there yet, or finds
the end of the run. Then the exit of the process cannot be learnt, or a preparation has failed,
or the session goes on with the next step. -/
theorem poll_during_cases (hrest : s.current = none) (e : Episode) (later : List Step)
    (token : Token) (host : ω) :
    let run := e.now s.options
    let e' := e.ask .poll
    let polled := (s.during e later token host).poll
    (∃ event, run.poll.1 = .item event ∧ polled = (.item event, s.during e' later token host)) ∨
    (run.poll.1 = .pending ∧ polled = (.pending, s.during e' later token host)) ∨
    (run.poll.1 = .ended ∧ ∃ error, e'.outcome s.options = .error error ∧
      polled = (.failed error, { s with steps := [], token, host })) ∨
    (run.poll.1 = .ended ∧ ∃ result, e'.outcome s.options = .ok result ∧
      e.step.kind = .prepare ∧ result.succeeded = false ∧ polled = (.ended, { s with
        steps := [], result := some result, token := e'.tokenLeft s.options, host })) ∨
    (run.poll.1 = .ended ∧ ∃ result, e'.outcome s.options = .ok result ∧
      (e.step.kind = .prepare → result.succeeded = true) ∧
      polled = (s.resume e' later host result).advance later) := by
  dsimp only
  rcases hp : (e.now s.options).poll with ⟨answer, run⟩
  have hask : (e.ask .poll).now s.options = run := by rw [Episode.now_ask, Run.serve, hp]
  cases answer with
  | item event => exact .inl ⟨event, rfl, by simp [poll, during, hp, hask]⟩
  | pending => exact .inr (.inl ⟨rfl, by simp [poll, during, hp, hask]⟩)
  | failed e => exact e.elim
  | ended =>
    -- The run has no more events, so its exit is collected within the same poll.
    rcases hf : run.finish with ⟨outcome, last⟩
    have houtcome : (e.ask .poll).outcome s.options = outcome := by rw [Episode.outcome, hask, hf]
    have htoken : (e.ask .poll).tokenLeft s.options = last.token := by
      rw [Episode.tokenLeft, hask, hf]
    rw [houtcome, htoken]
    cases outcome with
    | error error =>
      exact .inr (.inr (.inl ⟨rfl, error, rfl, by simp [poll, during, hp, hf, abandon, hrest]⟩))
    | ok result =>
      by_cases hsucceeded : e.step.kind = .prepare → result.succeeded = true
      · have hgoing : (e.step.kind = .prepare && !result.succeeded) = false := by
          simpa using hsucceeded
        exact .inr (.inr (.inr (.inr ⟨rfl, result, rfl, hsucceeded, by
          simp [poll, during, hp, hf, complete, hgoing, resume, htoken]⟩)))
      · obtain ⟨hkind, hfailed⟩ := Classical.not_imp.1 hsucceeded
        rw [Bool.not_eq_true] at hfailed
        exact .inr (.inr (.inr (.inl ⟨rfl, result, rfl, hkind, hfailed, by
          simp [poll, during, hp, hf, complete, hkind, hfailed, advance, hrest]⟩)))

theorem advance_nil (hrest : s.current = none) (hsteps : s.steps = []) :
    s.advance [] = (.ended, s) := by
  obtain ⟨steps, options, current, result, token, host⟩ := s
  cases hrest
  cases hsteps
  rfl

/-- To launch a step is to poll it at once. -/
theorem advance_of_launch {step : Step} {process : Process}
    (hfired : s.token.isFired = false)
    (hlaunch : Host.spawn s.options step.invocation s.host = (.ok process, host)) :
    s.advance (step :: later) =
      poll { s with
        steps := later
        current := some (step.kind, .ofProcess s.options.directory s.token.look.2 process)
        token := s.token.look.2, host } := by
  have hlook := Token.look_of_not_isFired hfired
  rcases ht : s.token.look with ⟨fired, token⟩
  obtain rfl : fired = false := by rwa [ht] at hlook
  rcases hp : (Run.ofProcess s.options.directory token process).poll with ⟨answer, run⟩
  simp only [advance, poll, ht, hlaunch, hp, Bool.false_eq_true, ↓reduceIte]
  cases answer with
  | pending | item | failed => rfl
  | ended =>
    rcases hf : run.finish with ⟨outcome, last⟩
    cases outcome with
    | error e => simp only [hf, abandon]
    | ok result =>
      by_cases hfailed : (step.kind = .prepare && !result.succeeded) = true
      · simp [hf, complete, hfailed, advance]
      · cases later <;> simp [hf, complete, hfailed, advance]

/-- The next step is not started if the token has fired, cannot be launched, or is launched
and polled. -/
theorem advance_cons_cases (hrest : s.current = none) (step : Step) (later : List Step) :
    (s.token.isFired = true ∧ s.advance (step :: later) = (.ended, { s with
      steps := [], result := some ⟨none, s.result.any (·.hasError)⟩ })) ∨
    (s.token.isFired = false ∧ ∃ error host,
      Host.spawn s.options step.invocation s.host = (.error error, host) ∧
      s.advance (step :: later) =
        (.failed error, { s with steps := [], token := s.token.look.2, host })) ∨
    (s.token.isFired = false ∧ ∃ process host,
      Host.spawn s.options step.invocation s.host = (.ok process, host) ∧
      s.advance (step :: later) =
        (s.during ⟨step, process, s.token, []⟩ later s.token.look.2 host).poll) := by
  cases hfired : s.token.isFired with
  | true =>
    exact .inl ⟨rfl, by simp [advance, Token.look_of_isFired hfired, interrupt, hrest]⟩
  | false =>
    rcases hlaunch : Host.spawn s.options step.invocation s.host with ⟨error | process, host⟩
    · exact .inr (.inl ⟨rfl, error, host, rfl, by
        simp [advance, Token.look_of_not_isFired hfired, hlaunch, abandon, hrest]⟩)
    · exact .inr (.inr ⟨rfl, process, host, rfl, advance_of_launch hfired hlaunch⟩)

/-! ## Polls are turns -/

/-- Whether an answer goes with a turn of the history; an event that is handed out is the last
one of the running step, so no other step was launched after it. -/
def Goes (start : Session ω) (h : History) (now : Session ω)
    (polled : Polled RunError BuildEvent × Session ω) : Prop :=
  ∃ h', Turn start h now [polled.1] h' polled.2 ∧ h'.stage ≠ .waiting ∧
    ∀ event, polled.1 = .item event → h'.EndsIn start.options event

theorem Goes.of_turn {h' : History} {answer : Polled RunError BuildEvent} {now' : Session ω}
    (turn : Turn start h now [answer] h' now') (hstage : h'.stage ≠ .waiting)
    (hitem : answer.item? = none) : Goes start h now (answer, now') := by
  refine ⟨h', turn, hstage, ?_⟩
  rintro event rfl
  cases hitem

/-- What happens without an answer comes first. -/
theorem Goes.of_silent {h' : History} {now' : Session ω}
    {polled : Polled RunError BuildEvent × Session ω} (turn : Turn start h now [] h' now')
    (goes : Goes start h' now' polled) : Goes start h now polled := by
  obtain ⟨h'', turn', hstage, hitem⟩ := goes
  exact ⟨h'', turn.trans turn', hstage, hitem⟩

/-- A poll while a step is running, if the session can go on after it. -/
theorem goes_during (hstart : start.current = none) (hpast : start.Passes past s)
    (begins : s.Begins e later host) (token : Token)
    (ih : ∀ {past s}, start.Passes past s → s.steps = later →
      Goes start ⟨past, .waiting⟩ s (s.advance later)) :
    Goes start ⟨past, .running e⟩ (s.during e later token host)
      (s.during e later token host).poll := by
  have hrest := hpast.current_eq hstart
  have hfired : (e.now s.options).token.isFired = true →
      ((e.now s.options).serve .poll).2.token.isFired = true := Run.isFired_poll
  obtain ⟨event, hitem, hpoll⟩ | ⟨hpending, hpoll⟩ | ⟨hended, error, houtcome, hpoll⟩ |
      ⟨hended, result, houtcome, hkind, hfailed, hpoll⟩ |
      ⟨hended, result, houtcome, hsucceeded, hpoll⟩ := poll_during_cases hrest e later token host
  · -- An event.
    rw [hpoll]
    have hserve : ((e.now s.options).serve .poll).1 = [event] := by
      simp [Run.serve, hitem, Polled.item?]
    refine ⟨_, turn_ask hpast begins token token hserve hfired (by simp) rfl, by simp, ?_⟩
    rintro _ ⟨⟩
    refine ⟨_, rfl, ?_⟩
    rw [← hpast.options_eq, Episode.events_ask, hserve, List.getLast?_concat]
  · -- Nothing yet.
    rw [hpoll]
    have hserve : ((e.now s.options).serve .poll).1 = [] := by
      simp [Run.serve, hpending, Polled.item?]
    exact .of_turn (turn_ask hpast begins token token hserve hfired (by simp) rfl) (by simp) rfl
  all_goals
    have begins' := begins.ask .poll
    have hdrained := e.isDrained_of_ended _ hended
    have hevents : (e.ask .poll).events start.options = e.events start.options := by
      rw [← hpast.options_eq]
      exact e.events_ask_of_ended _ hended
    rw [hpoll]
  · -- The exit of the process cannot be learnt.
    exact .of_turn (turn_end hpast rfl (.lost begins' hdrained houtcome token) rfl rfl hevents rfl
      rfl (by simp [isBarred, hrest])) (by simp) rfl
  · -- A preparation has failed.
    exact .of_turn (turn_end hpast rfl (.aborted begins' hdrained houtcome hkind hfailed _) rfl rfl
      hevents rfl rfl (by simp [isBarred, hrest])) (by simp) rfl
  · -- The session is at rest again, and goes on from there.
    exact .of_silent (turn_collect hpast begins token hended houtcome hsucceeded)
      (ih (hpast.step begins' hdrained houtcome hsucceeded) rfl)

/-- A session at rest goes on with the steps that are left. -/
theorem goes_advance (hstart : start.current = none) (hpast : start.Passes past s)
    (steps : List Step) (hsteps : s.steps = steps) :
    Goes start ⟨past, .waiting⟩ s (s.advance steps) := by
  have hrest := hpast.current_eq hstart
  -- By the steps that are left: when one has passed, the session goes on with the others.
  induction steps generalizing s past with
  | nil =>
    rw [advance_nil hrest hsteps]
    exact .of_turn (turn_end hpast rfl (.finished hsteps s.token) rfl rfl rfl rfl rfl
      (by simp [isBarred, hrest, hsteps])) (by simp) rfl
  | cons step later ih =>
    obtain ⟨hfired, hadvance⟩ | ⟨hfired, error, host, hlaunch, hadvance⟩ |
        ⟨hfired, process, host, hlaunch, hadvance⟩ := advance_cons_cases hrest step later
    · rw [hadvance]
      exact .of_turn (turn_end hpast rfl (.stopped (by simp [hsteps]) hfired s.token) rfl rfl rfl
        rfl rfl (by simp [isBarred, hrest])) (by simp) rfl
    · rw [hadvance]
      exact .of_turn (turn_end hpast rfl (.refused hsteps hfired hlaunch _) rfl rfl rfl rfl rfl
        (by simp [isBarred, hrest])) (by simp) rfl
    · rw [hadvance]
      have begins : s.Begins ⟨step, process, s.token, []⟩ later host :=
        ⟨hsteps, rfl, hfired, hlaunch⟩
      exact .of_silent (turn_launch hstart hpast begins rfl)
        (goes_during hstart hpast begins _ fun hpast' hsteps' =>
          ih hpast' hsteps' (hpast'.current_eq hstart))

/-! ## Sessions at their end -/

/-- At its end a session has nothing left to do. -/
theorem Stands.rest_of_isOver {stage : Stage} (stands : s.Stands stage now)
    (hover : stage.isOver = true) (hrest : s.current = none) :
    now.current = none ∧ now.steps = [] := by
  cases stands with
  | waiting | running => cases hover
  | finished steps_eq => exact ⟨hrest, steps_eq⟩
  | aborted | stopped | refused | lost => exact ⟨hrest, rfl⟩

theorem poll_of_isOver (hstart : start.current = none) (tells : h.Tells start now)
    (hover : h.stage.isOver = true) : now.poll = (.ended, now) := by
  obtain ⟨s, hpast, stands⟩ := tells
  obtain ⟨hcurrent, hsteps⟩ := stands.rest_of_isOver hover (hpast.current_eq hstart)
  rw [poll, hcurrent, hsteps]
  exact advance_nil hcurrent hsteps

/-- At its end a session has no use for the token. -/
theorem Stands.cancel {stage : Stage} (stands : s.Stands stage now) (hover : stage.isOver = true)
    (hrest : s.current = none) : s.Stands stage now.cancel := by
  cases stands with
  | waiting | running => cases hover
  | finished steps_eq => simpa [Session.cancel, hrest] using Stands.finished steps_eq .fired
  | aborted begins drained outcome_eq kind_eq failed =>
    simpa [Session.cancel, hrest] using
      Stands.aborted begins drained outcome_eq kind_eq failed .fired
  | stopped steps_ne fired =>
    simpa [Session.cancel, hrest] using Stands.stopped steps_ne fired .fired
  | refused steps_eq not_fired launch_eq =>
    simpa [Session.cancel, hrest] using Stands.refused steps_eq not_fired launch_eq .fired
  | lost begins drained outcome_eq =>
    simpa [Session.cancel, hrest] using Stands.lost begins drained outcome_eq .fired

/-! ## Requests are turns -/

theorem goes_poll (hstart : start.current = none) (tells : h.Tells start now) :
    Goes start h now now.poll := by
  by_cases hover : h.stage.isOver = true
  · have hstage : h.stage ≠ .waiting := fun hw => by simp [hw, Stage.isOver] at hover
    rw [poll_of_isOver hstart tells hover]
    exact .of_turn (.still tells rfl rfl (fun _ => hover) id) hstage rfl
  · obtain ⟨past, stage⟩ := h
    obtain ⟨s, hpast, stands⟩ := tells
    cases stands with
    | waiting =>
      rw [poll, hpast.current_eq hstart]
      exact goes_advance hstart hpast _ rfl
    | running begins token =>
      exact goes_during hstart hpast begins token fun hpast' => goes_advance hstart hpast' _
    | finished | aborted | stopped | refused | lost => exact absurd rfl hover

theorem goes_next (hstart : start.current = none) (tells : h.Tells start now) :
    Goes start h now (Source.next now) := by
  induction now using Source.poll_induction generalizing h with
  | step now ih =>
    have hpoll := goes_poll hstart tells
    by_cases hpending : now.poll.1 = .pending
    · obtain ⟨h', turn, -⟩ := hpoll
      have hnext : Source.next now = Source.next now.poll.2 :=
        Source.next_of_pending (Prod.ext hpending rfl)
      rw [hnext]
      rw [hpending] at turn
      -- A pending answer adds nothing.
      exact .of_silent { turn with ended := by simp }
        (ih (by rw [show Source.poll now = now.poll from rfl, hpending]; simp) turn.tells)
    · rwa [Source.next_of_ne_pending hpending]

/-- The token is fired. If the session waits, its history must start with that. -/
theorem exists_turn_cancel (hstart : start.current = none) (tells : h.Tells start now)
    (hwaiting : h.stage = .waiting → now.cancel = now) :
    ∃ h', Turn start h now [.pending] h' now.cancel ∧
      (h'.stage = .waiting → h.stage = .waiting ∧ now.cancel = now) := by
  obtain ⟨past, stage⟩ := h
  obtain ⟨s, hpast, stands⟩ := id tells
  have hbarred : now.isBarred = true → now.cancel.isBarred = true := fun _ => now.isBarred_cancel
  by_cases hover : stage.isOver = true
  · refine ⟨_, .still ⟨s, hpast, stands.cancel hover (hpast.current_eq hstart)⟩ rfl rfl (by simp)
      hbarred, ?_⟩
    rintro rfl
    cases hover
  · cases stands with
    | waiting =>
      rw [hwaiting rfl]
      exact ⟨_, .still tells rfl rfl (by simp) id, fun hw => ⟨hw, rfl⟩⟩
    | @running e later host begins token =>
      have hcancel : (s.during e later token host).cancel =
          s.during (e.ask .cancel) later .fired host := by
        simp [Session.cancel, during, Episode.now_ask, Run.serve]
      rw [hcancel]
      exact ⟨_, turn_ask hpast begins token .fired rfl (fun _ => rfl) (by simp) rfl, by simp⟩
    | finished | aborted | stopped | refused | lost => exact absurd rfl hover

end Buildwatch.Session
