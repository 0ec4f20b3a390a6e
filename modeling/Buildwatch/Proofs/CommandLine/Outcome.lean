import Buildwatch.CommandLine.Basic
import Buildwatch.Proofs.Session.Sequencing

/-!
# What the exit status tells

The command line drives a session to its end. Its exit status is zero exactly if every planned
step was launched and has ended with exit code zero, and 130 exactly if the build was
interrupted.
-/

namespace Buildwatch

/-! ## Exit codes -/

section

variable {result : BuildResult} {status : ExitStatus}

theorem ExitStatus.code?_eq_zero_iff : status.code? = some 0 ↔ status = .code 0 := by
  cases status <;> simp [code?]

theorem BuildResult.outcome_eq_success_iff :
    result.outcome = .success ↔ result.succeeded = true := by
  rw [outcome, succeeded, decide_eq_true_eq]
  cases result.exitCode with
  | none => simp
  | some code =>
    by_cases hcode : code = 0
    · simp [hcode]
    · by_cases hflag : result.hasError <;> simp [hcode, hflag]

theorem BuildResult.succeeded_iff (h : result.exitCode = status.code?) :
    result.succeeded = true ↔ status = .code 0 := by
  rw [succeeded, decide_eq_true_eq, h, ExitStatus.code?_eq_zero_iff]

theorem BuildResult.outcome_eq_interrupted_iff (h : result.exitCode = status.code?) :
    result.outcome = .interrupted ↔ ∃ number, status = .signal number := by
  rw [outcome, h]
  cases status with
  | signal number => simp [ExitStatus.code?]
  | code n =>
    by_cases hn : n = 0
    · simp [ExitStatus.code?, hn]
    · by_cases hflag : result.hasError <;> simp [ExitStatus.code?, hn, hflag]

end

/-! ## Plans -/

/-- All steps of a plan but the last one are preparations. -/
theorem Plan.kind_of_mem_dropLast {builder : Builder} {config : BuildConfig}
    {command : BuildCommand} {target : TargetSelection} {root : Path} {isFile : Path → Bool}
    {step : Step} (h : step ∈ (steps builder config command target root isFile).dropLast) :
    step.kind = .prepare := by
  cases builder with
  | cabalV2 =>
    simp only [steps, cabalSteps] at h
    split at h
    · obtain rfl := by simpa using h
      rfl
    · simp at h
  | stack => simp [steps] at h
  | none => simp [steps] at h

/-! ## Histories -/

/-- The outcome of a result, if there is one. -/
def outcome? (result : Except RunError BuildResult) : Option Outcome :=
  result.toOption.map (·.outcome)

/-- The outcome of a step tells the exit of its process. -/
theorem Episode.outcome_iff {e : Episode} {options : SpawnOptions} {result : BuildResult}
    (h : e.outcome options = .ok result) :
    (result.outcome = .success ↔ e.process.exit.ending = .exited (.code 0)) ∧
      (result.outcome = .interrupted ↔
        ∃ number, e.process.exit.ending = .exited (.signal number)) := by
  obtain ⟨status, hexit, hcode⟩ := e.exit_of_outcome_ok options h
  simp only [hexit, Ending.exited.injEq]
  rw [BuildResult.outcome_eq_success_iff]
  exact ⟨BuildResult.succeeded_iff hcode, BuildResult.outcome_eq_interrupted_iff hcode⟩

namespace History

variable (h : History)

/-- Whether all steps of the plan were launched, and have ended with exit code zero. -/
def IsSuccess (plan : List Step) : Prop :=
  h.launched = plan ∧ ∀ e ∈ h.episodes, e.process.exit.ending = .exited (.code 0)

/-- Whether the last launched step was killed by a signal, or the token had fired before the
next step of the plan. -/
def IsInterrupted : Prop :=
  (∃ e ∈ h.episodes.getLast?, ∃ number, e.process.exit.ending = .exited (.signal number)) ∨
    h.stage = .stopped

variable {h} {plan : List Step} {earlier : List Episode} {e : Episode}

theorem isSuccess_iff_of_last (heq : h.episodes = earlier ++ [e])
    (hzero : ∀ e ∈ earlier, e.process.exit.ending = .exited (.code 0)) :
    h.IsSuccess plan ↔ h.launched = plan ∧ e.process.exit.ending = .exited (.code 0) := by
  simp only [IsSuccess, heq, List.forall_mem_append, List.forall_mem_singleton, and_congr_right_iff]
  exact fun _ => and_iff_right hzero

theorem isInterrupted_iff_of_last (heq : h.episodes = earlier ++ [e]) :
    h.IsInterrupted ↔
      (∃ number, e.process.exit.ending = .exited (.signal number)) ∨ h.stage = .stopped := by
  simp [IsInterrupted, heq]

theorem isInterrupted_iff_of_zero
    (hzero : ∀ e ∈ h.episodes, e.process.exit.ending = .exited (.code 0)) :
    h.IsInterrupted ↔ h.stage = .stopped := by
  refine ⟨?_, .inr⟩
  rintro (⟨e, he, number, hexit⟩ | hstage)
  · rw [hzero e (List.mem_of_getLast? he)] at hexit
    cases hexit
  · exact hstage

end History

namespace Session

variable {ω : Type} [Host ω] {start s now : Session ω} {past : List (Episode × BuildResult)}
  {e : Episode} {result : BuildResult} {h : History}

/-- A preparation that has passed has ended with exit code zero. -/
theorem Passes.exit_of_mem (hpast : start.Passes past s) (hmem : (e, result) ∈ past)
    (hkind : e.step.kind = .prepare) : e.process.exit.ending = .exited (.code 0) := by
  induction hpast with
  | start => simp at hmem
  | @step past s e' later host result' passes begins drained outcome_eq succeeded ih =>
    obtain hmem | hmem := List.mem_append.1 hmem
    · exact ih hmem
    · obtain ⟨rfl, rfl⟩ := by simpa using hmem
      obtain ⟨status, hexit, hcode⟩ := e.exit_of_outcome_ok _ outcome_eq
      rw [hexit, (BuildResult.succeeded_iff hcode).1 (succeeded hkind)]

/-- If steps are left, all that have passed are preparations. -/
theorem Passes.exit_of_steps_ne_nil (hpast : start.Passes past s)
    (hplan : ∀ step ∈ start.steps.dropLast, step.kind = .prepare) (hne : s.steps ≠ []) :
    ∀ e ∈ past.map (·.1), e.process.exit.ending = .exited (.code 0) := by
  intro e he
  obtain ⟨⟨e, result⟩, hmem, rfl⟩ := List.mem_map.1 he
  refine hpast.exit_of_mem hmem (hplan _ ?_)
  rw [hpast.steps_eq, List.dropLast_append_of_ne_nil hne]
  exact List.mem_append_left _ (List.mem_map.2 ⟨_, hmem, rfl⟩)

/-- The outcome of a session that is over tells how far it has come. -/
theorem outcome?_verdict (tells : h.Tells start now)
    (hover : h.stage.isOver = true)
    (hplan : ∀ step ∈ start.steps.dropLast, step.kind = .prepare) :
    (outcome? h.verdict = some .success ↔ h.IsSuccess start.steps) ∧
      (outcome? h.verdict = some .interrupted ↔ h.IsInterrupted) := by
  obtain ⟨past, stage⟩ := h
  obtain ⟨s, hpast, stands⟩ := tells
  have hsteps := hpast.steps_eq
  have hunfinished (hne : s.steps ≠ []) : past.map (·.1.step) ≠ start.steps := by
    rw [hsteps]
    exact fun heq => hne (List.self_eq_append_right.1 heq)
  cases stands with
  | waiting | running => cases hover
  | finished steps_eq =>
    rw [steps_eq, List.append_nil] at hsteps
    cases hpast with
    | start =>
      refine ⟨iff_of_true rfl ⟨hsteps.symm, by simp [History.episodes, Stage.episode?]⟩, ?_⟩
      rw [History.isInterrupted_iff_of_zero (by simp [History.episodes, Stage.episode?])]
      exact iff_of_false (by rintro ⟨⟩) (by rintro ⟨⟩)
    | @step past s e later host result passes begins drained outcome_eq succeeded =>
      -- Its last step decides, for all steps before that are preparations.
      have hzero := passes.exit_of_steps_ne_nil hplan (by simp [begins.steps_eq])
      have hepisodes : History.episodes ⟨past ++ [(e, result)], .finished⟩ =
          past.map (·.1) ++ [e] := by simp [History.episodes, Stage.episode?]
      have hlaunched : History.launched ⟨past ++ [(e, result)], .finished⟩ = start.steps := by
        simp [hsteps, Stage.episode?]
      have hverdict : outcome? (History.verdict ⟨past ++ [(e, result)], .finished⟩) =
          some result.outcome := by simp [History.verdict, History.last?, outcome?, Except.toOption]
      simp only [List.append_eq]
      rw [hverdict, History.isSuccess_iff_of_last hepisodes hzero,
        History.isInterrupted_iff_of_last hepisodes]
      simpa [hlaunched] using Episode.outcome_iff outcome_eq
  | @aborted e later host result begins drained outcome_eq kind_eq failed =>
    have hzero := hpast.exit_of_steps_ne_nil hplan (by simp [begins.steps_eq])
    have hepisodes : History.episodes ⟨past, .aborted e result⟩ = past.map (·.1) ++ [e] := rfl
    have hverdict : outcome? (History.verdict ⟨past, .aborted e result⟩) =
        some result.outcome := rfl
    obtain ⟨hsuccess, hinterrupted⟩ := Episode.outcome_iff outcome_eq
    -- A failed preparation ends the session by itself, whatever was planned after it.
    have hfailed : result.outcome ≠ .success := by
      rw [ne_eq, BuildResult.outcome_eq_success_iff, failed]
      exact Bool.false_ne_true
    rw [hverdict, History.isSuccess_iff_of_last hepisodes hzero,
      History.isInterrupted_iff_of_last hepisodes, ← hsuccess, ← hinterrupted]
    simp [hfailed]
  | stopped steps_ne fired =>
    -- The token stopped the session before a step that was planned, so not all were launched.
    refine ⟨iff_of_false (by rintro ⟨⟩) fun h => hunfinished steps_ne ?_,
      iff_of_true rfl (.inr rfl)⟩
    simpa [Stage.episode?] using h.1
  | @refused step later error host steps_eq not_fired launch_eq =>
    have hne : s.steps ≠ [] := by simp [steps_eq]
    have hzero := hpast.exit_of_steps_ne_nil hplan hne
    rw [History.isInterrupted_iff_of_zero (by simpa [History.episodes, Stage.episode?] using hzero)]
    refine ⟨iff_of_false (by rintro ⟨⟩) fun h => hunfinished hne ?_,
      iff_of_false (by rintro ⟨⟩) (by rintro ⟨⟩)⟩
    simpa [Stage.episode?] using h.1
  | @lost e later host error begins drained outcome_eq =>
    have hzero := hpast.exit_of_steps_ne_nil hplan (by simp [begins.steps_eq])
    have hepisodes : History.episodes ⟨past, .lost e error⟩ = past.map (·.1) ++ [e] := rfl
    have hexit := e.exit_of_outcome_error _ outcome_eq
    rw [History.isSuccess_iff_of_last hepisodes hzero, History.isInterrupted_iff_of_last hepisodes]
    exact ⟨iff_of_false (by rintro ⟨⟩) (by simp [hexit]),
      iff_of_false (by rintro ⟨⟩) (by simp [hexit])⟩

/-- Whether these requests take all events of a session, up to its end or first failure. -/
structure Takes (s : Session ω) (requests : List Request) (events : List BuildEvent)
    (failure : Option RunError) (last : Session ω) : Prop where
  last_eq : (s.serveAll requests).2 = last
  events_eq : (s.serveAll requests).1.filterMap Polled.item? = events
  failure_eq : (s.serveAll requests).1.filterMap Polled.failure? = failure.toList
  ended : failure = none → .ended ∈ (s.serveAll requests).1

theorem serveAll_cons_poll {s' : Session ω} {answer : Polled RunError BuildEvent}
    (hp : Source.poll s = (answer, s')) (requests : List Request) :
    s.serveAll (.poll :: requests) =
      (answer :: (s'.serveAll requests).1, (s'.serveAll requests).2) := by
  rw [serveAll, serve, show s.poll = (answer, s') from hp]

/-- One poll comes before the other requests. -/
theorem Takes.poll {s' last : Session ω} {answer : Polled RunError BuildEvent}
    {requests : List Request} {events : List BuildEvent} {failure : Option RunError}
    (hp : Source.poll s = (answer, s')) (hfailure : answer.failure? = none)
    (h : s'.Takes requests events failure last) :
    s.Takes (.poll :: requests) (answer.item?.toList ++ events) failure last := by
  refine ⟨by rw [serveAll_cons_poll hp, h.last_eq], ?_, ?_, fun hnone => ?_⟩
  · rw [serveAll_cons_poll hp, ← h.events_eq]
    cases hitem : answer.item? <;> simp [hitem]
  · rw [serveAll_cons_poll hp, ← h.failure_eq, List.filterMap_cons_none hfailure]
  · rw [serveAll_cons_poll hp]
    exact List.mem_cons_of_mem _ (h.ended hnone)

/-- A poll that finds the end or a failure is the last one. -/
theorem Takes.last {s' : Session ω} {answer : Polled RunError BuildEvent}
    (hp : Source.poll s = (answer, s')) (hitem : answer.item? = none)
    (hended : answer.failure? = none → answer = .ended) :
    s.Takes [.poll] [] answer.failure? s' := by
  refine ⟨by rw [serveAll_cons_poll hp]; rfl, ?_, ?_, fun hnone => ?_⟩
  · rw [serveAll_cons_poll hp]
    simp [serveAll, hitem]
  · rw [serveAll_cons_poll hp]
    cases hfailure : answer.failure? <;> simp [serveAll, hfailure]
  · rw [serveAll_cons_poll hp, hended hnone]
    exact List.mem_cons_self

end Session

/-! ## Driving -/

namespace CommandLine

section Status

variable (result : Except RunError BuildResult)

/-- The exit status for what a session is finished with. -/
def statusOf : Nat := (outcome? result).elim 1 exitStatus

theorem statusOf_eq_zero_iff : statusOf result = 0 ↔ outcome? result = some .success := by
  rw [statusOf]
  rcases outcome? result with _ | ⟨⟨⟩⟩ <;> simp [exitStatus]

theorem statusOf_eq_interrupted_iff :
    statusOf result = 130 ↔ outcome? result = some .interrupted := by
  rw [statusOf]
  rcases outcome? result with _ | ⟨⟨⟩⟩ <;> simp [exitStatus]

theorem statusOf_cases : statusOf result = 0 ∨ statusOf result = 130 ∨ statusOf result = 1 := by
  rw [statusOf]
  rcases outcome? result with _ | ⟨⟨⟩⟩ <;> simp [exitStatus]

end Status

variable {ω : Type} [Workspace ω]

/-- After an event the token may be fired. -/
theorem exists_takes_of_heed {s last : Session ω} {event : BuildEvent} {events : List BuildEvent}
    {failure : Option RunError}
    (h : ∃ requests, (heed event s).Takes requests events failure last) :
    ∃ requests, s.Takes requests events failure last := by
  obtain ⟨requests, h⟩ := h
  unfold heed at h
  split at h
  · exact ⟨.cancel :: requests, h.last_eq, h.events_eq, h.failure_eq,
      fun hnone => List.mem_cons_of_mem _ (h.ended hnone)⟩
  · exact ⟨requests, h⟩

/-- The command line takes all events of a session. -/
theorem exists_takes_drainWith (s : Session ω) :
    ∃ requests, s.Takes requests (Source.drainWith heed rank_heed s).1
      (Source.drainWith heed rank_heed s).2.1 (Source.drainWith heed rank_heed s).2.2 := by
  fun_induction Source.drainWith heed rank_heed s with
  | case1 s s' hp ih =>
    obtain ⟨requests, h⟩ := ih
    exact ⟨_, h.poll hp rfl⟩
  | case2 s event s' hp events failure last heq ih =>
    rw [heq] at ih
    obtain ⟨requests, h⟩ := exists_takes_of_heed ih
    exact ⟨_, h.poll hp rfl⟩
  | case3 s error s' hp => exact ⟨_, .last hp rfl (by rintro ⟨⟩)⟩
  | case4 s s' hp => exact ⟨_, .last hp rfl fun _ => rfl⟩

/-- Driving a session brings it to a history that is over, and the verdict is the result. -/
theorem exists_history_drive (s : Session ω) (hrest : s.current = none)
    (hresult : s.result = none) :
    ∃ requests h, s.HasHistory requests h ∧ h.stage.isOver = true ∧
      drive s = (h.events s.options, h.verdict, (s.serveAll requests).2) := by
  obtain ⟨requests, takes⟩ := exists_takes_drainWith s
  obtain ⟨h, begets⟩ := Session.exists_begets hrest requests
  have hist := begets.hasHistory
  refine ⟨requests, h, hist, ?_⟩
  have hfailures := hist.failures_eq
  have hevents := hist.events_eq
  rw [takes.failure_eq] at hfailures
  rw [takes.events_eq] at hevents
  rcases hd : Source.drainWith heed rank_heed s with ⟨events, failure, last⟩
  simp only [hd] at takes hfailures hevents
  cases failure with
  | some error =>
    -- The failure of the last answer is the one that the history ends with.
    have hfailure : h.stage.failure? = some error := by
      cases hs : h.stage.failure? <;> simp_all
    refine ⟨Session.isOver_of_failure hfailure, ?_⟩
    rw [drive, hd, hevents, Session.verdict_of_failure hfailure, takes.last_eq]
  | none =>
    -- The events ended, so the session is over; what it has stored is the verdict.
    have hover := hist.ended (takes.ended rfl)
    have hnone : h.stage.failure? = none := by
      cases hs : h.stage.failure? <;> simp_all
    have hfinish := Session.finish_of_isOver (s.current_whenAsked requests hrest)
      ((s.result_whenAsked requests).trans hresult) hist.tells hover hnone
    refine ⟨hover, ?_⟩
    simp only [drive, hd, hevents, ← takes.last_eq, hfinish]

/-- The program ends with the exit status for what its session is finished with. -/
theorem status_build {environment : List (String × String)} {o : Options} {w₀ w : ω} {job : Job}
    (h : prepare environment o w₀ = (.ok job, w)) (time : String) (token : Token) :
    (build time environment token o w₀).1.status =
      statusOf (drive (job.session environment o.command token w)).2.1 := by
  simp only [build, h]
  cases (drive (job.session environment o.command token w)).2.1 <;> rfl

end CommandLine

end Buildwatch
