import Mathlib.Data.List.Induction
import Buildwatch.Proofs.Run.Schedule
import Buildwatch.Proofs.Run.Token
import Buildwatch.Run.Life

/-!
# What holds at every moment of a run

Whatever happens to a run, and in whatever order, it has taken the first blocks of its pipes and
counted them; its watcher knows the end of the process if that has come, and reports nothing else;
and the caller has an answer only when the pipes have ended and the end of the process is reported.
-/

namespace Buildwatch

/-- The end that a happening brings. -/
def Happening.ending? : Happening → Option Ending
  | .exit ending => some ending
  | _ => none

/-- Whether a happening is up to the caller. -/
def Happening.isCallers : Happening → Bool
  | .turn | .finish => true
  | _ => false

/-- Whether the caller is through with the events. -/
inductive Phase.IsDrained : Phase → Prop
  | waiting : IsDrained .waiting
  | answered (answer : Except RunError BuildResult) : IsDrained (.answered answer)

theorem Phase.not_isDrained {phase : Phase} (h : phase = .asking ∨ phase = .draining) :
    ¬ phase.IsDrained := by
  rintro (_ | _) <;> simp at h

/-- How a process has ended, if it has by the time all this has happened. -/
def Process.ending? (p : Process) (happenings : List Happening) : Option Ending :=
  p.exit.ending?.or (happenings.findSome? Happening.ending?)

/-! ## States and tokens of a run -/

namespace Run

variable {r : Run}

theorem monitor_pop (r : Run) : r.pop.2.monitor = r.monitor := by
  unfold pop; split <;> rfl

theorem state_recordDiagnostics (severities : List Severity) (m : Monitor) :
    (severities.foldl Monitor.recordDiagnostic m).state = m.state := by
  induction severities generalizing m with
  | nil => rfl
  | cons severity severities ih =>
    rw [List.foldl_cons, ih]
    cases severity <;> rfl

theorem state_take (r : Run) (block : OutputBlock) :
    (r.take block).monitor.state = r.monitor.state :=
  state_recordDiagnostics _ _

/-- A look at a fired token cancels a run that is running, and nothing else does. -/
theorem state_heed (r : Run) : r.heed.monitor.state =
    if r.monitor.state = .running ∧ r.token.isFired = true then .cancelling
    else r.monitor.state := by
  unfold heed
  by_cases hstate : r.monitor.state = .running
  · cases hfired : r.token.isFired with
    | true => simp [hstate, Token.look_of_isFired hfired, Monitor.transition]
    | false => simp [hstate, Token.look_of_not_isFired hfired]
  · simp [hstate]

/-- A poll looks at the token first, unless there is an event to hand out. -/
theorem state_poll (r : Run) : r.poll.2.monitor.state =
    if r.queue = [] then r.heed.monitor.state else r.monitor.state := by
  obtain ⟨hqueue, hpoll⟩ | ⟨hqueue, block, -, hpoll⟩ | ⟨hqueue, -, hpoll, -⟩ := r.poll_cases
  · rw [hpoll, monitor_pop, if_neg hqueue]
  · rw [hpoll, monitor_pop, state_take, if_pos hqueue]
  · rw [hpoll, if_pos hqueue]

/-- A run that looks at its token is cancelling after that only if the token has fired. -/
theorem isFired_of_heed (h : r.monitor.state = .cancelling → r.token.isFired = true)
    (hstate : r.heed.monitor.state = .cancelling) : r.heed.token.isFired = true := by
  rw [state_heed] at hstate
  split at hstate
  · next hlook => exact isFired_heed hlook.2
  · exact isFired_heed (h hstate)

theorem isFired_of_poll (h : r.monitor.state = .cancelling → r.token.isFired = true)
    (hstate : r.poll.2.monitor.state = .cancelling) : r.poll.2.token.isFired = true := by
  rw [state_poll, state_heed] at hstate
  refine isFired_poll ?_
  split at hstate
  · split at hstate
    · next hlook => exact hlook.2
    · exact h hstate
  · exact h hstate

theorem state_heed_eq_exited_iff (r : Run) :
    r.heed.monitor.state = .exited ↔ r.monitor.state = .exited := by
  rw [state_heed]
  split
  · next h => simp [h.1]
  · rfl

theorem state_poll_eq_exited_iff (r : Run) :
    r.poll.2.monitor.state = .exited ↔ r.monitor.state = .exited := by
  rw [state_poll]
  split
  · exact r.state_heed_eq_exited_iff
  · rfl

theorem state_settle (r : Run) (ending : Ending) :
    (r.settle ending).2.monitor.state = .exited ↔
      r.monitor.state = .exited ∨ ∃ result, (r.settle ending).1 = .ok result := by
  cases ending <;> simp [settle, Monitor.transition]

end Run

namespace Life

variable {l l' : Life} {h : Happening} {p : Process}

/-! ## Steps -/

@[simp] theorem run_ask (l : Life) : l.ask.2.run = l.run.poll.2 := rfl

@[simp] theorem phase_ask (l : Life) : l.ask.2.phase = l.phase := rfl

theorem turn_of_asking (h : l.phase = .asking) : l.turn = l.ask.2 := by
  rw [turn, h]

theorem turn_of_draining (h : l.phase = .draining) (hgoing : l.run.poll.1 ≠ .ended) :
    l.turn = l.ask.2 := by
  rw [turn, h]
  dsimp only
  split
  · next hended => exact absurd (congrArg (·.1) hended) hgoing
  · next hask => rw [hask]

theorem turn_of_ended (h : l.phase = .draining) (hended : l.run.poll.1 = .ended) :
    l.turn = { l.ask.2 with run := l.ask.2.run.heed, phase := .waiting } := by
  rw [turn, h]
  dsimp only
  split
  · next hask => rw [hask]
  · next hgoing hask => exact absurd ((congrArg (·.1) hask).symm.trans hended) hgoing

/-- What a happening may make of a life. -/
inductive Step (l : Life) : Happening → Life → Prop
  /-- The caller has nothing to do, or only to wait. -/
  | rest (h : Happening) (callers : h.isCallers = true) : Step l h l
  | ask (phase : l.phase = .asking ∨ l.phase = .draining) : Step l .turn l.ask.2
  | drain (phase : l.phase = .draining) (ended : l.run.poll.1 = .ended) :
      Step l .turn { l.ask.2 with run := l.ask.2.run.heed, phase := .waiting }
  | settle (ending : Ending) (phase : l.phase = .waiting)
      (report : l.run.watcher.report = some ending) :
      Step l .turn
        { l with run := (l.run.settle ending).2, phase := .answered (l.run.settle ending).1 }
  | finish (phase : l.phase = .asking) : Step l .finish { l with phase := .draining }
  | watch : Step l .watch { l with run := l.run.watch }
  | exit (ending : Ending) :
      Step l (.exit ending) { l with run := { l.run with watcher := l.run.watcher.ends ending } }
  | cancel : Step l .cancel { l with run := l.run.cancel }

theorem step_turn (l : Life) : Step l .turn l.turn := by
  cases hphase : l.phase with
  | asking => exact turn_of_asking hphase ▸ .ask (.inl hphase)
  | draining =>
    by_cases hended : l.run.poll.1 = .ended
    · exact turn_of_ended hphase hended ▸ .drain hphase hended
    · exact turn_of_draining hphase hended ▸ .ask (.inr hphase)
  | waiting =>
    unfold turn
    rw [hphase]
    dsimp only
    split
    · next ending hreport => exact .settle ending hphase hreport
    · exact .rest .turn rfl
  | answered answer =>
    unfold turn
    rw [hphase]
    exact .rest .turn rfl

theorem step_finish (l : Life) : Step l .finish l.finish := by
  unfold finish
  split
  · next hphase => exact .finish hphase
  · exact .rest .finish rfl

theorem step_act (l : Life) (h : Happening) : Step l h (l.act h) := by
  cases h with
  | turn => exact l.step_turn
  | finish => exact l.step_finish
  | watch => exact .watch
  | exit ending => exact .exit ending
  | cancel => exact .cancel

theorem acts_concat (l : Life) (happenings : List Happening) (h : Happening) :
    l.acts (happenings ++ [h]) = (l.acts happenings).act h := by
  simp [acts]

theorem acts_append (l : Life) (happenings more : List Happening) :
    l.acts (happenings ++ more) = (l.acts happenings).acts more :=
  List.foldl_append

namespace Step

/-- A step takes blocks and hands out events as runs do. -/
theorem advance (hstep : Step l h l') :
    ∃ events taken, l'.events = l.events ++ events ∧ Run.Advance l.run events taken l'.run := by
  cases hstep with
  | ask =>
    obtain ⟨taken, hpoll⟩ := l.run.advance_poll
    exact ⟨_, taken, rfl, hpoll⟩
  | drain =>
    obtain ⟨taken, hpoll⟩ := l.run.advance_poll
    exact ⟨_, taken ++ [], rfl, List.append_nil _ ▸ hpoll.trans (Run.advance_heed _)⟩
  | settle ending => exact ⟨[], [], (List.append_nil _).symm, l.run.advance_settle ending⟩
  | watch => exact ⟨[], [], (List.append_nil _).symm, l.run.advance_watch⟩
  | _ => exact ⟨[], [], (List.append_nil _).symm, { Run.Advance.refl l.run with }⟩

/-- Nothing but its own turns and the end of the process changes the watcher. -/
theorem watcher_cases (hstep : Step l h l') :
    (h.ending? = none ∧ l'.run.watcher = l.run.watcher) ∨
    (h.ending? = none ∧ l'.run.watcher = (l.run.watcher.turn l.run.token).1) ∨
    ∃ ending, h.ending? = some ending ∧ l'.run.watcher = l.run.watcher.ends ending := by
  cases hstep with
  | rest h hcallers => exact .inl ⟨by cases h <;> cases hcallers <;> rfl, rfl⟩
  | ask => exact .inl ⟨rfl, by rw [run_ask, Run.watcher_poll]⟩
  | drain => exact .inl ⟨rfl, by rw [Run.watcher_heed, run_ask, Run.watcher_poll]⟩
  | settle ending => exact .inl ⟨rfl, by cases ending <;> rfl⟩
  | watch => exact .inr (.inl ⟨rfl, rfl⟩)
  | exit ending => exact .inr (.inr ⟨ending, rfl, rfl⟩)
  | _ => exact .inl ⟨rfl, rfl⟩

/-- The end of the process comes with the first happening that brings it. -/
theorem ending?_eq (hstep : Step l h l') :
    l'.run.watcher.exit.ending? = l.run.watcher.exit.ending?.or h.ending? := by
  obtain ⟨hnone, hwatcher⟩ | ⟨hnone, hwatcher⟩ | ⟨ending, hending, hwatcher⟩ := hstep.watcher_cases
  · rw [hwatcher, hnone, Option.or_none]
  · rw [hwatcher, hnone, Watcher.exit_turn, Option.or_none]
  · rw [hwatcher, hending, Watcher.ending?_ends]

theorem truthful (hstep : Step l h l') (htruthful : l.run.watcher.Truthful) :
    l'.run.watcher.Truthful := by
  obtain ⟨-, hwatcher⟩ | ⟨-, hwatcher⟩ | ⟨ending, -, hwatcher⟩ := hstep.watcher_cases
  all_goals rw [hwatcher]
  · exact htruthful
  · exact htruthful.turn l.run.token
  · exact htruthful.ends ending

/-- The process is told to terminate once, by all signals, and only if the token has fired. -/
theorem sent (hstep : Step l h l') : l'.run.watcher.sent = l.run.watcher.sent ∨
    l.run.watcher.sent = [] ∧ l'.run.watcher.sent = Signal.termination ∧
      l.run.token.isFired = true := by
  obtain ⟨-, hwatcher⟩ | ⟨-, hwatcher⟩ | ⟨ending, -, hwatcher⟩ := hstep.watcher_cases
  all_goals rw [hwatcher]
  · exact .inl rfl
  · exact l.run.watcher.sent_turn l.run.token
  · exact .inl (l.run.watcher.sent_ends ending)

/-- A report stays. -/
theorem report (hstep : Step l h l') {ending : Ending}
    (hreport : l.run.watcher.report = some ending) : l'.run.watcher.report = some ending := by
  obtain ⟨-, hwatcher⟩ | ⟨-, hwatcher⟩ | ⟨ending', -, hwatcher⟩ := hstep.watcher_cases
  all_goals rw [hwatcher]
  · exact hreport
  · rwa [Watcher.turn_of_reported hreport]
  · rwa [Watcher.report_ends]

/-- A token that has fired stays so. -/
theorem isFired (hstep : Step l h l') (hfired : l.run.token.isFired = true) :
    l'.run.token.isFired = true := by
  cases hstep with
  | ask => exact Run.isFired_poll hfired
  | drain => exact Run.isFired_heed (Run.isFired_poll hfired)
  | settle ending => rwa [Run.token_settle]
  | watch => exact Run.isFired_watch hfired
  | cancel => rfl
  | _ => exact hfired

theorem isFired_of_cancelling (hstep : Step l h l')
    (hfired : l.run.monitor.state = .cancelling → l.run.token.isFired = true)
    (hstate : l'.run.monitor.state = .cancelling) : l'.run.token.isFired = true := by
  cases hstep with
  | ask => exact Run.isFired_of_poll hfired hstate
  | drain => exact Run.isFired_of_heed (Run.isFired_of_poll hfired) hstate
  | settle ending =>
    rw [Run.token_settle]
    cases ending with
    | exited status => cases hstate
    | _ => exact hfired hstate
  | watch => exact Run.isFired_watch (hfired hstate)
  | cancel => rfl
  | _ => exact hfired hstate

/-- The caller begins to wait when both pipes have ended and no event is left. -/
theorem drained (hstep : Step l h l')
    (hdrained : l.phase.IsDrained → l.run.queue = [] ∧ l.run.output.isExhausted = true)
    (hphase : l'.phase.IsDrained) :
    l'.run.queue = [] ∧ l'.run.output.isExhausted = true := by
  cases hstep with
  | ask hasking =>
    rw [phase_ask] at hphase
    exact absurd hphase (Phase.not_isDrained hasking)
  | drain _ hended =>
    have hgone := l.run.queue_of_ended hended
    rwa [Run.queue_heed, Run.output_heed]
  | settle ending hwaiting => cases ending <;> exact hdrained (hwaiting ▸ .waiting)
  | finish => cases hphase
  | _ => exact hdrained hphase

/-- The caller is answered with what the watcher has reported. -/
theorem answered (hstep : Step l h l')
    (hanswered : ∀ answer, l.phase = .answered answer →
      ∃ ending, l.run.watcher.report = some ending ∧ answer = ending.answer l.run.hasError)
    (answer : Except RunError BuildResult) (hphase : l'.phase = .answered answer) :
    ∃ ending, l'.run.watcher.report = some ending ∧ answer = ending.answer l'.run.hasError := by
  -- What was answered before stays true, since no report is ever taken back.
  have hreported : ∀ ending, l.run.watcher.report = some ending →
      l'.run.watcher.report = some ending := fun _ => hstep.report
  cases hstep with
  | ask hasking =>
    rw [phase_ask] at hphase
    exact absurd (hphase ▸ .answered answer) (Phase.not_isDrained hasking)
  | drain => cases hphase
  | settle ending _ hreport =>
    cases hphase
    exact ⟨ending, hreported ending hreport, l.run.settle_fst ending⟩
  | finish => cases hphase
  | _ =>
    obtain ⟨ending, hreport, hanswer⟩ := hanswered answer hphase
    exact ⟨ending, hreported ending hreport, hanswer⟩

/-- A run exits when its caller gets a result. -/
theorem exited (hstep : Step l h l')
    (hexited : l.run.monitor.state = .exited ↔ ∃ result, l.phase = .answered (.ok result)) :
    l'.run.monitor.state = .exited ↔ ∃ result, l'.phase = .answered (.ok result) := by
  cases hstep with
  | ask => rwa [run_ask, phase_ask, Run.state_poll_eq_exited_iff]
  | drain hphase =>
    rw [run_ask, Run.state_heed_eq_exited_iff, Run.state_poll_eq_exited_iff, hexited, hphase]
    simp
  | settle ending hphase =>
    rw [Run.state_settle, hexited, hphase]
    simp
  | finish hphase =>
    rw [hexited, hphase]
    simp
  | _ => exact hexited

end Step

/-! ## What is true at every moment -/

/-- What is true of a run of the process `p`, after all this has happened. -/
structure Sound (baseDir : Path) (token : Token) (p : Process) (happenings : List Happening)
    (l : Life) : Prop where
  taken : ∃ taken, Run.Advance (.ofProcess baseDir token p) l.events taken l.run
  ending?_eq : l.run.watcher.exit.ending? = p.ending? happenings
  truthful : l.run.watcher.Truthful
  isFired_of_cancelling : l.run.monitor.state = .cancelling → l.run.token.isFired = true
  sent : l.run.watcher.sent = [] ∨
    l.run.watcher.sent = Signal.termination ∧ l.run.token.isFired = true
  drained : l.phase.IsDrained → l.run.queue = [] ∧ l.run.output.isExhausted = true
  answered : ∀ answer, l.phase = .answered answer →
    ∃ ending, l.run.watcher.report = some ending ∧ answer = ending.answer l.run.hasError
  exited : l.run.monitor.state = .exited ↔ ∃ result, l.phase = .answered (.ok result)

namespace Sound

variable {baseDir : Path} {token : Token} {happenings : List Happening}

theorem start : Sound baseDir token p [] (.start baseDir token p) where
  taken := ⟨[], .refl _⟩
  ending?_eq := by simp [Process.ending?, Life.start, Run.ofProcess]
  truthful := Watcher.truthful_of_none rfl
  isFired_of_cancelling := nofun
  sent := .inl rfl
  drained := nofun
  answered := nofun
  exited := by simp [Life.start, Run.ofProcess, Monitor.transition]

theorem step (hsound : Sound baseDir token p happenings l) (hstep : Step l h l') :
    Sound baseDir token p (happenings ++ [h]) l' where
  taken := by
    obtain ⟨taken, hbefore⟩ := hsound.taken
    obtain ⟨events, taken', hevents, hnow⟩ := hstep.advance
    exact ⟨taken ++ taken', hevents ▸ hbefore.trans hnow⟩
  ending?_eq := by
    have hlast : [h].findSome? Happening.ending? = h.ending? := by cases h <;> rfl
    rw [hstep.ending?_eq, hsound.ending?_eq, Process.ending?, Process.ending?, Option.or_assoc,
      List.findSome?_append, hlast]
  truthful := hstep.truthful hsound.truthful
  isFired_of_cancelling := hstep.isFired_of_cancelling hsound.isFired_of_cancelling
  sent := by
    obtain hsent | ⟨-, hsent, hfired⟩ := hstep.sent
    · rw [hsent]
      exact hsound.sent.imp_right fun ⟨hsent', hfired⟩ => ⟨hsent', hstep.isFired hfired⟩
    · exact .inr ⟨hsent, hstep.isFired hfired⟩
  drained := hstep.drained hsound.drained
  answered := hstep.answered hsound.answered
  exited := hstep.exited hsound.exited

end Sound

theorem sound_acts (baseDir : Path) (token : Token) (p : Process) (happenings : List Happening) :
    Sound baseDir token p happenings ((start baseDir token p).acts happenings) := by
  induction happenings using List.reverseRecOn with
  | nil => exact .start
  | append_singleton happenings h ih =>
    rw [acts_concat]
    exact ih.step (step_act _ h)

end Life

end Buildwatch
