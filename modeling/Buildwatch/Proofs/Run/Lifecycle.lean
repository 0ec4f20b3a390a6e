import Mathlib.Data.List.Chain
import Buildwatch.Proofs.Run.Turns

/-!
# The life of a run

A run goes from running to cancelling, if its token has fired, and from there or from running
to its exit; it never goes back. The exit comes last: after both pipes have ended, after all
their blocks were counted, and after the end of the process has come and is reported. A
cancellation takes no event away.
-/

namespace Buildwatch

/-! ## The order of the states -/

/-- Whether one state is another one, or comes before it. -/
inductive RunState.Precedes : RunState → RunState → Prop
  | refl (s : RunState) : Precedes s s
  | cancelling : Precedes .running .cancelling
  | exited (s : RunState) : Precedes s .exited

namespace RunState

variable {states : List RunState} {s s' s'' : RunState}

theorem Precedes.trans (h : Precedes s s') (h' : Precedes s' s'') : Precedes s s'' := by
  cases h <;> cases h' <;> constructor

theorem replicate_of_exited (h : (exited :: states).IsChain Precedes) :
    exited :: states = List.replicate (states.length + 1) exited := by
  induction states with
  | nil => rfl
  | cons state states ih =>
    rw [List.isChain_cons_cons] at h
    obtain ⟨hstep, hrest⟩ := h
    cases hstep <;> exact congrArg (exited :: ·) (ih hrest)

theorem exists_replicate_of_cancelling (h : (cancelling :: states).IsChain Precedes) :
    ∃ n k, cancelling :: states =
      List.replicate (n + 1) cancelling ++ List.replicate k exited := by
  induction states with
  | nil => exact ⟨0, 0, rfl⟩
  | cons state states ih =>
    rw [List.isChain_cons_cons] at h
    obtain ⟨hstep, hrest⟩ := h
    cases hstep with
    | refl =>
      obtain ⟨n, k, hstates⟩ := ih hrest
      exact ⟨n + 1, k, congrArg (cancelling :: ·) hstates⟩
    | exited => exact ⟨0, _, congrArg (cancelling :: ·) (replicate_of_exited hrest)⟩

/-- States that follow one another are running for a while, then cancelling, then exited. -/
theorem exists_replicate_of_running (h : (running :: states).IsChain Precedes) :
    ∃ m n k, running :: states = List.replicate (m + 1) running ++
      List.replicate n cancelling ++ List.replicate k exited := by
  induction states with
  | nil => exact ⟨0, 0, 0, rfl⟩
  | cons state states ih =>
    rw [List.isChain_cons_cons] at h
    obtain ⟨hstep, hrest⟩ := h
    cases hstep with
    | refl =>
      obtain ⟨m, n, k, hstates⟩ := ih hrest
      exact ⟨m + 1, n, k, congrArg (running :: ·) hstates⟩
    | cancelling =>
      obtain ⟨n, k, hstates⟩ := exists_replicate_of_cancelling hrest
      exact ⟨0, n + 1, k, congrArg (running :: ·) hstates⟩
    | exited => exact ⟨0, 0, _, congrArg (running :: ·) (replicate_of_exited hrest)⟩

end RunState

namespace Run

theorem precedes_heed (r : Run) : r.monitor.state.Precedes r.heed.monitor.state := by
  rw [state_heed]
  split
  · next h => exact h.1 ▸ .cancelling
  · exact .refl _

theorem precedes_poll (r : Run) : r.monitor.state.Precedes r.poll.2.monitor.state := by
  rw [state_poll]
  split
  · exact r.precedes_heed
  · exact .refl _

end Run

namespace Life

variable {l l' : Life} {h : Happening}

theorem Step.precedes (hstep : Step l h l') :
    l.run.monitor.state.Precedes l'.run.monitor.state := by
  cases hstep with
  | ask => exact l.run.precedes_poll
  | drain => exact l.run.precedes_poll.trans l.run.poll.2.precedes_heed
  | settle ending =>
    cases ending with
    | exited status => exact .exited _
    | _ => exact .refl _
  | _ => exact .refl _

/-- The life at each moment: before anything happens, and after each happening. -/
def moments (l : Life) : List Happening → List Life
  | [] => [l]
  | h :: happenings => l :: (l.act h).moments happenings

theorem isChain_states (l : Life) (happenings : List Happening) :
    ((l.moments happenings).map (·.run.monitor.state)).IsChain RunState.Precedes := by
  induction happenings generalizing l with
  | nil => exact .singleton _
  | cons h happenings ih =>
    have hstep := (step_act l h).precedes
    have hrest := ih (l.act h)
    cases happenings <;> simp_all [moments]

end Life

/-! ## Cancellations and events -/

/-- Whether two runs differ in their states, tokens and watchers only. -/
structure Run.Alike (r r' : Run) : Prop where
  baseDir_eq : r.baseDir = r'.baseDir
  output_eq : r.output = r'.output
  queue_eq : r.queue = r'.queue

namespace Run.Alike

variable {r r' r'' : Run}

theorem refl (r : Run) : Alike r r := ⟨rfl, rfl, rfl⟩

theorem symm (h : Alike r r') : Alike r' r :=
  ⟨h.baseDir_eq.symm, h.output_eq.symm, h.queue_eq.symm⟩

theorem trans (h : Alike r r') (h' : Alike r' r'') : Alike r r'' :=
  ⟨h.baseDir_eq.trans h'.baseDir_eq, h.output_eq.trans h'.output_eq,
    h.queue_eq.trans h'.queue_eq⟩

theorem heed (h : Alike r r') : Alike r.heed r'.heed where
  baseDir_eq := by rw [baseDir_heed, baseDir_heed, h.baseDir_eq]
  output_eq := by rw [output_heed, output_heed, h.output_eq]
  queue_eq := by rw [queue_heed, queue_heed, h.queue_eq]

theorem pop (h : Alike r r') : r.pop.1 = r'.pop.1 ∧ Alike r.pop.2 r'.pop.2 := by
  obtain ⟨hbase, houtput, hqueue⟩ := h
  unfold Run.pop
  rw [← hqueue]
  cases r.queue with
  | nil => exact ⟨rfl, hbase, houtput, hqueue⟩
  | cons event queue => exact ⟨rfl, hbase, houtput, rfl⟩

theorem take (h : Alike r r') (block : OutputBlock) : Alike (r.take block) (r'.take block) where
  baseDir_eq := h.baseDir_eq
  output_eq := h.output_eq
  queue_eq := by simp [Run.take, h.queue_eq, h.baseDir_eq]

/-- A poll answers without regard to the state and the token. -/
theorem poll (h : Alike r r') : r.poll.1 = r'.poll.1 ∧ Alike r.poll.2 r'.poll.2 := by
  unfold Run.poll
  rw [← h.queue_eq]
  split
  · exact h.pop
  · have hheed := h.heed
    dsimp only
    rw [← hheed.output_eq]
    rcases r.heed.output.poll with ⟨answer, output⟩
    have hlater : Alike { r.heed with output } { r'.heed with output } :=
      ⟨hheed.baseDir_eq, rfl, hheed.queue_eq⟩
    cases answer with
    | item block => exact (hlater.take block).pop
    | pending => exact ⟨rfl, hlater⟩
    | ended => exact ⟨rfl, hlater⟩
    | failed e => exact e.elim

theorem settle (h : Alike r r') (ending : Ending) : Alike r (r'.settle ending).2 := by
  obtain ⟨hbase, houtput, hqueue⟩ := h
  cases ending <;> exact ⟨hbase, houtput, hqueue⟩

end Run.Alike

/-- The phase, without the answer if there is one. -/
def Phase.withoutAnswer : Phase → Phase
  | .answered _ => .waiting
  | phase => phase

theorem Phase.cases_of_withoutAnswer_eq {phase phase' : Phase}
    (h : phase.withoutAnswer = phase'.withoutAnswer) :
    phase = .asking ∧ phase' = .asking ∨ phase = .draining ∧ phase' = .draining ∨
      phase.IsDrained ∧ phase'.IsDrained := by
  cases phase <;> cases phase' <;> cases h
  · exact .inl ⟨rfl, rfl⟩
  · exact .inr (.inl ⟨rfl, rfl⟩)
  all_goals exact .inr (.inr ⟨by constructor, by constructor⟩)

namespace Life

variable {l l' l'' : Life}

/-- Whether the callers of two lives have come equally far and have seen the same, but that one may
still wait for what the other knows. -/
structure Alike (l l' : Life) : Prop where
  run : Run.Alike l.run l'.run
  events_eq : l.events = l'.events
  phase_eq : l.phase.withoutAnswer = l'.phase.withoutAnswer

namespace Alike

theorem refl (l : Life) : Alike l l := ⟨.refl _, rfl, rfl⟩

theorem symm (h : Alike l l') : Alike l' l :=
  ⟨h.run.symm, h.events_eq.symm, h.phase_eq.symm⟩

theorem trans (h : Alike l l') (h' : Alike l' l'') : Alike l l'' :=
  ⟨h.run.trans h'.run, h.events_eq.trans h'.events_eq, h.phase_eq.trans h'.phase_eq⟩

/-- What the caller has no part in does not change what the caller sees. -/
theorem act_of_not_callers (l : Life) {h : Happening} (hothers : h.isCallers = false) :
    Alike l (l.act h) := by
  cases h with
  | turn => cases hothers
  | finish => cases hothers
  | _ => exact ⟨⟨rfl, rfl, rfl⟩, rfl, rfl⟩

theorem turn_of_isDrained (l : Life) (hdrained : l.phase.IsDrained) : Alike l l.turn := by
  obtain ⟨r, phase, events⟩ := l
  cases hdrained with
  | waiting =>
    unfold turn
    dsimp only
    split
    · next ending _ => exact ⟨(Run.Alike.refl r).settle ending, rfl, rfl⟩
    · exact .refl _
  | answered answer => exact .refl _

theorem ask (h : Alike l l') : l.ask.1 = l'.ask.1 ∧ Alike l.ask.2 l'.ask.2 := by
  obtain ⟨hanswer, hlater⟩ := h.run.poll
  exact ⟨hanswer, hlater, by simp [Life.ask, h.events_eq, hanswer], h.phase_eq⟩

/-- The caller goes the same way in both lives. -/
theorem turn (h : Alike l l') : Alike l.turn l'.turn := by
  -- Both callers ask, both begin to wait, or both only wait; one may have its answer first.
  obtain ⟨hanswer, hlater⟩ := h.ask
  obtain ⟨hphase, hphase'⟩ | ⟨hphase, hphase'⟩ | ⟨hdrained, hdrained'⟩ :=
    Phase.cases_of_withoutAnswer_eq h.phase_eq
  · rw [turn_of_asking hphase, turn_of_asking hphase']
    exact hlater
  · by_cases hended : l.run.poll.1 = .ended
    · rw [turn_of_ended hphase hended, turn_of_ended hphase' (hanswer ▸ hended)]
      exact ⟨hlater.run.heed, hlater.events_eq, rfl⟩
    · rw [turn_of_draining hphase hended, turn_of_draining hphase' (hanswer ▸ hended)]
      exact hlater
  · exact ((turn_of_isDrained l hdrained).symm.trans h).trans (turn_of_isDrained l' hdrained')

theorem finish (h : Alike l l') : Alike l.finish l'.finish := by
  obtain ⟨hphase, hphase'⟩ | ⟨hphase, hphase'⟩ | ⟨hdrained, hdrained'⟩ :=
    Phase.cases_of_withoutAnswer_eq h.phase_eq
  · simp only [Life.finish, hphase, hphase']
    exact ⟨h.run, h.events_eq, rfl⟩
  · simp only [Life.finish, hphase, hphase']
    exact h
  · have hnothing : ∀ l : Life, l.phase.IsDrained → l.finish = l := by
      rintro ⟨r, _, events⟩ (_ | _) <;> rfl
    rwa [hnothing l hdrained, hnothing l' hdrained']

/-- Cancellations, and whatever else the caller has no part in, change nothing about the events
that the caller gets. -/
theorem acts (h : Alike l l') (happenings : List Happening) :
    Alike (l.acts happenings) (l'.acts (happenings.filter (·.isCallers))) := by
  induction happenings generalizing l l' with
  | nil => exact h
  | cons happening happenings ih =>
    cases hcallers : happening.isCallers with
    | true =>
      rw [List.filter_cons_of_pos hcallers]
      refine ih ?_
      cases happening with
      | turn => exact h.turn
      | finish => exact h.finish
      | _ => cases hcallers
    | false =>
      rw [List.filter_cons_of_neg (by simp [hcallers])]
      exact ih ((act_of_not_callers l hcallers).symm.trans h)

end Alike

end Life

/-! ## Whole lives -/

/-- What is true of a run of the process `p`, after all this has happened. -/
structure Lifecycle (baseDir : Path) (p : Process) (happenings : List Happening) (now : Life) :
    Prop where
  isFired_of_cancelling : now.run.monitor.state = .cancelling → now.run.token.isFired = true
  /-- With the turn that finds both pipes ended the run comes to be cancelling, or is so already,
  exactly if the token has fired by then. -/
  cancelling_iff : now.phase = .draining → now.turn.phase = .waiting →
    (now.turn.run.monitor.state = .cancelling ↔ now.ask.2.run.token.isFired = true)
  /-- Whoever waits for the exit, or has an answer, has all events of both pipes. -/
  drained : now.phase.IsDrained → now.run.output.isExhausted = true ∧ ∃ blocks,
    Interleaving (pipeBlocks .stdout p.stdout) (pipeBlocks .stderr p.stderr) blocks ∧
    now.events = blocks.flatMap (BuildEvent.ofBlock baseDir) ∧
    now.run.monitor.tally = .ofSeverities (severities baseDir blocks)
  exited_iff : now.run.monitor.state = .exited ↔ ∃ result, now.phase = .answered (.ok result)
  /-- The answer is made of the end of the process, which has come and is reported. -/
  answered : ∀ answer, now.phase = .answered answer → ∃ ending,
    p.ending? happenings = some ending ∧ now.run.watcher.report = some ending ∧
      answer = ending.answer now.run.hasError
  /-- All signals are sent, and after the token has fired; or none is. -/
  sent : now.run.watcher.sent = [] ∨
    now.run.watcher.sent = Signal.termination ∧ now.run.token.isFired = true

namespace Life

variable {l : Life} {baseDir : Path} {token : Token} {p : Process} {happenings : List Happening}

theorem precedes_acts (baseDir : Path) (token : Token) (p : Process)
    (happenings : List Happening) :
    RunState.running.Precedes ((start baseDir token p).acts happenings).run.monitor.state := by
  induction happenings using List.reverseRecOn with
  | nil => exact .refl _
  | append_singleton happenings h ih =>
    rw [acts_concat]
    exact ih.trans (step_act _ h).precedes

/-- The last look at the token decides whether a run is cancelling while it waits for the exit. -/
theorem Sound.cancelling_iff (hsound : Sound baseDir token p happenings l)
    (hbegan : RunState.running.Precedes l.run.monitor.state) (hphase : l.phase = .draining)
    (hwaiting : l.turn.phase = .waiting) :
    l.turn.run.monitor.state = .cancelling ↔ l.ask.2.run.token.isFired = true := by
  have hended : l.run.poll.1 = .ended := by
    by_contra hgoing
    rw [turn_of_draining hphase hgoing, phase_ask, hphase] at hwaiting
    cases hwaiting
  rw [turn_of_ended hphase hended, Run.state_heed, run_ask]
  have hfired := Run.isFired_of_poll hsound.isFired_of_cancelling
  -- Before the last look at the token the state is running or cancelling, not exited.
  have hgoing : l.run.poll.2.monitor.state ≠ .exited := by
    rw [Ne, Run.state_poll_eq_exited_iff, hsound.exited, hphase]
    simp
  have hstate := hbegan.trans l.run.precedes_poll
  revert hfired hgoing hstate
  generalize l.run.poll.2.monitor.state = s
  rintro hfired hgoing (_ | _ | _)
  · simp
  · simpa using hfired
  · exact absurd rfl hgoing

theorem lifecycle_of_sound (hsound : Sound baseDir token p happenings l)
    (hbegan : RunState.running.Precedes l.run.monitor.state) :
    Lifecycle baseDir p happenings l where
  isFired_of_cancelling := hsound.isFired_of_cancelling
  cancelling_iff := hsound.cancelling_iff hbegan
  drained hdrained := by
    obtain ⟨hqueue, hgone⟩ := hsound.drained hdrained
    obtain ⟨taken, htaken⟩ := hsound.taken
    exact ⟨hgone, taken, htaken.interleaving hgone, htaken.events_of_queue hqueue,
      htaken.tally_of_start⟩
  exited_iff := hsound.exited
  answered answer hphase := by
    obtain ⟨ending, hreport, hanswer⟩ := hsound.answered answer hphase
    exact ⟨ending, hsound.ending?_eq ▸ hsound.truthful ending hreport, hreport, hanswer⟩
  sent := hsound.sent

end Life

/-- **The life of a run.** Whatever the pipes of its process deliver, and in whatever order its
caller takes events and finishes it, the watcher gets its turns, the process ends and the token
fires, a run is running first, may be cancelling after that if its token has fired, and is
cancelling at the end if the token has fired by the time both pipes are drained. It exits last, when
all blocks of both pipes have been handed out or dropped by the caller and have been counted, and
when the watcher has reported the exit status of its process, whose code it gives; there is none
after a death by signal only. Cancelling takes no event away: what the caller gets is told by the
caller's own turns. Once the process has ended, nobody else is needed for an answer. A run that is
served requests and finished in one go has one of these lives. -/
theorem Run.lifecycle (baseDir : Path) (token : Token) (p : Process)
    (happenings : List Happening) :
    let start := Life.start baseDir token p
    let now := start.acts happenings
    (∃ m n k, (start.moments happenings).map (·.run.monitor.state) =
        List.replicate (m + 1) .running ++ List.replicate n .cancelling ++
          List.replicate k .exited) ∧
      Lifecycle baseDir p happenings now ∧
      (∀ status : ExitStatus, status.code? = none ↔ ∃ number, status = .signal number) ∧
      (∀ token' happenings',
        happenings'.filter (·.isCallers) = happenings.filter (·.isCallers) →
          ((Life.start baseDir token' p).acts happenings').events = now.events) ∧
      (∀ ending, p.ending? happenings = some ending →
        ∃ more, (∀ h ∈ more, h = .finish ∨ h = .turn ∨ h = .watch) ∧
          ∃ answer, (now.acts more).phase = .answered answer) ∧
      ∀ requests, ∃ happenings',
        start.acts happenings' =
          { run := ((Run.ofProcess baseDir token p).finishAfter requests).2,
            phase := .answered ((Run.ofProcess baseDir token p).finishAfter requests).1,
            events := (Run.ofProcess baseDir token p).allEvents requests } := by
  intro start now
  have hsound : Life.Sound baseDir token p happenings now := Life.sound_acts ..
  have hbegan := Life.precedes_acts baseDir token p happenings
  refine ⟨?_, Life.lifecycle_of_sound hsound hbegan, fun status => ?_, ?_, ?_,
    Life.exists_acts_finish baseDir token p⟩
  -- The states follow one another, and the first of them is running.
  · have hchain := start.isChain_states happenings
    obtain ⟨later, hmoments⟩ : ∃ later, start.moments happenings = start :: later := by
      cases happenings <;> exact ⟨_, rfl⟩
    rw [hmoments] at hchain ⊢
    exact RunState.exists_replicate_of_running hchain
  · cases status <;> simp [ExitStatus.code?]
  · intro token' happenings' hsame
    -- Both lives are compared with the one in which nothing but the caller acts.
    have hstart : Life.Alike (.start baseDir token' p) start := ⟨⟨rfl, rfl, rfl⟩, rfl, rfl⟩
    have halike := hstart.acts happenings'
    rw [hsame] at halike
    exact (halike.trans ((Life.Alike.refl start).acts happenings).symm).events_eq
  · intro ending hended
    exact now.exists_acts_answered hsound.truthful (hsound.ending?_eq.trans hended)

end Buildwatch
