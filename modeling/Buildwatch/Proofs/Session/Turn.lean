import Buildwatch.Proofs.Run.Token
import Buildwatch.Proofs.Session.History

/-!
# The turns of a session

Everything that a session does is a turn from one history to the next: a step is launched, its
run is asked, its result is collected, or the session comes to its end. Turns follow one
another.
-/

namespace Buildwatch

/-! ## Sessions at rest -/

namespace Session

variable {ω : Type} [Host ω]

omit [Host ω] in
/-- Whether no further step can start: none is left, or the token has fired. -/
def isBarred (s : Session ω) : Bool :=
  match s.current with
  | none => s.steps.isEmpty || s.token.isFired
  | some (_, run) => run.token.isFired

omit [Host ω] in
theorem isBarred_cancel (s : Session ω) : s.cancel.isBarred = true := by
  obtain ⟨_, _, current, _, _, _⟩ := s
  cases current <;> simp [cancel, isBarred, Run.cancel, Token.fired, Token.isFired]

variable {start s : Session ω} {past : List (Episode × BuildResult)}

theorem Passes.options_eq (h : start.Passes past s) : s.options = start.options := by
  induction h with
  | start => rfl
  | step _ _ _ _ _ ih => exact ih

theorem Passes.current_eq (h : start.Passes past s) (hstart : start.current = none) :
    s.current = none := by
  cases h with
  | start => exact hstart
  | step => rfl

theorem Passes.result_eq (h : start.Passes past s) (hstart : start.result = none) :
    s.result = past.getLast?.map (·.2) := by
  cases h with
  | start => exact hstart
  | step => simp [resume]

/-- The steps that have passed come first, those that are left follow. -/
theorem Passes.steps_eq (h : start.Passes past s) :
    start.steps = past.map (·.1.step) ++ s.steps := by
  induction h with
  | start => rfl
  | step _ begins _ _ _ ih => simp [ih, begins.steps_eq, resume]

/-! ## Turns -/

/-- Whether a session gives these answers while its history goes on from `h` to `h'`. -/
structure Turn (start : Session ω) (h : History) (now : Session ω)
    (answers : List (Polled RunError BuildEvent)) (h' : History) (now' : Session ω) : Prop where
  tells : h'.Tells start now'
  events_eq : h'.events start.options = h.events start.options ++ answers.filterMap Polled.item?
  failures_eq : h'.stage.failure?.toList =
    h.stage.failure?.toList ++ answers.filterMap Polled.failure?
  ended : .ended ∈ answers → h'.stage.isOver = true
  launched : h.launched <+: h'.launched
  fixed : h.stage.isOver = true → h' = h
  barred : now.isBarred = true → now'.isBarred = true ∧ h'.launched = h.launched

namespace Turn

variable {h h' h'' : History} {now now' now'' : Session ω}
  {answers answers' : List (Polled RunError BuildEvent)}

theorem refl (tells : h.Tells start now) : Turn start h now [] h now where
  tells := tells
  events_eq := by simp
  failures_eq := by simp
  ended := by simp
  launched := List.prefix_refl _
  fixed _ := rfl
  barred hbarred := ⟨hbarred, rfl⟩

/-- A turn in which nothing happens. -/
theorem still (tells : h.Tells start now') {answer : Polled RunError BuildEvent}
    (hitem : answer.item? = none) (hfailure : answer.failure? = none)
    (hended : answer = .ended → h.stage.isOver = true)
    (hbarred : now.isBarred = true → now'.isBarred = true) :
    Turn start h now [answer] h now' where
  tells := tells
  events_eq := by simp [hitem]
  failures_eq := by simp [hfailure]
  ended hmem := hended (List.mem_singleton.1 hmem).symm
  launched := List.prefix_refl _
  fixed _ := rfl
  barred h := ⟨hbarred h, rfl⟩

theorem trans (t : Turn start h now answers h' now')
    (t' : Turn start h' now' answers' h'' now'') :
    Turn start h now (answers ++ answers') h'' now'' where
  tells := t'.tells
  events_eq := by rw [t'.events_eq, t.events_eq, List.filterMap_append, List.append_assoc]
  failures_eq := by rw [t'.failures_eq, t.failures_eq, List.filterMap_append, List.append_assoc]
  ended hmem := by
    obtain hmem | hmem := List.mem_append.1 hmem
    · rw [t'.fixed (t.ended hmem)]
      exact t.ended hmem
    · exact t'.ended hmem
  launched := t.launched.trans t'.launched
  fixed hover := by
    obtain rfl := t.fixed hover
    exact t'.fixed hover
  barred hbarred := by
    obtain ⟨hbarred', hlaunched⟩ := t.barred hbarred
    exact ⟨(t'.barred hbarred').1, (t'.barred hbarred').2.trans hlaunched⟩

end Turn

/-! ## Single turns -/

variable {e : Episode} {later : List Step} {host : ω}

/-- The next step is launched. -/
theorem turn_launch (hstart : start.current = none) (hpast : start.Passes past s)
    (begins : s.Begins e later host) (hnew : e.requests = []) :
    Turn start ⟨past, .waiting⟩ s [] ⟨past, .running e⟩
      (s.during e later s.token.look.2 host) where
  tells := ⟨s, hpast, .running begins _⟩
  events_eq := by simp [Episode.events, hnew, Run.serveAll]
  failures_eq := rfl
  ended := by simp
  launched := by simp
  fixed hover := by cases hover
  barred hbarred := by
    simp [isBarred, hpast.current_eq hstart, begins.steps_eq, begins.not_fired] at hbarred

/-- The running step is asked for something, and goes on. -/
theorem turn_ask (hpast : start.Passes past s) (begins : s.Begins e later host)
    (token token' : Token) {request : Request} {answer : Polled RunError BuildEvent}
    (hserve : ((e.now s.options).serve request).1 = answer.item?.toList)
    (hfired : (e.now s.options).token.isFired = true →
      ((e.now s.options).serve request).2.token.isFired = true)
    (hended : answer ≠ .ended) (hfailure : answer.failure? = none) :
    Turn start ⟨past, .running e⟩ (s.during e later token host) [answer]
      ⟨past, .running (e.ask request)⟩ (s.during (e.ask request) later token' host) where
  tells := ⟨s, hpast, .running (begins.ask request) token'⟩
  events_eq := by
    rw [← hpast.options_eq]
    cases hitem : answer.item? <;> simp [Episode.events_ask, hserve, hitem]
  failures_eq := by simp [Stage.failure?, hfailure]
  ended hmem := absurd (List.mem_singleton.1 hmem).symm hended
  launched := by simp
  fixed hover := by cases hover
  barred hbarred := by
    refine ⟨?_, by simp⟩
    simp only [isBarred, during, Episode.now_ask]
    exact hfired hbarred

/-- The running step has passed. -/
theorem turn_collect (hpast : start.Passes past s)
    (begins : s.Begins e later host) (token : Token) {result : BuildResult}
    (hended : (e.now s.options).poll.1 = .ended)
    (houtcome : (e.ask .poll).outcome s.options = .ok result)
    (succeeded : e.step.kind = .prepare → result.succeeded = true) :
    Turn start ⟨past, .running e⟩ (s.during e later token host) []
      ⟨past ++ [(e.ask .poll, result)], .waiting⟩
      (s.resume (e.ask .poll) later host result) where
  tells := ⟨_, .step hpast (begins.ask .poll) (e.isDrained_of_ended _ hended) houtcome succeeded,
    .waiting⟩
  events_eq := by
    rw [← hpast.options_eq]
    simp [Episode.events_ask_of_ended e _ hended]
  failures_eq := rfl
  ended := by simp
  launched := by simp
  fixed hover := by cases hover
  barred hbarred := by
    have hfired : ((e.ask .poll).now s.options).token.isFired = true := by
      rw [Episode.now_ask]
      exact Run.isFired_poll hbarred
    refine ⟨?_, by simp⟩
    simp [isBarred, resume, Episode.tokenLeft, Run.isFired_finish hfired]

/-- The session comes to its end. -/
theorem turn_end (hpast : start.Passes past s) {stage stage' : Stage} {now now' : Session ω}
    {answer : Polled RunError BuildEvent} (hgoing : stage.isOver = false)
    (stands : s.Stands stage' now') (hover : stage'.isOver = true)
    (hsteps : stage'.episode?.map (·.step) = stage.episode?.map (·.step))
    (hevents : stage'.episode?.elim [] (·.events start.options) =
      stage.episode?.elim [] (·.events start.options))
    (hitem : answer.item? = none) (hfailure : stage'.failure? = answer.failure?)
    (hbarred : now'.isBarred = true) :
    Turn start ⟨past, stage⟩ now [answer] ⟨past, stage'⟩ now' where
  tells := ⟨s, hpast, stands⟩
  events_eq := by simp [hevents, hitem]
  failures_eq := by
    have hnone : stage.failure? = none := by cases stage <;> first | rfl | cases hgoing
    cases h : answer.failure? <;> simp [hfailure, hnone, h]
  ended _ := hover
  launched := by simp [hsteps]
  fixed hover := by rw [hgoing] at hover; cases hover
  barred _ := ⟨hbarred, by simp [hsteps]⟩

end Session

end Buildwatch
