import Buildwatch.Run.Basic

/-!
# Sessions

A session takes the steps of a build one after the other. A step starts when the one
before it has ended and all its events are handed out. After a failed preparation,
a failed launch or a cancellation no further step starts.
-/

namespace Buildwatch

/-- A build in progress on a host `ω`. -/
structure Session (ω : Type) where
  steps : List Step
  options : SpawnOptions
  current : Option (StepKind × Run) := none
  /-- The result of the last step that ended, or of the cancellation. -/
  result : Option BuildResult := none
  token : Token
  host : ω

namespace Session

variable {ω : Type}

/-- Whether the last step, or the running one, has reported an error. -/
def hasError (s : Session ω) : Bool :=
  s.result.any (·.hasError) || s.current.any (·.2.hasError)

def cancel (s : Session ω) : Session ω :=
  { s with token := .fired, current := s.current.map fun (kind, run) => (kind, run.cancel) }

/-- Stores the result of a step that has ended; after a failed preparation the other
steps are given up. -/
def complete (s : Session ω) (kind : StepKind) (run : Run) (result : BuildResult) : Session ω :=
  { s with
    current := none
    result := some result
    token := run.token
    steps := if kind = .prepare && !result.succeeded then [] else s.steps }

/-- Gives up the remaining steps because of an error. -/
def abandon (s : Session ω) : Session ω := { s with steps := [], current := none }

/-- Ends the session because the token has fired before a step. -/
def interrupt (s : Session ω) : Session ω :=
  { s with
    steps := []
    result := some { exitCode := none, hasError := s.result.any (·.hasError) } }

variable [Host ω]

/-- Starts steps until one has an event, while no run is going on. -/
def advance (s : Session ω) : List Step → Polled RunError BuildEvent × Session ω
  -- Nothing is left to do, also for a builder without steps.
  | [] => (.ended, { s with steps := [], current := none })
  | step :: steps =>
    let (fired, token) := s.token.look
    let s := { s with token, steps, current := none }
    -- The token counts before a launch only; a running step hears of it on its own.
    if fired then (.ended, s.interrupt)
    else
      match Host.spawn s.options step.invocation s.host with
      | (.error e, host) => (.failed e, { s with host }.abandon)
      | (.ok process, host) =>
        let s := { s with host }
        match (Run.ofProcess s.options.directory token process).poll with
        | (.item event, run) => (.item event, { s with current := some (step.kind, run) })
        | (.ended, run) =>
          match run.finish with
          | (.error e, _) => (.failed e, s.abandon)
          | (.ok result, run) =>
            let s := s.complete step.kind run result
            -- The step has ended without an event, so the next one may start in the same go.
            if s.steps = [] then (.ended, s) else advance s steps
        | (_, run) => (.pending, { s with current := some (step.kind, run) })

def poll (s : Session ω) : Polled RunError BuildEvent × Session ω :=
  match s.current with
  | none => s.advance s.steps
  | some (kind, run) =>
    match run.poll with
    | (.item event, run) => (.item event, { s with current := some (kind, run) })
    | (.ended, run) =>
      match run.finish with
      -- What the run has counted is lost with it.
      | (.error e, _) => (.failed e, s.abandon)
      | (.ok result, run) =>
        let s := s.complete kind run result
        s.advance s.steps
    | (_, run) => (.pending, { s with current := some (kind, run) })

/-! ## Every session ends -/

/-- The steps to start, with one more half-step for a running one, and what the
running one has still to say. -/
def rank (s : Session ω) : Nat × Option (FiniteSource.Rank Run) :=
  (2 * s.steps.length + s.current.toList.length, s.current.map (·.2.rank))

omit [Host ω] in
theorem length_steps_complete (s : Session ω) (kind : StepKind) (run : Run) (r : BuildResult) :
    (s.complete kind run r).steps.length ≤ s.steps.length := by
  simp only [complete]; split <;> simp

theorem rank_advance (s : Session ω) (steps : List Step) (h : (s.advance steps).1 ≠ .ended) :
    (rank (s.advance steps).2).1 < 2 * steps.length := by
  fun_induction advance s steps <;> simp_all +zetaDelta [rank, abandon] <;> omega

omit [Host ω] in
/-- While a run goes on, its own rank falls. -/
theorem rank_current (s : Session ω) (kind : StepKind) (run run' : Run)
    (hc : s.current = some (kind, run))
    (h : (FiniteSource.order (σ := Run)).rel run'.rank run.rank) :
    Prod.Lex (· < ·) (OptionLT (FiniteSource.order (σ := Run)).rel)
      (rank { s with current := some (kind, run') }) (rank s) := by
  simp only [rank, hc]
  exact Prod.Lex.right _ h

theorem rank_poll (s : Session ω) (h : s.poll.1 ≠ .ended) :
    Prod.Lex (· < ·) (OptionLT (FiniteSource.order (σ := Run)).rel) (rank s.poll.2) (rank s) := by
  rcases hc : s.current with _ | ⟨kind, run⟩
  · simp only [poll, hc] at h ⊢
    exact Prod.Lex.left _ _ (by simpa [rank, hc] using rank_advance s s.steps h)
  · have hr : run.poll.1 ≠ .ended →
        (FiniteSource.order (σ := Run)).rel run.poll.2.rank run.rank :=
      FiniteSource.rank_poll run
    rcases hp : run.poll with ⟨answer, run'⟩
    simp only [hp] at hr
    cases answer with
    | pending => simpa only [poll, hc, hp] using rank_current s kind run run' hc (hr (by simp))
    | item e => simpa only [poll, hc, hp] using rank_current s kind run run' hc (hr (by simp))
    | failed e => exact e.elim
    | ended =>
      rcases hf : run'.finish with ⟨_ | result, run''⟩ <;> simp only [poll, hc, hp, hf] at h ⊢
      · exact Prod.Lex.left _ _ (by simp [abandon, hc])
      · have h₁ := rank_advance _ _ h
        have h₂ := length_steps_complete s kind run'' result
        exact Prod.Lex.left _ _ <| by
          simp only [rank, hc, Option.toList, List.length_cons] at h₁ ⊢
          omega

instance : FiniteSource (Session ω) RunError BuildEvent where
  poll := poll
  Rank := Nat × Option (FiniteSource.Rank Run)
  order := Prod.lex Nat.lt_wfRel ⟨_, OptionLT.wf FiniteSource.order.wf⟩
  rank := rank
  rank_poll := rank_poll

omit [Host ω] in
theorem rank_cancel (s : Session ω) : rank s.cancel = rank s := by
  obtain ⟨_, _, current, _, _, _⟩ := s
  cases current <;> simp [cancel, rank, Run.cancel, Run.rank]

/-! ## The end of a session -/

/-- Runs the session to its end and gives its result, or the first failure. -/
def finish (s : Session ω) : Except RunError BuildResult × Session ω :=
  match Source.drain s with
  | (_, some e, s) => (.error e, s)
  | (_, none, s) => (.ok (s.result.getD .success), s)

end Session

end Buildwatch
