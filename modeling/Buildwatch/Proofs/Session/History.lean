import Buildwatch.Session
import Buildwatch.Proofs.Run.ErrorFlag

/-!
# The history of a session

What a session has done so far: the steps that have passed, each launched after the one before
it had ended, and how the session stands now. A history tells the state of the session, the
events that it has handed out and the result that it has in the end.
-/

namespace Buildwatch

/-- The failure of an answer. -/
def Polled.failure? {ε α : Type} : Polled ε α → Option ε
  | .failed e => some e
  | _ => none

/-! ## One step -/

/-- A step that was launched. -/
structure Episode where
  step : Step
  process : Process
  /-- The token when the step was about to start. -/
  token : Token
  /-- What was asked of the run since then. -/
  requests : List Request

namespace Episode

variable (e : Episode) (options : SpawnOptions)

/-- The run of the step at its start, which is after one look at the token. -/
def start : Run := .ofProcess options.directory e.token.look.2 e.process

/-- The run of the step as it is now. -/
def now : Run := ((e.start options).serveAll e.requests).2

/-- The events that were handed out. -/
def events : List BuildEvent := ((e.start options).serveAll e.requests).1

/-- What collecting the exit of the process brings. -/
def outcome : Except RunError BuildResult := (e.now options).finish.1

/-- The token that is left when the exit has been collected. -/
def tokenLeft : Token := (e.now options).finish.2.token

/-- Whether all that the process has written was handed out. -/
def IsDrained : Prop := ∀ origin, eventsFrom origin (e.events options) =
  (pipeBlocks origin (e.process.pipe origin)).flatMap (BuildEvent.ofBlock options.directory)

/-- The episode with one more request. -/
def ask (request : Request) : Episode := { e with requests := e.requests ++ [request] }

@[simp] theorem step_ask (request : Request) : (e.ask request).step = e.step := rfl

theorem now_ask (request : Request) :
    (e.ask request).now options = ((e.now options).serve request).2 := by
  have hserve := (e.start options).serveAll_concat e.requests request
  exact congrArg (·.2) hserve

theorem events_ask (request : Request) :
    (e.ask request).events options = e.events options ++ ((e.now options).serve request).1 := by
  have hserve := (e.start options).serveAll_concat e.requests request
  exact congrArg (·.1) hserve

/-- A poll that finds the end adds no event. -/
theorem events_ask_of_ended (h : (e.now options).poll.1 = .ended) :
    (e.ask .poll).events options = e.events options := by
  simp [events_ask, Run.serve, h, Polled.item?]

/-- A run at its end has handed out everything. -/
theorem isDrained_of_ended (h : (e.now options).poll.1 = .ended) :
    (e.ask .poll).IsDrained options := by
  intro origin
  -- Its events and those still to come are all of the pipe, and none is still to come.
  have hevents : eventsFrom origin
      ((e.ask .poll).events options ++ Source.items ((e.ask .poll).now options)) = _ :=
    Run.eventsFrom_allEvents options.directory e.token.look.2 e.process
      (e.ask .poll).requests origin
  obtain ⟨hqueue, hgone⟩ := (e.now options).queue_of_ended h
  have hitems : Source.items ((e.ask .poll).now options) = [] := by
    rw [now_ask]
    exact Run.items_eq_nil hqueue hgone
  rwa [hitems, List.append_nil] at hevents

theorem outcome_eq : e.outcome options =
    e.process.exit.ending.answer (e.now options).finish.2.hasError :=
  Run.finishAfter_eq options.directory e.token.look.2 e.process e.requests

/-- The result of a step has the exit code of its process. -/
theorem exit_of_outcome_ok {result : BuildResult} (h : e.outcome options = .ok result) :
    ∃ status, e.process.exit.ending = .exited status ∧ result.exitCode = status.code? := by
  rw [outcome_eq] at h
  cases hending : e.process.exit.ending <;> rw [hending] at h <;> cases h
  exact ⟨_, rfl, rfl⟩

theorem exit_of_outcome_error {error : RunError} (h : e.outcome options = .error error)
    (status : ExitStatus) : e.process.exit.ending ≠ .exited status := by
  rw [outcome_eq] at h
  rintro hending
  rw [hending] at h
  cases h

end Episode

/-! ## Steps that have passed -/

namespace Session

variable {ω : Type} [Host ω]

/-- Whether a session at rest goes on with this step: it is the next one, the token has not
fired, and the host launches its program. -/
structure Begins (s : Session ω) (e : Episode) (later : List Step) (host : ω) : Prop where
  steps_eq : s.steps = e.step :: later
  token_eq : e.token = s.token
  not_fired : s.token.isFired = false
  launch_eq : Host.spawn s.options e.step.invocation s.host = (.ok e.process, host)

theorem Begins.ask {s : Session ω} {e : Episode} {later : List Step} {host : ω}
    (h : s.Begins e later host) (request : Request) : s.Begins (e.ask request) later host :=
  ⟨h.steps_eq, h.token_eq, h.not_fired, h.launch_eq⟩

omit [Host ω] in
/-- The session while a step is running. The run has the token; the copy of the session plays no
part until the run gives it back. -/
def during (s : Session ω) (e : Episode) (later : List Step) (token : Token) (host : ω) :
    Session ω :=
  { s with steps := later, current := some (e.step.kind, e.now s.options), token, host }

omit [Host ω] in
/-- The session at rest again when the result of a step has been collected. -/
def resume (s : Session ω) (e : Episode) (later : List Step) (host : ω) (result : BuildResult) :
    Session ω :=
  { s with
    steps := later, current := none, result := some result
    token := e.tokenLeft s.options, host }

/-- The steps that pass while a session goes from rest to rest. Each is launched when the one
before it has handed out all its events and its result has been collected, unless that was
the result of a failed preparation. -/
inductive Passes (start : Session ω) : List (Episode × BuildResult) → Session ω → Prop
  | start : Passes start [] start
  | step {past : List (Episode × BuildResult)} {s : Session ω} {e : Episode} {later : List Step}
      {host : ω} {result : BuildResult} (passes : Passes start past s)
      (begins : s.Begins e later host) (drained : e.IsDrained s.options)
      (outcome_eq : e.outcome s.options = .ok result)
      (succeeded : e.step.kind = .prepare → result.succeeded = true) :
      Passes start (past ++ [(e, result)]) (s.resume e later host result)

end Session

/-! ## How a session stands -/

/-- How a session stands after the steps that have passed. -/
inductive Stage
  /-- It has not been asked for anything yet. -/
  | waiting
  | running (e : Episode)
  /-- No step is left. -/
  | finished
  /-- A preparation has failed. -/
  | aborted (e : Episode) (result : BuildResult)
  /-- The token had fired before the next step. -/
  | stopped
  /-- The next step could not be launched. -/
  | refused (step : Step) (error : RunError)
  /-- The exit of a step could not be learnt. -/
  | lost (e : Episode) (error : RunError)

namespace Stage

/-- The step that was launched and has not passed. -/
def episode? : Stage → Option Episode
  | .running e | .aborted e _ | .lost e _ => some e
  | .waiting | .finished | .stopped | .refused .. => none

@[simp] theorem episode?_waiting : waiting.episode? = none := rfl

@[simp] theorem episode?_running (e : Episode) : (running e).episode? = some e := rfl

/-- The failure that ended the session. -/
def failure? : Stage → Option RunError
  | .refused _ error | .lost _ error => some error
  | .waiting | .running _ | .finished | .aborted .. | .stopped => none

/-- Whether nothing more happens. -/
def isOver : Stage → Bool
  | .waiting | .running _ => false
  | .finished | .aborted .. | .stopped | .refused .. | .lost .. => true

end Stage

namespace Session

variable {ω : Type} [Host ω]

/-- Whether a session that was at rest as `s` stands in this way now. Unless it waits, its own
token may be anything. -/
inductive Stands (s : Session ω) : Stage → Session ω → Prop
  | waiting : Stands s .waiting s
  | running {e : Episode} {later : List Step} {host : ω} (begins : s.Begins e later host)
      (token : Token) : Stands s (.running e) (s.during e later token host)
  | finished (steps_eq : s.steps = []) (token : Token) : Stands s .finished { s with token }
  | aborted {e : Episode} {later : List Step} {host : ω} {result : BuildResult}
      (begins : s.Begins e later host) (drained : e.IsDrained s.options)
      (outcome_eq : e.outcome s.options = .ok result) (kind_eq : e.step.kind = .prepare)
      (failed : result.succeeded = false) (token : Token) :
      Stands s (.aborted e result) { s with steps := [], result := some result, token, host }
  | stopped (steps_ne : s.steps ≠ []) (fired : s.token.isFired = true) (token : Token) :
      Stands s .stopped
        { s with steps := [], result := some ⟨none, s.result.any (·.hasError)⟩, token }
  | refused {step : Step} {later : List Step} {error : RunError} {host : ω}
      (steps_eq : s.steps = step :: later) (not_fired : s.token.isFired = false)
      (launch_eq : Host.spawn s.options step.invocation s.host = (.error error, host))
      (token : Token) :
      Stands s (.refused step error) { s with steps := [], token, host }
  | lost {e : Episode} {later : List Step} {host : ω} {error : RunError}
      (begins : s.Begins e later host) (drained : e.IsDrained s.options)
      (outcome_eq : e.outcome s.options = .error error) (token : Token) :
      Stands s (.lost e error) { s with steps := [], token, host }

end Session

/-- What a session has done so far. -/
structure History where
  past : List (Episode × BuildResult)
  stage : Stage

namespace History

variable (h : History)

/-- The history of a session that has not been asked for anything. -/
def empty : History := ⟨[], .waiting⟩

/-- All steps that were launched. -/
def episodes : List Episode := h.past.map (·.1) ++ h.stage.episode?.toList

def launched : List Step := h.episodes.map (·.step)

/-- The events that were handed out, step by step. -/
def events (options : SpawnOptions) : List BuildEvent := h.episodes.flatMap (·.events options)

@[simp] theorem launched_mk (past : List (Episode × BuildResult)) (stage : Stage) :
    launched ⟨past, stage⟩ = past.map (·.1.step) ++ (stage.episode?.map (·.step)).toList := by
  cases h : stage.episode? <;> simp [launched, episodes, h]

@[simp] theorem events_mk (past : List (Episode × BuildResult)) (stage : Stage)
    (options : SpawnOptions) :
    events ⟨past, stage⟩ options = past.flatMap (·.1.events options) ++
      stage.episode?.elim [] (·.events options) := by
  cases h : stage.episode? <;> simp [events, episodes, h, List.flatMap_map]

/-- The result of the last step that has passed. -/
def last? : Option BuildResult := h.past.getLast?.map (·.2)

/-- The result that the session has in the end: that of a failed preparation; without exit
code if the token stopped it; else that of the last step, if there is one. -/
def verdict : Except RunError BuildResult :=
  match h.stage with
  | .refused _ error | .lost _ error => .error error
  | .aborted _ result => .ok result
  | .stopped => .ok ⟨none, h.last?.any (·.hasError)⟩
  | .waiting | .running _ | .finished => .ok (h.last?.getD .success)

/-- Whether this is the history of the session `now` that was `start` when it was first asked
for something. The host is part of this: one that keeps a log of its launches shows that there
were no others. -/
def Tells {ω : Type} [Host ω] (start now : Session ω) : Prop :=
  ∃ s, start.Passes h.past s ∧ s.Stands h.stage now

/-- Whether a step is running, and this event is the last one that it has handed out. -/
def EndsIn (options : SpawnOptions) (event : BuildEvent) : Prop :=
  ∃ e, h.stage = .running e ∧ (e.events options).getLast? = some event

end History

end Buildwatch
