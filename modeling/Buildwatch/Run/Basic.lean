import Buildwatch.Output.Merger
import Buildwatch.Run.Event
import Buildwatch.Run.State
import Buildwatch.Run.Watcher

/-!
# Runs

A run supervises one process. It merges the blocks of the two pipes, turns each
into events, counts them, and gives the result when both pipes have ended and the exit watcher has
reported. A cancelled run still hands out everything that arrives.
-/

namespace Buildwatch

/-! ## Blocks of a pipe -/

/-- A reader whose blocks carry the pipe that they come from. -/
structure PipeReader (ε : Type) where
  origin : Origin
  reader : Reader ε

namespace PipeReader

variable {ε : Type} [Interruptible ε]

/-- The next block of the pipe. -/
def poll (p : PipeReader ε) : Polled ε OutputBlock × PipeReader ε :=
  let (answer, reader) := p.reader.poll
  (answer.map (OutputBlock.mk p.origin), { p with reader })

theorem rank_poll (p : PipeReader ε) (h : p.poll.1 ≠ .ended) :
    Prod.Lex (· < ·) (· < ·) (Reader.rank p.poll.2.reader) (Reader.rank p.reader) :=
  Reader.rank_poll p.reader fun h' => h (by simp [poll, h', Polled.map])

instance : FiniteSource (PipeReader ε) ε OutputBlock where
  poll := poll
  Rank := Nat × Nat
  order := inferInstance
  rank p := Reader.rank p.reader
  rank_poll := rank_poll

end PipeReader

/-! ## The run -/

abbrev Run.Output := Merger (PipeReader IoError) (PipeReader IoError)

/-- A run of a build tool. -/
structure Run where
  /-- The directory that relative file names in messages are seen from. -/
  baseDir : Path
  output : Run.Output
  /-- Events that are ready to be handed out. -/
  queue : List BuildEvent
  monitor : Monitor
  token : Token
  watcher : Watcher

namespace Run

/-- The run of a process that has just been launched. -/
def ofProcess (baseDir : Path) (token : Token) (p : Process) : Run where
  baseDir
  output := .of ⟨.stdout, .ofReads .fresh p.stdout⟩ ⟨.stderr, .ofReads .fresh p.stderr⟩
  queue := []
  monitor := Monitor.transition {} .running
  token
  watcher := { exit := p.exit }

def hasError (r : Run) : Bool := r.monitor.hasError

def cancel (r : Run) : Run := { r with token := .fired }

/-- Counts a block and puts its events into the queue. -/
def take (r : Run) (block : OutputBlock) : Run :=
  -- The counters go up now, not when somebody takes the events.
  let events := BuildEvent.ofBlock r.baseDir block
  let monitor := ((events.filterMap BuildEvent.diagnostic?).map (·.severity)).foldl
    Monitor.recordDiagnostic r.monitor.recordBlock
  { r with queue := r.queue ++ events, monitor }

/-- While the run is going on, looks at the token first. -/
def heed (r : Run) : Run :=
  if r.monitor.state = .running then
    let (fired, token) := r.token.look
    { r with token, monitor := if fired then r.monitor.transition .cancelling else r.monitor }
  else r

def pop (r : Run) : Polled Empty BuildEvent × Run :=
  match r.queue with
  | event :: queue => (.item event, { r with queue })
  | [] => (.pending, r)

/-- Hands out the next event. -/
def poll (r : Run) : Polled Empty BuildEvent × Run :=
  if r.queue ≠ [] then r.pop
  else
    -- The token goes before the pipes, but what has been read already goes before the token.
    let r := r.heed
    match r.output.poll with
    | (.item block, output) => (take { r with output } block).pop
    | (.ended, output) => (.ended, { r with output })
    -- A failing pipe does not show: the merger drops it.
    | (_, output) => (.pending, { r with output })

/-! ## Every run ends -/

/-- What the pipes still hold, then the events that are ready. -/
def rank (r : Run) :
    FiniteSource.Rank Output × Nat :=
  (r.output.rank, r.queue.length)

theorem output_heed (r : Run) : r.heed.output = r.output := by
  unfold heed; split <;> rfl

theorem rank_pop (r : Run) (h : r.queue ≠ []) :
    r.pop.2.output = r.output ∧ r.pop.2.queue.length < r.queue.length := by
  unfold pop
  split <;> simp_all

theorem output_pop (r : Run) : r.pop.2.output = r.output := by
  unfold pop; split <;> rfl

theorem rank_poll (r : Run) (h : r.poll.1 ≠ .ended) :
    Prod.Lex (FiniteSource.order (σ := Output)).rel (· < ·)
      (rank r.poll.2) (rank r) := by
  by_cases hq : r.queue ≠ []
  · obtain ⟨h₁, h₂⟩ := rank_pop r hq
    simp only [poll, hq, not_false_eq_true, ↓reduceIte, ne_eq, rank, h₁]
    exact Prod.Lex.right _ h₂
  · have hm := Merger.rank_poll r.heed.output
    rw [output_heed r] at hm
    rcases ho : r.output.poll with ⟨answer, output⟩
    have he : r.heed.output.poll = (answer, output) := by rw [output_heed, ho]
    cases answer <;>
      simp_all [poll, rank, output_pop, take] <;>
      exact Prod.Lex.left _ _ hm

instance : FiniteSource Run Empty BuildEvent where
  poll := poll
  Rank := FiniteSource.Rank Output × Nat
  order := Prod.lex (FiniteSource.order (σ := Output)) Nat.lt_wfRel
  rank := rank
  rank_poll := rank_poll

/-! ## The end of a run -/

/-- Lets the watcher take a turn. -/
def watch (r : Run) : Run :=
  let (watcher, token) := r.watcher.turn r.token
  { r with watcher, token }

def tick (r : Run) : Run := { r with watcher := r.watcher.tick }

/-- Waits for the report of the watcher. -/
def await (r : Run) : Ending × Run :=
  match _h : r.watcher.report with
  | some ending => (ending, r)
  -- Each turn of the watcher takes some time, in which the process may end.
  | none => await r.watch.tick
termination_by r.watcher.rank
decreasing_by exact r.watcher.rank_turn r.token _h

/-- The result of a run whose process has ended. -/
def settle (r : Run) : Ending → Except RunError BuildResult × Run
  | .exited status =>
    let r := { r with monitor := r.monitor.transition .exited }
    (.ok { exitCode := status.code?, hasError := r.hasError }, r)
  | .lost e => (.error (.wait e), r)
  | .unwatched => (.error .watcherGone, r)

/-- Waits for the end of the run and gives its result. Events that nobody took are
counted all the same. -/
def finish (r : Run) : Except RunError BuildResult × Run :=
  let (_, _, r) := Source.drain r
  -- Once the pipes have ended nobody looks at the token any more but here.
  let (ending, r) := r.heed.await
  r.settle ending

end Run

end Buildwatch
