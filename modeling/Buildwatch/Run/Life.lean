import Buildwatch.Run.Basic

/-!
# The life of a run

A run shares its time with its process, with the watcher of that, with the caller who takes its
events and its result, and with whoever fires the token. What these do comes in any order, one
thing at a time. The output of the process arrives as the reads of its pipes tell.
-/

namespace Buildwatch

/-- What can happen to a run. -/
inductive Happening
  /-- The caller goes on: asks for an event, or waits for the result. -/
  | turn
  /-- The caller has enough of the events, and begins to wait for the result. -/
  | finish
  | watch
  /-- The process ends. Nothing happens if it has ended before. -/
  | exit (ending : Ending)
  | cancel
  deriving DecidableEq, Repr

/-- How far the caller has come. -/
inductive Phase
  | asking
  /-- The events that are left are taken, and dropped. -/
  | draining
  /-- Both pipes have ended, but the exit is not known yet. -/
  | waiting
  | answered (answer : Except RunError BuildResult)

structure Life where
  run : Run
  phase : Phase := .asking
  /-- The events that have left the run. -/
  events : List BuildEvent := []

namespace Life

def start (baseDir : Path) (token : Token) (p : Process) : Life :=
  { run := .ofProcess baseDir token p }

/-- Takes the next event, if there is one by now. -/
def ask (l : Life) : Polled Empty BuildEvent × Life :=
  let (answer, run) := l.run.poll
  (answer, { l with run, events := l.events ++ answer.item?.toList })

/-- What the caller does in one go, without waiting for anybody. -/
def turn (l : Life) : Life :=
  match l.phase with
  | .asking => l.ask.2
  | .draining =>
    match l.ask with
    -- From the last event to the wait for the exit nobody else comes in between.
    | (.ended, l) => { l with run := l.run.heed, phase := .waiting }
    | (_, l) => l
  | .waiting =>
    match l.run.watcher.report with
    | some ending =>
      let (answer, run) := l.run.settle ending
      { l with run, phase := .answered answer }
    | none => l
  | .answered _ => l

/-- The run is finished once; after that the caller has no events to ask for. -/
def finish (l : Life) : Life :=
  match l.phase with
  | .asking => { l with phase := .draining }
  | _ => l

def act (l : Life) : Happening → Life
  | .turn => l.turn
  | .finish => l.finish
  | .watch => { l with run := l.run.watch }
  | .exit ending => { l with run := { l.run with watcher := l.run.watcher.ends ending } }
  | .cancel => { l with run := l.run.cancel }

def acts (l : Life) (happenings : List Happening) : Life := happenings.foldl act l

end Life

end Buildwatch
