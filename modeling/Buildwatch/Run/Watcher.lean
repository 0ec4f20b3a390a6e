import Buildwatch.Run.Process
import Buildwatch.Run.Token

/-!
# The exit watcher

A task of its own waits for the process of a run and reports its end, once. It also looks at the
token: if that fires while the process is running, the process is told to terminate, and the
watcher goes on waiting.
-/

namespace Buildwatch

/-- A signal of the watcher to its process. -/
inductive Signal
  /-- Asks all processes of the group to end. -/
  | terminateGroup
  | terminate
  | kill
  deriving DecidableEq, Repr

/-- The signals that end a process, each of which is sent whether or not those before it arrive. -/
def Signal.termination : List Signal := [.terminateGroup, .terminate, .kill]

structure Watcher where
  /-- The exit of the process that is waited for. -/
  exit : Exit
  /-- The signals that were sent. -/
  sent : List Signal := []
  /-- What was reported of the end. -/
  report : Option Ending := none
  deriving DecidableEq, Repr

namespace Watcher

/-- One turn of the watcher, with the token that is left. -/
def turn (w : Watcher) (token : Token) : Watcher × Token :=
  if w.report.isSome then (w, token)
  else
    match w.exit.ending? with
    -- The process comes first: one that has ended is not told to terminate.
    | some ending => ({ w with report := some ending }, token)
    | none =>
      if w.sent = [] then
        let (fired, token) := token.look
        (if fired then { w with sent := Signal.termination } else w, token)
      -- Once the signals are sent, nothing is left to do but to wait.
      else (w, token)

def tick (w : Watcher) : Watcher := { w with exit := w.exit.tick }

/-- The process ends, unless it has ended before. -/
def ends (w : Watcher) (ending : Ending) : Watcher :=
  if w.exit.delay = 0 then w else { w with exit := { ending } }

/-- The turns that it takes until the end is reported, if there is time between them. -/
def rank (w : Watcher) : Nat := if w.report.isSome then 0 else w.exit.delay + 1

theorem rank_turn (w : Watcher) (token : Token) (h : w.report = none) :
    (w.turn token).1.tick.rank < w.rank := by
  obtain ⟨⟨delay, ending⟩, sent, report⟩ := w
  cases h
  cases delay with
  | zero => simp [turn, tick, rank, Exit.ending?]
  | succ delay =>
    by_cases hsent : sent = []
    · cases hlook : token.look.1 <;> simp [turn, tick, rank, Exit.ending?, Exit.tick, hsent, hlook]
    · simp [turn, tick, rank, Exit.ending?, Exit.tick, hsent]

end Watcher

end Buildwatch
