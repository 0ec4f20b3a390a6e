import Buildwatch.Proofs.Run.Advance

/-!
# Runs and their schedules

A run may be polled, cancelled and finished at any moment, and its pipes may deliver their
bytes in pieces of any size and at any pace. The blocks that it takes are the same for all
schedules; only how the two pipes mix differs.
-/

namespace Buildwatch

/-! ## The events of one pipe -/

/-- The pipe of the first message. -/
def originOf? : List BuildEvent → Option Origin
  | [] => none
  | .message block _ :: _ => some block.origin
  | .progress _ :: events => originOf? events

/-- The events that belong to one pipe; a progress belongs to the message that follows it. -/
def eventsFrom (origin : Origin) : List BuildEvent → List BuildEvent
  | [] => []
  | event :: events =>
    if originOf? (event :: events) = some origin then event :: eventsFrom origin events
    else eventsFrom origin events

/-- The events of one pipe are the events of its blocks. -/
theorem eventsFrom_flatMap (origin : Origin) (baseDir : Path) (blocks : List OutputBlock) :
    eventsFrom origin (blocks.flatMap (BuildEvent.ofBlock baseDir)) =
      (blocks.filter (·.origin = origin)).flatMap (BuildEvent.ofBlock baseDir) := by
  induction blocks with
  | nil => rfl
  | cons block blocks ih =>
    rw [List.flatMap_cons]
    by_cases h : block.origin = origin <;> cases hp : Progress.ofBlock? block.text <;>
      simp [BuildEvent.ofBlock, eventsFrom, originOf?, h, hp, ih]

/-! ## Requests -/

/-- What the caller of a run does before it finishes the run. -/
inductive Request
  /-- Looks for an event, without waiting for one. -/
  | poll
  /-- Waits for the next event. -/
  | next
  /-- Fires the token. -/
  | cancel
  deriving DecidableEq, Repr

/-- The reads of one pipe of a process. -/
def Process.pipe (p : Process) : Origin → List (Read IoError)
  | .stdout => p.stdout
  | .stderr => p.stderr

namespace Run

/-- The events that a request is answered with, and the run after it. -/
def serve (r : Run) : Request → List BuildEvent × Run
  | .poll => (r.poll.1.item?.toList, r.poll.2)
  | .next => ((Source.next r).1.item?.toList, (Source.next r).2)
  | .cancel => ([], r.cancel)

/-- The events that requests are answered with, and the run after them. -/
def serveAll (r : Run) : List Request → List BuildEvent × Run
  | [] => ([], r)
  | request :: requests =>
    ((r.serve request).1 ++ ((r.serve request).2.serveAll requests).1,
      ((r.serve request).2.serveAll requests).2)

/-- One more request is served after the others. -/
theorem serveAll_concat (r : Run) (requests : List Request) (request : Request) :
    r.serveAll (requests ++ [request]) =
      ((r.serveAll requests).1 ++ ((r.serveAll requests).2.serve request).1,
        ((r.serveAll requests).2.serve request).2) := by
  induction requests generalizing r with
  | nil => simp [serveAll]
  | cons first requests ih => simp [serveAll, ih]

/-- All events of a run: those that the requests bring, and those that nobody takes before
the run is finished. -/
def allEvents (r : Run) (requests : List Request) : List BuildEvent :=
  (r.serveAll requests).1 ++ Source.items (r.serveAll requests).2

/-- The end of a run that is finished after some requests. -/
def finishAfter (r : Run) (requests : List Request) : Except RunError BuildResult × Run :=
  (r.serveAll requests).2.finish

theorem advance_serve (r : Run) (request : Request) :
    ∃ taken, Advance r (r.serve request).1 taken (r.serve request).2 := by
  cases request with
  | poll => exact r.advance_poll
  | next => exact r.advance_next
  | cancel => exact ⟨[], r.advance_cancel⟩

theorem advance_serveAll (r : Run) (requests : List Request) :
    ∃ taken, Advance r (r.serveAll requests).1 taken (r.serveAll requests).2 := by
  induction requests generalizing r with
  | nil => exact ⟨[], .refl r⟩
  | cons request requests ih =>
    obtain ⟨taken, h⟩ := r.advance_serve request
    obtain ⟨taken', h'⟩ := ih (r.serve request).2
    exact ⟨taken ++ taken', h.trans h'⟩

/-- Serving requests leaves the process and its watcher alone. -/
theorem watcher_serveAll (r : Run) (requests : List Request) :
    (r.serveAll requests).2.watcher = r.watcher := by
  induction requests generalizing r with
  | nil => rfl
  | cons request requests ih =>
    have hserve : (r.serve request).2.watcher = r.watcher := by
      cases request with
      | poll => exact r.watcher_poll
      | next => exact r.watcher_next
      | cancel => rfl
    exact (ih (r.serve request).2).trans hserve

/-! ## The blocks of a whole run -/

/-- A finished run has taken all blocks of both pipes, handed out their events and counted
them, whatever its schedule was. -/
theorem exists_blocks (baseDir : Path) (token : Token) (p : Process)
    (requests : List Request) :
    let r := ofProcess baseDir token p
    ∃ blocks,
      Interleaving (pipeBlocks .stdout p.stdout)
        (pipeBlocks .stderr p.stderr) blocks ∧
      r.allEvents requests = blocks.flatMap (BuildEvent.ofBlock baseDir) ∧
      (r.finishAfter requests).2.monitor.tally = .ofSeverities (severities baseDir blocks) := by
  intro r
  -- The requests and the draining at the end are one advance, to a run with nothing left.
  obtain ⟨served, hserved⟩ := r.advance_serveAll requests
  obtain ⟨drained, hdrained, hqueue, hgone⟩ := (r.serveAll requests).2.advance_drain
  have h := hserved.trans hdrained
  refine ⟨served ++ drained, h.interleaving hgone, h.events_of_queue hqueue, ?_⟩
  rw [finishAfter, tally_finish]
  exact h.tally_of_start

/-- The events of one pipe are those of its blocks, whatever the schedule. -/
theorem eventsFrom_allEvents (baseDir : Path) (token : Token) (p : Process)
    (requests : List Request) (origin : Origin) :
    eventsFrom origin ((ofProcess baseDir token p).allEvents requests) =
      (pipeBlocks origin (p.pipe origin)).flatMap (BuildEvent.ofBlock baseDir) := by
  obtain ⟨blocks, hi, hevents, -⟩ := exists_blocks baseDir token p requests
  rw [hevents, eventsFrom_flatMap]
  congr 1
  -- Blocks know their pipe, so the interleaving can be taken apart again.
  cases origin with
  | stdout =>
    exact hi.filter_left _ (fun b hb => by simp [origin_of_mem_pipeBlocks hb])
      (fun b hb => by simp [origin_of_mem_pipeBlocks hb])
  | stderr =>
    exact hi.symm.filter_left _ (fun b hb => by simp [origin_of_mem_pipeBlocks hb])
      (fun b hb => by simp [origin_of_mem_pipeBlocks hb])

/-- The counters of a finished run are those of the blocks of both pipes. -/
theorem tally_finishAfter (baseDir : Path) (token : Token) (p : Process)
    (requests : List Request) :
    ((ofProcess baseDir token p).finishAfter requests).2.monitor.tally =
      .ofSeverities (severities baseDir
        (pipeBlocks .stdout p.stdout ++ pipeBlocks .stderr p.stderr)) := by
  obtain ⟨blocks, hi, -, htally⟩ := exists_blocks baseDir token p requests
  rw [htally]
  exact Tally.ofSeverities_perm (hi.perm.map _)

/-- Whether two finished runs are the same to their callers, but for how the pipes mix. -/
structure Agree (r : Run) (requests : List Request) (r' : Run) (requests' : List Request) :
    Prop where
  events_eq : ∀ origin, eventsFrom origin (r.allEvents requests) =
    eventsFrom origin (r'.allEvents requests')
  tally_eq : (r.finishAfter requests).2.monitor.tally = (r'.finishAfter requests').2.monitor.tally
  hasError_eq : (r.finishAfter requests).2.hasError = (r'.finishAfter requests').2.hasError
  result_eq : ∀ result result', (r.finishAfter requests).1 = .ok result →
    (r'.finishAfter requests').1 = .ok result' → result.hasError = result'.hasError

/-- **The schedule makes no difference.** Two runs whose pipes deliver the same bytes hand
out the same events for each pipe and end with the same counters and the same error flag,
however the bytes were cut and delayed, whenever the token fired, and whatever the callers
took before they finished the runs. -/
theorem schedule_independent (baseDir : Path) (token token' : Token) (p p' : Process)
    (requests requests' : List Request)
    (h : ∀ origin, delivered (p.pipe origin) = delivered (p'.pipe origin)) :
    Agree (ofProcess baseDir token p) requests (ofProcess baseDir token' p') requests' := by
  -- The blocks of a pipe are made of its bytes alone.
  have hblocks : ∀ origin, pipeBlocks origin (p.pipe origin) = pipeBlocks origin (p'.pipe origin) :=
    fun origin => by rw [pipeBlocks, h origin, pipeBlocks]
  have htally : ((ofProcess baseDir token p).finishAfter requests).2.monitor.tally =
      ((ofProcess baseDir token' p').finishAfter requests').2.monitor.tally := by
    have hout : pipeBlocks .stdout p.stdout = pipeBlocks .stdout p'.stdout := hblocks .stdout
    have herr : pipeBlocks .stderr p.stderr = pipeBlocks .stderr p'.stderr := hblocks .stderr
    rw [tally_finishAfter, tally_finishAfter, hout, herr]
  have hflag : ((ofProcess baseDir token p).finishAfter requests).2.hasError =
      ((ofProcess baseDir token' p').finishAfter requests').2.hasError := by
    rw [hasError_eq, hasError_eq, htally]
  refine ⟨fun origin => ?_, htally, hflag, fun result result' hr hr' => ?_⟩
  · rw [eventsFrom_allEvents, eventsFrom_allEvents, hblocks origin]
  · rw [hasError_of_finish hr, hasError_of_finish hr']
    exact hflag

/-- Two schedules of one build: the whole output at once and nothing taken before the end;
and single pieces with pauses and an interruption between them, two events taken, and a
token that fires on the way. -/
theorem schedule_independent_pieces :
    let p : Process := ⟨[.data [0x61, 0x3A, 0x31, 0x3A, 0x31, 0x3A, 0x0A, 0x62]],
      [.data [0x63]], { ending := .exited (.code 0) }⟩
    let interrupted : IoError := ⟨.interrupted, "Interrupted system call"⟩
    let broken : IoError := ⟨.other, "Broken pipe"⟩
    let p' : Process := ⟨[.pending, .data [0x61, 0x3A, 0x31], .failed interrupted,
      .data [0x3A, 0x31, 0x3A, 0x0A], .data [0x62], .failed broken],
      [.data [0x63], .data [], .data [0x64]], { delay := 2, ending := .exited (.signal 15) }⟩
    (∀ origin, delivered (p.pipe origin) = delivered (p'.pipe origin)) ∧
      Agree (ofProcess "/" .never p) []
        (ofProcess "/" (.after 3) p') [.poll, .next, .cancel, .next] := by
  intro p interrupted broken p'
  have h : ∀ origin, delivered (p.pipe origin) = delivered (p'.pipe origin) := by
    rintro ⟨⟩ <;> decide
  exact ⟨h, schedule_independent "/" .never (.after 3) p p' [] [.poll, .next, .cancel, .next] h⟩

end Run

end Buildwatch
