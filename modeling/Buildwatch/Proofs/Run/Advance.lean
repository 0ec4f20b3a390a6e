import Buildwatch.Proofs.Output.Contribution
import Buildwatch.Proofs.Run.Pipe
import Buildwatch.Proofs.Run.Watcher

/-!
# How a run goes on

Whatever its caller does, a run goes on in one way: it takes blocks from its pipes, counts
them, and hands out their events in the same order. An advance says which blocks and
events these were; advances follow one another.
-/

namespace Buildwatch

/-! ## Counting -/

/-- The severity of the diagnostic that a block is, if it is one. -/
def severityOf? (baseDir : Path) (block : Text) : Option Severity :=
  (Diagnostic.ofBlock? baseDir block).map (·.severity)

/-- The severities of blocks. -/
def severities (baseDir : Path) (blocks : List OutputBlock) : List (Option Severity) :=
  blocks.map fun block => severityOf? baseDir block.text

/-- The counters of a run. -/
structure Tally where
  blocks : Nat := 0
  warnings : Nat := 0
  errors : Nat := 0
  deriving DecidableEq, Repr

namespace Tally

/-- Counts one more block, which may be a diagnostic. -/
def count (t : Tally) (severity : Option Severity) : Tally where
  blocks := bump t.blocks
  warnings := if severity = some .warning then bump t.warnings else t.warnings
  errors := if severity = some .error then bump t.errors else t.errors

/-- The tally of blocks: their number, and the numbers of warnings and errors among them. -/
def ofSeverities (severities : List (Option Severity)) : Tally where
  blocks := min maxTally severities.length
  warnings := min maxTally (severities.count (some .warning))
  errors := min maxTally (severities.count (some .error))

/-- A counter that stands at its greatest value is still positive. -/
theorem min_pos_iff (n : Nat) : 0 < min maxTally n ↔ 0 < n := by
  unfold maxTally
  omega

theorem bump_min (n : Nat) : bump (min maxTally n) = min maxTally (n + 1) := by
  unfold bump
  omega

theorem foldl_count (severities : List (Option Severity)) (b w e : Nat) :
    severities.foldl count ⟨min maxTally b, min maxTally w, min maxTally e⟩ =
      ⟨min maxTally (b + severities.length), min maxTally (w + severities.count (some .warning)),
        min maxTally (e + severities.count (some .error))⟩ := by
  induction severities generalizing b w e with
  | nil => rfl
  | cons severity severities ih =>
    have hcount : count ⟨min maxTally b, min maxTally w, min maxTally e⟩ severity =
        ⟨min maxTally (b + 1), min maxTally (w + if severity = some .warning then 1 else 0),
          min maxTally (e + if severity = some .error then 1 else 0)⟩ := by
      simp only [count, bump_min]
      split <;> split <;> rfl
    rw [List.foldl_cons, hcount, ih]
    simp only [List.length_cons, List.count_cons, beq_iff_eq]
    congr 2 <;> omega

/-- Counting one by one gives the numbers, up to the greatest value of a counter. -/
theorem foldl_count_zero (severities : List (Option Severity)) :
    severities.foldl count {} = ofSeverities severities := by
  simpa [ofSeverities] using foldl_count severities 0 0 0

/-- The order of the blocks makes no difference to their tally. -/
theorem ofSeverities_perm {severities severities' : List (Option Severity)}
    (h : severities.Perm severities') : ofSeverities severities = ofSeverities severities' := by
  simp only [ofSeverities, h.length_eq, h.count_eq]

/-- An error that was counted stays counted. -/
theorem errors_pos_foldl {t : Tally} (h : 0 < t.errors) (severities : List (Option Severity)) :
    0 < (severities.foldl count t).errors := by
  induction severities generalizing t with
  | nil => exact h
  | cons severity severities ih =>
    refine ih ?_
    change 0 < if severity = some .error then bump t.errors else t.errors
    split
    · rw [bump, min_pos_iff]
      exact Nat.succ_pos _
    · exact h

end Tally

/-- The counters of a monitor. -/
def Monitor.tally (m : Monitor) : Tally := ⟨m.blocks, m.warnings, m.errors⟩

/-- What a run comes to when its process has ended in this way. -/
def Ending.answer (hasError : Bool) : Ending → Except RunError BuildResult
  | .exited status => .ok ⟨status.code?, hasError⟩
  | .lost e => .error (.wait e)
  | .unwatched => .error .watcherGone

namespace Run

open PipeReader (items_ofReads)

variable {r r' r'' : Run} {events events' : List BuildEvent} {taken taken' : List OutputBlock}

/-! ## Advances -/

/-- Whether a run takes these blocks, and hands out these events, on its way from `r` to `r'`. -/
structure Advance (r : Run) (events : List BuildEvent) (taken : List OutputBlock) (r' : Run) :
    Prop where
  baseDir_eq : r'.baseDir = r.baseDir
  /-- Events leave in the order of their blocks. -/
  events_eq : events ++ r'.queue = r.queue ++ taken.flatMap (BuildEvent.ofBlock r.baseDir)
  tally_eq : r'.monitor.tally = (severities r.baseDir taken).foldl Tally.count r.monitor.tally
  /-- The blocks are what the output has given, poll after poll. -/
  polls_eq : ∃ n, (Source.polls n r.output).1.filterMap Polled.item? = taken ∧
    (Source.polls n r.output).2 = r'.output

namespace Advance

theorem refl (r : Run) : Advance r [] [] r where
  baseDir_eq := rfl
  events_eq := by simp
  tally_eq := rfl
  polls_eq := ⟨0, rfl, rfl⟩

theorem trans (h : Advance r events taken r') (h' : Advance r' events' taken' r'') :
    Advance r (events ++ events') (taken ++ taken') r'' where
  baseDir_eq := h'.baseDir_eq.trans h.baseDir_eq
  events_eq := by
    rw [List.append_assoc, h'.events_eq, ← List.append_assoc, h.events_eq, h.baseDir_eq,
      List.append_assoc, List.flatMap_append]
  tally_eq := by
    rw [h'.tally_eq, h.tally_eq, h.baseDir_eq, ← List.foldl_append]
    simp only [severities, List.map_append]
  polls_eq := by
    obtain ⟨n, hitems, houtput⟩ := h.polls_eq
    obtain ⟨n', hitems', houtput'⟩ := h'.polls_eq
    rw [← houtput] at hitems' houtput'
    refine ⟨n + n', ?_, ?_⟩
    · rw [Source.polls_add, List.filterMap_append, hitems, hitems']
    · rw [Source.polls_add, houtput']

/-- The blocks are the first ones of the two pipes. -/
theorem output_eq (h : Advance r events taken r') :
    ∃ xs ys, Interleaving xs ys taken ∧
      slotItems r.output.first = xs ++ slotItems r'.output.first ∧
      slotItems r.output.second = ys ++ slotItems r'.output.second := by
  obtain ⟨n, hitems, houtput⟩ := h.polls_eq
  have hfronts := Merger.interleaving_polls n r.output
  rwa [hitems, houtput] at hfronts

end Advance

section Start

variable {baseDir : Path} {token : Token} {p : Process}

/-- A run that has nothing left of its pipes has taken all their blocks. -/
theorem Advance.interleaving (h : Advance (ofProcess baseDir token p) events taken r')
    (hgone : r'.output.isExhausted = true) :
    Interleaving (pipeBlocks .stdout p.stdout) (pipeBlocks .stderr p.stderr) taken := by
  obtain ⟨xs, ys, hi, hx, hy⟩ := h.output_eq
  obtain ⟨hfirst, hsecond⟩ := Merger.slotItems_of_isExhausted hgone
  rw [hfirst, List.append_nil] at hx
  rw [hsecond, List.append_nil] at hy
  have hout : pipeBlocks .stdout p.stdout = xs := (items_ofReads .stdout p.stdout).symm.trans hx
  have herr : pipeBlocks .stderr p.stderr = ys := (items_ofReads .stderr p.stderr).symm.trans hy
  rwa [hout, herr]

/-- A run with nothing in its queue has handed out the events of all blocks that it has taken. -/
theorem Advance.events_of_queue (h : Advance (ofProcess baseDir token p) events taken r')
    (hqueue : r'.queue = []) : events = taken.flatMap (BuildEvent.ofBlock baseDir) := by
  have hevents := h.events_eq
  rwa [hqueue, List.append_nil] at hevents

/-- A run has counted the blocks that it has taken. -/
theorem Advance.tally_of_start (h : Advance (ofProcess baseDir token p) events taken r') :
    r'.monitor.tally = .ofSeverities (severities baseDir taken) :=
  h.tally_eq.trans (Tally.foldl_count_zero _)

end Start

/-! ## One poll -/

theorem tally_heed (r : Run) : r.heed.monitor.tally = r.monitor.tally := by
  unfold heed
  split
  · dsimp only
    split <;> rfl
  · rfl

theorem baseDir_heed (r : Run) : r.heed.baseDir = r.baseDir := by
  unfold heed; split <;> rfl

theorem watcher_heed (r : Run) : r.heed.watcher = r.watcher := by
  unfold heed; split <;> rfl

theorem queue_heed (r : Run) : r.heed.queue = r.queue := by
  unfold heed; split <;> rfl

/-- Looking at the token takes no block. -/
theorem advance_heed (r : Run) : Advance r [] [] r.heed where
  baseDir_eq := r.baseDir_heed
  events_eq := by simp [r.queue_heed]
  tally_eq := r.tally_heed
  polls_eq := ⟨0, rfl, r.output_heed.symm⟩

/-- Firing the token takes no block. -/
theorem advance_cancel (r : Run) : Advance r [] [] r.cancel :=
  { Advance.refl r with }

/-- Handing out an event takes no block. -/
theorem advance_pop (r : Run) : Advance r r.pop.1.item?.toList [] r.pop.2 := by
  unfold pop
  split
  · next event queue hqueue =>
    exact { Advance.refl r with events_eq := by simp [hqueue, Polled.item?] }
  · exact Advance.refl r

theorem tally_recordDiagnostic (m : Monitor) (severity : Option Severity) :
    (severity.toList.foldl Monitor.recordDiagnostic m.recordBlock).tally =
      m.tally.count severity := by
  cases severity with
  | none => rfl
  | some severity => cases severity <;> rfl

theorem filterMap_diagnostic?_ofBlock (baseDir : Path) (block : OutputBlock) :
    (BuildEvent.ofBlock baseDir block).filterMap BuildEvent.diagnostic? =
      (Diagnostic.ofBlock? baseDir block.text).toList := by
  unfold BuildEvent.ofBlock
  cases Progress.ofBlock? block.text <;> cases Diagnostic.ofBlock? baseDir block.text <;> rfl

theorem tally_take (r : Run) (block : OutputBlock) :
    (r.take block).monitor.tally = r.monitor.tally.count (severityOf? r.baseDir block.text) := by
  have hseverity : (Diagnostic.ofBlock? r.baseDir block.text).toList.map (·.severity) =
      (severityOf? r.baseDir block.text).toList := by
    rw [severityOf?]
    cases Diagnostic.ofBlock? r.baseDir block.text <;> rfl
  rw [← tally_recordDiagnostic, ← hseverity, ← filterMap_diagnostic?_ofBlock]
  rfl

/-- Taking the next block of the output puts its events into the queue. -/
theorem advance_take {block : OutputBlock} (h : r.output.poll.1 = .item block) :
    Advance r [] [block] (take { r with output := r.output.poll.2 } block) where
  baseDir_eq := rfl
  events_eq := by simp [take]
  tally_eq := tally_take _ block
  polls_eq := ⟨1, List.filterMap_cons_some (congrArg Polled.item? h), rfl⟩

/-- An output without an item has given nothing away. -/
theorem advance_silence (h : r.output.poll.1.item? = none) :
    Advance r [] [] { r with output := r.output.poll.2 } :=
  { Advance.refl r with polls_eq := ⟨1, List.filterMap_cons_none h, rfl⟩ }

/-- What a poll can do: it hands out an event that is ready; or it takes a block of the
output and hands out its first event; or the output has none. -/
theorem poll_cases (r : Run) :
    (r.queue ≠ [] ∧ r.poll = r.pop) ∨
    (r.queue = [] ∧ ∃ block, r.output.poll.1 = .item block ∧
      r.poll = (take { r.heed with output := r.output.poll.2 } block).pop) ∨
    (r.queue = [] ∧ r.output.poll.1.item? = none ∧
      r.poll.2 = { r.heed with output := r.output.poll.2 } ∧
      r.poll.1 = if r.output.poll.1 = .ended then .ended else .pending) := by
  by_cases hq : r.queue = []
  · right
    rcases ho : r.output.poll with ⟨answer, output⟩
    cases answer with
    | failed e => exact e.elim
    | item block => exact .inl ⟨hq, block, rfl, by simp [poll, hq, output_heed, ho]⟩
    | pending =>
      exact .inr ⟨hq, rfl, by simp [poll, hq, output_heed, ho], by simp [poll, hq, output_heed, ho]⟩
    | ended =>
      exact .inr ⟨hq, rfl, by simp [poll, hq, output_heed, ho], by simp [poll, hq, output_heed, ho]⟩
  · exact .inl ⟨hq, by simp [poll, hq]⟩

theorem advance_poll (r : Run) : ∃ taken, Advance r r.poll.1.item?.toList taken r.poll.2 := by
  have hheed : r.heed.output = r.output := r.output_heed
  obtain ⟨-, hpoll⟩ | ⟨-, block, hitem, hpoll⟩ | ⟨-, hnone, hrun, hanswer⟩ := r.poll_cases
  · rw [hpoll]
    exact ⟨[], r.advance_pop⟩
  · -- The token is looked at, a block is taken, and its first event leaves.
    rw [hpoll, ← hheed]
    have htake := advance_take (r := r.heed) (by rwa [hheed])
    exact ⟨[block], (r.advance_heed.trans htake).trans (advance_pop _)⟩
  · have hsilent : r.poll.1.item? = none := by
      rw [hanswer]
      split <;> rfl
    rw [hsilent, hrun, ← hheed]
    exact ⟨[], r.advance_heed.trans (advance_silence (by rwa [hheed]))⟩

/-- A run ends when all events are handed out and both pipes have ended. -/
theorem queue_of_ended (r : Run) (h : r.poll.1 = .ended) :
    r.poll.2.queue = [] ∧ r.poll.2.output.isExhausted = true := by
  obtain ⟨hqueue, hpoll⟩ | ⟨-, block, hitem, hpoll⟩ | ⟨hqueue, hnone, hrun, hanswer⟩ := r.poll_cases
  · rw [hpoll, pop] at h
    split at h <;> simp_all
  · rw [hpoll, pop] at h
    split at h
    · simp at h
    · simp at h
  · rw [hanswer] at h
    split at h
    · next hended =>
      rw [hrun]
      exact ⟨by simpa [queue_heed] using hqueue, r.output.isExhausted_of_ended hended⟩
    · simp at h

/-! ## The watcher -/

theorem watcher_pop (r : Run) : r.pop.2.watcher = r.watcher := by
  unfold pop; split <;> rfl

/-- A poll leaves the process and its watcher alone. -/
theorem watcher_poll (r : Run) : r.poll.2.watcher = r.watcher := by
  obtain ⟨-, hpoll⟩ | ⟨-, block, -, hpoll⟩ | ⟨-, -, hpoll, -⟩ := r.poll_cases
  · rw [hpoll, watcher_pop]
  · rw [hpoll, watcher_pop]
    exact r.watcher_heed
  · rw [hpoll]
    exact r.watcher_heed

theorem watcher_next (r : Run) : (Source.next r).2.watcher = r.watcher :=
  Source.next_kept (P := fun r' : Run => r'.watcher = r.watcher)
    (fun r' h => r'.watcher_poll.trans h) rfl

theorem watcher_drain (r : Run) : (Source.drain r).2.2.watcher = r.watcher :=
  Source.drain_kept (P := fun r' : Run => r'.watcher = r.watcher)
    (fun r' h => r'.watcher_poll.trans h) rfl

/-! ## Many polls -/

theorem advance_next (r : Run) :
    ∃ taken, Advance r (Source.next r).1.item?.toList taken (Source.next r).2 := by
  induction r using Source.poll_induction with
  | step r ih =>
    obtain ⟨taken, hpoll⟩ := r.advance_poll
    by_cases hpending : r.poll.1 = .pending
    · -- What the pending poll took and what the rest takes are taken one after the other.
      have hnext : Source.next r = Source.next r.poll.2 :=
        Source.next_of_pending (Prod.ext hpending rfl)
      obtain ⟨taken', h⟩ := ih (by rw [show Source.poll r = r.poll from rfl, hpending]; simp)
      rw [hnext]
      rw [hpending] at hpoll
      exact ⟨taken ++ taken', hpoll.trans h⟩
    · rw [Source.next_of_ne_pending hpending]
      exact ⟨taken, hpoll⟩

/-- Draining a run takes all blocks that its pipes still have and hands out all events. -/
theorem advance_drain (r : Run) :
    ∃ taken, Advance r (Source.items r) taken (Source.drain r).2.2 ∧
      (Source.drain r).2.2.queue = [] ∧ (Source.drain r).2.2.output.isExhausted = true := by
  induction r using Source.poll_induction with
  | step r ih =>
    obtain ⟨taken, hpoll⟩ := r.advance_poll
    have hended := r.queue_of_ended
    rcases h : Source.poll r with ⟨answer, r'⟩
    rw [show r.poll = (answer, r') from h] at hpoll hended
    rw [h] at ih
    cases answer with
    | pending =>
      obtain ⟨taken', hrest, hend⟩ := ih (by simp)
      rw [Source.items, Source.drain_of_pending h]
      exact ⟨taken ++ taken', hpoll.trans hrest, hend⟩
    | item event =>
      obtain ⟨taken', hrest, hend⟩ := ih (by simp)
      rw [Source.items, Source.drain_of_item h]
      exact ⟨taken ++ taken', hpoll.trans hrest, hend⟩
    | failed e => exact e.elim
    | ended =>
      rw [Source.items, Source.drain_of_ended h]
      exact ⟨taken, hpoll, hended rfl⟩

/-- A run with nothing in its queue and no pipe has no more events. -/
theorem items_eq_nil {r : Run} (hqueue : r.queue = []) (hgone : r.output.isExhausted = true) :
    Source.items r = [] := by
  obtain ⟨taken, h, hlast, -⟩ := r.advance_drain
  have hnone : taken = [] := by
    obtain ⟨xs, ys, hi, hx, hy⟩ := h.output_eq
    obtain ⟨hfirst, hsecond⟩ := Merger.slotItems_of_isExhausted hgone
    obtain rfl : xs = [] := (List.append_eq_nil_iff.1 (hx.symm.trans hfirst)).1
    obtain rfl : ys = [] := (List.append_eq_nil_iff.1 (hy.symm.trans hsecond)).1
    cases hi
    rfl
  simpa [hnone, hqueue, hlast] using h.events_eq

/-! ## The end of a run -/

/-- A turn of the watcher takes no block. -/
theorem advance_watch (r : Run) : Advance r [] [] r.watch :=
  { Advance.refl r with }

theorem advance_tick (r : Run) : Advance r [] [] r.tick :=
  { Advance.refl r with }

theorem advance_await (r : Run) : Advance r [] [] r.await.2 := by
  fun_induction await r with
  | case1 r ending hreport => exact .refl r
  | case2 r hreport ih => exact (r.advance_watch.trans r.watch.advance_tick).trans ih

theorem ending_await (r : Run) :
    r.await.2.watcher.exit.ending = r.watcher.exit.ending := by
  fun_induction await r with
  | case1 r ending hreport => rfl
  | case2 r hreport ih => rw [ih, tick, Watcher.tick, watch, Watcher.exit_turn]; rfl

/-- What is awaited is the report of the watcher. -/
theorem report_await (r : Run) : r.await.2.watcher.report = some r.await.1 := by
  fun_induction await r with
  | case1 r ending hreport => exact hreport
  | case2 r hreport ih => exact ih

theorem truthful_await (h : r.watcher.Truthful) : r.await.2.watcher.Truthful := by
  fun_induction await r with
  | case1 r ending hreport => exact h
  | case2 r hreport ih => exact ih (h.turn r.token).tick

/-- Whoever waits for a process learns how it ends. -/
theorem await_fst (h : r.watcher.Truthful) : r.await.1 = r.watcher.exit.ending := by
  have hended := truthful_await h _ r.report_await
  rw [← ending_await]
  exact (Exit.ending?_eq_some_iff.1 hended).2.symm

theorem advance_settle (r : Run) (ending : Ending) : Advance r [] [] (r.settle ending).2 := by
  cases ending <;> exact { Advance.refl r with }

theorem token_settle (r : Run) (ending : Ending) : (r.settle ending).2.token = r.token := by
  cases ending <;> rfl

theorem settle_fst (r : Run) (ending : Ending) :
    (r.settle ending).1 = ending.answer (r.settle ending).2.hasError := by
  cases ending <;> rfl

/-- To finish a run is to drain it, to look at the token once more, to wait for the report, and to
settle the run with it. -/
theorem finish_eq (r : Run) :
    r.finish = (Source.drain r).2.2.heed.await.2.settle (Source.drain r).2.2.heed.await.1 := rfl

/-- Once a run is drained, no more blocks are taken. -/
theorem advance_end (r : Run) : Advance (Source.drain r).2.2 [] [] r.finish.2 :=
  ((advance_heed _).trans (advance_await _)).trans (advance_settle _ _)

/-- To finish a run is to take all blocks that its pipes still have. -/
theorem advance_finish (r : Run) :
    ∃ taken, Advance r (Source.items r) taken r.finish.2 ∧ r.finish.2.queue = [] := by
  obtain ⟨taken, hdrain, hqueue, -⟩ := r.advance_drain
  refine ⟨taken, by simpa using hdrain.trans r.advance_end, ?_⟩
  -- Nothing is in the queue after the draining, and no block is taken after it.
  simpa [hqueue] using r.advance_end.events_eq

theorem tally_finish (r : Run) :
    r.finish.2.monitor.tally = (Source.drain r).2.2.monitor.tally :=
  r.advance_end.tally_eq

/-- The answer of a run is what the end of its process makes it. -/
theorem finish_fst (h : r.watcher.Truthful) :
    r.finish.1 = r.watcher.exit.ending.answer r.finish.2.hasError := by
  have hwatcher : (Source.drain r).2.2.heed.watcher = r.watcher := by
    rw [watcher_heed, watcher_drain]
  rw [finish_eq, settle_fst, await_fst (hwatcher ▸ h), hwatcher]

/-- The result of a run, if there is one, has the error flag of the run. -/
theorem hasError_of_finish {result : BuildResult} (h : r.finish.1 = .ok result) :
    result.hasError = r.finish.2.hasError := by
  rw [finish_eq, settle_fst, ← finish_eq] at h
  cases hending : (Source.drain r).2.2.heed.await.1 <;> rw [hending] at h <;> cases h
  rfl

theorem hasError_eq (r : Run) : r.hasError = decide (0 < r.monitor.tally.errors) := rfl

/-- The error flag stays up while a run goes on. -/
theorem Advance.hasError_mono (h : Advance r events taken r') (herror : r.hasError = true) :
    r'.hasError = true := by
  rw [hasError_eq, decide_eq_true_eq] at herror ⊢
  rw [h.tally_eq]
  exact Tally.errors_pos_foldl herror _

end Run

end Buildwatch
