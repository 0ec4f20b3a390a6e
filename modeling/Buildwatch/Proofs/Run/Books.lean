import Buildwatch.Proofs.Run.Schedule

/-!
# The books of a run

At every moment the events that a run has handed out, followed by those that wait, are the
events of the blocks that its merger has given, block by block. The counters are the numbers of
the messages, the warnings and the errors among them.
-/

namespace Buildwatch

/-! ## Counting events -/

namespace BuildEvent

/-- Whether the event is a block. -/
def isMessage : BuildEvent → Bool
  | .progress _ => false
  | .message .. => true

/-- The severity of the diagnostic of an event. -/
def severity? (event : BuildEvent) : Option Severity := event.diagnostic?.map (·.severity)

theorem isError_iff {event : BuildEvent} :
    event.isError = true ↔ event.severity? = some .error := by
  cases h : event.diagnostic? <;> simp [isError, severity?, h]

/-- A block has one message, and its progress is neither a message nor a diagnostic. -/
theorem countP_flatMap_ofBlock (baseDir : Path) {p : BuildEvent → Bool}
    (hprogress : ∀ progress, p (.progress progress) = false) (blocks : List OutputBlock) :
    (blocks.flatMap (ofBlock baseDir)).countP p =
      blocks.countP fun block => p (.message block (Diagnostic.ofBlock? baseDir block.text)) := by
  induction blocks with
  | nil => rfl
  | cons block blocks ih =>
    have hblock : (ofBlock baseDir block).countP p =
        if p (.message block (Diagnostic.ofBlock? baseDir block.text)) then 1 else 0 := by
      cases h : Progress.ofBlock? block.text <;> simp [ofBlock, h, hprogress]
    rw [List.flatMap_cons, List.countP_append, ih, hblock, List.countP_cons, Nat.add_comm]

end BuildEvent

/-- The tally of events: the numbers of the messages, the warnings and the errors among them. -/
def Tally.ofEvents (events : List BuildEvent) : Tally where
  blocks := min maxTally (events.countP (·.isMessage))
  warnings := min maxTally (events.countP (·.severity? = some .warning))
  errors := min maxTally (events.countP (·.severity? = some .error))

/-- To count blocks is to count their events. -/
theorem Tally.ofSeverities_severities (baseDir : Path) (blocks : List OutputBlock) :
    ofSeverities (severities baseDir blocks) =
      ofEvents (blocks.flatMap (BuildEvent.ofBlock baseDir)) := by
  have hseverity : ∀ severity, (severities baseDir blocks).count (some severity) =
      (blocks.flatMap (BuildEvent.ofBlock baseDir)).countP (·.severity? = some severity) := by
    intro severity
    rw [BuildEvent.countP_flatMap_ofBlock baseDir fun _ => rfl, severities, List.count,
      List.countP_map]
    refine List.countP_congr fun block _ => ?_
    rw [Function.comp_apply, beq_iff_eq, decide_eq_true_eq]
    rfl
  have hmessages : (severities baseDir blocks).length =
      (blocks.flatMap (BuildEvent.ofBlock baseDir)).countP (·.isMessage) := by
    rw [BuildEvent.countP_flatMap_ofBlock baseDir fun _ => rfl, severities, List.length_map]
    exact (congrFun List.countP_true blocks).symm
  rw [ofSeverities, ofEvents, hseverity, hseverity, hmessages]

namespace Run

variable {r start now : Run} {handed : List BuildEvent} {taken : List OutputBlock}

/-! ## The books -/

/-- Whether the books of a run are right, when it has handed out these events since its start. -/
structure Books (start : Run) (handed : List BuildEvent) (now : Run) : Prop where
  /-- Handed out or waiting, the events are those of the blocks that the merger has given. -/
  events_eq : ∃ n, now.output = (Source.polls n start.output).2 ∧
    handed ++ now.queue = ((Source.polls n start.output).1.filterMap Polled.item?).flatMap
      (BuildEvent.ofBlock start.baseDir)
  tally_eq : now.monitor.tally = .ofEvents (handed ++ now.queue)
  hasError_iff : now.hasError = true ↔ ∃ event ∈ handed ++ now.queue, event.isError = true

theorem hasError_iff_of_tally {events : List BuildEvent}
    (h : now.monitor.tally = .ofEvents events) :
    now.hasError = true ↔ ∃ event ∈ events, event.isError = true := by
  rw [hasError_eq, decide_eq_true_eq, h, Tally.ofEvents, Tally.min_pos_iff, List.countP_pos_iff]
  simp only [BuildEvent.isError_iff, decide_eq_true_eq]

/-- The books of a run stay right while it goes on from its start. -/
theorem Advance.books (h : Advance start handed taken now) (hqueue : start.queue = [])
    (htally : start.monitor.tally = {}) : Books start handed now := by
  have hevents := h.events_eq
  rw [hqueue, List.nil_append] at hevents
  have hcounted : now.monitor.tally = .ofEvents (handed ++ now.queue) := by
    rw [h.tally_eq, htally, Tally.foldl_count_zero, Tally.ofSeverities_severities, hevents]
  obtain ⟨n, hitems, houtput⟩ := h.polls_eq
  exact ⟨⟨n, houtput.symm, by rw [hevents, hitems]⟩, hcounted, hasError_iff_of_tally hcounted⟩

/-! ## Books of whole runs -/

/-- What is in the books stays there. -/
theorem Advance.books_prefix {r' : Run} {events : List BuildEvent} (h : Advance r events taken r')
    (handed : List BuildEvent) : handed ++ r.queue <+: (handed ++ events) ++ r'.queue := by
  rw [List.append_assoc, h.events_eq, ← List.append_assoc]
  exact List.prefix_append _ _

theorem books_serveAll (baseDir : Path) (token : Token) (p : Process)
    (requests : List Request) :
    Books (ofProcess baseDir token p) ((ofProcess baseDir token p).serveAll requests).1
      ((ofProcess baseDir token p).serveAll requests).2 := by
  obtain ⟨taken, h⟩ := (ofProcess baseDir token p).advance_serveAll requests
  exact h.books rfl rfl

theorem books_finishAfter (baseDir : Path) (token : Token) (p : Process)
    (requests : List Request) :
    Books (ofProcess baseDir token p) ((ofProcess baseDir token p).allEvents requests)
      ((ofProcess baseDir token p).finishAfter requests).2 := by
  obtain ⟨served, hserved⟩ := (ofProcess baseDir token p).advance_serveAll requests
  obtain ⟨drained, hdrained, -⟩ := ((ofProcess baseDir token p).serveAll requests).2.advance_finish
  exact (hserved.trans hdrained).books rfl rfl

/-- **The books of a run are right at every moment**, whatever its pipes deliver, whatever was
asked of it, and whenever the token fires; also when it is finished, and the events that nobody
has taken are counted with the others. What is in the books stays there, and so does the error
flag. -/
theorem books_right (baseDir : Path) (token : Token) (p : Process) (requests : List Request) :
    let start := ofProcess baseDir token p
    let handed := (start.serveAll requests).1
    let now := (start.serveAll requests).2
    Books start handed now ∧
      Books start (start.allEvents requests) (start.finishAfter requests).2 ∧
      ∀ more,
        handed ++ now.queue <+: (handed ++ (now.serveAll more).1) ++ (now.serveAll more).2.queue ∧
          (now.hasError = true →
            (now.serveAll more).2.hasError = true ∧ (now.finishAfter more).2.hasError = true) := by
  intro start handed now
  refine ⟨books_serveAll baseDir token p requests, books_finishAfter baseDir token p requests,
    fun more => ?_⟩
  obtain ⟨taken, hmore⟩ := now.advance_serveAll more
  obtain ⟨drained, hend, -⟩ := (now.serveAll more).2.advance_finish
  refine ⟨hmore.books_prefix handed, fun herror => ⟨?_, ?_⟩⟩
  · exact hmore.hasError_mono herror
  · exact (hmore.trans hend).hasError_mono herror

end Run

end Buildwatch
