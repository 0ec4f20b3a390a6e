import Mathlib
import Buildwatch.Proofs.Run.Books
import Buildwatch.Proofs.Session.Sequencing

/-!
# The error flag of a session

The flag of a session is made of the last result that it keeps and of the running step. So it
tells whether one of these two steps has produced an error; what earlier steps have produced is
forgotten when a later one has ended.
-/

namespace Buildwatch

/-! ## What a step has produced -/

/-- A message belongs to the events of its own pipe. -/
theorem message_mem_eventsFrom_iff {origin : Origin} {block : OutputBlock}
    {diagnostic : Option Diagnostic} (events : List BuildEvent) :
    .message block diagnostic ∈ eventsFrom origin events ↔
      .message block diagnostic ∈ events ∧ block.origin = origin := by
  induction events with
  | nil => simp [eventsFrom]
  | cons event events ih =>
    rw [eventsFrom]
    cases event with
    | progress progress => split <;> simp [ih]
    | message first read =>
      have hfirst : originOf? (.message first read :: events) = some origin ↔
          first.origin = origin := Option.some_inj
      simp only [hfirst, List.mem_cons, BuildEvent.message.injEq, or_and_right]
      split
      · next horigin =>
        have hsame : block = first ∧ diagnostic = read → block.origin = origin :=
          fun heq => heq.1 ▸ horigin
        rw [List.mem_cons, ih, BuildEvent.message.injEq, and_iff_left_of_imp hsame]
      · next horigin =>
        rw [ih, or_iff_right]
        rintro ⟨⟨rfl, -⟩, hsame⟩
        exact horigin hsame

/-- An error is a message of some pipe. -/
theorem BuildEvent.exists_message_of_isError {event : BuildEvent} (h : event.isError = true) :
    ∃ block diagnostic, event = .message block diagnostic := by
  cases event with
  | progress progress => simp [isError, diagnostic?] at h
  | message block diagnostic => exact ⟨block, diagnostic, rfl⟩

namespace Episode

variable (e : Episode) (options : SpawnOptions)

/-- The events of a step, handed out or still waiting. -/
def produced : List BuildEvent := e.events options ++ (e.now options).queue

/-- Whether a step has produced an error. -/
def HasProducedError : Prop := ∃ event ∈ e.produced options, event.isError = true

theorem hasError_now_iff : (e.now options).hasError = true ↔ e.HasProducedError options :=
  (Run.books_serveAll options.directory e.token.look.2 e.process e.requests).hasError_iff

variable {e options}

/-- The result of a step that has handed out everything tells whether it has produced an error. -/
theorem hasError_iff_of_outcome {result : BuildResult} (drained : e.IsDrained options)
    (h : e.outcome options = .ok result) :
    result.hasError = true ↔ e.HasProducedError options := by
  obtain ⟨taken, hfinish, hqueue⟩ := (e.now options).advance_finish
  rw [Run.hasError_of_finish h]
  constructor
  · intro hflag
    have books := Run.books_finishAfter options.directory e.token.look.2 e.process e.requests
    obtain ⟨event, hmem, herror⟩ := books.hasError_iff.1 hflag
    obtain ⟨block, diagnostic, rfl⟩ := BuildEvent.exists_message_of_isError herror
    have hall : .message block diagnostic ∈
        (e.start options).allEvents e.requests ++ (e.now options).finish.2.queue := hmem
    rw [hqueue, List.append_nil] at hall
    -- The pipe of this message has no event that was not handed out.
    have hfrom := (message_mem_eventsFrom_iff _).2 ⟨hall, rfl⟩
    have hpipe := Run.eventsFrom_allEvents options.directory e.token.look.2 e.process e.requests
      block.origin
    rw [start, hpipe, ← drained block.origin] at hfrom
    have hevents := ((message_mem_eventsFrom_iff _).1 hfrom).1
    exact ⟨_, List.mem_append_left _ hevents, herror⟩
  · intro hproduced
    exact hfinish.hasError_mono ((e.hasError_now_iff options).2 hproduced)

end Episode

/-! ## What a session remembers -/

/-- The steps that the error flag speaks of: the last one that has a result, and the running
one. -/
def History.remembered (h : History) : List Episode :=
  match h.stage with
  | .running e => (h.past.getLast?.map (·.1)).toList ++ [e]
  | .aborted e _ => [e]
  | .waiting | .finished | .stopped | .refused .. | .lost .. =>
    (h.past.getLast?.map (·.1)).toList

theorem History.remembered_sublist (h : History) : h.remembered.Sublist h.episodes := by
  obtain ⟨past, stage⟩ := h
  have hlast : ((past.getLast?.map (·.1)).toList).Sublist (past.map (·.1)) := by
    rcases List.eq_nil_or_concat past with rfl | ⟨earlier, last, rfl⟩
    · exact .refl _
    · simp
  cases stage with
  | running e => exact hlast.append (.refl _)
  | aborted e result => exact List.sublist_append_right _ _
  | waiting | finished | stopped | refused => exact hlast.trans (List.sublist_append_left _ _)
  | lost e error => exact hlast.trans (List.sublist_append_left _ _)

namespace Session

variable {ω : Type} [Host ω] {start s now : Session ω} {past : List (Episode × BuildResult)}
  {h : History}

/-- The result that a session keeps is that of the last step that has passed. -/
theorem Passes.hasError_iff (hpast : start.Passes past s) (hresult : start.result = none) :
    s.result.any (·.hasError) = true ↔
      ∃ e ∈ (past.getLast?.map (·.1)).toList, e.HasProducedError start.options := by
  cases hpast with
  | start => simp [hresult]
  | @step past s e later host result passes begins drained outcome_eq succeeded =>
    have hflag := Episode.hasError_iff_of_outcome drained outcome_eq
    rw [passes.options_eq] at hflag
    simpa [resume] using hflag

/-- The flag of a session tells whether a remembered step has produced an error. -/
theorem hasError_iff_of_tells (hstart : start.current = none) (hresult : start.result = none)
    (tells : h.Tells start now) :
    now.hasError = true ↔ ∃ e ∈ h.remembered, e.HasProducedError start.options := by
  obtain ⟨past, stage⟩ := h
  obtain ⟨s, hpast, stands⟩ := tells
  have hrest := hpast.current_eq hstart
  have hkept := hpast.hasError_iff hresult
  cases stands with
  | waiting | finished | refused | lost => simpa [hasError, hrest, History.remembered] using hkept
  | @running e later host begins token =>
    have hrunning := e.hasError_now_iff s.options
    rw [hpast.options_eq] at hrunning
    simp only [hasError, during, Option.any_some, Bool.or_eq_true, hkept, hpast.options_eq,
      hrunning, History.remembered, List.mem_append, List.mem_singleton]
    constructor
    · rintro (⟨e', hmem, herror⟩ | herror)
      · exact ⟨e', .inl hmem, herror⟩
      · exact ⟨e, .inr rfl, herror⟩
    · rintro ⟨e', hmem | rfl, herror⟩
      · exact .inl ⟨e', hmem, herror⟩
      · exact .inr herror
  | @aborted e later host result begins drained outcome_eq kind_eq failed token =>
    have hflag := Episode.hasError_iff_of_outcome drained outcome_eq
    rw [hpast.options_eq] at hflag
    simpa [hasError, hrest, History.remembered] using hflag
  | stopped steps_ne fired token =>
    -- The result of a session that was stopped keeps the flag of the last step.
    simpa [hasError, hrest, History.remembered] using hkept

/-- **The error flag speaks of the last step that has a result, and of the running one.** At
every moment it is up exactly if one of these has produced an error. So it is never up without
an error, but an error of a step is forgotten when a later step has ended. -/
theorem hasError_iff_remembered (steps : List Step) (options : SpawnOptions) (token : Token)
    (host : ω) (requests : List Request) :
    let s : Session ω := { steps, options, token, host }
    ∃ h, s.HasHistory requests h ∧ h.remembered.Sublist h.episodes ∧
      ((s.serveAll requests).2.hasError = true ↔
        ∃ e ∈ h.remembered, e.HasProducedError options) := by
  intro s
  have hrest : s.current = none := rfl
  obtain ⟨h, begets⟩ := exists_begets hrest requests
  have hist := begets.hasHistory
  have hflag := hasError_iff_of_tells (s.current_whenAsked requests hrest)
    (s.result_whenAsked requests) hist.tells
  rw [options_whenAsked] at hflag
  exact ⟨h, hist, h.remembered_sublist, hflag⟩

end Session

/-- A host that plays back the children that it launches. -/
structure Playback where
  children : List Child

instance : Host Playback where
  launch _ _ host :=
    match host.children with
    | [] => (.error ⟨.notFound, "No such file or directory"⟩, host)
    | child :: children => (.ok child, ⟨children⟩)
  kill _ host := host

namespace Session

/-- A preparation that reports an error and succeeds, and a main step that has nothing to say. -/
def errorThenSilence : Session Playback where
  steps := [⟨.prepare, ⟨"hpack", []⟩⟩, ⟨.main, ⟨"cabal", []⟩⟩]
  options := ⟨"/", []⟩
  token := .never
  host := ⟨[⟨some [.data [0x61, 0x3A, 0x31, 0x3A, 0x31, 0x3A]], some [], ⟨1, .exited (.code 0)⟩⟩,
    ⟨some [], some [], ⟨0, .exited (.code 0)⟩⟩]⟩

/-- When the main step has ended, the flag is down again, though a step has produced an error. -/
theorem hasError_forgotten :
    let requests : List Request := .replicate 5 .poll
    let now := (errorThenSilence.serveAll requests).2
    (errorThenSilence.serveAll [.poll]).2.hasError = true ∧ now.hasError = false ∧
      ¬ ∀ h, errorThenSilence.HasHistory requests h →
        (now.hasError = true ↔
          ∃ e ∈ h.episodes, e.HasProducedError errorThenSilence.options) := by
  intro requests now
  have hdown : (errorThenSilence.serveAll (.replicate 5 .poll)).2.hasError = false := by cbv
  have herror : ((errorThenSilence.serveAll (.replicate 5 .poll)).1.filterMap Polled.item?).any
      (·.isError) = true := by cbv
  refine ⟨by cbv, hdown, fun hnever => ?_⟩
  obtain ⟨h, begets⟩ := exists_begets (s := errorThenSilence) rfl requests
  have hist := begets.hasHistory
  -- The error is among the events of the history, so one of its steps has produced it.
  rw [hist.events_eq, History.events, List.any_flatMap] at herror
  obtain ⟨e, hmem, herror⟩ := List.any_eq_true.1 herror
  obtain ⟨event, hevent, herror⟩ := List.any_eq_true.1 herror
  have hup := (hnever h hist).2 ⟨e, hmem, event, List.mem_append_left _ hevent, herror⟩
  exact Bool.false_ne_true (hdown.symm.trans hup)

end Session

end Buildwatch
