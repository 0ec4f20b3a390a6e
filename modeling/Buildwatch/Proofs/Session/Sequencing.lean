import Buildwatch.Proofs.Session.Poll

/-!
# The sequence of the steps

Whatever is asked of a session, and whatever its processes do, it has a history: the steps
that were launched are the first ones of the plan, one at a time and each after the one before
it, and the result in the end is the one that the history tells.
-/

namespace Buildwatch.Session

variable {ω : Type} [Host ω] {start s now : Session ω} {h h' h'' : History}
  {requests more : List Request}

/-! ## Requests -/

/-- The answer to a request, and the session after it. Firing the token brings no answer yet. -/
def serve (s : Session ω) : Request → Polled RunError BuildEvent × Session ω
  | .poll => s.poll
  | .next => Source.next s
  | .cancel => (.pending, s.cancel)

/-- The answers to requests, and the session after them. -/
def serveAll (s : Session ω) : List Request → List (Polled RunError BuildEvent) × Session ω
  | [] => ([], s)
  | request :: requests =>
    ((s.serve request).1 :: ((s.serve request).2.serveAll requests).1,
      ((s.serve request).2.serveAll requests).2)

theorem serveAll_append (s : Session ω) (requests more : List Request) :
    s.serveAll (requests ++ more) =
      ((s.serveAll requests).1 ++ ((s.serveAll requests).2.serveAll more).1,
        ((s.serveAll requests).2.serveAll more).2) := by
  induction requests generalizing s with
  | nil => rfl
  | cons request requests ih => simp [serveAll, ih]

theorem length_serveAll (s : Session ω) (requests : List Request) :
    (s.serveAll requests).1.length = requests.length := by
  induction requests generalizing s with
  | nil => rfl
  | cons request requests ih => simp [serveAll, ih]

/-- Whether the history of a session goes on from `h` to `h'` while it serves requests. -/
structure Serves (start : Session ω) (h : History) (now : Session ω) (requests : List Request)
    (h' : History) : Prop where
  turn : Turn start h now (now.serveAll requests).1 h' (now.serveAll requests).2
  last_event : ∀ event, (now.serveAll requests).1.getLast? = some (.item event) →
    h'.EndsIn start.options event
  cancelled : .cancel ∈ requests → (now.serveAll requests).2.isBarred = true
  /-- A session that still waits was asked for nothing but to fire the token. -/
  waiting : h'.stage = .waiting → h.stage = .waiting ∧ (now.serveAll requests).2 = now ∧
    ∀ request ∈ requests, request = .cancel
  eq_of_nil : requests = [] → h' = h

namespace Serves

theorem nil (tells : h.Tells start now) : Serves start h now [] h where
  turn := .refl tells
  last_event := by simp [serveAll]
  cancelled := by simp
  waiting hstage := ⟨hstage, rfl, by simp⟩
  eq_of_nil _ := rfl

theorem trans (first : Serves start h now requests h')
    (later : Serves start h' (now.serveAll requests).2 more h'') :
    Serves start h now (requests ++ more) h'' where
  turn := by
    rw [serveAll_append]
    exact first.turn.trans later.turn
  last_event event hlast := by
    rw [serveAll_append] at hlast
    by_cases hmore : more = []
    · subst hmore
      rw [later.eq_of_nil rfl]
      exact first.last_event event (by simpa [serveAll] using hlast)
    -- Every request is answered, so the last answer is one of the later ones.
    · have hne : ((now.serveAll requests).2.serveAll more).1 ≠ [] := by
        intro hnil
        have hlength := length_serveAll (now.serveAll requests).2 more
        rw [hnil] at hlength
        exact hmore (List.length_eq_zero_iff.1 hlength.symm)
      rw [List.getLast?_append_of_ne_nil _ hne] at hlast
      exact later.last_event event hlast
  cancelled hmem := by
    rw [serveAll_append]
    obtain hmem | hmem := List.mem_append.1 hmem
    · exact (later.turn.barred (first.cancelled hmem)).1
    · exact later.cancelled hmem
  waiting hstage := by
    obtain ⟨hstage', hnow', hall'⟩ := later.waiting hstage
    obtain ⟨hstage, hnow, hall⟩ := first.waiting hstage'
    rw [serveAll_append]
    refine ⟨hstage, hnow'.trans hnow, fun request hmem => ?_⟩
    obtain hmem | hmem := List.mem_append.1 hmem
    · exact hall request hmem
    · exact hall' request hmem
  eq_of_nil hnil := by
    obtain ⟨rfl, rfl⟩ := List.append_eq_nil_iff.1 hnil
    rw [later.eq_of_nil rfl, first.eq_of_nil rfl]

/-- A request for an event. -/
theorem of_goes {request : Request} (hne : request ≠ .cancel)
    (goes : Goes start h now (now.serve request)) : ∃ h', Serves start h now [request] h' := by
  obtain ⟨h', turn, hstage, hitem⟩ := goes
  exact ⟨h', {
    turn
    last_event := by simpa [serveAll] using hitem
    cancelled := fun hmem => absurd (List.mem_singleton.1 hmem).symm hne
    waiting := fun hwaiting => absurd hwaiting hstage
    eq_of_nil := by simp }⟩

end Serves

theorem exists_serves_one (hstart : start.current = none) (tells : h.Tells start now)
    (request : Request) (hwaiting : request = .cancel → h.stage = .waiting → now.cancel = now) :
    ∃ h', Serves start h now [request] h' := by
  cases request with
  | poll => exact Serves.of_goes (by simp) (goes_poll hstart tells)
  | next => exact Serves.of_goes (by simp) (goes_next hstart tells)
  | cancel =>
    obtain ⟨h', turn, hw⟩ := exists_turn_cancel hstart tells (hwaiting rfl)
    exact ⟨h', {
      turn
      last_event := by rintro event ⟨⟩
      cancelled := fun _ => now.isBarred_cancel
      waiting := fun hstage => ⟨(hw hstage).1, (hw hstage).2, by simp⟩
      eq_of_nil := by simp }⟩

/-- Requests are served one by one. A session that waits must not be changed by firing the
token first, for its history starts after that. -/
theorem exists_serves (hstart : start.current = none) (tells : h.Tells start now)
    (requests : List Request)
    (hwaiting : requests.head? = some .cancel → h.stage = .waiting → now.cancel = now) :
    ∃ h', Serves start h now requests h' := by
  induction requests generalizing h now with
  | nil => exact ⟨h, .nil tells⟩
  | cons request requests ih =>
    obtain ⟨h', first⟩ := exists_serves_one hstart tells request fun hcancel =>
      hwaiting (by simp [hcancel])
    obtain ⟨h'', later⟩ := ih first.turn.tells fun _ hstage' => by
      obtain ⟨hstage, hnow, hall⟩ := first.waiting hstage'
      have hcancel : request = .cancel := hall request List.mem_cons_self
      change (now.serveAll [request]).2.cancel = (now.serveAll [request]).2
      rw [hnow]
      exact hwaiting (by simp [hcancel]) hstage
    exact ⟨h'', first.trans later⟩

/-! ## The history -/

section

variable (s : Session ω) (requests : List Request)

omit [Host ω] in
/-- The session when it is asked for something other than to fire the token. -/
def whenAsked : Session ω := if requests.head? = some .cancel then s.cancel else s

omit [Host ω] in
@[simp] theorem steps_whenAsked : (s.whenAsked requests).steps = s.steps := by
  unfold whenAsked; split <;> rfl

omit [Host ω] in
@[simp] theorem options_whenAsked : (s.whenAsked requests).options = s.options := by
  unfold whenAsked; split <;> rfl

omit [Host ω] in
@[simp] theorem result_whenAsked : (s.whenAsked requests).result = s.result := by
  unfold whenAsked; split <;> rfl

omit [Host ω] in
theorem current_whenAsked (h : s.current = none) : (s.whenAsked requests).current = none := by
  unfold whenAsked; split <;> simp [cancel, h]

omit [Host ω] in
theorem cancel_cancel : s.cancel.cancel = s.cancel := by
  obtain ⟨_, _, current, _, _, _⟩ := s
  cases current <;> rfl

omit [Host ω] in
theorem cancel_whenAsked (h : requests.head? = some .cancel) :
    (s.whenAsked requests).cancel = s.whenAsked requests := by
  rw [whenAsked, if_pos h, cancel_cancel]

theorem serveAll_whenAsked : (s.whenAsked requests).serveAll requests = s.serveAll requests := by
  cases requests with
  | nil => rfl
  | cons request requests =>
    cases request with
    | poll | next => rfl
    | cancel => simp [whenAsked, serveAll, serve, cancel_cancel]

end

omit [Host ω] in
theorem whenAsked_append (h : requests = [] → more.head? ≠ some .cancel) :
    s.whenAsked (requests ++ more) = s.whenAsked requests := by
  cases requests with
  | nil => simp [whenAsked, h rfl]
  | cons => rfl

/-- Whether this is the history of a session after some requests. -/
structure HasHistory (s : Session ω) (requests : List Request) (h : History) : Prop where
  tells : h.Tells (s.whenAsked requests) (s.serveAll requests).2
  events_eq : (s.serveAll requests).1.filterMap Polled.item? = h.events s.options
  failures_eq : (s.serveAll requests).1.filterMap Polled.failure? = h.stage.failure?.toList
  /-- No step is launched after an event in the same request. -/
  last_event : ∀ event, (s.serveAll requests).1.getLast? = some (.item event) →
    h.EndsIn s.options event
  ended : .ended ∈ (s.serveAll requests).1 → h.stage.isOver = true

/-- Whether requests bring a new session to a history. -/
abbrev Begets (s : Session ω) (requests : List Request) (h : History) : Prop :=
  Serves (s.whenAsked requests) .empty (s.whenAsked requests) requests h

theorem Begets.hasHistory (begets : s.Begets requests h) : s.HasHistory requests h := by
  obtain ⟨turn, hlast, -, -, -⟩ := begets
  rw [serveAll_whenAsked] at turn hlast
  rw [options_whenAsked] at hlast
  refine ⟨turn.tells, ?_, ?_, hlast, turn.ended⟩
  · rw [← s.options_whenAsked requests, turn.events_eq]
    simp [History.empty]
  · rw [turn.failures_eq]
    rfl

theorem exists_begets (hrest : s.current = none) (requests : List Request) :
    ∃ h, s.Begets requests h :=
  exists_serves (s.current_whenAsked requests hrest) ⟨_, .start, .waiting⟩ requests fun hhead _ =>
    s.cancel_whenAsked requests hhead

theorem Begets.trans (begets : s.Begets requests h)
    (hmore : requests = [] → more.head? ≠ some .cancel)
    (later : Serves (s.whenAsked requests) h (s.serveAll requests).2 more h') :
    s.Begets (requests ++ more) h' := by
  rw [← serveAll_whenAsked] at later
  rw [Begets, whenAsked_append hmore]
  exact Serves.trans begets later

/-- Later a session has a history with the same first steps. They are all of its steps if the
session was over, or if its token had been fired. -/
theorem Begets.exists_later (begets : s.Begets requests h) (hrest : s.current = none)
    (more : List Request) :
    ∃ h', s.HasHistory (requests ++ more) h' ∧ h.launched <+: h'.launched ∧
      (h.stage.isOver = true → h' = h) ∧ (.cancel ∈ requests → h'.launched = h.launched) := by
  by_cases hrequests : requests = []
  · subst hrequests
    obtain rfl : h = .empty := begets.eq_of_nil rfl
    obtain ⟨h', begets'⟩ := exists_begets hrest more
    exact ⟨h', begets'.hasHistory, List.nil_prefix, by rintro ⟨⟩, by simp⟩
  · have hnow : (s.whenAsked requests).serveAll requests = s.serveAll requests :=
      serveAll_whenAsked s requests
    have hwaiting (hstage : h.stage = .waiting) :
        (s.serveAll requests).2.cancel = (s.serveAll requests).2 := by
      -- All requests so far have fired the token.
      obtain ⟨-, hnow', hall⟩ := begets.waiting hstage
      obtain ⟨first, rest, rfl⟩ := List.exists_cons_of_ne_nil hrequests
      rw [← hnow, hnow']
      exact s.cancel_whenAsked _ (by simp [hall first List.mem_cons_self])
    have tells := begets.turn.tells
    have hcancelled := begets.cancelled
    rw [hnow] at tells hcancelled
    obtain ⟨h', later⟩ := exists_serves (s.current_whenAsked requests hrest) tells more
      fun _ => hwaiting
    exact ⟨h', (begets.trans (absurd · hrequests) later).hasHistory, later.turn.launched,
      later.turn.fixed, fun hmem => (later.turn.barred (hcancelled hmem)).2⟩

/-! ## The end -/

theorem verdict_of_failure {error : RunError} (hfailure : h.stage.failure? = some error) :
    h.verdict = .error error := by
  obtain ⟨past, stage⟩ := h
  cases stage <;> cases hfailure <;> rfl

theorem isOver_of_failure {error : RunError} {stage : Stage}
    (hfailure : stage.failure? = some error) : stage.isOver = true := by
  cases stage <;> first | rfl | cases hfailure

/-- The verdict of a history is the result that the session has kept. -/
theorem verdict_of_isOver (hresult : start.result = none) (tells : h.Tells start now)
    (hover : h.stage.isOver = true) (hfailure : h.stage.failure? = none) :
    h.verdict = .ok (now.result.getD .success) := by
  obtain ⟨past, stage⟩ := h
  obtain ⟨s, hpast, stands⟩ := tells
  have hlast : s.result = History.last? ⟨past, stage⟩ := hpast.result_eq hresult
  cases stands with
  | waiting | running => cases hover
  | refused | lost => cases hfailure
  | finished => rw [History.verdict, ← hlast]
  | aborted => rfl
  | stopped => rw [History.verdict, ← hlast]; rfl

/-- To finish a session that is over changes nothing. -/
theorem finish_of_isOver (hstart : start.current = none) (hresult : start.result = none)
    (tells : h.Tells start now) (hover : h.stage.isOver = true)
    (hfailure : h.stage.failure? = none) : now.finish = (h.verdict, now) := by
  have hended : Source.poll now = (.ended, now) := poll_of_isOver hstart tells hover
  rw [verdict_of_isOver hresult tells hover hfailure, finish, Source.drain_of_ended hended]

theorem finish_of_pending (hp : Source.poll now = (.pending, s)) : now.finish.1 = s.finish.1 := by
  simp only [finish, Source.drain_of_pending hp]

theorem finish_of_item {event : BuildEvent} (hp : Source.poll now = (.item event, s)) :
    now.finish.1 = s.finish.1 := by
  simp only [finish, Source.drain_of_item hp]
  rcases Source.drain s with ⟨events, _ | error, last⟩ <;> rfl

/-- Whether some polls bring a session to its end, and it is finished with the verdict that its
history has then, if it has not failed before. -/
def Finishes (start : Session ω) (h : History) (now : Session ω) : Prop :=
  ∃ n h', Serves start h now (.replicate n .poll) h' ∧ h'.stage.isOver = true ∧
    (now.serveAll (.replicate n .poll)).1.getLast? = some .ended ∧
    (h.stage.failure? = none → now.finish.1 = h'.verdict)

/-- A poll that is not the last one leaves the rest to the polls that follow. -/
theorem Finishes.of_poll (first : Serves start h now [.poll] h')
    (hfailure : now.poll.1.failure? = none) (hfinish : now.finish.1 = now.poll.2.finish.1)
    (later : Finishes start h' now.poll.2) : Finishes start h now := by
  obtain ⟨n, h'', serves, hover, hlast, hverdict⟩ := later
  have hfailures : h'.stage.failure?.toList = h.stage.failure?.toList ++ [] := by
    rw [first.turn.failures_eq]
    simp [serveAll, serve, hfailure]
  refine ⟨n + 1, h'', first.trans serves, hover, ?_, fun hnone => ?_⟩
  · have hpolls : (now.serveAll (.replicate (n + 1) .poll)).1 =
        now.poll.1 :: (now.poll.2.serveAll (.replicate n .poll)).1 := rfl
    simp [hpolls, List.getLast?_cons, hlast]
  · rw [hfinish]
    exact hverdict (by simpa [hnone] using hfailures)

theorem finishes (hstart : start.current = none) (hresult : start.result = none)
    (tells : h.Tells start now) : Finishes start h now := by
  induction now using Source.poll_induction generalizing h with
  | step now ih =>
    obtain ⟨h', first⟩ := exists_serves_one hstart tells .poll (by rintro ⟨⟩)
    have turn : Turn start h now [now.poll.1] h' now.poll.2 := first.turn
    rcases hp : Source.poll now with ⟨answer, now'⟩
    rw [show Source.poll now = now.poll from rfl] at hp ih
    cases answer with
    | pending =>
      have later := ih (by simp [hp]) turn.tells
      exact .of_poll first (by rw [hp]; rfl) (by rw [finish_of_pending hp, hp]) later
    | item event =>
      have later := ih (by simp [hp]) turn.tells
      exact .of_poll first (by rw [hp]; rfl) (by rw [finish_of_item hp, hp]) later
    | failed error =>
      have hfailure : h'.stage.failure? = some error := by
        have heq := turn.failures_eq
        rw [hp] at heq
        cases hs : h'.stage.failure? <;> cases hh : h.stage.failure? <;>
          simp_all [Polled.failure?]
      have hover := isOver_of_failure hfailure
      -- The poll after the failure finds the end.
      have hended := poll_of_isOver hstart turn.tells hover
      obtain ⟨h'', later⟩ := exists_serves_one hstart turn.tells .poll (by rintro ⟨⟩)
      obtain rfl : h'' = h' := later.turn.fixed hover
      refine ⟨2, h'', first.trans later, hover, ?_, fun _ => ?_⟩
      · have hpolls : (now.serveAll (.replicate 2 .poll)).1 = [now.poll.1, now.poll.2.poll.1] := rfl
        rw [hpolls, hended]
        rfl
      · rw [verdict_of_failure hfailure, finish, Source.drain_of_failed hp]
    | ended =>
      have hover := turn.ended (by simp [hp])
      refine ⟨1, h', first, hover, ?_, fun hnone => ?_⟩
      · have hpolls : (now.serveAll (.replicate 1 .poll)).1 = [now.poll.1] := rfl
        rw [hpolls, hp]
        rfl
      · have hnone' : h'.stage.failure?.toList = [] := by
          rw [turn.failures_eq, hnone, hp]
          rfl
        rw [hp] at turn
        rw [verdict_of_isOver hresult turn.tells hover (Option.toList_eq_nil_iff.1 hnone'), finish,
          Source.drain_of_ended hp]

/-! ## The sequence -/

theorem launched_prefix (tells : h.Tells start now) : h.launched <+: start.steps := by
  obtain ⟨past, stage⟩ := h
  obtain ⟨s, hpast, stands⟩ := tells
  rw [hpast.steps_eq, History.launched_mk, List.prefix_append_right_inj]
  cases stands with
  | running begins => simp [begins.steps_eq]
  | aborted begins | lost begins => simp [Stage.episode?, begins.steps_eq]
  | waiting | finished | stopped | refused => exact List.nil_prefix

/-- **The steps are taken in sequence.** Whatever was asked of a session so far, it has a
history: the steps that it has launched are the first ones of the plan, one at a time, each
after the one before it had handed out all its events and its result was collected; the token
had not fired before any of them, no preparation among those that have passed has failed, and
the events and failures that were answered are those of the history. Later there are more
launched steps at most, and none if the session was over or was cancelled. Polling on brings
the session to its end, and it is finished with the verdict that the history has then. -/
theorem sequencing (steps : List Step) (options : SpawnOptions) (token : Token) (host : ω)
    (requests : List Request) :
    let s : Session ω := { steps, options, token, host }
    ∃ h, s.HasHistory requests h ∧ h.launched <+: steps ∧
      (∀ more, ∃ h', s.HasHistory (requests ++ more) h' ∧ h.launched <+: h'.launched ∧
        (h.stage.isOver = true → h' = h) ∧ (.cancel ∈ requests → h'.launched = h.launched)) ∧
      ∃ n h', s.HasHistory (requests ++ .replicate n .poll) h' ∧ h.launched <+: h'.launched ∧
        h'.stage.isOver = true ∧
        (s.serveAll (requests ++ .replicate n .poll)).1.getLast? = some .ended ∧
        (h.stage.failure? = none → (s.serveAll requests).2.finish.1 = h'.verdict) := by
  intro s
  have hrest : s.current = none := rfl
  obtain ⟨h, begets⟩ := exists_begets hrest requests
  have hist := begets.hasHistory
  have hprefix := launched_prefix hist.tells
  rw [steps_whenAsked] at hprefix
  refine ⟨h, hist, hprefix, begets.exists_later hrest, ?_⟩
  obtain ⟨n, h', later, hover, hlast, hverdict⟩ :=
    finishes (s.current_whenAsked requests hrest) (s.result_whenAsked requests) hist.tells
  have hmore : (List.replicate n Request.poll).head? ≠ some .cancel := by
    cases n <;> simp [List.replicate_succ]
  refine ⟨n, h', (begets.trans (fun _ => hmore) later).hasHistory, later.turn.launched, hover, ?_,
    hverdict⟩
  simp [serveAll_append, hlast]

end Buildwatch.Session
