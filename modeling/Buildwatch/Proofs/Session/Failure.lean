import Buildwatch.Proofs.Session.ErrorFlag

/-!
# After a failure

A step that cannot be launched, or whose exit cannot be learnt, ends the session. The failure is
answered once. Nothing happens any more after that, and the session is finished with the result
that it has kept, as if there had been no failure.
-/

namespace Buildwatch.Session

variable {ω : Type} [Host ω] {start s now now' : Session ω} {h h' : History}

/-! ## Sessions that are over -/

/-- The answer of a session that is over: the end, again and again. -/
def idle : Request → Polled RunError BuildEvent
  | .poll | .next => .ended
  | .cancel => .pending

/-- A session that is over answers with the end and leaves the host alone. -/
theorem serve_of_isOver (hstart : start.current = none) (tells : h.Tells start now)
    (hover : h.stage.isOver = true) (request : Request) :
    (now.serve request).1 = idle request ∧ (now.serve request).2.host = now.host ∧
      h.Tells start (now.serve request).2 := by
  have hpoll := poll_of_isOver hstart tells hover
  cases request with
  | poll =>
    rw [serve, hpoll]
    exact ⟨rfl, rfl, tells⟩
  | next =>
    have hnext : Source.next now = (.ended, now) := by
      rw [Source.next_of_ne_pending] <;> simp [Source.poll, hpoll]
    rw [serve, hnext]
    exact ⟨rfl, rfl, tells⟩
  | cancel =>
    obtain ⟨rest, hpast, stands⟩ := tells
    exact ⟨rfl, rfl, rest, hpast, stands.cancel hover (hpast.current_eq hstart)⟩

theorem serveAll_of_isOver (hstart : start.current = none) (tells : h.Tells start now)
    (hover : h.stage.isOver = true) (requests : List Request) :
    (now.serveAll requests).1 = requests.map idle ∧
      (now.serveAll requests).2.host = now.host := by
  induction requests generalizing now with
  | nil => exact ⟨rfl, rfl⟩
  | cons request requests ih =>
    obtain ⟨hanswer, hhost, tells'⟩ := serve_of_isOver hstart tells hover request
    obtain ⟨hanswers, hhosts⟩ := ih tells'
    refine ⟨?_, hhosts.trans hhost⟩
    rw [serveAll, List.map_cons, hanswer, hanswers]

/-! ## The end of a session that has failed -/

/-- A failure does not touch the result that the session has kept. -/
theorem result_of_failure (hresult : start.result = none) (tells : h.Tells start now)
    {error : RunError} (hfailure : h.stage.failure? = some error) : now.result = h.last? := by
  obtain ⟨past, stage⟩ := h
  obtain ⟨rest, hpast, stands⟩ := tells
  have hkept : rest.result = History.last? ⟨past, stage⟩ := hpast.result_eq hresult
  cases stands with
  | refused | lost => exact hkept
  | waiting | running | finished | aborted | stopped => cases hfailure

/-- A session that has failed before is finished with the result of the last step that has
passed. -/
theorem finish_of_failure (hstart : start.current = none) (hresult : start.result = none)
    (tells : h.Tells start now) {error : RunError} (hfailure : h.stage.failure? = some error) :
    now.finish = (.ok (h.last?.getD .success), now) := by
  have hended : Source.poll now = (.ended, now) :=
    poll_of_isOver hstart tells (isOver_of_failure hfailure)
  rw [← result_of_failure hresult tells hfailure, finish, Source.drain_of_ended hended]

/-- A failure is answered by a session that has not failed before, and is the one that its
history ends with. -/
theorem Turn.failure_eq {error : RunError} (turn : Turn start h now [.failed error] h' now') :
    h'.stage.failure? = some error := by
  have hfailures := turn.failures_eq
  cases hbefore : h.stage.failure? with
  | none => simpa [hbefore, Polled.failure?, Option.toList_eq_singleton_iff] using hfailures
  | some before =>
    rw [turn.fixed (isOver_of_failure hbefore)] at hfailures
    simp [Polled.failure?] at hfailures

/-- What finishing a session does is a turn of its history as well: it brings the session to its
end, and the verdict then is the result, unless the session had failed before. -/
theorem exists_turn_finish (hstart : start.current = none) (hresult : start.result = none)
    (tells : h.Tells start now) :
    ∃ h' answers, Turn start h now answers h' now.finish.2 ∧ h'.stage.isOver = true ∧
      (h.stage.failure? = none → now.finish.1 = h'.verdict) := by
  -- By induction on the polls that are made until the end: a failure or the end is the last
  -- answer, and all that comes before leaves the result to the polls that follow.
  induction now using Source.poll_induction generalizing h with
  | step now ih =>
    obtain ⟨h₁, turn, -⟩ := goes_poll hstart tells
    rcases hp : now.poll with ⟨answer, now'⟩
    have hpoll : Source.poll now = (answer, now') := hp
    rw [hp] at turn
    rw [hpoll] at ih
    -- A failure is answered once, so an answer that is none leaves that of the history.
    have hkept (hnone : answer.failure? = none) (hfailure : h.stage.failure? = none) :
        h₁.stage.failure? = none := by
      have hfailures := turn.failures_eq
      simpa [hfailure, hnone] using hfailures
    cases answer with
    | pending =>
      have hfinish : now.finish = now'.finish := by
        simp only [finish, Source.drain_of_pending hpoll]
      obtain ⟨h', answers, later, hover, hverdict⟩ := ih (by simp) turn.tells
      rw [hfinish]
      exact ⟨h', _, turn.trans later, hover, fun hfailure => hverdict (hkept rfl hfailure)⟩
    | item event =>
      have hfinish : now.finish = now'.finish := by
        simp only [finish, Source.drain_of_item hpoll]
        rcases Source.drain now' with ⟨events, _ | error, last⟩ <;> rfl
      obtain ⟨h', answers, later, hover, hverdict⟩ := ih (by simp) turn.tells
      rw [hfinish]
      exact ⟨h', _, turn.trans later, hover, fun hfailure => hverdict (hkept rfl hfailure)⟩
    | failed error =>
      have hfailure := turn.failure_eq
      rw [finish, Source.drain_of_failed hpoll]
      exact ⟨h₁, _, turn, isOver_of_failure hfailure, fun _ => (verdict_of_failure hfailure).symm⟩
    | ended =>
      have hover := turn.ended (by simp)
      rw [finish, Source.drain_of_ended hpoll]
      exact ⟨h₁, _, turn, hover, fun hfailure =>
        (verdict_of_isOver hresult turn.tells hover (hkept rfl hfailure)).symm⟩

/-! ## One report -/

/-- A session has answered with a failure exactly if its history ends with that failure. -/
theorem HasHistory.failed_mem_iff {requests : List Request} (hist : s.HasHistory requests h)
    (error : RunError) :
    .failed error ∈ (s.serveAll requests).1 ↔ h.stage.failure? = some error := by
  have hfailures := hist.failures_eq
  have hmem : .failed error ∈ (s.serveAll requests).1 ↔
      error ∈ (s.serveAll requests).1.filterMap Polled.failure? := by
    rw [List.mem_filterMap]
    constructor
    · intro hfailed
      exact ⟨_, hfailed, rfl⟩
    · rintro ⟨answer, hanswer, hfailure⟩
      cases answer <;> cases hfailure
      exact hanswer
  rw [hmem, hfailures, Option.mem_toList]

/-- **A failure is reported once.** Whatever is asked of a session before it is finished: if a
step cannot be launched, or its exit cannot be learnt, then either this comes up while the
session is finished, and is its result, or it has been answered before. In the second case the
session is over: all further requests are answered with the end, no event comes and no step is
launched. But then the session is finished with the result of the last step that has passed, and
with success if there is none. So a failed session ends with exit code zero exactly if the
failure has been answered before, and the last step that has passed had exit code zero or does
not exist. -/
theorem failure_reported_once (steps : List Step) (options : SpawnOptions) (token : Token)
    (host : ω) (requests : List Request) :
    let s : Session ω := { steps, options, token, host }
    let now := (s.serveAll requests).2
    ∃ h h', s.HasHistory requests h ∧ h'.Tells (s.whenAsked requests) now.finish.2 ∧
      h'.stage.isOver = true ∧ h.launched <+: h'.launched ∧
      ∀ error, h'.stage.failure? = some error →
        (.failed error ∉ (s.serveAll requests).1 → now.finish.1 = .error error) ∧
        (.failed error ∈ (s.serveAll requests).1 →
          h' = h ∧ now.finish = (.ok (h.last?.getD .success), now) ∧
          ∀ more, s.HasHistory (requests ++ more) h ∧
            (now.serveAll more).1 = more.map idle ∧ (now.serveAll more).2.host = now.host) ∧
        ((∃ result, now.finish.1 = .ok result ∧ result.exitCode = some 0) ↔
          .failed error ∈ (s.serveAll requests).1 ∧
            ∀ result ∈ h.last?, result.exitCode = some 0) := by
  intro s now
  have hrest : s.current = none := rfl
  have hstart := s.current_whenAsked requests hrest
  have hresult : (s.whenAsked requests).result = none := s.result_whenAsked requests
  obtain ⟨h, begets⟩ := exists_begets hrest requests
  have hist := begets.hasHistory
  obtain ⟨h', answers, turn, hover, hverdict⟩ := exists_turn_finish hstart hresult hist.tells
  refine ⟨h, h', hist, turn.tells, hover, turn.launched, fun error hfailure => ?_⟩
  rw [hist.failed_mem_iff]
  by_cases hbefore : h.stage.failure? = some error
  · have hdone := isOver_of_failure hbefore
    have hfinish : now.finish = _ := finish_of_failure hstart hresult hist.tells hbefore
    refine ⟨absurd hbefore, fun _ => ⟨turn.fixed hdone, hfinish, fun more => ?_⟩, ?_⟩
    · obtain ⟨h'', later, -, hfixed, -⟩ := begets.exists_later hrest more
      rw [hfixed hdone] at later
      exact ⟨later, serveAll_of_isOver hstart hist.tells hdone more⟩
    · rw [hfinish]
      cases h.last? <;> simp [hbefore, BuildResult.success]
  · -- The history had not failed, or its failure would be the one that it has in the end.
    have hnone : h.stage.failure? = none := by
      cases hother : h.stage.failure? with
      | none => rfl
      | some other =>
        rw [turn.fixed (isOver_of_failure hother)] at hfailure
        exact absurd hfailure hbefore
    have hfinish : now.finish.1 = .error error :=
      (hverdict hnone).trans (verdict_of_failure hfailure)
    refine ⟨fun _ => hfinish, fun hfailed => absurd hfailed hbefore, ?_⟩
    simp [hfinish, hbefore]

/-- A main step whose tool is missing. -/
def missingTool : Session Playback where
  steps := [⟨.main, ⟨"cabal", []⟩⟩]
  options := ⟨"/", []⟩
  token := .never
  host := ⟨[]⟩

/-- The tool could not be launched, and yet the session is finished with success. -/
theorem launch_failure_forgotten :
    (missingTool.serveAll [.next]).1 = [.failed (.spawn (.notFound "cabal"))] ∧
      ¬ ∀ requests error result, .failed error ∈ (missingTool.serveAll requests).1 →
        (missingTool.serveAll requests).2.finish.1 = .ok result → result.exitCode ≠ some 0 := by
  have hanswer : (missingTool.serveAll [.next]).1 = [.failed (.spawn (.notFound "cabal"))] := by
    cbv
  have hfinish : (missingTool.serveAll [.next]).2.finish.1 = .ok .success := by cbv
  refine ⟨hanswer, fun hnever => ?_⟩
  have hmem : .failed (.spawn (.notFound "cabal")) ∈ (missingTool.serveAll [.next]).1 := by
    rw [hanswer]
    exact List.mem_singleton_self _
  exact hnever [.next] _ _ hmem hfinish rfl

end Buildwatch.Session
