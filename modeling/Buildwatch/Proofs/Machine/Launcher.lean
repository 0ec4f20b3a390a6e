import Buildwatch.Machine.Workspace
import Buildwatch.Proofs.CommandLine.Outcome

/-!
# Sessions on a machine

A machine gives every program that it launches both pipes, and an exit status in the end. So a
session on a machine fails only where a program cannot be launched, and the machine is then left as
it was.
-/

namespace Buildwatch.Machine.Launcher

/-! ## Launching -/

/-- A machine launches a program, which exits by itself or by a signal; or it stays as it is. -/
theorem spawn_cases (options : SpawnOptions) (i : Invocation) (l : Launcher) :
    (∃ e, Host.spawn options i l = (.error (.spawn e), l)) ∨
    ∃ p status l', Host.spawn options i l = (.ok p, l') ∧ p.exit = { ending := .exited status } := by
  have hlaunch : Host.launch options i l = launch options i l := rfl
  unfold Host.spawn
  rw [hlaunch, launch]
  cases start l.state l.home options i (!i.program.toList.contains '/') none with
  | error e => exact .inl ⟨_, rfl⟩
  | ok started => exact .inr ⟨_, _, _, rfl, rfl⟩

/-! ## Sessions -/

/-- The failure that ends a session on a machine is that of a launch. -/
theorem spawn_of_failure {start now : Session Launcher} {h : History} (tells : h.Tells start now)
    {error : RunError} (hfailure : h.stage.failure? = some error) : ∃ e, error = .spawn e := by
  obtain ⟨past, stage⟩ := h
  obtain ⟨s, -, stands⟩ := tells
  cases stands with
  | waiting | running | finished | aborted | stopped => cases hfailure
  | @refused step later _ host steps_eq not_fired launch_eq =>
    cases hfailure
    obtain ⟨e, hspawn⟩ | ⟨p, status, l', hspawn, -⟩ :=
      spawn_cases s.options step.invocation s.host
    · exact ⟨e, Except.error.inj (congrArg (·.1) (launch_eq.symm.trans hspawn))⟩
    · rw [launch_eq] at hspawn
      cases hspawn
  | @lost e later host _ begins drained outcome_eq =>
    -- A process that was launched has an exit status, so its end is learnt.
    obtain ⟨_, hspawn⟩ | ⟨p, status, l', hspawn, hexit⟩ :=
      spawn_cases s.options e.step.invocation s.host
    · rw [begins.launch_eq] at hspawn
      cases hspawn
    · rw [begins.launch_eq] at hspawn
      cases hspawn
      exact absurd (congrArg Exit.ending hexit) (e.exit_of_outcome_error _ outcome_eq status)

/-- **A build on a machine fails only where a program cannot be launched.** -/
theorem spawn_of_drive_error {s : Session Launcher} (hrest : s.current = none)
    (hresult : s.result = none) {error : RunError}
    (herror : (CommandLine.drive s).2.1 = .error error) : ∃ e, error = .spawn e := by
  obtain ⟨requests, h, hist, -, hdrive⟩ := CommandLine.exists_history_drive s hrest hresult
  rw [hdrive] at herror
  refine spawn_of_failure hist.tells ?_
  replace herror : h.verdict = .error error := herror
  unfold History.verdict at herror
  cases hstage : h.stage <;> rw [hstage] at herror <;> cases herror <;> rfl

end Buildwatch.Machine.Launcher
