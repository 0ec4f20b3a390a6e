import Buildwatch.Proofs.Run.Advance

/-!
# Runs and their token

A run looks at its token before it polls its pipes, and once more when they have ended. It
never brings a token back that has fired.
-/

namespace Buildwatch

namespace Run

variable {r : Run}

theorem isFired_heed (h : r.token.isFired = true) : r.heed.token.isFired = true := by
  unfold heed
  split
  · simpa [Token.look_of_isFired h] using h
  · exact h

theorem token_pop (r : Run) : r.pop.2.token = r.token := by
  unfold pop; split <;> rfl

/-- A run does not bring a token back that has fired. -/
theorem isFired_poll (h : r.token.isFired = true) : r.poll.2.token.isFired = true := by
  obtain ⟨-, hpoll⟩ | ⟨-, block, -, hpoll⟩ | ⟨-, -, hpoll, -⟩ := r.poll_cases
  · rw [hpoll, token_pop]
    exact h
  · rw [hpoll, token_pop]
    exact isFired_heed h
  · rw [hpoll]
    exact isFired_heed h

theorem token_watch (r : Run) : r.watch.token = (r.watcher.turn r.token).2 := rfl

theorem isFired_watch (h : r.token.isFired = true) : r.watch.token.isFired = true := by
  obtain hsame | hlook := r.watcher.token_turn r.token
  · rwa [token_watch, hsame]
  · rwa [token_watch, hlook, Token.look_of_isFired h]

theorem isFired_drain (h : r.token.isFired = true) :
    (Source.drain r).2.2.token.isFired = true :=
  Source.drain_kept (P := fun r : Run => r.token.isFired = true) (fun _ => isFired_poll) h

theorem isFired_await (h : r.token.isFired = true) : r.await.2.token.isFired = true := by
  fun_induction await r with
  | case1 r ending => exact h
  | case2 r hreport ih => exact ih (isFired_watch h)

theorem isFired_finish (h : r.token.isFired = true) : r.finish.2.token.isFired = true := by
  rw [finish_eq, token_settle]
  exact isFired_await (isFired_heed (isFired_drain h))

end Run

end Buildwatch
