import Buildwatch.Output.Source

/-!
# What a source gives

Every way of using a source goes from poll to poll. A forecast says what a source has
still to give; if every poll keeps to it, so does the whole of the source.
-/

namespace Buildwatch

namespace Source

section Polls

variable {σ ε α : Type} [Source σ ε α]

theorem polls_succ (n : Nat) (s : σ) :
    polls (n + 1) s = ((poll s).1 :: (polls n (poll s).2).1, (polls n (poll s).2).2) := rfl

/-- Polls go on where the polls before them stopped. -/
theorem polls_add (m n : Nat) (s : σ) :
    polls (m + n) s =
      ((polls m s).1 ++ (polls n (polls m s).2).1, (polls n (polls m s).2).2) := by
  induction m generalizing s with
  | zero => simp [polls]
  | succ m ih => rw [Nat.succ_add, polls_succ, ih, polls_succ, List.cons_append]

end Polls

variable {σ ε α : Type} [FiniteSource σ ε α] {s s' : σ} {a : α} {e : ε}

/-- What holds of a source if it holds after each poll that is not the end. -/
theorem poll_induction {P : σ → Prop} (step : ∀ s, ((poll s).1 ≠ .ended → P (poll s).2) → P s)
    (s : σ) : P s :=
  step s fun h =>
    have := FiniteSource.rank_poll s h
    poll_induction step (poll s).2
termination_by FiniteSource.rank s

/-! ## One poll at a time -/

theorem next_of_pending (h : poll s = (.pending, s')) : next s = next s' := by
  rw [next]
  split <;> simp_all

theorem next_of_ne_pending (h : (poll s).1 ≠ .pending) : next s = poll s := by
  rw [next]
  split
  · simp_all
  · rfl

theorem drain_of_pending (h : poll s = (.pending, s')) : drain s = drain s' := by
  rw [drain, drainWith]
  split <;> simp_all [drain]

theorem drain_of_item (h : poll s = (.item a, s')) :
    drain s = (a :: (drain s').1, (drain s').2) := by
  rw [drain, drainWith]
  split <;> simp_all [drain]

theorem drain_of_failed (h : poll s = (.failed e, s')) : drain s = ([], some e, s') := by
  rw [drain, drainWith]
  split <;> simp_all

theorem drain_of_ended (h : poll s = (.ended, s')) : drain s = ([], none, s') := by
  rw [drain, drainWith]
  split <;> simp_all

theorem answers_of_pending (h : poll s = (.pending, s')) :
    answers s = .pending :: answers s' := by
  rw [answers]
  split <;> simp_all

theorem answers_of_item (h : poll s = (.item a, s')) : answers s = .item a :: answers s' := by
  rw [answers]
  split <;> simp_all

theorem answers_of_failed (h : poll s = (.failed e, s')) :
    answers s = .failed e :: answers s' := by
  rw [answers]
  split <;> simp_all

theorem answers_of_ended (h : poll s = (.ended, s')) : answers s = [] := by
  rw [answers]
  split <;> simp_all

section Kept

variable {P : σ → Prop} (step : ∀ s, P s → P (poll s).2)

include step

/-- What every poll keeps is kept while an item is waited for. -/
theorem next_kept (hs : P s) : P (next s).2 := by
  induction s using poll_induction with
  | step s ih =>
    by_cases hpending : (poll s).1 = .pending
    · rw [next_of_pending (Prod.ext hpending rfl)]
      exact ih (by rw [hpending]; simp) (step s hs)
    · rw [next_of_ne_pending hpending]
      exact step s hs

/-- What every poll keeps is kept while a source is drained. -/
theorem drain_kept (hs : P s) : P (drain s).2.2 := by
  induction s using poll_induction with
  | step s ih =>
    have hpoll := step s hs
    rcases h : poll s with ⟨answer, s'⟩
    rw [h] at hpoll ih
    cases answer with
    | pending => simpa [drain_of_pending h] using ih (by simp) hpoll
    | item a => simpa [drain_of_item h] using ih (by simp) hpoll
    | failed e => simpa [drain_of_failed h] using hpoll
    | ended => simpa [drain_of_ended h] using hpoll

end Kept

/-- Polling as often as there are answers, and once more, brings the answers and the end. -/
theorem polls_answers (s : σ) :
    (polls ((answers s).length + 1) s).1 = answers s ++ [.ended] := by
  induction s using poll_induction with
  | step s ih =>
    rcases h : poll s with ⟨answer, s'⟩
    rw [h] at ih
    cases answer with
    | pending => simpa [answers_of_pending h, polls, h] using ih (by simp)
    | item a => simpa [answers_of_item h, polls, h] using ih (by simp)
    | failed e => simpa [answers_of_failed h, polls, h] using ih (by simp)
    | ended => simp [answers_of_ended h, polls, h]

theorem ended_not_mem_answers (s : σ) : Polled.ended ∉ answers s := by
  induction s using poll_induction with
  | step s ih =>
    rcases h : poll s with ⟨answer, s'⟩
    rw [h] at ih
    cases answer with
    | pending => simpa [answers_of_pending h] using ih (by simp)
    | item a => simpa [answers_of_item h] using ih (by simp)
    | failed e => simpa [answers_of_failed h] using ih (by simp)
    | ended => simp [answers_of_ended h]

/-! ## Forecasts -/

/-- The items that a source gives before its first failure or its end. -/
def items (s : σ) : List α := (drain s).1

/-- What a source has still to give: its items, and the failure that follows them. -/
structure Forecast (ε α : Type) where
  items : List α
  failure : Option ε := none

/-- Whether an answer is what the forecast said, and what the forecast is after it. -/
def Forecast.Meets (before : Forecast ε α) : Polled ε α → Forecast ε α → Prop
  | .pending, after => before = after
  | .item a, after => before = ⟨a :: after.items, after.failure⟩
  | .failed e, after => before = ⟨[], some e⟩ ∧ after = ⟨[], none⟩
  | .ended, _ => before = ⟨[], none⟩

/-- The forecast with its items replaced by what `f` makes of them. -/
def Forecast.map {β : Type} (f : α → β) (g : Forecast ε α) : Forecast ε β :=
  ⟨g.items.map f, g.failure⟩

theorem Forecast.Meets.map {β : Type} {before after : Forecast ε α} {answer : Polled ε α}
    (h : before.Meets answer after) (f : α → β) :
    (before.map f).Meets (answer.map f) (after.map f) := by
  cases answer with
  | pending => exact congrArg (Forecast.map f) h
  | item a => exact congrArg (Forecast.map f) h
  | failed e => exact ⟨congrArg (Forecast.map f) h.1, congrArg (Forecast.map f) h.2⟩
  | ended => exact congrArg (Forecast.map f) h

/-- The answers that a forecast says, pending ones aside. -/
def Forecast.answers (f : Forecast ε α) : List (Polled ε α) :=
  f.items.map .item ++ f.failure.toList.map .failed

/-- Whether an answer says something. -/
def isSettled : Polled ε α → Bool
  | .pending => false
  | _ => true

section Meets

variable {forecast : σ → Forecast ε α} {valid : σ → Prop}
  (meets : ∀ s, valid s →
    valid (poll s).2 ∧ (forecast s).Meets (poll s).1 (forecast (poll s).2))

include meets

/-- Draining a source gives what its forecast says. -/
theorem drain_of_meets (hs : valid s) :
    items s = (forecast s).items ∧ (drain s).2.1 = (forecast s).failure := by
  induction s using poll_induction with
  | step s ih =>
    obtain ⟨hvalid, hmeets⟩ := meets s hs
    rcases hp : poll s with ⟨answer, s'⟩
    rw [hp] at hvalid hmeets ih
    cases answer with
    | pending =>
      obtain ⟨hitems, hfailure⟩ := ih (by simp) hvalid
      simp only [Forecast.Meets] at hmeets
      rw [items, drain_of_pending hp, hmeets]
      exact ⟨hitems, hfailure⟩
    | item a =>
      obtain ⟨hitems, hfailure⟩ := ih (by simp) hvalid
      simp only [Forecast.Meets] at hmeets
      rw [items, drain_of_item hp, hmeets]
      exact ⟨congrArg (a :: ·) hitems, hfailure⟩
    | failed e =>
      rw [items, drain_of_failed hp, hmeets.1]
      exact ⟨rfl, rfl⟩
    | ended =>
      simp only [Forecast.Meets] at hmeets
      rw [items, drain_of_ended hp, hmeets]
      exact ⟨rfl, rfl⟩

/-- The answers of a source, pending ones aside, are those that its forecast says. -/
theorem answers_of_meets (hs : valid s) :
    (answers s).filter isSettled = (forecast s).answers := by
  induction s using poll_induction with
  | step s ih =>
    obtain ⟨hvalid, hmeets⟩ := meets s hs
    rcases hp : poll s with ⟨answer, s'⟩
    rw [hp] at hvalid hmeets ih
    cases answer with
    | pending =>
      simp only [Forecast.Meets] at hmeets
      rw [answers_of_pending hp, hmeets, ← ih (by simp) hvalid]
      rfl
    | item a =>
      simp only [Forecast.Meets] at hmeets
      rw [answers_of_item hp, hmeets, List.filter_cons_of_pos rfl, ih (by simp) hvalid]
      rfl
    | failed e =>
      -- The answers go on after a failure, but the forecast is empty then.
      rw [answers_of_failed hp, List.filter_cons_of_pos rfl, ih (by simp) hvalid, hmeets.1,
        hmeets.2]
      rfl
    | ended =>
      simp only [Forecast.Meets] at hmeets
      rw [answers_of_ended hp, hmeets]
      rfl

/-- The items among all answers of a source are those that its forecast says. -/
theorem filterMap_answers_of_meets (hs : valid s) :
    (answers s).filterMap Polled.item? = (forecast s).items := by
  -- A pending answer has no item.
  have hpending : ∀ answers : List (Polled ε α),
      (answers.filter isSettled).filterMap Polled.item? = answers.filterMap Polled.item? := by
    intro answers
    rw [List.filterMap_filter]
    congr
    funext answer
    cases answer <;> rfl
  rw [← hpending, answers_of_meets meets hs, Forecast.answers]
  cases (forecast s).failure <;> simp [Polled.item?, Function.comp_def]

end Meets

end Source

end Buildwatch
