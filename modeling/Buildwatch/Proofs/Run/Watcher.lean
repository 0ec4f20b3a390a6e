import Buildwatch.Run.Watcher

/-!
# What the watcher reports

The watcher of a process reports its end once that has come, and nothing else. The process is told
to terminate at most once, and only after the token has fired.
-/

namespace Buildwatch

/-! ## Looking at the token -/

namespace Token

variable {token : Token}

theorem look_of_isFired (h : token.isFired = true) : token.look = (true, token) := by
  match token with
  | .after 0 => rfl

theorem look_of_not_isFired (h : token.isFired = false) : token.look.1 = false := by
  match token with
  | .never => rfl
  | .after (n + 1) => rfl

end Token

namespace Exit

variable {x : Exit} {ending : Ending}

theorem ending?_eq_some_iff : x.ending? = some ending ↔ x.delay = 0 ∧ x.ending = ending := by
  unfold ending?
  split <;> simp_all

/-- A process that has ended stays so. -/
theorem ending?_tick (h : x.ending? = some ending) : x.tick.ending? = some ending := by
  rw [ending?_eq_some_iff] at h ⊢
  exact ⟨by simp [tick, h.1], h.2⟩

end Exit

namespace Watcher

variable {w : Watcher} {token : Token} {ending : Ending}

/-! ## One turn -/

/-- A turn reports the end, if it has come; otherwise it looks at the token, until the process has
been told to terminate. -/
theorem turn_cases (w : Watcher) (token : Token) :
    (w.report.isSome = true ∧ w.turn token = (w, token)) ∨
    (w.report = none ∧ (∃ ending, w.exit.ending? = some ending ∧
      w.turn token = ({ w with report := some ending }, token))) ∨
    (w.report = none ∧ w.exit.ending? = none ∧ w.sent ≠ [] ∧ w.turn token = (w, token)) ∨
    (w.report = none ∧ w.exit.ending? = none ∧ w.sent = [] ∧
      w.turn token = (if token.isFired then { w with sent := Signal.termination } else w,
        token.look.2)) := by
  cases hreport : w.report with
  | some ending => exact .inl ⟨rfl, by simp [turn, hreport]⟩
  | none =>
    right
    cases hending : w.exit.ending? with
    | some ending => exact .inl ⟨rfl, ending, rfl, by simp [turn, hreport, hending]⟩
    | none =>
      right
      by_cases hsent : w.sent = []
      · refine .inr ⟨rfl, rfl, hsent, ?_⟩
        cases hfired : token.isFired with
        | true => simp [turn, hreport, hending, hsent, Token.look_of_isFired hfired]
        | false => simp [turn, hreport, hending, hsent, Token.look_of_not_isFired hfired]
      · exact .inl ⟨rfl, rfl, hsent, by simp [turn, hreport, hending, hsent]⟩

theorem exit_turn (w : Watcher) (token : Token) : (w.turn token).1.exit = w.exit := by
  obtain ⟨-, hturn⟩ | ⟨-, ending, -, hturn⟩ | ⟨-, -, -, hturn⟩ | ⟨-, -, -, hturn⟩ :=
    w.turn_cases token
  all_goals rw [hturn]
  split <;> rfl

/-- A turn looks at the token at most once. -/
theorem token_turn (w : Watcher) (token : Token) :
    (w.turn token).2 = token ∨ (w.turn token).2 = token.look.2 := by
  obtain ⟨-, hturn⟩ | ⟨-, ending, -, hturn⟩ | ⟨-, -, -, hturn⟩ | ⟨-, -, -, hturn⟩ :=
    w.turn_cases token
  all_goals rw [hturn]; simp

/-- A turn sends all signals at once, if it sends any, and only if the token has fired. -/
theorem sent_turn (w : Watcher) (token : Token) :
    (w.turn token).1.sent = w.sent ∨
      w.sent = [] ∧ (w.turn token).1.sent = Signal.termination ∧ token.isFired = true := by
  obtain ⟨-, hturn⟩ | ⟨-, ending, -, hturn⟩ | ⟨-, -, -, hturn⟩ | ⟨-, -, hsent, hturn⟩ :=
    w.turn_cases token
  · exact .inl (by rw [hturn])
  · exact .inl (by rw [hturn])
  · exact .inl (by rw [hturn])
  · cases hfired : token.isFired with
    | true => exact .inr ⟨hsent, by simp [hturn, hfired], rfl⟩
    | false => exact .inl (by simp [hturn, hfired])

/-- A watcher that has reported rests. -/
theorem turn_of_reported (h : w.report = some ending) (token : Token) :
    w.turn token = (w, token) := by
  simp [turn, h]

theorem sent_ends (w : Watcher) (ending : Ending) : (w.ends ending).sent = w.sent := by
  unfold ends; split <;> rfl

theorem report_ends (w : Watcher) (ending : Ending) : (w.ends ending).report = w.report := by
  unfold ends; split <;> rfl

/-! ## Truthful reports -/

/-- Whether a watcher has reported nothing but the end of its process. -/
def Truthful (w : Watcher) : Prop :=
  ∀ ending, w.report = some ending → w.exit.ending? = some ending

theorem truthful_of_none (h : w.report = none) : w.Truthful := by
  intro ending hreport
  rw [h] at hreport
  cases hreport

theorem Truthful.turn (h : w.Truthful) (token : Token) : (w.turn token).1.Truthful := by
  intro ending hreport
  rw [exit_turn]
  obtain ⟨-, hturn⟩ | ⟨-, ending', hending, hturn⟩ | ⟨-, -, -, hturn⟩ | ⟨hnone, -, -, hturn⟩ :=
    w.turn_cases token
  · exact h ending (by rwa [hturn] at hreport)
  · rw [hturn] at hreport
    rwa [← Option.some_inj.1 hreport]
  · exact h ending (by rwa [hturn] at hreport)
  -- A look at the token sends signals at most; it reports nothing.
  · have hsame : (w.turn token).1.report = w.report := by
      rw [hturn]
      dsimp only
      split <;> rfl
    rw [hsame, hnone] at hreport
    cases hreport

/-- Once the process has ended, it takes one turn until that is reported. -/
theorem Truthful.report_turn (h : w.Truthful) (hended : w.exit.ending? = some ending)
    (token : Token) : (w.turn token).1.report = some ending := by
  cases hreport : w.report with
  | some ending' =>
    rw [h ending' hreport] at hended
    simpa [Watcher.turn, hreport] using hended
  | none => simp [Watcher.turn, hreport, hended]

theorem Truthful.tick (h : w.Truthful) : w.tick.Truthful :=
  fun ending hreport => Exit.ending?_tick (h ending hreport)

/-- The end of a process comes once, and is then what everybody learns. -/
theorem ending?_ends (w : Watcher) (ending : Ending) :
    (w.ends ending).exit.ending? = w.exit.ending?.or (some ending) := by
  unfold ends
  split
  · next h => simp [Exit.ending?, h]
  · next h => simp [Exit.ending?, h]

theorem Truthful.ends (h : w.Truthful) (ending : Ending) : (w.ends ending).Truthful := by
  intro ending' hreport
  rw [report_ends] at hreport
  rw [ending?_ends, h ending' hreport]
  rfl

end Watcher

end Buildwatch
