/-!
# Sources

A source is polled for its items. It may have none yet, may fail, and ends at
some point. A finite source carries a rank that falls with every answer but the
end, so that it can be run to its end by a total function.
-/

namespace Buildwatch

/-- The answer of a source to one poll. -/
inductive Polled (ε α : Type)
  /-- Nothing is there yet. -/
  | pending
  | item (a : α)
  | failed (e : ε)
  | ended
  deriving DecidableEq, Repr

/-- The answer with its item replaced by what `f` makes of it. -/
def Polled.map {ε α β : Type} (f : α → β) : Polled ε α → Polled ε β
  | .pending => .pending
  | .item a => .item (f a)
  | .failed e => .failed e
  | .ended => .ended

def Polled.item? {ε α : Type} : Polled ε α → Option α
  | .item a => some a
  | _ => none

/-- A state that can be polled. -/
class Source (σ : Type) (ε α : outParam Type) where
  /-- The answer, and the source that is left. -/
  poll : σ → Polled ε α × σ

/-- A source that ends after finitely many polls. -/
class FiniteSource (σ : Type) (ε α : outParam Type) extends Source σ ε α where
  /-- The measure of what is left to answer. -/
  Rank : Type
  order : WellFoundedRelation Rank
  rank : σ → Rank
  /-- Every answer but the end brings the end nearer. -/
  rank_poll : ∀ s : σ, (poll s).1 ≠ .ended → order.rel (rank (poll s).2) (rank s)

namespace Source

variable {σ ε α : Type}

/-! ## Polling -/

/-- The answers to the next `n` polls, and the source that is left. -/
def polls [Source σ ε α] : Nat → σ → List (Polled ε α) × σ
  | 0, s => ([], s)
  | n + 1, s =>
    let (answer, s) := poll s
    let (answers, s) := polls n s
    (answer :: answers, s)

variable [FiniteSource σ ε α]

instance : WellFoundedRelation (FiniteSource.Rank σ) := FiniteSource.order

/-- Polls until there is something to say: the first answer that is not pending. -/
def next (s : σ) : Polled ε α × σ :=
  match _h : poll s with
  | (.pending, s') => next s'
  | answer => answer
termination_by FiniteSource.rank s
decreasing_by
  have := FiniteSource.rank_poll s (by simp [_h])
  simpa [_h] using this

/-- All answers up to the end. -/
def answers (s : σ) : List (Polled ε α) :=
  match _h : poll s with
  | (.ended, _) => []
  | (.pending, s') => .pending :: answers s'
  | (.item a, s') => .item a :: answers s'
  | (.failed e, s') => .failed e :: answers s'
termination_by FiniteSource.rank s
decreasing_by
  all_goals
    have := FiniteSource.rank_poll s (by simp [_h])
    simpa [_h] using this

/-- Takes all items up to the end or the first failure, letting `react` change the
source after each item; `react` must leave the rank as it is. -/
def drainWith (react : α → σ → σ)
    (rank_react : ∀ a s, FiniteSource.rank (react a s) = FiniteSource.rank s) (s : σ) :
    List α × Option ε × σ :=
  match _h : poll s with
  | (.pending, s') => drainWith react rank_react s'
  | (.item a, s') =>
    let (items, failure, s'') := drainWith react rank_react (react a s')
    (a :: items, failure, s'')
  | (.failed e, s') => ([], some e, s')
  | (.ended, s') => ([], none, s')
termination_by FiniteSource.rank s
decreasing_by
  all_goals
    have := FiniteSource.rank_poll s (by simp [_h])
    simpa [_h, rank_react] using this

/-- Takes all items up to the end or the first failure. -/
def drain (s : σ) : List α × Option ε × σ := drainWith (fun _ s => s) (fun _ _ => rfl) s

end Source

end Buildwatch
