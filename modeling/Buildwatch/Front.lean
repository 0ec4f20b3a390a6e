/-!
# Fronts of lists

Taking a given list off the front of another one.
-/

namespace Buildwatch

variable {α : Type} [DecidableEq α]

/-- What follows the elements of `front` at the front of a list. -/
def dropFront? : (front list : List α) → Option (List α)
  | [], list => some list
  | _ :: _, [] => none
  | f :: front, a :: list => if f = a then dropFront? front list else none

theorem dropFront?_eq_some {front list rest : List α} (h : dropFront? front list = some rest) :
    list = front ++ rest := by
  induction front generalizing list with
  | nil => simpa [dropFront?] using h
  | cons f front ih =>
    cases list with
    | nil => simp [dropFront?] at h
    | cons a list => grind [dropFront?]

theorem dropFront?_self_append (front rest : List α) :
    dropFront? front (front ++ rest) = some rest := by
  induction front with
  | nil => rfl
  | cons f front ih => rw [List.cons_append, dropFront?, if_pos rfl, ih]

theorem dropFront?_eq_some_iff {front list rest : List α} :
    dropFront? front list = some rest ↔ list = front ++ rest := by
  constructor
  · exact dropFront?_eq_some
  · rintro rfl
    exact dropFront?_self_append front rest

end Buildwatch
