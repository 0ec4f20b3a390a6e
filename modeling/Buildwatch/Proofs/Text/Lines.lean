import Mathlib.Data.List.TakeWhile
import Buildwatch.Text.Basic

/-!
# Cutting and joining lines

Joining undoes cutting, and cutting undoes joining where no line holds a newline.
-/

namespace Buildwatch.Text

/-! ## The front of a list -/

section Front

variable {α : Type} {p : α → Bool} {l r : List α} {a : α}

theorem takeWhile_append_cons (hl : ∀ b ∈ l, p b = true) (ha : p a = false) :
    (l ++ a :: r).takeWhile p = l := by
  rw [List.takeWhile_append_of_pos hl, List.takeWhile_cons_of_neg (by simp [ha]), List.append_nil]

theorem dropWhile_append_cons (hl : ∀ b ∈ l, p b = true) (ha : p a = false) :
    (l ++ a :: r).dropWhile p = a :: r := by
  rw [List.dropWhile_append_of_pos hl, List.dropWhile_cons_of_neg (by simp [ha])]

/-- A run of a class ends where something else begins. -/
theorem takeWhile_append_of_head? (hl : ∀ b ∈ l, p b = true) (hr : ∀ a ∈ r.head?, p a = false) :
    (l ++ r).takeWhile p = l := by
  cases r with
  | nil => simpa using hl
  | cons a r => exact takeWhile_append_cons hl (hr a rfl)

theorem dropWhile_append_of_head? (hl : ∀ b ∈ l, p b = true) (hr : ∀ a ∈ r.head?, p a = false) :
    (l ++ r).dropWhile p = r := by
  cases r with
  | nil => simpa using hl
  | cons a r => exact dropWhile_append_cons hl (hr a rfl)

theorem head?_append_of_forall (hl : ∀ b ∈ l, p b = true) (hne : l ≠ []) :
    ∀ a ∈ (l ++ r).head?, p a = true := by
  obtain ⟨a, l, rfl⟩ := List.exists_cons_of_ne_nil hne
  simpa using hl a List.mem_cons_self

theorem eq_takeWhile_append (h : l.dropWhile p = a :: r) : l = l.takeWhile p ++ a :: r := by
  rw [← h, List.takeWhile_append_dropWhile]

/-- What follows the front of a list begins where the front ends. -/
theorem eq_false_of_head?_dropWhile (h : (l.dropWhile p).head? = some a) : p a = false := by
  have hhead := List.head?_dropWhile_not p l
  rw [h] at hhead
  simpa using hhead

theorem takeWhile_dropWhile : (l.dropWhile p).takeWhile p = [] := by
  cases hrest : l.dropWhile p with
  | nil => rfl
  | cons a rest =>
    have ha : p a = false := eq_false_of_head?_dropWhile (congrArg List.head? hrest)
    exact List.takeWhile_cons_of_neg (by simp [ha])

/-- The last element of a list stands at the end of its front or in what follows the front. -/
theorem eq_or_mem_of_concat_eq_append {front extra : List α} (h : l ++ [a] = front ++ extra) :
    front = l ++ [a] ∨ a ∈ extra := by
  rcases List.eq_nil_or_concat extra with rfl | ⟨init, last, rfl⟩
  · exact .inl (by simpa using h.symm)
  · rw [List.concat_eq_append, ← List.append_assoc] at h
    obtain rfl : a = last := by simpa using (List.append_inj' h rfl).2
    exact .inr (by simp)

end Front

variable {line t : Text} {lines rest : List Text}

/-! ## Joining -/

@[simp] theorem joinLines_nil : joinLines [] = [] := rfl
@[simp] theorem joinLines_singleton : joinLines [line] = line := rfl

theorem joinLines_eq_intercalate (lines : List Text) :
    joinLines lines = ['\n'].intercalate lines := by
  fun_induction joinLines lines with
  | case1 => rfl
  | case2 line => simp
  | case3 line lines hlines ih =>
    have hne : lines ≠ [] := fun h => hlines (h ▸ rfl)
    rw [ih, List.intercalate_cons_of_ne_nil hne, List.append_assoc, List.singleton_append]

theorem joinLines_cons (h : lines ≠ []) :
    joinLines (line :: lines) = line ++ '\n' :: joinLines lines := by
  cases lines with
  | nil => exact absurd rfl h
  | cons next lines => rfl

theorem joinLines_append (hlines : lines ≠ []) (hrest : rest ≠ []) :
    joinLines (lines ++ rest) = joinLines lines ++ '\n' :: joinLines rest := by
  induction lines with
  | nil => exact absurd rfl hlines
  | cons line lines ih =>
    by_cases hl : lines = []
    · subst hl
      simpa using joinLines_cons hrest
    · have hne : lines ++ rest ≠ [] := by simp [hl]
      rw [List.cons_append, joinLines_cons hne, joinLines_cons hl, ih hl, List.append_assoc]
      rfl

theorem joinLines_concat (h : lines ≠ []) :
    joinLines (lines ++ [line]) = joinLines lines ++ '\n' :: line :=
  joinLines_append h (List.cons_ne_nil _ _)

/-- What is added to the last line is added to the whole. -/
theorem joinLines_concat_append :
    joinLines (lines ++ [line ++ t]) = joinLines (lines ++ [line]) ++ t := by
  cases lines with
  | nil => rfl
  | cons first lines =>
    have hne : first :: lines ≠ [] := List.cons_ne_nil _ _
    rw [joinLines_concat hne, joinLines_concat hne, List.append_assoc, List.cons_append]

/-- Joining in groups makes no difference. -/
theorem joinLines_map_joinLines {groups : List (List Text)} (h : ∀ group ∈ groups, group ≠ []) :
    joinLines (groups.map joinLines) = joinLines groups.flatten := by
  induction groups with
  | nil => rfl
  | cons group groups ih =>
    have hgroup : group ≠ [] := h group List.mem_cons_self
    have hgroups : ∀ g ∈ groups, g ≠ [] := fun g hg => h g (List.mem_cons_of_mem _ hg)
    by_cases hg : groups = []
    · subst hg
      simp
    · have hmap : groups.map joinLines ≠ [] := by simpa using hg
      have hflat : groups.flatten ≠ [] := by
        obtain ⟨g, gs, rfl⟩ := List.exists_cons_of_ne_nil hg
        have hne : g ≠ [] := hgroups g List.mem_cons_self
        simp [hne]
      rw [List.map_cons, joinLines_cons hmap, ih hgroups, List.flatten_cons,
        joinLines_append hgroup hflat]

/-- Lines with a newline after each of them. -/
theorem flatMap_newline (h : lines ≠ []) :
    lines.flatMap (· ++ ['\n']) = joinLines lines ++ ['\n'] := by
  induction lines with
  | nil => exact absurd rfl h
  | cons line lines ih =>
    by_cases hl : lines = []
    · subst hl
      simp
    · rw [List.flatMap_cons, ih hl, joinLines_cons hl]
      simp

/-! ## Cutting -/

section Cutting

variable {α : Type} [DecidableEq α] {sep : α} {piece t : List α}

theorem cutAt_eq_splitOn (sep : α) (t : List α) : cutAt sep t = t.splitOn sep := by
  induction t with
  | nil => rfl
  | cons c t ih =>
    obtain ⟨piece, pieces, hpieces⟩ := List.exists_cons_of_ne_nil (List.splitOn_ne_nil sep t)
    rw [cutAt, List.splitOn_cons_eq_if_modifyHead, ih, hpieces]
    simp

theorem cutAt_ne_nil : cutAt sep t ≠ [] := by
  rw [cutAt_eq_splitOn]
  exact List.splitOn_ne_nil sep t

theorem cutAt_of_not_mem (h : sep ∉ t) : cutAt sep t = [t] := by
  rw [cutAt_eq_splitOn, List.splitOn_eq_singleton h]

theorem cutAt_append_separator :
    cutAt sep (piece ++ sep :: t) = cutAt sep piece ++ cutAt sep t := by
  simp only [cutAt_eq_splitOn, List.splitOn_append_cons_self]

theorem not_mem_of_mem_cutAt (h : piece ∈ cutAt sep t) : sep ∉ piece := by
  induction t generalizing piece with
  | nil => simp_all [cutAt]
  | cons c t ih =>
    rw [cutAt] at h
    split at h
    · rcases List.mem_cons.1 h with rfl | h
      · simp
      · exact ih h
    · next hc =>
      split at h
      · next heq => exact absurd heq cutAt_ne_nil
      · next first pieces heq =>
        have hfirst : sep ∉ first := ih (heq ▸ List.mem_cons_self)
        rcases List.mem_cons.1 h with rfl | h
        · simp [hfirst, Ne.symm hc]
        · exact ih (heq ▸ List.mem_cons_of_mem _ h)

end Cutting

theorem not_mem_of_mem_cutLines (h : line ∈ cutLines t) : '\n' ∉ line := not_mem_of_mem_cutAt h

theorem joinLines_cutLines (t : Text) : joinLines (cutLines t) = t := by
  rw [joinLines_eq_intercalate, cutLines, cutAt_eq_splitOn, List.intercalate_splitOn]

theorem cutLines_joinLines (hne : lines ≠ []) (h : ∀ line ∈ lines, '\n' ∉ line) :
    cutLines (joinLines lines) = lines := by
  rw [joinLines_eq_intercalate, cutLines, cutAt_eq_splitOn, List.splitOn_intercalate _ h hne]

/-- Of two texts joined without a newline, the last line of the first one and the first line of
the second one become one line. -/
theorem exists_cutLines_append (s u : Text) :
    ∃ above last line below, cutLines s = above ++ [last] ∧ above.length = s.count '\n' ∧
      cutLines u = line :: below ∧ cutLines (s ++ u) = above ++ (last ++ line) :: below := by
  induction s with
  | nil =>
    have hne : cutLines u ≠ [] := cutAt_ne_nil
    obtain ⟨line, below, hu⟩ := List.exists_cons_of_ne_nil hne
    exact ⟨[], [], line, below, rfl, rfl, hu, hu⟩
  | cons c s ih =>
    obtain ⟨above, last, line, below, hs, hcount, hu, happend⟩ := ih
    rw [cutLines] at hs hu happend
    -- A newline opens a line above all others; any other character goes on with the first.
    by_cases hc : c = '\n'
    · refine ⟨[] :: above, last, line, below, ?_, ?_, hu, ?_⟩
      · rw [cutLines, cutAt, if_pos hc, hs, List.cons_append]
      · rw [hc, List.count_cons_self, List.length_cons, hcount]
      · rw [List.cons_append, cutLines, cutAt, if_pos hc, happend, List.cons_append]
    · have hcount' : (c :: s).count '\n' = s.count '\n' := List.count_cons_of_ne hc
      cases above with
      | nil =>
        refine ⟨[], c :: last, line, below, ?_, hcount' ▸ hcount, hu, ?_⟩
        · simp [cutLines, cutAt, hc, hs]
        · simp [cutLines, cutAt, hc, happend]
      | cons first above =>
        refine ⟨(c :: first) :: above, last, line, below, ?_, ?_, hu, ?_⟩
        · simp [cutLines, cutAt, hc, hs]
        · rw [hcount', ← hcount, List.length_cons, List.length_cons]
        · simp [cutLines, cutAt, hc, happend]

/-! ## The first line -/

theorem all_ne_newline (h : '\n' ∉ line) : ∀ c ∈ line, decide (c ≠ '\n') = true := by
  intro c hc
  simpa using ne_of_mem_of_not_mem hc h

theorem newline_not_mem_takeWhile (t : Text) : '\n' ∉ t.takeWhile (· ≠ '\n') := fun hn => by
  simpa using List.mem_takeWhile_imp hn

theorem takeWhile_of_not_mem (h : '\n' ∉ line) : line.takeWhile (· ≠ '\n') = line :=
  List.takeWhile_eq_self_iff.2 (all_ne_newline h)

theorem dropWhile_of_not_mem (h : '\n' ∉ line) : line.dropWhile (· ≠ '\n') = [] :=
  List.dropWhile_eq_nil_iff.2 (all_ne_newline h)

theorem takeWhile_append_newline_cons :
    (line ++ '\n' :: t).takeWhile (· ≠ '\n') = line.takeWhile (· ≠ '\n') := by
  rw [List.takeWhile_append]
  split
  · next hlength =>
    have hall := (List.takeWhile_prefix (· ≠ '\n')).eq_of_length hlength
    rw [hall, List.takeWhile_cons_of_neg (by simp), List.append_nil]
  · rfl

theorem dropWhile_append_newline_cons :
    (line ++ '\n' :: t).dropWhile (· ≠ '\n') = line.dropWhile (· ≠ '\n') ++ '\n' :: t := by
  rw [List.dropWhile_append]
  split
  · next hnil =>
    rw [List.isEmpty_iff.1 hnil, List.dropWhile_cons_of_neg (by simp), List.nil_append]
  · rfl

theorem takeWhile_append_newline (h : '\n' ∉ line) :
    (line ++ '\n' :: t).takeWhile (· ≠ '\n') = line :=
  takeWhile_append_cons (all_ne_newline h) (by simp)

theorem dropWhile_append_newline (h : '\n' ∉ line) :
    (line ++ '\n' :: t).dropWhile (· ≠ '\n') = '\n' :: t :=
  dropWhile_append_cons (all_ne_newline h) (by simp)

theorem takeWhile_joinLines_cons (h : '\n' ∉ line) :
    (joinLines (line :: lines)).takeWhile (· ≠ '\n') = line := by
  by_cases hl : lines = []
  · subst hl
    exact takeWhile_of_not_mem h
  · rw [joinLines_cons hl, takeWhile_append_newline h]

end Buildwatch.Text
