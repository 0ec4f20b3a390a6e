import Buildwatch.Output.Blocks
import Buildwatch.Proofs.Text.Lines

/-!
# Blocks of a stream

The buffer gives the same blocks as grouping all lines at once. Blocks keep the lines as
they are, and each block begins at a line that begins a block, the first one aside.
-/

namespace Buildwatch

open Text (joinLines)

/-! ## Grouping -/

section Grouping

variable {line : Text} {lines : List Text}

/-- A group goes on until the next line that begins a block. -/
theorem groupLines_cons (line : Text) (lines : List Text) :
    groupLines (line :: lines) = (line :: lines.takeWhile (!startsBlock ·)) ::
      groupLines (lines.dropWhile (!startsBlock ·)) := by
  induction lines generalizing line with
  | nil => rfl
  | cons next lines ih =>
    rw [groupLines, ih next]
    cases h : startsBlock next with
    | true => simp [h, ih next]
    | false => simp [h]

theorem groupLines_eq_nil_iff : groupLines lines = [] ↔ lines = [] := by
  cases lines with
  | nil => simp [groupLines]
  | cons line lines => simp [groupLines_cons]

/-- Induction along the blocks of a stream of lines. -/
theorem groups_induction {P : List Text → Prop} (nil : P [])
    (cons : ∀ line lines, P (lines.dropWhile (!startsBlock ·)) → P (line :: lines)) :
    ∀ lines, P lines
  | [] => nil
  | line :: lines => cons line lines (groups_induction nil cons _)
termination_by lines => lines.length
decreasing_by exact Nat.lt_succ_of_le (List.dropWhile_sublist _).length_le

theorem flatten_groupLines (lines : List Text) : (groupLines lines).flatten = lines := by
  induction lines using groups_induction with
  | nil => rfl
  | cons line lines ih => simp [groupLines_cons, ih, List.takeWhile_append_dropWhile]

theorem ne_nil_of_mem_groupLines {group : List Text} (h : group ∈ groupLines lines) :
    group ≠ [] := by
  induction lines using groups_induction with
  | nil => simp [groupLines] at h
  | cons line lines ih =>
    rw [groupLines_cons] at h
    rcases List.mem_cons.1 h with rfl | h
    · simp
    · exact ih h

/-- The first line that stops a run of inner lines begins a block. -/
theorem startsBlock_of_mem_head?_dropWhile
    (h : line ∈ (lines.dropWhile (!startsBlock ·)).head?) : startsBlock line = true := by
  induction lines with
  | nil => simp at h
  | cons next lines ih =>
    cases hn : startsBlock next with
    | true =>
      obtain rfl : next = line := by simpa [hn] using h
      exact hn
    | false => exact ih (by simpa [hn] using h)

/-- If the first line of all begins a block, so does the first line of each group. -/
theorem startsBlock_of_mem_groupLines (h : ∀ line ∈ lines.head?, startsBlock line = true) :
    ∀ group ∈ groupLines lines, ∀ line ∈ group.head?, startsBlock line = true := by
  induction lines using groups_induction with
  | nil => simp [groupLines]
  | cons line lines ih =>
    intro group hgroup
    rw [groupLines_cons] at hgroup
    rcases List.mem_cons.1 hgroup with rfl | hgroup
    · exact h
    · exact ih (fun _ => startsBlock_of_mem_head?_dropWhile) group hgroup

/-- Whether lines are divided into the longest runs in which no line but the first begins a
block. -/
structure GroupsInto (lines : List Text) (groups : List (List Text)) : Prop where
  flatten_eq : groups.flatten = lines
  ne_nil : ∀ group ∈ groups, group ≠ []
  inner : ∀ group ∈ groups, ∀ line ∈ group.tail, startsBlock line = false
  /-- No run can be made longer. -/
  head : ∀ group ∈ groups.tail, ∀ line ∈ group.head?, startsBlock line = true

theorem groupsInto_groupLines (lines : List Text) : GroupsInto lines (groupLines lines) := by
  refine ⟨flatten_groupLines lines, fun _ => ne_nil_of_mem_groupLines, ?_, ?_⟩
  · induction lines using groups_induction with
    | nil => simp [groupLines]
    | cons line lines ih =>
      intro group hgroup
      rw [groupLines_cons] at hgroup
      rcases List.mem_cons.1 hgroup with rfl | hgroup
      · intro l hl
        simpa using List.mem_takeWhile_imp hl
      · exact ih group hgroup
  · cases lines with
    | nil => simp [groupLines]
    | cons line lines =>
      rw [groupLines_cons]
      exact startsBlock_of_mem_groupLines fun _ => startsBlock_of_mem_head?_dropWhile

/-- Lines are divided in exactly one way. -/
theorem groupsInto_iff {groups : List (List Text)} :
    GroupsInto lines groups ↔ groupLines lines = groups := by
  refine ⟨fun h => ?_, fun h => h ▸ groupsInto_groupLines lines⟩
  induction groups generalizing lines with
  | nil => rw [← h.flatten_eq, List.flatten_nil, groupLines]
  | cons group groups ih =>
    obtain ⟨line, rest, rfl⟩ := List.exists_cons_of_ne_nil (h.ne_nil group List.mem_cons_self)
    have hgroups : groupLines groups.flatten = groups := ih
      { flatten_eq := rfl
        ne_nil := fun g hg => h.ne_nil g (List.mem_cons_of_mem _ hg)
        inner := fun g hg => h.inner g (List.mem_cons_of_mem _ hg)
        head := fun g hg => h.head g (List.mem_of_mem_tail hg) }
    have hinner : ∀ l ∈ rest, (!startsBlock l) = true := fun l hl => by
      simp [h.inner _ List.mem_cons_self l hl]
    -- The first line of the next group ends this one.
    have hnext : groups.flatten.takeWhile (!startsBlock ·) = [] ∧
        groups.flatten.dropWhile (!startsBlock ·) = groups.flatten := by
      cases groups with
      | nil => exact ⟨rfl, rfl⟩
      | cons next groups =>
        obtain ⟨first, more, rfl⟩ := List.exists_cons_of_ne_nil (h.ne_nil next (by simp))
        have hfirst : startsBlock first = true := h.head _ List.mem_cons_self first rfl
        simp [hfirst]
    rw [← h.flatten_eq, List.flatten_cons, List.cons_append, groupLines_cons,
      List.takeWhile_append_of_pos hinner, List.dropWhile_append_of_pos hinner, hnext.1, hnext.2,
      hgroups, List.append_nil]

/-- Lines that come in groups are grouped that way, if exactly the first lines of the groups
begin blocks. -/
theorem groupLines_flatten {groups : List (List Text)}
    (h : ∀ group ∈ groups, ∃ line rest, group = line :: rest ∧ startsBlock line = true ∧
      ∀ l ∈ rest, startsBlock l = false) :
    groupLines groups.flatten = groups := by
  refine groupsInto_iff.1 ⟨rfl, fun group hg => ?_, fun group hg => ?_, fun group hg => ?_⟩
  · obtain ⟨line, rest, rfl, -⟩ := h group hg
    simp
  · obtain ⟨line, rest, rfl, -, hrest⟩ := h group hg
    exact hrest
  · obtain ⟨line, rest, rfl, hline, -⟩ := h group (List.mem_of_mem_tail hg)
    simpa using hline

/-- The lines at which blocks begin: the first line, and all others that begin a block. -/
def headLines : List Text → List Text
  | [] => []
  | line :: lines => line :: lines.filter startsBlock

theorem filter_startsBlock (lines : List Text) :
    lines.filter startsBlock = headLines (lines.dropWhile (!startsBlock ·)) := by
  induction lines with
  | nil => rfl
  | cons line lines ih =>
    cases h : startsBlock line with
    | true => simp [h, headLines]
    | false => simp [h, ih]

/-- The first lines of the groups are the lines at which blocks begin. -/
theorem map_firstLine_groupLines (h : ∀ line ∈ lines, '\n' ∉ line) :
    (groupLines lines).map (fun group => (joinLines group).takeWhile (· ≠ '\n')) =
      headLines lines := by
  induction lines using groups_induction with
  | nil => rfl
  | cons line lines ih =>
    have hline : '\n' ∉ line := h line List.mem_cons_self
    have hrest : ∀ l ∈ lines.dropWhile (!startsBlock ·), '\n' ∉ l := fun l hl =>
      h l (List.mem_cons_of_mem _ ((List.dropWhile_sublist _).mem hl))
    rw [groupLines_cons, List.map_cons, ih hrest, Text.takeWhile_joinLines_cons hline, headLines,
      filter_startsBlock]

theorem blocksOf_eq (h : lines ≠ []) : blocksOf lines = (groupLines lines).map joinLines := by
  rw [blocksOf]
  split
  · next heq => exact absurd (groupLines_eq_nil_iff.1 heq) h
  · rfl

/-- Joining the blocks gives the lines as they were. -/
theorem joinLines_blocksOf (lines : List Text) : joinLines (blocksOf lines) = joinLines lines := by
  by_cases h : lines = []
  · subst h
    rfl
  · rw [blocksOf_eq h, Text.joinLines_map_joinLines fun _ => ne_nil_of_mem_groupLines,
      flatten_groupLines]

/-- The first lines of the blocks; a stream without lines has one empty block. -/
theorem map_firstLine_blocksOf (h : ∀ line ∈ lines, '\n' ∉ line) :
    (blocksOf lines).map (·.takeWhile (· ≠ '\n')) =
      if lines = [] then [[]] else headLines lines := by
  by_cases hl : lines = []
  · subst hl
    rfl
  · rw [blocksOf_eq hl, if_neg hl, List.map_map]
    exact map_firstLine_groupLines h

end Grouping

/-! ## The buffer -/

namespace BlockBuffer

variable {b : BlockBuffer} {line remainder : Text} {lines rest : List Text}

/-- The blocks that the buffer still gives if these lines come and the stream ends. -/
def blocksWith (b : BlockBuffer) (lines : List Text) : List Text :=
  (b.pushAll lines).1 ++ [(b.pushAll lines).2.text]

theorem blocksWith_nil : b.blocksWith [] = [b.text] := rfl

theorem blocksWith_cons :
    b.blocksWith (line :: lines) = (b.push line).1.toList ++ (b.push line).2.blocksWith lines := by
  simp [blocksWith, pushAll]

/-- Taking lines gives the first of the blocks and leaves the others. -/
theorem blocksWith_append :
    b.blocksWith (lines ++ rest) = (b.pushAll lines).1 ++ (b.pushAll lines).2.blocksWith rest := by
  induction lines generalizing b with
  | nil => rfl
  | cons line lines ih =>
    rw [List.cons_append, blocksWith_cons, ih, pushAll]
    simp

theorem finish_eq :
    b.finish remainder = b.blocksWith (if remainder = [] then [] else [remainder]) := by
  rw [finish]
  split
  · rfl
  · rw [blocksWith_cons, blocksWith_nil]

/-- A waiting block is completed by the next line that begins a block. -/
theorem blocksWith_of_ne_nil (h : b.lines ≠ []) :
    b.blocksWith lines = joinLines (b.lines.reverse ++ lines.takeWhile (!startsBlock ·)) ::
      (groupLines (lines.dropWhile (!startsBlock ·))).map joinLines := by
  -- By the lines to come: each begins the next block or is added to the waiting one.
  induction lines generalizing b with
  | nil => simp [blocksWith_nil, text, groupLines]
  | cons line lines ih =>
    rw [blocksWith_cons]
    cases hs : startsBlock line with
    | true =>
      have hpush : b.push line = (some b.text, ⟨[line]⟩) := by simp [push, isEmpty, hs, h]
      rw [hpush, ih (by simp)]
      simp [hs, groupLines_cons, text]
    | false =>
      have hpush : b.push line = (none, ⟨line :: b.lines⟩) := by simp [push, hs]
      rw [hpush, ih (by simp)]
      simp [hs]

/-- A fresh buffer gives the blocks of all lines. -/
theorem blocksWith_fresh (lines : List Text) : blocksWith {} lines = blocksOf lines := by
  cases lines with
  | nil => rfl
  | cons line lines =>
    have hpush : push {} line = (none, ⟨[line]⟩) := rfl
    rw [blocksWith_cons, hpush, blocksWith_of_ne_nil (by simp), blocksOf_eq (by simp),
      groupLines_cons]
    simp

end BlockBuffer

end Buildwatch
