import Buildwatch.Machine.Files
import Buildwatch.Proofs.Path

/-!
# Where paths lead

A path is walked name by name: a directory is entered, and a link is replaced by the names of
its target, which may be links again. The walk finds what a path leads to in this sense, as
long as there are not too many links on the way.
-/

namespace Buildwatch.Machine.Files

variable {files : Files} {follow : Bool} {links fuel : Nat} {place goal : Place}
  {names : List String} {node : Node}

/-- Whether the directory at a place has an entry with this name and node. -/
structure IsEntry (files : Files) (place : Place) (name : String) (node : Node) : Prop where
  ne_dot : name ≠ "."
  ne_dots : name ≠ ".."
  fits : name.utf8ByteSize ≤ 255
  found : files.node? (place ++ [name]) = some node

/-- Whether names lead from a directory to a place, over so many links and with so many steps
in all. -/
inductive Leads (files : Files) : (links steps : Nat) → Place → List String → Place → Prop
  | here (place : Place) : Leads files 0 0 place [] place
  | stay {links steps : Nat} {place goal : Place} {rest : List String}
      (later : Leads files links steps place rest goal) :
      Leads files links (steps + 1) place ("." :: rest) goal
  | leave {links steps : Nat} {place goal : Place} {rest : List String}
      (later : Leads files links steps place.dropLast rest goal) :
      Leads files links (steps + 1) place (".." :: rest) goal
  | enter {links steps : Nat} {place goal : Place} {name : String} {rest : List String}
      {node : Node} (entry : files.IsEntry place name node)
      (isDirectory : node.content = .directory)
      (later : Leads files links steps (place ++ [name]) rest goal) :
      Leads files links (steps + 1) place (name :: rest) goal
  | reach {place : Place} {name : String} {node : Node} (entry : files.IsEntry place name node)
      (not_directory : node.content ≠ .directory)
      (not_link : ∀ target, node.content ≠ .link target) :
      Leads files 0 0 place [name] (place ++ [name])
  | follow {links steps : Nat} {place goal : Place} {name target : String} {rest : List String}
      {node : Node} (entry : files.IsEntry place name node) (isLink : node.content = .link target)
      (later : Leads files links steps (if Path.isAbsolute target then [] else place)
        (namesOf target ++ rest) goal) :
      Leads files (links + 1) (steps + 1) place (name :: rest) goal

/-- What a walk finds is where the names lead. -/
theorem exists_leads_of_walk (hfollow : follow = true)
    (h : walk files follow fuel links place names = .ok (goal, some node)) :
    files.node? goal = some node ∧
      ∃ l s, l ≤ links ∧ s < fuel ∧ Leads files l s place names goal := by
  fun_induction walk files follow fuel links place names with
  -- A walk that fails or ends where nothing is finds no node, and every link is followed.
  | case1 | case5 | case6 | case7 | case9 | case13 => simp at h
  | case8 => simp_all
  | case2 links fuel place =>
    obtain ⟨rfl, hnode⟩ := by simpa using h
    exact ⟨hnode, 0, 0, Nat.zero_le _, Nat.succ_pos _, .here place⟩
  | case3 fuel links place rest ih =>
    obtain ⟨hnode, l, s, hl, hs, hlater⟩ := ih h
    exact ⟨hnode, l, s + 1, hl, Nat.succ_lt_succ hs, .stay hlater⟩
  | case4 fuel links place rest ih =>
    obtain ⟨hnode, l, s, hl, hs, hlater⟩ := ih h
    exact ⟨hnode, l, s + 1, hl, Nat.succ_lt_succ hs, .leave hlater⟩
  | case10 fuel place name rest hdot hdots hfits here entry hfound target hlink _ links ih =>
    obtain ⟨hnode, l, s, hl, hs, hlater⟩ := ih h
    have hentry : files.IsEntry place name entry := ⟨hdot, hdots, Nat.le_of_not_lt hfits, hfound⟩
    exact ⟨hnode, l + 1, s + 1, Nat.succ_le_succ hl, Nat.succ_lt_succ hs,
      .follow hentry hlink hlater⟩
  | case11 fuel links place name rest hdot hdots hfits here entry hfound hdirectory ih =>
    obtain ⟨hnode, l, s, hl, hs, hlater⟩ := ih h
    have hentry : files.IsEntry place name entry := ⟨hdot, hdots, Nat.le_of_not_lt hfits, hfound⟩
    exact ⟨hnode, l, s + 1, hl, Nat.succ_lt_succ hs, .enter hentry hdirectory hlater⟩
  | case12 fuel links place name hdot hdots hfits here entry hfound hlink hdirectory =>
    obtain ⟨rfl, rfl⟩ := by simpa using h
    have hentry : files.IsEntry place name entry := ⟨hdot, hdots, Nat.le_of_not_lt hfits, hfound⟩
    exact ⟨hfound, 0, 0, Nat.zero_le _, Nat.succ_pos _, .reach hentry hdirectory hlink⟩

/-- The walk looks at the node of an entry. -/
theorem IsEntry.walk_eq {name : String} {rest : List String}
    (entry : files.IsEntry place name node) :
    walk files true (fuel + 1) links place (name :: rest) =
      match node.content with
      | .link target =>
        match links with
        | 0 => .error .tooManyLinks
        | links + 1 =>
          walk files true fuel links (if Path.isAbsolute target then [] else place)
            (namesOf target ++ rest)
      | .directory => walk files true fuel links (place ++ [name]) rest
      | _ => if rest = [] then .ok (place ++ [name], some node) else .error .notDirectory := by
  rw [walk]
  · simp only [Nat.not_lt.2 entry.fits, entry.found]
    cases node.content <;> cases links <;> simp
  · exact entry.ne_dot
  · exact entry.ne_dots

/-- A walk finds where the names lead, with links and steps to spare. -/
theorem Leads.walk_eq {l s : Nat} (h : Leads files l s place names goal)
    (hnode : files.node? goal = some node) (links fuel : Nat) :
    walk files true (fuel + s + 1) (links + l) place names = .ok (goal, some node) := by
  induction h with
  | here place => simp [walk, hnode]
  | stay later ih | leave later ih =>
    rw [walk]
    exact ih hnode
  | enter entry isDirectory later ih =>
    rw [entry.walk_eq, isDirectory]
    exact ih hnode
  | @reach place name entryNode entry not_directory not_link =>
    obtain rfl : entryNode = node := Option.some_inj.1 (entry.found.symm.trans hnode)
    rw [entry.walk_eq]
    split <;> simp_all
  | follow entry isLink later ih =>
    rw [entry.walk_eq, isLink]
    exact ih hnode

/-- Whether a path leads from a directory to a place, links followed. -/
def LeadsTo (files : Files) (cwd : Place) (path : Path) (goal : Place) : Prop :=
  ∃ text : String, path = text ∧ text ≠ "" ∧ text.utf8ByteSize < 4096 ∧
    ∃ links steps, links ≤ maxLinks ∧ steps < maxSteps ∧
      Leads files links steps (if Path.isAbsolute path then [] else cwd) (namesOf text) goal

theorem locate_eq_ok_iff {cwd : Place} {path : Path} :
    files.locate true cwd path = .ok (goal, some node) ↔
      files.LeadsTo cwd path goal ∧ files.node? goal = some node := by
  unfold locate LeadsTo
  constructor
  · intro h
    split at h
    · simp at h
    · next text htext =>
      split at h
      · simp at h
      · next hne =>
        split at h
        · simp at h
        · next hshort =>
          obtain ⟨hnode, l, s, hl, hs, hleads⟩ := exists_leads_of_walk rfl h
          exact ⟨⟨text, Path.text?_eq_some_iff.1 htext, hne, Nat.lt_of_not_le hshort, l, s, hl, hs,
            hleads⟩, hnode⟩
  · rintro ⟨⟨text, htext, hne, hshort, l, s, hl, hs, hleads⟩, hnode⟩
    obtain ⟨spare, hlinks⟩ := Nat.exists_eq_add_of_le' hl
    obtain ⟨more, hsteps⟩ := Nat.exists_eq_add_of_le' hs
    rw [Path.text?_eq_some_iff.2 htext]
    dsimp only
    rw [if_neg hne, if_neg (Nat.not_le.2 hshort), hlinks, hsteps]
    exact hleads.walk_eq hnode spare more

theorem find_eq_ok_iff {cwd : Place} {path : Path} :
    files.find true cwd path = .ok (goal, node) ↔
      files.LeadsTo cwd path goal ∧ files.node? goal = some node := by
  rw [← locate_eq_ok_iff, find]
  rcases files.locate true cwd path with e | ⟨place, _ | found⟩
  · simp [bind, Except.bind]
  · simp [bind, Except.bind]
  · simp [bind, Except.bind]

/-- A path is that of a file exactly if it leads to one. -/
theorem isFile_eq_true_iff {cwd : Place} {path : Path} :
    files.isFile cwd path = true ↔
      ∃ goal node, files.LeadsTo cwd path goal ∧ files.node? goal = some node ∧
        node.isFile = true := by
  have hfound : ∀ answer : Except FileError (Place × Node),
      answer.toOption.any (·.2.isFile) = true ↔
        ∃ goal node, answer = .ok (goal, node) ∧ node.isFile = true := by
    rintro (e | ⟨goal, node⟩)
    · simp [Except.toOption]
    · constructor
      · exact fun h => ⟨goal, node, rfl, h⟩
      · rintro ⟨_, _, heq, h⟩
        cases heq
        exact h
  simp only [isFile, hfound, find_eq_ok_iff, and_assoc]

end Buildwatch.Machine.Files
