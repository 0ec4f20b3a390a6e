import Buildwatch.CommandLine.Basic
import Buildwatch.Machine.Workspace
import Buildwatch.Proofs.Machine.Walk
import Buildwatch.Proofs.Text.Utf8

/-!
# The first configuration file counts

Of all places that are searched for a configuration, the first one at which there is something
decides: what is there is the configuration, or else the error. The defaults are used where
nothing is found anywhere.
-/

namespace Buildwatch

/-- The place that an error is about. -/
def ConfigError.path : ConfigError → Path
  | .unreadable path _ | .malformed path => path

namespace ConfigFile

variable {look look' : Path → Found} {path : Path} {paths paths' : List Path}
  {result : Except ConfigError BuildConfig}

/-! ## One file -/

/-- What comes of what is found at a place. -/
inductive Reads (path : Path) : Found → Except ConfigError BuildConfig → Prop
  | unreadable (reason : String) :
      Reads path (.unreadable reason) (.error (.unreadable path reason))
  | notText {bytes : List UInt8} (no_text : ∀ t, bytes ≠ Utf8.encode t) :
      Reads path (.bytes bytes) (.error (.unreadable path notText))
  | malformed {t : Text} (no_config : (Toml.parse? t).bind (BuildConfig.ofData? .toml) = none) :
      Reads path (.bytes (Utf8.encode t)) (.error (.malformed path))
  | config {t : Text} {c : BuildConfig}
      (decoded : (Toml.parse? t).bind (BuildConfig.ofData? .toml) = some c) :
      Reads path (.bytes (Utf8.encode t)) (.ok c)

/-- What is found at a place that is searched alone is read. -/
theorem load_singleton_eq_iff (h : look path ≠ .nothing) :
    load look [path] = result ↔ Reads path (look path) result := by
  rw [load]
  generalize look path = found at h ⊢
  constructor
  · rintro rfl
    cases found with
    | nothing => exact absurd rfl h
    | unreadable reason => exact .unreadable reason
    | bytes bytes =>
      -- Only what is text can be a configuration, or fail to be one.
      dsimp only [decode]
      cases ht : Utf8.decode? bytes with
      | none =>
        refine .notText fun t hbytes => ?_
        rw [Utf8.decode?_eq_some_iff.2 hbytes] at ht
        cases ht
      | some t =>
        obtain rfl := Utf8.decode?_eq_some_iff.1 ht
        dsimp only
        cases hc : (Toml.parse? t).bind (BuildConfig.ofData? .toml) with
        | none => exact .malformed hc
        | some c => exact .config hc
  · intro reads
    cases reads with
    | unreadable reason => rfl
    | notText no_text =>
      have hnone : Utf8.decode? _ = none := Option.eq_none_iff_forall_ne_some.2
        fun t ht => no_text t (Utf8.decode?_eq_some_iff.1 ht)
      simp [decode, hnone]
    | malformed no_config => simp [decode, Utf8.decode?_eq_some_iff.2 rfl, no_config]
    | config decoded => simp [decode, Utf8.decode?_eq_some_iff.2 rfl, decoded]

theorem load_singleton_congr (same : look path = look' path) :
    load look [path] = load look' [path] := by
  simp only [load, same]

/-- An error in a file is about its place. -/
theorem Reads.path_eq {found : Found} {e : ConfigError} (h : Reads path found (.error e)) :
    e.path = path := by
  cases h <;> rfl

/-! ## All places -/

/-- Whether a place is the first of those that are searched at which there is something. -/
def IsFirstFound (look : Path → Found) (paths : List Path) (path : Path) : Prop :=
  ∃ before after, paths = before ++ path :: after ∧ (∀ p ∈ before, look p = .nothing) ∧
    look path ≠ .nothing

/-- What comes of searching places. -/
inductive Loads (look : Path → Found) (paths : List Path) :
    Except ConfigError BuildConfig → Prop
  | first {path : Path} {result : Except ConfigError BuildConfig}
      (isFirst : IsFirstFound look paths path) (reads : Reads path (look path) result) :
      Loads look paths result
  | defaults (nothing : ∀ path ∈ paths, look path = .nothing) : Loads look paths (.ok {})

/-- Places at which there is nothing are passed over. -/
theorem load_append {before : List Path} (h : ∀ p ∈ before, look p = .nothing)
    (paths : List Path) : load look (before ++ paths) = load look paths := by
  induction before with
  | nil => rfl
  | cons p before ih =>
    rw [List.cons_append, load, h p List.mem_cons_self]
    exact ih fun q hq => h q (List.mem_cons_of_mem _ hq)

/-- What is found first decides, whatever comes after it. -/
theorem load_of_isFirstFound (h : IsFirstFound look paths path) :
    load look paths = load look [path] := by
  obtain ⟨before, after, rfl, hbefore, hpath⟩ := h
  rw [load_append hbefore, load, load]
  cases hfound : look path with
  | nothing => exact absurd hfound hpath
  | unreadable reason => rfl
  | bytes bytes => rfl

theorem IsFirstFound.ne_nothing (h : IsFirstFound look paths path) : look path ≠ .nothing := by
  obtain ⟨-, -, -, -, hpath⟩ := h
  exact hpath

theorem exists_isFirstFound_or (look : Path → Found) (paths : List Path) :
    (∃ path, IsFirstFound look paths path) ∨ ∀ path ∈ paths, look path = .nothing := by
  induction paths with
  | nil => exact .inr fun _ => List.not_mem_nil.elim
  | cons p paths ih =>
    by_cases hp : look p = .nothing
    · obtain ⟨path, before, after, rfl, hbefore, hpath⟩ | hnothing := ih
      · exact .inl ⟨path, p :: before, after, rfl, List.forall_mem_cons.2 ⟨hp, hbefore⟩, hpath⟩
      · exact .inr (List.forall_mem_cons.2 ⟨hp, hnothing⟩)
    · exact .inl ⟨p, [], paths, rfl, fun _ => List.not_mem_nil.elim, hp⟩

theorem load_eq_iff : load look paths = result ↔ Loads look paths result := by
  have hdefaults (h : ∀ path ∈ paths, look path = .nothing) : load look paths = .ok {} := by
    have hload := load_append h []
    rwa [List.append_nil, load] at hload
  constructor
  · rintro rfl
    obtain ⟨path, hfirst⟩ | hnothing := exists_isFirstFound_or look paths
    · rw [load_of_isFirstFound hfirst]
      exact .first hfirst ((load_singleton_eq_iff hfirst.ne_nothing).1 rfl)
    · rw [hdefaults hnothing]
      exact .defaults hnothing
  · intro loads
    cases loads with
    | first isFirst reads =>
      rw [load_of_isFirstFound isFirst]
      exact (load_singleton_eq_iff isFirst.ne_nothing).2 reads
    | defaults nothing => exact hdefaults nothing

/-- Two searches that find the same at the same place have the same result. -/
theorem load_congr (h : IsFirstFound look paths path) (h' : IsFirstFound look' paths' path)
    (same : look path = look' path) : load look paths = load look' paths' := by
  rw [load_of_isFirstFound h, load_of_isFirstFound h', load_singleton_congr same]

theorem isFirstFound_of_load_eq_error {e : ConfigError} (h : load look paths = .error e) :
    IsFirstFound look paths e.path := by
  cases load_eq_iff.1 h with
  | first isFirst reads =>
    rw [reads.path_eq]
    exact isFirst

end ConfigFile

/-! ## The files of a machine -/

namespace Machine.Launcher

variable {l : Launcher} {path : Path}

/-- What is found where a path leads to this content. A device and a program of the machine are
read as empty. -/
def foundOf : Content → ConfigFile.Found
  | .file r => .bytes (Raw.toBytes r)
  | .directory => .unreadable FileError.isDirectory.message
  | _ => .bytes []

/-- What is found at a path is what it leads to, links followed. -/
theorem look_of_leadsTo {goal : Place} {node : Node}
    (leads : l.state.files.LeadsTo l.home path goal)
    (hnode : l.state.files.node? goal = some node) :
    look l path = foundOf node.content := by
  have hfind : l.state.files.find true l.home path = .ok (goal, node) :=
    Files.find_eq_ok_iff.2 ⟨leads, hnode⟩
  rw [look, Files.isThere, Files.read, hfind]
  simp only [bind, Except.bind, Except.toOption, Option.isSome_some, if_true]
  cases node.content <;> rfl

/-- Nothing is found at a path that leads nowhere. -/
theorem look_of_not_leadsTo
    (h : ∀ goal, l.state.files.LeadsTo l.home path goal → l.state.files.node? goal = none) :
    look l path = .nothing := by
  rw [look, Files.isThere]
  cases hfind : l.state.files.find true l.home path with
  | error e => rfl
  | ok found =>
    obtain ⟨leads, hnode⟩ := Files.find_eq_ok_iff.1 hfind
    rw [h _ leads] at hnode
    cases hnode

end Machine.Launcher

/-! ## The configuration of a build -/

namespace CommandLine

open ConfigFile Machine

variable {ω : Type} [Workspace ω]

/-- **The first file counts, for better or worse.** A search ends at the first place at which
there is something: if that cannot be read, is no text or is no configuration, the result is an
error about this very place, and otherwise it is the configuration there; without such a place it
is the default. So two searches with the same first find have the same result, whatever else
there is. With a place given on the command line there is no other place to be searched. On a
machine, that is found to which a path leads through its links. -/
theorem configuration_of_first_found (look look' : Path → Found) (paths paths' : List Path)
    (environment environment' : List (String × String)) (o : Options) (root root' : Path)
    (w w' : ω) (l : Launcher) :
    (∀ result, load look paths = result ↔ Loads look paths result) ∧
    (∀ path, IsFirstFound look paths path → IsFirstFound look' paths' path →
      look path = look' path → load look paths = load look' paths') ∧
    (∀ e, load look paths = .error e → IsFirstFound look paths e.path) ∧
    (∀ path, o.config = some path →
      Loads (Workspace.look w) [path] (configFor environment o root w) ∧
      (Workspace.look w path = Workspace.look w' path →
        configFor environment o root w = configFor environment' o root' w')) ∧
    ∀ path,
      (∀ goal node, l.state.files.LeadsTo l.home path goal →
        l.state.files.node? goal = some node →
        Workspace.look l path = Launcher.foundOf node.content) ∧
      ((∀ goal, l.state.files.LeadsTo l.home path goal → l.state.files.node? goal = none) →
        Workspace.look l path = .nothing) := by
  refine ⟨fun _ => load_eq_iff, fun _ => load_congr, fun _ => isFirstFound_of_load_eq_error, ?_,
    fun path => ⟨fun _ _ => Launcher.look_of_leadsTo, Launcher.look_of_not_leadsTo⟩⟩
  intro path hpath
  have hconfig (environment : List (String × String)) (root : Path) (w : ω) :
      configFor environment o root w = load (Workspace.look w) [path] := by
    simp only [configFor, hpath]
  rw [hconfig, hconfig]
  exact ⟨load_eq_iff.1 rfl, load_singleton_congr⟩

end CommandLine

end Buildwatch
