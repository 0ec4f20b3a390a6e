import Buildwatch.Config.Load
import Buildwatch.Proofs.Codec.Lawful
import Buildwatch.Proofs.Data.Edit

/-!
# Configurations with keys left out

A configuration file may leave out any key of any table. What it leaves out has its default, key
by key, and what it gives is taken, whatever else stands in the file.
-/

namespace Buildwatch

/-! ## Defaults -/

/-- The arguments where these keys have their defaults. -/
def ToolArguments.without (deleted : Keys) (a : ToolArguments) : ToolArguments where
  global := deleted.pick "global" [] a.global
  build := deleted.pick "build" [] a.build
  test := deleted.pick "test" [] a.test
  bench := deleted.pick "bench" [] a.bench
  clean := deleted.pick "clean" [] a.clean

def CabalConfig.without (deleted : Keys) (c : CabalConfig) : CabalConfig where
  program := deleted.pick "program" "cabal" c.program
  runHpack := deleted.pick "run_hpack" true c.runHpack
  hpackProgram := deleted.pick "hpack_program" "hpack" c.hpackProgram
  arguments := deleted.pick "arguments" {} (c.arguments.without (deleted.under "arguments"))

def StackConfig.without (deleted : Keys) (c : StackConfig) : StackConfig where
  program := deleted.pick "program" "stack" c.program
  arguments := deleted.pick "arguments" {} (c.arguments.without (deleted.under "arguments"))

def ManifestConfig.without (deleted : Keys) (c : ManifestConfig) : ManifestConfig where
  command := deleted.pick "command" ["cabal2json"] c.command

/-- The configuration where these keys have their defaults. -/
def BuildConfig.without (deleted : Keys) (c : BuildConfig) : BuildConfig where
  builder := deleted.pick "builder" none c.builder
  cabal := deleted.pick "cabal" {} (c.cabal.without (deleted.under "cabal"))
  stack := deleted.pick "stack" {} (c.stack.without (deleted.under "stack"))
  manifest := deleted.pick "manifest" {} (c.manifest.without (deleted.under "manifest"))

/-! ## Simple values -/

variable (dialect : Dialect) {deleted : Keys} {d : Data}

theorem Data.string?_edited {s : String} (edited : Data.Edited deleted (.string s) d) :
    d.string? = some s := by
  rw [edited.eq_of_plain (by simp)]
  rfl

theorem Data.bool?_edited {b : Bool} (edited : Data.Edited deleted (.bool b) d) :
    d.bool? = some b := by
  rw [edited.eq_of_plain (by simp)]
  rfl

theorem Data.strings?_strings (items : List String) :
    Data.strings? (.strings items) = some items :=
  Lawful.string.list.decode_encode items

theorem Data.strings?_edited {items : List String}
    (edited : Data.Edited deleted (.strings items) d) : Data.strings? d = some items := by
  rw [edited.eq_of_plain (by simp [strings])]
  exact strings?_strings items

theorem Builder.nullable?_edited {builder : Option Builder}
    (edited : Data.Edited deleted (.ofOption Builder.toData builder) d) :
    d.nullable? (Builder.ofData? dialect) = some builder := by
  rw [edited.eq_of_plain (by cases builder <;> simp [Data.ofOption, Builder.toData])]
  cases builder with
  | none => rfl
  | some builder => cases builder <;> rfl

/-! ## Tables -/

theorem ToolArguments.ofData?_edited {a : ToolArguments} (edited : Data.Edited deleted a.toData d) :
    ToolArguments.ofData? dialect d = some (a.without deleted) := by
  obtain ⟨fields, hfields, hfinds⟩ := edited.exists_fields dialect
    ["global", "build", "test", "bench", "clean"] rfl (by decide)
  have hglobal := Fields.withDefault_of_finds [] a.global (hfinds "global" _ (by simp))
    fun _ => Data.strings?_edited
  have hbuild := Fields.withDefault_of_finds [] a.build (hfinds "build" _ (by simp))
    fun _ => Data.strings?_edited
  have htest := Fields.withDefault_of_finds [] a.test (hfinds "test" _ (by simp))
    fun _ => Data.strings?_edited
  have hbench := Fields.withDefault_of_finds [] a.bench (hfinds "bench" _ (by simp))
    fun _ => Data.strings?_edited
  have hclean := Fields.withDefault_of_finds [] a.clean (hfinds "clean" _ (by simp))
    fun _ => Data.strings?_edited
  simp [ofData?, hfields, hglobal, hbuild, htest, hbench, hclean, without]

theorem CabalConfig.ofData?_edited {c : CabalConfig} (edited : Data.Edited deleted c.toData d) :
    CabalConfig.ofData? dialect d = some (c.without deleted) := by
  obtain ⟨fields, hfields, hfinds⟩ := edited.exists_fields dialect
    ["program", "run_hpack", "hpack_program", "arguments"] rfl (by decide)
  have hprogram := Fields.withDefault_of_finds "cabal" c.program (hfinds "program" _ (by simp))
    fun _ => Data.string?_edited
  have hrunHpack := Fields.withDefault_of_finds true c.runHpack (hfinds "run_hpack" _ (by simp))
    fun _ => Data.bool?_edited
  have hhpackProgram := Fields.withDefault_of_finds "hpack" c.hpackProgram
    (hfinds "hpack_program" _ (by simp)) fun _ => Data.string?_edited
  have harguments := Fields.withDefault_of_finds {} _
    (hfinds "arguments" c.arguments.toData (by simp))
    fun _ => ToolArguments.ofData?_edited dialect
  simp [ofData?, hfields, hprogram, hrunHpack, hhpackProgram, harguments, without]

theorem StackConfig.ofData?_edited {c : StackConfig} (edited : Data.Edited deleted c.toData d) :
    StackConfig.ofData? dialect d = some (c.without deleted) := by
  obtain ⟨fields, hfields, hfinds⟩ := edited.exists_fields dialect ["program", "arguments"] rfl
    (by decide)
  have hprogram := Fields.withDefault_of_finds "stack" c.program (hfinds "program" _ (by simp))
    fun _ => Data.string?_edited
  have harguments := Fields.withDefault_of_finds {} _
    (hfinds "arguments" c.arguments.toData (by simp))
    fun _ => ToolArguments.ofData?_edited dialect
  simp [ofData?, hfields, hprogram, harguments, without]

theorem ManifestConfig.ofData?_edited {c : ManifestConfig}
    (edited : Data.Edited deleted c.toData d) :
    ManifestConfig.ofData? dialect d = some (c.without deleted) := by
  obtain ⟨fields, hfields, hfinds⟩ := edited.exists_fields dialect ["command"] rfl (by decide)
  have hcommand := Fields.withDefault_of_finds ["cabal2json"] c.command
    (hfinds "command" _ (by simp)) fun _ => Data.strings?_edited
  simp [ofData?, hfields, hcommand, without]

theorem BuildConfig.ofData?_edited {c : BuildConfig} (edited : Data.Edited deleted c.toData d) :
    BuildConfig.ofData? dialect d = some (c.without deleted) := by
  obtain ⟨fields, hfields, hfinds⟩ := edited.exists_fields dialect
    ["builder", "cabal", "stack", "manifest"] rfl (by decide)
  have hbuilder := Fields.withDefault_of_finds none c.builder (hfinds "builder" _ (by simp))
    fun _ => Builder.nullable?_edited dialect
  have hcabal := Fields.withDefault_of_finds {} _ (hfinds "cabal" c.cabal.toData (by simp))
    fun _ => CabalConfig.ofData?_edited dialect
  have hstack := Fields.withDefault_of_finds {} _ (hfinds "stack" c.stack.toData (by simp))
    fun _ => StackConfig.ofData?_edited dialect
  have hmanifest := Fields.withDefault_of_finds {} _
    (hfinds "manifest" c.manifest.toData (by simp))
    fun _ => ManifestConfig.ofData?_edited dialect
  simp [ofData?, hfields, hbuilder, hcabal, hstack, hmanifest, without]

/-! ## Files -/

/-- A file is decoded as what its text denotes. -/
theorem ConfigFile.decode_of_parse {path : Path} {bytes : List UInt8} {c : BuildConfig}
    (parsed : (Utf8.decode? bytes).bind Toml.parse? = some d)
    (decoded : BuildConfig.ofData? .toml d = some c) : decode path bytes = .ok c := by
  obtain ⟨text, htext, hd⟩ := Option.bind_eq_some_iff.1 parsed
  simp [decode, htext, hd, decoded]

/-- **Every key has its own default.** From a configuration as data, keys are deleted at any
depth, unknown keys are added and all is reordered. What is decoded from the rest is the
configuration where the deleted keys, and no others, have their defaults; so it is from a file
that denotes the rest. Without a deletion the configuration comes back. When everything is
deleted, the defaults are left: no builder, hpack before cabal, the common names of the programs
and no arguments. -/
theorem BuildConfig.ofData?_overlay (dialect : Dialect) (c : BuildConfig) :
    (∀ deleted d, Data.Edited deleted c.toData d →
      BuildConfig.ofData? dialect d = some (c.without deleted) ∧
      ∀ path bytes, (Utf8.decode? bytes).bind Toml.parse? = some d →
        ConfigFile.decode path bytes = .ok (c.without deleted)) ∧
    (∀ deleted, BuildConfig.ofData? dialect (c.toData.without deleted) =
      some (c.without deleted)) ∧
    BuildConfig.ofData? dialect c.toData = some c ∧
    BuildConfig.ofData? dialect (.record []) = some
      { builder := none
        cabal := ⟨"cabal", true, "hpack", ⟨[], [], [], [], []⟩⟩
        stack := ⟨"stack", ⟨[], [], [], [], []⟩⟩
        manifest := ⟨["cabal2json"]⟩ } := by
  have hwithout (deleted : Keys) :
      BuildConfig.ofData? dialect (c.toData.without deleted) = some (c.without deleted) :=
    ofData?_edited dialect (Data.edited_without deleted c.toData)
  refine ⟨fun deleted d edited => ⟨ofData?_edited dialect edited, fun path bytes parsed => ?_⟩,
    hwithout,
    ?_, ?_⟩
  · exact ConfigFile.decode_of_parse parsed (ofData?_edited .toml edited)
  · have hnone := hwithout .none
    rwa [Data.without_none] at hnone
  · exact hwithout .all

/-- Two keys of a table and a whole table are left out, unknown keys stand in two places, and the
order is another one. -/
theorem BuildConfig.ofData?_overlay_partial :
    let c : BuildConfig :=
      { builder := some .stack
        cabal := { program := "cabal-3.12", runHpack := false }
        stack := { program := "stack-2" } }
    let deleted : Keys := fun path =>
      path ∈ [["stack"], ["cabal", "program"], ["cabal", "arguments"]]
    let d : Data := .record
      [("cabal", .record [("jobs", .ofNat 4), ("run_hpack", .bool false),
          ("hpack_program", .string "hpack")]),
        ("builder", .string "stack"), ("manifest", .record [("command", .strings ["cabal2json"])]),
        ("colour", .broken)]
    Data.Edited deleted c.toData d ∧
      BuildConfig.ofData? .toml d = some
        { builder := some .stack, cabal := { runHpack := false } } := by
  intro c deleted d
  -- The tables inside are edited first, each with the deleted keys as they are seen from there.
  have hcabal : Data.Edited (deleted.under "cabal") c.cabal.toData (.record
      [("jobs", .ofNat 4), ("run_hpack", .bool false), ("hpack_program", .string "hpack")]) := by
    refine .record ?_ ?_ (List.perm_append_singleton _ _).symm
    · exact .delete rfl (.keep rfl (.value (by simp)) (.keep rfl (.value (by simp))
        (.delete rfl .nil)))
    · simp
  have hmanifest : Data.Edited (deleted.under "manifest") c.manifest.toData
      (.record [("command", .strings ["cabal2json"])]) := by
    refine .record (.keep rfl (.value ?_) .nil) (fun _ => List.not_mem_nil.elim) (.refl _)
    simp [Data.strings]
  have edited : Data.Edited deleted c.toData d := by
    refine @Data.Edited.record _ _ _ [("colour", .broken)] _
      (.keep rfl (.value ?_) (.keep rfl hcabal (.delete rfl (.keep rfl hmanifest .nil)))) ?_
      (.swap _ _ _)
    · simp [Data.ofOption, Builder.toData, c]
    · simp
  exact ⟨edited, ((ofData?_overlay .toml c).1 deleted d edited).1⟩

end Buildwatch
