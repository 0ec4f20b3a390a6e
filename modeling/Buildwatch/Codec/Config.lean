import Buildwatch.Config.Basic
import Buildwatch.Data.Record

/-!
# Configuration as data

Encoding and decoding of the configuration. Every field has its default, also
inside a table of which other fields are given.
-/

namespace Buildwatch

/-! ## Commands and builders -/

def BuildCommand.toData (c : BuildCommand) : Data := .string c.verb

def BuildCommand.ofData? (dialect : Dialect) : Data → Option BuildCommand :=
  Data.variant? dialect BuildCommand.verb BuildCommand.all

def Builder.toData (b : Builder) : Data := .string b.name

def Builder.ofData? (dialect : Dialect) : Data → Option Builder :=
  Data.variant? dialect Builder.name Builder.all

/-! ## Tables -/

def Data.strings? : Data → Option (List String) := Data.list? Data.string?

def ToolArguments.toData (a : ToolArguments) : Data :=
  .record [("global", .strings a.global), ("build", .strings a.build), ("test", .strings a.test),
    ("bench", .strings a.bench), ("clean", .strings a.clean)]

def ToolArguments.ofData? (dialect : Dialect) (d : Data) : Option ToolArguments := do
  let f ← Fields.ofData? dialect ["global", "build", "test", "bench", "clean"] d
  let default : ToolArguments := {}
  let global ← f.withDefault "global" default.global Data.strings?
  let build ← f.withDefault "build" default.build Data.strings?
  let test ← f.withDefault "test" default.test Data.strings?
  let bench ← f.withDefault "bench" default.bench Data.strings?
  let clean ← f.withDefault "clean" default.clean Data.strings?
  some { global, build, test, bench, clean }

def CabalConfig.toData (c : CabalConfig) : Data :=
  .record [("program", .string c.program), ("run_hpack", .bool c.runHpack),
    ("hpack_program", .string c.hpackProgram), ("arguments", c.arguments.toData)]

def CabalConfig.ofData? (dialect : Dialect) (d : Data) : Option CabalConfig := do
  let f ← Fields.ofData? dialect ["program", "run_hpack", "hpack_program", "arguments"] d
  let default : CabalConfig := {}
  let program ← f.withDefault "program" default.program Data.string?
  let runHpack ← f.withDefault "run_hpack" default.runHpack Data.bool?
  let hpackProgram ← f.withDefault "hpack_program" default.hpackProgram Data.string?
  let arguments ← f.withDefault "arguments" default.arguments (ToolArguments.ofData? dialect)
  some { program, runHpack, hpackProgram, arguments }

def StackConfig.toData (c : StackConfig) : Data :=
  .record [("program", .string c.program), ("arguments", c.arguments.toData)]

def StackConfig.ofData? (dialect : Dialect) (d : Data) : Option StackConfig := do
  let f ← Fields.ofData? dialect ["program", "arguments"] d
  let default : StackConfig := {}
  let program ← f.withDefault "program" default.program Data.string?
  let arguments ← f.withDefault "arguments" default.arguments (ToolArguments.ofData? dialect)
  some { program, arguments }

def ManifestConfig.toData (c : ManifestConfig) : Data :=
  .record [("command", .strings c.command)]

def ManifestConfig.ofData? (dialect : Dialect) (d : Data) : Option ManifestConfig := do
  let f ← Fields.ofData? dialect ["command"] d
  let default : ManifestConfig := {}
  let command ← f.withDefault "command" default.command Data.strings?
  some { command }

def BuildConfig.toData (c : BuildConfig) : Data :=
  .record [("builder", .ofOption Builder.toData c.builder), ("cabal", c.cabal.toData),
    ("stack", c.stack.toData), ("manifest", c.manifest.toData)]

def BuildConfig.ofData? (dialect : Dialect) (d : Data) : Option BuildConfig := do
  let f ← Fields.ofData? dialect ["builder", "cabal", "stack", "manifest"] d
  let default : BuildConfig := {}
  let builder ← f.withDefault "builder" default.builder (Data.nullable? (Builder.ofData? dialect))
  let cabal ← f.withDefault "cabal" default.cabal (CabalConfig.ofData? dialect)
  let stack ← f.withDefault "stack" default.stack (StackConfig.ofData? dialect)
  let manifest ← f.withDefault "manifest" default.manifest (ManifestConfig.ofData? dialect)
  some { builder, cabal, stack, manifest }

end Buildwatch
